import QueryAdvisor.Number.Digits
import QueryAdvisor.Number.Double
import QueryAdvisor.Text.Blank

/-!
# Lenient numbers

Numbers as people write them in configuration, in query strings and in plans. White space around a
number is ignored, and single underscores may stand between its characters. A real number may be given
in any decimal notation or by name; a whole number may have a plus sign, leading zeros and a fraction of
zeros.
-/

namespace QueryAdvisor.Number

open CodePoint (isWhiteSpace isDigit underscore point zero)
open Text (leadingDigits afterDigits digitsValue)

/-- The text without the white space around it. -/
def strip (t : Text) : Text := Text.dropEnd isWhiteSpace (t.dropWhile isWhiteSpace)

/-- Two underscores stand next to each other. -/
def hasDoubleUnderscore : Text → Bool
  | a :: b :: rest => (a = underscore && b = underscore) || hasDoubleUnderscore (b :: rest)
  | _ => false

/-- The text without its underscores, if it has some and all of them are single and inside. -/
def withoutUnderscores? (t : Text) : Option Text :=
  if t.head? = some underscore || t.getLast? = some underscore || !t.contains underscore ||
      hasDoubleUnderscore t then
    none
  else some (t.filter (· ≠ underscore))

/-! ### Real numbers -/

/-- A sign and what follows it. -/
def sign (t : Text) : Bool × Text :=
  match t with
  | [] => (false, [])
  | c :: rest => if c = '-' then (true, rest) else if c = '+' then (false, rest) else (false, t)

/-- The exponent behind a decimal, zero where there is none; nothing else may follow. -/
def exponent? : Text → Option Int
  | [] => some 0
  | c :: rest =>
    let (negative, digits) := sign rest
    if (c = 'e' || c = 'E') && !digits.isEmpty && digits.all isDigit then
      some (Double.signed negative (digitsValue digits))
    else none

/-- The digits behind a point, and what follows them. -/
def decimals (t : Text) : Text × Text :=
  if t.head? = some point then (leadingDigits t.tail, afterDigits t.tail) else ([], t)

/-- The number that a decimal without a sign writes. -/
def unsignedReal? (negative : Bool) (t : Text) : Option Double :=
  let whole := leadingDigits t
  let (fraction, rest) := decimals (afterDigits t)
  if whole.isEmpty && fraction.isEmpty then none
  else (exponent? rest).map fun e =>
    Double.ofDecimal negative (digitsValue (whole ++ fraction)) (e - fraction.length)

/-- The names of the values that have no digits, in small letters. -/
def realNames (negative : Bool) : List (Text × Double) :=
  [("inf", .infinity negative), ("infinity", .infinity negative), ("nan", .nan)]

/-- The number that a text without white space and underscores writes. -/
def plainReal? (t : Text) : Option Double :=
  let (negative, rest) := sign t
  (realNames negative).lookup (rest.map CodePoint.asciiLower) <|> unsignedReal? negative rest

/-- The real number that a text writes. -/
def real? (t : Text) : Option Double :=
  plainReal? (strip t) <|> (withoutUnderscores? t).bind plainReal?

/-! ### Whole numbers -/

/-- Why a text is no whole number. -/
inductive WholeFault where
  | malformed
  /-- More than 4300 digits and sign. -/
  | tooLong
  deriving DecidableEq, Repr

/-- The greatest number of code points that a whole number may take, its sign among them. -/
def maxLength : Nat := 4300

/-- A whole number in its plainest form: perhaps a minus sign, then a zero alone or digits that do not
begin with zero. Digits that run on for too long are reported as such, whatever follows them. -/
def plainWhole (t : Text) : Except WholeFault Int :=
  let negative := t.head? = some '-'
  let unsigned := if negative then t.tail else t
  let digits := leadingDigits unsigned
  let rest := afterDigits unsigned
  if digits.isEmpty then .error .malformed
  else if digits.head? = some zero then
    if digits.length = 1 && rest.isEmpty then .ok 0 else .error .malformed
  else if maxLength < t.length - rest.length then .error .tooLong
  else if rest.isEmpty then .ok (Double.signed negative (digitsValue digits))
  else .error .malformed

/-- A sign, and what follows it; none if that is another sign. -/
def signOf? (t : Text) : Option (Bool × Text) :=
  match t with
  | [] => some (false, [])
  | c :: rest =>
    if c = '+' || c = '-' then
      if rest.head? = some '+' || rest.head? = some '-' then none else some (c = '-', rest)
    else some (false, t)

/-- The text behind leading zeros and underscores. The last of them is kept where the number would have no
digit left before its point or its end. A minus sign may stand behind them. -/
def dropZeros? (previous : CodePoint) : Text → Option Text
  | [] => some [previous]
  | c :: rest =>
    if c = zero || c = underscore then dropZeros? c rest
    else if isDigit c || c = '-' then some (c :: rest)
    else if c = point then some (previous :: c :: rest)
    else none

/-- The text without leading zeros; none if it does not start with a digit. -/
def withoutZeros? : Text → Option Text
  | [] => none
  | c :: rest =>
    if c = zero then dropZeros? c rest
    else if isDigit c then some (c :: rest)
    else none

/-- The text without a point and the zeros behind it, if nothing else stands there. -/
def withoutFraction (t : Text) : Text :=
  match t.dropWhile (· ≠ point) with
  | _ :: d :: zeros => if (d :: zeros).all (· = zero) then t.takeWhile (· ≠ point) else t
  | _ => t

/-- The text in plain form. -/
def plainForm? (t : Text) : Option Text := do
  let (negative, t) ← signOf? (strip t)
  let t ← withoutZeros? t
  let t := withoutFraction t
  let t := (withoutUnderscores? t).getD t
  return if negative then '-' :: t else t

/-- The whole number that a text writes. Only a number that is plain as it stands is called too long. -/
def whole (t : Text) : Except WholeFault Int :=
  match plainWhole t with
  | .ok n => .ok n
  | .error .tooLong => .error .tooLong
  | .error .malformed =>
    match (plainForm? t).map plainWhole with
    | some (.ok n) => .ok n
    | _ => .error .malformed

example : (whole " +1_000.00 ").toOption = some 1000 := by decide +kernel
example : (whole "-01").toOption = some (-1) := by decide +kernel
example : (whole "0-9").toOption = some (-9) := by decide +kernel
example : (whole "5.").toOption = none := by decide +kernel
example : (whole "0_0").toOption = some 0 := by decide +kernel
example : (whole "").toOption = none := by decide +kernel
example : real? " -.5e1 " = some (.ofDecimal true 5 0) := by decide +kernel
example : real? "1__0" = none := by decide +kernel

end QueryAdvisor.Number
