import QueryAdvisor.Json
import QueryAdvisor.Number.Digits

/-!
# Reading JSON

The grammar is the usual one with three literals more, `NaN`, `Infinity` and `-Infinity`. White space
is space, tab, line feed and carriage return; a byte order mark is not. Two escapes of a surrogate pair
make one code point, half a pair stays as it is. A number without fraction and exponent is an integer,
of at most 4300 digits.

The reader goes from left to right and stops at the first fault, so of two faults it reports the one
further left. Each function returns the text behind what it has read; `fuel` bounds the calls and
runs out on no text, since two units per code point are given.

Arrays and objects are read within one another up to a depth, and the bracket or brace that goes beyond it
is a fault before what follows it is looked at. It is a fault of another kind than the others: whoever has a
text read takes those for the answer that the text is no value, but is not prepared for this one, which
therefore ends the caller's work as well (`caught`).
-/

namespace QueryAdvisor.Json

open CodePoint (doubleQuote backslash openBrace closeBrace backspace tab lineFeed formFeed
  carriageReturn)
open Text (leadingDigits afterDigits digitsValue)

/-- Why a text or a run of bytes is no JSON value. -/
inductive Fault where
  /-- Not in the grammar. -/
  | malformed
  /-- An integer of more than 4300 digits. -/
  | hugeInteger
  /-- Bytes that are no text in the encoding their start announces. -/
  | undecodable
  /-- More arrays and objects within one another than the reader goes down. -/
  | tooDeep
  deriving DecidableEq, Repr

/-! ### White space and literals -/

def isSpace (c : CodePoint) : Bool :=
  c.val == 0x20 || c.val == 0x09 || c.val == 0x0A || c.val == 0x0D

/-- The text behind its leading white space. -/
def skip (t : Text) : Text := t.dropWhile isSpace

/-- The words that are values. -/
def literals : List (Text × Json) :=
  [("null", .null), ("true", .bool true), ("false", .bool false), ("NaN", .float .nan),
    ("Infinity", .float (.infinity false)), ("-Infinity", .float (.infinity true))]

/-- The literal at the start of a text. -/
def literal? (t : Text) : Option (Json × Text) :=
  literals.findSome? fun (word, value) =>
    if word.isPrefixOf t then some (value, t.drop word.length) else none

/-! ### Numbers -/

/-- The digits behind a point, if there are any. -/
def fraction (t : Text) : Text × Text :=
  match t with
  | [] => ([], t)
  | c :: rest =>
    if c = '.' then
      (leadingDigits rest, if (leadingDigits rest).isEmpty then t else afterDigits rest)
    else ([], t)

/-- A sign and what follows it. -/
def sign (t : Text) : Bool × Text :=
  match t with
  | [] => (false, t)
  | c :: rest => if c = '-' then (true, rest) else if c = '+' then (false, rest) else (false, t)

/-- The exponent, if an `e` with digits behind it is next. -/
def exponent? (t : Text) : Option Int × Text :=
  match t with
  | [] => (none, t)
  | c :: rest =>
    if c = 'e' || c = 'E' then
      let (negative, rest) := sign rest
      if (leadingDigits rest).isEmpty then (none, t)
      else (some (Double.signed negative (digitsValue (leadingDigits rest))), afterDigits rest)
    else (none, t)

/-- The digits before the point: a zero alone, or a run that does not begin with zero. -/
def whole (t : Text) : Text × Text :=
  match t with
  | [] => ([], [])
  | c :: rest => if c = '0' then ([c], rest) else (leadingDigits t, afterDigits t)

/-- The greatest number of digits an integer may have. -/
def maxDigits : Nat := 4300

/-- The number at the start of a text. -/
def readNumber (t : Text) : Except Fault (Json × Text) :=
  let negative := t.head? = some '-'
  let (digits, rest) := whole (if negative then t.tail else t)
  if digits.isEmpty then .error .malformed
  else
    let (decimals, rest) := fraction rest
    let (exponent, rest) := exponent? rest
    if decimals.isEmpty && exponent.isNone then
      if maxDigits < digits.length then .error .hugeInteger
      else .ok (.int (Double.signed negative (digitsValue digits)), rest)
    else
      .ok (.float (.ofDecimal negative (digitsValue (digits ++ decimals))
        (exponent.getD 0 - decimals.length)), rest)

/-! ### Strings -/

/-- The code point that four hexadecimal digits name. -/
def hexPoint? (a b c d : CodePoint) : Option CodePoint := do
  let a ← a.hexValue?
  let b ← b.hexValue?
  let c ← c.hexValue?
  let d ← d.hexValue?
  return .ofNat (((a * 16 + b) * 16 + c) * 16 + d)

/-- The short escapes, by the letter behind the backslash. -/
def escapes : List (CodePoint × CodePoint) :=
  [(doubleQuote, doubleQuote), (backslash, backslash), ('/', '/'), ('b', backspace), ('f', formFeed),
    ('n', lineFeed), ('r', carriageReturn), ('t', tab)]

/-- An escaped high surrogate that found no partner joins what has been read. -/
def settle (read : Text) (high : Option CodePoint) : Text :=
  match high with
  | none => read
  | some h => h :: read

/-- The rest of a string up to its closing quote. `read` is what has been read, last code point
first; `high` is an escaped high surrogate that waits for the next escape. -/
def readString (read : Text) (high : Option CodePoint) : Text → Except Fault (Text × Text)
  | [] => .error .malformed
  | c :: rest =>
    if c = doubleQuote then .ok ((settle read high).reverse, rest)
    else if c ≠ backslash then
      if c.val < 0x20 then .error .malformed else readString (c :: settle read high) none rest
    else match rest with
      | [] => .error .malformed
      | e :: rest =>
        if e ≠ 'u' then
          match escapes.lookup e with
          | none => .error .malformed
          | some c => readString (c :: settle read high) none rest
        else match rest with
          | a :: b :: c :: d :: rest =>
            match hexPoint? a b c d, high with
            | none, _ => .error .malformed
            | some c, none =>
              if c.isHighSurrogate then readString read (some c) rest
              else readString (c :: read) none rest
            | some c, some h =>
              if c.isLowSurrogate then readString (h.joinSurrogates c :: read) none rest
              else if c.isHighSurrogate then readString (h :: read) (some c) rest
              else readString (c :: h :: read) none rest
          | _ => .error .malformed

/-! ### Values -/

/-- How many arrays and objects may be open at once. The reader goes down by calls, and the limit is one on
calls under way: those of whoever calls the reader have a share in it, a few dozen, which is not counted
here. -/
def maxDepth : Nat := 1000

mutual

/-- The value at the start of a text. `depth` is how many arrays and objects may still be opened in one
another. -/
def readValue : Nat → Nat → Text → Except Fault (Json × Text)
  | 0, _, _ => .error .malformed
  | _, _, [] => .error .malformed
  | fuel + 1, depth, c :: rest =>
    if c = doubleQuote then
      (readString [] none rest).map fun (t, rest) => (.str t, rest)
    else if c = '[' then
      if depth = 0 then .error .tooDeep
      else if (skip rest).head? = some ']' then .ok (.arr [], (skip rest).tail)
      else (readItems fuel (depth - 1) (skip rest)).map fun (items, rest) => (.arr items, rest)
    else if c = openBrace then
      if depth = 0 then .error .tooDeep
      else if (skip rest).head? = some closeBrace then .ok (.obj [], (skip rest).tail)
      else
        (readMembers fuel (depth - 1) (skip rest)).map fun (pairs, rest) =>
          (.obj (Members.ofPairs pairs), rest)
    else match literal? (c :: rest) with
      | some result => .ok result
      | none => readNumber (c :: rest)

/-- The items of an array that is not empty, up to its closing bracket. -/
def readItems : Nat → Nat → Text → Except Fault (List Json × Text)
  | 0, _, _ => .error .malformed
  | fuel + 1, depth, t =>
    match readValue fuel depth t with
    | .error fault => .error fault
    | .ok (value, rest) =>
      match skip rest with
      | [] => .error .malformed
      | c :: rest =>
        if c = ',' then
          (readItems fuel depth (skip rest)).map fun (values, rest) => (value :: values, rest)
        else if c = ']' then .ok ([value], rest)
        else .error .malformed

/-- The members of an object that is not empty, up to its closing brace. -/
def readMembers : Nat → Nat → Text → Except Fault (List (Text × Json) × Text)
  | 0, _, _ => .error .malformed
  | _, _, [] => .error .malformed
  | fuel + 1, depth, c :: rest =>
    if c ≠ doubleQuote then .error .malformed
    else match readString [] none rest with
      | .error fault => .error fault
      | .ok (name, rest) =>
        if (skip rest).head? ≠ some ':' then .error .malformed
        else match readValue fuel depth (skip (skip rest).tail) with
          | .error fault => .error fault
          | .ok (value, rest) =>
            match skip rest with
            | [] => .error .malformed
            | c :: rest =>
              if c = ',' then
                (readMembers fuel depth (skip rest)).map fun (pairs, rest) =>
                  ((name, value) :: pairs, rest)
              else if c = closeBrace then .ok ([(name, value)], rest)
              else .error .malformed

end

/-- The value that a text writes, with nothing but white space around it. -/
def ofText (t : Text) : Except Fault Json :=
  match readValue (2 * t.length + 2) maxDepth (skip t) with
  | .error fault => .error fault
  | .ok (value, rest) => if (skip rest).isEmpty then .ok value else .error .malformed

/-! ### What becomes of a fault -/

/-- A fault that nobody is prepared for who has a text read. -/
inductive Escape where
  | tooDeep
  deriving DecidableEq, Repr

/-- A reading as it is taken by whoever only asks for a value: a fault means that there is none, unless it
is one that nobody is prepared for. -/
def caught : Except Fault Json → Except Escape (Option Json)
  | .ok value => .ok (some value)
  | .error .tooDeep => .error .tooDeep
  | .error _ => .ok none

theorem caught_eq_some_iff {reading : Except Fault Json} {value : Json} :
    caught reading = .ok (some value) ↔ reading = .ok value := by
  cases reading with
  | ok other => simp [caught]
  | error fault => cases fault <;> simp [caught]

theorem caught_eq_error_iff {reading : Except Fault Json} :
    caught reading = .error .tooDeep ↔ reading = .error .tooDeep := by
  cases reading with
  | ok value => simp [caught]
  | error fault => cases fault <;> simp [caught]

theorem caught_of_fault {fault : Fault} (h : fault ≠ .tooDeep) : caught (.error fault) = .ok none := by
  cases fault with
  | tooDeep => exact absurd rfl h
  | _ => rfl

end QueryAdvisor.Json
