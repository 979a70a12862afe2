import QueryAdvisor.Number.Double
import QueryAdvisor.Text.Blank

/-!
# Doubles in decimal

A double has finitely many decimal digits, mostly far too many. A `DecimalForm` says how many are wanted: so
many places behind the point, so many digits in all, or the fewest that read back as the same double.
Rounding goes to the nearest, halfway to the even digit. The digits are then laid out around a point, or
around a point and a power of ten.
-/

namespace QueryAdvisor

/-- How a double is written. -/
inductive DecimalForm where
  /-- With the fewest digits that read back as the double. -/
  | shortest
  /-- With so many places behind the point. -/
  | fixed (places : Nat)
  /-- With one digit before the point, so many behind it, and a power of ten. -/
  | scientific (places : Nat)
  /-- With so many digits, and a power of ten only where the number is very large or very small. -/
  | general (digits : Nat)
  deriving DecidableEq, Repr

/-- Digits without zeros at their end, and where the point stands: behind so many of them, or that many
zeros before them. No digits are zero. -/
structure DecimalDigits where
  digits : Text
  point : Int
  deriving DecidableEq, Repr

namespace DecimalDigits

open CodePoint (zero)

/-- The digits of `n * 10 ^ scale`. -/
def ofNat (n : Nat) (scale : Int) : DecimalDigits :=
  if n = 0 then ⟨[], 1⟩
  else ⟨Text.dropEnd (· = zero) (Text.ofNat n), (Text.ofNat n).length + scale⟩

/-- The digit at a place, counted from the first digit; zero where there is none. -/
def digitAt (d : DecimalDigits) (place : Int) : CodePoint :=
  if place < 0 then zero else d.digits.getD place.toNat zero

/-- The digits before the point, at least one. -/
def whole (d : DecimalDigits) : Text :=
  if d.point ≤ 0 then [zero] else (List.range d.point.toNat).map fun (i : Nat) => d.digitAt i

/-- The digits behind the point and before a place. -/
def fraction (d : DecimalDigits) (stop : Int) : Text :=
  (List.range (stop - d.point).toNat).map fun (i : Nat) => d.digitAt (d.point + i)

/-- The digits before a place with the point among them; a point at the end only where it is kept. -/
def positional (d : DecimalDigits) (stop : Int) (keepPoint : Bool) : Text :=
  let fraction := d.fraction stop
  d.whole ++ if fraction.isEmpty && !keepPoint then [] else CodePoint.point :: fraction

end DecimalDigits

namespace Double

/-- How many zeros follow the point before the first other digit of `num / den`; `fuel` of them at
most. -/
def zerosBehindPoint : Nat → Nat → Nat → Nat
  | 0, _, _ => 0
  | fuel + 1, num, den =>
    if den ≤ num * 10 then 0 else zerosBehindPoint fuel (num * 10) den + 1

/-- Where the point of a positive number of units stands, counted from its first digit. -/
def pointOf (units : Nat) : Int :=
  let den := Nat.pow 2 1074
  if den ≤ units then (Text.ofNat (units / den)).length else -zerosBehindPoint 400 units den

/-- The ratio that a number of units has to `10 ^ scale`. -/
def ratioTo (units : Nat) (scale : Int) : Nat × Nat :=
  (units * Nat.pow 10 (-scale).toNat, Nat.pow 2 1074 * Nat.pow 10 scale.toNat)

/-- The whole number of steps of `10 ^ scale` nearest to some units. -/
def roundTo (units : Nat) (scale : Int) : Nat :=
  roundRatio (ratioTo units scale).1 (ratioTo units scale).2

/-- So many digits of some units. -/
def significant (units digits : Nat) : DecimalDigits :=
  if units = 0 then ⟨[], 1⟩
  else .ofNat (roundTo units (pointOf units - digits)) (pointOf units - digits)

/-- Of the two numbers of so many digits around some units, the nearer one that reads back as the same
double. -/
def readingBack? (units digits : Nat) : Option DecimalDigits :=
  let scale := pointOf units - digits
  let low := (ratioTo units scale).1 / (ratioTo units scale).2
  let near := roundTo units scale
  let far := if near = low then low + 1 else low
  ([near, far].find? fun n => ofDecimal false n scale = .finite false units).map (.ofNat · scale)

/-- The fewest digits that read back as the same double; seventeen always do. -/
def shortest (units : Nat) : DecimalDigits :=
  ((List.range' 1 17).findSome? (readingBack? units)).getD ⟨[], 1⟩

/-- The digits that a form asks for. -/
def digitsIn (form : DecimalForm) (units : Nat) : DecimalDigits :=
  match form with
  | .shortest => shortest units
  | .fixed places => .ofNat (roundTo units (-places)) (-places)
  | .scientific places => significant units (places + 1)
  | .general digits => significant units digits

/-- A power of ten: its sign and at least two digits. -/
def powerOfTen (e : Int) : Text :=
  let digits := Text.ofNat e.natAbs
  let sign : CodePoint := if e < 0 then '-' else '+'
  'e' :: sign :: if digits.length < 2 then CodePoint.zero :: digits else digits

/-- Some units written in a form. `oneDecimal` asks for a digit behind the point where there is no power
of ten, `keepPoint` for all digits of the form and for a point even at the end. -/
def writeUnits (form : DecimalForm) (oneDecimal keepPoint : Bool) (units : Nat) : Text :=
  let d := digitsIn form units
  let least : Int := if oneDecimal then 1 else 0
  let withPower : Bool :=
    match form with
    | .shortest => d.point ≤ -4 || 16 < d.point
    | .fixed _ => false
    | .scientific _ => true
    | .general digits => d.point ≤ -4 || digits - least < d.point
  let stop : Int :=
    match form with
    | .shortest => d.digits.length
    | .fixed places => d.point + places
    | .scientific places => places + 1
    | .general digits => if keepPoint then digits else d.digits.length
  if withPower then
    DecimalDigits.positional { d with point := 1 } (max stop 1) keepPoint ++ powerOfTen (d.point - 1)
  else d.positional (max stop (d.point + least)) keepPoint

/-- The double is below zero, or the zero below zero. -/
def isNegative : Double → Bool
  | .nan => false
  | .infinity negative => negative
  | .finite negative _ => negative

/-- The double without its sign, written in a form. -/
def write (form : DecimalForm) (oneDecimal keepPoint : Bool) : Double → Text
  | .nan => "nan"
  | .infinity _ => "inf"
  | .finite _ units => writeUnits form oneDecimal keepPoint units

/-- All digits of the double in a form are zeros. -/
def isZeroIn (form : DecimalForm) : Double → Bool
  | .finite _ units => (digitsIn form units).digits.isEmpty
  | _ => false

/-- The double as text, with the fewest digits. -/
def toText (x : Double) : Text :=
  let t := write .shortest true false x
  if x.isNegative then '-' :: t else t

example : toText (.ofDecimal true 1 (-1)) = ("-0.1" : Text) := by decide +kernel
example : toText (.ofDecimal false 1 22) = ("1e+22" : Text) := by decide +kernel
example : write (.fixed 2) false false (.ofDecimal false 2675 (-3)) = ("2.67" : Text) := by
  decide +kernel

end Double

end QueryAdvisor
