/-!
# Doubles

Floating-point numbers of double precision, each held as the number it is: every finite double is a
whole count of `2 ^ -1074`, the smallest positive one. A sum of two doubles is then a sum of integers,
and the only inexact step anywhere is `ofUnits`, which rounds a ratio of counts to 53 significant bits.
-/

namespace QueryAdvisor

/-- A double. Zero has two signs; all values that are no number are one. -/
inductive Double where
  | nan
  | infinity (negative : Bool)
  | finite (negative : Bool) (units : Nat)
  deriving DecidableEq, Repr

namespace Double

/-! ### Rounding -/

/-- The whole number nearest to `num / den`; halfway, the even one. -/
def roundRatio (num den : Nat) : Nat :=
  let low := num / den
  let twice := 2 * (num % den)
  if twice < den then low
  else if den < twice then low + 1
  else if low % 2 = 0 then low else low + 1

/-- The count nearest to `num / den` among those of at most 53 significant bits. -/
def roundUnits (num den : Nat) : Nat :=
  let step := Nat.pow 2 ((num / den).log2 - 52)
  roundRatio num (den * step) * step

/-- The count that no finite double reaches, `2 ^ 1024` in units. -/
def unitsBound : Nat := Nat.pow 2 (1024 + 1074)

/-- The double nearest to `num / den` units. -/
def ofUnits (negative : Bool) (num den : Nat) : Double :=
  let units := roundUnits num den
  if units < unitsBound then .finite negative units else .infinity negative

/-- The double nearest to `num / den`. -/
def ofRatio (negative : Bool) (num den : Nat) : Double := ofUnits negative (num * Nat.pow 2 1074) den

/-- The double nearest to `digits * 10 ^ exponent`. Exponents far outside the range of a double are
decided without the power. -/
def ofDecimal (negative : Bool) (digits : Nat) (exponent : Int) : Double :=
  if digits = 0 then .finite negative 0
  else if 400 < exponent then .infinity negative
  else if digits.log2 + 1100 < 3 * (-exponent) then .finite negative 0
  else if 0 ≤ exponent then ofRatio negative (digits * Nat.pow 10 exponent.toNat) 1
  else ofRatio negative digits (Nat.pow 10 (-exponent).toNat)

/-- The double nearest to an integer, none if that is beyond the finite ones. -/
def ofInt? (n : Int) : Option Double :=
  match ofRatio (n < 0) n.natAbs 1 with
  | .finite negative units => some (.finite negative units)
  | _ => none

def zero : Double := .finite false 0
def one : Double := .finite false (Nat.pow 2 1074)

/-! ### Tests, sums and multiples -/

def isZero : Double → Bool
  | .finite _ units => units == 0
  | _ => false

def isFinite : Double → Bool
  | .finite _ _ => true
  | _ => false

/-- The count with its sign. -/
def signed (negative : Bool) (units : Nat) : Int := if negative then -units else units

/-- The double nearest to the sum. A sum of zero is negative only if both terms are. -/
def add : Double → Double → Double
  | .nan, _ => .nan
  | _, .nan => .nan
  | .infinity a, .infinity b => if a = b then .infinity a else .nan
  | .infinity a, _ => .infinity a
  | _, .infinity b => .infinity b
  | .finite a x, .finite b y =>
    let sum := signed a x + signed b y
    if sum = 0 then .finite (a && b) 0 else ofUnits (sum < 0) sum.natAbs 1

instance : Add Double := ⟨add⟩

/-- The double nearest to `n` times the double. -/
def times (n : Nat) : Double → Double
  | .finite negative units => ofUnits negative (n * units) 1
  | x => x

/-! ### The interchange format -/

/-- The sign bit above the other 63. -/
def withSign (negative : Bool) (magnitude : Nat) : Nat :=
  if negative then Nat.pow 2 63 + magnitude else magnitude

/-- The 64 bits of a double: sign, exponent and fraction. With `k` the number of bits cut off at the
end of the count, the exponent field and the fraction together are `k * 2 ^ 52` plus what is left. -/
def bits : Double → Nat
  | .nan => 0x7FF8000000000000
  | .infinity negative => withSign negative 0x7FF0000000000000
  | .finite negative units =>
    let k := units.log2 - 52
    withSign negative (k * Nat.pow 2 52 + units / Nat.pow 2 k)

example : (ofDecimal false 1 (-1)).bits = 0x3FB999999999999A := by decide +kernel
example : (ofDecimal false 9007199254740993 0).bits = 0x4340000000000000 := by decide +kernel
example : (ofDecimal false 5 (-324)).bits = 1 := by decide +kernel
example : ofDecimal false 17976931348623159 292 = .infinity false := by decide +kernel
example : (ofDecimal true 0 0).bits = 0x8000000000000000 := by decide +kernel

end Double

end QueryAdvisor
