import QueryAdvisor.Json

/-!
# Quantities

A number that someone configured, kept as it was given: whole or real.
-/

namespace QueryAdvisor

inductive Quantity where
  | whole (n : Int)
  | real (x : Double)
  deriving DecidableEq, Repr

namespace Quantity

def isZero : Quantity → Bool
  | .whole n => n == 0
  | .real x => x.isZero

def toJson : Quantity → Json
  | .whole n => .int n
  | .real x => .float x

end Quantity

end QueryAdvisor
