import QueryAdvisor.Plan.Node

/-!
# Costs

The cost of a node is its total cost where it states one; otherwise its startup cost plus the costs of
its children, from left to right. Costs are whatever values the plan holds, and each kind is added in
its own way: integers exactly, with a truth value counting 0 or 1; a floating-point number with a number
as floating-point numbers; text and lists by appending.
-/

namespace QueryAdvisor

namespace Json

/-- Why two values have no sum. -/
inductive SumFault where
  /-- The kinds do not go together. -/
  | mixedKinds
  /-- An integer is too large to be taken as a floating-point number. -/
  | tooLarge
  deriving DecidableEq, Repr

/-- A value that can be counted with, as an integer. -/
def integer? : Json → Option Int
  | .bool b => some (if b then 1 else 0)
  | .int n => some n
  | _ => none

/-- The sum of a floating-point number and an integer. -/
def addInteger (x : Double) (n : Int) : Except SumFault Json :=
  (Double.ofInt? n).elim (.error .tooLarge) fun y => .ok (.float (x + y))

/-- A list with the parts of the value appended, if it has parts: the items of a list, the code points
of a string, the names of an object. -/
def append (items : List Json) : Json → Except SumFault Json
  | .arr more => .ok (.arr (items ++ more))
  | .str t => .ok (.arr (items ++ t.map fun c => .str [c]))
  | .obj members => .ok (.arr (items ++ members.map fun m => .str m.1))
  | _ => .error .mixedKinds

/-- The sum of two values. -/
def add (a b : Json) : Except SumFault Json :=
  match a, b with
  | .float x, .float y => .ok (.float (x + y))
  | .str s, .str t => .ok (.str (s ++ t))
  | .arr items, b => append items b
  | .float x, b =>
    match b.integer? with
    | none => .error .mixedKinds
    | some n => addInteger x n
  | a, .float y =>
    match a.integer? with
    | none => .error .mixedKinds
    | some n => addInteger y n
  | a, b =>
    match a.integer?, b.integer? with
    | some m, some n => .ok (.int (m + n))
    | _, _ => .error .mixedKinds

theorem add_int (m n : Int) : add (.int m) (.int n) = .ok (.int (m + n)) := rfl

end Json

namespace PlanNode

open Json (SumFault)

/-- The startup cost to begin a sum with: zero where there is none to speak of. -/
def firstTerm (startup : Option Json) : Json :=
  match startup with
  | none => .int 0
  | some v => if v.isNothing then .int 0 else v

mutual

/-- The cost of a node. -/
def cost : PlanNode → Except SumFault Json
  | ⟨_, some total, _⟩ => .ok total
  | ⟨startup, none, children⟩ => addCosts (firstTerm startup) children
termination_by structural node => node

/-- A sum with the costs of some nodes added, one after the other. -/
def addCosts (sum : Json) : List PlanNode → Except SumFault Json
  | [] => .ok sum
  | node :: rest =>
    match cost node with
    | .error fault => .error fault
    | .ok term =>
      match sum.add term with
      | .error fault => .error fault
      | .ok sum => addCosts sum rest
termination_by structural nodes => nodes

end

end PlanNode

end QueryAdvisor
