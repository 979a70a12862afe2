import QueryAdvisor.Number.Double
import QueryAdvisor.Text

/-!
# JSON values

Integers are kept apart from floating-point numbers: a number written without fraction and exponent is
an integer of any size. The members of an object stand in the order of their first appearance, and a
name appears once.
-/

namespace QueryAdvisor

/-- A JSON value. -/
inductive Json where
  | null
  | bool (b : Bool)
  | int (n : Int)
  | float (x : Double)
  | str (t : Text)
  | arr (items : List Json)
  | obj (members : List (Text × Json))
  deriving BEq, Repr

/-- The members of an object. -/
abbrev Members := List (Text × Json)

namespace Members

/-- The value of the member of that name. -/
def get? (name : Text) (members : Members) : Option Json := members.lookup name

/-- Give the member of that name a value, at its place if there is one and else at the end. -/
def set (name : Text) (value : Json) : Members → Members
  | [] => [(name, value)]
  | (n, v) :: rest => if n = name then (name, value) :: rest else (n, v) :: set name value rest

/-- The object that results from writing the pairs one after the other: the last value of a name
counts. -/
def ofPairs (pairs : List (Text × Json)) : Members :=
  pairs.foldl (fun members pair => members.set pair.1 pair.2) []

theorem get?_nil (name : Text) : get? name [] = none := rfl

theorem get?_cons (name n : Text) (v : Json) (rest : Members) :
    get? name ((n, v) :: rest) = if n = name then some v else get? name rest := by
  by_cases h : n = name
  · simp [get?, h]
  · have : (name == n) = false := by simpa using Ne.symm h
    simp [get?, List.lookup_cons, h, this]

theorem get?_set (name : Text) (value : Json) (members : Members) (other : Text) :
    get? other (members.set name value) = if name = other then some value else get? other members := by
  induction members with
  | nil => simp [set, get?_cons, get?_nil]
  | cons member rest ih =>
    obtain ⟨n, v⟩ := member
    by_cases h : n = name
    · subst h
      rw [set, if_pos rfl, get?_cons, get?_cons]
      by_cases ho : n = other <;> simp [ho]
    · rw [set, if_neg h, get?_cons, get?_cons, ih]
      by_cases ho : n = other
      · subst ho
        simp [Ne.symm h]
      · simp [ho]

end Members

namespace Json

/-- An object from names and values. -/
def object (pairs : List (String × Json)) : Json := .obj (pairs.map fun p => (p.1, p.2))

/-- A string from a literal. -/
def text (s : String) : Json := .str s

/-- The value, unless it is null. -/
def given? : Json → Option Json
  | .null => none
  | v => some v

/-- The value of a member, a null one counting as absent. -/
def field? (name : Text) (members : Members) : Option Json := (members.get? name).bind given?

/-- A text or null. -/
def ofText? : Option Text → Json
  | none => .null
  | some t => .str t

/-- Null, false, a zero, and whatever is empty count as nothing. -/
def isNothing : Json → Bool
  | .null => true
  | .bool b => !b
  | .int n => n == 0
  | .float x => x.isZero
  | .str t => t.isEmpty
  | .arr items => items.isEmpty
  | .obj members => members.isEmpty

end Json

end QueryAdvisor
