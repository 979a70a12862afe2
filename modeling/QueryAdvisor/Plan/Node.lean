import QueryAdvisor.Json

/-!
# Plan nodes

A plan is a tree. In its JSON form each node is an object with an optional startup cost, an optional
total cost, and under `Plans` the nodes below it. Costs may be any values at this point; only the shape
is checked, everywhere in the tree, and the first fault in reading order is reported.

A tree is walked by recursion, here where it is read and later where its costs are summed. The depth of the
stack that this takes is left out: a tree of any depth is walked to its end.
-/

namespace QueryAdvisor

/-- A node: startup cost, total cost (both absent if null) and children. -/
inductive PlanNode where
  | mk (startup total : Option Json) (children : List PlanNode)

namespace PlanNode

def startup : PlanNode → Option Json
  | ⟨startup, _, _⟩ => startup

def total : PlanNode → Option Json
  | ⟨_, total, _⟩ => total

def children : PlanNode → List PlanNode
  | ⟨_, _, children⟩ => children

/-- Why a value is no plan. -/
inductive Fault where
  /-- Something that is no object stands where a node should. -/
  | notANode
  /-- The children are a number or true, nothing one could go through. -/
  | notAList
  deriving DecidableEq, Repr

def startupName : Text := "Startup Cost"
def totalName : Text := "Total Cost"
def childrenName : Text := "Plans"

mutual

/-- The tree that a value describes. -/
def ofJson : Json → Except Fault PlanNode
  | .obj members =>
    match ofMembers members with
    | .error fault => .error fault
    | .ok children =>
      .ok ⟨Json.field? startupName members, Json.field? totalName members, children⟩
  | _ => .error .notANode
termination_by structural j => j

/-- The children that the members of an object describe. -/
def ofMembers : List (Text × Json) → Except Fault (List PlanNode)
  | [] => .ok []
  | (name, v) :: rest => if name = childrenName then ofChildren v else ofMembers rest
termination_by structural members => members

/-- The children that a value describes. Whatever counts as nothing has none; the parts of a string and
the names of an object are strings, so those are lists without nodes. -/
def ofChildren : Json → Except Fault (List PlanNode)
  | .arr items => ofItems items
  | .null => .ok []
  | .bool b => if b then .error .notAList else .ok []
  | .int n => if n = 0 then .ok [] else .error .notAList
  | .float x => if x.isZero then .ok [] else .error .notAList
  | .str t => if t.isEmpty then .ok [] else .error .notANode
  | .obj members => if members.isEmpty then .ok [] else .error .notANode
termination_by structural j => j

/-- One node per item, from left to right. -/
def ofItems : List Json → Except Fault (List PlanNode)
  | [] => .ok []
  | item :: rest =>
    match ofJson item with
    | .error fault => .error fault
    | .ok node =>
      match ofItems rest with
      | .error fault => .error fault
      | .ok nodes => .ok (node :: nodes)
termination_by structural items => items

end

/-- The children are those that the member of that name describes. -/
theorem ofMembers_eq (members : Members) :
    ofMembers members = ofChildren ((members.get? childrenName).getD .null) := by
  induction members with
  | nil => rfl
  | cons member rest ih =>
    obtain ⟨name, v⟩ := member
    rw [ofMembers, Members.get?_cons]
    by_cases h : name = childrenName
    · simp [h]
    · simpa [h] using ih

end PlanNode

end QueryAdvisor
