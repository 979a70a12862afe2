import QueryAdvisor.Number.Quantity
import QueryAdvisor.Plan.Execution

/-!
# What a plan costs

The cost of a tree is added up from whatever values stand in it, and afterwards has to give a number. Only
values of two kinds can: quantities, and texts that write a number. Values of one kind add up to a value of
that kind, and never to one of the other:

    quantities   whole + whole ──▶ whole         one of them real ──▶ real, if both fit a double
    texts        text + text ────▶ one text behind the other

So what happens to a tree of values is what happens in one of the kinds alone, and in the other the tree
has no sum.
-/

namespace QueryAdvisor

theorem Double.add_comm (x y : Double) : x + y = y + x := by
  change add x y = add y x
  cases x with
  | nan => cases y <;> rfl
  | infinity a =>
    cases y with
    | infinity b => cases a <;> cases b <;> rfl
    | _ => rfl
  | finite a m =>
    cases y with
    | finite b n => simp only [add, Int.add_comm (signed a m), Bool.and_comm a]
    | _ => rfl

namespace Quantity

/-- The quantity as a double; none for an integer beyond them. -/
def real? : Quantity → Option Double
  | .whole n => Double.ofInt? n
  | .real x => some x

/-- Whole quantities add up exactly, all others as doubles. -/
def plus? : Quantity → Quantity → Option Quantity
  | .whole m, .whole n => some (.whole (m + n))
  | a, b => a.real?.bind fun x => b.real?.map fun y => .real (x + y)

end Quantity

namespace Json

/-- The quantity that a value is. -/
def quantity? : Json → Option Quantity
  | .float x => some (.real x)
  | v => v.integer?.map .whole

/-- The text that a value is. -/
def text? : Json → Option Text
  | .str t => some t
  | _ => none

/-! ### Sums of two values -/

theorem quantity?_toJson (q : Quantity) : q.toJson.quantity? = some q := by
  cases q <;> rfl

/-- A value is added like the quantity that it is: a truth value like an integer. -/
theorem add_eq_add_toJson {v : Json} {a : Quantity} (h : v.quantity? = some a) :
    (∀ w, v.add w = a.toJson.add w) ∧ ∀ w : Json, w.add v = w.add a.toJson := by
  cases v with
  | float x => cases h; exact ⟨fun _ => rfl, fun _ => rfl⟩
  | int n => cases h; exact ⟨fun _ => rfl, fun _ => rfl⟩
  | bool b =>
    cases h
    constructor
    · intro w
      cases w <;> rfl
    · intro w
      cases w <;> rfl
  | _ => cases h

theorem toJson_add_toJson (a b : Quantity) :
    a.toJson.add b.toJson = (a.plus? b).elim (.error .tooLarge) fun c => .ok c.toJson := by
  cases a with
  | whole m =>
    cases b with
    | whole n => rfl
    | real y =>
      have hadd : (Json.int m).add (.float y) = addInteger y m := rfl
      simp only [Quantity.toJson, hadd, addInteger, Quantity.plus?, Quantity.real?]
      generalize Double.ofInt? m = x
      cases x with
      | none => rfl
      | some x => simp [Double.add_comm x y]
  | real x =>
    cases b with
    | whole n =>
      have hadd : (Json.float x).add (.int n) = addInteger x n := rfl
      simp only [Quantity.toJson, hadd, addInteger, Quantity.plus?, Quantity.real?]
      generalize Double.ofInt? n = y
      cases y <;> rfl
    | real y => rfl

theorem add_of_quantities {v w : Json} {a b : Quantity} (hv : v.quantity? = some a)
    (hw : w.quantity? = some b) :
    v.add w = (a.plus? b).elim (.error .tooLarge) fun c => .ok c.toJson := by
  rw [(add_eq_add_toJson hv).1, (add_eq_add_toJson hw).2, toJson_add_toJson]

/-- All the ways in which two values have a sum. -/
inductive Adds (v w : Json) : Json → Prop where
  | quantities {a b c : Quantity} (left : v.quantity? = some a) (right : w.quantity? = some b)
    (sum : a.plus? b = some c) : Adds v w c.toJson
  | texts {s t : Text} (left : v = .str s) (right : w = .str t) : Adds v w (.str (s ++ t))
  | lists {items more : List Json} (left : v = .arr items) : Adds v w (.arr (items ++ more))

theorem adds_of_quantities {v w sum : Json} {a b : Quantity} (hv : v.quantity? = some a)
    (hw : w.quantity? = some b) (h : v.add w = .ok sum) : Adds v w sum := by
  rw [add_of_quantities hv hw] at h
  cases hsum : a.plus? b with
  | none =>
    rw [hsum] at h
    cases h
  | some c =>
    rw [hsum] at h
    obtain rfl := Except.ok.inj h
    exact .quantities hv hw hsum

theorem adds_append {items : List Json} {w sum : Json} (h : append items w = .ok sum) :
    Adds (.arr items) w sum := by
  cases w with
  | arr more => cases h; exact .lists rfl
  | str t => cases h; exact .lists rfl
  | obj members => cases h; exact .lists rfl
  | _ => cases h

theorem adds_add {v w sum : Json} (h : v.add w = .ok sum) : Adds v w sum := by
  cases v with
  | null => cases w <;> cases h
  | obj members => cases w <;> cases h
  | arr items => exact adds_append h
  | str s =>
    cases w with
    | str t => cases h; exact .texts rfl rfl
    | _ => cases h
  | bool b =>
    cases w with
    | bool _ | int _ | float _ => exact adds_of_quantities rfl rfl h
    | _ => cases h
  | int n =>
    cases w with
    | bool _ | int _ | float _ => exact adds_of_quantities rfl rfl h
    | _ => cases h
  | float x =>
    cases w with
    | bool _ | int _ | float _ => exact adds_of_quantities rfl rfl h
    | _ => cases h

/-! ### Kinds of values -/

/-- Values of one kind: how to read one, and how two of them add up. -/
structure Kind (α : Type) where
  read : Json → Option α
  plus : α → α → Option α
  /-- A sum is of the kind if and only if both terms are, and then it is their sum in the kind. -/
  add_iff : ∀ {v w : Json} {c : α}, (∃ sum, v.add w = .ok sum ∧ read sum = some c) ↔
    ∃ a b, read v = some a ∧ read w = some b ∧ plus a b = some c

theorem add_quantity_iff {v w : Json} {c : Quantity} :
    (∃ sum, v.add w = .ok sum ∧ sum.quantity? = some c) ↔
      ∃ a b, v.quantity? = some a ∧ w.quantity? = some b ∧ a.plus? b = some c := by
  constructor
  · rintro ⟨sum, hsum, hread⟩
    cases adds_add hsum with
    | quantities left right sum =>
      rw [quantity?_toJson] at hread
      exact ⟨_, _, left, right, hread ▸ sum⟩
    | texts _ _ => cases hread
    | lists _ => cases hread
  · rintro ⟨a, b, hv, hw, hsum⟩
    refine ⟨c.toJson, ?_, quantity?_toJson c⟩
    rw [add_of_quantities hv hw, hsum]
    rfl

theorem add_text_iff {v w : Json} {c : Text} :
    (∃ sum, v.add w = .ok sum ∧ sum.text? = some c) ↔
      ∃ a b, v.text? = some a ∧ w.text? = some b ∧ some (a ++ b) = some c := by
  constructor
  · rintro ⟨sum, hsum, hread⟩
    cases adds_add hsum with
    | @quantities _ _ q _ _ _ => cases q <;> cases hread
    | texts left right => exact ⟨_, _, by rw [left]; rfl, by rw [right]; rfl, hread⟩
    | lists _ => cases hread
  · rintro ⟨a, b, hv, hw, hsum⟩
    cases v with
    | str s =>
      cases w with
      | str t =>
        cases hv
        cases hw
        exact ⟨_, rfl, hsum⟩
      | _ => cases hw
    | _ => cases hv

def Kind.quantities : Kind Quantity := ⟨quantity?, Quantity.plus?, add_quantity_iff⟩

def Kind.texts : Kind Text := ⟨text?, fun s t => some (s ++ t), add_text_iff⟩

end Json

/-! ### The sum of a tree -/

namespace PlanNode

variable {α : Type}

mutual

/-- The cost of a node within a kind. -/
def sum? (kind : Json.Kind α) : PlanNode → Option α
  | ⟨_, some total, _⟩ => kind.read total
  | ⟨startup, none, children⟩ => (kind.read (firstTerm startup)).bind (addSums? kind · children)
termination_by structural node => node

/-- A sum with those of some nodes added, within a kind. -/
def addSums? (kind : Json.Kind α) (sum : α) : List PlanNode → Option α
  | [] => some sum
  | node :: rest =>
    (sum? kind node).bind fun term => (kind.plus sum term).bind fun sum => addSums? kind sum rest
termination_by structural nodes => nodes

end

theorem addCosts_cons_iff {sum v : Json} {node : PlanNode} {rest : List PlanNode} :
    addCosts sum (node :: rest) = .ok v ↔ ∃ term, node.cost = .ok term ∧
      ∃ next, sum.add term = .ok next ∧ addCosts next rest = .ok v := by
  rw [addCosts]
  cases node.cost with
  | error fault => simp
  | ok term =>
    cases hsum : sum.add term with
    | error fault => simp [hsum]
    | ok next => simp [hsum]

mutual

/-- The cost of a node is of a kind if and only if the node has a sum within the kind, and then it is that
sum. The induction is on the tree, with a sum begun before the children. -/
theorem cost_iff (kind : Json.Kind α) (c : α) : ∀ node : PlanNode,
    (∃ v, node.cost = .ok v ∧ kind.read v = some c) ↔ node.sum? kind = some c
  | ⟨_, some total, _⟩ => by simp [cost, sum?]
  | ⟨startup, none, children⟩ => by
    rw [cost, sum?, Option.bind_eq_some_iff]
    exact addCosts_iff kind c children (firstTerm startup)

theorem addCosts_iff (kind : Json.Kind α) (c : α) : ∀ (nodes : List PlanNode) (sum : Json),
    (∃ v, addCosts sum nodes = .ok v ∧ kind.read v = some c) ↔
      ∃ a, kind.read sum = some a ∧ addSums? kind a nodes = some c
  | [], sum => by simp [addCosts, addSums?]
  | node :: rest, sum => by
    constructor
    · rintro ⟨v, hv, hread⟩
      obtain ⟨term, hterm, next, hnext, hrest⟩ := addCosts_cons_iff.mp hv
      obtain ⟨d, hd, hsums⟩ := (addCosts_iff kind c rest next).mp ⟨v, hrest, hread⟩
      obtain ⟨a, b, ha, hb, hplus⟩ := kind.add_iff.mp ⟨next, hnext, hd⟩
      have hnode := (cost_iff kind b node).mp ⟨term, hterm, hb⟩
      refine ⟨a, ha, ?_⟩
      rw [addSums?, hnode, Option.bind_some, hplus, Option.bind_some, hsums]
    · rintro ⟨a, ha, hsums⟩
      simp only [addSums?, Option.bind_eq_some_iff] at hsums
      obtain ⟨b, hnode, d, hplus, hsums⟩ := hsums
      obtain ⟨term, hterm, hb⟩ := (cost_iff kind b node).mpr hnode
      obtain ⟨next, hnext, hd⟩ := kind.add_iff.mpr ⟨a, b, ha, hb, hplus⟩
      obtain ⟨v, hv, hread⟩ := (addCosts_iff kind c rest next).mpr ⟨d, hd, hsums⟩
      exact ⟨v, addCosts_cons_iff.mpr ⟨term, hterm, next, hnext, hv⟩, hread⟩

end

end PlanNode

end QueryAdvisor
