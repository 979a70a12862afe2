import Mathlib.Algebra.BigOperators.Group.List.Basic
import Mathlib.Algebra.Ring.Int.Defs
import Mathlib.Logic.Relation
import QueryAdvisor.Plan.Cost
import QueryAdvisor.Proofs.Json.Wire
import QueryAdvisor.Proofs.Plan.Shape

/-!
# The costs that count

A node that states a total cost speaks for the whole tree below it. So of all nodes of a plan those count
that have no such node above them, each with its total cost or, without one, with its startup cost:

    ○ startup 2                      counts 2
    ├─ ● total 0                     counts 0, and is the last to count on its way down
    │  └─ ● total 9                  does not count
    └─ ○                             counts 0, since it states nothing
       └─ ○ startup 5                counts 5

The cost of the plan is the sum of what counts. Whatever changes below a total, and the order of children
anywhere, is not seen in it; and it grows by as much as one of the costs that count.
-/

namespace QueryAdvisor.PlanNode

/-! ### Which costs count -/

/-- A node in a tree, with the nodes above it, the root first. -/
structure Occurrence where
  above : List PlanNode
  node : PlanNode

namespace Occurrence

/-- The same node in a tree with a new root. -/
def under (root : PlanNode) (o : Occurrence) : Occurrence := ⟨root :: o.above, o.node⟩

/-- No node above states a total cost. -/
def onFrontier (o : Occurrence) : Bool := o.above.all fun node => node.total.isNone

/-- The total cost of the node, or its startup cost if it states no total. -/
def stated (o : Occurrence) : Option Json := o.node.total.or o.node.startup

end Occurrence

mutual

/-- All nodes of a tree, in reading order. -/
def occurrences : PlanNode → List Occurrence
  | ⟨startup, total, children⟩ => ⟨[], ⟨startup, total, children⟩⟩ ::
    (occurrencesIn children).map (.under ⟨startup, total, children⟩)
termination_by structural node => node

/-- All nodes of some trees, each within its own tree. -/
def occurrencesIn : List PlanNode → List Occurrence
  | [] => []
  | node :: rest => occurrences node ++ occurrencesIn rest
termination_by structural nodes => nodes

end

/-- The costs that count, in reading order. -/
def costs (tree : PlanNode) : List (Option Json) :=
  ((occurrences tree).filter Occurrence.onFrontier).map Occurrence.stated

/-- The cost is an integer or absent. -/
def IsWhole (cost : Option Json) : Prop := ∀ v, cost = some v → ∃ n, v = .int n

/-- The integer that a cost is; an absent cost is zero. -/
def amount : Option Json → Int
  | some (.int n) => n
  | _ => 0

/-- The sum of some costs. -/
def sum (costs : List (Option Json)) : Int := (costs.map amount).sum

theorem occurrencesIn_eq_flatMap (nodes : List PlanNode) :
    occurrencesIn nodes = nodes.flatMap occurrences := by
  induction nodes with
  | nil => rfl
  | cons node rest ih => rw [occurrencesIn, ih, List.flatMap_cons]

/-- The root counts, and then what counts below it. -/
theorem costs_mk (startup total : Option Json) (children : List PlanNode) :
    costs ⟨startup, total, children⟩ = total.or startup ::
      (((occurrencesIn children).map (Occurrence.under ⟨startup, total, children⟩)).filter
        Occurrence.onFrontier).map Occurrence.stated := by
  rw [costs, occurrences, List.filter_cons_of_pos rfl, List.map_cons]
  rfl

/-- Below a total cost nothing counts. -/
theorem costs_total (startup : Option Json) (total : Json) (children : List PlanNode) :
    costs ⟨startup, some total, children⟩ = [some total] := by
  have hbelow : ((occurrencesIn children).map (Occurrence.under ⟨startup, some total, children⟩)).filter
      Occurrence.onFrontier = [] := by
    rw [List.filter_eq_nil_iff]
    intro o ho hfrontier
    obtain ⟨inner, -, rfl⟩ := List.mem_map.mp ho
    cases hfrontier
  rw [costs_mk, hbelow]
  rfl

/-- Without a total cost the startup cost counts, and what counts in each child. -/
theorem costs_startup (startup : Option Json) (children : List PlanNode) :
    costs ⟨startup, none, children⟩ = startup :: children.flatMap costs := by
  have hfrontier : Occurrence.onFrontier ∘ Occurrence.under ⟨startup, none, children⟩ =
      Occurrence.onFrontier := rfl
  have hstated : Occurrence.stated ∘ Occurrence.under ⟨startup, none, children⟩ =
      Occurrence.stated := rfl
  rw [costs_mk, List.filter_map, hfrontier, List.map_map, hstated, occurrencesIn_eq_flatMap,
    List.filter_flatMap, List.map_flatMap]
  rfl

theorem sum_cons (cost : Option Json) (costs : List (Option Json)) :
    sum (cost :: costs) = amount cost + sum costs := by
  rw [sum, List.map_cons, List.sum_cons, sum]

theorem sum_append (costs costs' : List (Option Json)) :
    sum (costs ++ costs') = sum costs + sum costs' := by
  rw [sum, List.map_append, List.sum_append, sum, sum]

/-! ### The cost is their sum -/

theorem firstTerm_of_whole {startup : Option Json} (h : IsWhole startup) :
    firstTerm startup = .int (amount startup) := by
  cases startup with
  | none => rfl
  | some v =>
    obtain ⟨n, rfl⟩ := h v rfl
    by_cases hn : n = 0
    · simp [firstTerm, Json.isNothing, amount, hn]
    · simp [firstTerm, Json.isNothing, amount, hn]

mutual

/-- The cost of a tree is the sum of the costs that count. The induction is on the tree, with a sum begun
before the children. -/
theorem cost_of_whole : ∀ tree : PlanNode, (∀ cost ∈ tree.costs, IsWhole cost) →
    tree.cost = .ok (.int (sum tree.costs))
  | ⟨startup, some total, children⟩, hwhole => by
    rw [costs_total] at hwhole ⊢
    obtain ⟨n, rfl⟩ := hwhole (some total) (by simp) total rfl
    simp [cost, sum, amount]
  | ⟨startup, none, children⟩, hwhole => by
    rw [costs_startup] at hwhole ⊢
    obtain ⟨hstartup, hchildren⟩ := List.forall_mem_cons.mp hwhole
    rw [cost, firstTerm_of_whole hstartup, addCosts_of_whole children _ hchildren, sum_cons]

theorem addCosts_of_whole : ∀ (nodes : List PlanNode) (begun : Int),
    (∀ cost ∈ nodes.flatMap costs, IsWhole cost) →
      addCosts (.int begun) nodes = .ok (.int (begun + sum (nodes.flatMap costs)))
  | [], begun, _ => by simp [addCosts, sum]
  | node :: rest, begun, hwhole => by
    rw [List.flatMap_cons] at hwhole ⊢
    obtain ⟨hnode, hrest⟩ := List.forall_mem_append.mp hwhole
    rw [addCosts, cost_of_whole node hnode]
    dsimp only
    rw [Json.add_int]
    dsimp only
    rw [addCosts_of_whole rest _ hrest, sum_append, Int.add_assoc]

end

/-! ### Changes in a tree -/

/-- A change that is not seen in the cost: at some node other children below a total cost, or the same
children in another order. -/
inductive Rearranges : PlanNode → PlanNode → Prop where
  | beneath {startup : Option Json} {total : Json} (children children' : List PlanNode) :
    Rearranges ⟨startup, some total, children⟩ ⟨startup, some total, children'⟩
  | order {startup total : Option Json} {children children' : List PlanNode}
    (same : children.Perm children') :
    Rearranges ⟨startup, total, children⟩ ⟨startup, total, children'⟩
  | child {startup total : Option Json} {node node' : PlanNode} (h : Rearranges node node')
    (before after : List PlanNode) :
    Rearranges ⟨startup, total, before ++ node :: after⟩ ⟨startup, total, before ++ node' :: after⟩

/-- Any number of such changes. -/
def Rearranged : PlanNode → PlanNode → Prop := Relation.ReflTransGen Rearranges

/-- One of the costs that count is raised by `k`: the total cost of a node, or its startup cost if it
states no total, where no node above states a total. -/
inductive Raises (k : Int) : PlanNode → PlanNode → Prop where
  | total (startup : Option Json) (n : Int) (children : List PlanNode) :
    Raises k ⟨startup, some (.int n), children⟩ ⟨startup, some (.int (n + k)), children⟩
  | startup (startup : Option Json) (children : List PlanNode) :
    Raises k ⟨startup, none, children⟩ ⟨some (.int (amount startup + k)), none, children⟩
  | child {startup : Option Json} {node node' : PlanNode} (h : Raises k node node')
    (before after : List PlanNode) :
    Raises k ⟨startup, none, before ++ node :: after⟩ ⟨startup, none, before ++ node' :: after⟩

/-- The same costs count, if in another order. -/
theorem Rearranges.costs_perm {tree tree' : PlanNode} (h : Rearranges tree tree') :
    tree.costs.Perm tree'.costs := by
  induction h with
  | beneath children children' => rw [costs_total, costs_total]
  | @order startup total children children' same =>
    cases total with
    | some total => rw [costs_total, costs_total]
    | none =>
      rw [costs_startup, costs_startup]
      exact (same.flatMap_right costs).cons startup
  | @child startup total node node' h before after ih =>
    cases total with
    | some total => rw [costs_total, costs_total]
    | none =>
      simp only [costs_startup, List.flatMap_append, List.flatMap_cons]
      exact ((ih.append_right _).append_left _).cons startup

theorem Rearranged.costs_perm {tree tree' : PlanNode} (h : Rearranged tree tree') :
    tree.costs.Perm tree'.costs := by
  induction h with
  | refl => exact List.Perm.refl _
  | tail _ hchange ih => exact ih.trans hchange.costs_perm

/-- One of the costs that count is another one, and the others stay. -/
theorem Raises.exists_costs {k : Int} {tree tree' : PlanNode} (h : Raises k tree tree') :
    ∃ before cost after, tree.costs = before ++ cost :: after ∧
      tree'.costs = before ++ some (.int (amount cost + k)) :: after := by
  induction h with
  | total startup n children =>
    exact ⟨[], some (.int n), [], costs_total _ _ _, costs_total _ _ _⟩
  | startup startup children =>
    exact ⟨[], startup, children.flatMap costs, costs_startup _ _, costs_startup _ _⟩
  | @child startup node node' h before after ih =>
    obtain ⟨earlier, cost, later, hnode, hnode'⟩ := ih
    refine ⟨startup :: before.flatMap costs ++ earlier, cost, later ++ after.flatMap costs, ?_, ?_⟩
    · simp [costs_startup, hnode]
    · simp [costs_startup, hnode']

/-- The sum is raised with it, and what counts stays whole. -/
theorem Raises.sum_costs {k : Int} {tree tree' : PlanNode} (h : Raises k tree tree')
    (hwhole : ∀ cost ∈ tree.costs, IsWhole cost) :
    sum tree'.costs = sum tree.costs + k ∧ ∀ cost ∈ tree'.costs, IsWhole cost := by
  obtain ⟨before, cost, after, hcosts, hcosts'⟩ := h.exists_costs
  rw [hcosts] at hwhole
  rw [hcosts, hcosts']
  constructor
  · rw [sum_append, sum_append, sum_cons, sum_cons, amount]
    omega
  · intro raised hraised
    rcases List.mem_append.mp hraised with hbefore | hmem
    · exact hwhole raised (by simp [hbefore])
    · rcases List.mem_cons.mp hmem with rfl | hafter
      · rintro v ⟨⟩
        exact ⟨_, rfl⟩
      · exact hwhole raised (by simp [hafter])

/-- A place in a concatenation is a place in one of the two parts. -/
theorem exists_place_of_append_eq {α : Type} {first second before after : List α} {a : α}
    (h : first ++ second = before ++ a :: after) :
    (∃ inner, first = before ++ a :: inner ∧ inner ++ second = after) ∨
      ∃ inner, before = first ++ inner ∧ second = inner ++ a :: after := by
  rcases List.append_eq_append_iff.mp h with ⟨inner, hbefore, hsecond⟩ | ⟨inner, hfirst, hafter⟩
  · exact Or.inr ⟨inner, hbefore, hsecond⟩
  · cases inner with
    | nil => exact Or.inr ⟨[], by simp [hfirst], hafter.symm⟩
    | cons b inner =>
      obtain ⟨rfl, rfl⟩ := List.cons.inj hafter
      exact Or.inl ⟨inner, hfirst, rfl⟩

mutual

/-- Each of the costs that count can be raised alone. The induction is on the tree, along the way down to
the node. -/
theorem exists_raises (k : Int) : ∀ (tree : PlanNode) (before : List (Option Json)) (cost : Option Json)
    (after : List (Option Json)), tree.costs = before ++ cost :: after → IsWhole cost →
    ∃ tree', Raises k tree tree' ∧ tree'.costs = before ++ some (.int (amount cost + k)) :: after
  | ⟨startup, some total, children⟩, before, cost, after, hcosts, hwhole => by
    rw [costs_total, List.singleton_eq_append_iff] at hcosts
    rcases hcosts with ⟨rfl, hcosts⟩ | ⟨rfl, hcosts⟩
    · obtain ⟨rfl, rfl⟩ := List.cons.inj hcosts
      obtain ⟨n, rfl⟩ := hwhole total rfl
      exact ⟨_, .total startup n children, costs_total _ _ _⟩
    · cases hcosts
  | ⟨startup, none, children⟩, before, cost, after, hcosts, hwhole => by
    rw [costs_startup] at hcosts
    cases before with
    | nil =>
      obtain ⟨rfl, rfl⟩ := List.cons.inj hcosts
      exact ⟨_, .startup startup children, costs_startup _ _⟩
    | cons first before =>
      obtain ⟨rfl, hbelow⟩ := List.cons.inj hcosts
      obtain ⟨earlier, node, node', later, rfl, hraises, hcosts'⟩ :=
        exists_raises_child k children before cost after hbelow hwhole
      refine ⟨_, .child hraises earlier later, ?_⟩
      rw [costs_startup, hcosts', List.cons_append]

theorem exists_raises_child (k : Int) : ∀ (nodes : List PlanNode) (before : List (Option Json))
    (cost : Option Json) (after : List (Option Json)), nodes.flatMap costs = before ++ cost :: after →
    IsWhole cost → ∃ earlier node node' later, nodes = earlier ++ node :: later ∧ Raises k node node' ∧
      (earlier ++ node' :: later).flatMap costs = before ++ some (.int (amount cost + k)) :: after
  | [], before, cost, after, hcosts, _ => by simp at hcosts
  | node :: rest, before, cost, after, hcosts, hwhole => by
    rw [List.flatMap_cons] at hcosts
    rcases exists_place_of_append_eq hcosts with ⟨inner, hnode, rfl⟩ | ⟨inner, rfl, hrest⟩
    · obtain ⟨node', hraises, hcosts'⟩ := exists_raises k node before cost inner hnode hwhole
      refine ⟨[], node, node', rest, rfl, hraises, ?_⟩
      rw [List.nil_append, List.flatMap_cons, hcosts', List.append_assoc, List.cons_append]
    · obtain ⟨earlier, raised, raised', later, rfl, hraises, hcosts'⟩ :=
        exists_raises_child k rest inner cost after hrest hwhole
      refine ⟨node :: earlier, raised, raised', later, rfl, hraises, ?_⟩
      rw [List.cons_append, List.flatMap_cons, hcosts', List.append_assoc]

end

/-! ### What a plan costs -/

/-- The value is read as a plan with that cost. -/
def Costs (v : Json) (n : Int) : Prop := ∃ node, ofJson v = .ok node ∧ node.cost = .ok (.int n)

theorem costs_of_describes {v : Json} {tree : PlanNode} (hv : Describes v tree)
    (hwhole : ∀ cost ∈ tree.costs, IsWhole cost) : Costs v (sum tree.costs) :=
  ⟨tree, ofJson_of_describes hv, cost_of_whole tree hwhole⟩

/-- A plan whose costs are integers or absent, as far as they count, costs the sum of those that count. It
costs the same after any rearrangement, and `k` more when one of them is raised by `k`; any of them can
be. -/
theorem costs_frontier {tree : PlanNode} (hwhole : ∀ cost ∈ tree.costs, IsWhole cost) :
    (∀ v, Describes v tree → Costs v (sum tree.costs)) ∧
      (∀ tree' v, Rearranged tree tree' → Describes v tree' → Costs v (sum tree.costs)) ∧
      (∀ k tree' v, Raises k tree tree' → Describes v tree' → Costs v (sum tree.costs + k)) ∧
      ∀ k before cost after, tree.costs = before ++ cost :: after →
        ∃ tree', Raises k tree tree' ∧ tree'.costs = before ++ some (.int (amount cost + k)) :: after := by
  refine ⟨fun v hv => costs_of_describes hv hwhole, ?_, ?_, ?_⟩
  · intro tree' v hrearranged hv
    have hperm := hrearranged.costs_perm
    have hsum : sum tree.costs = sum tree'.costs := (hperm.map amount).sum_eq
    rw [hsum]
    exact costs_of_describes hv fun cost hcost => hwhole cost (hperm.mem_iff.mpr hcost)
  · intro k tree' v hraises hv
    obtain ⟨hsum, hwhole'⟩ := hraises.sum_costs hwhole
    rw [← hsum]
    exact costs_of_describes hv hwhole'
  · intro k before cost after hcosts
    exact exists_raises k tree before cost after hcosts (hwhole cost (by simp [hcosts]))

/-- The tree of the diagram, with a startup cost for the last node and a text for the total that does not
count. -/
def sampleTree (begun : Int) (hidden : Text) : PlanNode :=
  ⟨some (.int 2), none, [⟨none, some (.int 0), [⟨none, some (.str hidden), []⟩]⟩,
    ⟨none, none, [⟨some (.int begun), none, []⟩]⟩]⟩

def sampleJson (begun : Int) (hidden : Text) : Json :=
  .object [("Startup Cost", .int 2), ("Plans", .arr
    [.object [("Total Cost", .int 0), ("Plans", .arr [.object [("Total Cost", .str hidden)]])],
      .object [("Plans", .arr [.object [("Startup Cost", .int begun)]])]])]

theorem field?_object (name : String) (pairs : List (String × Json)) :
    Json.field? (Text.ofString name) (pairs.map fun pair => (Text.ofString pair.1, pair.2)) =
      (pairs.lookup name).bind Json.given? := by
  rw [Json.field?, Members.get?_object]

theorem describes_object {pairs : List (String × Json)} {items : List Json} {children : List PlanNode}
    (holds : pairs.lookup "Plans" = some (.arr items)) (below : List.Forall₂ Describes items children) :
    Describes (.object pairs) ⟨(pairs.lookup "Startup Cost").bind Json.given?,
      (pairs.lookup "Total Cost").bind Json.given?, children⟩ :=
  .parent (field?_object "Startup Cost" pairs) (field?_object "Total Cost" pairs)
    ((Members.get?_object "Plans" pairs).trans holds) below

theorem describes_object_of_bare {pairs : List (String × Json)} (bare : pairs.lookup "Plans" = none) :
    Describes (.object pairs) ⟨(pairs.lookup "Startup Cost").bind Json.given?,
      (pairs.lookup "Total Cost").bind Json.given?, []⟩ := by
  refine .leaf (field?_object "Startup Cost" pairs) (field?_object "Total Cost" pairs) ?_
  rw [childrenName, Members.get?_object, bare]
  rfl

theorem describes_sampleJson (begun : Int) (hidden : Text) :
    Describes (sampleJson begun hidden) (sampleTree begun hidden) := by
  have hhidden : Describes (.object [("Total Cost", .str hidden)]) ⟨none, some (.str hidden), []⟩ :=
    describes_object_of_bare rfl
  have hlast : Describes (.object [("Startup Cost", .int begun)]) ⟨some (.int begun), none, []⟩ :=
    describes_object_of_bare rfl
  exact describes_object rfl (.cons (describes_object rfl (.cons hhidden .nil))
    (.cons (describes_object rfl (.cons hlast .nil)) .nil))

theorem rearranged_sampleTree (begun : Int) (hidden hidden' : Text) :
    Rearranged (sampleTree begun hidden) (sampleTree begun hidden') :=
  .single (.child (.beneath _ _) [] _)

theorem raises_sampleTree (begun k : Int) (hidden : Text) :
    Raises k (sampleTree begun hidden) (sampleTree (begun + k) hidden) :=
  .child (.child (.startup (some (.int begun)) []) [] []) [_] []

/-- It costs 2, 0, 0 and 5; the same with another text, and 3 more with 8 for 5. -/
theorem costs_frontier_sampleTree : (∀ cost ∈ (sampleTree 5 "9").costs, IsWhole cost) ∧
    Costs (sampleJson 5 "9") 7 ∧ Costs (sampleJson 5 "nine") 7 ∧ Costs (sampleJson 8 "9") 10 := by
  have hcosts : (sampleTree 5 "9").costs = [some (.int 2), some (.int 0), none, some (.int 5)] := rfl
  have hwhole : ∀ cost ∈ (sampleTree 5 "9").costs, IsWhole cost := by
    rw [hcosts]
    simp [IsWhole]
  obtain ⟨hcost, hrearranged, hraised, -⟩ := costs_frontier hwhole
  refine ⟨hwhole, hcost _ (describes_sampleJson 5 "9"), ?_, ?_⟩
  · exact hrearranged _ _ (rearranged_sampleTree 5 "9" "nine") (describes_sampleJson 5 "nine")
  · exact hraised 3 _ _ (raises_sampleTree 5 3 "9") (describes_sampleJson 8 "9")

end QueryAdvisor.PlanNode
