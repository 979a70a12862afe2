import QueryAdvisor.Json.Bytes
import QueryAdvisor.Number.Lenient
import QueryAdvisor.Plan.Cost

/-!
# Execution plans

What a database says about a query, summarized. It may say it as text, as bytes or as a value, and the
plan document may stand in an array; all these forms come to the same. The numbers of a summary are
floating-point numbers, whatever kind of value the document holds for them.
-/

namespace QueryAdvisor

/-- The value that a database returns for an explained query. -/
inductive RawPlan where
  | text (t : Text)
  | bytes (b : Bytes)
  | value (v : Json)

/-- A string is text. -/
def RawPlan.ofJson : Json → RawPlan
  | .str t => .text t
  | v => .value v

/-- The JSON value in what the database returned; text and bytes are read once. -/
def RawPlan.read? : RawPlan → Except Json.Escape (Option Json)
  | .text t => Json.caught (Json.ofText t)
  | .bytes b => Json.caught (Json.ofBytes b)
  | .value v => .ok (some v)

/-- A plan document: an object, and the object under its member `Plan`. -/
structure PlanDocument where
  members : Members
  root : Members

namespace PlanDocument

/-- The document that a value is. -/
def ofObject? : Option Json → Option PlanDocument
  | some (.obj members) =>
    match Members.get? "Plan" members with
    | some (.obj root) => some ⟨members, root⟩
    | _ => none
  | _ => none

/-- The document that a value is, or that is the first item of an array. -/
def ofJson? : Json → Option PlanDocument
  | .arr items => ofObject? items.head?
  | v => ofObject? (some v)

/-- The document that the database returned. -/
def ofRaw? (raw : RawPlan) : Except Json.Escape (Option PlanDocument) :=
  raw.read?.map fun value => value.bind ofJson?

end PlanDocument

/-! ### Numbers of a summary -/

/-- Why a value gives no number. -/
inductive NumberFault where
  /-- A string that writes no number. -/
  | unparsable
  /-- A value of another kind, or an integer beyond all floating-point numbers. -/
  | wrongKind
  /-- A string with a surrogate alone in it. -/
  | notUnicode
  deriving DecidableEq, Repr

/-- The number that a value gives. -/
def Json.toReal : Json → Except NumberFault Double
  | .bool b => .ok (if b then .one else .zero)
  | .int n => (Double.ofInt? n).elim (.error .wrongKind) .ok
  | .float x => .ok x
  | .str t =>
    if t.hasSurrogate then .error .notUnicode
    else (Number.real? t).elim (.error .unparsable) .ok
  | _ => .error .wrongKind

/-- The number that a value gives, if there is a value. -/
def Json.toReal? : Option Json → Except NumberFault (Option Double)
  | none => .ok none
  | some v => v.toReal.map some

/-! ### The summary -/

/-- The numbers of a summary, in the order in which faults are listed. -/
inductive PlanField where
  | totalCost
  | executionTime
  | rows
  | actualRows
  deriving DecidableEq, Repr

/-- The summary of a plan. -/
structure ExecutionPlan where
  totalCost : Double
  executionTime : Option Double
  rows : Option Double
  actualRows : Option Double
  /-- The query was run, not only planned. -/
  analyzed : Bool
  /-- The root node, as the database returned it. -/
  plan : Members
  deriving BEq, Repr

namespace ExecutionPlan

/-- Why a document has no summary. -/
inductive Fault where
  | shape (fault : PlanNode.Fault)
  | cost (fault : Json.SumFault)
  | numbers (faults : List (PlanField × NumberFault))
  deriving DecidableEq, Repr

/-- The fault in a result, under the name of its field. -/
def faultIn {α : Type} (field : PlanField) : Except NumberFault α → Option (PlanField × NumberFault)
  | .ok _ => none
  | .error fault => some (field, fault)

/-- The summary with these numbers; every number that cannot be had is listed. -/
def ofNumbers (doc : PlanDocument) (analyzed : Bool) (total : Except NumberFault Double)
    (time rows actual : Except NumberFault (Option Double)) : Except Fault ExecutionPlan :=
  match total, time, rows, actual with
  | .ok total, .ok time, .ok rows, .ok actual =>
    .ok { totalCost := total, executionTime := time, rows := rows, actualRows := actual,
          analyzed := analyzed, plan := doc.root }
  | _, _, _, _ =>
    .error (.numbers ([faultIn .totalCost total, faultIn .executionTime time, faultIn .rows rows,
      faultIn .actualRows actual].filterMap id))

/-- The summary of a document. -/
def ofDocument (doc : PlanDocument) (analyzed : Bool) : Except Fault ExecutionPlan :=
  match PlanNode.ofJson (.obj doc.root) with
  | .error fault => .error (.shape fault)
  | .ok node =>
    match node.cost with
    | .error fault => .error (.cost fault)
    | .ok cost =>
      ofNumbers doc analyzed cost.toReal
        (Json.toReal? (Json.field? "Execution Time" doc.members))
        (Json.toReal? (Json.field? "Plan Rows" doc.root))
        (Json.toReal? (Json.field? "Actual Rows" doc.root))

/-- A number or null. -/
def numberToJson : Option Double → Json
  | none => .null
  | some x => .float x

/-- The summary as an object. -/
def toJson (p : ExecutionPlan) : Json :=
  .object [("totalCost", .float p.totalCost), ("executionTime", numberToJson p.executionTime),
    ("rows", numberToJson p.rows), ("actualRows", numberToJson p.actualRows),
    ("analyzed", .bool p.analyzed), ("plan", .obj p.plan)]

end ExecutionPlan

end QueryAdvisor
