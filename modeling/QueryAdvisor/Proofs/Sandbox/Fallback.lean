import QueryAdvisor.Proofs.Sandbox.Execution

/-!
# From running to planning

A query is first run and measured; where the database refuses that, it is only planned. Each attempt is
a statement behind a command, together with what becomes of it:

    run ──▶ a row with a plan ─────────▶ the plan, measured
     │  └─▶ no row ────────────────────▶ no plan
     ▼ fails
    plan ─▶ a row with a plan ─────────▶ the plan, not measured
     │  └─▶ no row ────────────────────▶ no plan
     ▼ fails
    unavailable

Only a failure leads on to the next attempt. The log holds one warning for each of them.
-/

namespace QueryAdvisor.Sandbox

/-- Whatever fails, the database says so itself. -/
structure Reports (sandbox : Sandbox) : Prop where
  connecting : ∀ exception, sandbox.connectFailure ≠ some (.foreign exception)
  executing : ∀ exception, SandboxStep.fails (.foreign exception) ∉ sandbox.steps

/-- What becomes of the `k`-th statement sent, counted from zero. -/
def step (sandbox : Sandbox) (k : Nat) : SandboxStep := sandbox.steps.getD k (.returns none)

/-- The statements sent, each with what becomes of it. -/
def attempts (sandbox : Sandbox) (executed : List Text) : List (Text × SandboxStep) :=
  executed.mapIdx fun k sent => (sent, sandbox.step k)

/-- A statement behind the command to run it or the one to plan it. -/
def order (analyze : Bool) (statement : Text) : Text :=
  (if analyze then Statement.analyzeCommand else Statement.planCommand) ++ statement

/-- All that may be sent for a statement. -/
def orders (analyze : Bool) (statement : Text) : List Text :=
  if analyze then [order true statement, order false statement] else [order false statement]

/-- The warning about an attempt that failed, with the first 200 code points of what the database says. -/
def warning? (statement : Text) : Text × SandboxStep → Option Record
  | (sent, .fails (.database message)) =>
    some ⟨.warning, if sent = order true statement then "explain_analyze_failed" else "explain_failed",
      [("error", .str (message.take 200))]⟩
  | _ => none

/-- What is sent, answered and written down once there is a statement and a connection. -/
structure Attempted (sandbox : Sandbox) (analyze : Bool) (statement : Text) (e : Explanation) :
    Prop where
  sent : e.executed ≠ [] ∧ e.executed <+: orders analyze statement
  retried : e.executed = [order true statement, order false statement] ↔
    analyze = true ∧ ∃ failure, sandbox.step 0 = .fails failure
  returned : ∀ raw analyzed, e.outcome = .ok (raw, analyzed) ↔
    (sandbox.attempts e.executed).getLast? = some (order analyzed statement, .returns (some raw))
  unavailable : e.outcome = .error .unavailable ↔
    ∃ failure, (order false statement, .fails failure) ∈ sandbox.attempts e.executed
  noRow : e.outcome = .error .noRow ↔
    ∃ sent, (sandbox.attempts e.executed).getLast? = some (sent, .returns none)
  logged : e.events.map Event.record = (sandbox.attempts e.executed).filterMap (warning? statement)

/-- How a query is explained. -/
structure Protocol (sandbox : Sandbox) (sql : Text) (analyze : Bool) (e : Explanation) : Prop where
  refused : Statement.ofQuery? sql = none →
    e.connections = 0 ∧ e.executed = [] ∧ e.events = [] ∧ e.outcome = .error .trailingStatement
  unreachable : ∀ statement failure, Statement.ofQuery? sql = some statement →
    sandbox.connectFailure = some failure → e.executed = [] ∧ e.outcome = .error .sandboxDown ∧
      ∃ message, failure = .database message ∧ e.events.map Event.record =
        [⟨.warning, "sandbox_connect_failed", [("error", .str (message.take 200))]⟩]
  attempted : ∀ statement, Statement.ofQuery? sql = some statement →
    sandbox.connectFailure = none → Attempted sandbox analyze statement e

/-! ### What can happen -/

/-- The two commands part after the words that they share. -/
theorem order_inj {statement : Text} {analyze analyze' : Bool} :
    order analyze statement = order analyze' statement ↔ analyze = analyze' := by
  have hne : order true statement ≠ order false statement := by
    intro h
    have htake := congrArg (List.take 10) h
    simp only [order, if_true, Bool.false_eq_true, if_false] at htake
    rw [List.take_append_of_le_length (by decide +kernel),
      List.take_append_of_le_length (by decide +kernel)] at htake
    exact absurd htake (by decide +kernel)
  cases analyze <;> cases analyze' <;> simp [hne, hne.symm]

/-- The ways in which a statement is explained if only the database fails. -/
inductive Explains (sandbox : Sandbox) (statement : Text) : Bool → Explanation → Prop where
  | ran {row : Option RawPlan} (run : sandbox.step 0 = .returns row) :
    Explains sandbox statement true
      { outcome := firstColumn true row, connections := 1, executed := [order true statement] }
  | planned {row : Option RawPlan} (plan : sandbox.step 0 = .returns row) :
    Explains sandbox statement false
      { outcome := firstColumn false row, connections := 1, executed := [order false statement] }
  | unplanned {message : Text} (plan : sandbox.step 0 = .fails (.database message)) :
    Explains sandbox statement false
      { outcome := .error .unavailable, connections := 1, executed := [order false statement]
        events := [.explainFailed message] }
  | fellBack {message : Text} {row : Option RawPlan}
    (run : sandbox.step 0 = .fails (.database message)) (plan : sandbox.step 1 = .returns row) :
    Explains sandbox statement true
      { outcome := firstColumn false row, connections := 1
        executed := [order true statement, order false statement]
        events := [.analyzeFailed message] }
  | gaveUp {message message' : Text} (run : sandbox.step 0 = .fails (.database message))
    (plan : sandbox.step 1 = .fails (.database message')) :
    Explains sandbox statement true
      { outcome := .error .unavailable, connections := 1
        executed := [order true statement, order false statement]
        events := [.analyzeFailed message, .explainFailed message'] }

variable {sandbox : Sandbox} {statement : Text} {analyze : Bool}

theorem next_eq (sandbox : Sandbox) : next sandbox.steps = (sandbox.step 0, sandbox.steps.tail) := by
  rw [step]
  cases sandbox.steps <;> rfl

theorem next_tail (sandbox : Sandbox) : (next sandbox.steps.tail).1 = sandbox.step 1 := by
  rw [step]
  match sandbox.steps with
  | [] | [_] | _ :: _ :: _ => rfl

/-- No step of a database that reports its failures fails otherwise. -/
theorem Reports.step_cases (h : sandbox.Reports) (k : Nat) : (∃ row, sandbox.step k = .returns row) ∨
    ∃ message, sandbox.step k = .fails (.database message) := by
  cases hstep : sandbox.step k with
  | returns row => exact Or.inl ⟨row, rfl⟩
  | fails failure =>
    cases failure with
    | database message => exact Or.inr ⟨message, rfl⟩
    | foreign exception =>
      have hmem : SandboxStep.fails (.foreign exception) ∈ sandbox.steps := by
        rw [step, List.getD_eq_getElem?_getD] at hstep
        cases hget : sandbox.steps[k]? with
        | none => rw [hget] at hstep; cases hstep
        | some s => rw [hget] at hstep; exact hstep ▸ List.mem_of_getElem? hget
      exact absurd hmem (h.executing exception)

theorem explains_explain (h : sandbox.Reports) (hconnect : sandbox.connectFailure = none) {sql : Text}
    (hstatement : Statement.ofQuery? sql = some statement) (analyze : Bool) :
    Explains sandbox statement analyze (sandbox.explain sql analyze) := by
  rw [explain_of_statement hconnect hstatement]
  cases analyze with
  | false =>
    rw [if_neg Bool.false_ne_true, planOnly, next_eq]
    rcases h.step_cases 0 with ⟨row, hrow⟩ | ⟨message, hfails⟩
    · rw [hrow]
      exact .planned hrow
    · rw [hfails]
      exact .unplanned hfails
  | true =>
    rw [if_pos rfl, runOrPlan, next_eq]
    rcases h.step_cases 0 with ⟨row, hrow⟩ | ⟨message, hfails⟩
    · rw [hrow]
      exact .ran hrow
    · rw [hfails]
      dsimp only
      rw [planOnly, next_tail]
      rcases h.step_cases 1 with ⟨row, hrow⟩ | ⟨message', hfails'⟩
      · rw [hrow]
        exact .fellBack hfails hrow
      · rw [hfails']
        exact .gaveUp hfails hfails'

/-! ### What follows for the attempts -/

theorem firstColumn_eq_ok_iff {analyzed analyzed' : Bool} {row : Option RawPlan} {raw : RawPlan} :
    firstColumn analyzed row = .ok (raw, analyzed') ↔ row = some raw ∧ analyzed = analyzed' := by
  cases row <;> simp [firstColumn]

theorem firstColumn_eq_noRow_iff {analyzed : Bool} {row : Option RawPlan} :
    firstColumn analyzed row = .error .noRow ↔ row = none := by
  cases row <;> simp [firstColumn]

theorem firstColumn_ne_unavailable (analyzed : Bool) (row : Option RawPlan) :
    firstColumn analyzed row ≠ .error .unavailable := by
  cases row <;> simp [firstColumn]

theorem attempts_one (sandbox : Sandbox) (sent : Text) :
    sandbox.attempts [sent] = [(sent, sandbox.step 0)] := rfl

theorem attempts_two (sandbox : Sandbox) (sent sent' : Text) :
    sandbox.attempts [sent, sent'] = [(sent, sandbox.step 0), (sent', sandbox.step 1)] := rfl

variable {e : Explanation}

theorem Explains.sent (h : Explains sandbox statement analyze e) :
    e.executed ≠ [] ∧ e.executed <+: orders analyze statement := by
  cases h <;> simp [orders]

theorem Explains.retried (h : Explains sandbox statement analyze e) :
    e.executed = [order true statement, order false statement] ↔
      analyze = true ∧ ∃ failure, sandbox.step 0 = .fails failure := by
  cases h with
  | ran run => simp [run]
  | planned _ => simp
  | unplanned _ => simp
  | fellBack run _ => simp [run]
  | gaveUp run _ => simp [run]

theorem Explains.returned (h : Explains sandbox statement analyze e) (raw : RawPlan) (analyzed : Bool) :
    e.outcome = .ok (raw, analyzed) ↔
      (sandbox.attempts e.executed).getLast? = some (order analyzed statement, .returns (some raw)) := by
  cases h with
  | ran run => simp [attempts_one, run, firstColumn_eq_ok_iff, order_inj, and_comm]
  | planned plan => simp [attempts_one, plan, firstColumn_eq_ok_iff, order_inj, and_comm]
  | unplanned plan => simp [attempts_one, plan]
  | fellBack _ plan => simp [attempts_two, plan, firstColumn_eq_ok_iff, order_inj, and_comm]
  | gaveUp _ plan => simp [attempts_two, plan]

theorem Explains.unavailable (h : Explains sandbox statement analyze e) :
    e.outcome = .error .unavailable ↔
      ∃ failure, (order false statement, .fails failure) ∈ sandbox.attempts e.executed := by
  cases h with
  | ran run => simp [attempts_one, run, firstColumn_ne_unavailable]
  | planned plan => simp [attempts_one, plan, firstColumn_ne_unavailable]
  | unplanned plan => simp [attempts_one, plan]
  | fellBack run plan => simp [attempts_two, run, plan, firstColumn_ne_unavailable, order_inj]
  | gaveUp run plan => simp [attempts_two, run, plan, order_inj]

theorem Explains.noRow (h : Explains sandbox statement analyze e) :
    e.outcome = .error .noRow ↔
      ∃ sent, (sandbox.attempts e.executed).getLast? = some (sent, .returns none) := by
  cases h with
  | ran run => simp [attempts_one, run, firstColumn_eq_noRow_iff]
  | planned plan => simp [attempts_one, plan, firstColumn_eq_noRow_iff]
  | unplanned plan => simp [attempts_one, plan]
  | fellBack _ plan => simp [attempts_two, plan, firstColumn_eq_noRow_iff]
  | gaveUp _ plan => simp [attempts_two, plan]

theorem Explains.logged (h : Explains sandbox statement analyze e) :
    e.events.map Event.record = (sandbox.attempts e.executed).filterMap (warning? statement) := by
  cases h with
  | ran run => simp [attempts_one, run, warning?]
  | planned plan => simp [attempts_one, plan, warning?]
  | unplanned plan => simp [attempts_one, plan, warning?, order_inj, Event.record, Event.clip]
  | fellBack run plan => simp [attempts_two, run, plan, warning?, Event.record, Event.clip]
  | gaveUp run plan =>
    simp [attempts_two, run, plan, warning?, order_inj, Event.record, Event.clip]

theorem Explains.ne_escaped (h : Explains sandbox statement analyze e) (exception : Text) :
    e.outcome ≠ .error (.escaped exception) := by
  have hrow : ∀ analyzed (row : Option RawPlan),
      firstColumn analyzed row ≠ .error (.escaped exception) := by
    intro analyzed row
    cases row <;> simp [firstColumn]
  cases h with
  | ran _ => exact hrow _ _
  | planned _ => exact hrow _ _
  | unplanned _ => simp
  | fellBack _ _ => exact hrow _ _
  | gaveUp _ _ => simp

/-- Nothing of what such a database says is passed on as it is. -/
theorem explain_ne_escaped (h : sandbox.Reports) (sql : Text) (analyze : Bool) (exception : Text) :
    (sandbox.explain sql analyze).outcome ≠ .error (.escaped exception) := by
  cases hstatement : Statement.ofQuery? sql with
  | none => simp [explain, hstatement]
  | some statement =>
    cases hconnect : sandbox.connectFailure with
    | none => exact (explains_explain h hconnect hstatement analyze).ne_escaped exception
    | some failure =>
      cases failure with
      | database message => simp [explain, hstatement, hconnect]
      | foreign exception => exact absurd hconnect (h.connecting exception)

theorem Explains.attempted (h : Explains sandbox statement analyze e) :
    Attempted sandbox analyze statement e where
  sent := h.sent
  retried := h.retried
  returned := h.returned
  unavailable := h.unavailable
  noRow := h.noRow
  logged := h.logged

/-- Over every query, whether it is to be run or only planned, and every database that reports its
failures, a query is explained by the protocol. -/
theorem protocol_explain (h : sandbox.Reports) (sql : Text) (analyze : Bool) :
    Protocol sandbox sql analyze (sandbox.explain sql analyze) where
  refused hnone := by
    rw [explain, hnone]
    exact ⟨rfl, rfl, rfl, rfl⟩
  unreachable statement failure hstatement hfailure := by
    rw [explain, hstatement, hfailure]
    cases failure with
    | database message => exact ⟨rfl, rfl, message, rfl, rfl⟩
    | foreign exception => exact absurd hfailure (h.connecting exception)
  attempted statement hstatement hconnect := (explains_explain h hconnect hstatement analyze).attempted

/-- A database that plans, but runs nothing. -/
def planningOnly : Sandbox where
  steps := [.fails (.database "division by zero"), .returns (some (.text "[]"))]

theorem reports_planningOnly : planningOnly.Reports :=
  ⟨by simp [planningOnly], by simp [planningOnly]⟩

/-- There the query is sent twice, and its plan is not measured. -/
theorem protocol_explain_planningOnly : planningOnly.Reports ∧
    Statement.ofQuery? "SELECT 1 / 0 FROM t;" = some "SELECT 1 / 0 FROM t" ∧
      (planningOnly.explain "SELECT 1 / 0 FROM t;" true).executed =
        [order true "SELECT 1 / 0 FROM t", order false "SELECT 1 / 0 FROM t"] ∧
      (planningOnly.explain "SELECT 1 / 0 FROM t;" true).outcome = .ok (.text "[]", false) := by
  have hstatement : Statement.ofQuery? "SELECT 1 / 0 FROM t;" = some "SELECT 1 / 0 FROM t" := by
    decide +kernel
  have hattempted :=
    (protocol_explain reports_planningOnly "SELECT 1 / 0 FROM t;" true).attempted _ hstatement rfl
  have hsent := hattempted.retried.mpr ⟨rfl, _, rfl⟩
  refine ⟨reports_planningOnly, hstatement, hsent, (hattempted.returned _ _).mpr ?_⟩
  rw [hsent]
  rfl

end QueryAdvisor.Sandbox
