import QueryAdvisor.Sandbox

/-!
# What is sent to the sandbox

Whatever the database does, what it is sent is the statement of the query behind a command, and it is
sent something as soon as there is a statement and a connection.
-/

namespace QueryAdvisor.Sandbox

/-- The commands that a statement is sent behind. -/
def commands : List Text := [Statement.analyzeCommand, Statement.planCommand]

theorem executed_planOnly (steps : List SandboxStep) (statement : Text) :
    (planOnly steps statement).executed = [Statement.planCommand ++ statement] := by
  rw [planOnly]
  split <;> rfl

/-- The run comes first; where the database refuses it, the plan follows. -/
theorem executed_runOrPlan (steps : List SandboxStep) (statement : Text) :
    ∃ second, (runOrPlan steps statement).executed =
      (Statement.analyzeCommand ++ statement) :: second ∧
        (second = [] ∨ second = [Statement.planCommand ++ statement]) := by
  rw [runOrPlan]
  split
  · exact ⟨[], rfl, Or.inl rfl⟩
  · next rest _ => exact ⟨_, rfl, Or.inr (executed_planOnly rest statement)⟩
  · exact ⟨[], rfl, Or.inl rfl⟩

/-- Without a connection nothing is sent. -/
theorem executed_of_connectFailure {sandbox : Sandbox} {failure : SandboxFailure}
    (h : sandbox.connectFailure = some failure) (sql : Text) (analyze : Bool) :
    (sandbox.explain sql analyze).executed = [] := by
  rw [explain]
  split
  · rfl
  · rw [h]
    cases failure <;> rfl

theorem explain_of_statement {sandbox : Sandbox} (hconnect : sandbox.connectFailure = none)
    {sql statement : Text} (hstatement : Statement.ofQuery? sql = some statement) (analyze : Bool) :
    sandbox.explain sql analyze =
      if analyze then runOrPlan sandbox.steps statement else planOnly sandbox.steps statement := by
  rw [explain, hstatement, hconnect]

/-- With a connection and a statement, something is sent, and nothing but the statement behind a
command. -/
theorem executed_of_statement {sandbox : Sandbox} (hconnect : sandbox.connectFailure = none)
    {sql statement : Text} (hstatement : Statement.ofQuery? sql = some statement) (analyze : Bool) :
    (sandbox.explain sql analyze).executed ≠ [] ∧
      ∀ sent ∈ (sandbox.explain sql analyze).executed,
        ∃ command ∈ commands, sent = command ++ statement := by
  rw [explain_of_statement hconnect hstatement]
  cases analyze with
  | false =>
    rw [if_neg (by decide), executed_planOnly]
    refine ⟨List.cons_ne_nil _ _, ?_⟩
    intro sent hsent
    exact ⟨Statement.planCommand, by simp [commands], List.mem_singleton.mp hsent⟩
  | true =>
    obtain ⟨second, hsent, hsecond⟩ := executed_runOrPlan sandbox.steps statement
    rw [if_pos rfl, hsent]
    refine ⟨List.cons_ne_nil _ _, ?_⟩
    intro sent hmem
    rcases List.mem_cons.mp hmem with rfl | hmem
    · exact ⟨Statement.analyzeCommand, by simp [commands], rfl⟩
    · rcases hsecond with rfl | rfl
      · cases hmem
      · exact ⟨Statement.planCommand, by simp [commands], List.mem_singleton.mp hmem⟩

/-- Whatever is sent is sent over a connection, and is the statement of the query behind a command. -/
theorem of_mem_executed {sandbox : Sandbox} {sql : Text} {analyze : Bool} {sent : Text}
    (h : sent ∈ (sandbox.explain sql analyze).executed) : sandbox.connectFailure = none ∧
      ∃ statement, Statement.ofQuery? sql = some statement ∧
        ∃ command ∈ commands, sent = command ++ statement := by
  cases hstatement : Statement.ofQuery? sql with
  | none =>
    rw [explain, hstatement] at h
    cases h
  | some statement =>
    cases hconnect : sandbox.connectFailure with
    | some failure =>
      rw [executed_of_connectFailure hconnect] at h
      cases h
    | none =>
      obtain ⟨-, hall⟩ := executed_of_statement hconnect hstatement analyze
      exact ⟨rfl, statement, rfl, hall sent h⟩

/-- Some statement sent has a property that commands do not touch if and only if the statement of the
query has it and there is a connection. -/
theorem exists_executed_iff {P : Text → Prop}
    (hcommand : ∀ command ∈ commands, ∀ statement, P (command ++ statement) ↔ P statement)
    (sandbox : Sandbox) (sql : Text) (analyze : Bool) :
    (∃ sent ∈ (sandbox.explain sql analyze).executed, P sent) ↔
      sandbox.connectFailure = none ∧ ∃ statement, Statement.ofQuery? sql = some statement ∧
        P statement := by
  constructor
  · rintro ⟨sent, hsent, hP⟩
    obtain ⟨hconnect, statement, hstatement, command, hmem, rfl⟩ := of_mem_executed hsent
    exact ⟨hconnect, statement, hstatement, (hcommand command hmem statement).mp hP⟩
  · rintro ⟨hconnect, statement, hstatement, hP⟩
    obtain ⟨hne, hall⟩ := executed_of_statement hconnect hstatement analyze
    obtain ⟨sent, hsent⟩ := List.exists_mem_of_ne_nil _ hne
    obtain ⟨command, hmem, rfl⟩ := hall sent hsent
    exact ⟨_, hsent, (hcommand command hmem statement).mpr hP⟩

end QueryAdvisor.Sandbox
