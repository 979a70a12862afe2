import QueryAdvisor.Proofs.Sandbox.Execution
import QueryAdvisor.Proofs.Sandbox.Quotes
import QueryAdvisor.Proofs.Sandbox.Terminator

/-!
# When a second statement is sent

The sandbox refuses a query with something behind its `;` if the quotes before the `;` are even in
number, and takes it for text between quotes otherwise. Read from the start, the `;` can be outside all
the same: a stray, such as the apostrophe in `"it's"`, makes the number odd. The main statement is the
exact condition under which what follows a `;` outside of quotes is sent, over all accepted queries and
all behaviours of the database.
-/

namespace QueryAdvisor
open CodePoint (semicolon)

/-- The parts of a query whose `;`, read from the start, is outside of quotes while the quotes before it
are odd in number: something follows the `;`, and some kind of quote has an odd number of strays. -/
def SlipsThrough (query : Text) : Prop :=
  ∃ head tail, query = head ++ semicolon :: tail ∧ ¬ Text.allBlank tail = true ∧
    Quote.behind head = none ∧ ∃ k : Quote, Quote.strays k head % 2 = 1

namespace Statement

/-- With one `;` at most, the statement has a `;` outside of quotes if and only if the query slips
through. -/
theorem exists_ofQuery?_outside_iff {query : Text} (h : semicolon ∉ query ∨
      ∃ head tail, query = head ++ semicolon :: tail ∧ semicolon ∉ head ∧ semicolon ∉ tail) :
    (∃ statement, ofQuery? query = some statement ∧ Quote.Outside semicolon statement) ↔
      SlipsThrough query := by
  rcases h with hnone | ⟨head, tail, rfl, hhead, htail⟩
  · constructor
    · rintro ⟨statement, hstatement, houtside⟩
      rw [ofQuery?_of_not_mem hnone] at hstatement
      obtain rfl := Option.some.inj hstatement
      exact absurd houtside (Quote.not_outside_of_not_mem (semicolon_not_mem_trimEnd hnone))
    · rintro ⟨head, tail, rfl, -⟩
      exact absurd (by simp) hnone
  · -- the parts of the query are unique, so both sides speak of the same `head`
    have hslips : SlipsThrough (head ++ semicolon :: tail) ↔ ¬ Text.allBlank tail = true ∧
        Quote.behind head = none ∧ ∃ k : Quote, Quote.strays k head % 2 = 1 := by
      constructor
      · rintro ⟨head', tail', hsplit, hrest⟩
        obtain ⟨rfl, -, rfl⟩ := (List.append_cons_inj_of_notMem hhead htail).mp hsplit
        exact hrest
      · intro hrest
        exact ⟨head, tail, rfl, hrest⟩
    rw [hslips]
    by_cases hblank : Text.allBlank tail = true
    · rw [ofQuery?_of_terminated hhead hblank]
      constructor
      · rintro ⟨statement, hstatement, houtside⟩
        obtain rfl := Option.some.inj hstatement
        exact absurd houtside (Quote.not_outside_of_not_mem (semicolon_not_mem_trimEnd hhead))
      · rintro ⟨hfollowed, -⟩
        exact absurd hblank hfollowed
    · rw [ofQuery?_of_followed hhead htail hblank]
      have houtside := Quote.outside_append_cons hhead (semicolon_not_mem_trimEnd htail)
      constructor
      · rintro ⟨statement, hstatement, hout⟩
        by_cases heven : quotesEven head = true
        · rw [if_pos heven] at hstatement
          cases hstatement
        · rw [if_neg heven] at hstatement
          obtain rfl := Option.some.inj hstatement
          have hbehind := houtside.mp hout
          exact ⟨hblank, hbehind, (Quote.not_quotesEven_iff hbehind).mp heven⟩
      · rintro ⟨-, hbehind, hodd⟩
        have heven := (Quote.not_quotesEven_iff hbehind).mpr hodd
        exact ⟨_, if_neg heven, houtside.mpr hbehind⟩

end Statement

namespace Sandbox

/-- Commands hold neither quotes nor a `;`. -/
theorem commands_plain : ∀ command ∈ commands, ∀ c ∈ command,
    Quote.step none c = none ∧ c ≠ semicolon := by decide +kernel

theorem outside_command_append {command : Text} (h : command ∈ commands) (statement : Text) :
    Quote.Outside semicolon (command ++ statement) ↔ Quote.Outside semicolon statement :=
  Quote.outside_append (commands_plain command h) statement

/-- For an accepted query, the database is sent a `;` outside of quotes if and only if it lets itself be
connected to and the query slips through. -/
theorem exists_executed_outside_iff {query : Text} (h : Policy.Accepts query) (sandbox : Sandbox)
    (analyze : Bool) :
    (∃ sent ∈ (sandbox.explain query analyze).executed, Quote.Outside semicolon sent) ↔
      sandbox.connectFailure = none ∧ SlipsThrough query := by
  rw [exists_executed_iff (fun command hmem => outside_command_append hmem),
    Statement.exists_ofQuery?_outside_iff (Policy.semicolon_not_mem_or_exists_split h)]

/-- A query with a second statement, which is hidden from the count of quotes by two apostrophes. -/
def secondStatement : Text :=
  "SELECT id AS \"it's\" FROM t; REFRESH MATERIALIZED VIEW \"it's\""

/-- The policy accepts the query with the second statement, and a database that lets itself be connected
to is sent both. -/
theorem exists_executed_outside_secondStatement : Policy.Accepts secondStatement ∧
    ∃ sent ∈ (({} : Sandbox).explain secondStatement true).executed, Quote.Outside semicolon sent := by
  have haccepts : Policy.Accepts secondStatement := by decide +kernel
  refine ⟨haccepts, (exists_executed_outside_iff haccepts {} true).mpr ⟨rfl, ?_⟩⟩
  refine ⟨"SELECT id AS \"it's\" FROM t", " REFRESH MATERIALIZED VIEW \"it's\"", ?_, ?_, ?_, .single,
    ?_⟩
  · decide +kernel
  · decide +kernel
  · decide +kernel
  · decide +kernel

/-- So it does not hold that the database is never sent a `;` outside of quotes. -/
theorem not_forall_executed_no_outside : ¬ ∀ query : Text, Policy.Accepts query →
    ∀ (sandbox : Sandbox) (analyze : Bool), ∀ sent ∈ (sandbox.explain query analyze).executed,
      ¬ Quote.Outside semicolon sent := by
  intro h
  refine h secondStatement (by decide +kernel) {} true
    (Statement.analyzeCommand ++ secondStatement) (by decide +kernel) ?_
  refine ⟨Statement.analyzeCommand ++ Text.ofString "SELECT id AS \"it's\" FROM t",
    " REFRESH MATERIALIZED VIEW \"it's\"", ?_, ?_⟩
  · decide +kernel
  · decide +kernel

end Sandbox

end QueryAdvisor
