import QueryAdvisor.Proofs.Sandbox.Compliance

/-!
# What is kept of a query

Three cuts at the end make the statement of a query: blanks, semicolons, blanks. With one `;` at most
this takes off a terminator and the blanks around it, and nothing else:

    query      …  last mark  blanks  ;  blanks
    statement  …  last mark

What is kept ends in a mark that none of the cuts takes, so a second time nothing is cut; and it starts
as the query does. A query with nothing but blanks behind its `;` always has a statement.
-/

namespace QueryAdvisor
open CodePoint (isBlank semicolon)

namespace Statement
open Text (allBlank trim trimEnd dropEnd)

/-- The statement is the query up to its terminator. -/
structure IsKeptOf (statement query : Text) : Prop where
  /-- What is missing are blanks and one `;` at most, all at the end. -/
  ending : ∃ tail, query = statement ++ tail ∧ IsRemainder tail ∧ tail.count semicolon ≤ 1
  /-- There is a last code point, which is no blank and no `;`. -/
  last : ∃ init c, statement = init ++ [c] ∧ isBlank c = false ∧ c ≠ semicolon
  /-- Behind the blanks in front stands a word that starts a query, in any letter case. -/
  start : Policy.selectWord <+: Text.upper (statement.dropWhile isBlank) ∨
    Policy.withWord <+: Text.upper (statement.dropWhile isBlank)
  /-- The statement is its own statement. -/
  stable : ofQuery? statement = some statement

/-! ### The cuts -/

theorem isRemainder_of_allBlank {t : Text} (h : allBlank t = true) : IsRemainder t :=
  fun c hc => Or.inl (List.all_eq_true.mp h c hc)

theorem count_semicolon_of_allBlank {t : Text} (h : allBlank t = true) : t.count semicolon = 0 :=
  Text.count_of_allBlank CodePoint.isBlank_semicolon h

/-- What is missing of the query. -/
theorem exists_ending {query statement : Text} (haccepts : Policy.Accepts query)
    (h : ofQuery? query = some statement) :
    ∃ tail, query = statement ++ tail ∧ IsRemainder tail ∧ tail.count semicolon ≤ 1 := by
  rcases cases_of_ofQuery? haccepts h with ⟨rfl, -⟩ | ⟨head, tail, rfl, -, hblank, rfl⟩
  · obtain ⟨blanks, hquery, hblanks⟩ := Text.exists_dropEnd_append isBlank query
    refine ⟨blanks, hquery, isRemainder_of_allBlank hblanks, ?_⟩
    rw [count_semicolon_of_allBlank hblanks]
    exact Nat.zero_le 1
  · obtain ⟨blanks, hhead, hblanks⟩ := Text.exists_dropEnd_append isBlank head
    refine ⟨blanks ++ semicolon :: tail, ?_, ?_, ?_⟩
    · rw [← List.append_assoc]
      exact congrArg (· ++ semicolon :: tail) hhead
    · intro c hc
      rcases List.mem_append.mp hc with hc | hc
      · exact isRemainder_of_allBlank hblanks c hc
      · rcases List.mem_cons.mp hc with rfl | hc
        · exact Or.inr rfl
        · exact isRemainder_of_allBlank hblank c hc
    · rw [List.count_append, List.count_cons_self, count_semicolon_of_allBlank hblanks,
        count_semicolon_of_allBlank hblank]

/-- The statement of an accepted query starts with a word that starts a query. -/
theorem starts_trim {query statement : Text} (haccepts : Policy.Accepts query)
    (h : ofQuery? query = some statement) :
    Policy.selectWord <+: Text.upper (trim statement) ∨
      Policy.withWord <+: Text.upper (trim statement) := by
  have hrule : Policy.Rule.start ∈ Policy.Rule.onShape := by decide
  have hkept : ¬ (¬ Policy.selectWord <+: Text.upper (trim statement) ∧
      ¬ Policy.withWord <+: Text.upper (trim statement)) :=
    not_violated_of_onShape haccepts h hrule
  tauto

theorem statement_ne_nil {query statement : Text} (haccepts : Policy.Accepts query)
    (h : ofQuery? query = some statement) : statement ≠ [] := by
  rintro rfl
  rcases starts_trim haccepts h with hstart | hstart
  · exact absurd (List.prefix_nil.mp hstart) (by decide)
  · exact absurd (List.prefix_nil.mp hstart) (by decide)

/-- The last mark of the statement is none that is cut off. -/
theorem exists_last {query statement : Text} (haccepts : Policy.Accepts query)
    (h : ofQuery? query = some statement) :
    ∃ init c, statement = init ++ [c] ∧ isBlank c = false ∧ c ≠ semicolon := by
  obtain ⟨init, c, hlast⟩ :=
    (List.eq_nil_or_concat statement).resolve_left (statement_ne_nil haccepts h)
  rw [List.concat_eq_append] at hlast
  refine ⟨init, c, hlast, ?_⟩
  rcases cases_of_ofQuery? haccepts h with ⟨htrim, hne⟩ | ⟨head, tail, -, hhead, -, htrim⟩
  · refine ⟨Text.isBlank_of_trimEnd_eq_concat (htrim.symm.trans hlast), ?_⟩
    rintro rfl
    exact hne (by rw [hlast, List.getLast?_concat])
  · refine ⟨Text.isBlank_of_trimEnd_eq_concat (htrim.symm.trans hlast), ?_⟩
    rintro rfl
    exact semicolon_not_mem_trimEnd hhead (by rw [← htrim, hlast]; simp)

/-! ### Cutting once more -/

/-- None of the cuts takes a last mark that is no blank and no `;`. -/
theorem withoutTerminator_concat {c : CodePoint} (hblank : isBlank c = false) (hne : c ≠ semicolon)
    (init : Text) : withoutTerminator (init ++ [c]) = init ++ [c] := by
  have htrim : trimEnd (init ++ [c]) = init ++ [c] := by
    rw [trimEnd, Text.dropEnd_concat, hblank, if_neg (by decide)]
  have hcut : dropEnd (· = semicolon) (init ++ [c]) = init ++ [c] := by
    rw [Text.dropEnd_concat, decide_eq_false hne, if_neg (by decide)]
  rw [withoutTerminator, htrim, hcut, htrim]

/-- A statement is what the cuts leave, if this is not refused. -/
theorem ofQuery?_eq_some_iff {query statement : Text} : ofQuery? query = some statement ↔
    withoutTerminator query = statement ∧
      ¬ (statement.contains semicolon && quotesEven (statement.takeWhile (· ≠ semicolon))) = true := by
  simp only [ofQuery?]
  split
  · next hrefused =>
    constructor
    · intro h
      cases h
    · rintro ⟨rfl, hkept⟩
      exact absurd hrefused hkept
  · next hkept =>
    constructor
    · intro h
      obtain rfl := Option.some.inj h
      exact ⟨rfl, hkept⟩
    · rintro ⟨rfl, -⟩
      rfl

/-- Where the cuts take nothing more, the statement is its own statement. -/
theorem ofQuery?_of_ofQuery? {query statement : Text} (h : ofQuery? query = some statement)
    (hsame : withoutTerminator statement = statement) : ofQuery? statement = some statement :=
  ofQuery?_eq_some_iff.mpr ⟨hsame, (ofQuery?_eq_some_iff.mp h).2⟩

/-! ### The whole -/

/-- Nothing but blanks behind the `;`: there is a statement, whatever the quotes. -/
theorem exists_ofQuery? {query : Text} (haccepts : Policy.Accepts query)
    (hends : ∀ head tail, query = head ++ semicolon :: tail → allBlank tail = true) :
    ∃ statement, ofQuery? query = some statement := by
  rcases Policy.semicolon_not_mem_or_exists_split haccepts with hnone | ⟨head, tail, rfl, hhead, -⟩
  · exact ⟨_, ofQuery?_of_not_mem hnone⟩
  · exact ⟨_, ofQuery?_of_terminated hhead (hends head tail rfl)⟩

/-- An accepted query with nothing but blanks behind each `;` has a statement, and whatever statement an
accepted query has is the query up to its terminator. -/
theorem isKeptOf_of_ofQuery? {query : Text} (haccepts : Policy.Accepts query) :
    ((∀ head tail, query = head ++ semicolon :: tail → allBlank tail = true) →
      ∃ statement, ofQuery? query = some statement) ∧
    ∀ statement, ofQuery? query = some statement → IsKeptOf statement query := by
  refine ⟨exists_ofQuery? haccepts, ?_⟩
  intro statement h
  have hstart := starts_trim haccepts h
  obtain ⟨init, c, rfl, hblank, hne⟩ := exists_last haccepts h
  rw [Text.trim_concat hblank, ← Text.dropWhile_concat hblank] at hstart
  exact
    { ending := exists_ending haccepts h
      last := ⟨init, c, rfl, hblank, hne⟩
      start := hstart
      stable := ofQuery?_of_ofQuery? h (withoutTerminator_concat hblank hne init) }

/-- A query with blanks on both sides of its terminator, which is read inside quotes. -/
def spacedTerminator : Text :=
  Text.ofString " select \"'\" FROM t, ' " ++ semicolon :: Text.ofString " \n"

/-- The query is accepted, nothing but blanks stands behind its `;`, and its statement is the query up to
its terminator. -/
theorem isKeptOf_of_ofQuery?_spacedTerminator : Policy.Accepts spacedTerminator ∧
    ∃ statement, ofQuery? spacedTerminator = some statement ∧
      IsKeptOf statement spacedTerminator := by
  have hfacts : Policy.Accepts spacedTerminator ∧
      semicolon ∉ Text.ofString " select \"'\" FROM t, ' " ∧ semicolon ∉ Text.ofString " \n" ∧
        allBlank (Text.ofString " \n") = true := by decide +kernel
  obtain ⟨haccepts, hhead, htail, hblank⟩ := hfacts
  have hkept := isKeptOf_of_ofQuery? haccepts
  obtain ⟨statement, hstatement⟩ := hkept.1 (by
    intro head tail hsplit
    obtain ⟨-, -, rfl⟩ := (List.append_cons_inj_of_notMem hhead htail).mp hsplit
    exact hblank)
  exact ⟨haccepts, statement, hstatement, hkept.2 statement hstatement⟩

end Statement

end QueryAdvisor
