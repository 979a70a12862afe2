import QueryAdvisor.Proofs.Sandbox.Terminator
import QueryAdvisor.Proofs.Text.Capitals

/-!
# What is sent keeps the policy, but for its last word

The policy checks the query, the sandbox gets its statement. Trimmed, the query is the statement with a
remainder of blanks and at most one `;`, and no rule but those on words sees such a remainder. The rules
on words do: a word that was glued to the final `;` stands alone when the `;` is gone.

    … WHERE drop;   words of the query:      …  WHERE  drop;
    … WHERE drop    words of the statement:  …  WHERE  drop
-/

namespace QueryAdvisor
open CodePoint (isBlank semicolon)

/-! ### Texts with a remainder of blanks and semicolons -/

/-- Nothing but blanks and semicolons. -/
def IsRemainder (t : Text) : Prop := ∀ c ∈ t, isBlank c = true ∨ c = semicolon

theorem IsRemainder.upper {t : Text} (h : IsRemainder t) : Text.upper t = t := by
  induction t with
  | nil => rfl
  | cons c t ih =>
    obtain ⟨hc, ht⟩ := List.forall_mem_cons.mp h
    have hcapital : c.upper = [c] := by
      rcases hc with hblank | rfl
      · exact CodePoint.upper_of_isBlank hblank
      · decide
    rw [Text.upper_cons, hcapital, ih ht, List.singleton_append]

/-- A pattern without blanks and semicolons. -/
def IsSolid (pattern : Text) : Prop := ∀ c ∈ pattern, isBlank c = false ∧ c ≠ semicolon

theorem IsSolid.not_mem {pattern : Text} (h : IsSolid pattern) {c : CodePoint}
    (hc : isBlank c = true ∨ c = semicolon) : c ∉ pattern := by
  intro hmem
  obtain ⟨hblank, hne⟩ := h c hmem
  rcases hc with hc | hc
  · rw [hblank] at hc
    cases hc
  · exact hne hc

theorem IsSolid.prefix_append_iff {pattern t : Text} (h : IsSolid pattern) (ht : IsRemainder t)
    (s : Text) : pattern <+: s ++ t ↔ pattern <+: s := by
  induction t generalizing s with
  | nil => rw [List.append_nil]
  | cons c t ih =>
    obtain ⟨hc, ht⟩ := List.forall_mem_cons.mp ht
    rw [List.append_cons, ih ht, List.prefix_concat_iff, or_iff_right]
    rintro rfl
    exact h.not_mem hc (by simp)

theorem IsSolid.infix_append_iff {pattern t : Text} (h : IsSolid pattern) (ht : IsRemainder t)
    (s : Text) : pattern <:+: s ++ t ↔ pattern <:+: s := by
  induction t generalizing s with
  | nil => rw [List.append_nil]
  | cons c t ih =>
    obtain ⟨hc, ht⟩ := List.forall_mem_cons.mp ht
    rw [List.append_cons, ih ht, List.infix_concat_iff, or_iff_right_of_imp]
    intro hsuffix
    rcases List.suffix_concat_iff.mp hsuffix with rfl | ⟨t', rfl, -⟩
    · exact List.nil_infix
    · exact absurd (by simp) (h.not_mem hc)

theorem IsRemainder.count {t : Text} (h : IsRemainder t) {c : CodePoint} (hblank : isBlank c = false)
    (hne : c ≠ semicolon) (s : Text) : (s ++ t).count c = s.count c := by
  have hnone : c ∉ t := by
    intro hmem
    rcases h c hmem with hc | hc
    · rw [hblank] at hc
      cases hc
    · exact hne hc
  rw [List.count_append, List.count_eq_zero.mpr hnone, Nat.add_zero]

namespace Policy.Rule
open CodePoint (openParen closeParen singleQuote doubleQuote)

/-- The rules that say how a query is built. -/
def onShape : List Rule :=
  [.parens, .singleQuotes, .doubleQuotes, .start, .source, .marker, .statements]

/-- The rules on words. -/
def onWords : List Rule := [.definition, .manipulation, .transaction]

/-- A rule on the shape that holds of a text with a remainder holds of the text. -/
theorem violatedBy_append {t u tail : Text} (htail : IsRemainder tail) {rule : Rule}
    (hrule : rule ∈ onShape) (h : rule.ViolatedBy t u) : rule.ViolatedBy (t ++ tail) (u ++ tail) := by
  have hsolid : ∀ pattern ∈ [selectWord, withWord, fromWord], IsSolid pattern := by
    unfold IsSolid
    decide +kernel
  cases rule with
  | parens =>
    rwa [ViolatedBy, htail.count (by decide) (by decide), htail.count (by decide) (by decide)]
  | singleQuotes => rwa [ViolatedBy, htail.count (by decide) (by decide)]
  | doubleQuotes => rwa [ViolatedBy, htail.count (by decide) (by decide)]
  | start =>
    rwa [ViolatedBy, (hsolid selectWord (by simp)).prefix_append_iff htail,
      (hsolid withWord (by simp)).prefix_append_iff htail]
  | source =>
    rwa [ViolatedBy, (hsolid selectWord (by simp)).prefix_append_iff htail,
      (hsolid fromWord (by simp)).infix_append_iff htail]
  | marker =>
    obtain ⟨culprit, hmem, hfinds⟩ := h
    rw [Finds, if_pos rfl] at hfinds
    refine ⟨culprit, hmem, ?_⟩
    rw [Finds, if_pos rfl]
    exact hfinds.trans (List.prefix_append u tail).isInfix
  | statements =>
    have hcount : 1 < t.count semicolon := h
    show 1 < (t ++ tail).count semicolon
    rw [List.count_append]
    omega
  | _ => simp [onShape] at hrule

/-- A rule on words is violated by a text if and only if some word of the text, in upper case, is a
forbidden one. -/
theorem violated_iff_exists_word {rule : Rule} (hrule : rule ∈ onWords) (query : Text) :
    rule.Violated query ↔ ∃ word ∈ Text.words query, Text.upper word ∈ rule.forbidden := by
  have hfinds : rule.Violated query ↔ ∃ culprit ∈ rule.forbidden,
      culprit ∈ Text.words (Text.upper (Text.trim query)) := by
    simp only [onWords, List.mem_cons, List.not_mem_nil, or_false] at hrule
    rcases hrule with rfl | rfl | rfl <;> exact Iff.rfl
  rw [hfinds, Text.words_upper, Text.words_trim]
  constructor
  · rintro ⟨culprit, hforbidden, hmem⟩
    obtain ⟨word, hword, rfl⟩ := List.mem_map.mp hmem
    exact ⟨word, hword, hforbidden⟩
  · rintro ⟨word, hword, hforbidden⟩
    exact ⟨_, hforbidden, List.mem_map_of_mem hword⟩

theorem forbidden_no_semicolon (rule : Rule) :
    ∀ culprit ∈ rule.forbidden, culprit ≠ [] ∧ semicolon ∉ culprit := by
  have hplain : ∀ rule ∈ all, ∀ culprit ∈ rule.forbidden, culprit ≠ [] ∧ semicolon ∉ culprit := by
    decide +kernel
  exact hplain rule (mem_all rule)

/-- Only a word, without a `;` in it, is forbidden in upper case. -/
theorem of_upper_mem_forbidden {rule : Rule} {word : Text} (h : Text.upper word ∈ rule.forbidden) :
    word ≠ [] ∧ semicolon ∉ word := by
  obtain ⟨hne, hsemicolon⟩ := forbidden_no_semicolon rule _ h
  constructor
  · rintro rfl
    exact hne Text.upper_nil
  · intro hmem
    exact hsemicolon (List.mem_flatMap.mpr ⟨semicolon, hmem, by decide⟩)

end Policy.Rule

namespace Statement
open Text (allBlank trim trimEnd words)

/-! ### The query and its statement -/

/-- The statement is the query without the blanks at its end and ends in no `;`, or it is what stands
before the final `;`, without the blanks at its end. -/
theorem cases_of_ofQuery? {query statement : Text} (haccepts : Policy.Accepts query)
    (h : ofQuery? query = some statement) :
    (statement = trimEnd query ∧ statement.getLast? ≠ some semicolon) ∨
      ∃ head tail, query = head ++ semicolon :: tail ∧ semicolon ∉ head ∧ allBlank tail = true ∧
        statement = trimEnd head := by
  rcases Policy.semicolon_not_mem_or_exists_split haccepts with hnone | ⟨head, tail, rfl, hhead, htail⟩
  · rw [ofQuery?_of_not_mem hnone] at h
    obtain rfl := Option.some.inj h
    refine Or.inl ⟨rfl, ?_⟩
    intro hlast
    exact semicolon_not_mem_trimEnd hnone (List.mem_of_getLast? hlast)
  · by_cases hblank : allBlank tail = true
    · rw [ofQuery?_of_terminated hhead hblank] at h
      exact Or.inr ⟨head, tail, rfl, hhead, hblank, (Option.some.inj h).symm⟩
    · rw [ofQuery?_of_followed hhead htail hblank, ← trimEnd_of_followed hblank] at h
      split at h
      · cases h
      · obtain rfl := Option.some.inj h
        exact Or.inl ⟨rfl, getLast?_trimEnd_of_followed htail hblank head⟩

/-- Trimmed, the query is the statement and a remainder. -/
theorem exists_trim_eq_append {query statement : Text} (haccepts : Policy.Accepts query)
    (h : ofQuery? query = some statement) :
    ∃ tail, trim query = trim statement ++ tail ∧ IsRemainder tail := by
  rcases cases_of_ofQuery? haccepts h with ⟨rfl, -⟩ | ⟨head, tail, rfl, -, hblank, rfl⟩
  · exact ⟨[], by rw [Text.trim_trimEnd, List.append_nil], by simp [IsRemainder]⟩
  · obtain ⟨blanks, hdrop, hblanks⟩ := Text.exists_dropEnd_append isBlank (head.dropWhile isBlank)
    refine ⟨blanks ++ [semicolon], ?_, ?_⟩
    · rw [List.append_cons, Text.trim_append_blanks hblank,
        Text.trim_concat CodePoint.isBlank_semicolon, Text.trim_trimEnd, ← List.append_assoc]
      exact congrArg (· ++ [semicolon]) hdrop
    · intro c hc
      rcases List.mem_append.mp hc with hc | hc
      · exact Or.inl (List.all_eq_true.mp hblanks c hc)
      · exact Or.inr (List.mem_singleton.mp hc)

/-- The last word of a text that ends in no `;` ends in none. -/
theorem getLast?_words_ne {query : Text} (h : (trimEnd query).getLast? ≠ some semicolon)
    (word : Text) : (words query).getLast? ≠ some (word ++ [semicolon]) := by
  rw [← Text.words_trimEnd]
  rcases List.eq_nil_or_concat (trimEnd query) with hnil | ⟨t, c, hconcat⟩
  · rw [hnil]
    simp [words, Text.splitBlank]
  · rw [List.concat_eq_append] at hconcat
    obtain ⟨init, last, hwords, -⟩ :=
      Text.words_concat (Text.isBlank_of_trimEnd_eq_concat hconcat) t
    rw [hconcat, hwords, List.getLast?_concat]
    rw [hconcat, List.getLast?_concat] at h
    intro hsame
    have hend := (List.append_inj' (Option.some.inj hsame) rfl).2
    exact h (congrArg some (List.cons.inj hend).1)

/-- The words of the statement are those of the query, and the last one that was glued to the `;`. -/
theorem mem_words_iff {query statement : Text} (haccepts : Policy.Accepts query)
    (h : ofQuery? query = some statement) {word : Text} (hne : word ≠ []) (hword : semicolon ∉ word) :
    word ∈ words statement ↔
      word ∈ words query ∨ (words query).getLast? = some (word ++ [semicolon]) := by
  rcases cases_of_ofQuery? haccepts h with ⟨rfl, hlast⟩ | ⟨head, tail, rfl, -, hblank, rfl⟩
  · rw [Text.words_trimEnd, or_iff_left (getLast?_words_ne hlast word)]
  · obtain ⟨init, last, hconcat, hmem⟩ := Text.words_concat CodePoint.isBlank_semicolon head
    have hglued : word ≠ last ++ [semicolon] := by
      rintro rfl
      exact hword (by simp)
    rw [Text.words_trimEnd, hmem, List.append_cons, Text.words_append_blanks hblank, hconcat,
      List.mem_append, List.mem_singleton, or_iff_left hglued, List.getLast?_concat]
    simp [hne, eq_comm]

/-! ### The policy -/

/-- The rules on the shape are kept. -/
theorem not_violated_of_onShape {query statement : Text} (haccepts : Policy.Accepts query)
    (h : ofQuery? query = some statement) {rule : Policy.Rule} (hrule : rule ∈ Policy.Rule.onShape) :
    ¬ rule.Violated statement := by
  intro hviolated
  obtain ⟨tail, htrim, htail⟩ := exists_trim_eq_append haccepts h
  have hupper : Text.upper (trim query) = Text.upper (trim statement) ++ tail := by
    rw [htrim, Text.upper_append, htail.upper]
  have hquery := Policy.Rule.violatedBy_append htail hrule hviolated
  rw [← htrim, ← hupper] at hquery
  exact Policy.accepts_iff_forall_not_violated.mp haccepts rule hquery

/-- A rule on words is violated by the statement if and only if the query ends in a forbidden word, in
any letter case, that is glued to the `;`. -/
theorem violated_iff_of_onWords {query statement : Text} (haccepts : Policy.Accepts query)
    (h : ofQuery? query = some statement) {rule : Policy.Rule} (hrule : rule ∈ Policy.Rule.onWords) :
    rule.Violated statement ↔ ∃ word, (words query).getLast? = some (word ++ [semicolon]) ∧
      Text.upper word ∈ rule.forbidden := by
  have hkept := Policy.accepts_iff_forall_not_violated.mp haccepts rule
  rw [Policy.Rule.violated_iff_exists_word hrule] at hkept ⊢
  constructor
  · rintro ⟨word, hword, hforbidden⟩
    obtain ⟨hne, hsemicolon⟩ := Policy.Rule.of_upper_mem_forbidden hforbidden
    rcases (mem_words_iff haccepts h hne hsemicolon).mp hword with hquery | hlast
    · exact absurd ⟨word, hquery, hforbidden⟩ hkept
    · exact ⟨word, hlast, hforbidden⟩
  · rintro ⟨word, hlast, hforbidden⟩
    obtain ⟨hne, hsemicolon⟩ := Policy.Rule.of_upper_mem_forbidden hforbidden
    exact ⟨word, (mem_words_iff haccepts h hne hsemicolon).mpr (Or.inr hlast), hforbidden⟩

/-- What is sent for an accepted query keeps the rules on its shape, and it violates a rule on words
exactly if the query ends in a forbidden word, in any letter case, that is glued to the `;`. -/
theorem violated_ofQuery?_iff {query statement : Text} (haccepts : Policy.Accepts query)
    (h : ofQuery? query = some statement) :
    (∀ rule ∈ Policy.Rule.onShape, ¬ rule.Violated statement) ∧
      ∀ rule ∈ Policy.Rule.onWords, (rule.Violated statement ↔
        ∃ word, (words query).getLast? = some (word ++ [semicolon]) ∧
          Text.upper word ∈ rule.forbidden) :=
  ⟨fun _ hrule => not_violated_of_onShape haccepts h hrule,
    fun _ hrule => violated_iff_of_onWords haccepts h hrule⟩

/-- A query that ends in a forbidden word, glued to the `;`. -/
def gluedDrop : Text := "SELECT a FROM t WHERE drop;"

/-- The query is accepted, its statement violates the rule on definitions. -/
theorem violated_ofQuery?_gluedDrop : Policy.Accepts gluedDrop ∧
    ofQuery? gluedDrop = some "SELECT a FROM t WHERE drop" ∧
      Policy.Rule.definition.Violated "SELECT a FROM t WHERE drop" := by
  have haccepts : Policy.Accepts gluedDrop := by decide +kernel
  have hstatement : ofQuery? gluedDrop = some "SELECT a FROM t WHERE drop" := by decide +kernel
  refine ⟨haccepts, hstatement, ?_⟩
  refine ((violated_ofQuery?_iff haccepts hstatement).2 .definition (by decide)).mpr ⟨"drop", ?_, ?_⟩
  · decide +kernel
  · decide +kernel

/-- So it does not hold that what is sent keeps all rules that an accepted query keeps, those on its
length apart. -/
theorem not_forall_statement_kept : ¬ ∀ query statement : Text, Policy.Accepts query →
    ofQuery? query = some statement →
      ∀ rule ∈ Policy.Rule.onShape ++ Policy.Rule.onWords, ¬ rule.Violated statement := by
  intro h
  refine h gluedDrop "SELECT a FROM t WHERE drop" (by decide +kernel) (by decide +kernel) .definition
    (by decide) ⟨"DROP", by decide +kernel, ?_⟩
  show Text.ofString "DROP" ∈ _
  decide +kernel

end Statement

end QueryAdvisor
