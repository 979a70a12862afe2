import QueryAdvisor.Policy
import QueryAdvisor.Proofs.Text.Words

/-!
# The rules of the policy

`Policy.check` is a chain of tests that stops at the first failure. Beside it stands a list of rules,
each with its own meaning: what it is for a query to violate the rule, said with the words of its
upper-case form where the check scans for them.

    query ──trim──▶ t ──▶ lengths, brackets, quotes, semicolons
                    │ upper
                    ▼
                    u ──▶ start, `FROM`, words of `u`, markers inside `u`

The check accepts what violates no rule, and what it reports otherwise is the first rule violated, with
the first forbidden word or marker of that rule.
-/

namespace QueryAdvisor.Policy
open CodePoint (isBlank openParen closeParen singleQuote doubleQuote semicolon)

/-- What the policy asks of a query. -/
inductive Rule where
  | empty | tooShort | tooLong
  | parens | singleQuotes | doubleQuotes
  | start | source
  | definition | manipulation | transaction | marker
  | statements
  deriving DecidableEq, Repr

namespace Rule

/-- All rules, in the order in which they are applied. -/
def all : List Rule :=
  [.empty, .tooShort, .tooLong, .parens, .singleQuotes, .doubleQuotes, .start, .source,
    .definition, .manipulation, .transaction, .marker, .statements]

/-- The code by which clients know that the rule is violated. -/
def code : Rule → String
  | .empty => "empty"
  | .tooShort => "too-short"
  | .tooLong => "too-long"
  | .parens => "unbalanced-parens"
  | .singleQuotes => "unclosed-single-quote"
  | .doubleQuotes => "unclosed-double-quote"
  | .start => "not-select-or-cte"
  | .source => "missing-from"
  | .definition => "forbidden-ddl"
  | .manipulation => "forbidden-dml"
  | .transaction => "forbidden-transaction-control"
  | .marker => "forbidden-function"
  | .statements => "multiple-statements"

/-- The words or markers that a rule forbids. -/
def forbidden : Rule → List Text
  | .definition => definitionWords
  | .manipulation => manipulationWords
  | .transaction => transactionWords
  | .marker => dangerousMarkers
  | _ => []

/-- Where a rule looks for what it forbids: a marker anywhere, a word among the words. -/
def Finds (rule : Rule) (upper culprit : Text) : Prop :=
  if rule = .marker then culprit <:+: upper else culprit ∈ Text.words upper

/-- The rule is violated by a query that is `t` without the blanks around it, and `u` in upper case. -/
def ViolatedBy (t u : Text) : Rule → Prop
  | .empty => t = []
  | .tooShort => t.length < 10
  | .tooLong => 100000 < t.length
  | .parens => t.count openParen ≠ t.count closeParen
  | .singleQuotes => t.count singleQuote % 2 = 1
  | .doubleQuotes => t.count doubleQuote % 2 = 1
  | .start => ¬ selectWord <+: u ∧ ¬ withWord <+: u
  | .source => selectWord <+: u ∧ ¬ fromWord <:+: u
  | .statements => 1 < t.count semicolon
  | rule => ∃ culprit ∈ rule.forbidden, rule.Finds u culprit

/-- A query violates the rule. -/
def Violated (rule : Rule) (query : Text) : Prop :=
  rule.ViolatedBy (Text.trim query) (Text.upper (Text.trim query))

/-- The rule is the first one that a query violates. -/
def IsFirstViolated (rule : Rule) (query : Text) : Prop :=
  rule.Violated query ∧ ∃ before after, all = before ++ rule :: after ∧
    ∀ earlier ∈ before, ¬ earlier.Violated query

/-- What is told beside the code of a rule: the first of its words or markers that is found, nothing
where it has none. -/
def Names (rule : Rule) (u : Text) : Option Text → Prop
  | none => rule.forbidden = []
  | some culprit =>
    rule.Finds u culprit ∧ ∃ before after, rule.forbidden = before ++ culprit :: after ∧
      ∀ earlier ∈ before, ¬ rule.Finds u earlier

/-- A violation that tells of the rule what there is to tell. -/
def Reports (rule : Rule) (query : Text) (v : Violation) : Prop :=
  v.reason = rule.code ∧ rule.Names (Text.upper (Text.trim query)) v.keyword?

theorem mem_all (rule : Rule) : rule ∈ all := by cases rule <;> decide

/-! ### One rule of the check -/

/-- The part of the check that a rule stands for. -/
def verdict (t u : Text) : Rule → Option Violation
  | .empty => if t.isEmpty then some .empty else none
  | .tooShort => if t.length < minLength then some .tooShort else none
  | .tooLong => if maxLength < t.length then some .tooLong else none
  | .parens => if t.count openParen ≠ t.count closeParen then some .unbalancedParens else none
  | .singleQuotes => if t.count singleQuote % 2 ≠ 0 then some .unclosedSingleQuote else none
  | .doubleQuotes => if t.count doubleQuote % 2 ≠ 0 then some .unclosedDoubleQuote else none
  | .start =>
    if !selectWord.isPrefixOf u && !withWord.isPrefixOf u then some .notSelectOrWith else none
  | .source => if selectWord.isPrefixOf u && !Text.occurs fromWord u then some .missingFrom else none
  | .definition => (firstWord? definitionWords u).map .definition
  | .manipulation => (firstWord? manipulationWords u).map .manipulation
  | .transaction => (firstWord? transactionWords u).map .transaction
  | .marker => (firstMarker? dangerousMarkers u).map .dangerous
  | .statements => if 1 < t.count semicolon then some .severalStatements else none

theorem findSome?_cons_eq_or {α β : Type} (f : α → Option β) (a : α) (l : List α) :
    (a :: l).findSome? f = (f a).or (l.findSome? f) := by
  rw [List.findSome?_cons]
  cases f a <;> rfl

/-- A test that goes on where it finds nothing. -/
theorem ite_some_eq_or {α : Type} {c : Prop} [Decidable c] (v : α) (rest : Option α) :
    (if c then some v else rest) = (if c then some v else none).or rest := by
  split <;> rfl

/-- The check is its parts, one rule after the other. -/
theorem checkTrimmed_eq_findSome? (t u : Text) : checkTrimmed t u = all.findSome? (verdict t u) := by
  have hwords : checkWords u =
      (verdict t u .definition).or ((verdict t u .manipulation).or ((verdict t u .transaction).or
        (verdict t u .marker))) := by
    simp only [checkWords, Option.orElse_eq_orElse, Option.orElse_eq_or]
    rfl
  rw [checkTrimmed, ite_some_eq_or Violation.empty, ite_some_eq_or Violation.tooShort,
    ite_some_eq_or Violation.tooLong, ite_some_eq_or Violation.unbalancedParens,
    ite_some_eq_or Violation.unclosedSingleQuote, ite_some_eq_or Violation.unclosedDoubleQuote,
    ite_some_eq_or Violation.notSelectOrWith, ite_some_eq_or Violation.missingFrom, hwords]
  simp only [all, findSome?_cons_eq_or, List.findSome?_nil, Option.or_none, Option.or_assoc,
    Option.orElse_eq_orElse, Option.orElse_eq_or]
  rfl

/-! ### One rule is judged rightly -/

/-- What a part of the check says about a rule: nothing if it is kept, its code and culprit if not. -/
structure Judges (rule : Rule) (t u : Text) (outcome : Option Violation) : Prop where
  kept : outcome = none ↔ ¬ rule.ViolatedBy t u
  violated : ∀ v, outcome = some v → v.reason = rule.code ∧ rule.Names u v.keyword?

/-- A plain test judges the rule that it decides. -/
theorem judges_ite {rule : Rule} {t u : Text} {c : Prop} [Decidable c] {v : Violation}
    (hc : c ↔ rule.ViolatedBy t u) (hcode : v.reason = rule.code) (hname : rule.Names u v.keyword?) :
    rule.Judges t u (if c then some v else none) := by
  constructor
  · rw [← hc]
    split <;> simp_all
  · intro w hw
    split at hw
    · cases hw
      exact ⟨hcode, hname⟩
    · cases hw

theorem forbidden_wellFormed (rule : Rule) :
    ∀ culprit ∈ rule.forbidden, culprit ≠ [] ∧ ∀ c ∈ culprit, isBlank c = false := by
  cases rule <;> decide +kernel

/-- The scans for words and for markers find what the rules mean. -/
theorem hasWord_iff_finds {rule : Rule} (hrule : rule ≠ .marker) {culprit : Text}
    (h : culprit ∈ rule.forbidden) (u : Text) :
    Text.hasWord culprit u = true ↔ rule.Finds u culprit := by
  obtain ⟨hne, hblank⟩ := forbidden_wellFormed rule culprit h
  rw [Finds, if_neg hrule]
  exact Text.hasWord_iff_mem_words hne hblank

theorem occurs_iff_finds (culprit u : Text) :
    Text.occurs culprit u = true ↔ Rule.marker.Finds u culprit := by
  rw [Finds, if_pos rfl]
  exact Text.occurs_iff

/-- The search for the first culprit judges a rule that forbids words or markers. -/
theorem judges_find? {rule : Rule} {t u : Text} {test : Text → Bool} {report : Text → Violation}
    (hviolated : rule.ViolatedBy t u ↔ ∃ culprit ∈ rule.forbidden, rule.Finds u culprit)
    (htest : ∀ culprit ∈ rule.forbidden, test culprit = true ↔ rule.Finds u culprit)
    (hcode : ∀ culprit, (report culprit).reason = rule.code)
    (hname : ∀ culprit, (report culprit).keyword? = some culprit) :
    rule.Judges t u ((rule.forbidden.find? test).map report) := by
  constructor
  · rw [Option.map_eq_none_iff, List.find?_eq_none, hviolated]
    constructor
    · rintro h ⟨culprit, hmem, hfinds⟩
      exact h culprit hmem ((htest culprit hmem).mpr hfinds)
    · intro h culprit hmem htrue
      exact h ⟨culprit, hmem, (htest culprit hmem).mp htrue⟩
  · intro v hv
    obtain ⟨culprit, hfind, rfl⟩ := Option.map_eq_some_iff.mp hv
    obtain ⟨htrue, before, after, hlist, hbefore⟩ := List.find?_eq_some_iff_append.mp hfind
    refine ⟨hcode culprit, ?_⟩
    rw [hname culprit]
    have hmem : culprit ∈ rule.forbidden := by rw [hlist]; simp
    refine ⟨(htest culprit hmem).mp htrue, before, after, hlist, ?_⟩
    intro earlier hearlier hfinds
    have hearlier' : earlier ∈ rule.forbidden := by rw [hlist]; exact List.mem_append_left _ hearlier
    have hfalse := hbefore earlier hearlier
    rw [(htest earlier hearlier').mpr hfinds] at hfalse
    exact absurd hfalse (by decide)

theorem verdict_judges (t u : Text) (rule : Rule) : rule.Judges t u (verdict t u rule) := by
  cases rule with
  | empty => exact judges_ite List.isEmpty_iff rfl rfl
  | tooShort => exact judges_ite Iff.rfl rfl rfl
  | tooLong => exact judges_ite Iff.rfl rfl rfl
  | parens => exact judges_ite Iff.rfl rfl rfl
  | singleQuotes => exact judges_ite (by simp [ViolatedBy]) rfl rfl
  | doubleQuotes => exact judges_ite (by simp [ViolatedBy]) rfl rfl
  | start => exact judges_ite (by simp [ViolatedBy, ← List.isPrefixOf_iff_prefix]) rfl rfl
  | source =>
    refine judges_ite ?_ rfl rfl
    simp [ViolatedBy, ← List.isPrefixOf_iff_prefix, ← Text.occurs_iff]
  | definition =>
    exact judges_find? Iff.rfl (fun _ h => hasWord_iff_finds (by decide) h u)
      (fun _ => rfl) fun _ => rfl
  | manipulation =>
    exact judges_find? Iff.rfl (fun _ h => hasWord_iff_finds (by decide) h u)
      (fun _ => rfl) fun _ => rfl
  | transaction =>
    exact judges_find? Iff.rfl (fun _ h => hasWord_iff_finds (by decide) h u)
      (fun _ => rfl) fun _ => rfl
  | marker =>
    exact judges_find? Iff.rfl (fun k _ => occurs_iff_finds k u) (fun _ => rfl) fun _ => rfl
  | statements => exact judges_ite Iff.rfl rfl rfl

end Rule

/-! ### The whole check -/

theorem check_eq_findSome? (query : Text) : check query =
    Rule.all.findSome? (Rule.verdict (Text.trim query) (Text.upper (Text.trim query))) :=
  Rule.checkTrimmed_eq_findSome? _ _

/-- A query is accepted if and only if it violates no rule. -/
theorem accepts_iff_forall_not_violated {query : Text} :
    Accepts query ↔ ∀ rule : Rule, ¬ rule.Violated query := by
  rw [Accepts, check_eq_findSome?, List.findSome?_eq_none_iff]
  constructor
  · intro h rule
    exact (Rule.verdict_judges _ _ rule).kept.mp (h rule rule.mem_all)
  · intro h rule _
    exact (Rule.verdict_judges _ _ rule).kept.mpr (h rule)

/-- What is reported is the first rule violated, by its code, with the first of its culprits. -/
theorem exists_isFirstViolated_of_check {query : Text} {v : Violation} (h : check query = some v) :
    ∃ rule : Rule, rule.IsFirstViolated query ∧ rule.Reports query v := by
  rw [check_eq_findSome?, List.findSome?_eq_some_iff] at h
  obtain ⟨before, rule, after, hall, hv, hbefore⟩ := h
  have hjudges := Rule.verdict_judges (Text.trim query) (Text.upper (Text.trim query)) rule
  have hviolated : rule.Violated query := Classical.byContradiction fun hkept => by
    have hnone := hjudges.kept.mpr hkept
    rw [hv] at hnone
    cases hnone
  refine ⟨rule, ⟨hviolated, before, after, hall, ?_⟩, hjudges.violated v hv⟩
  intro earlier hearlier
  exact (Rule.verdict_judges _ _ earlier).kept.mp (hbefore earlier hearlier)

/-- The first element of a list with a property is unique. -/
theorem first_unique {α : Type} {P : α → Prop} {l before after before' after' : List α} {x y : α}
    (hx : P x) (hl : l = before ++ x :: after) (hbefore : ∀ a ∈ before, ¬ P a)
    (hy : P y) (hl' : l = before' ++ y :: after') (hbefore' : ∀ a ∈ before', ¬ P a) : x = y := by
  classical
  have hfind : ∀ {z : α} {b a : List α}, P z → l = b ++ z :: a → (∀ c ∈ b, ¬ P c) →
      l.find? (fun c => decide (P c)) = some z := by
    intro z b a hz hsplit hb
    rw [List.find?_eq_some_iff_append]
    exact ⟨by simpa using hz, b, a, hsplit, by simpa using hb⟩
  have hsame := hfind hx hl hbefore
  rw [hfind hy hl' hbefore'] at hsame
  exact (Option.some.inj hsame).symm

theorem Rule.IsFirstViolated.unique {rule rule' : Rule} {query : Text}
    (h : rule.IsFirstViolated query) (h' : rule'.IsFirstViolated query) : rule = rule' := by
  obtain ⟨hv, before, after, hall, hbefore⟩ := h
  obtain ⟨hv', before', after', hall', hbefore'⟩ := h'
  exact first_unique (P := fun r : Rule => r.Violated query) hv hall hbefore hv' hall' hbefore'

theorem Rule.Names.unique {rule : Rule} {u : Text} {k k' : Option Text} (h : rule.Names u k)
    (h' : rule.Names u k') : k = k' := by
  cases k with
  | none =>
    cases k' with
    | none => rfl
    | some culprit =>
      obtain ⟨-, before, after, hlist, -⟩ := h'
      rw [show rule.forbidden = [] from h] at hlist
      simp at hlist
  | some culprit =>
    obtain ⟨hfinds, before, after, hlist, hbefore⟩ := h
    cases k' with
    | none =>
      rw [show rule.forbidden = [] from h'] at hlist
      simp at hlist
    | some culprit' =>
      obtain ⟨hfinds', before', after', hlist', hbefore'⟩ := h'
      rw [first_unique hfinds hlist hbefore hfinds' hlist' hbefore']

/-- Code and culprit tell which violation it is. -/
theorem eq_of_reason_of_keyword? {v w : Violation} (hreason : v.reason = w.reason)
    (hkeyword : v.keyword? = w.keyword?) : v = w := by
  cases v <;> cases w <;> simp_all [Violation.reason, Violation.keyword?]

/-- The check is the list of rules: it accepts exactly what violates none of them, and otherwise tells
the first one violated, with the first of its culprits. -/
theorem check_iff_rules (query : Text) :
    (check query = none ↔ ∀ rule : Rule, ¬ rule.Violated query) ∧
      ∀ v, check query = some v ↔ ∃ rule : Rule, rule.IsFirstViolated query ∧ rule.Reports query v := by
  refine ⟨accepts_iff_forall_not_violated, fun v => ⟨exists_isFirstViolated_of_check, ?_⟩⟩
  rintro ⟨rule, hfirst, hcode, hnames⟩
  cases hcheck : check query with
  | none => exact absurd hfirst.1 (accepts_iff_forall_not_violated.mp hcheck rule)
  | some w =>
    obtain ⟨rule', hfirst', hcode', hnames'⟩ := exists_isFirstViolated_of_check hcheck
    obtain rfl := hfirst.unique hfirst'
    rw [eq_of_reason_of_keyword? (hcode'.trans hcode.symm) (hnames'.unique hnames)]

end QueryAdvisor.Policy
