import QueryAdvisor.Proofs.Sandbox.Quotes
import QueryAdvisor.Proofs.Sandbox.Terminator

/-!
# A semicolon inside a literal

A `;` that the reader meets between quotes ends no statement, so the query should become a statement as
it is, without the blanks at its end. The count of quotes agrees with the reader as long as what was read
before the `;` has no strays: then the quotes that are still open are odd in number. Strays spoil it,

    "it's" … 'a;b'        quotes ' before the `;`   2: one stray, one that is open
                          quotes " before the `;`   2

and the main statement is that nothing else does: over all accepted queries whose every `;` is read
between quotes, the statement is the query without the blanks at its end exactly if the `;` is not
misread in this way. A misread `;` is refused if something follows it, and dropped if nothing does.
-/

namespace QueryAdvisor
open CodePoint (isBlank semicolon)

namespace Quote

/-- Inside a kind of quotes, the quotes of that kind are its strays and the one that is open. -/
theorem count_mark_of_behind_some {k : Quote} {t : Text} (h : behind t = some k) :
    t.count k.mark % 2 = (strays k t + 1) % 2 := by
  have hparity := count_parity k t none
  rw [show t.foldl step none = some k from h] at hparity
  simpa [strays] using hparity

/-- Inside a kind of quotes, the quotes of the other kind are strays. -/
theorem count_mark_other_of_behind_some {k : Quote} {t : Text} (h : behind t = some k) :
    t.count k.other.mark % 2 = strays k.other t % 2 := by
  have hother : k ≠ k.other := by cases k <;> decide
  have hparity := count_parity k.other t none
  rw [show t.foldl step none = some k from h] at hparity
  simpa [strays, hother] using hparity

/-- Inside a kind of quotes, counting takes a text for one outside of quotes if the strays of that kind
are odd in number and those of the other kind even. -/
theorem quotesEven_iff_of_behind_some {k : Quote} {t : Text} (h : behind t = some k) :
    Statement.quotesEven t = true ↔ strays k t % 2 = 1 ∧ strays k.other t % 2 = 0 := by
  have hown := count_mark_of_behind_some h
  have hother := count_mark_other_of_behind_some h
  have hkinds : Statement.quotesEven t = true ↔
      t.count k.mark % 2 = 0 ∧ t.count k.other.mark % 2 = 0 := by
    rw [quotesEven_iff]
    constructor
    · intro heven
      exact ⟨heven k, heven k.other⟩
    · rintro ⟨hk, hk'⟩ kind
      cases k <;> cases kind <;> assumption
  rw [hkinds]
  omega

end Quote

/-- A `;` of the query is read inside a kind of quotes, and what stands before it has an odd number of
strays of that kind and an even number of the other. -/
def Misread (query : Text) : Prop :=
  ∃ (kind : Quote) (head tail : Text), query = head ++ semicolon :: tail ∧
    Quote.behind head = some kind ∧ Quote.strays kind head % 2 = 1 ∧
    Quote.strays kind.other head % 2 = 0

/-- With one `;`, read between quotes, the query is misread if and only if the quotes before the `;` are
even in number. -/
theorem misread_iff_quotesEven {head tail : Text} (hhead : semicolon ∉ head) (htail : semicolon ∉ tail)
    (hinside : Quote.behind head ≠ none) :
    Misread (head ++ semicolon :: tail) ↔ Statement.quotesEven head = true := by
  obtain ⟨kind, hkind⟩ := Option.ne_none_iff_exists'.mp hinside
  rw [Quote.quotesEven_iff_of_behind_some hkind]
  constructor
  · rintro ⟨kind', head', tail', hsplit, hkind', hstrays⟩
    obtain ⟨rfl, -, -⟩ := (List.append_cons_inj_of_notMem hhead htail).mp hsplit
    obtain rfl : kind = kind' := Option.some.inj (hkind.symm.trans hkind')
    exact hstrays
  · intro hstrays
    exact ⟨kind, head, tail, rfl, hkind, hstrays⟩

theorem not_misread_of_not_mem {query : Text} (h : semicolon ∉ query) : ¬ Misread query := by
  rintro ⟨kind, head, tail, rfl, -⟩
  exact h (by simp)

namespace Policy

/-- An accepted query has an even number of quotes of either kind. -/
theorem quotesEven_of_accepts {query : Text} (h : Accepts query) :
    Statement.quotesEven query = true := by
  have hrules := accepts_iff_forall_not_violated.mp h
  have hsingle : ¬ (Text.trim query).count CodePoint.singleQuote % 2 = 1 := hrules .singleQuotes
  have hdouble : ¬ (Text.trim query).count CodePoint.doubleQuote % 2 = 1 := hrules .doubleQuotes
  rw [Text.count_trim (by decide)] at hsingle hdouble
  simp only [Statement.quotesEven, Bool.and_eq_true, beq_iff_eq]
  omega

end Policy

namespace Statement
open Text (allBlank trimEnd)

/-- Blanks and a `;` at the end are no quotes. -/
theorem quotesEven_of_terminated {head tail : Text} (htail : allBlank tail = true) :
    quotesEven (head ++ semicolon :: tail) = quotesEven head := by
  have hcount : ∀ c : CodePoint, isBlank c = false → semicolon ≠ c →
      (head ++ semicolon :: tail).count c = head.count c := by
    intro c hblank hne
    rw [List.count_append, List.count_cons_of_ne hne, Text.count_of_allBlank hblank htail,
      Nat.add_zero]
  rw [quotesEven, quotesEven, hcount _ (by decide) (by decide), hcount _ (by decide) (by decide)]

/-- Over an accepted query whose every `;` is read between quotes: the statement is the query without the
blanks at its end if and only if the query is not misread, and there is none if and only if the query is
misread and goes on behind the `;`. -/
theorem ofQuery?_of_quoted {query : Text} (haccepts : Policy.Accepts query)
    (hquoted : ¬ Quote.Outside semicolon query) :
    (ofQuery? query = some (trimEnd query) ↔ ¬ Misread query) ∧
      (ofQuery? query = none ↔
        Misread query ∧ (trimEnd query).getLast? ≠ some semicolon) := by
  rcases Policy.semicolon_not_mem_or_exists_split haccepts with hnone | ⟨head, tail, rfl, hhead, htail⟩
  · have hkept := not_misread_of_not_mem hnone
    rw [ofQuery?_of_not_mem hnone]
    simp [hkept]
  · rw [Quote.outside_append_cons hhead htail] at hquoted
    rw [misread_iff_quotesEven hhead htail hquoted]
    by_cases hblank : allBlank tail = true
    · -- the `;` is the last mark, so the quotes before it are those of the whole query
      have heven : quotesEven head = true := by
        rw [← quotesEven_of_terminated hblank]
        exact Policy.quotesEven_of_accepts haccepts
      have hcut : trimEnd head ≠ head ++ [semicolon] := by
        intro hsame
        exact semicolon_not_mem_trimEnd hhead (by rw [hsame]; simp)
      rw [ofQuery?_of_terminated hhead hblank, trimEnd_of_terminated hblank, List.getLast?_concat]
      simp [heven, hcut]
    · rw [and_iff_left (getLast?_trimEnd_of_followed htail hblank head),
        ofQuery?_of_followed hhead htail hblank, trimEnd_of_followed hblank]
      by_cases heven : quotesEven head = true <;> simp [heven]

/-- What stands before the `;` of `apostropheBeforeLiteral`. -/
def apostropheHead : Text := "SELECT \"it's\", 'a"

/-- What stands behind the `;` of `apostropheBeforeLiteral`. -/
def apostropheTail : Text := "b' FROM \"it's\""

/-- A query with a `;` inside a literal, behind a name with an apostrophe. -/
def apostropheBeforeLiteral : Text := apostropheHead ++ semicolon :: apostropheTail

theorem accepts_apostropheBeforeLiteral : Policy.Accepts apostropheBeforeLiteral ∧
    (semicolon ∉ apostropheHead ∧ semicolon ∉ apostropheTail ∧ ¬ allBlank apostropheTail = true) ∧
    Quote.behind apostropheHead = some .single ∧ Quote.strays .single apostropheHead % 2 = 1 ∧
      Quote.strays .double apostropheHead % 2 = 0 := by decide +kernel

/-- The `;` of the query is read inside the literal. -/
theorem not_outside_apostropheBeforeLiteral : ¬ Quote.Outside semicolon apostropheBeforeLiteral := by
  obtain ⟨-, ⟨hhead, htail, -⟩, hbehind, -⟩ := accepts_apostropheBeforeLiteral
  rw [apostropheBeforeLiteral, Quote.outside_append_cons hhead htail, hbehind]
  exact Option.some_ne_none _

/-- The query is accepted, its `;` is read inside a literal, and it is refused: it is misread. -/
theorem ofQuery?_of_quoted_apostropheBeforeLiteral : Policy.Accepts apostropheBeforeLiteral ∧
    ¬ Quote.Outside semicolon apostropheBeforeLiteral ∧ Misread apostropheBeforeLiteral ∧
      ofQuery? apostropheBeforeLiteral = none := by
  obtain ⟨haccepts, ⟨-, htail, hfollowed⟩, hbehind, hsingle, hdouble⟩ :=
    accepts_apostropheBeforeLiteral
  have hquoted := not_outside_apostropheBeforeLiteral
  have hmisread : Misread apostropheBeforeLiteral :=
    ⟨.single, apostropheHead, apostropheTail, rfl, hbehind, hsingle, hdouble⟩
  have hlast := getLast?_trimEnd_of_followed htail hfollowed apostropheHead
  exact ⟨haccepts, hquoted, hmisread, (ofQuery?_of_quoted haccepts hquoted).2.mpr ⟨hmisread, hlast⟩⟩

/-- So it does not hold that an accepted query whose every `;` is read between quotes becomes a statement
as it is. -/
theorem not_forall_ofQuery?_of_quoted : ¬ ∀ query : Text, Policy.Accepts query →
    ¬ Quote.Outside semicolon query → ofQuery? query = some (trimEnd query) := by
  intro h
  obtain ⟨haccepts, ⟨hhead, htail, hfollowed⟩, hbehind, hstrays⟩ := accepts_apostropheBeforeLiteral
  have hstatement := h apostropheBeforeLiteral haccepts not_outside_apostropheBeforeLiteral
  have heven : quotesEven apostropheHead = true :=
    (Quote.quotesEven_iff_of_behind_some hbehind).mpr hstrays
  rw [apostropheBeforeLiteral, ofQuery?_of_followed hhead htail hfollowed, if_pos heven] at hstatement
  cases hstatement

end Statement

end QueryAdvisor
