import Mathlib.Data.List.Basic
import QueryAdvisor.Sandbox.Statement

/-!
# Quotes, read from the start

Whether a place in a text stands between quotes shows only when the text is read from its start. The
reader is outside at first; a quote of either kind leads in, and only a quote of the same kind leads
out again, so a doubled quote leaves and comes back.

                ' ──▶                ──▶ "
    in single         outside            in double
                ◀── '                " ◀──
      " stays                              ' stays

Counting the quotes of a kind tells less. A quote of the one kind that is read inside text of the other
kind is a *stray*: it is counted, but it leads nowhere. Up to an even number, the quotes of a kind are
its strays and, if the text ends inside that kind, the one that is still open.
-/

namespace QueryAdvisor

/-- The kinds of quotes. -/
inductive Quote where | single | double
  deriving DecidableEq, Repr

namespace Quote
open CodePoint (singleQuote doubleQuote)

def mark : Quote → CodePoint
  | .single => singleQuote
  | .double => doubleQuote

def other : Quote → Quote
  | .single => .double
  | .double => .single

/-- Where the reader is: outside, or in text that a quote of a kind has opened. -/
abbrev Position := Option Quote

/-- The reader goes on by one code point. -/
def step : Position → CodePoint → Position
  | none, c =>
    if c = singleQuote then some .single else if c = doubleQuote then some .double else none
  | some k, c => if c = k.mark then none else some k

/-- Where the reader is behind a text. -/
def behind (t : Text) : Position := t.foldl step none

/-- A code point of this kind stands in the text outside of quotes. -/
def Outside (c : CodePoint) (t : Text) : Prop :=
  ∃ head tail, t = head ++ c :: tail ∧ behind head = none

/-- The number of quotes of a kind that are read inside text of the other kind. -/
def straysFrom (k : Quote) : Position → Text → Nat
  | _, [] => 0
  | p, c :: t => (if p = some k.other ∧ c = k.mark then 1 else 0) + straysFrom k (step p c) t

/-- The strays of a kind in a text that is read from its start. -/
def strays (k : Quote) (t : Text) : Nat := straysFrom k none t

/-! ### Counting and reading -/

/-- A quote of the kind is a stray, or it opens or closes that kind. -/
theorem step_parity (k : Quote) (p : Position) (c : CodePoint) :
    ((if c = k.mark then 1 else 0) + (if p = some k then 1 else 0)) % 2 =
      ((if p = some k.other ∧ c = k.mark then 1 else 0) + if step p c = some k then 1 else 0) % 2 := by
  have hmarks : singleQuote ≠ doubleQuote := by decide
  by_cases hsingle : c = singleQuote
  · subst hsingle
    rcases p with _ | _ | _ <;> cases k <;> simp [step, mark, other, hmarks]
  · by_cases hdouble : c = doubleQuote
    · subst hdouble
      rcases p with _ | _ | _ <;> cases k <;> simp [step, mark, other, hsingle]
    · rcases p with _ | _ | _ <;> cases k <;> simp [step, mark, other, hsingle, hdouble]

/-- Up to an even number, the quotes of a kind are its strays and the one still open. -/
theorem count_parity (k : Quote) (t : Text) (p : Position) :
    (t.count k.mark + if p = some k then 1 else 0) % 2 =
      (straysFrom k p t + if t.foldl step p = some k then 1 else 0) % 2 := by
  induction t generalizing p with
  | nil => rfl
  | cons c t ih =>
    have hrest := ih (step p c)
    have hstep := step_parity k p c
    rw [List.count_cons, straysFrom, List.foldl_cons]
    simp only [beq_iff_eq]
    omega

/-- Outside of quotes, the number of quotes of a kind is odd if and only if its strays are. -/
theorem count_mark_of_behind {k : Quote} {t : Text} (h : behind t = none) :
    t.count k.mark % 2 = strays k t % 2 := by
  have hparity := count_parity k t none
  rw [show t.foldl step none = none from h] at hparity
  simpa [strays] using hparity

theorem quotesEven_iff (t : Text) :
    Statement.quotesEven t = true ↔ ∀ k : Quote, t.count k.mark % 2 = 0 := by
  rw [Statement.quotesEven, Bool.and_eq_true, beq_iff_eq, beq_iff_eq]
  constructor
  · rintro ⟨hsingle, hdouble⟩ k
    cases k with
    | single => exact hsingle
    | double => exact hdouble
  · intro h
    exact ⟨h .single, h .double⟩

/-- Outside of quotes, counting misjudges a text that has an odd number of strays of some kind. -/
theorem not_quotesEven_iff {t : Text} (h : behind t = none) :
    ¬ Statement.quotesEven t = true ↔ ∃ k : Quote, strays k t % 2 = 1 := by
  rw [quotesEven_iff, not_forall]
  simp only [count_mark_of_behind h]
  constructor
  · rintro ⟨k, hk⟩
    exact ⟨k, by omega⟩
  · rintro ⟨k, hk⟩
    exact ⟨k, by omega⟩

/-! ### What stands outside -/

/-- A code point that is no quote, read outside, changes nothing for the others. -/
theorem outside_cons {c d : CodePoint} (hd : step none d = none) (hne : d ≠ c) (t : Text) :
    Outside c (d :: t) ↔ Outside c t := by
  constructor
  · rintro ⟨head, tail, hsplit, hbehind⟩
    cases head with
    | nil => exact absurd (List.cons.inj hsplit).1 hne
    | cons d' head =>
      obtain ⟨rfl, rfl⟩ := List.cons.inj hsplit
      rw [behind, List.foldl_cons, hd] at hbehind
      exact ⟨head, tail, rfl, hbehind⟩
  · rintro ⟨head, tail, rfl, hbehind⟩
    refine ⟨d :: head, tail, rfl, ?_⟩
    rw [behind, List.foldl_cons, hd]
    exact hbehind

theorem outside_append {c : CodePoint} {s : Text} (h : ∀ d ∈ s, step none d = none ∧ d ≠ c)
    (t : Text) : Outside c (s ++ t) ↔ Outside c t := by
  induction s with
  | nil => exact Iff.rfl
  | cons d s ih =>
    obtain ⟨⟨hd, hne⟩, hs⟩ := List.forall_mem_cons.mp h
    rw [List.cons_append, outside_cons hd hne]
    exact ih hs

theorem not_outside_of_not_mem {c : CodePoint} {t : Text} (h : c ∉ t) : ¬ Outside c t := by
  rintro ⟨head, tail, rfl, -⟩
  exact h (by simp)

/-- The only one of its kind stands outside if the reader is outside before it. -/
theorem outside_append_cons {c : CodePoint} {head tail : Text} (hhead : c ∉ head) (htail : c ∉ tail) :
    Outside c (head ++ c :: tail) ↔ behind head = none := by
  constructor
  · rintro ⟨head', tail', hsplit, hbehind⟩
    obtain ⟨rfl, -, -⟩ := (List.append_cons_inj_of_notMem hhead htail).mp hsplit
    exact hbehind
  · intro hbehind
    exact ⟨head, tail, rfl, hbehind⟩

end Quote

end QueryAdvisor
