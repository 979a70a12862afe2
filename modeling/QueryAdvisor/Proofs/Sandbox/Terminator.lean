import QueryAdvisor.Proofs.Policy.Rules
import QueryAdvisor.Proofs.Text.Trim
import QueryAdvisor.Sandbox.Statement

/-!
# What ends a query

A query that the policy accepts has one `;` at most, so it has one of three forms, and each of them
makes a statement in its own way:

    no `;`                                ──▶  the query without the blanks at its end
    head `;` tail, nothing but blanks     ──▶  `head` without the blanks at its end
    head `;` tail, something in the tail  ──▶  refused if the quotes in `head` are even in number,
                                               else the whole without the blanks at its end
-/

namespace QueryAdvisor

theorem CodePoint.isBlank_semicolon : isBlank semicolon = false := by decide

namespace Policy
open CodePoint (semicolon)

/-- An accepted query has one `;` at most. -/
theorem count_semicolon_le_one {query : Text} (h : Accepts query) : query.count semicolon ≤ 1 := by
  have hkept : ¬ 1 < (Text.trim query).count semicolon :=
    accepts_iff_forall_not_violated.mp h .statements
  rw [Text.count_trim CodePoint.isBlank_semicolon] at hkept
  omega

/-- An accepted query has no `;`, or one that parts it in two. -/
theorem semicolon_not_mem_or_exists_split {query : Text} (h : Accepts query) : semicolon ∉ query ∨
    ∃ head tail, query = head ++ semicolon :: tail ∧ semicolon ∉ head ∧ semicolon ∉ tail := by
  by_cases hmem : semicolon ∈ query
  · obtain ⟨head, tail, rfl, hhead⟩ := List.eq_append_cons_of_mem hmem
    right
    refine ⟨head, tail, rfl, hhead, ?_⟩
    have hcount := count_semicolon_le_one h
    rw [List.count_append, List.count_cons_self] at hcount
    exact List.count_eq_zero.mp (by omega)
  · exact Or.inl hmem

end Policy

namespace Statement
open CodePoint (isBlank semicolon)
open Text (allBlank trimEnd dropEnd)

theorem dropEnd_semicolon_eq_self {t : Text} (h : semicolon ∉ t) :
    dropEnd (· = semicolon) t = t := by
  apply Text.dropEnd_eq_self
  intro c hc
  rw [decide_eq_false_iff_not]
  rintro rfl
  exact h hc

theorem semicolon_not_mem_trimEnd {t : Text} (h : semicolon ∉ t) : semicolon ∉ trimEnd t :=
  fun hmem => h (Text.mem_of_mem_dropEnd hmem)

theorem trimEnd_of_followed {tail : Text} (h : ¬ allBlank tail = true) (head : Text) :
    trimEnd (head ++ semicolon :: tail) = head ++ semicolon :: trimEnd tail := by
  rw [List.append_cons, Text.trimEnd_append_of_not_blank h, ← List.append_cons]

theorem trimEnd_of_terminated {tail : Text} (h : allBlank tail = true) (head : Text) :
    trimEnd (head ++ semicolon :: tail) = head ++ [semicolon] := by
  rw [List.append_cons, Text.trimEnd_append_blanks h, trimEnd, Text.dropEnd_concat,
    CodePoint.isBlank_semicolon, if_neg (by decide)]

/-- Where something follows the only `;`, the text does not end in it. -/
theorem getLast?_trimEnd_of_followed {tail : Text} (htail : semicolon ∉ tail)
    (hfollowed : ¬ allBlank tail = true) (head : Text) :
    (trimEnd (head ++ semicolon :: tail)).getLast? ≠ some semicolon := by
  rw [trimEnd_of_followed hfollowed, List.append_cons,
    List.getLast?_append_of_ne_nil _ (Text.trimEnd_ne_nil hfollowed)]
  intro hlast
  exact semicolon_not_mem_trimEnd htail (List.mem_of_getLast? hlast)

/-! ### What is left when the terminator is gone -/

theorem withoutTerminator_of_not_mem {query : Text} (h : semicolon ∉ query) :
    withoutTerminator query = trimEnd query := by
  rw [withoutTerminator, dropEnd_semicolon_eq_self (semicolon_not_mem_trimEnd h),
    Text.trimEnd_trimEnd]

theorem withoutTerminator_of_terminated {head tail : Text} (hhead : semicolon ∉ head)
    (htail : allBlank tail = true) : withoutTerminator (head ++ semicolon :: tail) = trimEnd head := by
  rw [withoutTerminator, trimEnd_of_terminated htail, Text.dropEnd_concat, if_pos (by decide),
    dropEnd_semicolon_eq_self hhead]

theorem withoutTerminator_of_followed {head tail : Text} (htail : semicolon ∉ tail)
    (hfollowed : ¬ allBlank tail = true) :
    withoutTerminator (head ++ semicolon :: tail) = head ++ semicolon :: trimEnd tail := by
  have hkept : ¬ (trimEnd tail).all (· = semicolon) = true := by
    intro hall
    obtain ⟨c, hc⟩ := List.exists_mem_of_ne_nil _ (Text.trimEnd_ne_nil hfollowed)
    obtain rfl : c = semicolon := by simpa using List.all_eq_true.mp hall c hc
    exact semicolon_not_mem_trimEnd htail hc
  have hdrop : dropEnd (· = semicolon) (head ++ semicolon :: trimEnd tail) =
      head ++ semicolon :: trimEnd tail := by
    rw [List.append_cons, Text.dropEnd_append_of_not_all hkept,
      dropEnd_semicolon_eq_self (semicolon_not_mem_trimEnd htail)]
  rw [withoutTerminator, trimEnd_of_followed hfollowed, hdrop, ← trimEnd_of_followed hfollowed,
    Text.trimEnd_trimEnd]

/-! ### The statement of a query -/

theorem ofQuery?_of_not_mem {query : Text} (h : semicolon ∉ query) :
    ofQuery? query = some (trimEnd query) := by
  have hnone : (trimEnd query).contains semicolon = false := by
    simpa using semicolon_not_mem_trimEnd h
  simp only [ofQuery?, withoutTerminator_of_not_mem h, hnone, Bool.false_and]
  rfl

theorem ofQuery?_of_terminated {head tail : Text} (hhead : semicolon ∉ head)
    (htail : allBlank tail = true) :
    ofQuery? (head ++ semicolon :: tail) = some (trimEnd head) := by
  have hnone : (trimEnd head).contains semicolon = false := by
    simpa using semicolon_not_mem_trimEnd hhead
  simp only [ofQuery?, withoutTerminator_of_terminated hhead htail, hnone, Bool.false_and]
  rfl

theorem ofQuery?_of_followed {head tail : Text} (hhead : semicolon ∉ head) (htail : semicolon ∉ tail)
    (hfollowed : ¬ allBlank tail = true) : ofQuery? (head ++ semicolon :: tail) =
      if quotesEven head then none else some (head ++ semicolon :: trimEnd tail) := by
  have hsome : (head ++ semicolon :: trimEnd tail).contains semicolon = true := by simp
  have hbefore : (head ++ semicolon :: trimEnd tail).takeWhile (· ≠ semicolon) = head := by
    rw [List.takeWhile_append_of_pos fun c hc => by
      rw [decide_eq_true_eq]; rintro rfl; exact hhead hc]
    simp
  simp only [ofQuery?, withoutTerminator_of_followed htail hfollowed, hsome, hbefore, Bool.true_and]

end Statement

end QueryAdvisor
