import QueryAdvisor.Text

/-!
# Blanks

White space as Unicode defines it, and the four separators `1C` to `1F` of ASCII on top. Trimming
removes blanks at the ends; the words of a text are its longest runs without one.
-/

namespace QueryAdvisor

namespace CodePoint

/-- The code points with the property `White_Space`. -/
def isWhiteSpace (c : CodePoint) : Bool :=
  let n := c.val
  (0x09 ≤ n && n ≤ 0x0D) || n == 0x20 || n == 0x85 || n == 0xA0 || n == 0x1680 ||
  (0x2000 ≤ n && n ≤ 0x200A) || n == 0x2028 || n == 0x2029 || n == 0x202F || n == 0x205F ||
  n == 0x3000

/-- White space, or one of the four ASCII separators. -/
def isBlank (c : CodePoint) : Bool := (0x1C ≤ c.val && c.val ≤ 0x1F) || isWhiteSpace c

theorem isBlank_of_isWhiteSpace {c : CodePoint} (h : isWhiteSpace c = true) : isBlank c = true := by
  simp [isBlank, h]

end CodePoint

namespace Text

open CodePoint (isBlank)

/-- The text without the code points of class `p` at its end. -/
def dropEnd (p : CodePoint → Bool) (t : Text) : Text := (t.reverse.dropWhile p).reverse

/-- The text without the blanks at its end. -/
def trimEnd (t : Text) : Text := dropEnd isBlank t

/-- The text without the blanks at both ends. -/
def trim (t : Text) : Text := trimEnd (t.dropWhile isBlank)

/-- The text holds nothing but blanks. -/
def allBlank (t : Text) : Bool := t.all isBlank

/-- Cut at every blank; pieces may be empty. -/
def splitBlank : Text → List Text
  | [] => [[]]
  | c :: rest =>
    if isBlank c then [] :: splitBlank rest
    else match splitBlank rest with
      | [] => [[c]]
      | piece :: pieces => (c :: piece) :: pieces

/-- The longest runs without a blank, in order. -/
def words (t : Text) : List Text := (splitBlank t).filter (fun w => !w.isEmpty)

/-! ### Trimming -/

theorem dropEnd_nil (p : CodePoint → Bool) : dropEnd p [] = [] := rfl

/-- A last code point of the class goes, any other keeps the text whole. -/
theorem dropEnd_concat (p : CodePoint → Bool) (t : Text) (c : CodePoint) :
    dropEnd p (t ++ [c]) = if p c then dropEnd p t else t ++ [c] := by
  by_cases h : p c <;> simp [dropEnd, h]

/-- What is dropped at the end is a run of the class. -/
theorem exists_dropEnd_append (p : CodePoint → Bool) (t : Text) :
    ∃ tail, t = dropEnd p t ++ tail ∧ tail.all p = true := by
  refine ⟨(t.reverse.takeWhile p).reverse, ?_, ?_⟩
  · rw [dropEnd, ← List.reverse_append, List.takeWhile_append_dropWhile, List.reverse_reverse]
  · rw [List.all_reverse]
    exact List.all_takeWhile

end Text

end QueryAdvisor
