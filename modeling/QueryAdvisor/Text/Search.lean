import QueryAdvisor.Text.Blank

/-!
# Search

Three ways in which a pattern can occur in a text: anywhere (`occurs`), at the start
(`List.isPrefixOf`), or as a word of its own, with a blank or an end of the text on both sides
(`hasWord`). The scan for a word never splits the text; that it finds exactly the members of
`Text.words` is a fact about it.
-/

namespace QueryAdvisor.Text

open CodePoint (isBlank)

/-- The pattern stands somewhere in the text. -/
def occurs (pattern : Text) : Text → Bool
  | [] => pattern.isEmpty
  | c :: rest => pattern.isPrefixOf (c :: rest) || occurs pattern rest

/-- The text is empty or goes on with a blank. -/
def atBoundary : Text → Bool
  | [] => true
  | c :: _ => isBlank c

/-- The text begins with the word, and the word ends there. -/
def startsWord (word text : Text) : Bool :=
  word.isPrefixOf text && atBoundary (text.drop word.length)

/-- The word stands behind some blank of the text. -/
def hasWordBehindBlank (word : Text) : Text → Bool
  | [] => false
  | c :: rest => (isBlank c && startsWord word rest) || hasWordBehindBlank word rest

/-- The word stands in the text between blanks or ends. -/
def hasWord (word text : Text) : Bool := startsWord word text || hasWordBehindBlank word text

/-! ### What the searches find -/

theorem occurs_iff {pattern text : Text} : occurs pattern text = true ↔ pattern <:+: text := by
  induction text with
  | nil => simp [occurs]
  | cons c rest ih =>
    rw [occurs, Bool.or_eq_true, ih, List.isPrefixOf_iff_prefix, List.infix_cons_iff]

end QueryAdvisor.Text
