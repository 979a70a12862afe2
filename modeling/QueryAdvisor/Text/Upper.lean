import QueryAdvisor.Text
import QueryAdvisor.Text.UpperTable

/-!
# Upper case

The full mapping of Unicode: one code point may become up to three (`ß` becomes `SS`), so the result
can be longer than the text. Each code point is mapped on its own.
-/

namespace QueryAdvisor

/-- The capital of a code point outside ASCII; itself, where the tables do not name it. -/
def CodePoint.upperByTable (c : CodePoint) : Text :=
  match Text.longCapitals.lookup c.val with
  | some capitals => capitals.map .ofNat
  | none => [((Text.capitalRuns.findSome? (·.image? c.val)).map .ofNat).getD c]

/-- The capital of a code point. -/
def CodePoint.upper (c : CodePoint) : Text :=
  if c.val < 0x80 then [c.asciiUpper] else c.upperByTable

namespace Text

/-- The text in upper case. -/
def upper (t : Text) : Text := t.flatMap CodePoint.upper

@[simp] theorem upper_nil : upper [] = [] := rfl

@[simp] theorem upper_append (s t : Text) : upper (s ++ t) = upper s ++ upper t :=
  List.flatMap_append

@[simp] theorem upper_cons (c : CodePoint) (t : Text) : upper (c :: t) = c.upper ++ upper t :=
  List.flatMap_cons

end Text

end QueryAdvisor
