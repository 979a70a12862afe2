/-!
# Text

A text is a list of code points. Surrogates are code points too: a JSON escape may name one half of
a surrogate pair alone, such a half travels through the whole program, and only the last step, the
encoding of a response, refuses it. A list of `Char` could not hold it.

Lengths, cuts and positions count code points.
-/

namespace QueryAdvisor

/-- A code point. -/
structure CodePoint where
  val : Nat
  isLt : val < 0x110000 := by decide
  deriving DecidableEq, Repr

/-- A text, first code point first. -/
abbrev Text := List CodePoint

namespace CodePoint

@[ext] theorem ext {a b : CodePoint} (h : a.val = b.val) : a = b := by
  cases a; cases b; cases h; rfl

/-- The code point of a character. -/
def ofChar (c : Char) : CodePoint where
  val := c.toNat
  isLt := by
    rcases c.valid with h | h
    · exact Nat.lt_trans h (by decide)
    · exact h.2

instance : Coe Char CodePoint := ⟨ofChar⟩

/-- The code point of a number; the replacement character where there is none. -/
def ofNat (n : Nat) : CodePoint := if h : n < 0x110000 then ⟨n, h⟩ else ⟨0xFFFD, by decide⟩

theorem val_ofNat {n : Nat} (h : n < 0x110000) : (ofNat n).val = n := by simp [ofNat, h]

/-! ### The marks the program looks for -/

def doubleQuote : CodePoint := ⟨0x22, by decide⟩
def singleQuote : CodePoint := ⟨0x27, by decide⟩
def backquote : CodePoint := ⟨0x60, by decide⟩
def backslash : CodePoint := ⟨0x5C, by decide⟩
def openBrace : CodePoint := ⟨0x7B, by decide⟩
def closeBrace : CodePoint := ⟨0x7D, by decide⟩
def bell : CodePoint := ⟨0x07, by decide⟩
def backspace : CodePoint := ⟨0x08, by decide⟩
def tab : CodePoint := ⟨0x09, by decide⟩
def lineFeed : CodePoint := ⟨0x0A, by decide⟩
def verticalTab : CodePoint := ⟨0x0B, by decide⟩
def formFeed : CodePoint := ⟨0x0C, by decide⟩
def carriageReturn : CodePoint := ⟨0x0D, by decide⟩
def semicolon : CodePoint := ';'
def star : CodePoint := '*'
def point : CodePoint := '.'
def zero : CodePoint := '0'
def underscore : CodePoint := '_'
def openParen : CodePoint := '('
def closeParen : CodePoint := ')'

/-! ### ASCII classes and letter case -/

def isDigit (c : CodePoint) : Bool := 0x30 ≤ c.val && c.val ≤ 0x39
def isUpperLetter (c : CodePoint) : Bool := 0x41 ≤ c.val && c.val ≤ 0x5A
def isLowerLetter (c : CodePoint) : Bool := 0x61 ≤ c.val && c.val ≤ 0x7A

/-- The capital of an ASCII letter, any other code point unchanged. -/
def asciiUpper (c : CodePoint) : CodePoint :=
  if isLowerLetter c then ⟨c.val - 0x20, by have := c.isLt; omega⟩ else c

/-- The small form of an ASCII letter, any other code point unchanged. -/
def asciiLower (c : CodePoint) : CodePoint :=
  if h : c.val ≤ 0x5A then if 0x41 ≤ c.val then ⟨c.val + 0x20, by omega⟩ else c else c

/-! ### Surrogates -/

def isHighSurrogate (c : CodePoint) : Bool := 0xD800 ≤ c.val && c.val ≤ 0xDBFF
def isLowSurrogate (c : CodePoint) : Bool := 0xDC00 ≤ c.val && c.val ≤ 0xDFFF

/-- A surrogate of either half; no encoding of Unicode text has a place for one alone. -/
def isSurrogate (c : CodePoint) : Bool := 0xD800 ≤ c.val && c.val ≤ 0xDFFF

/-- The code point that a high and a low surrogate stand for together. -/
def joinSurrogates (high low : CodePoint) : CodePoint :=
  ofNat (0x10000 + (high.val - 0xD800) * 0x400 + (low.val - 0xDC00))

theorem isSurrogate_eq (c : CodePoint) :
    isSurrogate c = (isHighSurrogate c || isLowSurrogate c) := by
  rw [Bool.eq_iff_iff]
  simp only [isSurrogate, isHighSurrogate, isLowSurrogate, Bool.and_eq_true, Bool.or_eq_true,
    decide_eq_true_eq]
  omega

end CodePoint

namespace Text

/-- The code points of a string. -/
def ofString (s : String) : Text := s.toList.map .ofChar

instance : Coe String Text := ⟨ofString⟩

/-- Some code point of the text is a surrogate. -/
def hasSurrogate (t : Text) : Bool := t.any CodePoint.isSurrogate

/-- The decimal digits of a natural number. -/
def ofNat (n : Nat) : Text := (Nat.toDigits 10 n).map .ofChar

/-- The decimal digits of an integer, after a minus sign if it is negative. -/
def ofInt : Int → Text
  | .ofNat n => ofNat n
  | .negSucc n => '-' :: ofNat (n + 1)

/-- Pieces with one line feed between neighbours. -/
def lines : List Text → Text
  | [] => []
  | [t] => t
  | t :: rest => t ++ CodePoint.lineFeed :: lines rest

theorem hasSurrogate_append (s t : Text) :
    hasSurrogate (s ++ t) = (hasSurrogate s || hasSurrogate t) := List.any_append

end Text

end QueryAdvisor
