import QueryAdvisor.Text
import QueryAdvisor.Text.PrintableTable
import QueryAdvisor.Text.Table

/-!
# Quoted text

A text in quotes, on one line, with escapes for what cannot be shown. The quotes are single ones, unless
the text holds single quotes and no double ones.
-/

namespace QueryAdvisor

/-- A character that can be shown on a line. -/
def CodePoint.isPrintable (c : CodePoint) : Bool :=
  if c.val < 0x80 then 0x20 ≤ c.val && c.val < 0x7F else !Text.inRanges Text.hiddenRanges c.val

namespace Text

open CodePoint (backslash singleQuote doubleQuote tab lineFeed carriageReturn)

/-- The digits of a number in a base of at most sixteen, filled up with zeros. -/
def ofNatInBase (base width n : Nat) : Text :=
  let digits := (Nat.toDigits base n).map CodePoint.ofChar
  List.replicate (width - digits.length) CodePoint.zero ++ digits

/-- The escape that gives a code point by its number. -/
def numericEscape (c : CodePoint) : Text :=
  if c.val < 0x100 then backslash :: 'x' :: ofNatInBase 16 2 c.val
  else if c.val < 0x10000 then backslash :: 'u' :: ofNatInBase 16 4 c.val
  else backslash :: 'U' :: ofNatInBase 16 8 c.val

/-- A code point between quotes of a kind; with `ascii` everything else is escaped. -/
def quotedPoint (ascii : Bool) (quote c : CodePoint) : Text :=
  if c = quote || c = backslash then [backslash, c]
  else if c = tab then [backslash, 't']
  else if c = lineFeed then [backslash, 'n']
  else if c = carriageReturn then [backslash, 'r']
  else if c.isPrintable && (c.val < 0x80 || !ascii) then [c]
  else numericEscape c

/-- The text in quotes. -/
def quoted (ascii : Bool) (t : Text) : Text :=
  let quote := if t.contains singleQuote && !t.contains doubleQuote then doubleQuote else singleQuote
  quote :: t.flatMap (quotedPoint ascii quote) ++ [quote]

example : quoted false "it's\n" = ("\"it's\\n\"" : Text) := by decide +kernel

end Text

end QueryAdvisor
