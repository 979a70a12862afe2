import QueryAdvisor.Text

/-!
# Digits

The run of decimal digits at the start of a text, and the number that a run writes; the values of
hexadecimal digits, and of decimal digits of any script.
-/

namespace QueryAdvisor

/-- The value of a hexadecimal digit. -/
def CodePoint.hexValue? (c : CodePoint) : Option Nat :=
  if c.isDigit then some (c.val - 0x30)
  else if 0x41 ≤ c.val && c.val ≤ 0x46 then some (c.val - 0x37)
  else if 0x61 ≤ c.val && c.val ≤ 0x66 then some (c.val - 0x57)
  else none

/-- The zeros of the scripts that have digits of their own, ASCII first; nine digits follow each. -/
def zeros : List Nat := [
  0x30,
  0x660, 0x6F0, 0x7C0, 0x966, 0x9E6, 0xA66, 0xAE6, 0xB66, 0xBE6, 0xC66, 0xCE6, 0xD66, 0xDE6, 0xE50,
  0xED0, 0xF20, 0x1040, 0x1090, 0x17E0, 0x1810, 0x1946, 0x19D0, 0x1A80, 0x1A90, 0x1B50, 0x1BB0,
  0x1C40, 0x1C50, 0xA620, 0xA8D0, 0xA900, 0xA9D0, 0xA9F0, 0xAA50, 0xABF0, 0xFF10, 0x104A0, 0x10D30,
  0x11066, 0x110F0, 0x11136, 0x111D0, 0x112F0, 0x11450, 0x114D0, 0x11650, 0x116C0, 0x11730, 0x118E0,
  0x11950, 0x11C50, 0x11D50, 0x11DA0, 0x16A60, 0x16AC0, 0x16B50, 0x1D7CE, 0x1D7D8, 0x1D7E2, 0x1D7EC,
  0x1D7F6, 0x1E140, 0x1E2F0, 0x1E950, 0x1FBF0]

/-- The value of a decimal digit of any script. -/
def CodePoint.digitValue? (c : CodePoint) : Option Nat :=
  (zeros.find? fun n => n ≤ c.val && c.val ≤ n + 9).map (c.val - ·)

namespace Text

open CodePoint (isDigit)

/-- The digits at the start of the text. -/
def leadingDigits (t : Text) : Text := t.takeWhile isDigit

/-- The text behind its leading digits. -/
def afterDigits (t : Text) : Text := t.dropWhile isDigit

/-- The number that a run of digits writes. -/
def digitsValue (digits : Text) : Nat :=
  digits.foldl (fun n d => 10 * n + (d.val - 0x30)) 0

theorem leadingDigits_append_afterDigits (t : Text) : leadingDigits t ++ afterDigits t = t :=
  List.takeWhile_append_dropWhile

theorem all_leadingDigits (t : Text) : (leadingDigits t).all isDigit = true := List.all_takeWhile

example : digitsValue "1070" = 1070 := by decide

end Text

end QueryAdvisor
