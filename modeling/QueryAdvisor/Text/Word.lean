import QueryAdvisor.Text
import QueryAdvisor.Text.Table
import QueryAdvisor.Text.WordTable

/-!
# Word characters

Letters and numbers of any script, and the underscore. Marks that combine with a letter are not among
them.
-/

namespace QueryAdvisor.CodePoint

/-- A letter, a digit or the underscore of ASCII. -/
def isAsciiWord (c : CodePoint) : Bool :=
  isDigit c || isUpperLetter c || isLowerLetter c || c.val == 0x5F

/-- A letter, a number or the underscore. -/
def isWord (c : CodePoint) : Bool :=
  if c.val < 0x80 then isAsciiWord c
  else Text.inRanges Text.wordRanges c.val

end QueryAdvisor.CodePoint
