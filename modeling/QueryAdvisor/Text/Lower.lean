import QueryAdvisor.Text
import QueryAdvisor.Text.LowerTable

/-!
# Lower case

The full mapping of Unicode. One letter depends on its neighbours: the capital sigma has a small form of
its own where a letter with a case stands before it and none behind it. Marks, apostrophes and the like
are passed over when these neighbours are looked for.
-/

namespace QueryAdvisor

namespace CodePoint

def capitalSigma : CodePoint := ⟨0x3A3, by decide⟩
def smallSigma : CodePoint := ⟨0x3C3, by decide⟩
def finalSigma : CodePoint := ⟨0x3C2, by decide⟩

/-- A letter with a case that is not passed over. -/
def isCased (c : CodePoint) : Bool := Text.inRanges Text.casedRanges c.val

/-- Passed over in the search for a neighbour. -/
def isPassed (c : CodePoint) : Bool := Text.inRanges Text.passedRanges c.val

/-- The small letter of a code point that stands alone. -/
def lower (c : CodePoint) : Text :=
  if c.val < 0x80 then [c.asciiLower]
  else
    match Text.longSmall.lookup c.val with
    | some letters => letters.map .ofNat
    | none => [((Text.smallRuns.findSome? (·.image? c.val)).map .ofNat).getD c]

end CodePoint

namespace Text

open CodePoint (isCased isPassed capitalSigma smallSigma finalSigma)

/-- The first code point that is not passed over is a letter with a case. -/
def startsCased (t : Text) : Bool := (t.dropWhile isPassed).head?.any isCased

/-- The text in lower case, behind a letter with a case or not. -/
def lowerBehind (cased : Bool) : Text → Text
  | [] => []
  | c :: rest =>
    let small :=
      if c = capitalSigma then [if cased && !startsCased rest then finalSigma else smallSigma]
      else c.lower
    small ++ lowerBehind (if isPassed c then cased else isCased c) rest

/-- The text in lower case. -/
def lower (t : Text) : Text := lowerBehind false t

end Text

end QueryAdvisor
