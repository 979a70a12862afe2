/-!
# Tables of code points

A class of code points is a list of ranges. Where the letters of one case lie next to each other, their
counterparts of the other case mostly do so too, at the same distance; a table of such letters is a list
of runs.
-/

namespace QueryAdvisor.Text

/-- Code points `first`, `first + stride`, … up to `last`, whose counterparts lie `stride` apart as well,
beginning with `image`. -/
structure CaseRun where
  first : Nat
  last : Nat
  stride : Nat
  image : Nat

/-- The counterpart of a member of the run. -/
def CaseRun.image? (run : CaseRun) (n : Nat) : Option Nat :=
  if run.first ≤ n && n ≤ run.last && (n - run.first) % run.stride == 0 then
    some (run.image + (n - run.first))
  else none

/-- The number lies in one of the ranges, each given by its first and its last member. -/
def inRanges (ranges : List (Nat × Nat)) (n : Nat) : Bool :=
  ranges.any fun range => range.1 ≤ n && n ≤ range.2

end QueryAdvisor.Text
