/-! # Maps between letter cases

A simple case map sends single characters to single characters. Its rows cover runs of characters
that are one or two code points apart and move by the same distance.
-/

namespace ScreenedSuite.Unicode

/-- A run of code points from `first` to `last` in steps of `stride`, with the image of `first`;
the images follow in the same steps. -/
structure CaseRow where
  first : Nat
  last : Nat
  stride : Nat
  image : Nat

namespace CaseRow

/-- The image of a code point of the run. -/
def image? (row : CaseRow) (code : Nat) : Option Nat :=
  if row.first ≤ code && code ≤ row.last && (code - row.first) % row.stride == 0 then
    some (row.image + (code - row.first))
  else
    none

/-- The code point of the run that has a given image. -/
def source? (row : CaseRow) (image : Nat) : Option Nat :=
  if row.image ≤ image && image - row.image ≤ row.last - row.first
      && (image - row.image) % row.stride == 0 then
    some (row.first + (image - row.image))
  else
    none

end CaseRow

/-- A simple case map, given by its rows. -/
structure CaseMap where
  rows : List CaseRow

namespace CaseMap

/-- The image of a code point; a code point that no row covers stays itself. -/
def apply (map : CaseMap) (code : Nat) : Nat :=
  (map.rows.findSome? (·.image? code)).getD code

/-- The code points that some row sends to the given one. -/
def sources (map : CaseMap) (image : Nat) : List Nat :=
  map.rows.filterMap (·.source? image)

end CaseMap

end ScreenedSuite.Unicode
