/-!
Sets of characters as lists of ranges of code points, for the properties that the core
library has no table of.
-/

namespace FieldNorm.Text

/-- A set of code points: first and last of each range. -/
abbrev CodeRanges := List (Nat × Nat)

/-- Whether a character is in one of the ranges. -/
def CodeRanges.has (ranges : CodeRanges) (c : Char) : Bool :=
  ranges.any fun (first, last) => first ≤ c.toNat && c.toNat ≤ last

end FieldNorm.Text
