import FieldNorm.Text.CodeRanges

/-!
Sets of characters, put together from ranges of code points, and the sets of ASCII characters
that have a name.
-/

namespace FieldNorm.Text

/-- A set of characters. -/
inductive CharSet
  | ofRanges (ranges : CodeRanges)
  /-- What is not in a set. -/
  | outside (s : CharSet)
  /-- What is in one of two sets or in both. -/
  | either (s t : CharSet)
  /-- What is in both of two sets. -/
  | common (s t : CharSet)
deriving DecidableEq

namespace CharSet

/-- Whether a character is in a set. -/
def has (s : CharSet) (c : Char) : Bool :=
  match s with
  | .ofRanges ranges => ranges.has c
  | .outside s => !s.has c
  | .either s t => s.has c || t.has c
  | .common s t => s.has c && t.has c

/-- The set of one character. -/
def only (c : Char) : CharSet := .ofRanges [(c.toNat, c.toNat)]

/-- What is in the first set and not in the second. -/
def without (s t : CharSet) : CharSet := .common s (.outside t)

/-- What is in one of two sets and not in both. -/
def differing (s t : CharSet) : CharSet := .either (s.without t) (t.without s)

end CharSet

/-! ### ASCII -/

/-- The characters of words. -/
def wordRanges : CodeRanges := [(0x30, 0x39), (0x41, 0x5a), (0x5f, 0x5f), (0x61, 0x7a)]

/-- The characters that part words or lines. -/
def spaceRanges : CodeRanges := [(0x09, 0x0d), (0x20, 0x20)]

def digitRanges : CodeRanges := [(0x30, 0x39)]

/-- The sets of ASCII characters that have a name. -/
def namedRanges : List (String × CodeRanges) :=
  [("alnum", [(0x30, 0x39), (0x41, 0x5a), (0x61, 0x7a)]),
   ("alpha", [(0x41, 0x5a), (0x61, 0x7a)]),
   ("ascii", [(0x00, 0x7f)]),
   ("blank", [(0x09, 0x09), (0x20, 0x20)]),
   ("cntrl", [(0x00, 0x1f), (0x7f, 0x7f)]),
   ("digit", digitRanges),
   ("graph", [(0x21, 0x7e)]),
   ("lower", [(0x61, 0x7a)]),
   ("print", [(0x20, 0x7e)]),
   ("punct", [(0x21, 0x2f), (0x3a, 0x40), (0x5b, 0x60), (0x7b, 0x7e)]),
   ("space", spaceRanges),
   ("upper", [(0x41, 0x5a)]),
   ("word", wordRanges),
   ("xdigit", [(0x30, 0x39), (0x41, 0x46), (0x61, 0x66)])]

/-- The part of a range that lies between two code points, moved by the distance of a capital
ASCII letter and the small one (0x20), up or down. -/
def movedPart (first last : Nat) (isUp : Bool) (range : Nat × Nat) : CodeRanges :=
  let low := max first range.1
  let high := min last range.2
  if high < low then []
  else if isUp then [(low + 0x20, high + 0x20)]
  else [(low - 0x20, high - 0x20)]

/-- The ranges with the other case of every ASCII letter in them. -/
def bothCases (ranges : CodeRanges) : CodeRanges :=
  ranges.flatMap fun range =>
    range :: movedPart 0x41 0x5a true range ++ movedPart 0x61 0x7a false range

end FieldNorm.Text
