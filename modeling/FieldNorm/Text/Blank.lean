import FieldNorm.Text.CodeRanges

/-!
White space in the sense of the Unicode property White_Space, and its removal from both ends
of a text.
-/

namespace FieldNorm.Text

/-- The code points with the property White_Space. -/
def blanks : CodeRanges :=
  [(0x9, 0xd), (0x20, 0x20), (0x85, 0x85), (0xa0, 0xa0), (0x1680, 0x1680), (0x2000, 0x200a),
   (0x2028, 0x2029), (0x202f, 0x202f), (0x205f, 0x205f), (0x3000, 0x3000)]

def isBlank (c : Char) : Bool := blanks.has c

/-- The text without the blanks at its start. -/
def trimStart (s : List Char) : List Char := s.dropWhile isBlank

/-- The text without the blanks at either end. -/
def trim (s : List Char) : List Char := (trimStart (trimStart s).reverse).reverse

end FieldNorm.Text
