import FieldNorm.Text.Emoji
import FieldNorm.Text.ZeroWidth

/-!
Letters that are written as one sign and take fewer columns together than apart. A text is
measured from its end, so that a ligature is known by its last letter, and the letters in front
of that one complete it. Some of them want a joiner in between.
-/

namespace FieldNorm.Text

def joiner : Char := '\u200d'

/-! ### Letters -/

/-- The Arabic letters that are written together with an alef behind them. -/
def lams : CodeRanges :=
  [(0x644, 0x644), (0x6b5, 0x6b8), (0x76a, 0x76a), (0x8a6, 0x8a6), (0x8c7, 0x8c7)]

def alefs : CodeRanges :=
  [(0x622, 0x623), (0x625, 0x625), (0x627, 0x627), (0x671, 0x673), (0x675, 0x675),
   (0x773, 0x774), (0x870, 0x882)]

/-- The Khmer letters that can stand below another one. -/
def khmerLetters : CodeRanges :=
  [(0x1780, 0x1782), (0x1784, 0x1787), (0x1789, 0x178c), (0x178e, 0x1793), (0x1795, 0x1798),
   (0x179b, 0x179d), (0x17a0, 0x17a0), (0x17a2, 0x17a2), (0x17a7, 0x17a7), (0x17ab, 0x17ac),
   (0x17af, 0x17af)]

/-- The sign that puts the Khmer letter behind it below the one before it. -/
def khmerBelow : Char := '\u17d2'

def tifinaghLetters : CodeRanges := [(0x2d31, 0x2d65), (0x2d6f, 0x2d6f)]

/-- The sign between two Tifinagh letters that are written together. -/
def tifinaghJoiner : Char := '\u2d7f'

/-- The Lisu signs of tone that can stand in front of another one. -/
def lisuFirstTones : CodeRanges := [(0xa4f8, 0xa4fb)]

def lisuLastTones : CodeRanges := [(0xa4fc, 0xa4fd)]

/-- The code points that change nothing when they stand inside a ligature. -/
def ligatureTransparent : CodeRanges :=
  [(0x34f, 0x34f), (0x17b4, 0x17b5), (0x180b, 0x180d), (0x180f, 0x180f), (0xfe00, 0xfe0f),
   (0xe0100, 0xe01ef)]

/-- Whether Arabic letters are written together across the character. -/
def joinsArabic (c : Char) : Bool := zeroWidth.has c && !joinBreaking.has c

/-! ### Endings -/

/-- The end of a ligature. -/
inductive Ending
  /-- The Arabic alef, whose ligatures start with a lam. -/
  | alef
  /-- The Hebrew lamed, in front of which stand alef and a joiner. -/
  | lamed
  | khmerLetter
  /-- The Buginese ya, in front of which stand a vowel sign and a joiner. -/
  | ya
  /-- The Buginese vowel sign and the ya behind it. -/
  | vowelYa
  | tifinaghLetter
  /-- A Tifinagh letter and the sign in front of it. -/
  | tifinaghJoined
  | lisuTone
  /-- The letter i of Old Turkic, in front of which stand another one and a joiner. -/
  | orkhonI
deriving DecidableEq

/-- Whether a joiner can stand in front of the ending inside a ligature. -/
def Ending.takesJoiner (e : Ending) : Bool := e ≠ .alef

/-- The ending that a character is on its own. -/
def ending? (c : Char) : Option Ending :=
  if alefs.has c then some .alef
  else if c = '\u05dc' then some .lamed
  else if khmerLetters.has c then some .khmerLetter
  else if c = '\u1a10' then some .ya
  else if tifinaghLetters.has c then some .tifinaghLetter
  else if lisuLastTones.has c then some .lisuTone
  else if c.toNat = 0x10c03 then some .orkhonI
  else none

/-- The columns that a character adds to the ending behind it, if they make a ligature, and what
it is the end of then. A sign that was counted before it was known to stand in a ligature is
taken back. -/
def Ending.complete? (e : Ending) (isJoined : Bool) (c : Char) : Option (Int × Option Ending) :=
  match e with
  | .alef =>
    if lams.has c then some (0, none)
    else if joinsArabic c then some (0, some .alef)
    else none
  | .lamed => if isJoined && c = '\u05d0' then some (0, none) else none
  | .khmerLetter => if c = khmerBelow then some (-1, none) else none
  | .ya => if isJoined && c = '\u1a17' then some (0, some .vowelYa) else none
  | .vowelYa => if c = '\u1a15' then some (0, none) else none
  | .tifinaghLetter =>
    if c = tifinaghJoiner then some (1, some .tifinaghJoined)
    else if isJoined && tifinaghLetters.has c then some (0, none)
    else none
  | .tifinaghJoined => if tifinaghLetters.has c then some (-1, none) else none
  | .lisuTone => if lisuFirstTones.has c then some (0, none) else none
  | .orkhonI => if isJoined && c.toNat = 0x10c32 then some (0, none) else none

end FieldNorm.Text
