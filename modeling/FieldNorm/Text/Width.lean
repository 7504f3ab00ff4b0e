import FieldNorm.Text.Escape
import FieldNorm.Text.Ligature
import FieldNorm.Text.Wide

/-!
The number of terminal columns that a text takes. Escape sequences take none, and the columns of
a character depend on the text behind it, so that a text is measured from its end.
-/

namespace FieldNorm.Text

/-- The columns of a character on its own. -/
def charWidth (c : Char) : Nat :=
  if c.toNat ≤ 0xa0 then 1
  else if zeroWidth.has c then 0
  else if wide.has c then 2
  else if extraWide.has c then 3
  else 1

def isSkinTone (c : Char) : Bool := isWithin 0x1f3fb 0x1f3ff c

/-- Whether the character is a letter of which two make a flag. -/
def isFlagLetter (c : Char) : Bool := isWithin 0x1f1e6 0x1f1ff c

/-- The black flag, which tags behind it make the flag of a region. -/
def isTaggedFlag (c : Char) : Bool := c.toNat = 0x1f3f4

def isTagEnd (c : Char) : Bool := c.toNat = 0xe007f

def isTagLetter (c : Char) : Bool := isWithin 0xe0061 0xe007a c

def isTagDigit (c : Char) : Bool := isWithin 0xe0030 0xe0039 c

/-- The key on which a keycap is drawn. -/
def isKeycap (c : Char) : Bool := c = '\u20e3'

/-- The quotation marks that can take two columns. -/
def isQuote (c : Char) : Bool := ['\u2018', '\u2019', '\u201c', '\u201d'].contains c

/-! ### What stands behind a character -/

/-- The form of a character that a selector behind it asks for. -/
inductive Form
  /-- An emoji of two columns. -/
  | emoji
  /-- A text of one column. -/
  | text
  /-- A quotation mark of two columns. -/
  | fullwidth
deriving DecidableEq

/-- The form that a selector asks for. -/
def form? (c : Char) : Option Form :=
  if c = '\ufe0f' then some .emoji
  else if c = '\ufe0e' then some .text
  else if c = '\ufe01' then some .fullwidth
  else none

/-- What the text behind a character says about the character. -/
inductive Behind
  | nothing
  /-- The end of a ligature, and whether a joiner stands in front of it. -/
  | ligature (ending : Ending) (isJoined : Bool)
  /-- The Kirat Rai vowel sign e, which others in front of it are written together with. -/
  | kiratE
  /-- The Kirat Rai vowel sign ai. -/
  | kiratAi
  /-- An emoji of two columns. -/
  | emoji
  | skinTone
  /-- A letter of a flag. -/
  | flagLetter
  | flagLetters
  /-- A joiner and an emoji of two columns. -/
  | joinedEmoji
  /-- A keycap with a joiner and an emoji behind it. -/
  | joinedKeycap
  /-- One letter of a flag with a joiner and an emoji behind it. -/
  | joinedFlagLetter
  | joinedFlag
  /-- A letter in front of the two of a flag with a joiner and an emoji behind it. -/
  | joinedFlagOdd
  /-- The end of a flag's tags with a joiner and an emoji behind it; how many letters and, in
  front of these, digits stand before it. -/
  | joinedTags (letters digits : Nat)
deriving DecidableEq

namespace Behind

/-- Whether an emoji right in front belongs to the emoji behind it. -/
def joinsEmoji : Behind → Bool
  | .joinedEmoji | .joinedKeycap => true
  | _ => false

/-- What a selector leaves of what stands behind it. -/
def acrossSelector : Behind → Behind
  | .ligature ending isJoined => .ligature ending isJoined
  | _ => .nothing

def ofEnding : Option Ending → Behind
  | some ending => .ligature ending false
  | none => .nothing

end Behind

/-! ### Columns of a character -/

/-- The columns that a character adds to a text which does not decide on them, and what it says
about the character before it. -/
def columnsAlone (c : Char) : Int × Behind :=
  if isSkinTone c then (2, .skinTone)
  else if isFlagLetter c then (1, .flagLetter)
  else if emoji.has c then (2, .emoji)
  else if c.toNat = 0x16d67 then (1, .kiratE)
  else if c.toNat = 0x16d68 then (1, .kiratAi)
  else (charWidth c, .ofEnding (ending? c))

/-- The columns that a character adds to a text together with which it is one sign. -/
def columnsTogether? (behind : Behind) (c : Char) : Option (Int × Behind) :=
  match behind with
  | .nothing => none
  | .ligature ending isJoined =>
    if c = joiner && ending.takesJoiner then some (0, .ligature ending true)
    else if ligatureTransparent.has c then some (0, behind)
    else (ending.complete? isJoined c).map fun (columns, before) => (columns, .ofEnding before)
  | .kiratE =>
    if c.toNat = 0x16d63 || c.toNat = 0x16d69 then some (0, .nothing)
    else if c.toNat = 0x16d67 then some (0, .kiratAi)
    else if c.toNat = 0x16d68 then some (1, .kiratE)
    else none
  | .kiratAi => if c.toNat = 0x16d63 then some (0, .nothing) else none
  | .emoji => if c = joiner then some (0, .joinedEmoji) else none
  | .skinTone =>
    if takesSkinTone.has c then some (0, .emoji)
    else if c = joiner then some (0, .joinedEmoji)
    else none
  | .flagLetter => if isFlagLetter c then some (1, .flagLetters) else none
  | .flagLetters =>
    if isFlagLetter c then some (1, .flagLetters)
    else if c = joiner then some (0, .joinedEmoji)
    else none
  | .joinedEmoji =>
    if isKeycap c then some (0, .joinedKeycap)
    else if isFlagLetter c then some (1, .joinedFlagLetter)
    else if isSkinTone c then some (0, .skinTone)
    else if isTagEnd c then some (0, .joinedTags 0 0)
    else if emoji.has c then some (0, .emoji)
    else none
  | .joinedKeycap => none
  | .joinedFlagLetter => if isFlagLetter c then some (-1, .joinedFlag) else none
  | .joinedFlag =>
    if isFlagLetter c then some (3, .joinedFlagOdd)
    else if c = joiner then some (0, .joinedEmoji)
    else none
  | .joinedFlagOdd =>
    if isFlagLetter c then some (-1, .joinedFlag)
    else if c = joiner then some (0, .joinedEmoji)
    else none
  | .joinedTags letters digits =>
    if isTagLetter c && digits = 0 && letters < 6 then some (0, .joinedTags (letters + 1) 0)
    else if isTagDigit c && digits < 3 && letters ≤ 4 then
      some (0, .joinedTags letters (digits + 1))
    else if isTaggedFlag c && (digits = 3 || (digits = 0 && 3 ≤ letters)) then some (0, .emoji)
    else none

/-- What stands behind a character: the selector of its form, if one is there, and the rest. -/
structure Surroundings where
  form : Option Form
  behind : Behind
deriving DecidableEq

/-- The columns that a character adds to a text which does not start with a selector of its
form. -/
def columnsUnselected (behind : Behind) (c : Char) : Int × Surroundings :=
  if c.toNat ≤ 0xa0 then (1, ⟨none, .nothing⟩)
  else
    match form? c with
    | some form =>
      let keeps := form = .emoji && behind.joinsEmoji
      (0, ⟨some form, if keeps then behind else behind.acrossSelector⟩)
    | none =>
      let (columns, behind) := (columnsTogether? behind c).getD (columnsAlone c)
      (columns, ⟨none, behind⟩)

/-- The columns that a character adds in front of a text. A selector gives the character before
it another form, if it has that one. -/
def columnsBefore (s : Surroundings) (c : Char) : Int × Surroundings :=
  match s.form with
  | some .emoji =>
    if hasEmojiForm c then (if s.behind.joinsEmoji then 0 else 2, ⟨none, .emoji⟩)
    else columnsUnselected s.behind.acrossSelector c
  | some .text =>
    if textOnRequest.has c then (1, ⟨none, .nothing⟩)
    else columnsUnselected s.behind.acrossSelector c
  | some .fullwidth =>
    if isQuote c then (2, ⟨none, .nothing⟩)
    else columnsUnselected s.behind.acrossSelector c
  | none => columnsUnselected s.behind c

/-! ### Columns of a text -/

/-- The columns of a text without escape sequences. -/
def columns (s : List Char) : Nat :=
  (s.foldr (fun c (sum, surroundings) =>
    let (columns, surroundings) := columnsBefore surroundings c
    (sum + columns, surroundings)) ((0 : Int), (⟨none, .nothing⟩ : Surroundings))).1.toNat

/-- The number of columns that a text takes on a terminal. -/
def width (s : List Char) : Nat := columns (stripped s)

end FieldNorm.Text
