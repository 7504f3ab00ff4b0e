/-!
Escape sequences of terminals, and what a text shows without them. A sequence starts with the
escape character; another one breaks it off, and so do the two characters that cancel.

`stripped` is the text without its sequences; `printable` also lacks the controls that do not
part words or lines.
-/

namespace FieldNorm.Text

/-- How far an escape sequence has been read. -/
inductive Sequence
  /-- There is none. -/
  | none
  /-- Nothing stands behind the escape character. -/
  | opened
  /-- Signs that want a letter behind them. -/
  | designating
  /-- `[` and parameters, which end with a letter. -/
  | control
  /-- `]` and a command, which ends with BEL. -/
  | command
  /-- A string that only its terminator ends. -/
  | string
deriving DecidableEq

def isEscape (c : Char) : Bool := c = '\x1b'

/-- Whether the character cancels a sequence. -/
def isCancel (c : Char) : Bool := c = '\x18' || c = '\x1a'

/-- Whether a character is between two code points. -/
def isWithin (first last : Nat) (c : Char) : Bool := first ≤ c.toNat && c.toNat ≤ last

/-- How far a sequence has been read behind one more character. The terminator of a string is
known by a byte, which may be part of any character that is not ASCII. -/
def Sequence.next (s : Sequence) (c : Char) : Sequence :=
  if isEscape c then .opened
  else if isCancel c then .none
  else
    match s with
    | .none => .none
    | .opened =>
      if c = '[' then .control
      else if c = ']' then .command
      else if ['P', 'X', '^', '_'].contains c then .string
      else if isWithin 0x20 0x2f c then .designating
      else if isWithin 0x30 0x7e c then .none
      else .opened
    | .designating => if isWithin 0x30 0x7e c then .none else .designating
    | .control => if isWithin 0x40 0x7e c then .none else .control
    | .command => if c = '\x07' then .none else .command
    | .string => if (String.utf8EncodeChar c).contains 0x9c then .none else .string

/-! ### Text without sequences -/

/-- Whether a character stays where a sequence has been read so far. Controls stay inside most
sequences, which go on behind them. -/
def Sequence.keeps (s : Sequence) (c : Char) : Bool :=
  match s with
  | .none => !isEscape c
  | .opened | .designating | .control => c.toNat < 0x20 && !isEscape c
  | .command | .string => isCancel c

/-- The text without its escape sequences, from inside a sequence on. One that does not end is
taken out if anything stands between it and the last one that does (`isBehindText`). Else only
its escape character is, and `unfinished` holds what was read behind that, backwards. -/
def strippedFrom (s : Sequence) (isBehindText : Bool) (unfinished : List Char) :
    List Char → List Char
  | [] => if s = .none || isBehindText then [] else unfinished.reverse
  | c :: rest =>
    if s.keeps c then c :: strippedFrom (s.next c) true unfinished rest
    else if s.next c = .none then strippedFrom .none false [] rest
    else
      strippedFrom (s.next c) isBehindText (if s = .none then [] else c :: unfinished) rest

/-- The text without its escape sequences. -/
def stripped (text : List Char) : List Char := strippedFrom .none false [] text

/-! ### Text without controls -/

def isControl (c : Char) : Bool := c.toNat < 0x20 || c.toNat = 0x7f

/-- The controls that part words or lines. -/
def isSpacing (c : Char) : Bool := ['\t', '\n', '\x0c', '\r'].contains c

/-- Whether a character counts as text where a sequence has been read so far. Inside most
sequences the controls that part words or lines do, and end them. -/
def Sequence.shows (s : Sequence) (c : Char) : Bool :=
  match s with
  | .none => isSpacing c || !isControl c
  | .opened | .designating | .control => isSpacing c
  | .command | .string => false

/-- The printable part of a text that starts inside a sequence. -/
def printableFrom (s : Sequence) : List Char → List Char
  | [] => []
  | c :: rest =>
    if s.shows c then c :: printableFrom .none rest else printableFrom (s.next c) rest

/-- The text without its escape sequences and controls, but for those controls that part words
or lines. -/
def printable (text : String) : String := String.ofList (printableFrom .none text.toList)

end FieldNorm.Text
