import FieldNorm.Text.Alphanumeric
import FieldNorm.Text.Blank
import FieldNorm.Text.Hex
import FieldNorm.Text.Pattern

/-!
Reading patterns as they are written: characters, sets in brackets, a dot for any character but
a line break, `*`, `+` and `?` behind what they repeat, `|` between choices, groups in
parentheses, and flags at the start of a group or for the rest of it.

There are no tables of the letters beyond ASCII here. So what needs them is refused: the signs
for digits, blanks, words and their edges, and letters of either case, unless a flag says that
they are those of ASCII. What could fit a part of a character is refused as well.
-/

namespace FieldNorm.Text

/-! ### Flags -/

/-- What changes the meaning of the signs of a pattern from a place on. -/
inductive Flag
  /-- Letters stand for both cases. -/
  | bothCases
  /-- The start and the end of the text stand for those of its lines, too. -/
  | lines
  /-- A dot takes line breaks. -/
  | dotTakesBreaks
  /-- Repetitions are lazy, and those with a question mark are not. -/
  | lazy
  /-- Classes of characters are not only those of ASCII. -/
  | unicode
  /-- Carriage returns end lines, too. -/
  | returns
  /-- Blanks are left out, and what a hash sign begins on a line. -/
  | spaced
deriving DecidableEq

/-- The flags that are set. -/
abbrev Flags := List Flag

/-- The letters of the flags. -/
def flagLetters : List (Char × Flag) :=
  [('i', .bothCases), ('m', .lines), ('s', .dotTakesBreaks), ('U', .lazy), ('u', .unicode),
   ('R', .returns), ('x', .spaced)]

namespace Flags

/-- The flags at the start of a pattern. -/
def initial : Flags := [.unicode]

/-- Sets flags and takes them back. -/
def change (flags : Flags) (changes : List (Flag × Bool)) : Flags :=
  changes.foldl (fun flags (flag, isOn) =>
    if isOn then flag :: flags else flags.filter (· ≠ flag)) flags

/-- Reads letters of flags up to the colon or the bracket behind them. Those behind a minus sign
are taken back; there may be one, with a letter behind it, and every letter may be there once. -/
def readChanges (changes : List (Flag × Bool)) (isOff wantsLetter : Bool) :
    List Char → Option (List (Flag × Bool) × List Char)
  | [] => none
  | c :: rest =>
    if c = ':' || c = ')' then if wantsLetter then none else some (changes, c :: rest)
    else if c = '-' then if isOff then none else readChanges changes true true rest
    else
      match flagLetters.lookup c with
      | none => none
      | some flag =>
        if changes.any (·.1 = flag) then none
        else readChanges ((flag, !isOff) :: changes) isOff false rest

/-- Leaves out blanks, and what follows a hash sign up to the end of the line. -/
def dropSpaces (isComment : Bool) : List Char → List Char
  | [] => []
  | c :: rest =>
    if isComment then dropSpaces (c ≠ '\n') rest
    else if c = '#' then dropSpaces true rest
    else if isBlank c then dropSpaces false rest
    else c :: rest

/-- Leaves out what has no meaning in front of the next sign. -/
def skip (flags : Flags) (s : List Char) : List Char :=
  if flags.contains .spaced then dropSpaces false s else s

/-- The set of the characters in ranges, of either case if letters stand for both. -/
def setOf (flags : Flags) (ranges : CodeRanges) : Option CharSet :=
  if flags.contains .unicode then
    if flags.contains .bothCases then none else some (.ofRanges ranges)
  else if ranges.any (0x7f < ·.2) then none
  else some (.ofRanges (if flags.contains .bothCases then bothCases ranges else ranges))

/-- The set of what is not in a set. Outside of ASCII there are parts of characters. -/
def outside? (flags : Flags) (s : CharSet) : Option CharSet :=
  if flags.contains .unicode then some (.outside s) else none

end Flags

/-! ### Signs -/

/-- A sign that may be written with a backslash. -/
inductive Sign
  | char (c : Char)
  | set (s : CharSet)
  | anchor (a : Anchor)

/-- The controls that have a letter behind a backslash. -/
def escapedControls : List (Char × Char) :=
  [('n', '\n'), ('t', '\t'), ('r', '\r'), ('a', '\x07'), ('f', '\x0c'), ('v', '\x0b')]

/-- The letters that start the number of a character, with its number of digits. -/
def escapedNumbers : List (Char × Nat) := [('x', 2), ('u', 4), ('U', 8)]

/-- The letters of classes of characters. Those of their complements are always refused. -/
def escapedClasses : List (Char × CodeRanges) :=
  [('d', digitRanges), ('s', spaceRanges), ('w', wordRanges)]

/-- The letters and signs of places, and whether these depend on the letters around them. -/
def escapedAnchors : List (Char × Anchor × Bool) :=
  [('A', .textStart, false), ('z', .textEnd, false), ('b', .wordEdge, true),
   ('B', .noWordEdge, true), ('<', .wordStart, true), ('>', .wordEnd, true)]

/-- Reads hexadecimal digits behind the number `n`, as many as are asked for. -/
def readNumber (flags : Flags) (n : Nat) : Nat → List Char → Option (Nat × List Char)
  | 0, s => some (n, flags.skip s)
  | digits + 1, s =>
    match flags.skip s with
    | [] => none
    | c :: rest => (hexValue? c).bind fun d => readNumber flags (16 * n + d) digits rest

/-- Reads the number of a character. One of two digits is that of a byte in ASCII. -/
def readNumbered (flags : Flags) (digits : Nat) (s : List Char) : Option (Char × List Char) :=
  (readNumber flags 0 digits s).bind fun (n, rest) =>
    if !n.isValidChar || (digits = 2 && 0x7f < n && !flags.contains .unicode) then none
    else some (Char.ofNat n, rest)

/-- Reads what stands behind a backslash. Letters without a meaning are refused, and so are
digits and what is not ASCII. -/
def readEscaped (flags : Flags) : List Char → Option (Sign × List Char)
  | [] => none
  | c :: rest =>
    match escapedControls.lookup c, escapedNumbers.lookup c, escapedClasses.lookup c,
      escapedAnchors.lookup c with
    | some control, _, _, _ => some (.char control, rest)
    | _, some digits, _, _ =>
      (readNumbered flags digits rest).map fun (c, rest) => (.char c, rest)
    | _, _, some ranges, _ =>
      if flags.contains .unicode then none else some (.set (.ofRanges ranges), rest)
    | _, _, _, some (anchor, dependsOnLetters) =>
      if dependsOnLetters && flags.contains .unicode then none else some (.anchor anchor, rest)
    | _, _, _, _ =>
      if c.isAlphanum || 0x7f < c.toNat then none else some (.char c, rest)

/-! ### Sets -/

/-- How the two sides of a double sign in a set are put together. -/
inductive SetOperation
  | common | without | differing

def SetOperation.apply : SetOperation → CharSet → CharSet → CharSet
  | .common, s, t => .common s t
  | .without, s, t => s.without t
  | .differing, s, t => s.differing t

/-- The signs that stand twice between two sides. -/
def SetOperation.ofSign? (c : Char) : Option SetOperation :=
  if c = '&' then some .common
  else if c = '-' then some .without
  else if c = '~' then some .differing
  else none

/-- A set whose bracket is open. -/
structure OpenSet where
  /-- Whether the set is what is not in the brackets. -/
  isOutside : Bool
  /-- What stands in front of the last double sign, and the sign. -/
  left : Option (CharSet × SetOperation)
  /-- What stands behind it. -/
  members : CharSet

namespace OpenSet

def add (o : OpenSet) (s : CharSet) : OpenSet := { o with members := .either o.members s }

/-- What stands in the brackets so far. -/
def value (o : OpenSet) : CharSet :=
  match o.left with
  | none => o.members
  | some (left, operation) => operation.apply left o.members

/-- Begins another side. -/
def operate (o : OpenSet) (operation : SetOperation) : OpenSet :=
  { o with left := some (o.value, operation), members := .ofRanges [] }

/-- The set, when its bracket is closed. -/
def close (flags : Flags) (o : OpenSet) : Option CharSet :=
  if o.isOutside then flags.outside? o.value else some o.value

/-- Adds the minus signs at the start of a set, which mean themselves. -/
def addMinuses (flags : Flags) (fuel : Nat) (o : OpenSet) (s : List Char) :
    Option (OpenSet × List Char) :=
  match fuel, s with
  | fuel + 1, '-' :: rest =>
    (flags.setOf [('-'.toNat, '-'.toNat)]).bind fun minus =>
      (o.add minus).addMinuses flags fuel (flags.skip rest)
  | _, s => some (o, s)

/-- Reads the start of a set behind its bracket. A closing bracket means itself there. -/
def read (flags : Flags) (s : List Char) : Option (OpenSet × List Char) :=
  let s := flags.skip s
  let isOutside := s.head? = some '^'
  let start : OpenSet := ⟨isOutside, none, .ofRanges []⟩
  let s := if isOutside then flags.skip s.tail else s
  match s with
  | ']' :: rest =>
    (flags.setOf [(']'.toNat, ']'.toNat)]).map fun bracket =>
      (start.add bracket, flags.skip rest)
  | s => start.addMinuses flags s.length s

end OpenSet

/-- Reads a named set behind its bracket: colons around the name, and `^` in front of it for
what is not in the set. -/
def readNamed (s : List Char) : Option (Bool × CodeRanges × List Char) :=
  match s with
  | ':' :: s =>
    let isOutside := s.head? = some '^'
    let s := if isOutside then s.tail else s
    let name := s.takeWhile (· != ':')
    match s.drop name.length, namedRanges.lookup (String.ofList name) with
    | ':' :: ']' :: rest, some ranges => some (isOutside, ranges, rest)
    | _, _ => none
  | _ => none

/-- Reads a character of a set, or a class behind a backslash. -/
def readMember (flags : Flags) : List Char → Option (Sign × List Char)
  | [] => none
  | '\\' :: rest => readEscaped flags rest
  | c :: rest => some (.char c, rest)

/-- Reads a member of a set or, with a minus sign between the first and the last character, a
range. -/
def readRange (flags : Flags) (s : List Char) : Option (CharSet × List Char) :=
  (readMember flags s).bind fun (first, rest) =>
    let rest := flags.skip rest
    let behindMinus := flags.skip rest.tail
    let isRange := rest.head? = some '-' && behindMinus.head? != some ']' &&
      behindMinus.head? != some '-'
    if isRange then
      match first, readMember flags behindMinus with
      | .char first, some (.char last, rest) =>
        if last < first then none
        else (flags.setOf [(first.toNat, last.toNat)]).map fun set => (set, rest)
      | _, _ => none
    else
      match first with
      | .char c => (flags.setOf [(c.toNat, c.toNat)]).map fun set => (set, rest)
      | .set set => some (set, rest)
      | .anchor _ => none

/-- Reads the rest of a set inside others, the innermost one first; `fuel` bounds the length of
the text. -/
def readSet (flags : Flags) (fuel : Nat) (current : OpenSet) (outer : List OpenSet)
    (s : List Char) : Option (CharSet × List Char) :=
  match fuel, flags.skip s with
  | 0, _ | _, [] => none
  | fuel + 1, c :: rest =>
    if c = '[' then
      match readNamed rest with
      | some (isOutside, ranges, rest) =>
        (flags.setOf ranges).bind fun set =>
          (if isOutside then flags.outside? set else some set).bind fun set =>
            readSet flags fuel (current.add set) outer rest
      | none =>
        (OpenSet.read flags rest).bind fun (inner, rest) =>
          readSet flags fuel inner (current :: outer) rest
    else if c = ']' then
      (current.close flags).bind fun set =>
        match outer with
        | [] => some (set, rest)
        | around :: outer => readSet flags fuel (around.add set) outer rest
    else
      match if rest.head? = some c then SetOperation.ofSign? c else none with
      | some operation => readSet flags fuel (current.operate operation) outer rest.tail
      | none =>
        (readRange flags (c :: rest)).bind fun (set, rest) =>
          readSet flags fuel (current.add set) outer rest

/-! ### Groups -/

/-- A group that is being read. -/
structure Group where
  /-- Its choices so far. -/
  choices : Option Pattern
  /-- The parts of the present one, the last one first. -/
  parts : List Pattern
  /-- Whether the last thing read is a part, which can be repeated. -/
  endsInPart : Bool

namespace Group

def opened : Group := ⟨none, [], false⟩

/-- The pattern of the present choice. -/
def choice (g : Group) : Pattern :=
  match g.parts with
  | [] => .empty
  | last :: parts => parts.foldl (fun p part => .both part p) last

/-- The pattern of the group. -/
def pattern (g : Group) : Pattern :=
  match g.choices with
  | some choices => .either choices g.choice
  | none => g.choice

def add (g : Group) (p : Pattern) : Group := { g with parts := p :: g.parts, endsInPart := true }

/-- Begins another choice. -/
def branch (g : Group) : Group := ⟨some g.pattern, [], false⟩

/-- Notes that flags were changed. -/
def flagged (g : Group) : Group := { g with endsInPart := false }

/-- Changes the last part; nothing else may stand behind it. -/
def repeated? (g : Group) (f : Pattern → Pattern) : Option Group :=
  match g.parts with
  | p :: parts => if g.endsInPart then some { g with parts := f p :: parts } else none
  | [] => none

end Group

/-- Reads the name of a group up to the sign behind it: letters, digits, low lines, dots and
brackets, of which the first is no digit, dot or bracket. -/
def readGroupName (s : List Char) : Option (String × List Char) :=
  let name := s.takeWhile (· != '>')
  let startsName (c : Char) : Bool := c = '_' || (isAlphanumeric c && !c.isDigit)
  let continuesName (c : Char) : Bool := ['_', '.', '[', ']'].contains c || isAlphanumeric c
  match name, s.drop name.length with
  | c :: more, _ :: rest =>
    if startsName c && more.all continuesName then some (String.ofList name, rest) else none
  | _, _ => none

/-- The start of a group. -/
inductive Opening
  | plain
  | named (name : String)
  /-- With flags of its own. -/
  | flagged (changes : List (Flag × Bool))
  /-- No group, but flags for the rest of the one around. -/
  | change (changes : List (Flag × Bool))

/-- Reads the start of a group behind its bracket. -/
def readOpening (s : List Char) : Option (Opening × List Char) :=
  match s with
  | '?' :: 'P' :: '<' :: rest | '?' :: '<' :: rest =>
    (readGroupName rest).map fun (name, rest) => (.named name, rest)
  | '?' :: rest =>
    match Flags.readChanges [] false false rest with
    | some (changes, ':' :: rest) => some (.flagged changes, rest)
    | some (changes, ')' :: rest) =>
      if changes.isEmpty then none else some (.change changes, rest)
    | _ => none
  | rest => some (.plain, rest)

/-! ### Patterns -/

namespace Pattern

/-- A character, of either case if letters stand for both. -/
def ofChar? (flags : Flags) (c : Char) : Option Pattern :=
  if flags.contains .bothCases && c.toNat ≤ 0x7f || flags.contains .unicode then
    (flags.setOf [(c.toNat, c.toNat)]).map .one
  else some (.one (.only c))

/-- The pattern of a dot. It needs whole characters. -/
def ofDot? (flags : Flags) : Option Pattern :=
  if !flags.contains .unicode then none
  else if flags.contains .dotTakesBreaks then some (.one (.outside (.ofRanges [])))
  else if flags.contains .returns then
    some (.one (.outside (.either (.only '\n') (.only '\r'))))
  else some (.one (.outside (.only '\n')))

/-- The start of the text, or that of a line. -/
def ofStart (flags : Flags) : Pattern :=
  .anchored <|
    if !flags.contains .lines then .textStart
    else if flags.contains .returns then .anyLineStart
    else .lineStart

/-- The end of the text, or that of a line. -/
def ofEnd (flags : Flags) : Pattern :=
  .anchored <|
    if !flags.contains .lines then .textEnd
    else if flags.contains .returns then .anyLineEnd
    else .lineEnd

def ofSign? (flags : Flags) : Sign → Option Pattern
  | .char c => ofChar? flags c
  | .set set => some (.one set)
  | .anchor anchor => some (.anchored anchor)

/-- What a sign of repetition makes of a pattern. -/
def repetition? (c : Char) : Option (Bool → Pattern → Pattern) :=
  if c = '*' then some many
  else if c = '+' then some repeated
  else if c = '?' then some optional
  else none

/-- Reads a part that is neither a group nor a sign of repetition. Numbers of repetitions, which
stand in braces, are refused. -/
def readPart (flags : Flags) : List Char → Option (Pattern × List Char)
  | [] => none
  | c :: rest =>
    if c = '.' then (ofDot? flags).map fun p => (p, rest)
    else if c = '^' then some (ofStart flags, rest)
    else if c = '$' then some (ofEnd flags, rest)
    else if c = '[' then
      (OpenSet.read flags rest).bind fun (set, rest) =>
        (readSet flags (rest.length + 1) set [] rest).map fun (set, rest) => (.one set, rest)
    else if c = '\\' then
      (readEscaped flags rest).bind fun (sign, rest) => (ofSign? flags sign).map fun p => (p, rest)
    else if c = '\x7b' then none
    else (ofChar? flags c).map fun p => (p, rest)

/-- Reads the rest of a pattern inside groups, the innermost one first, each with the flags
around it; `names` are those of groups, and `fuel` bounds the length of the text. -/
def readFrom (fuel : Nat) (flags : Flags) (group : Group) (outer : List (Group × Flags))
    (names : List String) (s : List Char) : Option Pattern :=
  match fuel, flags.skip s with
  | _, [] => if outer.isEmpty then some group.pattern else none
  | 0, _ => none
  | fuel + 1, c :: rest =>
    if c = '(' then
      let around := (group, flags) :: outer
      match readOpening (flags.skip rest) with
      | none => none
      | some (.plain, rest) => readFrom fuel flags .opened around names rest
      | some (.named name, rest) =>
        if names.contains name then none
        else readFrom fuel flags .opened around (name :: names) rest
      | some (.flagged changes, rest) =>
        readFrom fuel (flags.change changes) .opened around names rest
      | some (.change changes, rest) =>
        readFrom fuel (flags.change changes) group.flagged outer names rest
    else if c = ')' then
      match outer with
      | [] => none
      | (around, flags) :: outer => readFrom fuel flags (around.add group.pattern) outer names rest
    else if c = '|' then readFrom fuel flags group.branch outer names rest
    else
      match repetition? c with
      | some f =>
        let isMarked := rest.head? = some '?'
        let isLazy := isMarked != flags.contains .lazy
        (group.repeated? (f isLazy)).bind fun group =>
          readFrom fuel flags group outer names (if isMarked then rest.tail else rest)
      | none =>
        (readPart flags (c :: rest)).bind fun (p, rest) =>
          readFrom fuel flags (group.add p) outer names rest

/-- Reads a pattern. -/
def read? (text : String) : Option Pattern :=
  readFrom text.toList.length .initial .opened [] [] text.toList

end Pattern

end FieldNorm.Text
