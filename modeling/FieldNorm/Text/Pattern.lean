import FieldNorm.Text.CharSet

/-!
Patterns and the search for them. A search looks for a pattern from every place of a text on. It
prefers what starts earlier, and of what starts at one place, what the pattern names first:
the first of two patterns, and more passes of a repetition, or fewer if it is lazy.

`isFoundAtEnd` says whether what is found in this way reaches to the end of the text. The search
goes through the text once. At every place it holds what may still be found, the preferred first
(`Search`). Where something is complete, it drops all that this is preferred to.
-/

namespace FieldNorm.Text

/-! ### Places -/

/-- A place in a text, by the characters around it. -/
structure Place where
  before : Option Char
  behind : Option Char

/-- What a pattern can ask of a place. -/
inductive Anchor
  | textStart
  | textEnd
  /-- The start of the text, or a place behind a line feed. -/
  | lineStart
  /-- The end of the text, or a place in front of a line feed. -/
  | lineEnd
  /-- The same where a carriage return, or one with a line feed, ends a line, too. -/
  | anyLineStart
  | anyLineEnd
  /-- The start or the end of a word. -/
  | wordEdge
  | noWordEdge
  | wordStart
  | wordEnd
deriving DecidableEq

/-- Whether a character is part of a word of ASCII letters, digits and low lines. -/
def isInWord (c : Option Char) : Bool := c.any wordRanges.has

/-- Whether a place is as asked for. -/
def Anchor.holds (anchor : Anchor) (place : Place) : Bool :=
  match anchor with
  | .textStart => place.before.isNone
  | .textEnd => place.behind.isNone
  | .lineStart => place.before.all (· = '\n')
  | .lineEnd => place.behind.all (· = '\n')
  | .anyLineStart =>
    place.before.all fun c => c = '\n' || (c = '\r' && place.behind != some '\n')
  | .anyLineEnd =>
    place.behind.all fun c => c = '\r' || (c = '\n' && place.before != some '\r')
  | .wordEdge => isInWord place.before != isInWord place.behind
  | .noWordEdge => isInWord place.before == isInWord place.behind
  | .wordStart => !isInWord place.before && isInWord place.behind
  | .wordEnd => isInWord place.before && !isInWord place.behind

/-! ### Patterns -/

/-- What a part of a text may look like. -/
inductive Pattern
  /-- Nothing. -/
  | empty
  /-- One character. -/
  | one (set : CharSet)
  /-- Nothing, at a place. -/
  | anchored (anchor : Anchor)
  /-- One pattern behind the other. -/
  | both (first second : Pattern)
  /-- One of two patterns, rather the first. -/
  | either (p q : Pattern)
  /-- A pattern once or more often, rather often unless `isLazy`. -/
  | repeated (isLazy : Bool) (p : Pattern)
  /-- What is left of a repetition behind a pass: any number of passes. -/
  | further (isLazy : Bool) (p : Pattern)
deriving DecidableEq

namespace Pattern

/-- A pattern or nothing, rather the pattern unless `isLazy`. -/
def optional (isLazy : Bool) (p : Pattern) : Pattern :=
  if isLazy then .either .empty p else .either p .empty

/-- Whether the pattern may be found where there is nothing. -/
def canBeNothing : Pattern → Bool
  | .empty => true
  | .one _ => false
  | .anchored _ => true
  | .both p q => p.canBeNothing && q.canBeNothing
  | .either p q => p.canBeNothing || q.canBeNothing
  | .repeated _ p => p.canBeNothing
  | .further _ _ => true

/-- A pattern any number of times. If a pass can be nothing, the first pass is not one that a
repetition goes on with. -/
def many (isLazy : Bool) (p : Pattern) : Pattern :=
  if p.canBeNothing then (p.repeated isLazy).optional isLazy else p.further isLazy

/-- The number of patterns in a pattern, itself among them. -/
def size : Pattern → Nat
  | .empty | .one _ | .anchored _ => 1
  | .both p q | .either p q => p.size + q.size + 1
  | .repeated _ p | .further _ p => p.size + 1

/-! ### Ways on -/

/-- What is still to be found, one pattern behind the other. -/
abbrev Rest := List Pattern

/-- A way on: the next character and what is to be found behind it. -/
structure Step where
  set : CharSet
  rest : Rest

/-- The ways on from a place, the preferred first, up to the first way that is complete, if there
is one; the second component says so. The first argument holds what is to be looked at, in order,
and `seen` what has been. What was seen once is not looked at again, so that a repetition does
not pass again where nothing was found. -/
def ways (place : Place) (fuel : Nat) (todo seen : List Rest) : List Step × Bool :=
  match fuel, todo with
  | 0, _ | _, [] => ([], false)
  | fuel + 1, rest :: todo =>
    if seen.contains rest then ways place fuel todo seen
    else
      let seen := rest :: seen
      match rest with
      | [] => ([], true)
      | .empty :: rest => ways place fuel (rest :: todo) seen
      | .one set :: rest =>
        let (steps, isComplete) := ways place fuel todo seen
        (⟨set, rest⟩ :: steps, isComplete)
      | .anchored anchor :: rest =>
        ways place fuel (if anchor.holds place then rest :: todo else todo) seen
      | .both p q :: rest => ways place fuel ((p :: q :: rest) :: todo) seen
      | .either p q :: rest => ways place fuel ((p :: rest) :: (q :: rest) :: todo) seen
      | .repeated isLazy p :: rest =>
        ways place fuel ((p :: .further isLazy p :: rest) :: todo) seen
      | .further isLazy p :: rest =>
        let again := p :: .further isLazy p :: rest
        ways place fuel ((if isLazy then [rest, again] else [again, rest]) ++ todo) seen

/-- How many times `ways` looks at something at most: each pattern in `p` has one rest behind it,
a repetition one more, and each rest that is looked at puts two others in its place at most. -/
def maxLooks (p : Pattern) (todo : List Rest) : Nat := todo.length + 4 * p.size + 2

/-! ### Search -/

/-- What a search has come to at a place. -/
structure Search where
  /-- What may still be found, the preferred first. -/
  rests : List Rest
  /-- Whether the pattern may also start here. -/
  mayStart : Bool

/-- The ways on of a search for a pattern, and whether one of them is complete. -/
def Search.ways (p : Pattern) (search : Search) (place : Place) : List Step × Bool :=
  let todo := search.rests ++ if search.mayStart then [[p]] else []
  Pattern.ways place (p.maxLooks todo) todo []

/-- Whether the pattern is found between the bytes of a character. There it finds nothing but
the place, with no letter of a word on either side. -/
def isFoundInside (p : Pattern) (c : Char) : Bool :=
  1 < c.utf8Size && (Search.ways p ⟨[], true⟩ ⟨some c, some c⟩).2

/-- Whether what a search finds reaches to the end of a text that goes on like this. What starts
later is not looked for where a way is complete. -/
def Search.endsAtEnd (p : Pattern) (search : Search) (before : Option Char) :
    List Char → Bool
  | [] => (search.ways p ⟨before, none⟩).2
  | c :: text =>
    let (steps, isComplete) := search.ways p ⟨before, some c⟩
    let rests := (steps.filter (·.set.has c)).map (·.rest)
    let mayStart := search.mayStart && !isComplete && !p.isFoundInside c
    Search.endsAtEnd p ⟨rests, mayStart⟩ (some c) text

/-- Whether what a search for the pattern finds in a text reaches to its end. -/
def isFoundAtEnd (p : Pattern) (text : String) : Bool :=
  Search.endsAtEnd p ⟨[], true⟩ none text.toList

end Pattern

end FieldNorm.Text
