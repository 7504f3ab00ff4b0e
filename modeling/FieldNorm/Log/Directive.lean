import FieldNorm.Log.Event
import FieldNorm.Text.Alphanumeric
import FieldNorm.Text.Blank
import FieldNorm.Text.Cut
import FieldNorm.Text.PatternReader

/-!
Directives give a detail to what they are about: a target, the events that have a field, or all
that happens inside a span. They are written `target[span{field=value}]=level`, where every part
may be missing.

A directive about a span or about the value of a field says nothing of an event by itself.
-/

namespace FieldNorm.Log

/-! ### Directives -/

/-- What a directive asks of a field. -/
structure FieldTest where
  name : String
  /-- What the value is to be; without it, the field need only be there. -/
  value : Option String
deriving DecidableEq

/-- What a directive is about. -/
structure Subject where
  /-- How the target starts. -/
  target : Option String
  /-- The name of a span. -/
  span : Option String
  field : Option FieldTest
deriving DecidableEq

/-- Gives a detail to a subject. -/
structure Directive where
  subject : Subject
  detail : Detail
deriving DecidableEq

/-- Everything that happens. -/
def Subject.all : Subject := ⟨none, none, none⟩

/-- Everything with a target that starts with a text. -/
def Subject.ofTarget (target : String) : Subject := ⟨some target, none, none⟩

/-! ### Values -/

/-- Whether the digits of a number, with a point and an exponent, make the whole text. -/
def isUnsignedNumber (s : List Char) : Bool :=
  let whole := s.takeWhile Char.isDigit
  let rest := s.dropWhile Char.isDigit
  let behindPoint := if rest.head? = some '.' then rest.tail else rest
  let places := if rest.head? = some '.' then behindPoint.takeWhile Char.isDigit else []
  let exponent := behindPoint.drop places.length
  !(whole.isEmpty && places.isEmpty) &&
    match exponent with
    | [] => true
    | 'e' :: '+' :: ds | 'e' :: '-' :: ds | 'E' :: '+' :: ds | 'E' :: '-' :: ds
    | 'e' :: ds | 'E' :: ds => !ds.isEmpty && ds.all Char.isDigit
    | _ => false

/-- Whether a text is the text of a truth value or of a number. -/
def isScalarText (text : String) : Bool :=
  let unsigned := match text.toList with
    | '+' :: s | '-' :: s => s
    | s => s
  let lower := String.ofList (unsigned.map Char.toLower)
  ["true", "false"].contains text || ["inf", "infinity", "nan"].contains lower ||
    isUnsignedNumber unsigned

namespace FieldTest

/-- Whether the value that is asked for can be understood. -/
def isReadable (t : FieldTest) : Bool :=
  match t.value with
  | none => true
  | some value => isScalarText value || (Text.Pattern.read? value).isSome

/-- Whether a text is the value that is asked for. A truth value or a number is no text; all
else is a pattern, and what a search for it finds has to reach to the end of the text. -/
def admits (t : FieldTest) (datum : String) : Bool :=
  match t.value with
  | none => true
  | some value =>
    !isScalarText value && ((Text.Pattern.read? value).map (·.isFoundAtEnd datum)).getD false

/-- Reads `name` or `name=value`; what follows another equals sign is left out. -/
def read (text : String) : Option FieldTest :=
  let test : FieldTest := match Text.pieces '=' text with
    | name :: value :: _ => ⟨name, some value⟩
    | _ => ⟨text, none⟩
  if test.isReadable then some test else none

end FieldTest

/-! ### What a directive is about -/

/-- The name of the field that holds the message of an event. -/
def messageField : String := "message"

/-- The names of the fields of an event. -/
def Event.fields (e : Event) : List String := messageField :: e.data.map (·.1)

namespace Subject

def fitsTarget (s : Subject) (target : String) : Bool :=
  match s.target with
  | none => true
  | some start => start.toList.isPrefixOf target.toList

/-- Whether the subject is one of spans, which decides on the events inside them. -/
def isScope (s : Subject) : Bool := s.span.isSome || s.field.isSome

/-- Whether a value is asked for. -/
def asksValue (s : Subject) : Bool := (s.field.bind (·.value)).isSome

/-- Whether the subject may also be one of events. -/
def isPlain (s : Subject) : Bool := s.span.isNone && !s.asksValue

/-- Whether an event is of the subject. -/
def fitsEvent (s : Subject) (e : Event) : Bool :=
  s.isPlain && s.fitsTarget e.source.target &&
    match s.field with
    | none => true
    | some test => e.fields.contains test.name

/-- Whether the subject is one of what comes from a source, whatever its data. -/
def fitsSource (s : Subject) (source : Source) : Bool := s.isPlain && s.fitsTarget source.target

/-- Whether the subject is one of spans and a span is of it, whatever its datum. -/
def concerns (s : Subject) (span : Span) : Bool :=
  s.isScope && s.fitsTarget Span.source.target &&
    (match s.span with
      | none => true
      | some name => name = span.name) &&
    match s.field with
    | none => true
    | some test => test.name = span.datumName

/-- Whether the datum of a span is as asked for. -/
def admitsDatum (s : Subject) (span : Span) : Bool :=
  match s.field with
  | none => true
  | some test => test.admits span.datum

/-- Of two subjects of one event, the narrower one decides: the one with the longer target, then
one with a field, then the one whose field comes later in the order of names. -/
def isAtMost (a b : Subject) : Bool :=
  let weight (s : Subject) : Nat :=
    match s.target with
    | none => 0
    | some start => start.utf8ByteSize + 1
  let name (s : Subject) : String := (s.field.map (·.name)).getD ""
  weight a < weight b || (weight a = weight b &&
    (a.field.isNone || (b.field.isSome && (name a < name b || name a = name b))))

end Subject

/-! ### Reading -/

/-- The names of levels, with their ranks. -/
def levelNames : List (String × Nat) :=
  [("off", 0), ("error", 1), ("warn", 2), ("info", 3), ("debug", 4), ("trace", 5)]

/-- A number from 0 to 5 in decimal digits, with an optional plus in front. -/
def rank? (s : List Char) : Option Nat :=
  let ds := match s with
    | '+' :: ds => ds
    | ds => ds
  if ds.isEmpty || !ds.all Char.isDigit then none
  else
    let n := ds.foldl (fun n d => 10 * n + (d.toNat - '0'.toNat)) 0
    if n ≤ 5 then some n else none

/-- The detail of a level's name in any case, or of its number. -/
def detail? (s : List Char) : Option Detail :=
  match rank? s with
  | some n => some ⟨n⟩
  | none => (levelNames.lookup (String.ofList (s.map Char.toLower))).map fun n => ⟨n⟩

/-- Whether a target or a level may start with the character. -/
def canStart (c : Char) : Bool :=
  c = '-' || c = ':' || c = '_' || Text.isAlphanumeric c

namespace Directive

/-- Full detail for a subject, which is what no level means. -/
def full (subject : Subject) : Directive := ⟨subject, .upTo .trace⟩

/-- Gives a subject the detail of a level behind its equals sign. -/
def withLevel (subject : Subject) (level : List Char) : Option Directive :=
  if level.isEmpty then some (full subject)
  else (detail? level).map fun detail => ⟨subject, detail⟩

/-- A part of a text: so many characters from a place on. -/
def part (s : List Char) (start length : Nat) : String :=
  String.ofList ((s.drop start).take length)

/-! The places of the parts are found in a text without blanks around it, and the parts are
taken from the same places of the text with them. So a blank in front spoils most directives. -/

/-- Reads what follows the bracket behind a span. -/
def readEnd (s trimmed : List Char) (start : Nat) (subject : Subject) : Option Directive :=
  match trimmed.drop start with
  | [] => some (full subject)
  | '=' :: _ => withLevel subject (s.drop (start + 1))
  | _ => none

/-- Reads a field in braces and what follows it. -/
def readField (s trimmed : List Char) (start : Nat) (target span : Option String) :
    Option Directive :=
  let length := ((trimmed.drop start).takeWhile (· != '\x7d')).length
  match trimmed.drop (start + length) with
  | _ :: ']' :: _ =>
    if length = 0 then none
    else
      (FieldTest.read (part s start length)).bind fun test =>
        readEnd s trimmed (start + length + 2) ⟨target, span, some test⟩
  | _ => none

/-- Reads a span in brackets and what follows it. -/
def readSpan (s trimmed : List Char) (start : Nat) (target : Option String) :
    Option Directive :=
  let length := ((trimmed.drop start).takeWhile fun c => c != ']' && c != '\x7b').length
  let name := part s start length
  match trimmed.drop (start + length) with
  | [] => none
  | ']' :: _ => readEnd s trimmed (start + length + 1) ⟨target, some name, none⟩
  | _ =>
    readField s trimmed (start + length + 1) target (if name = "" then none else some name)

/-- Reads a directive. A word alone is a level, or else a target, which is shown in full. -/
def read (s : List Char) : Option Directive :=
  let trimmed := Text.trim s
  match trimmed with
  | [] => none
  | '[' :: _ => readSpan s trimmed 1 none
  | c :: _ =>
    if !canStart c then none
    else
      let length := (trimmed.takeWhile fun c => c != '=' && c != '[').length
      let target := part s 0 length
      match trimmed.drop length with
      | [] =>
        match detail? s with
        | some detail => some ⟨.all, detail⟩
        | none => some (full (.ofTarget (String.ofList s)))
      | '=' :: _ => withLevel (.ofTarget target) (s.drop (length + 1))
      | _ => readSpan s trimmed (length + 1) (some target)

end Directive

end FieldNorm.Log
