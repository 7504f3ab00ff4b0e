import FieldNorm.FieldMap
import FieldNorm.Json.Printer
import FieldNorm.Log.Filter

/-!
The lines in which events are written: two forms for readers, which may be coloured, and one in
JSON. Lines carry no time, so that equal runs leave equal logs.
-/

namespace FieldNorm.Log

/-- The form of a line. -/
inductive Format
  /-- The span with its datum stands in front of the message. -/
  | pretty
  /-- The name of the span stands in front of the message and its datum at the end. -/
  | compact
  | json
deriving DecidableEq, Inhabited

/-- How events are written. -/
structure Layout where
  format : Format
  isColoured : Bool
deriving DecidableEq

/-! ### Colours -/

/-- How a part of a line is set off. -/
inductive Paint
  | bold | dim | italic | foreground (code : Nat)

def Paint.code : Paint → Nat
  | .bold => 1
  | .dim => 2
  | .italic => 3
  | .foreground code => code

def Level.paint : Level → Paint
  | .error => .foreground 31
  | .warn => .foreground 33
  | .info => .foreground 32
  | .debug => .foreground 34
  | .trace => .foreground 35

/-- A text set off by colour, if lines are coloured. -/
def Layout.paint (layout : Layout) (paint : Paint) (s : String) : String :=
  if layout.isColoured then s!"\x1b[{paint.code}m" ++ s ++ "\x1b[0m" else s

/-! ### Lines for readers -/

/-- The level, padded on the left to five characters. -/
def Level.padded (level : Level) : String :=
  String.ofList (List.replicate (5 - level.name.length) ' ') ++ level.name

/-- A datum in a line for readers. -/
def Datum.inLine : Datum → String
  | .text s => Text.quoted s
  | datum => datum.shown

/-- A name and a datum. -/
def Layout.pair (layout : Layout) (name datum : String) : String :=
  layout.paint .italic name ++ layout.paint .dim "=" ++ datum

/-- The span in front of the message. -/
def Layout.spanBefore (layout : Layout) (span : Span) : String :=
  match layout.format with
  | .pretty =>
    layout.paint .bold span.name ++ layout.paint .bold "\x7b" ++
      layout.pair span.datumName span.datum ++ layout.paint .bold "\x7d" ++
      layout.paint .dim ":" ++ " "
  | _ => layout.paint .bold span.name ++ ": "

/-- The span behind the data. -/
def Layout.spanAfter (layout : Layout) (span : Span) : String :=
  match layout.format with
  | .compact => " " ++ layout.paint .dim (layout.pair span.datumName span.datum)
  | _ => ""

/-- A line for readers. -/
def Layout.readable (layout : Layout) (span : Option Span) (e : Event) : String :=
  let data := e.data.map fun (name, datum) => " " ++ layout.pair name datum.inLine
  layout.paint e.level.paint e.level.padded ++ " " ++
    (span.map layout.spanBefore).getD "" ++ e.message ++ String.join data ++
    (span.map layout.spanAfter).getD ""

/-! ### Lines in JSON -/

def Datum.toJson : Datum → Json
  | .number n => .number (.natural (UInt64.ofNat n))
  | datum => .string datum.shown

/-- A JSON object with its members in the order of their names. -/
def sortedObject (members : List (String × Json)) : Json :=
  .object (FieldMap.ofList members).entries

def Span.toJson (span : Span) : Json :=
  sortedObject [("name", .string span.name), (span.datumName, .string span.datum)]

def Event.toJson (span : Option Span) (e : Event) : Json :=
  let data := e.data.map fun (name, datum) => (name, datum.toJson)
  let spans := match span with
    | some s => [("span", s.toJson), ("spans", .array [s.toJson])]
    | none => []
  sortedObject ([("fields", sortedObject (("message", .string e.message) :: data)),
    ("level", .string e.level.name)] ++ spans)

/-- The line of an event inside a span that is shown, or inside none. -/
def Layout.line (layout : Layout) (span : Option Span) (e : Event) : String :=
  match layout.format with
  | .json => String.ofList (e.toJson span).compact
  | _ => layout.readable span e

/-- The lines of the events inside a span that a filter shows. -/
def lines (filter : Filter) (layout : Layout) (span : Option Span) (events : List Event) :
    List String :=
  let shown := span.filter filter.showsSpan
  (events.filter (filter.showsEvent span)).map (layout.line shown)

end FieldNorm.Log
