import FieldNorm.Text.Quoted

/-!
What a run reports while it works: events with a level, the part of the program they come from,
a fixed message and named data. A pure operation gives its events as a list, in the order in
which they happen.
-/

namespace FieldNorm.Log

/-- How grave an event is. -/
inductive Level
  | error | warn | info | debug | trace
deriving DecidableEq, Inhabited

namespace Level

def name : Level → String
  | .error => "ERROR"
  | .warn => "WARN"
  | .info => "INFO"
  | .debug => "DEBUG"
  | .trace => "TRACE"

/-- The place of a level from the gravest, which is 1, to the most detailed. -/
def rank : Level → Nat
  | .error => 1
  | .warn => 2
  | .info => 3
  | .debug => 4
  | .trace => 5

end Level

/-- How much is reported: events of at most a rank, so that 0 reports nothing. -/
structure Detail where
  rank : Nat
deriving DecidableEq, Inhabited

namespace Detail

def off : Detail := ⟨0⟩

def upTo (level : Level) : Detail := ⟨level.rank⟩

def admits (detail : Detail) (level : Level) : Bool := level.rank ≤ detail.rank

end Detail

/-- The parts of the program that report events. -/
inductive Source
  | fields | schema | sql | pipeline | config | commands
deriving DecidableEq

/-- The name by which a filter selects the events of a part. -/
def Source.target : Source → String
  | .fields => "docmig_normalization::fields"
  | .schema => "docmig_normalization::schema"
  | .sql => "docmig_normalization::sql"
  | .pipeline => "docmig_normalization::pipeline"
  | .config => "docmig_cli::config"
  | .commands => "docmig_cli::commands"

/-- A datum of an event. -/
inductive Datum
  /-- A text that line formats show in quotes. -/
  | text (s : String)
  /-- A text shown as it is. -/
  | plain (s : String)
  | number (n : Nat)
  | texts (l : List String)
deriving DecidableEq

/-- The characters of a datum, without quotes around a text. -/
def Datum.shown : Datum → String
  | .text s => s
  | .plain s => s
  | .number n => toString n
  | .texts l => Text.quotedList l

/-- Something that happened. -/
structure Event where
  level : Level
  source : Source
  message : String
  data : List (String × Datum)
  /-- Whether the event is made only where events of its source and level are wanted at all,
  whatever their data. -/
  isOnDemand : Bool := false
deriving DecidableEq

/-- What a command reports around its events: its name and one datum. -/
structure Span where
  name : String
  datumName : String
  datum : String
deriving DecidableEq

/-- Spans are reported like events of this level. -/
def Span.level : Level := .info

/-- Every span comes from the commands. -/
def Span.source : Source := .commands

end FieldNorm.Log
