import FieldNorm.Command.Invocation
import FieldNorm.Command.Sink
import FieldNorm.Text.Escape

/-!
A whole run of the program: from the command line, the text of a filter for the log and the
files to an exit code, the two outputs and the files as the run leaves them. The page of help is
no part of the answers; a run that asks for it has its exit code alone.
-/

namespace FieldNorm.Command

/-! ### Messages about the command line -/

def programName : String := "docmig"

def versionText : String := programName ++ " 0.1.0"

/-- The answer to a command line that is refused, without the list of what is missing; none for
help. Of what was typed, it shows the printable part, which may hold line breaks. -/
def ArgumentError.sentence : ArgumentError → Option String
  | .helpRequested | .nothingRequested => none
  | .versionRequested => some versionText
  | .unknownArgument text =>
    some ("error: unexpected argument '" ++ Text.printable text ++ "' found")
  | .unknownSubcommand text =>
    some ("error: unrecognized subcommand '" ++ Text.printable text ++ "'")
  | .missingSubcommand =>
    some s!"error: '{programName}' requires a subcommand but one was not provided"
  | .missingArguments _ => some "error: the following required arguments were not provided:"
  | .valueRequired label =>
    some s!"error: a value is required for '{label}' but none was supplied"
  | .invalidValue value label =>
    some ("error: invalid value '" ++ Text.printable value ++ s!"' for '{label}'")
  | .unexpectedValue value label =>
    some ("error: unexpected value '" ++ Text.printable value ++
      s!"' for '{label}' found; no more were expected")
  | .repeated label => some s!"error: the argument '{label}' cannot be used multiple times"
  | .conflict label other =>
    some s!"error: the argument '{label}' cannot be used with '{other}'"

/-- The first line of the answer to a command line that is refused; none for help. -/
def ArgumentError.message (e : ArgumentError) : Option String := e.sentence.map Text.firstLine

/-- What is printed about a command line that is not carried out, up to the hints how to call the
program. The page of help is left out: in its place nothing is printed. -/
def ArgumentError.text (e : ArgumentError) : String :=
  match e.sentence, e with
  | some line, .missingArguments labels => joinLines (line :: labels.map ("  " ++ ·))
  | some line, _ => joinLines [line]
  | none, _ => ""

/-- To ask for help or for the version is no error. -/
def ArgumentError.exitCode : ArgumentError → Nat
  | .helpRequested | .versionRequested => 0
  | _ => 2

/-! ### The log -/

namespace Invocation

/-- How much is logged: a level that is named counts more than flags. -/
def detail (i : Invocation) : Log.Detail :=
  match i.level with
  | some level => .upTo level
  | none => i.verbosity

/-- The filter of the log. One from outside counts if the command line says nothing of the
level and the filter can be read. -/
def filter (i : Invocation) (fromOutside : Option String) : Log.Filter :=
  if i.hasVerbosity || i.level.isSome then .standard i.detail
  else (fromOutside.bind Log.Filter.read).getD (.standard i.detail)

/-- How the log is kept. Without a terminal there are colours only if they are demanded. -/
def recorder (i : Invocation) (fromOutside : Option String) : Recorder where
  filter := i.filter fromOutside
  layout := { format := i.format, isColoured := i.colour == .always }
  file := i.logFile

end Invocation

/-! ### Runs -/

/-- What a run leaves behind. -/
structure Outcome where
  exitCode : Nat
  output : ByteArray
  messages : String
  workspace : Workspace

def Scene.outcome (s : Scene) (exitCode : Nat) : Outcome where
  exitCode := exitCode
  output := s.output
  messages := s.messages
  workspace := s.workspace

/-- The message about what was normalized. -/
def NormalizeReport.message (r : NormalizeReport) : String :=
  joinLines ((r.output.map ("Output: " ++ ·)).toList ++ [r.totals.summary false])

/-- Carries out a subcommand: gives the message at the end. -/
def Subcommand.task (showsData : Bool) : Subcommand → Task String
  | .normalize request => do return (← Command.normalize request showsData).message
  | .sql request => do
    let (sink, failure) := Sink.endless.writeStatements (← statements request)
    Task.print ⟨sink.taken.toArray⟩
    match failure with
    | some e => throw e
    | none => return ""

/-- Opens the log. Its file is made, or kept as it is, before anything is read. -/
def openLog (w : Workspace) (recorder : Recorder) : Except FileError Workspace :=
  match recorder.file with
  | none => .ok w
  | some path => w.append path ""

/-- Carries out a command line. -/
def Invocation.run (i : Invocation) (fromOutside : Option String) (w : Workspace) : Outcome :=
  let recorder := i.recorder fromOutside
  match openLog w recorder with
  | .error e =>
    { exitCode := 1, output := .empty, workspace := w,
      messages := joinLines ["error: failed to initialize logging: " ++ e.message] }
  | .ok w =>
    match (i.subcommand.task i.showsData).run.run (Scene.initial w (some recorder)) with
    | (.ok message, s) => (s.tell message).outcome 0
    | (.error e, s) => (s.tell (joinLines ["error: " ++ e.message])).outcome 1

/-- Runs the program. -/
def run (arguments : List String) (fromOutside : Option String) (w : Workspace) : Outcome :=
  match Invocation.read arguments with
  | .ok i => i.run fromOutside w
  | .error e =>
    if e.exitCode = 0 then
      { exitCode := 0, output := e.text.toUTF8, messages := "", workspace := w }
    else { exitCode := e.exitCode, output := .empty, messages := e.text, workspace := w }

end FieldNorm.Command
