import FieldNorm.Command.Load
import FieldNorm.Log.Line

/-!
What a run can see and change: the files, its two outputs and its log. Log lines are written at
once, so that a run which reads or writes the file of its own log does so between them.
-/

namespace FieldNorm.Command

/-- How a run keeps its log. -/
structure Recorder where
  filter : Log.Filter
  layout : Log.Layout
  /-- The file of the log; without one it goes to the standard error output. -/
  file : Option String
deriving DecidableEq

/-- The state of a run. -/
structure Scene where
  workspace : Workspace
  /-- The bytes on the standard output. -/
  output : ByteArray
  /-- The text on the standard error output. -/
  messages : String
  /-- Everything that was reported, shown or not. -/
  events : List Log.Event
  /-- Without a recorder nothing is shown. -/
  recorder : Option Recorder
  /-- What the run is doing. -/
  span : Option Log.Span

/-- The state of a run before it starts. -/
def Scene.initial (w : Workspace) (recorder : Option Recorder) : Scene where
  workspace := w
  output := .empty
  messages := ""
  events := []
  recorder := recorder
  span := none

/-- A step of a run. -/
abbrev Task (α : Type) := ExceptT Failure (StateM Scene) α

/-- The lines of a text, each with its end. -/
def joinLines (lines : List String) : String := String.join (lines.map (· ++ "\n"))

namespace Scene

/-- Writes a message for the user. -/
def tell (s : Scene) (text : String) : Scene := { s with messages := s.messages ++ text }

/-- Writes log lines. A log whose file cannot be written to any more is lost. -/
def record (s : Scene) (recorder : Recorder) (lines : String) : Scene :=
  match recorder.file with
  | none => s.tell lines
  | some path =>
    match s.workspace.append path lines with
    | .ok w => { s with workspace := w }
    | .error _ => s

/-- Reports events. -/
def report (s : Scene) (events : List Log.Event) : Scene :=
  let s := { s with events := s.events ++ events }
  match s.recorder with
  | none => s
  | some recorder =>
    s.record recorder
      (joinLines (Log.lines recorder.filter recorder.layout s.span events))

end Scene

namespace Task

/-- Reports events. -/
def report (events : List Log.Event) : Task Unit := modify fun s => s.report events

/-- Enters a span, in which the rest of the run stays. -/
def enter (span : Log.Span) : Task Unit := modify fun s => { s with span := some span }

/-- Takes something out of the files. -/
def load {α : Type} (f : Workspace → Except Failure α) : Task α := do
  match f (← get).workspace with
  | .ok a => return a
  | .error e => throw e

/-- Writes a text as the content of a file. -/
def write (path text : String) : Task Unit := do
  match (← get).workspace.write path text with
  | .ok w => modify fun s => { s with workspace := w }
  | .error e => throw ⟨some (.writeOutput path), .file e⟩

/-- Writes bytes on the standard output. -/
def print (bytes : ByteArray) : Task Unit :=
  modify fun s => { s with output := s.output ++ bytes }

end Task

end FieldNorm.Command
