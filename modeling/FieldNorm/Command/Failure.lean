import FieldNorm.Command.Workspace
import FieldNorm.Document.Json
import FieldNorm.Rule.Basic

/-!
Failures of commands: a cause and, in front of it, what was being done.
-/

namespace FieldNorm.Command

/-- What a command was doing when it failed. -/
inductive Activity
  | readRules (path : String)
  | parseRules (path : String)
  | readDocuments (path : String)
  | parseDocuments (path : String)
  | takeDocument (index : Nat)
  | normalizeDocument (index : Nat)
  | writeOutput (path : String)
  | writeStatement
  | flushStatements
deriving DecidableEq

def Activity.message : Activity → String
  | .readRules path => "read rule file " ++ path
  | .parseRules path => "parse rule file " ++ path
  | .readDocuments path => "read documents " ++ path
  | .parseDocuments path => "parse documents " ++ path
  | .takeDocument index => s!"document {index}"
  | .normalizeDocument index => s!"normalize document {index}"
  | .writeOutput path => "write output " ++ path
  | .writeStatement => "write statement"
  | .flushStatements => "flush statements"

/-- Why statements cannot be written. -/
inductive SinkError
  | brokenPipe
  | permissionDenied
  | timedOut
deriving DecidableEq

def SinkError.message : SinkError → String
  | .brokenPipe => "broken pipe"
  | .permissionDenied => "permission denied"
  | .timedOut => "timed out"

/-- The innermost reason of a failure. -/
inductive Cause
  | file (e : FileError)
  | sink (e : SinkError)
  | json (e : Json.Error)
  | document (e : Document.Error)
  | keyMissing (e : KeyMissing)
  /-- The file of documents holds no array. -/
  | noArray (path : String)
deriving DecidableEq

def Cause.message : Cause → String
  | .file e => e.message
  | .sink e => e.message
  | .json e => e.message
  | .document e => e.message
  | .keyMissing e => e.message
  | .noArray path => path ++ ": expected a JSON array of documents"

/-- Why a command failed. -/
structure Failure where
  activity : Option Activity
  cause : Cause
deriving DecidableEq

/-- The text of a failure on one line. -/
def Failure.message (f : Failure) : String :=
  match f.activity with
  | some activity => activity.message ++ ": " ++ f.cause.message
  | none => f.cause.message

end FieldNorm.Command
