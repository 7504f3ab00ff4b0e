import FieldNorm.Command.Batch
import FieldNorm.Command.Scene
import FieldNorm.Value.Version

/-!
The command that applies a file of rules to a file of documents.
-/

namespace FieldNorm.Command

/-- What to normalize, and how. -/
structure NormalizeRequest where
  input : String
  rules : String
  /-- Where the documents go; without a file they go to the standard output. -/
  output : Option String
  /-- The version to stamp in place of any stamp among the rules, as it was typed. -/
  schemaVersion : Option String
deriving DecidableEq

/-- What was normalized. -/
structure NormalizeReport where
  totals : Totals
  output : Option String
deriving DecidableEq

/-- The text that holds the normalized documents. -/
def outputText (ds : List Document) : String := Document.prettyList ds ++ "\n"

namespace NormalizeRequest

/-- The rules that are carried out: a version that was typed takes the place of all stamps. -/
def pipeline (request : NormalizeRequest) (loaded : Pipeline) : Pipeline :=
  loaded.withSchemaVersion (request.schemaVersion.map Value.ofVersionText)

/-- Puts normalized documents where they go, and reports that this is done. -/
def complete (request : NormalizeRequest) (normalized : List Document) (totals : Totals) :
    Task NormalizeReport := do
  match request.output with
  | some path => Task.write path (outputText normalized)
  | none => Task.print (outputText normalized).toUTF8
  Task.report
    [{ level := .info, source := .commands, message := "normalization complete",
       data := [("changed", .number totals.changedDocuments),
         ("total", .number totals.documents)] }]
  return { totals := totals, output := request.output }

end NormalizeRequest

/-- Carries a request out. Nothing is written before every document is normalized. -/
def normalize (request : NormalizeRequest) (showsData : Bool) : Task NormalizeReport := do
  Task.enter { name := "normalize", datumName := "input", datum := request.input }
  let loaded ← Task.load (loadPipeline · request.rules)
  Task.report (ruleWarnings request.rules loaded)
  let ds ← Task.load (loadDocuments · request.input)
  Task.report
    [{ level := .info, source := .commands, message := "loaded input",
       data := [("documents", .number ds.length),
         ("rules", .number (request.pipeline loaded).length)] }]
  let batch := Batch.run (request.pipeline loaded) showsData ds
  Task.report batch.events
  match batch.result with
  | .error (index, e) => throw ⟨some (.normalizeDocument index), .keyMissing e⟩
  | .ok (normalized, totals) => request.complete normalized totals

end FieldNorm.Command
