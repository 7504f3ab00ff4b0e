import FieldNorm.Command.Scene
import FieldNorm.Sql.Statement

/-!
The command that renders a file of documents as statements, one for each document.
-/

namespace FieldNorm.Command

/-- What to render, and how. -/
structure SqlRequest where
  input : String
  table : String
  fields : List String
  /-- Whether quotes inside values are doubled. -/
  escape : Bool
deriving DecidableEq

def SqlRequest.style (request : SqlRequest) : Sql.Style :=
  if request.escape then .escaped else .raw

/-- The statements of a list of documents. -/
def SqlRequest.render (request : SqlRequest) (ds : List Document) : List Sql.Rendered :=
  ds.map fun d => Sql.insertStatement request.table d request.style request.fields

/-- Carries a request out. -/
def statements (request : SqlRequest) : Task (List String) := do
  Task.enter { name := "sql", datumName := "table", datum := request.table }
  let ds ← Task.load (loadDocuments · request.input)
  Task.report
    [{ level := .info, source := .commands, message := "rendering statements",
       data := [("documents", .number ds.length),
         ("fields", .number request.fields.length)] }]
  let rendered := request.render ds
  Task.report (rendered.flatMap (·.events))
  return rendered.map (·.text)

end FieldNorm.Command
