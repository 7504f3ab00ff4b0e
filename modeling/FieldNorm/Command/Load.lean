import FieldNorm.Command.Failure
import FieldNorm.Log.Event
import FieldNorm.Pipeline.Json

/-!
What commands read: files of rules and files of documents.
-/

namespace FieldNorm.Command

/-- Takes the items of an array as documents, the first of which has the given index. -/
def documentsFrom (index : Nat) : List Json → Except Failure (List Document)
  | [] => .ok []
  | j :: items =>
    match Document.ofJson j with
    | .error e => .error ⟨some (.takeDocument index), .document e⟩
    | .ok d =>
      match documentsFrom (index + 1) items with
      | .error e => .error e
      | .ok ds => .ok (d :: ds)

/-- The documents of a text; the path stands for it in messages. -/
def documentsOfText (path text : String) : Except Failure (List Document) :=
  match Json.parse text with
  | .error e => .error ⟨some (.parseDocuments path), .json e⟩
  | .ok (.array items) => documentsFrom 0 items
  | .ok _ => .error ⟨none, .noArray path⟩

/-- The documents of a file. -/
def loadDocuments (w : Workspace) (path : String) : Except Failure (List Document) :=
  match w.readText path with
  | .error e => .error ⟨some (.readDocuments path), .file e⟩
  | .ok text => documentsOfText path text

/-- The rules of a file. -/
def loadPipeline (w : Workspace) (path : String) : Except Failure Pipeline :=
  match w.readText path with
  | .error e => .error ⟨some (.readRules path), .file e⟩
  | .ok text =>
    match Pipeline.read text with
    | .error e => .error ⟨some (.parseRules path), .json e⟩
    | .ok p => .ok p

/-- The warning about a file without rules. -/
def ruleWarnings (path : String) (p : Pipeline) : List Log.Event :=
  if p.isEmpty then
    [{ level := .warn, source := .config, message := "rule file contains no rules",
       data := [("path", .plain path)] }]
  else []

end FieldNorm.Command
