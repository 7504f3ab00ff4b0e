import FieldNorm.Document.Basic
import FieldNorm.Json.Printer
import FieldNorm.Json.Reader

/-!
Documents and JSON. A document is written as an object in the order of its names.

There are two ways to read one. `Document.read` reads any JSON first and then takes, of several
members with one name, the last; it looks at the values in the order of the names.
`Document.readEach` looks at every member where it stands, so that it also refuses a member
which a later one would replace.
-/

namespace FieldNorm.Document

/-- Why there is no document. -/
inductive Error
  | json (e : Json.Error)
  | notAnObject (kind : Json.Kind)
  | unsupportedValue (kind : Json.Kind)
deriving DecidableEq

def Error.message : Error → String
  | .json e => "json error: " ++ e.message
  | .notAnObject kind => s!"expected a JSON object, found {kind.name}"
  | .unsupportedValue kind => Json.unsupportedMessage kind

/-- The document of a JSON object. -/
def ofJson : Json → Except Error Document
  | .object members =>
    match (FieldMap.ofList members).tryMap Value.ofJson with
    | .ok d => .ok d
    | .error kind => .error (.unsupportedValue kind)
  | j => .error (.notAnObject j.kind)

/-- Reads a text as a document; of several members with one name the last counts. -/
def read (text : String) : Except Error Document :=
  match Json.parse text with
  | .ok j => ofJson j
  | .error e => .error (.json e)

/-- Reads an object of scalars, each of them where it stands. -/
def reader : Json.Reader Document :=
  let value := (Json.Reader.value (Json.maxDepth - 1)).refine Value.ofJsonField
  .shaped "a map" none
    (some ((Json.Reader.membersOf Json.Reader.anyKey fun _ => value).map FieldMap.ofList))

/-- Reads a text as a document and refuses any member that is no scalar. -/
def readEach (text : String) : Except Json.Error Document := reader.readAll text

def toJson (d : Document) : Json := .object (d.entries.map fun (key, v) => (key, v.toJson))

/-- The text of a document on one line. -/
def compact (d : Document) : String := String.ofList d.toJson.compact

/-- The text of a document with every field on a line of its own. -/
def pretty (d : Document) : String := String.ofList d.toJson.pretty

/-- The text of a list of documents. -/
def prettyList (ds : List Document) : String :=
  String.ofList (Json.array (ds.map toJson)).pretty

end FieldNorm.Document
