import FieldNorm.Document.Basic
import FieldNorm.Log.Event

/-!
The rules by which a document is normalized, one field at a time. Applying a rule gives the
document and the events to report; only the replacement of a marker can fail, and a rule that
fails changes nothing.
-/

namespace FieldNorm

/-- A patch of one field. -/
inductive Rule
  /-- Replaces the text `Value.marker` in a field that must be present. -/
  | replaceNull (field : String) (value : Value)
  /-- Adds a field that is absent. -/
  | fillMissing (field : String) (value : Value)
  /-- Records a schema version; without one it does nothing. -/
  | stampSchema (version : Option Value)
deriving DecidableEq

/-- A marker was to be replaced in a field that the document does not have. -/
structure KeyMissing where
  key : String
deriving DecidableEq

def KeyMissing.message (e : KeyMissing) : String := s!"key missing from document: {e.key}"

namespace Document

/-! ### The three patches -/

/-- The field that holds the schema version. -/
def schemaField : String := "schema"

/-- Replaces the marker under `key`; any other value, null included, stays. -/
def replaceNull (d : Document) (key : String) (value : Value) :
    Except KeyMissing (Document × List Log.Event) :=
  match d.get? key with
  | none => .error ⟨key⟩
  | some current =>
    if current.isMarker then
      .ok (d.insert key value,
        [{ level := .trace, source := .fields, message := "replaced null marker",
           data := [("field", .plain key), ("kind", .text value.kind.name)] }])
    else .ok (d, [])

/-- Sets the field `key` if it is absent. -/
def fillMissing (d : Document) (key : String) (value : Value) : Document × List Log.Event :=
  if d.contains key then (d, [])
  else
    (d.insert key value,
      [{ level := .trace, source := .fields, message := "filled missing field",
         data := [("field", .plain key), ("kind", .text value.kind.name)] }])

/-- Records the schema version over any earlier one. A version that is null is none. -/
def stampSchema (d : Document) : (version : Option Value) → Document × List Log.Event
  | none | some .null => (d, [])
  | some version =>
    (d.insert schemaField version,
      [{ level := .trace, source := .schema, message := "stamped schema version",
         data := [("kind", .text version.kind.name)] }])

end Document

namespace Rule

/-- The field that the rule writes. -/
def target : Rule → String
  | .replaceNull field _ | .fillMissing field _ => field
  | .stampSchema _ => Document.schemaField

def isStamp : Rule → Bool
  | .stampSchema _ => true
  | _ => false

/-- Applies the rule to a document. -/
def apply (d : Document) : Rule → Except KeyMissing (Document × List Log.Event)
  | .replaceNull field value => d.replaceNull field value
  | .fillMissing field value => .ok (d.fillMissing field value)
  | .stampSchema version => .ok (d.stampSchema version)

/-- Equality of optional versions with floats compared as numbers. -/
def versionsEqual : Option Value → Option Value → Bool
  | some v, some w => v.numericallyEqual w
  | v, w => v == w

/-- Equality of rules with floats compared as numbers. -/
def numericallyEqual : Rule → Rule → Bool
  | .replaceNull f v, .replaceNull g w => f == g && v.numericallyEqual w
  | .fillMissing f v, .fillMissing g w => f == g && v.numericallyEqual w
  | .stampSchema v, .stampSchema w => versionsEqual v w
  | _, _ => false

end Rule

end FieldNorm
