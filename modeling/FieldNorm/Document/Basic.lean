import FieldNorm.FieldMap
import FieldNorm.Value

/-!
Documents: flat records of named values, in the order of the names.
-/

namespace FieldNorm

/-- A record of named values. -/
abbrev Document := FieldMap Value

namespace Document

/-- How a field is represented: "no value" has three forms, and no two of them are the same. -/
inductive FieldState
  | absent
  | null
  /-- The field holds the text `Value.marker`. -/
  | nullMarker
  | value (v : Value)
deriving DecidableEq

def FieldState.isAbsent : FieldState → Bool
  | .absent => true
  | _ => false

/-- The state of the field `key`. -/
def state (d : Document) (key : String) : FieldState :=
  match d.get? key with
  | none => .absent
  | some v => if v.isNull then .null else if v.isMarker then .nullMarker else .value v

/-- Equality of documents with floats compared as numbers. -/
def numericallyEqual (d e : Document) : Bool :=
  d.keys == e.keys &&
    (d.entries.zip e.entries).all fun (x, y) => x.2.numericallyEqual y.2

end Document

end FieldNorm
