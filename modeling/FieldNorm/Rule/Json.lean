import FieldNorm.Json.Printer
import FieldNorm.Json.Reader
import FieldNorm.Rule.Basic

/-!
Rules and JSON. A rule is an object whose member `op` names the operation, or an array that
starts with that name and goes on with the arguments. The name is checked where it stands; the
other members are read as any JSON and looked at when the whole rule is there, in the order of
the text.
-/

namespace FieldNorm.Rule

/-- The operations of rules. -/
inductive Op
  | replaceNull | fillMissing | stampSchema
deriving DecidableEq

def Op.name : Op → String
  | .replaceNull => "replace_null"
  | .fillMissing => "fill_missing"
  | .stampSchema => "stamp_schema"

def Op.all : List Op := [.replaceNull, .fillMissing, .stampSchema]

def Op.ofName (name : String) : Except Json.Mismatch Op :=
  match all.find? (·.name == name) with
  | some op => .ok op
  | none => .error (.unknownVariant name (all.map Op.name))

/-- The rule of an operation that writes a value into a field. -/
def ofAssignment (build : String → Value → Rule) : String × Value → Rule :=
  fun (field, value) => build field value

/-! ### Objects -/

/-- A text where a field name must stand. -/
def fieldOfJson : Json → Except Json.Mismatch String
  | .string s => .ok s
  | j => .error (.invalidType (Json.found j) "a string")

/-- The version of a stamp: null is none. -/
def versionOfJson : Json → Except Json.Mismatch (Option Value)
  | .null => .ok none
  | j => (Value.ofJsonField j).map some

/-- Finds the members `field` and `value` among the others, which are ignored. -/
def assignment (field : Option String) (value : Option Value) :
    List (String × Json) → Except Json.Mismatch (String × Value)
  | [] =>
    match field, value with
    | none, _ => .error (.missingField "field")
    | some _, none => .error (.missingField "value")
    | some f, some v => .ok (f, v)
  | (key, j) :: rest =>
    if key = "field" then
      if field.isSome then .error (.duplicateField "field")
      else match fieldOfJson j with
        | .error reason => .error reason
        | .ok f => assignment (some f) value rest
    else if key = "value" then
      if value.isSome then .error (.duplicateField "value")
      else match Value.ofJsonField j with
        | .error reason => .error reason
        | .ok v => assignment field (some v) rest
    else assignment field value rest

/-- Finds the member `version` among the others, which are ignored. -/
def stampVersion (version : Option (Option Value)) :
    List (String × Json) → Except Json.Mismatch (Option Value)
  | [] => .ok (version.getD none)
  | (key, j) :: rest =>
    if key = "version" then
      if version.isSome then .error (.duplicateField "version")
      else match versionOfJson j with
        | .error reason => .error reason
        | .ok v => stampVersion (some v) rest
    else stampVersion version rest

/-- The rule of an operation and the other members of its object. -/
def ofMembers (members : List (String × Json)) : Op → Except Json.Mismatch Rule
  | .replaceNull => (assignment none none members).map (ofAssignment .replaceNull)
  | .fillMissing => (assignment none none members).map (ofAssignment .fillMissing)
  | .stampSchema => (stampVersion none members).map .stampSchema

/-! ### Arrays -/

/-- A field and a value in an array. -/
def assignmentOfItems (variant : String) :
    List Json → Except Json.Mismatch (String × Value)
  | [] => .error (.invalidLength 0 s!"struct variant {variant} with 2 elements")
  | j :: items =>
    match fieldOfJson j with
    | .error reason => .error reason
    | .ok field =>
      match items with
      | [] => .error (.invalidLength 1 s!"struct variant {variant} with 2 elements")
      | j :: others =>
        match Value.ofJsonField j with
        | .error reason => .error reason
        | .ok value =>
          if others.isEmpty then .ok (field, value)
          else .error (.invalidLength (others.length + 2) "2 elements in sequence")

/-- A version in an array; without one there is none. -/
def versionOfItems : List Json → Except Json.Mismatch (Option Value)
  | [] => .ok none
  | j :: others =>
    match versionOfJson j with
    | .error reason => .error reason
    | .ok version =>
      if others.isEmpty then .ok version
      else .error (.invalidLength (others.length + 1) "1 element in sequence")

/-- The rule of an operation and the items behind its name. -/
def ofItems (items : List Json) : Op → Except Json.Mismatch Rule
  | .replaceNull =>
    (assignmentOfItems "NormalizationRule::ReplaceNull" items).map (ofAssignment .replaceNull)
  | .fillMissing =>
    (assignmentOfItems "NormalizationRule::FillMissing" items).map (ofAssignment .fillMissing)
  | .stampSchema => (versionOfItems items).map .stampSchema

/-! ### Reading -/

/-- Reads the name of an operation. -/
def opReader : Json.Reader Op :=
  ((Json.Reader.string "variant identifier").refine Op.ofName).settled

/-- The member `op` of a rule, and any other member. -/
inductive Part
  | operation (op : Op)
  | other (j : Json)

def Part.operation? : Part → Option Op
  | .operation op => some op
  | .other _ => none

def Part.other? : Part → Option Json
  | .operation _ => none
  | .other j => some j

/-- The operation that the members of a rule name, with the other members. -/
def splitOp (members : List (String × Part)) :
    Except Json.Mismatch (Op × List (String × Json)) :=
  match members.findSome? (·.2.operation?) with
  | none => .error (.missingField "op")
  | some op =>
    .ok (op, members.filterMap fun (key, part) => part.other?.map fun j => (key, j))

/-- Reads the member `key` of a rule. -/
def partReader (depth : Nat) (key : String) : Json.Reader Part :=
  if key = "op" then opReader.map .operation else (Json.Reader.value depth).map .other

/-- Reads a rule inside which `depth` more brackets may be open. -/
def reader (depth : Nat) : Json.Reader Rule :=
  let object :=
    ((Json.Reader.membersOf (Json.Reader.onlyOnce "op") (partReader depth)).refine
      splitOp).settled.refine fun (op, members) => ofMembers members op
  let array :=
    ((Json.Reader.listHeaded opReader (Json.Reader.value depth)).refine fun
        | none => .error (.missingField "op")
        | some headed => .ok headed).settled.refine
      fun (op, items) => ofItems items op
  .shaped "internally tagged enum NormalizationRule" (some array) (some object)

/-! ### Writing -/

def toJson : Rule → Json
  | .replaceNull field value =>
    .object [("op", .string Op.replaceNull.name), ("field", .string field),
      ("value", value.toJson)]
  | .fillMissing field value =>
    .object [("op", .string Op.fillMissing.name), ("field", .string field),
      ("value", value.toJson)]
  | .stampSchema version =>
    .object [("op", .string Op.stampSchema.name),
      ("version", (version.getD .null).toJson)]

end FieldNorm.Rule
