import FieldNorm.Double.Basic

/-!
JSON values as they are read: the members of an object stand in the order of the text, with
repeated keys. Which of several members counts is decided by whoever uses the object.
-/

namespace FieldNorm

/-- A number of a JSON text: integers are kept exactly while they fit 64 bits. -/
inductive Json.Number
  /-- An integer that is not negative. -/
  | natural (n : UInt64)
  /-- An integer below zero. -/
  | negative (n : Int64)
  /-- Any other number. -/
  | double (x : Double)
deriving DecidableEq, Inhabited

inductive Json
  | null
  | bool (b : Bool)
  | number (n : Json.Number)
  | string (s : String)
  | array (items : List Json)
  | object (members : List (String × Json))
deriving Inhabited

namespace Json

/-- The kinds of JSON values. -/
inductive Kind
  | null | bool | number | string | array | object
deriving DecidableEq

def Kind.name : Kind → String
  | .null => "null"
  | .bool => "bool"
  | .number => "number"
  | .string => "string"
  | .array => "array"
  | .object => "object"

def kind : Json → Kind
  | .null => .null
  | .bool _ => .bool
  | .number _ => .number
  | .string _ => .string
  | .array _ => .array
  | .object _ => .object

end Json

end FieldNorm
