import FieldNorm.Json.Fault

/-!
Field values: the scalars that a field of a document can hold.

Values are told apart by `=`, which for floats means by their bits. `Value.numericallyEqual`
compares floats as numbers instead.
-/

namespace FieldNorm

/-- The value of a field. -/
inductive Value
  | null
  | bool (b : Bool)
  | integer (n : Int64)
  /-- An integer of 64 bits without a sign. -/
  | unsigned (n : UInt64)
  | float (x : Double)
  | text (s : String)
deriving DecidableEq, Inhabited

namespace Value

/-- The text that stands for "no value" in some data. It is neither null nor absence. -/
def marker : String := "null"

def isMarker : Value → Bool
  | .text s => s == marker
  | _ => false

def isNull : Value → Bool
  | .null => true
  | _ => false

/-- The characters of a text value. -/
def text? : Value → Option String
  | .text s => some s
  | _ => none

/-- What logs may tell of a value: both forms of integer are one kind. -/
inductive Kind
  | null | bool | integer | float | text
deriving DecidableEq

def Kind.name : Kind → String
  | .null => "null"
  | .bool => "bool"
  | .integer => "integer"
  | .float => "float"
  | .text => "text"

def kind : Value → Kind
  | .null => .null
  | .bool _ => .bool
  | .integer _ | .unsigned _ => .integer
  | .float _ => .float
  | .text _ => .text

/-- The smallest form that holds a natural number. -/
def ofUInt64 (n : UInt64) : Value :=
  if n.toNat < Nat.pow 2 63 then .integer n.toInt64 else .unsigned n

/-- The decimal digits of an integer, behind a minus sign if it is negative. -/
def intText (n : Int) : List Char :=
  if n < 0 then '-' :: Double.digits n.natAbs else Double.digits n.natAbs

/-- The text of a value as it stands in a statement. -/
def display : Value → List Char
  | .null => "null".toList
  | .bool b => (if b then "true" else "false").toList
  | .integer n => intText n.toInt
  | .unsigned n => Double.digits n.toNat
  | .float x => x.plainText
  | .text s => s.toList

/-- Equality of values with floats compared as numbers. -/
def numericallyEqual : Value → Value → Bool
  | .float x, .float y => x.numericallyEqual y
  | v, w => v == w

/-! ### Values and JSON -/

def ofNumber : Json.Number → Value
  | .natural n => ofUInt64 n
  | .negative n => .integer n
  | .double x => .float x

/-- The value of a JSON scalar; fails with the kind of anything else. -/
def ofJson : Json → Except Json.Kind Value
  | .null => .ok .null
  | .bool b => .ok (.bool b)
  | .number n => .ok (ofNumber n)
  | .string s => .ok (.text s)
  | .array _ => .error .array
  | .object _ => .error .object

/-- The value of a JSON scalar inside a larger shape. -/
def ofJsonField (j : Json) : Except Json.Mismatch Value :=
  match ofJson j with
  | .ok v => .ok v
  | .error kind => .error (.unsupportedValue kind)

def toJson : Value → Json
  | .null => .null
  | .bool b => .bool b
  | .integer n => .number (if n.toInt < 0 then .negative n else .natural n.toUInt64)
  | .unsigned n => .number (.natural n)
  | .float x => .number (.double x)
  | .text s => .string s

end Value

end FieldNorm
