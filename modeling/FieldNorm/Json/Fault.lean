import FieldNorm.Json.Basic
import FieldNorm.Double.Text
import FieldNorm.Text.Quoted

/-!
Why a text is refused as JSON, or as JSON of an expected shape, and where.

A fault of the grammar is placed where it is found. A value of the wrong shape is found only
when it has been read; such a fault is still `pending` and is placed by the array or object
around it, behind its closing bracket if that follows at once. A fault that nothing encloses
has no place.
-/

namespace FieldNorm.Json

/-! ### Causes -/

/-- What was found where a value of another shape was expected. -/
inductive Found
  | null
  | bool (b : Bool)
  | number (n : Number)
  | string (s : String)
  | sequence
  | map
deriving DecidableEq

/-- The text of a number in a message. -/
def Number.description : Number → String
  | .natural n => s!"integer `{n.toNat}`"
  | .negative n => s!"integer `{n.toInt}`"
  | .double x => "floating point `" ++ String.ofList x.scientificText ++ "`"

def Found.description : Found → String
  | .null => "null"
  | .bool b => s!"boolean `{b}`"
  | .number n => n.description
  | .string s => "string " ++ Text.quoted s
  | .sequence => "sequence"
  | .map => "map"

def found : Json → Found
  | .null => .null
  | .bool b => .bool b
  | .number n => .number n
  | .string s => .string s
  | .array _ => .sequence
  | .object _ => .map

/-- A well-formed value that has not the expected shape. -/
inductive Mismatch
  | invalidType (found : Found) (expected : String)
  | invalidLength (length : Nat) (expected : String)
  | missingField (name : String)
  | duplicateField (name : String)
  | unknownVariant (name : String) (known : List String)
  /-- A field of a document or a rule that holds no scalar. -/
  | unsupportedValue (kind : Kind)
deriving DecidableEq

/-- The refusal of a field value that is no scalar. -/
def unsupportedMessage (kind : Kind) : String :=
  s!"unsupported field value: {kind.name} (documents must be flat)"

/-- A list of alternatives in backquotes. -/
def alternatives : List String → String
  | [a, b] => s!"`{a}` or `{b}`"
  | names => "one of " ++ ", ".intercalate (names.map fun name => s!"`{name}`")

def Mismatch.message : Mismatch → String
  | .invalidType found expected =>
    "invalid type: " ++ found.description ++ ", expected " ++ expected
  | .invalidLength length expected => s!"invalid length {length}, expected {expected}"
  | .missingField name => s!"missing field `{name}`"
  | .duplicateField name => s!"duplicate field `{name}`"
  | .unknownVariant name known => s!"unknown variant `{name}`, expected {alternatives known}"
  | .unsupportedValue kind => unsupportedMessage kind

/-- Why a text is refused. -/
inductive Cause
  | endInList
  | endInObject
  | endInString
  | endInValue
  | expectedColon
  | expectedCommaOrBracket
  | expectedCommaOrBrace
  | expectedLiteral
  | expectedValue
  | invalidEscape
  | invalidNumber
  | numberOutOfRange
  | controlCharacter
  | keyNotString
  | unpairedSurrogate
  | endOfHexEscape
  | trailingComma
  | trailingCharacters
  | tooDeep
  | mismatch (reason : Mismatch)
deriving DecidableEq

def Cause.message : Cause → String
  | .endInList => "EOF while parsing a list"
  | .endInObject => "EOF while parsing an object"
  | .endInString => "EOF while parsing a string"
  | .endInValue => "EOF while parsing a value"
  | .expectedColon => "expected `:`"
  | .expectedCommaOrBracket => "expected `,` or `]`"
  | .expectedCommaOrBrace => "expected `,` or `\x7d`"
  | .expectedLiteral => "expected ident"
  | .expectedValue => "expected value"
  | .invalidEscape => "invalid escape"
  | .invalidNumber => "invalid number"
  | .numberOutOfRange => "number out of range"
  | .controlCharacter =>
    "control character (\\u0000-\\u001F) found while parsing a string"
  | .keyNotString => "key must be a string"
  | .unpairedSurrogate => "lone leading surrogate in hex escape"
  | .endOfHexEscape => "unexpected end of hex escape"
  | .trailingComma => "trailing comma"
  | .trailingCharacters => "trailing characters"
  | .tooDeep => "recursion limit exceeded"
  | .mismatch reason => reason.message

/-! ### Places -/

/-- The number of bytes of a text in UTF-8. -/
def byteLength (s : List Char) : Nat := s.foldr (fun c n => c.utf8Size + n) 0

/-- Where a fault is reported. -/
inductive Place
  /-- The number of bytes of the text from the fault to the end. -/
  | settled (left : Nat)
  /-- Not known yet: `rest` is unread, and what encloses the value decides. -/
  | pending (rest : List Char)

/-- A fault found while a text is read. -/
structure Fault where
  cause : Cause
  place : Place

namespace Fault

/-- A fault right in front of `rest`. -/
def before (cause : Cause) (rest : List Char) : Fault := ⟨cause, .settled (byteLength rest)⟩

/-- A fault of the byte with which `rest` starts, or of the end if nothing is left. -/
def upon (cause : Cause) (rest : List Char) : Fault :=
  ⟨cause, .settled (byteLength rest - 1)⟩

/-- A value that was read up to `rest` and has not the expected shape. -/
def ofMismatch (reason : Mismatch) (rest : List Char) : Fault :=
  ⟨.mismatch reason, .pending rest⟩

/-- Places a pending fault where `close` gets to. -/
def settle (close : List Char → List Char) (fault : Fault) : Fault :=
  match fault.place with
  | .settled _ => fault
  | .pending rest => before fault.cause (close rest)

/-- Places a pending fault where the reading has got to. -/
def settleHere (fault : Fault) : Fault := fault.settle id

end Fault

/-- A line and a column, both from 1; a column of 0 is the end of the line before. -/
structure Position where
  line : Nat
  column : Nat
deriving DecidableEq

/-- The position behind the first `bytes` bytes of a text, from the position of its start. -/
def Position.advance (p : Position) (bytes : Nat) : List Char → Position
  | [] => p
  | c :: rest =>
    if bytes = 0 then p
    else if bytes < c.utf8Size then { p with column := p.column + bytes }
    else if c = '\n' then Position.advance ⟨p.line + 1, 0⟩ (bytes - 1) rest
    else
      Position.advance { p with column := p.column + c.utf8Size } (bytes - c.utf8Size) rest

/-- A text that was refused, with the position of the fault if it has one. -/
structure Error where
  cause : Cause
  position : Option Position
deriving DecidableEq

def Error.message (e : Error) : String :=
  match e.position with
  | none => e.cause.message
  | some p => e.cause.message ++ s!" at line {p.line} column {p.column}"

/-- The error that a fault in `text` is reported as. -/
def Fault.toError (fault : Fault) (text : List Char) : Error where
  cause := fault.cause
  position := match fault.place with
    | .settled left => some (Position.advance ⟨1, 0⟩ (byteLength text - left) text)
    | .pending _ => none

end FieldNorm.Json
