import FieldNorm.Json.Numeral
import FieldNorm.Json.Quoted

/-!
The two texts of a JSON value: `compact` without any blanks, and `pretty` with every item and
every member on a line of its own, indented by two spaces for each bracket around it.
-/

namespace FieldNorm.Json

/-- The text of a value that is neither an array nor an object, or of an empty one. -/
def atom : Json → List Char
  | .null => "null".toList
  | .bool b => (if b then "true" else "false").toList
  | .number n => n.text
  | .string s => Quoted.write s.toList
  | .array _ => ['[', ']']
  | .object _ => ['\x7b', '\x7d']

mutual

/-- The text of a value without blanks. -/
def compact : Json → List Char
  | .array (item :: items) => '[' :: compact item ++ compactItems items
  | .object ((key, value) :: members) =>
    '\x7b' :: Quoted.write key.toList ++ ':' :: compact value ++ compactMembers members
  | j => atom j

/-- The items behind the first one and the closing bracket. -/
def compactItems : List Json → List Char
  | [] => [']']
  | item :: items => ',' :: compact item ++ compactItems items

/-- The members behind the first one and the closing brace. -/
def compactMembers : List (String × Json) → List Char
  | [] => ['\x7d']
  | (key, value) :: members =>
    ',' :: Quoted.write key.toList ++ ':' :: compact value ++ compactMembers members

end

/-- A new line inside `depth` brackets. -/
def newline (depth : Nat) : List Char := '\n' :: List.replicate (2 * depth) ' '

mutual

/-- The text of a value inside `depth` brackets, on several lines. -/
def prettyAt (depth : Nat) : Json → List Char
  | .array (item :: items) =>
    '[' :: newline (depth + 1) ++ prettyAt (depth + 1) item ++ prettyItems depth items
  | .object ((key, value) :: members) =>
    '\x7b' :: newline (depth + 1) ++ Quoted.write key.toList ++ ':' :: ' ' ::
      prettyAt (depth + 1) value ++ prettyMembers depth members
  | j => atom j

/-- The items behind the first one and the closing bracket. -/
def prettyItems (depth : Nat) : List Json → List Char
  | [] => newline depth ++ [']']
  | item :: items =>
    ',' :: newline (depth + 1) ++ prettyAt (depth + 1) item ++ prettyItems depth items

/-- The members behind the first one and the closing brace. -/
def prettyMembers (depth : Nat) : List (String × Json) → List Char
  | [] => newline depth ++ ['\x7d']
  | (key, value) :: members =>
    ',' :: newline (depth + 1) ++ Quoted.write key.toList ++ ':' :: ' ' ::
      prettyAt (depth + 1) value ++ prettyMembers depth members

end

/-- The text of a value on several lines. -/
def pretty (j : Json) : List Char := prettyAt 0 j

end FieldNorm.Json
