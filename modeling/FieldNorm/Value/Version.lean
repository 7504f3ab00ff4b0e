import FieldNorm.Json.Numeral
import FieldNorm.Text.Blank
import FieldNorm.Value

/-!
Schema versions as they are typed: an integer of 64 bits becomes a number and anything else a
text, in both cases without the blanks around it.
-/

namespace FieldNorm.Value

/-- The number of a list of decimal digits. -/
def digitsValue (ds : List Char) : Nat :=
  ds.foldl (fun n d => 10 * n + Json.Numeral.digitValue d) 0

/-- The natural number that a text of one or more digits denotes. -/
def natural? (s : List Char) : Option Nat :=
  if !s.isEmpty && s.all Json.Numeral.isDigit then some (digitsValue s) else none

/-- The integer that a text denotes: digits, with at most one sign in front. -/
def int? : List Char → Option Int
  | '+' :: s => (natural? s).map fun n => (n : Int)
  | '-' :: s => (natural? s).map fun n => -(n : Int)
  | s => (natural? s).map fun n => (n : Int)

/-- The integer of 64 bits that a text denotes. -/
def int64? (s : List Char) : Option Int64 :=
  match int? s with
  | some n =>
    if Int64.minValue.toInt ≤ n ∧ n ≤ Int64.maxValue.toInt then some (Int64.ofInt n) else none
  | none => none

/-- The version that a typed text stands for. -/
def ofVersionText (raw : String) : Value :=
  let s := Text.trim raw.toList
  match int64? s with
  | some n => .integer n
  | none => .text (String.ofList s)

end FieldNorm.Value
