import FieldNorm.Double.Shortest

/-!
Decimal texts of doubles. `scientificText` writes the shortest digits, with an exponent
outside a middle range; `plainText` never writes an exponent, and writes every digit of an
integer.
-/

namespace FieldNorm.Double

/-- Decimal digits of a natural number. -/
def digits (n : Nat) : List Char := Nat.toDigits 10 n

/-- A decimal without an exponent, with at least one digit on each side of the point. -/
def Decimal.positional (d : Decimal) : List Char :=
  let ds := digits d.coefficient
  if 0 ≤ d.exponent then ds ++ List.replicate d.exponent.toNat '0' ++ ['.', '0']
  else
    let places := (-d.exponent).toNat
    if places < ds.length then
      ds.take (ds.length - places) ++ '.' :: ds.drop (ds.length - places)
    else '0' :: '.' :: List.replicate (places - ds.length) '0' ++ ds

/-- The exponent of a decimal written with one digit in front of the point. -/
def Decimal.order (d : Decimal) : Int := d.exponent + (digits d.coefficient).length - 1

/-- A decimal with one digit in front of the point, which is left out if nothing follows it,
and a signed exponent. -/
def Decimal.scientific (d : Decimal) : List Char :=
  let sign := if d.order < 0 then '-' else '+'
  let tail := 'e' :: sign :: digits d.order.natAbs
  match digits d.coefficient with
  | first :: [] => first :: tail
  | first :: rest => first :: '.' :: rest ++ tail
  | [] => tail

/-- Puts a minus sign in front of the text of a negative number. -/
def signed (x : Double) (text : List Char) : List Char :=
  if x.negative then '-' :: text else text

/-- The shortest digits of a finite number, ties to even: positional from `1e-5` up to below
`1e16`, with an exponent elsewhere. -/
def scientificText (x : Double) : List Char :=
  signed x <|
    if x.isZero then ['0', '.', '0']
    else
      let d := x.shortest .even
      if -5 ≤ d.order && d.order < 16 then d.positional else d.scientific

/-- The number without an exponent: an integer exactly and with the decimal `.0`, any other by
its shortest digits, ties upwards. -/
def plainText (x : Double) : List Char :=
  if x.isNaN then "NaN".toList
  else
    signed x <|
      if !x.isFinite then "inf".toList
      else if x.isWhole then digits x.floor ++ ['.', '0']
      else (x.shortest .up).positional

end FieldNorm.Double
