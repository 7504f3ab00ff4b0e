import FieldNorm.Double.Round

/-!
The fewest decimal digits that read back as a given finite double, and of those the nearest.

A double stands for the interval of the reals that round to it, whose ends belong to it exactly
if the significand is even. For 1, 2, … digits the two neighbours of the number on the grid of
decimals with that many digits are tested; if any grid point lies in the interval, one of these
does.
-/

namespace FieldNorm.Double

/-- Which of two equally near decimals is taken. -/
inductive Tie
  | even
  | up
deriving DecidableEq

/-- The positive decimal `coefficient * 10 ^ exponent`. -/
structure Decimal where
  coefficient : Nat
  exponent : Int
deriving DecidableEq

/-- Positive reals as exact quotients, with the interval that rounds to one double. All four
numbers are over the denominator `den`. -/
structure Interval where
  low : Nat
  mid : Nat
  high : Nat
  den : Nat
  closed : Bool

/-- The interval of a positive finite double. Below a power of two the doubles lie twice as
close, so the lower end is a quarter of a unit away there and half a unit elsewhere. -/
def interval (x : Double) : Interval :=
  let m := x.significand
  let e := x.exponent - 2
  let low := if m = Nat.pow 2 52 && 1 < x.exponentField then 4 * m - 1 else 4 * m - 2
  let scale := if 0 ≤ e then Nat.pow 2 e.toNat else 1
  { low := low * scale, mid := 4 * m * scale, high := (4 * m + 2) * scale,
    den := if 0 ≤ e then 1 else Nat.pow 2 (-e).toNat,
    closed := m % 2 == 0 }

/-- Whether the decimal `c * 10 ^ k` lies in the interval. -/
def Interval.holds (i : Interval) (c : Nat) (k : Int) : Bool :=
  let value := if 0 ≤ k then c * Nat.pow 10 k.toNat * i.den else c * i.den
  let unit := if 0 ≤ k then 1 else Nat.pow 10 (-k).toNat
  if i.closed then i.low * unit ≤ value && value ≤ i.high * unit
  else i.low * unit < value && value < i.high * unit

/-- The largest `p` with `10 ^ p ≤ num / den`. -/
def decimalOrder (num den : Nat) : Int :=
  let guess : Int := ((num.log2 : Int) - den.log2) * 1233 / 4096
  let atLeast (p : Int) : Bool :=
    if 0 ≤ p then den * Nat.pow 10 p.toNat ≤ num else den ≤ num * Nat.pow 10 (-p).toNat
  if atLeast (guess + 1) then guess + 1
  else if atLeast guess then guess
  else guess - 1

/-- The decimal with exponent `k` in the interval that is nearest to the number, if there is
one. -/
def Interval.onGrid? (i : Interval) (tie : Tie) (k : Int) : Option Nat :=
  let num := if 0 ≤ k then i.mid else i.mid * Nat.pow 10 (-k).toNat
  let den := if 0 ≤ k then i.den * Nat.pow 10 k.toNat else i.den
  let below := num / den
  let rest := num % den
  match i.holds below k, i.holds (below + 1) k with
  | false, false => none
  | true, false => some below
  | false, true => some (below + 1)
  | true, true =>
    if 2 * rest < den then some below
    else if den < 2 * rest then some (below + 1)
    else match tie with
      | .up => some (below + 1)
      | .even => some (if below % 2 = 0 then below else below + 1)

/-- Searches the grids `order + 1 - count`, … for ever more digits, `fuel` of them. -/
def Interval.search (i : Interval) (tie : Tie) (order : Int) : (fuel count : Nat) → Decimal
  | 0, count => ⟨i.mid / i.den, order - count⟩
  | fuel + 1, count =>
    match i.onGrid? tie (order - count) with
    | some c => ⟨c, order - count⟩
    | none => i.search tie order fuel (count + 1)

/-- The decimal without zeros at the end of its coefficient, `fuel` of them at most. -/
def Decimal.trimZeros (d : Decimal) : (fuel : Nat) → Decimal
  | 0 => d
  | fuel + 1 =>
    if d.coefficient % 10 = 0 && d.coefficient != 0 then
      Decimal.trimZeros ⟨d.coefficient / 10, d.exponent + 1⟩ fuel
    else d

/-- The shortest decimal that rounds to the magnitude of a finite double other than zero.
Seventeen digits always suffice. -/
def shortest (tie : Tie) (x : Double) : Decimal :=
  let i := x.interval
  (i.search tie (decimalOrder i.mid i.den) 17 0).trimZeros 17

end FieldNorm.Double
