import FieldNorm.Double.Basic

/-!
Rounding to the nearest double, ties to the even significand. Every operation here is
`nearest` applied to an exact quotient of natural numbers.
-/

namespace FieldNorm.Double

/-- The integer nearest to `num / den`, the even one of two equally near. -/
def roundHalfEven (num den : Nat) : Nat :=
  let q := num / den
  let r := num % den
  if den < 2 * r || (2 * r == den && q % 2 == 1) then q + 1 else q

/-- The quotient `num / den / 2 ^ e` as a numerator and a denominator. -/
def shiftRatio (num den : Nat) (e : Int) : Nat × Nat :=
  if 0 ≤ e then (num, den * Nat.pow 2 e.toNat) else (num * Nat.pow 2 (-e).toNat, den)

/-- The exponent of the last place of the double nearest to `num / den`: 53 bits stand above
it, fewer only at the smallest exponent. -/
def lastPlace (num den : Nat) : Int :=
  let guess : Int := (num.log2 : Int) - den.log2 - 52
  let (n, d) := shiftRatio num den guess
  max (if n / d < Nat.pow 2 52 then guess - 1 else guess) (-1074)

/-- The double nearest to `num / den`, an infinity if that is too large. Rounding up to
`2 ^ 53` carries into the exponent field by the addition. -/
def nearest (negative : Bool) (num den : Nat) : Double :=
  if num = 0 then zero negative
  else
    let e := lastPlace num den
    let (n, d) := shiftRatio num den e
    let magnitude := (e + 1074).toNat * Nat.pow 2 52 + roundHalfEven n d
    if magnitude < infiniteMagnitude then ofMagnitude negative magnitude else infinity negative

/-- The double nearest to a natural number. -/
def ofNat (n : Nat) : Double := nearest false n 1

/-- The double nearest to `10 ^ k`. -/
def powerOfTen (k : Nat) : Double := ofNat (Nat.pow 10 k)

/-- The double nearest to `num / den * 2 ^ e`. -/
def nearestScaled (negative : Bool) (num den : Nat) (e : Int) : Double :=
  let (n, d) := shiftRatio num den (-e)
  nearest negative n d

/-- The rounded product of two finite numbers. -/
def mul (x y : Double) : Double :=
  nearestScaled (x.negative != y.negative) (x.significand * y.significand) 1
    (x.exponent + y.exponent)

/-- The rounded quotient of two finite numbers, the second not zero. -/
def div (x y : Double) : Double :=
  nearestScaled (x.negative != y.negative) x.significand y.significand
    (x.exponent - y.exponent)

/-- The number with its sign set or cleared. -/
def withSign (negative : Bool) (x : Double) : Double := ofMagnitude negative x.magnitude

end FieldNorm.Double
