/-!
Binary floating-point numbers of 64 bits, kept as their bit patterns so that two numbers are
equal exactly when their bits are. A finite number is `significand * 2 ^ exponent`, negated if
`negative`; comparison as numbers, which takes the two zeros together and no NaN with itself,
is `numericallyEqual`.

Powers are written `Nat.pow`, which is the same term whatever instances are in scope; `simp` turns
it into `^`.
-/

namespace FieldNorm

/-- A binary floating-point number of 64 bits: a sign bit, 11 of exponent, 52 of fraction. -/
structure Double where
  bits : UInt64
deriving DecidableEq, Inhabited

namespace Double

/-- The bits below the sign, which grow with the magnitude. -/
def magnitude (x : Double) : Nat := x.bits.toNat % Nat.pow 2 63

/-- The magnitude of the infinities; larger ones are those of the NaNs. -/
def infiniteMagnitude : Nat := 2047 * Nat.pow 2 52

def negative (x : Double) : Bool := Nat.pow 2 63 ≤ x.bits.toNat

/-- The number with the given sign and bits below the sign. -/
def ofMagnitude (negative : Bool) (magnitude : Nat) : Double :=
  ⟨UInt64.ofNat ((if negative then Nat.pow 2 63 else 0) + magnitude)⟩

def zero (negative : Bool) : Double := ofMagnitude negative 0

def infinity (negative : Bool) : Double := ofMagnitude negative infiniteMagnitude

def isNaN (x : Double) : Bool := infiniteMagnitude < x.magnitude

def isFinite (x : Double) : Bool := x.magnitude < infiniteMagnitude

def isZero (x : Double) : Bool := x.magnitude = 0

/-- The exponent field is zero for the zeros and the subnormal numbers, whose significand has
no implied leading bit. -/
def exponentField (x : Double) : Nat := x.magnitude / Nat.pow 2 52

/-- The integer `m` of the finite number `m * 2 ^ exponent`. -/
def significand (x : Double) : Nat :=
  (if x.exponentField = 0 then 0 else Nat.pow 2 52) + x.magnitude % Nat.pow 2 52

/-- The exponent `e` of the finite number `significand * 2 ^ e`. -/
def exponent (x : Double) : Int := (max x.exponentField 1 : Nat) - 1075

/-- Whether a finite number is an integer. -/
def isWhole (x : Double) : Bool :=
  0 ≤ x.exponent || x.significand % Nat.pow 2 (-x.exponent).toNat == 0

/-- The integer below the magnitude of a finite number. -/
def floor (x : Double) : Nat :=
  if 0 ≤ x.exponent then x.significand * Nat.pow 2 x.exponent.toNat
  else x.significand / Nat.pow 2 (-x.exponent).toNat

/-- Equality as numbers: the zeros are equal and a NaN equals nothing. -/
def numericallyEqual (x y : Double) : Bool :=
  !x.isNaN && !y.isNaN && (x == y || (x.isZero && y.isZero))

end Double

end FieldNorm
