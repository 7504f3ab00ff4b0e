import FieldNorm.Json.Fault

/-!
Number literals of JSON: `Numeral.scan` cuts a literal into its parts and `Numeral.value` says
which number it is.

An integer that fits 64 bits is kept. For any other number the digits are gathered into a
significand of 64 bits while it can take them, the rest is dropped, and the significand is
rounded to a double and scaled by one rounded power of ten. So the result is near the number
that is written but not always the nearest double.
-/

namespace FieldNorm.Json

/-- The parts of a number literal. The exponent has its sign in front: whether it is negative. -/
structure Numeral where
  isNegative : Bool
  whole : List Char
  fraction : List Char
  exponent : Option (Bool × List Char)
deriving DecidableEq

namespace Numeral

def isDigit (c : Char) : Bool := '0' ≤ c && c ≤ '9'

def digitValue (c : Char) : Nat := c.toNat - '0'.toNat

theorem length_dropWhile_le (p : Char → Bool) (s : List Char) :
    (s.dropWhile p).length ≤ s.length :=
  (List.dropWhile_suffix p).sublist.length_le

/-! ### Scanning

`atEnd` is the cause to report where the text ends inside a literal. -/

/-- The digits in front of the point: a zero alone, or digits that start with another one. -/
def scanWhole (atEnd : Cause) (s : List Char) : Except Fault (List Char × List Char) :=
  match s with
  | [] => .error (.before atEnd [])
  | c :: rest =>
    if c = '0' then
      if rest.head?.any isDigit then .error (.upon .invalidNumber rest) else .ok ([c], rest)
    else if isDigit c then .ok (c :: rest.takeWhile isDigit, rest.dropWhile isDigit)
    else .error (.upon .invalidNumber s)

theorem length_lt_of_scanWhole {atEnd : Cause} {s ds rest : List Char}
    (h : scanWhole atEnd s = .ok (ds, rest)) : rest.length < s.length := by
  unfold scanWhole at h
  split at h
  · cases h
  · rename_i c s
    have := length_dropWhile_le isDigit s
    split at h
    · split at h <;> cases h
      simp
    · split at h <;> cases h
      simp only [List.length_cons]
      omega

/-- The digits behind a point, if there is one; it needs a digit. -/
def scanFraction (atEnd : Cause) (s : List Char) : Except Fault (List Char × List Char) :=
  match s with
  | '.' :: rest =>
    if rest.head?.any isDigit then .ok (rest.takeWhile isDigit, rest.dropWhile isDigit)
    else .error (.upon (if rest.isEmpty then atEnd else .invalidNumber) rest)
  | _ => .ok ([], s)

theorem length_le_of_scanFraction {atEnd : Cause} {s ds rest : List Char}
    (h : scanFraction atEnd s = .ok (ds, rest)) : rest.length ≤ s.length := by
  unfold scanFraction at h
  split at h
  · rename_i s
    have := length_dropWhile_le isDigit s
    split at h <;> cases h
    simp only [List.length_cons]
    omega
  · cases h
    exact Nat.le_refl _

/-- The sign of an exponent: whether it is negative. -/
def scanSign (s : List Char) : Bool × List Char :=
  match s with
  | '+' :: rest => (false, rest)
  | '-' :: rest => (true, rest)
  | _ => (false, s)

theorem length_scanSign_le (s : List Char) : (scanSign s).2.length ≤ s.length := by
  unfold scanSign
  split <;> simp

/-- The exponent, if there is one; it needs a digit. -/
def scanExponent (atEnd : Cause) (s : List Char) :
    Except Fault (Option (Bool × List Char) × List Char) :=
  match s with
  | c :: rest =>
    if c = 'e' ∨ c = 'E' then
      let (isNegative, digits) := scanSign rest
      if digits.head?.any isDigit then
        .ok (some (isNegative, digits.takeWhile isDigit), digits.dropWhile isDigit)
      else .error (.upon (if digits.isEmpty then atEnd else .invalidNumber) digits)
    else .ok (none, s)
  | [] => .ok (none, s)

theorem length_le_of_scanExponent {atEnd : Cause} {s rest : List Char}
    {e : Option (Bool × List Char)} (h : scanExponent atEnd s = .ok (e, rest)) :
    rest.length ≤ s.length := by
  unfold scanExponent at h
  split at h
  · rename_i c s
    have h₁ := length_scanSign_le s
    have h₂ := length_dropWhile_le isDigit (scanSign s).2
    split at h
    · dsimp only at h
      split at h <;> cases h
      simp only [List.length_cons]
      omega
    · cases h
      exact Nat.le_refl _
  · cases h
    exact Nat.le_refl _

/-- Cuts the literal at the start of a text, whose minus sign is gone if it had one. -/
def scan (atEnd : Cause) (isNegative : Bool) (s : List Char) :
    Except Fault (Numeral × List Char) :=
  match scanWhole atEnd s with
  | .error fault => .error fault
  | .ok (whole, rest) =>
    match scanFraction atEnd rest with
    | .error fault => .error fault
    | .ok (fraction, rest) =>
      match scanExponent atEnd rest with
      | .error fault => .error fault
      | .ok (exponent, rest) => .ok (⟨isNegative, whole, fraction, exponent⟩, rest)

theorem length_lt_of_scan {atEnd : Cause} {isNegative : Bool} {s rest : List Char}
    {n : Numeral} (h : scan atEnd isNegative s = .ok (n, rest)) : rest.length < s.length := by
  unfold scan at h
  split at h
  · cases h
  · rename_i h₁
    have := length_lt_of_scanWhole h₁
    split at h
    · cases h
    · rename_i h₂
      have := length_le_of_scanFraction h₂
      split at h
      · cases h
      · rename_i h₃
        have := length_le_of_scanExponent h₃
        cases h
        omega

/-! ### The number of a literal -/

/-- Appends digits to a significand below `limit` as long as it stays there; gives the
significand and the digits that are left. -/
def absorb (limit : Nat) (significand : Nat) : List Char → Nat × List Char
  | [] => (significand, [])
  | d :: ds =>
    if significand * 10 + digitValue d < limit then
      absorb limit (significand * 10 + digitValue d) ds
    else (significand, d :: ds)

/-- Divides by `1e308` up to `steps` times, until nothing is left. -/
def divideAway : (steps : Nat) → Double → Double
  | 0, x => x
  | steps + 1, x =>
    if x.isZero then x else divideAway steps (x.div (Double.powerOfTen 308))

/-- `significand * 10 ^ exponent` by one multiplication or division of doubles, or by several
divisions where one power of ten does not suffice; `none` if that is too large. -/
def scale (significand : Nat) (exponent : Int) : Option Double :=
  let x := Double.ofNat significand
  if exponent < 0 then
    let steps := (exponent.natAbs - 1) / 308
    some ((divideAway steps x).div (Double.powerOfTen (exponent.natAbs - 308 * steps)))
  else if exponent ≤ 308 then
    let product := x.mul (Double.powerOfTen exponent.toNat)
    if product.isFinite then some product else none
  else if x.isZero then some x
  else none

/-- The number that the literal denotes. Fails if it is too large, with the number of digits
that had not been looked at when that was found: the exponent is refused as soon as it
exceeds 31 bits, unless the number is zero or tends to it. -/
def value (n : Numeral) : Except Nat Number :=
  let (significand, dropped) := absorb (Nat.pow 2 64) 0 n.whole
  let (significand', unused) := absorb (Nat.pow 2 64) significand n.fraction
  let shift : Int := dropped.length - (n.fraction.length - unused.length : Nat)
  let finish (exponent : Int) : Except Nat Number :=
    match scale significand' exponent with
    | some x => .ok (.double (x.withSign n.isNegative))
    | none => .error 0
  match n.exponent with
  | some (isNegative, digits) =>
    match absorb (Nat.pow 2 31) 0 digits with
    | (e, []) => finish (if isNegative then shift - e else shift + e)
    | (_, _ :: unread) =>
      if significand' = 0 ∨ isNegative then .ok (.double (.zero n.isNegative))
      else .error unread.length
  | none =>
    if n.fraction.isEmpty ∧ dropped.isEmpty then
      if !n.isNegative then .ok (.natural (UInt64.ofNat significand))
      else if 0 < significand ∧ significand ≤ Nat.pow 2 63 then
        .ok (.negative (Int64.ofInt (-significand)))
      else .ok (.double ((Double.ofNat significand).withSign true))
    else finish shift

/-- Reads a number literal, whose minus sign is gone if it had one. -/
def read (isNegative : Bool) (s : List Char) : Except Fault (Number × List Char) :=
  match scan .endInValue isNegative s with
  | .error fault => .error fault
  | .ok (n, rest) =>
    match n.value with
    | .ok x => .ok (x, rest)
    | .error unread => .error ⟨.numberOutOfRange, .settled (byteLength rest + unread)⟩

theorem length_lt_of_read {isNegative : Bool} {s rest : List Char} {x : Number}
    (h : read isNegative s = .ok (x, rest)) : rest.length < s.length := by
  unfold read at h
  split at h
  · cases h
  · rename_i h₁
    have := length_lt_of_scan h₁
    split at h <;> cases h
    assumption

/-- Passes over a number literal without asking for its value. -/
def skip (s : List Char) : Except Fault (List Char) :=
  match scan .invalidNumber false s with
  | .error fault => .error fault
  | .ok (_, rest) => .ok rest

theorem length_lt_of_skip {s rest : List Char} (h : skip s = .ok rest) :
    rest.length < s.length := by
  unfold skip at h
  split at h
  · cases h
  · rename_i h₁
    cases h
    exact length_lt_of_scan h₁

end Numeral

/-- The text of a number. There is none for a NaN or an infinity, which are written as
`null`. -/
def Number.text : Number → List Char
  | .natural n => Double.digits n.toNat
  | .negative n => '-' :: Double.digits n.toInt.natAbs
  | .double x => if x.isFinite then x.scientificText else "null".toList

end FieldNorm.Json
