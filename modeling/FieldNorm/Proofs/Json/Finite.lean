import FieldNorm.Proofs.Double.Magnitude
import FieldNorm.Proofs.Json.Results

/-!
Every number that is read is finite: a literal that is too large is refused, and no other literal
leads to an infinity on the way.

* `Numeral.isFinite_of_value`: the number of a literal.
* `AllFinite`: the values in which all numbers are finite; `Reader.gives_value_allFinite` says that
  every value that is read is one of them.
-/

namespace FieldNorm.Json

/-- The number is no NaN and no infinity. -/
def Number.IsFinite (n : Number) : Prop := ∀ x, n = .double x → x.isFinite

namespace Number

lemma isFinite_natural (n : UInt64) : (natural n).IsFinite := fun _ h => by cases h

lemma isFinite_negative (n : Int64) : (negative n).IsFinite := fun _ h => by cases h

lemma isFinite_double {x : Double} (h : x.isFinite) : (double x).IsFinite := by
  rintro _ ⟨⟩
  exact h

end Number

namespace Numeral

variable {significand limit : Nat} {exponent : Int} {x : Double} {n : Numeral} {number : Number}

/-! ### Literals -/

/-- The significand stays below its limit. -/
lemma absorb_lt (h : significand < limit) (ds : List Char) :
    (absorb limit significand ds).1 < limit := by
  fun_induction absorb limit significand ds with
  | case1 significand => exact h
  | case2 significand d ds hlt ih => exact ih hlt
  | case3 significand d ds hge => exact h

/-- However often a number is divided by a power of ten, it does not grow past a power of two. -/
lemma isAtMost_divideAway {k : Nat} (hk : k ≤ 1023) (steps : Nat) (h : x.IsAtMost k) :
    (divideAway steps x).IsAtMost k := by
  fun_induction divideAway steps x with
  | case1 x => exact h
  | case2 x steps hzero => exact h
  | case3 x steps hzero ih =>
      exact ih (Double.isAtMost_div hk h (Double.one_le_size_powerOfTen le_rfl))

/-- **Scaling leads to a finite number or is refused.** -/
lemma isFinite_of_scale (hsignificand : significand < 2 ^ 64)
    (h : scale significand exponent = some x) : x.isFinite := by
  rw [scale] at h
  dsimp only at h
  split_ifs at h with hnegative hsmall hproduct hzero <;> obtain rfl := Option.some.inj h
  · -- the powers of ten that are divided by are not below one, so what has 64 bits stays there
    have hstart : (Double.ofNat significand).IsAtMost 64 :=
      Double.isAtMost_ofNat (by norm_num) hsignificand.le
    have hpower := Double.one_le_size_powerOfTen
      (n := exponent.natAbs - 308 * ((exponent.natAbs - 1) / 308)) (by omega)
    exact Double.isFinite_of_isAtMost (k := 64) (by norm_num)
      (Double.isAtMost_div (by norm_num) (isAtMost_divideAway (by norm_num) _ hstart) hpower)
  · exact hproduct
  · exact Double.isFinite_of_isZero hzero

/-- What is made of a scaled significand is finite. -/
lemma isFinite_of_scaled {isNegative : Bool} (hsignificand : significand < 2 ^ 64)
    (h : (match scale significand exponent with
      | some x => Except.ok (.double (x.withSign isNegative))
      | none => .error 0 : Except Nat Number) = .ok number) : number.IsFinite := by
  split at h <;> cases h
  rename_i hscale
  have hfinite := isFinite_of_scale hsignificand hscale
  exact Number.isFinite_double (Double.isFinite_withSign.mpr hfinite)

/-- **The number of a literal is finite.** -/
lemma isFinite_of_value (h : n.value = .ok number) : number.IsFinite := by
  have hwhole : (absorb (Nat.pow 2 64) 0 n.whole).1 < Nat.pow 2 64 := absorb_lt (by decide) _
  have hboth := absorb_lt hwhole n.fraction
  rw [value] at h
  dsimp only at h
  split at h
  · split at h
    · exact isFinite_of_scaled hboth h
    · split_ifs at h
      cases h
      exact Number.isFinite_double Double.isFinite_zero
  · split_ifs at h
    · cases h
      exact Number.isFinite_natural _
    · cases h
      exact Number.isFinite_negative _
    · cases h
      refine Number.isFinite_double (Double.isFinite_withSign.mpr ?_)
      exact Double.isFinite_of_isAtMost (k := 64) (by norm_num)
        (Double.isAtMost_ofNat (by norm_num) hwhole.le)
    · exact isFinite_of_scaled hboth h

lemma isFinite_of_read {isNegative : Bool} {s rest : List Char}
    (h : read isNegative s = .ok (number, rest)) : number.IsFinite := by
  rw [read] at h
  split at h
  · cases h
  · split at h
    · rename_i hvalue
      cases h
      exact isFinite_of_value hvalue
    · cases h

end Numeral

/-! ### Values -/

/-- All numbers in the value are finite, at any depth. -/
inductive AllFinite : Json → Prop
  | null : AllFinite .null
  | bool (b : Bool) : AllFinite (.bool b)
  | number {n : Number} (h : n.IsFinite) : AllFinite (.number n)
  | string (s : String) : AllFinite (.string s)
  | array {items : List Json} (h : ∀ j ∈ items, AllFinite j) : AllFinite (.array items)
  | object {members : List (String × Json)} (h : ∀ m ∈ members, AllFinite m.2) :
      AllFinite (.object members)

namespace Reader

lemma gives_scalar_allFinite : scalar.Gives AllFinite := by
  intro s j rest hrun
  rcases scalar_run_cases hrun with rfl | ⟨b, rfl⟩ | ⟨isNegative, t, n, hread, rfl⟩ | ⟨text, rfl⟩
  · exact .null
  · exact .bool b
  · exact .number (Numeral.isFinite_of_read hread)
  · exact .string text

/-- **All numbers in a value that is read are finite.** -/
theorem gives_value_allFinite (depth : Nat) : (value depth).Gives AllFinite := by
  induction depth with
  | zero => exact gives_valueWith gives_scalar_allFinite nofun nofun
  | succ depth ih =>
      refine gives_valueWith gives_scalar_allFinite (fun r hr => ?array) (fun r hr => ?object)
      case array =>
        obtain rfl := Option.mem_some_iff.mp hr
        exact (gives_listOf ih).map fun items hitems => .array hitems
      case object =>
        obtain rfl := Option.mem_some_iff.mp hr
        exact (gives_membersOf (fun _ => ih) anyKey).map fun members hmembers => .object hmembers

end Reader

end FieldNorm.Json
