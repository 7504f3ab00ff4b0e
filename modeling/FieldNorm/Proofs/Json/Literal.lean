import FieldNorm.Proofs.Json.Locality
import FieldNorm.Proofs.Json.Numeral
import Mathlib.Tactic.Ring

/-!
Number literals with a fraction or an exponent.

* `Numeral.text`: the text of a literal; `Numeral.scan_text` says that it is cut into its parts.
* `Numeral.Denotes`: the digits of a literal are `w` and its exponent is `e`, counted from the last
  digit. `Numeral.read_text` says that it is read as `w` scaled by `e`.
* `Double.Decimal.Writes`: a text is that of a literal which denotes `w` with the exponent `e`.
  There is one lemma for each form in which decimals are written.
-/

namespace FieldNorm

open Json (Numeral)

namespace Json.Numeral

variable {n : Numeral} {s t rest : List Char} {w limit : Nat} {e : Int}

/-! ### The text of a literal -/

/-- The digits behind the point. -/
def fractionText : List Char → List Char
  | [] => []
  | ds => '.' :: ds

/-- The exponent with its sign. -/
def exponentText : Option (Bool × List Char) → List Char
  | none => []
  | some (isNegative, ds) => 'e' :: (if isNegative then '-' else '+') :: ds

/-- The text of a literal behind its minus sign. -/
def text (n : Numeral) : List Char :=
  n.whole ++ (fractionText n.fraction ++ exponentText n.exponent)

/-- The parts of a literal are digits, no zero stands in front of others, and the exponent has a
digit. -/
structure WellFormed (n : Numeral) : Prop where
  whole : n.whole = ['0'] ∨ ∃ c ds, n.whole = c :: ds ∧ c ≠ '0'
  isDigit_whole : ∀ c ∈ n.whole, isDigit c
  isDigit_fraction : ∀ c ∈ n.fraction, isDigit c
  exponent : ∀ part ∈ n.exponent, part.2 ≠ [] ∧ ∀ c ∈ part.2, isDigit c

lemma scanWhole_text (atEnd : Cause) (h : n.WellFormed) (hrest : rest.head?.any isDigit = false) :
    scanWhole atEnd (n.whole ++ rest) = .ok (n.whole, rest) := by
  rcases h.whole with hzero | ⟨c, ds, hwhole, hc⟩
  · rw [hzero, List.singleton_append, scanWhole, if_pos rfl, hrest]
    rfl
  · have hdigits := h.isDigit_whole
    rw [hwhole, List.forall_mem_cons] at hdigits
    obtain ⟨htake, hdrop⟩ := takeWhile_isDigit hdigits.2 hrest
    rw [hwhole, List.cons_append, scanWhole, if_neg hc, if_pos hdigits.1, htake, hdrop]

lemma scanFraction_text (atEnd : Cause) (h : n.WellFormed)
    (hpoint : rest.head?.any (· == '.') = false) (hrest : rest.head?.any isDigit = false) :
    scanFraction atEnd (fractionText n.fraction ++ rest) = .ok (n.fraction, rest) := by
  cases hfraction : n.fraction with
  | nil => exact scanFraction_of_head? atEnd hpoint
  | cons c ds =>
      have hdigits := hfraction ▸ h.isDigit_fraction
      obtain ⟨htake, hdrop⟩ := takeWhile_isDigit hdigits hrest
      have hfirst : ((c :: ds) ++ rest).head?.any isDigit := hdigits c List.mem_cons_self
      rw [fractionText, List.cons_append, scanFraction, if_pos hfirst, htake, hdrop]
      simp

lemma scanExponent_text (atEnd : Cause) (h : n.WellFormed) (hrest : Ends rest) :
    scanExponent atEnd (exponentText n.exponent ++ rest) = .ok (n.exponent, rest) := by
  cases hexponent : n.exponent with
  | none => exact scanExponent_of_ends atEnd hrest
  | some part =>
      obtain ⟨isNegative, ds⟩ := part
      obtain ⟨hne, hdigits⟩ := h.exponent (isNegative, ds) (Option.mem_def.mpr hexponent)
      obtain ⟨htake, hdrop⟩ := takeWhile_isDigit hdigits (head?_any_isDigit hrest)
      have hsign : scanSign ((if isNegative then '-' else '+') :: (ds ++ rest)) =
          (isNegative, ds ++ rest) := by
        cases isNegative <;> rfl
      have hfirst : (ds ++ rest).head?.any isDigit := by
        obtain ⟨c, ds, rfl⟩ := List.exists_cons_of_ne_nil hne
        exact hdigits c List.mem_cons_self
      rw [exponentText, List.cons_append, List.cons_append, scanExponent, if_pos (.inl rfl), hsign]
      dsimp only
      rw [if_pos hfirst, htake, hdrop]

/-- **A literal is cut into its parts.** -/
lemma scan_text (atEnd : Cause) (h : n.WellFormed) (hrest : Ends rest) :
    scan atEnd n.isNegative (n.text ++ rest) = .ok (n, rest) := by
  have hexponent : ∀ {p : Char → Bool}, (∀ c, p c → isDigit c ∨ c = '.') →
      (exponentText n.exponent ++ rest).head?.any p = false := by
    intro p hp
    rcases hpart : n.exponent with _ | ⟨isNegative, ds⟩
    · exact hrest.head?_any fun c hc => (hp c hc).imp_right .inl
    · refine Bool.eq_false_iff.mpr fun he => ?_
      exact absurd (hp 'e' he) (by decide)
  have hfraction : (fractionText n.fraction ++ (exponentText n.exponent ++ rest)).head?.any
      isDigit = false := by
    cases n.fraction with
    | nil => exact hexponent fun _ => .inl
    | cons c ds => rfl
  refine scan_eq_ok_iff.mpr ⟨n.whole, _, n.fraction, _, n.exponent, ?_,
    scanFraction_text atEnd h (hexponent fun c hc => .inr (by simpa using hc))
      (hexponent fun _ => .inl),
    scanExponent_text atEnd h hrest, rfl⟩
  rw [text, List.append_assoc, List.append_assoc]
  exact scanWhole_text atEnd h hfraction

/-! ### What a literal denotes -/

/-- The digits of the literal are those of `w`, and `e` is the exponent of the last one. The literal
has a fraction or an exponent, so it is no integer. -/
structure Denotes (n : Numeral) (w : Nat) (e : Int) : Prop where
  digits : absorb (Nat.pow 2 64) 0 (n.whole ++ n.fraction) = (w, [])
  not_whole : n.fraction ≠ [] ∨ n.exponent ≠ none
  exponent : match n.exponent with
    | none => e = -n.fraction.length
    | some (isNegative, ds) => ∃ k, absorb (Nat.pow 2 31) 0 ds = (k, []) ∧
        e = (if isNegative then -(k : Int) else k) - n.fraction.length

/-- Digits that can all be gathered can be gathered in two steps. -/
lemma exists_absorb_of_append {m significand : Nat} {ds others : List Char}
    (h : absorb limit significand (ds ++ others) = (m, [])) :
    ∃ k, absorb limit significand ds = (k, []) ∧ absorb limit k others = (m, []) := by
  fun_induction absorb limit significand ds with
  | case1 significand => exact ⟨significand, rfl, h⟩
  | case2 significand d ds hd ih =>
      rw [List.cons_append, absorb, if_pos hd] at h
      exact ih h
  | case3 significand d ds hd =>
      rw [List.cons_append, absorb, if_neg hd] at h
      cases h

/-- What is made of the digits of a literal with a fraction or an exponent. -/
def scaled (isNegative : Bool) (w : Nat) (e : Int) : Except Nat Number :=
  match scale w e with
  | some x => .ok (.double (x.withSign isNegative))
  | none => .error 0

/-- **The number of a literal** that is no integer. -/
lemma value_eq_scaled (h : n.Denotes w e) : n.value = scaled n.isNegative w e := by
  obtain ⟨k, hwhole, hfraction⟩ := exists_absorb_of_append h.digits
  have hexponent := h.exponent
  rw [value, hwhole]
  simp only [hfraction, List.length_nil, Nat.sub_zero]
  split
  · rename_i isNegative ds hpart
    rw [hpart] at hexponent
    obtain ⟨k, hk, rfl⟩ := hexponent
    rw [hk]
    have hshift : (if isNegative then ((0 : Nat) : Int) - n.fraction.length - k
        else ((0 : Nat) : Int) - n.fraction.length + k) =
          (if isNegative then -(k : Int) else k) - n.fraction.length := by
      cases isNegative <;> simp <;> omega
    dsimp only
    rw [hshift]
    rfl
  · rename_i hpart
    rw [hpart] at hexponent
    obtain rfl : e = -n.fraction.length := hexponent
    have hfraction : n.fraction ≠ [] := h.not_whole.resolve_right (not_not_intro hpart)
    rw [if_neg fun hempty => hfraction (List.isEmpty_iff.mp hempty.1), Nat.cast_zero, zero_sub]
    rfl

/-- **A literal that is no integer is read** as its digits scaled by its exponent. -/
theorem read_text {x : Double} (hform : n.WellFormed) (h : n.Denotes w e) (hrest : Ends rest)
    (hscale : scale w e = some x) :
    read n.isNegative (n.text ++ rest) = .ok (.double (x.withSign n.isNegative), rest) := by
  have hvalue : n.value = .ok (.double (x.withSign n.isNegative)) := by
    rw [value_eq_scaled h, scaled, hscale]
  simp only [read, scan_text .endInValue hform hrest, hvalue]

end Json.Numeral

/-! ### The texts of decimals -/

namespace Double.Decimal

open Json.Numeral

variable {d : Decimal} {c limit significand : Nat}

/-- Zeros behind digits multiply by ten. -/
lemma absorb_zeros (count : Nat) (h : significand * 10 ^ count < limit) :
    absorb limit significand (List.replicate count '0') = (significand * 10 ^ count, []) := by
  induction count generalizing significand with
  | zero => simp [absorb]
  | succ count ih =>
      have hstep : significand * 10 ^ (count + 1) = significand * 10 * 10 ^ count := by
        rw [pow_succ']
        ring
      have hpow : significand * 10 ≤ significand * 10 * 10 ^ count :=
        Nat.le_mul_of_pos_right _ (Nat.pow_pos (by norm_num))
      have hvalue : digitValue '0' = 0 := rfl
      rw [List.replicate_succ, absorb, hvalue, Nat.add_zero, if_pos (by omega), hstep]
      exact ih (by omega)

/-- How many digits a number has. -/
lemma digits_length (hc : c ≠ 0) :
    c < 10 ^ (digits c).length ∧ 10 ^ (digits c).length ≤ 10 * c := by
  induction c using Nat.strongRecOn with
  | ind c ih =>
      by_cases hten : c < 10
      · rw [digits_of_lt_ten hten, List.length_singleton]
        omega
      · obtain ⟨hlt, hle⟩ := ih (c / 10) (by omega) (by omega)
        rw [digits_of_ten_le (by omega), List.length_append, List.length_singleton, pow_succ]
        omega

/-- The text is that of a literal which denotes `w` with the exponent `e`. -/
def Writes (isNegative : Bool) (s : List Char) (w : Nat) (e : Int) : Prop :=
  ∃ n : Numeral, n.isNegative = isNegative ∧ n.WellFormed ∧ n.text = s ∧ n.Denotes w e

/-- Such a text starts with a digit. -/
lemma Writes.exists_cons {isNegative : Bool} {s : List Char} {w : Nat} {e : Int}
    (h : Writes isNegative s w e) : ∃ first ds, s = first :: ds ∧ isDigit first := by
  obtain ⟨n, -, hform, rfl, -⟩ := h
  have hdigits := hform.isDigit_whole
  obtain ⟨first, ds, hwhole⟩ : ∃ first ds, n.whole = first :: ds := by
    rcases hform.whole with hzero | ⟨first, ds, hwhole, -⟩
    · exact ⟨'0', [], hzero⟩
    · exact ⟨first, ds, hwhole⟩
  refine ⟨first, ds ++ (fractionText n.fraction ++ exponentText n.exponent), ?_, ?_⟩
  · rw [Numeral.text, hwhole, List.cons_append]
  · exact hdigits first (hwhole ▸ List.mem_cons_self)

lemma isDigit_of_mem_replicate {count : Nat} {ch : Char}
    (h : ch ∈ List.replicate count '0') : isDigit ch := by
  rw [List.eq_of_mem_replicate h]
  rfl

lemma isDigit_of_mem_zero : ∀ ch ∈ ['0'], isDigit ch := by
  intro ch hch
  rw [List.mem_singleton.mp hch]
  rfl

/-- Digits with a point among them are a literal without an exponent. -/
lemma writes_point {whole fraction : List Char} {w : Nat} (isNegative : Bool)
    (hwhole : whole = ['0'] ∨ ∃ first ds, whole = first :: ds ∧ first ≠ '0')
    (hdigits : ∀ ch ∈ whole, isDigit ch) (hbehind : ∀ ch ∈ fraction, isDigit ch)
    (hne : fraction ≠ []) (h : absorb (Nat.pow 2 64) 0 (whole ++ fraction) = (w, [])) :
    Writes isNegative (whole ++ '.' :: fraction) w (-fraction.length) := by
  refine ⟨⟨isNegative, whole, fraction, none⟩, rfl, ⟨hwhole, hdigits, hbehind, nofun⟩, ?_,
    ⟨h, .inl hne, rfl⟩⟩
  obtain ⟨second, others, rfl⟩ := List.exists_cons_of_ne_nil hne
  simp [text, fractionText, exponentText]

/-- Zero is written with a digit behind the point. -/
lemma writes_zero (isNegative : Bool) : Writes isNegative ['0', '.', '0'] 0 (-1) :=
  writes_point isNegative (.inl rfl) isDigit_of_mem_zero isDigit_of_mem_zero
    (List.cons_ne_nil _ _) rfl

/-- A whole number is written with its zeros, and one more behind the point. -/
lemma writes_whole (isNegative : Bool) (hc : d.coefficient ≠ 0) (hexponent : 0 ≤ d.exponent)
    (hlimit : d.coefficient * 10 ^ (d.exponent.toNat + 1) < 2 ^ 64) :
    Writes isNegative d.positional (d.coefficient * 10 ^ (d.exponent.toNat + 1)) (-1) := by
  obtain ⟨first, ds, hds, hfirst⟩ := digits_eq_cons hc
  have hlt : d.coefficient < Nat.pow 2 64 := by
    refine lt_of_le_of_lt (Nat.le_mul_of_pos_right _ (Nat.pow_pos (by norm_num))) hlimit
  have hdigits : ∀ ch ∈ digits d.coefficient ++ List.replicate d.exponent.toNat '0',
      isDigit ch := by
    intro ch hch
    rcases List.mem_append.mp hch with h | h
    · exact isDigit_of_mem_digits h
    · exact isDigit_of_mem_replicate h
  have hzeros := absorb_zeros (d.exponent.toNat + 1) hlimit
  rw [positional, if_pos hexponent]
  refine writes_point isNegative (.inr ⟨first, _, by rw [hds, List.cons_append], hfirst⟩) hdigits
    isDigit_of_mem_zero (List.cons_ne_nil _ _) ?_
  rw [List.append_assoc, ← List.replicate_succ', absorb_append (absorb_digits hlt)]
  exact hzeros

section Fraction

variable {ds : List Char} {w places : Nat}

/-- The point stands among the digits. -/
lemma writes_among (isNegative : Bool) (hfirst : ∃ first others, ds = first :: others ∧ first ≠ '0')
    (hdigits : ∀ ch ∈ ds, isDigit ch) (h : absorb (Nat.pow 2 64) 0 ds = (w, []))
    (hpositive : 0 < places) (hplaces : places < ds.length) :
    Writes isNegative (ds.take (ds.length - places) ++ '.' :: ds.drop (ds.length - places)) w
      (-places) := by
  obtain ⟨k, hk⟩ : ∃ k, ds.length - places = k + 1 := ⟨ds.length - places - 1, by omega⟩
  have hlength : (ds.drop (k + 1)).length = places := by
    rw [List.length_drop]
    omega
  rw [hk, ← hlength]
  refine writes_point isNegative ?_ (fun ch hch => hdigits ch (List.mem_of_mem_take hch))
    (fun ch hch => hdigits ch (List.mem_of_mem_drop hch)) ?_ ?_
  · obtain ⟨first, others, rfl, hne⟩ := hfirst
    exact .inr ⟨first, others.take k, List.take_succ_cons, hne⟩
  · exact List.ne_nil_of_length_pos (hlength ▸ hpositive)
  · rw [List.take_append_drop]
    exact h

/-- Zeros stand between the point and the digits. -/
lemma writes_behind (isNegative : Bool) (hdigits : ∀ ch ∈ ds, isDigit ch)
    (h : absorb (Nat.pow 2 64) 0 ds = (w, [])) (hpositive : 0 < places)
    (hplaces : ds.length ≤ places) :
    Writes isNegative ('0' :: '.' :: List.replicate (places - ds.length) '0' ++ ds) w
      (-places) := by
  have hlength : (List.replicate (places - ds.length) '0' ++ ds).length = places := by
    rw [List.length_append, List.length_replicate]
    omega
  have hzeros : absorb (Nat.pow 2 64) 0 (List.replicate (places - ds.length + 1) '0') =
      (0 * _, []) :=
    absorb_zeros _ (by simp)
  rw [Nat.zero_mul] at hzeros
  have hwrites : Writes isNegative
      (['0'] ++ '.' :: (List.replicate (places - ds.length) '0' ++ ds)) w
        (-(List.replicate (places - ds.length) '0' ++ ds).length) := by
    refine writes_point isNegative (.inl rfl) isDigit_of_mem_zero (fun ch hch => ?_) ?_ ?_
    · rcases List.mem_append.mp hch with hzero | hdigit
      · exact isDigit_of_mem_replicate hzero
      · exact hdigits ch hdigit
    · exact List.ne_nil_of_length_pos (hpositive.trans_eq hlength.symm)
    · rw [← List.append_assoc, List.singleton_append, ← List.replicate_succ, absorb_append hzeros]
      exact h
  rw [hlength] at hwrites
  exact hwrites

end Fraction

/-- A number with a fraction is written with its digits, the point among them or in front. -/
lemma writes_fraction (isNegative : Bool) (hc : d.coefficient ≠ 0) (hexponent : d.exponent < 0)
    (hlimit : d.coefficient < 2 ^ 64) :
    Writes isNegative d.positional d.coefficient d.exponent := by
  have habsorb : absorb (Nat.pow 2 64) 0 (digits d.coefficient) = (d.coefficient, []) :=
    absorb_digits hlimit
  have hdigits : ∀ ch ∈ digits d.coefficient, isDigit ch := fun ch => isDigit_of_mem_digits
  have hplaces : d.exponent = -((-d.exponent).toNat : Int) := by omega
  have hpositive : 0 < (-d.exponent).toNat := by omega
  rw [positional, if_neg (by omega)]
  dsimp only
  generalize (-d.exponent).toNat = places at hplaces hpositive ⊢
  rw [hplaces]
  split_ifs with hamong
  · exact writes_among isNegative (digits_eq_cons hc) hdigits habsorb hpositive hamong
  · exact writes_behind isNegative hdigits habsorb hpositive (Nat.not_lt.mp hamong)

/-- With an exponent, one digit stands in front of the point. -/
lemma writes_scientific (isNegative : Bool) (hc : d.coefficient ≠ 0)
    (hlimit : d.coefficient < 2 ^ 64) (horder : d.order.natAbs < 2 ^ 31) :
    Writes isNegative d.scientific d.coefficient d.exponent := by
  obtain ⟨first, ds, hds, hfirst⟩ := digits_eq_cons hc
  have habsorb : absorb (Nat.pow 2 64) 0 (digits d.coefficient) = (d.coefficient, []) :=
    absorb_digits hlimit
  have hdigits : ∀ ch ∈ first :: ds, isDigit ch := fun ch hch => isDigit_of_mem_digits (hds ▸ hch)
  rw [List.forall_mem_cons] at hdigits
  have hsigned : (if decide (d.order < 0) then -(d.order.natAbs : Int) else d.order.natAbs) =
      d.order := by
    split_ifs with hneg <;> simp only [decide_eq_true_eq] at hneg <;> omega
  refine ⟨⟨isNegative, [first], ds, some (decide (d.order < 0), digits d.order.natAbs)⟩, rfl,
    ⟨.inr ⟨first, [], rfl, hfirst⟩, by simpa using hdigits.1, hdigits.2, fun part hpart => ?_⟩, ?_,
    ⟨?_, .inr (by simp), d.order.natAbs, absorb_digits horder, ?_⟩⟩
  · obtain rfl := Option.some.inj hpart
    exact ⟨Nat.toDigits_ne_nil, fun ch hch => isDigit_of_mem_digits hch⟩
  · rw [text, scientific, hds]
    cases ds with
    | nil => simp [fractionText, exponentText]
    | cons second others => simp [fractionText, exponentText]
  · rw [List.singleton_append, ← hds]
    exact habsorb
  · rw [hsigned, order, hds, List.length_cons]
    push_cast
    ring

end Double.Decimal

end FieldNorm
