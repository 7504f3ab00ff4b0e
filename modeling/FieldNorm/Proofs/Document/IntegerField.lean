import FieldNorm.Proofs.Document.Canonical
import FieldNorm.Proofs.Document.FieldContext
import FieldNorm.Proofs.Json.IntegerLiteral

/-!
Integer literals as fields of documents.

* `Json.IntegerLiteral.exists_ofNumber_of_fitsSigned`, `exists_ofNumber_of_fitsUnsigned`,
  `value_of_not_fits`: the values of literals that fit 64 bits, with a sign or without, and of all
  others.
* `Json.IntegerLiteral.jsonText_signed`, `jsonText_unsigned`, `jsonText_float_ne`: integers have the
  text of their literal, and floats have not.
* `Document.integer_literal`: so the literals that fit 64 bits are loaded exactly and written back,
  `-0` apart, and no others are.
-/

namespace FieldNorm

namespace Json.IntegerLiteral

open Numeral

variable (l : IntegerLiteral)

/-! ### The value of a literal -/

lemma toNat_ofNat_magnitude (h : l.magnitude < 2 ^ 64) :
    (UInt64.ofNat l.magnitude).toNat = l.magnitude :=
  UInt64.toNat_ofNat_of_lt' h

/-- **A literal that fits with a sign is the signed integer.** -/
lemma exists_ofNumber_of_fitsSigned (h : l.FitsSigned) :
    ∃ x, l.numeral.value = .ok x ∧ Value.ofNumber x = .integer (Int64.ofInt l.number) := by
  rcases l.fitsSigned_iff.mp h with ⟨hsign, hlt⟩ | ⟨hsign, hpositive, hle⟩
  · have hvalue := l.value_of_lt (by omega)
    rw [hsign] at hvalue
    refine ⟨_, hvalue, ?_⟩
    have hroom : l.magnitude < Nat.pow 2 63 := hlt
    rw [if_pos (by decide), Value.ofNumber, Value.ofUInt64, l.toNat_ofNat_magnitude (by omega),
      if_pos hroom, UInt64.toInt64_ofNat', number, hsign]
    rfl
  · have hvalue := l.value_of_lt (by omega)
    rw [hsign] at hvalue
    refine ⟨_, hvalue, ?_⟩
    rw [if_neg (by decide), if_pos ⟨hpositive, hle⟩, number, hsign]
    rfl

/-- **A literal that fits only without a sign is the unsigned integer.** -/
lemma exists_ofNumber_of_fitsUnsigned (h : l.FitsUnsigned) :
    ∃ x, l.numeral.value = .ok x ∧ Value.ofNumber x = .unsigned (UInt64.ofNat l.magnitude) := by
  obtain ⟨hsign, hge, hlt⟩ := l.fitsUnsigned_iff.mp h
  have hvalue := l.value_of_lt hlt
  rw [hsign] at hvalue
  refine ⟨_, hvalue, ?_⟩
  have hroom : ¬ l.magnitude < Nat.pow 2 63 := Nat.not_lt.mpr hge
  rw [if_pos (by decide), Value.ofNumber, Value.ofUInt64, l.toNat_ofNat_magnitude hlt,
    if_neg hroom]

/-- **Any other literal is a double**, or too large for one. -/
lemma value_of_not_fits (hsigned : ¬ l.FitsSigned) (hunsigned : ¬ l.FitsUnsigned) :
    (∃ x, l.numeral.value = .ok (.double x)) ∨ ∃ unread, l.numeral.value = .error unread := by
  by_cases hlt : l.magnitude < 2 ^ 64
  · have hvalue := l.value_of_lt hlt
    rw [fitsSigned_iff] at hsigned
    rw [fitsUnsigned_iff] at hunsigned
    have hsign : l.isNegative = true := by
      by_contra hsign
      rw [Bool.not_eq_true] at hsign
      simp only [hsign, true_and] at hsigned hunsigned
      omega
    have hrange : ¬ (0 < l.magnitude ∧ l.magnitude ≤ 2 ^ 63) := fun h => hsigned (.inr ⟨hsign, h⟩)
    rw [hsign, if_neg (by decide), if_neg hrange] at hvalue
    exact .inl ⟨_, hvalue⟩
  · exact l.value_of_le (Nat.not_lt.mp hlt)

/-! ### The text of the value -/

/-- **A signed integer has the text of its literal.** -/
lemma jsonText_signed (h : l.FitsSigned) :
    (Value.integer (Int64.ofInt l.number)).jsonText = l.text := by
  have hint : (Int64.ofInt l.number).toInt = l.number := Int64.toInt_ofInt_of_le h.1 h.2.1
  rw [Value.jsonText, Value.toJson, hint]
  rcases l.fitsSigned_iff.mp h with ⟨hsign, -⟩ | ⟨hsign, hpositive, -⟩
  · have hnumber : l.number = l.magnitude := by rw [number, hsign]; rfl
    have hnonneg : ¬ l.number < 0 := by omega
    have hnat := Value.toNat_toUInt64 (hint ▸ hnonneg)
    rw [hint, hnumber, Nat.cast_inj] at hnat
    rw [if_neg hnonneg, Json.atom, Number.text, hnumber, hnat, digits_magnitude, text, hsign]
    rfl
  · have hnumber : l.number = -l.magnitude := by rw [number, hsign]; rfl
    rw [if_pos (by omega), Json.atom, Number.text, hint, hnumber, Int.natAbs_neg,
      Int.natAbs_natCast, digits_magnitude, text, hsign]
    rfl

/-- **So has an unsigned one.** -/
lemma jsonText_unsigned (h : l.FitsUnsigned) :
    (Value.unsigned (UInt64.ofNat l.magnitude)).jsonText = l.text := by
  obtain ⟨hsign, -, hlt⟩ := l.fitsUnsigned_iff.mp h
  rw [Value.jsonText, Value.toJson, Json.atom, Number.text, l.toNat_ofNat_magnitude hlt,
    digits_magnitude, text, hsign]
  rfl

/-- **No float is written as an integer.** -/
lemma jsonText_float_ne (x : Double) : (Value.float x).jsonText ≠ l.text := by
  intro heq
  have hchars : ∀ c ∈ (Value.float x).jsonText, isDigit c ∨ c = '-' := by
    intro c hc
    rw [heq] at hc
    rcases l.cases_sign with ⟨-, -, htext⟩ | ⟨-, -, htext⟩ <;> rw [htext] at hc
    · exact .inl (l.isDigit_digits c hc)
    · exact (List.mem_cons.mp hc).elim .inr fun h => .inl (l.isDigit_digits c h)
  have htext : (Value.float x).jsonText = if x.isFinite then x.scientificText else "null".toList :=
    rfl
  rw [htext] at hchars
  split_ifs at hchars
  · rcases x.exists_mem_scientificText with h | h <;> exact absurd (hchars _ h) (by decide)
  · exact absurd (hchars 'n' (by decide)) (by decide)

end Json.IntegerLiteral

namespace Document

open Json (Spacing)

/-- The document that a text is read as has a value in a field. -/
def Loads (text key : String) (v : Value) : Prop :=
  ∃ d, read text = .ok d ∧ d.get? key = some v

/-- The names of the fields with their texts. -/
def fieldTexts (d : Document) : List (String × List Char) :=
  d.entries.map fun x => (x.1, x.2.jsonText)

/-- The text of a document whose fields have the given texts. -/
def laidOut (sp : Spacing) (fields : List (String × List Char)) : List Char :=
  sp.enclosed '\x7b' '\x7d' (fields.map fun x => sp.member x.1 x.2)

variable {d : Document} {text key : String} {s : List Char} {v w : Value} {ctx : FieldContext}
  {l : Json.IntegerLiteral}

/-! ### What is written -/

lemma mem_fieldTexts_iff :
    (key, s) ∈ d.fieldTexts ↔ ∃ v, d.get? key = some v ∧ v.jsonText = s := by
  simp [fieldTexts, FieldMap.get?_eq_some_iff]

/-- **Both texts of a document consist of the texts of its fields.** -/
lemma texts_eq (d : Document) :
    d.compact = String.ofList (laidOut .none d.fieldTexts) ∧
      d.pretty = String.ofList (laidOut (.lines 0) d.fieldTexts) := by
  have hcompact := print_toJson Json.laidOut_compact d 0
  have hpretty := print_toJson Json.laidOut_prettyAt d 0
  simp only [compact_toJson, prettyAt_toJson] at hcompact hpretty
  rw [compact, pretty, Json.pretty, hcompact, hpretty, laidOut, laidOut, fieldTexts, List.map_map,
    List.map_map]
  exact ⟨rfl, rfl⟩

/-! ### What is loaded -/

lemma Loads.unique (hv : Loads text key v) (hw : Loads text key w) : v = w := by
  obtain ⟨d, hd, hv⟩ := hv
  obtain ⟨e, he, hw⟩ := hw
  cases hd.symm.trans he
  exact Option.some.inj (hv.symm.trans hw)

/-- A literal that is a number is loaded as the value of that number. -/
lemma loads_ofNumber {x : Json.Number} (h : l.numeral.value = .ok x) :
    Loads (ctx.fill l.text) ctx.name (Value.ofNumber x) := by
  have hvalue : Value.ofJson (.number x) = .ok (Value.ofNumber x) := rfl
  refine ctx.exists_read_fill (fun gap rest hgap hrest => ?_) hvalue
  rw [l.value_run _ hgap hrest, Json.IntegerLiteral.outcome, h]

/-- A literal that is too large is refused. -/
lemma read_eq_error_of_value {unread : ℕ} (h : l.numeral.value = .error unread) :
    ∃ e, read (ctx.fill l.text) = .error (.json e) ∧ e.cause = .numberOutOfRange := by
  refine ctx.read_fill_error fun gap rest hgap hrest =>
    ⟨⟨.numberOutOfRange, .settled (Json.byteLength rest + unread)⟩, ?_, rfl⟩
  rw [l.value_run _ hgap hrest, Json.IntegerLiteral.outcome, h]

lemma loads_signed (h : l.FitsSigned) :
    Loads (ctx.fill l.text) ctx.name (.integer (Int64.ofInt l.number)) := by
  obtain ⟨x, hvalue, hx⟩ := l.exists_ofNumber_of_fitsSigned h
  exact hx ▸ loads_ofNumber hvalue

lemma loads_unsigned (h : l.FitsUnsigned) :
    Loads (ctx.fill l.text) ctx.name (.unsigned (UInt64.ofNat l.magnitude)) := by
  obtain ⟨x, hvalue, hx⟩ := l.exists_ofNumber_of_fitsUnsigned h
  exact hx ▸ loads_ofNumber hvalue

/-- Any other literal is loaded as a float, or refused. -/
lemma loads_float_or_error (hsigned : ¬ l.FitsSigned) (hunsigned : ¬ l.FitsUnsigned) :
    (∃ x, Loads (ctx.fill l.text) ctx.name (.float x)) ∨
      ∃ e, read (ctx.fill l.text) = .error (.json e) ∧ e.cause = .numberOutOfRange := by
  rcases l.value_of_not_fits hsigned hunsigned with ⟨x, hvalue⟩ | ⟨unread, hvalue⟩
  · exact .inl ⟨x, loads_ofNumber hvalue⟩
  · exact .inr (read_eq_error_of_value hvalue)

/-- **Which value it is that is loaded.** -/
lemma cases_of_loads (h : Loads (ctx.fill l.text) ctx.name v) :
    (l.FitsSigned ∧ v = .integer (Int64.ofInt l.number)) ∨
      (l.FitsUnsigned ∧ v = .unsigned (UInt64.ofNat l.magnitude)) ∨ ∃ x, v = .float x := by
  by_cases hsigned : l.FitsSigned
  · exact .inl ⟨hsigned, h.unique (loads_signed hsigned)⟩
  by_cases hunsigned : l.FitsUnsigned
  · exact .inr (.inl ⟨hunsigned, h.unique (loads_unsigned hunsigned)⟩)
  rcases loads_float_or_error hsigned hunsigned with ⟨x, hx⟩ | ⟨e, he, -⟩
  · exact .inr (.inr ⟨x, h.unique hx⟩)
  · obtain ⟨d, hd, -⟩ := h
    cases hd.symm.trans he

/-- **Integer literals as fields**, of any length and in the text of any document.

* The literal is loaded as a signed integer exactly if it fits 64 bits with a sign and is not `-0`,
  and as an unsigned one exactly if it fits 64 bits only without a sign. The integer is the number
  that the literal denotes.
* Any other literal is loaded as a float, or the text is refused because the number is out of range.
* What is loaded is written with the same literal in exactly the first two cases. The texts of a
  document consist of the texts of its fields. -/
theorem integer_literal (ctx : FieldContext) (l : Json.IntegerLiteral) :
    ((∃ n : Int64, n.toInt = l.number ∧ Loads (ctx.fill l.text) ctx.name (.integer n)) ↔
      l.FitsSigned) ∧
    ((∃ n : UInt64, n.toNat = l.number ∧ Loads (ctx.fill l.text) ctx.name (.unsigned n)) ↔
      l.FitsUnsigned) ∧
    (¬ l.FitsSigned → ¬ l.FitsUnsigned →
      (∃ x, Loads (ctx.fill l.text) ctx.name (.float x)) ∨
        ∃ e, read (ctx.fill l.text) = .error (.json e) ∧ e.cause = .numberOutOfRange) ∧
    ((∃ d, read (ctx.fill l.text) = .ok d ∧ (ctx.name, l.text) ∈ d.fieldTexts) ↔
      l.FitsSigned ∨ l.FitsUnsigned) ∧
    ∀ d : Document, d.compact = String.ofList (laidOut .none d.fieldTexts) ∧
      d.pretty = String.ofList (laidOut (.lines 0) d.fieldTexts) := by
  refine ⟨⟨?signed, fun h => ?toSigned⟩, ⟨?unsigned, fun h => ?toUnsigned⟩, loads_float_or_error,
    ⟨?written, ?toWritten⟩, texts_eq⟩
  case signed =>
    rintro ⟨n, -, hn⟩
    rcases cases_of_loads hn with ⟨h, -⟩ | ⟨-, hn⟩ | ⟨x, hn⟩
    · exact h
    · cases hn
    · cases hn
  case toSigned =>
    exact ⟨_, Int64.toInt_ofInt_of_le h.1 h.2.1, loads_signed h⟩
  case unsigned =>
    rintro ⟨n, -, hn⟩
    rcases cases_of_loads hn with ⟨-, hn⟩ | ⟨h, -⟩ | ⟨x, hn⟩
    · cases hn
    · exact h
    · cases hn
  case toUnsigned =>
    obtain ⟨hsign, -, hlt⟩ := l.fitsUnsigned_iff.mp h
    refine ⟨_, ?_, loads_unsigned h⟩
    rw [l.toNat_ofNat_magnitude hlt, Json.IntegerLiteral.number, hsign]
    rfl
  case written =>
    rintro ⟨d, hd, hmem⟩
    obtain ⟨v, hv, htext⟩ := mem_fieldTexts_iff.mp hmem
    rcases cases_of_loads ⟨d, hd, hv⟩ with ⟨h, -⟩ | ⟨h, -⟩ | ⟨x, rfl⟩
    · exact .inl h
    · exact .inr h
    · exact absurd htext (l.jsonText_float_ne x)
  case toWritten =>
    rintro (h | h)
    · obtain ⟨d, hd, hv⟩ : Loads (ctx.fill l.text) ctx.name _ := loads_signed h
      exact ⟨d, hd, mem_fieldTexts_iff.mpr ⟨_, hv, l.jsonText_signed h⟩⟩
    · obtain ⟨d, hd, hv⟩ : Loads (ctx.fill l.text) ctx.name _ := loads_unsigned h
      exact ⟨d, hd, mem_fieldTexts_iff.mpr ⟨_, hv, l.jsonText_unsigned h⟩⟩

/-- The member in front of the place in the object below. -/
def bay : MemberText := .printed "bay" (.string "north") (.atom (.string _))

/-- The member behind it. -/
def shelf : MemberText := .printed "shelf" .null (.atom .null)

lemma reads_id (rest : List Char) :
    Json.Quoted.read [] (['i', 'd', '"'] ++ rest) = .ok ("id".toList, rest) := by
  rw [List.cons_append, Json.Quoted.read_plain (by decide) (by decide) (by decide),
    List.cons_append, Json.Quoted.read_plain (by decide) (by decide) (by decide)]
  exact Json.Quoted.read_close _ _

lemma id_notMem_shelf : "id" ∉ [shelf].map (·.name) := by decide

lemma isScalar_of_counts_bay_shelf {other : String} {a : Json}
    (h : Counts (([bay] ++ [shelf]).map (·.entry)) other a) : a.IsScalar := by
  obtain ⟨before, after, hsplit, -⟩ := h
  have hentries : [("bay", Json.string "north"), ("shelf", Json.null)] =
      before ++ (other, a) :: after := hsplit
  have hmem : (other, a) ∈ [("bay", Json.string "north"), ("shelf", Json.null)] := by
    rw [hentries]
    exact List.mem_append_right before List.mem_cons_self
  simp only [List.mem_cons, Prod.mk.injEq, List.not_mem_nil, or_false] at hmem
  rcases hmem with ⟨-, rfl⟩ | ⟨-, rfl⟩ <;> decide

/-- An object with blanks in it, another member in front of the place and one behind it. -/
def cabinet : FieldContext where
  front := [bay]
  back := [shelf]
  name := "id"
  quoted := ['i', 'd', '"']
  beforeObject := ⟨Json.newline 0, Spacing.allBlank_newline 0⟩
  beforeName := ⟨Json.newline 1, Spacing.allBlank_newline 1⟩
  beforeColon := ⟨[], Json.allBlank_nil⟩
  beforeValue := ⟨[' '], (Spacing.lines 0).colon_blank⟩
  behindValue := ⟨Json.newline 0, Spacing.allBlank_newline 0⟩
  behindObject := ⟨[], Json.allBlank_nil⟩
  reads_quoted := reads_id
  name_notMem := id_notMem_shelf
  isScalar_of_counts _ _ _ := isScalar_of_counts_bay_shelf

/-- The literal of the greatest integer of 64 bits. -/
def greatest : Json.IntegerLiteral where
  isNegative := false
  digits := Double.digits 18446744073709551615
  leading := .inr (Json.Numeral.digits_eq_cons (by decide))
  isDigit_digits _ := Json.Numeral.isDigit_of_mem_digits

/-- The literal of a zero with a sign. -/
def minusZero : Json.IntegerLiteral where
  isNegative := true
  digits := ['0']
  leading := .inl rfl
  isDigit_digits := Double.Decimal.isDigit_of_mem_zero

/-- The greatest integer comes back with its digits, and a zero with a sign does not. -/
theorem integer_literal_cabinet :
    (∃ n : UInt64, n.toNat = greatest.number ∧
      Loads (cabinet.fill greatest.text) "id" (.unsigned n)) ∧
    (∃ d, read (cabinet.fill greatest.text) = .ok d ∧
      ("id", "18446744073709551615".toList) ∈ d.fieldTexts) ∧
    ¬ ∃ d, read (cabinet.fill minusZero.text) = .ok d ∧ ("id", ['-', '0']) ∈ d.fieldTexts := by
  have hgreatest : greatest.FitsUnsigned := by decide
  have hminus : ¬ (minusZero.FitsSigned ∨ minusZero.FitsUnsigned) := by decide
  obtain ⟨-, hunsigned, -, hwritten, -⟩ := integer_literal cabinet greatest
  obtain ⟨-, -, -, hwritten', -⟩ := integer_literal cabinet minusZero
  exact ⟨hunsigned.mpr hgreatest, hwritten.mpr (.inr hgreatest), hwritten'.not.mpr hminus⟩

end Document

end FieldNorm
