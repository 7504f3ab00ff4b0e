import FieldNorm.Proofs.Double.Text
import FieldNorm.Proofs.Sql.Reading
import FieldNorm.Proofs.Text.ByteOrder
import Mathlib.Algebra.GroupWithZero.Nat

/-!
The two styles of literals against each other.

* `HoldsQuote`, `quotesIn`: whether a single quote stands in the text of a field, and how many do.
  Only a text can hold one (`exists_text_of_holdsQuote`).
* `Gains`: a text has the characters of another one and some more quotes. The escaped text of a
  literal gains the quotes of its field, and so do lists of literals and statements.
* `raw_against_escaped`: the raw style warns of the fields that hold a quote, one by one, and the
  two statements differ just by the quotes of these.
-/

namespace FieldNorm.Sql

open Json.Numeral (isDigit)

variable {s t u v : List Char} {m n : Nat} {d : Document} {key : String}

/-! ### Fields with quotes -/

/-- The field has a value, and a single quote stands in the text of the value. -/
def HoldsQuote (o : Option Value) : Prop := ¬ HasNoValue o ∧ ∃ v ∈ o, '\'' ∈ v.display

instance (o : Option Value) : Decidable (HoldsQuote o) :=
  inferInstanceAs (Decidable (_ ∧ ∃ v ∈ o, _))

/-- How many single quotes are shown of a field. -/
def quotesIn : Option Value → Nat
  | none | some .null => 0
  | some v => v.display.count '\''

lemma quotesIn_of_hasNoValue {o : Option Value} (h : HasNoValue o) : quotesIn o = 0 := by
  rcases h with rfl | rfl <;> rfl

lemma quotesIn_some {v : Value} (h : v ≠ .null) : quotesIn (some v) = v.display.count '\'' := by
  cases v <;> first | exact absurd rfl h | rfl

/-- A field holds a quote if some are shown of it. -/
lemma holdsQuote_iff {o : Option Value} : HoldsQuote o ↔ quotesIn o ≠ 0 := by
  by_cases hvalue : HasNoValue o
  · simp [HoldsQuote, hvalue, quotesIn_of_hasNoValue hvalue]
  · cases o with
    | none => exact absurd (.inl rfl) hvalue
    | some v =>
        rw [quotesIn_some fun h => hvalue (hasNoValue_some_iff.mpr h)]
        simp [HoldsQuote, hvalue, List.count_eq_zero]

/-- **Only a text can hold a quote**: there is none in the text of a number. -/
lemma exists_text_of_holdsQuote {o : Option Value} (h : HoldsQuote o) :
    ∃ s, o = some (.text s) := by
  obtain ⟨-, v, hv, hquote⟩ := h
  obtain rfl := Option.mem_def.mp hv
  have hdigit : ¬ isDigit '\'' := by decide
  have hdigits : ∀ n, '\'' ∉ Double.digits n := Double.notMem_digits hdigit
  cases v with
  | null => exact absurd hquote (by decide)
  | bool b => cases b <;> exact absurd hquote (by decide)
  | integer n =>
      rw [Value.display, Value.intText] at hquote
      split_ifs at hquote <;> simp [hdigits] at hquote
  | unsigned n => exact absurd hquote (hdigits _)
  | float x =>
      exact absurd hquote (Double.notMem_plainText hdigit (by decide) (by decide) x)
  | text s => exact ⟨s, rfl⟩

/-! ### Texts that gain quotes -/

/-- The text `t` has the characters of `s`, and `n` single quotes besides. -/
def Gains (n : Nat) (s t : List Char) : Prop := t.Perm (List.replicate n '\'' ++ s)

lemma gains_refl (s : List Char) : Gains 0 s s := .refl s

lemma Gains.append (h : Gains m s t) (h' : Gains n u v) : Gains (m + n) (s ++ u) (t ++ v) := by
  rw [Gains, List.perm_iff_count] at *
  intro c
  have hc := h c
  have hc' := h' c
  simp only [List.count_append, List.count_replicate] at *
  split_ifs at * <;> omega

lemma Gains.length_eq (h : Gains n s t) : t.length = s.length + n := by
  rw [List.Perm.length_eq h, List.length_append, List.length_replicate, Nat.add_comm]

/-- A quote is a single byte. -/
lemma Gains.bytes_eq (h : Gains n s t) :
    (t.flatMap String.utf8EncodeChar).length = (s.flatMap String.utf8EncodeChar).length + n := by
  have hquotes : ∀ n, ((List.replicate n '\'').flatMap String.utf8EncodeChar).length = n := by
    intro n
    induction n with
    | zero => rfl
    | succ n ih =>
        rw [List.replicate_succ, List.flatMap_cons, List.length_append, ih, Nat.add_comm]
        rfl
  rw [(List.Perm.flatMap_right _ h).length_eq, List.flatMap_append, List.length_append, hquotes,
    Nat.add_comm]

/-- **A text gains its own quotes** when they are doubled. -/
lemma gains_doubleQuotes (s : List Char) : Gains (s.count '\'') s (doubleQuotes s) := by
  induction s with
  | nil => exact gains_refl []
  | cons c s ih =>
      have hcons : doubleQuotes (c :: s) =
          (if c = '\'' then ['\'', '\''] else [c]) ++ doubleQuotes s := List.flatMap_cons
      rw [hcons, List.count_cons, Nat.add_comm, ← List.singleton_append]
      refine Gains.append ?_ ih
      by_cases hc : c = '\''
      · rw [if_pos hc, hc]
        exact .refl _
      · rw [if_neg hc, if_neg (by simpa using hc)]
        exact .refl _

/-- A text without quotes stays as it is. -/
lemma doubleQuotes_of_count_eq_zero (h : s.count '\'' = 0) : doubleQuotes s = s := by
  rw [List.count_eq_zero] at h
  induction s with
  | nil => rfl
  | cons c s ih =>
      obtain ⟨hc, hs⟩ := not_or.mp (List.mem_cons.not.mp h)
      rw [doubleQuotes, List.flatMap_cons, if_neg (Ne.symm hc), ← doubleQuotes, ih hs]
      rfl

/-! ### Literals -/

/-- **The escaped literal of a field gains its quotes.** -/
lemma gains_write (d : Document) (key : String) :
    Gains (quotesIn (d.get? key)) ((Literal.ofField d key).write .raw)
      ((Literal.ofField d key).write .escaped) := by
  have hshows := shows_ofField d key
  generalize Literal.ofField d key = l, d.get? key = o at hshows
  cases hshows with
  | noValue h =>
      rw [quotesIn_of_hasNoValue h]
      exact gains_refl _
  | @value v h =>
      rw [quotesIn_some h]
      have hopened := (gains_refl ['\'']).append (gains_doubleQuotes v.display)
      have hclosed := hopened.append (gains_refl ['\''])
      rwa [Nat.zero_add, Nat.add_zero] at hclosed

/-- A field that holds no quote has one literal in both styles. -/
lemma write_eq_of_not_holdsQuote (h : ¬ HoldsQuote (d.get? key)) :
    (Literal.ofField d key).write .raw = (Literal.ofField d key).write .escaped := by
  have hshows := shows_ofField d key
  rw [holdsQuote_iff, not_not] at h
  generalize Literal.ofField d key = l, d.get? key = o at h hshows
  cases hshows with
  | noValue _ => rfl
  | value hv =>
      rw [quotesIn_some hv] at h
      simp only [Literal.write, Style.quote, doubleQuotes_of_count_eq_zero h]

/-- The warning about a field in the raw style. -/
def quoteWarning (key : String) : Log.Event where
  level := .warn
  source := .sql
  message := "value contains a single quote; raw SQL literal is not escaped"
  data := [("field", .plain key)]

/-- **A literal gives a warning** if it is raw and its field holds a quote. -/
lemma events_literal (d : Document) (style : Style) (key : String) :
    (literal d style key).events =
      if style = .raw ∧ HoldsQuote (d.get? key) then [quoteWarning key] else [] := by
  have hshows := shows_ofField d key
  rw [literal]
  dsimp only
  generalize Literal.ofField d key = l, d.get? key = o at hshows
  cases hshows with
  | noValue h => simp [Literal.warnings, holdsQuote_iff, quotesIn_of_hasNoValue h]
  | value hv =>
      simp [Literal.warnings, holdsQuote_iff, quotesIn_some hv, List.count_eq_zero, quoteWarning]

/-! ### Statements -/

/-- A list of literals gains the quotes of all its fields. -/
lemma gains_intercalate (separator : List Char) (d : Document) (keys : List String) :
    Gains (keys.map fun key => quotesIn (d.get? key)).sum
      (separator.intercalate ((keys.map (Literal.ofField d)).map (·.write .raw)))
      (separator.intercalate ((keys.map (Literal.ofField d)).map (·.write .escaped))) := by
  induction keys with
  | nil => exact gains_refl []
  | cons key keys ih =>
      cases keys with
      | nil => simpa using gains_write d key
      | cons next keys =>
          have hfirst := (gains_write d key).append (gains_refl separator)
          rw [Nat.add_zero] at hfirst
          simpa only [List.map_cons, List.intercalate_cons_cons, List.sum_cons] using
            hfirst.append ih

/-- What stands in front of the tuple in a statement. -/
def statementFront (table : String) (keys : List String) : String :=
  "INSERT INTO " ++ table ++ " (" ++ ", ".intercalate keys ++ ") VALUES "

/-- The style makes a difference to the tuple alone. -/
lemma toList_insertStatement (table : String) (d : Document) (style : Style) (keys : List String) :
    (insertStatement table d style keys).text.toList =
      (statementFront table keys).toList ++ (tuple d style keys).text.toList ++ [';'] := by
  have htext : (insertStatement table d style keys).text =
      statementFront table keys ++ (tuple d style keys).text ++ ";" := rfl
  rw [htext, String.toList_append, String.toList_append]
  rfl

/-- **The escaped statement gains the quotes of all its fields.** -/
lemma gains_insertStatement (table : String) (d : Document) (keys : List String) :
    Gains (keys.map fun key => quotesIn (d.get? key)).sum
      (insertStatement table d .raw keys).text.toList
      (insertStatement table d .escaped keys).text.toList := by
  have hopened := (gains_refl ['(']).append (gains_intercalate [',', ' '] d keys)
  have hclosed := hopened.append (gains_refl [')'])
  have hfront := (gains_refl (statementFront table keys).toList).append hclosed
  have hstatement := hfront.append (gains_refl [';'])
  rw [toList_insertStatement, toList_insertStatement, toList_tuple, toList_tuple]
  simpa only [Nat.zero_add, Nat.add_zero, List.singleton_append, List.cons_append,
    List.nil_append] using hstatement

/-- Without quotes there is one statement in both styles. -/
lemma insertStatement_eq (table : String) {keys : List String}
    (h : ∀ key ∈ keys, ¬ HoldsQuote (d.get? key)) :
    (insertStatement table d .raw keys).text = (insertStatement table d .escaped keys).text := by
  have hliterals : (keys.map (Literal.ofField d)).map (·.write .raw) =
      (keys.map (Literal.ofField d)).map (·.write .escaped) := by
    rw [List.map_map, List.map_map]
    exact List.map_congr_left fun key hkey => write_eq_of_not_holdsQuote (h key hkey)
  rw [← String.toList_inj, toList_insertStatement, toList_insertStatement, toList_tuple,
    toList_tuple, hliterals]

/-- The events of a statement are those of its literals, one after the other. -/
lemma events_insertStatement (table : String) (d : Document) (style : Style)
    (keys : List String) :
    (insertStatement table d style keys).events =
      if style = .raw then (keys.filter fun key => HoldsQuote (d.get? key)).map quoteWarning
      else [] := by
  change (keys.flatMap fun key => (literal d style key).events) = _
  induction keys with
  | nil => simp
  | cons key keys ih =>
      rw [List.flatMap_cons, ih, events_literal, List.filter_cons]
      by_cases hstyle : style = .raw <;> by_cases hquote : HoldsQuote (d.get? key) <;>
        simp [hstyle, hquote]

/-- **The raw style warns exactly where it is unsafe.**

* The raw statement gives one warning for each place in the list of fields whose field holds a
  quote, in the order of the list, and the warning has the name of that field and nothing else of
  it. The escaped statement gives none. Only texts hold quotes.
* The two statements are the same if and only if there is no warning.
* The escaped one is longer by the number of quotes in the fields, in characters and in bytes. -/
theorem raw_against_escaped (table : String) (d : Document) (keys : List String) :
    ((insertStatement table d .raw keys).events =
        (keys.filter fun key => HoldsQuote (d.get? key)).map quoteWarning ∧
      (insertStatement table d .escaped keys).events = [] ∧
      ∀ key, HoldsQuote (d.get? key) → ∃ s, d.get? key = some (.text s)) ∧
    ((insertStatement table d .raw keys).text = (insertStatement table d .escaped keys).text ↔
      (insertStatement table d .raw keys).events = []) ∧
    (insertStatement table d .escaped keys).text.length =
      (insertStatement table d .raw keys).text.length +
        (keys.map fun key => quotesIn (d.get? key)).sum ∧
    (Text.utf8 (insertStatement table d .escaped keys).text).length =
      (Text.utf8 (insertStatement table d .raw keys).text).length +
        (keys.map fun key => quotesIn (d.get? key)).sum := by
  have hevents : (insertStatement table d .raw keys).events =
      (keys.filter fun key => HoldsQuote (d.get? key)).map quoteWarning :=
    events_insertStatement table d .raw keys
  have hgains := gains_insertStatement table d keys
  have hlength := hgains.length_eq
  rw [String.length_toList, String.length_toList] at hlength
  refine ⟨⟨hevents, events_insertStatement table d .escaped keys,
    fun key => exists_text_of_holdsQuote⟩, ?same, hlength, ?bytes⟩
  case same =>
    rw [hevents, List.map_eq_nil_iff, List.filter_eq_nil_iff]
    simp only [decide_eq_true_eq]
    refine ⟨fun hsame key hkey hquote => ?_, insertStatement_eq table⟩
    -- texts of one length leave no room for a quote
    rw [hsame] at hlength
    have hsum : (keys.map fun key => quotesIn (d.get? key)).sum = 0 := by omega
    have hzero := List.sum_eq_zero_iff_forall_eq_nat.mp hsum _
      (List.mem_map_of_mem hkey)
    exact holdsQuote_iff.mp hquote hzero
  case bytes =>
    have hbytes := hgains.bytes_eq
    rwa [← Text.utf8_ofList, ← Text.utf8_ofList, String.ofList_toList, String.ofList_toList]
      at hbytes

/-- A printer whose owner has quotes in the name, and whose note has not. -/
def owned : Document :=
  .ofList [("note", .text "spare"), ("owner", .text "d'O'livier"),
    ("quota", .float ⟨0x3FF8000000000000⟩)]

/-- Its owner is listed twice. -/
def ownedKeys : List String := ["owner", "quota", "room", "owner", "note"]

/-- A field that is listed twice is warned of twice. -/
theorem raw_against_escaped_owned :
    HoldsQuote (owned.get? "owner") ∧
      (insertStatement "printers" owned .raw ownedKeys).events =
        [quoteWarning "owner", quoteWarning "owner"] ∧
      (insertStatement "printers" owned .raw ownedKeys).text ≠
        (insertStatement "printers" owned .escaped ownedKeys).text ∧
      (insertStatement "printers" owned .escaped ownedKeys).text.length =
        (insertStatement "printers" owned .raw ownedKeys).text.length + 4 := by
  obtain ⟨⟨hevents, -, -⟩, hsame, hlength, -⟩ := raw_against_escaped "printers" owned ownedKeys
  have hlisted : (insertStatement "printers" owned .raw ownedKeys).events =
      [quoteWarning "owner", quoteWarning "owner"] := by
    rw [hevents]
    decide
  have hgained : (ownedKeys.map fun key => quotesIn (owned.get? key)).sum = 4 := by decide
  refine ⟨by decide, hlisted, fun h => ?_, by rw [hlength, hgained]⟩
  have hnone := hsame.mp h
  rw [hlisted] at hnone
  cases hnone

end FieldNorm.Sql
