import FieldNorm.Json.Printer
import FieldNorm.Proofs.Json.Reading

/-!
JSON without doubles is read as it is written.

* `Fits`: the values that have a text which can be read: no doubles, no more brackets inside each
  other than a reader allows, and a negative number below zero.
* `LaidOut`: a printer writes atoms as they are, and arrays and objects with given blanks;
  `laidOut_compact` and `laidOut_prettyAt` are the two printers.
* `Reader.value_reads`: what such a printer writes is read back.
* `parse_compact`, `parse_pretty`: for whole texts.
-/

namespace FieldNorm.Json

open Numeral (Ends isDigit)

variable {depth : Nat} {j : Json} {c : Char} {s t rest : List Char}

/-! ### Values that can be read back -/

/-- A value that is no array, no object and no double; a negative number is below zero. -/
inductive Atomic : Json → Prop
  | null : Atomic .null
  | bool (b : Bool) : Atomic (.bool b)
  | natural (n : UInt64) : Atomic (.number (.natural n))
  | negative {n : Int64} (h : n.toInt < 0) : Atomic (.number (.negative n))
  | string (s : String) : Atomic (.string s)

/-- The value consists of such atoms, with at most `depth` brackets inside each other. -/
inductive Fits : (depth : Nat) → Json → Prop
  | atom {depth : Nat} {j : Json} (h : Atomic j) : Fits depth j
  | array {depth : Nat} {items : List Json} (h : ∀ j ∈ items, Fits depth j) :
      Fits (depth + 1) (.array items)
  | object {depth : Nat} {members : List (String × Json)} (h : ∀ m ∈ members, Fits depth m.2) :
      Fits (depth + 1) (.object members)

/-! ### The two layouts -/

namespace Spacing

/-- No blanks at all. -/
def none : Spacing where
  item := []
  colon := []
  close := []
  item_blank := allBlank_nil
  colon_blank := allBlank_nil
  close_blank := allBlank_nil

lemma allBlank_newline (depth : Nat) : AllBlank (newline depth) := by
  intro c hc
  rcases List.mem_cons.mp hc with rfl | hc
  · decide
  · rw [List.eq_of_mem_replicate hc]
    decide

/-- Every item on a line of its own, inside `depth` brackets. -/
def lines (depth : Nat) : Spacing where
  item := newline (depth + 1)
  colon := [' ']
  close := newline depth
  item_blank := allBlank_newline (depth + 1)
  colon_blank := by simp [AllBlank, isBlank]
  close_blank := allBlank_newline depth

end Spacing

/-- **The printer lays out JSON** with the blanks of `spacing` inside so many brackets. -/
structure LaidOut (print : (depth : Nat) → Json → List Char) (spacing : (depth : Nat) → Spacing) :
    Prop where
  atom : ∀ {j}, Atomic j → ∀ depth, print depth j = atom j
  array : ∀ depth items, print depth (.array items) =
    (spacing depth).enclosed '[' ']' (items.map (print (depth + 1)))
  object : ∀ depth members, print depth (.object members) = (spacing depth).enclosed '\x7b' '\x7d'
    (members.map fun m => (spacing depth).member m.1 (print (depth + 1) m.2))

lemma compactItems_eq (items : List Json) :
    compactItems items = Spacing.none.following ']' (items.map compact) := by
  induction items with
  | nil => rfl
  | cons item items ih => simp [compactItems, ih, Spacing.following, Spacing.none]

lemma compactMembers_eq (members : List (String × Json)) :
    compactMembers members = Spacing.none.following '\x7d'
      (members.map fun m => Spacing.none.member m.1 (compact m.2)) := by
  induction members with
  | nil => rfl
  | cons m members ih =>
      simp [compactMembers, ih, Spacing.following, Spacing.member, Spacing.none]

/-- The text without blanks. -/
lemma laidOut_compact : LaidOut (fun _ => compact) (fun _ => Spacing.none) where
  atom h _ := by cases h <;> rfl
  array _ items := by
    cases items with
    | nil => rfl
    | cons item items => simp [compact, compactItems_eq, Spacing.enclosed, Spacing.none]
  object _ members := by
    cases members with
    | nil => rfl
    | cons m members =>
        simp [compact, compactMembers_eq, Spacing.enclosed, Spacing.member, Spacing.none]

lemma prettyItems_eq (depth : Nat) (items : List Json) :
    prettyItems depth items =
      (Spacing.lines depth).following ']' (items.map (prettyAt (depth + 1))) := by
  induction items with
  | nil => rfl
  | cons item items ih => simp [prettyItems, ih, Spacing.following, Spacing.lines]

lemma prettyMembers_eq (depth : Nat) (members : List (String × Json)) :
    prettyMembers depth members = (Spacing.lines depth).following '\x7d'
      (members.map fun m => (Spacing.lines depth).member m.1 (prettyAt (depth + 1) m.2)) := by
  induction members with
  | nil => rfl
  | cons m members ih =>
      simp [prettyMembers, ih, Spacing.following, Spacing.member, Spacing.lines]

/-- The text on several lines. -/
lemma laidOut_prettyAt : LaidOut prettyAt Spacing.lines where
  atom h _ := by cases h <;> rfl
  array depth items := by
    cases items with
    | nil => rfl
    | cons item items => simp [prettyAt, prettyItems_eq, Spacing.enclosed, Spacing.lines]
  object depth members := by
    cases members with
    | nil => rfl
    | cons m members =>
        simp [prettyAt, prettyMembers_eq, Spacing.enclosed, Spacing.member, Spacing.lines]

/-! ### Reading what is printed -/

namespace Reader

variable {inner : Option (Reader Json)}

/-- The first character announces a value that is neither an array nor an object. -/
def Lead.isScalar : Lead → Bool
  | .word _ _ | .number _ | .string => true
  | _ => false

/-- Neither a blank nor a closing bracket announces a scalar. -/
lemma starts_of_isScalar (h : (lead [c]).isScalar) : ¬ isBlank c ∧ c ≠ ']' := by
  constructor
  · intro hblank
    rcases isBlank_iff.mp hblank with rfl | rfl | rfl | rfl <;> exact absurd h (by decide)
  · rintro rfl
    exact absurd h (by decide)

/-- A digit announces a number. -/
lemma lead_of_isDigit (h : isDigit c) (s : List Char) : lead (c :: s) = .number false := by
  have hne : ∀ d, ¬ isDigit d → c ≠ d := fun d hd hc => hd (hc ▸ h)
  simp only [lead, if_neg (hne 'n' (by decide)), if_neg (hne 't' (by decide)),
    if_neg (hne 'f' (by decide)), if_neg (hne '-' (by decide)), h, if_true]

lemma valueWith_skipBlanks (s : List Char) :
    (valueWith inner).run s = (valueWith inner).run (skipBlanks s) := by
  simp only [valueWith, skipBlanks_skipBlanks]

/-- What announces a scalar is read as one, also where arrays and objects are allowed. -/
lemma valueWith_run_of_isScalar (hc : (lead [c]).isScalar) (s : List Char) :
    (valueWith inner).run (c :: s) = scalar.run (c :: s) := by
  have hskip : skipBlanks (c :: s) = c :: s := skipBlanks_cons (starts_of_isScalar hc).1 s
  have hlead : (lead (c :: s)).isScalar := hc
  rw [valueWith]
  simp only [hskip]
  split <;> simp_all [Lead.isScalar]

/-- A text that is read as a scalar is read as a value. -/
lemma valueWith_reads_scalar (hs : s = c :: t) (hc : (lead [c]).isScalar)
    (h : ∀ rest, Ends rest → scalar.run (s ++ rest) = .ok (j, rest)) :
    (valueWith inner).Reads s j := by
  subst hs
  obtain ⟨hblank, hbracket⟩ := starts_of_isScalar hc
  refine reads_of_skipBlanks valueWith_skipBlanks rfl hblank hbracket fun rest hrest => ?_
  rw [List.cons_append, valueWith_run_of_isScalar hc, ← List.cons_append, h rest hrest]

/-! ### Atoms -/

lemma reads_null : (valueWith inner).Reads (atom .null) .null :=
  valueWith_reads_scalar rfl rfl fun _ _ => rfl

lemma reads_bool (b : Bool) : (valueWith inner).Reads (atom (.bool b)) (.bool b) := by
  cases b <;> exact valueWith_reads_scalar rfl rfl fun _ _ => rfl

/-- A natural number is read as it is written. -/
lemma reads_natural (n : UInt64) :
    (valueWith inner).Reads (atom (.number (.natural n))) (.number (.natural n)) := by
  obtain ⟨c, ds, hds⟩ : ∃ c ds, Double.digits n.toNat = c :: ds :=
    List.exists_cons_of_ne_nil Nat.toDigits_ne_nil
  have hlead := lead_of_isDigit (Numeral.isDigit_of_mem_digits (hds ▸ List.mem_cons_self))
  refine valueWith_reads_scalar hds (by rw [hlead]; rfl) fun rest hrest => ?_
  have hread := Numeral.read_digits n hrest
  rw [hds, List.cons_append] at hread
  simp [atom, Number.text, hds, scalar, hlead, hread]

/-- A negative number is read as it is written. -/
lemma reads_negative {n : Int64} (hn : n.toInt < 0) :
    (valueWith inner).Reads (atom (.number (.negative n))) (.number (.negative n)) := by
  refine valueWith_reads_scalar rfl rfl fun rest hrest => ?_
  have hread := Numeral.read_digits_negative hn hrest
  simp [atom, Number.text, scalar, lead, hread]

/-- A string is read as it is written. -/
lemma reads_string (s : String) : (valueWith inner).Reads (atom (.string s)) (.string s) := by
  refine valueWith_reads_scalar rfl rfl fun rest _ => ?_
  obtain ⟨t, ht, hread⟩ := Quoted.read_write s.toList rest
  have hlead : lead ('"' :: t) = .string := rfl
  simp only [atom, ht, scalar, hlead, hread, String.ofList_toList]

/-- **Atoms are read as they are written**, whatever brackets the reader allows. -/
lemma value_reads_atom (depth : Nat) (h : Atomic j) : (value depth).Reads (atom j) j := by
  obtain ⟨inner, hvalue⟩ : ∃ inner, value depth = valueWith inner := by
    cases depth <;> exact ⟨_, rfl⟩
  rw [hvalue]
  cases h with
  | null => exact reads_null
  | bool b => exact reads_bool b
  | natural n => exact reads_natural n
  | negative hn => exact reads_negative hn
  | string s => exact reads_string s

/-! ### Arrays and objects -/

section Enclosed

variable {γ : Type} {item : Reader Json} {name : γ → String} {text : γ → List Char}
  {out : γ → Json} {xs : List γ}

/-- An array is read if its items are read, with one bracket less. -/
lemma valueWith_reads_array (h : ∀ x ∈ xs, item.Reads (text x) (out x)) (sp : Spacing) :
    (valueWith (some item)).Reads (sp.enclosed '[' ']' (xs.map text)) (.array (xs.map out)) := by
  obtain ⟨t, ht⟩ := sp.enclosed_eq_cons '[' ']' (xs.map text)
  refine reads_of_skipBlanks valueWith_skipBlanks ht (by decide) (by decide) fun rest _ => ?_
  have hlist := map_run Json.array (listOf_enclosed h sp rest)
  have hskip : skipBlanks ('[' :: (t ++ rest)) = '[' :: (t ++ rest) := skipBlanks_cons (by decide) _
  have hlead : lead ('[' :: (t ++ rest)) = .bracket := rfl
  rw [ht, List.cons_append] at hlist ⊢
  simp only [valueWith, hskip, hlead, hlist]

/-- An object is read if its values are read, with one bracket less. -/
lemma valueWith_reads_object (h : ∀ x ∈ xs, item.Reads (text x) (out x)) (sp : Spacing) :
    (valueWith (some item)).Reads
      (sp.enclosed '\x7b' '\x7d' (xs.map fun x => sp.member (name x) (text x)))
      (.object (xs.map fun x => (name x, out x))) := by
  obtain ⟨t, ht⟩ := sp.enclosed_eq_cons '\x7b' '\x7d'
    (xs.map fun x => sp.member (name x) (text x))
  refine reads_of_skipBlanks valueWith_skipBlanks ht (by decide) (by decide) fun rest _ => ?_
  have hmembers : (membersOf anyKey fun _ => item).run
      (sp.enclosed '\x7b' '\x7d' (xs.map fun x => sp.member (name x) (text x)) ++ rest) =
      .ok (xs.map fun x => (name x, out x), rest) :=
    membersOf_enclosed h (admits_anyKey [] _) sp rest
  have hobject := map_run Json.object hmembers
  have hskip : skipBlanks ('\x7b' :: (t ++ rest)) = '\x7b' :: (t ++ rest) :=
    skipBlanks_cons (by decide) _
  have hlead : lead ('\x7b' :: (t ++ rest)) = .brace := rfl
  rw [ht, List.cons_append] at hobject ⊢
  simp only [valueWith, hskip, hlead, hobject]

end Enclosed

/-- **What a printer lays out is read back**, by a reader that allows enough brackets. -/
theorem value_reads {print : Nat → Json → List Char} {spacing : Nat → Spacing}
    (hprint : LaidOut print spacing) (h : Fits depth j) (outer : Nat) :
    (value depth).Reads (print outer j) j := by
  induction h generalizing outer with
  | @atom depth j h =>
      rw [hprint.atom h outer]
      exact value_reads_atom depth h
  | @array depth items h ih =>
      have hreads : (value (depth + 1)).Reads _ (.array (items.map id)) :=
        valueWith_reads_array (fun j hj => ih j hj (outer + 1)) (spacing outer)
      rw [List.map_id] at hreads
      rwa [hprint.array]
  | @object depth members h ih =>
      have hreads : (value (depth + 1)).Reads _ (.object (members.map fun m => (m.1, m.2))) :=
        valueWith_reads_object (fun m hm => ih m hm (outer + 1)) (spacing outer)
      rw [List.map_id'] at hreads
      rwa [hprint.object]

end Reader

/-! ### Whole texts -/

/-- **A value is read back from its text without blanks.** -/
theorem parse_compact (h : Fits maxDepth j) : parse (String.ofList j.compact) = .ok j :=
  Reader.readAll_ofList (Reader.value_reads laidOut_compact h 0)

/-- **A value is read back from its text on several lines**, with any blanks behind it. -/
theorem parse_pretty (h : Fits maxDepth j) {gap : List Char} (hgap : AllBlank gap) :
    parse (String.ofList (j.pretty ++ gap)) = .ok j :=
  Reader.readAll_eq_ok (Reader.value_reads laidOut_prettyAt h 0) hgap

end FieldNorm.Json
