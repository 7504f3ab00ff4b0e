import FieldNorm.Sql.Statement
import Mathlib.Tactic.Common

/-!
Tuples of literals as a database reads them. A quote opens a text; inside it two quotes stand for
one, and a quote that stands alone closes it. So no text gets out of its quotes if its own are
doubled.

* `readText`, `readLiteral`, `readTuple`: the rules of reading.
* `Shows`, `Alike`: which literal a field should have, and which fields have the same one.
* `readTuple_tuple`: the escaped tuple of some fields of a document is read as one literal for
  each field, and nothing behind the tuple is touched.
-/

namespace FieldNorm.Sql

variable {c : Char} {s rest : List Char}

/-! ### The rules of reading -/

/-- Reads a text whose opening quote is gone, up to the quote that closes it. -/
def readText : List Char → Option (List Char × List Char)
  | [] => none
  | '\'' :: '\'' :: rest => (readText rest).map fun (s, rest) => ('\'' :: s, rest)
  | '\'' :: rest => some ([], rest)
  | c :: rest => (readText rest).map fun (s, rest) => (c :: s, rest)

/-- Reads `NULL` or a text between quotes. -/
def readLiteral : List Char → Option (Literal × List Char)
  | '\'' :: rest => (readText rest).map fun (s, rest) => (.text s, rest)
  | 'N' :: 'U' :: 'L' :: 'L' :: rest => some (.null, rest)
  | _ => none

def skipSpaces (s : List Char) : List Char := s.dropWhile Char.isWhitespace

lemma length_skipSpaces_le (s : List Char) : (skipSpaces s).length ≤ s.length :=
  (List.dropWhile_suffix _).sublist.length_le

lemma length_lt_of_readText {t : List Char} (h : readText s = some (t, rest)) :
    rest.length < s.length := by
  fun_induction readText s generalizing t with
  | case1 => cases h
  | case2 s ih =>
      obtain ⟨⟨u, unread⟩, hu, hrest⟩ := Option.map_eq_some_iff.mp h
      cases hrest
      have := ih hu
      simp only [List.length_cons]
      omega
  | case3 s hs => cases h; simp
  | case4 c s hs hc ih =>
      obtain ⟨⟨u, unread⟩, hu, hrest⟩ := Option.map_eq_some_iff.mp h
      cases hrest
      exact Nat.lt_succ_of_lt (ih hu)

lemma length_lt_of_readLiteral {l : Literal} (h : readLiteral s = some (l, rest)) :
    rest.length < s.length := by
  unfold readLiteral at h
  split at h
  · obtain ⟨⟨u, unread⟩, hu, hrest⟩ := Option.map_eq_some_iff.mp h
    cases hrest
    exact Nat.lt_succ_of_lt (length_lt_of_readText hu)
  · cases h
    simp only [List.length_cons]
    omega
  · cases h

/-- Reads literals with commas between them, up to the parenthesis that closes the tuple. -/
def readLiterals (s : List Char) : Option (List Literal × List Char) :=
  match _h₁ : readLiteral (skipSpaces s) with
  | none => none
  | some (l, unread) =>
    match _h₂ : skipSpaces unread with
    | ')' :: rest => some ([l], rest)
    | ',' :: rest => (readLiterals rest).map fun (ls, rest) => (l :: ls, rest)
    | _ => none
termination_by s.length
decreasing_by
  have h₃ := length_lt_of_readLiteral _h₁
  have h₄ := length_skipSpaces_le s
  have h₅ := length_skipSpaces_le unread
  rw [_h₂, List.length_cons] at h₅
  omega

/-- Reads a tuple of literals. -/
def readTuple : List Char → Option (List Literal × List Char)
  | '(' :: s =>
    match skipSpaces s with
    | ')' :: rest => some ([], rest)
    | s => readLiterals s
  | _ => none

/-! ### Reading what is written -/

/-- A quote closes the text if no other one follows. -/
lemma readText_lone (h : rest.head? ≠ some '\'') : readText ('\'' :: rest) = some ([], rest) := by
  rw [readText]
  rintro t rfl
  exact h rfl

/-- Any other character stands for itself. -/
lemma readText_plain (hc : c ≠ '\'') (s : List Char) :
    readText (c :: s) = (readText s).map fun (s, rest) => (c :: s, rest) := by
  rw [readText]
  · rintro t rfl
    exact absurd rfl hc
  · exact hc

/-- **A text whose quotes are doubled is read back**, if no quote follows the closing one. -/
lemma readText_doubleQuotes (s : List Char) (h : rest.head? ≠ some '\'') :
    readText (doubleQuotes s ++ '\'' :: rest) = some (s, rest) := by
  induction s with
  | nil =>
      exact readText_lone h
  | cons c s ih =>
      have hcons : doubleQuotes (c :: s) =
          (if c = '\'' then ['\'', '\''] else [c]) ++ doubleQuotes s := List.flatMap_cons
      rw [hcons, List.append_assoc]
      split_ifs with hc
      case pos =>
        subst hc
        simp only [List.cons_append, List.nil_append, readText, ih, Option.map_some]
      case neg =>
        rw [List.singleton_append, readText_plain hc, ih, Option.map_some]

/-- **A literal is read back.** -/
lemma readLiteral_write (l : Literal) (h : rest.head? ≠ some '\'') :
    readLiteral (l.write .escaped ++ rest) = some (l, rest) := by
  cases l with
  | null => rfl
  | text s =>
      have hread := readText_doubleQuotes s h
      simp [Literal.write, Style.quote, readLiteral, hread]

/-- The text of a literal starts with a letter or a quote. -/
lemma skipSpaces_write (l : Literal) (rest : List Char) :
    skipSpaces (l.write .escaped ++ rest) = l.write .escaped ++ rest := by
  cases l <;> rfl

lemma readLiterals_of_close {l : Literal} {unread : List Char}
    (h : readLiteral (skipSpaces s) = some (l, unread)) (hclose : skipSpaces unread = ')' :: rest) :
    readLiterals s = some ([l], rest) := by
  unfold readLiterals
  split
  · simp_all
  · rename_i l' unread' hread
    obtain ⟨rfl, rfl⟩ : l' = l ∧ unread' = unread := by simpa [hread] using h
    split <;> simp_all

lemma readLiterals_of_comma {l : Literal} {unread : List Char}
    (h : readLiteral (skipSpaces s) = some (l, unread)) (hcomma : skipSpaces unread = ',' :: rest) :
    readLiterals s = (readLiterals rest).map fun (ls, rest) => (l :: ls, rest) := by
  rw [readLiterals]
  split
  · simp_all
  · rename_i l' unread' hread
    obtain ⟨rfl, rfl⟩ : l' = l ∧ unread' = unread := by simpa [hread] using h
    split <;> simp_all

/-- The literals behind the first one, each behind a comma, the closing parenthesis and the rest. -/
def following (rest : List Char) : List Literal → List Char
  | [] => ')' :: rest
  | l :: ls => ',' :: ' ' :: (l.write .escaped ++ following rest ls)

lemma intercalate_append_eq_following (l : Literal) (ls : List Literal) (rest : List Char) :
    [',', ' '].intercalate ((l :: ls).map (·.write .escaped)) ++ ')' :: rest =
      l.write .escaped ++ following rest ls := by
  induction ls generalizing l with
  | nil => rw [List.map_singleton, List.intercalate_singleton, following]
  | cons m ls ih =>
      rw [List.map_cons, List.map_cons, List.intercalate_cons_cons, List.append_assoc,
        ← List.map_cons, ih m, following, List.append_assoc, List.cons_append, List.cons_append,
        List.nil_append]

/-- No literal is followed by a quote, which would go on with it. -/
lemma head?_following_ne (rest : List Char) (ls : List Literal) :
    (following rest ls).head? ≠ some '\'' := by
  cases ls <;> simp [following]

/-- **Literals with commas between them are read back**, up to the parenthesis. -/
lemma readLiterals_following (l : Literal) (ls : List Literal)
    (hs : skipSpaces s = l.write .escaped ++ following rest ls) :
    readLiterals s = some (l :: ls, rest) := by
  have hread := readLiteral_write l (head?_following_ne rest ls)
  rw [← hs] at hread
  induction ls generalizing l s with
  | nil => exact readLiterals_of_close hread rfl
  | cons m ls ih =>
      have hskip : skipSpaces (' ' :: (m.write .escaped ++ following rest ls)) =
          m.write .escaped ++ following rest ls := skipSpaces_write m _
      have hnext := readLiteral_write m (head?_following_ne rest ls)
      rw [← hskip] at hnext
      rw [readLiterals_of_comma hread rfl, ih m hskip hnext, Option.map_some]

/-- A literal does not start with the closing parenthesis, so the tuple is not empty. -/
lemma readTuple_eq_readLiterals {l : Literal} (hskip : skipSpaces s = l.write .escaped ++ rest) :
    readTuple ('(' :: s) = readLiterals (l.write .escaped ++ rest) := by
  obtain ⟨c, t, ht, hc⟩ : ∃ c t, l.write .escaped = c :: t ∧ c ≠ ')' := by
    cases l with
    | null => exact ⟨'N', _, rfl, by decide⟩
    | text s => exact ⟨'\'', _, rfl, by decide⟩
  rw [ht, List.cons_append] at hskip ⊢
  rw [readTuple, hskip]
  split
  · simp_all
  · rfl

/-! ### Fields -/

/-- The field is absent or null. -/
def HasNoValue (o : Option Value) : Prop := o = none ∨ o = some .null

instance (o : Option Value) : Decidable (HasNoValue o) :=
  inferInstanceAs (Decidable (_ ∨ _))

/-- **The literal shows a field**: `NULL` if it has no value, and else the text of its value. -/
inductive Shows : Option Value → Literal → Prop
  | noValue {o : Option Value} (h : HasNoValue o) : Shows o .null
  | value {v : Value} (h : v ≠ .null) : Shows (some v) (.text v.display)

/-- **Two fields cannot be told apart** in a statement: both have no value, or the texts of their
values are the same. -/
inductive Alike : Option Value → Option Value → Prop
  | noValue {o p : Option Value} (ho : HasNoValue o) (hp : HasNoValue p) : Alike o p
  | values {v w : Value} (hv : v ≠ .null) (hw : w ≠ .null) (h : v.display = w.display) :
      Alike (some v) (some w)

lemma hasNoValue_some_iff {v : Value} : HasNoValue (some v) ↔ v = .null := by
  simp [HasNoValue]

lemma shows_ofField (d : Document) (key : String) :
    Shows (d.get? key) (Literal.ofField d key) := by
  rw [Literal.ofField]
  split
  case h_1 h => exact .noValue (.inl h)
  case h_2 h => exact .noValue (.inr h)
  case h_3 v hv h => rw [h]; exact .value hv

/-- A field is shown by one literal only. -/
lemma Shows.unique {o : Option Value} {l m : Literal} (hl : Shows o l) (hm : Shows o m) :
    l = m := by
  cases hl with
  | noValue h =>
      cases hm with
      | noValue _ => rfl
      | value hv => exact absurd (hasNoValue_some_iff.mp h) hv
  | value hv =>
      cases hm with
      | noValue h => exact absurd (hasNoValue_some_iff.mp h) hv
      | value _ => rfl

/-- **Fields cannot be told apart just if one literal shows both.** -/
lemma alike_iff_exists_shows {o p : Option Value} : Alike o p ↔ ∃ l, Shows o l ∧ Shows p l := by
  constructor
  · rintro (⟨ho, hp⟩ | ⟨hv, hw, h⟩)
    · exact ⟨.null, .noValue ho, .noValue hp⟩
    · exact ⟨_, .value hv, h ▸ .value hw⟩
  · rintro ⟨l, ho, hp⟩
    cases ho with
    | noValue ho =>
        cases hp with
        | noValue hp => exact .noValue ho hp
    | @value v hv =>
        generalize htext : v.display = s at hp
        cases hp with
        | value hw => exact .values hv hw htext

lemma ofField_eq_iff {d e : Document} (key : String) :
    Literal.ofField d key = Literal.ofField e key ↔ Alike (d.get? key) (e.get? key) := by
  rw [alike_iff_exists_shows]
  constructor
  · intro h
    exact ⟨_, shows_ofField d key, h ▸ shows_ofField e key⟩
  · rintro ⟨l, hd, he⟩
    exact ((shows_ofField d key).unique hd).trans (he.unique (shows_ofField e key))

/-- Documents have the same literals in some fields just if none of these tells them apart. -/
lemma map_ofField_eq_iff {d e : Document} {keys : List String} :
    keys.map (Literal.ofField d) = keys.map (Literal.ofField e) ↔
      ∀ key ∈ keys, Alike (d.get? key) (e.get? key) := by
  simp only [List.map_inj_left, ofField_eq_iff]

/-! ### Tuples of fields -/

lemma toList_tuple (d : Document) (style : Style) (keys : List String) :
    (tuple d style keys).text.toList = '(' ::
      ([',', ' '].intercalate ((keys.map (Literal.ofField d)).map (·.write style)) ++ [')']) := by
  have hcomma : (", " : String).toList = [',', ' '] := rfl
  have hliterals : (keys.map fun key => (literal d style key).text).map String.toList =
      (keys.map (Literal.ofField d)).map (·.write style) := by
    simp [literal]
  simp only [tuple, String.toList_append, String.toList_intercalate, hcomma, hliterals]
  rfl

/-- **The escaped tuple of a document is read as the literals of its fields**, whatever follows. -/
lemma readTuple_tuple (d : Document) (keys : List String) (rest : List Char) :
    readTuple ((tuple d .escaped keys).text.toList ++ rest) =
      some (keys.map (Literal.ofField d), rest) := by
  rw [toList_tuple, List.cons_append, List.append_assoc, List.singleton_append]
  cases keys with
  | nil => rfl
  | cons key keys =>
      have hskip := skipSpaces_write (Literal.ofField d key)
        (following rest (keys.map (Literal.ofField d)))
      rw [List.map_cons, intercalate_append_eq_following, readTuple_eq_readLiterals hskip]
      exact readLiterals_following _ _ hskip

end FieldNorm.Sql
