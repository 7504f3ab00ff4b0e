import FieldNorm.Json.Quoted
import Mathlib.Tactic.Common

/-!
String literals are read as they are written. A character stands for itself or for an escape, and
one step of the reader (`Quoted.read_writeChar`) takes either; `Quoted.read_write` follows for texts
of any length, whatever comes behind the literal.
-/

namespace FieldNorm.Json.Quoted

variable {done rest : List Char} {c d : Char}

/-! ### One step of the reader -/

lemma read_close (done rest : List Char) : read done ('"' :: rest) = .ok (done.reverse, rest) := by
  rw [read, if_pos rfl]

lemma read_escape {s : List Char} (h : readEscape s = .ok (d, rest)) :
    read done ('\\' :: s) = read (d :: done) rest := by
  rw [read, if_neg (by decide), if_pos rfl]
  split <;> simp_all

lemma read_plain (hquote : c ≠ '"') (hescape : c ≠ '\\') (hcontrol : ¬ c.toNat < 0x20)
    (done rest : List Char) : read done (c :: rest) = read (c :: done) rest := by
  rw [read, if_neg hquote, if_neg hescape, if_neg hcontrol]

/-- An escape of one letter. -/
lemma read_shortEscape (hc : c ≠ 'u') (h : shortEscape? c = some d) (done rest : List Char) :
    read done ('\\' :: c :: rest) = read (d :: done) rest :=
  read_escape (by simp [readEscape, hc, h])

/-- The escape of a control character by its number. -/
lemma readEscape_control (h : c.toNat < 0x20) (rest : List Char) :
    readEscape ('u' :: '0' :: '0' :: Text.hexDigit (c.toNat / 16) ::
      Text.hexDigit (c.toNat % 16) :: rest) = .ok (c, rest) := by
  have hhigh : Text.hexValue? (Text.hexDigit (c.toNat / 16)) = some (c.toNat / 16) :=
    Text.hexValue?_hexDigit (by omega)
  have hlow : Text.hexValue? (Text.hexDigit (c.toNat % 16)) = some (c.toNat % 16) :=
    Text.hexValue?_hexDigit (by omega)
  have hzero : Text.hexValue? '0' = some 0 := by decide
  have hnumber : ((0 * 16 + 0) * 16 + c.toNat / 16) * 16 + c.toNat % 16 = c.toNat := by omega
  have hread : readHex ('0' :: '0' :: Text.hexDigit (c.toNat / 16) ::
      Text.hexDigit (c.toNat % 16) :: rest) = .ok (c.toNat, rest) := by
    simp only [readHex, hhigh, hlow, hzero, hnumber]
  have hunit : readUnit ('0' :: '0' :: Text.hexDigit (c.toNat / 16) ::
      Text.hexDigit (c.toNat % 16) :: rest) = .ok (c, rest) := by
    simp only [readUnit, hread]
    rw [if_neg (by omega), if_pos (by omega), Char.ofNat_toNat]
  rw [readEscape, if_pos rfl, hunit]

/-- **How a character is written**: by an escape of one letter, by its number if it is another
control character, and else as it is. -/
lemma writeChar_cases (c : Char) :
    (∃ e, writeChar c = ['\\', e] ∧ e ≠ 'u' ∧ shortEscape? e = some c) ∨
    (c.toNat < 0x20 ∧ writeChar c = ['\\', 'u', '0', '0', Text.hexDigit (c.toNat / 16),
      Text.hexDigit (c.toNat % 16)]) ∨
    (c ≠ '"' ∧ c ≠ '\\' ∧ ¬ c.toNat < 0x20 ∧ writeChar c = [c]) := by
  rw [writeChar]
  split_ifs with hquote hescape hb hf hn hr ht hcontrol
  case pos | pos | pos | pos | pos | pos | pos =>
    exact .inl ⟨_, rfl, by decide, by subst c; rfl⟩
  case pos => exact .inr (.inl ⟨hcontrol, rfl⟩)
  case neg => exact .inr (.inr ⟨hquote, hescape, hcontrol, rfl⟩)

/-- **A character is read as it is written.** -/
lemma read_writeChar (c : Char) (done rest : List Char) :
    read done (writeChar c ++ rest) = read (c :: done) rest := by
  rcases writeChar_cases c with ⟨e, hwrite, hu, he⟩ | ⟨hcontrol, hwrite⟩ |
    ⟨hquote, hescape, hcontrol, hwrite⟩
  · rw [hwrite]
    exact read_shortEscape hu he done rest
  · rw [hwrite]
    exact read_escape (readEscape_control hcontrol rest)
  · rw [hwrite]
    exact read_plain hquote hescape hcontrol done rest

/-- The characters of a literal behind its opening quote. -/
lemma read_flatMap_writeChar (s done rest : List Char) :
    read done (s.flatMap writeChar ++ '"' :: rest) = .ok (done.reverse ++ s, rest) := by
  induction s generalizing done with
  | nil => rw [List.flatMap_nil, List.nil_append, read_close, List.append_nil]
  | cons c s ih =>
      rw [List.flatMap_cons, List.append_assoc, read_writeChar, ih, List.reverse_cons,
        List.append_assoc, List.singleton_append]

/-- **A text is read as it is written**: behind the opening quote the reader gives the text back and
stops behind the closing one. -/
theorem read_write (s rest : List Char) :
    ∃ t, write s ++ rest = '"' :: t ∧ read [] t = .ok (s, rest) := by
  refine ⟨s.flatMap writeChar ++ '"' :: rest, ?_, read_flatMap_writeChar s [] rest⟩
  simp [write]

end FieldNorm.Json.Quoted
