import FieldNorm.Proofs.Document.RoundTrip
import FieldNorm.Proofs.Json.Rereading
import Mathlib.Logic.Function.Iterate

/-!
Documents with floats that are written and read.

* `Value.reread`: what is left of a value. A finite float is the one that a reader makes of its
  digits; there is no text for another float but that of null.
* `Document.reads_rereadJson`: the JSON that the text of a document is read as.
* `Document.read_compact_eq_reread`, `Document.read_pretty_eq_reread`: both texts of a document are
  read as the document with its values reread.
-/

namespace FieldNorm

open Json (LaidOut Spacing maxDepth)

/-! ### Values -/

namespace Value

/-- What is left of a value that is written and read. -/
def reread : Value → Value
  | .float x => if x.isFinite then .float x.reread else .null
  | v => v.narrowed

/-- The JSON that the text of a value is read as. -/
def rereadJson : Value → Json
  | .float x => if x.isFinite then .number (.double x.reread) else .null
  | v => v.toJson

lemma rereadJson_of_not_isFloat {v : Value} (h : ¬ v.isFloat) : v.rereadJson = v.toJson := by
  cases v with
  | float x => exact absurd rfl h
  | null | bool b | integer n | unsigned n | text s => rfl

lemma reread_of_not_isFloat {v : Value} (h : ¬ v.isFloat) : v.reread = v.narrowed := by
  cases v with
  | float x => exact absurd rfl h
  | null | bool b | integer n | unsigned n | text s => rfl

lemma reread_float {x : Double} (h : x.isFinite) : (float x).reread = .float x.reread :=
  if_pos h

/-- However often a finite float is written and read, it is a float. -/
lemma iterate_reread_float {x : Double} (h : x.isFinite) (n : Nat) :
    Value.reread^[n] (float x) = .float (Double.reread^[n] x) := by
  induction n generalizing x with
  | zero => rfl
  | succ n ih =>
      rw [Function.iterate_succ_apply, Function.iterate_succ_apply, reread_float h,
        ih (Double.isFinite_reread h)]

lemma ofJson_rereadJson (v : Value) : ofJson v.rereadJson = .ok v.reread := by
  by_cases hfloat : v.isFloat
  · cases v with
    | float x =>
        rw [rereadJson, reread]
        split_ifs <;> rfl
    | null | bool b | integer n | unsigned n | text s => cases hfloat
  · rw [rereadJson_of_not_isFloat hfloat, reread_of_not_isFloat hfloat]
    exact ofJson_toJson v

/-- **The text of a value is read**, whatever brackets the reader allows. -/
lemma reads_rereadJson (v : Value) (depth : Nat) :
    (Json.Reader.value depth).Reads (Json.atom v.toJson) v.rereadJson := by
  by_cases hfloat : v.isFloat
  · obtain ⟨inner, hvalue⟩ : ∃ inner, Json.Reader.value depth = Json.Reader.valueWith inner := by
      cases depth <;> exact ⟨_, rfl⟩
    rw [hvalue]
    cases v with
    | float x =>
        rw [rereadJson]
        split_ifs with hfinite
        · exact Json.Reader.reads_double hfinite
        · have hnull : Json.atom (float x).toJson = Json.atom .null := if_neg hfinite
          rw [hnull]
          exact Json.Reader.reads_null
    | null | bool b | integer n | unsigned n | text s => cases hfloat
  · rw [rereadJson_of_not_isFloat hfloat]
    exact Json.Reader.value_reads_atom depth (atomic_toJson hfloat)

end Value

/-! ### Documents -/

namespace Document

variable {d : Document} {print : Nat → Json → List Char} {spacing : Nat → Spacing}

/-- The document with what is left of each value that is written and read. -/
def reread (d : Document) : Document := d.map Value.reread

/-- The JSON that the text of a document is read as. -/
def rereadJson (d : Document) : Json := .object (d.entries.map fun x => (x.1, x.2.rereadJson))

/-- The document with one field, which holds a float. -/
def ofFloat (key : String) (x : Double) : Document := .ofList [(key, .float x)]

lemma reread_ofFloat {x : Double} (h : x.isFinite) (key : String) :
    (ofFloat key x).reread = ofFloat key x.reread := by
  have hentries : (ofFloat key x).reread.entries = [(key, (Value.float x).reread)] := rfl
  rw [Value.reread_float h] at hentries
  exact FieldMap.ext hentries

lemma get?_reread (d : Document) (key : String) :
    d.reread.get? key = (d.get? key).map Value.reread :=
  FieldMap.get?_map _ _ _

lemma ofJson_rereadJson (d : Document) : ofJson d.rereadJson = .ok d.reread := by
  have hmap : FieldMap.ofList (d.entries.map fun x => (x.1, x.2.rereadJson)) =
      d.map Value.rereadJson :=
    FieldMap.ofList_entries (d.map Value.rereadJson)
  have htry : (d.map Value.rereadJson).tryMap Value.ofJson = .ok d.reread :=
    FieldMap.tryMap_map fun x _ => Value.ofJson_rereadJson x.2
  simp only [rereadJson, ofJson, hmap, htry]

/-- **What a printer lays out for a document is read**, by a reader that allows one bracket more. -/
lemma reads_rereadJson (hprint : LaidOut print spacing)
    (hvalue : ∀ (v : Value) (depth : Nat), print depth v.toJson = Json.atom v.toJson)
    (d : Document) (depth outer : Nat) :
    (Json.Reader.value (depth + 1)).Reads (print outer d.toJson) d.rereadJson := by
  rw [print_toJson hprint]
  refine Json.Reader.valueWith_reads_object (fun x _ => ?_) (spacing outer)
  rw [hvalue]
  exact x.2.reads_rereadJson depth

lemma reads_pretty (d : Document) (depth outer : Nat) :
    (Json.Reader.value (depth + 1)).Reads (d.toJson.prettyAt outer) d.rereadJson :=
  reads_rereadJson Json.laidOut_prettyAt prettyAt_toJson d depth outer

lemma read_of_parse_rereadJson {text : String} (h : Json.parse text = .ok d.rereadJson) :
    read text = .ok d.reread := by
  simp only [read, h, ofJson_rereadJson]

/-- **The text on one line is always read**, as the document with its values reread. -/
lemma read_compact_eq_reread (d : Document) : read d.compact = .ok d.reread :=
  read_of_parse_rereadJson (Json.Reader.readAll_ofList
    (reads_rereadJson Json.laidOut_compact (fun v _ => compact_toJson v) d _ 0))

/-- **So is the text on several lines.** -/
lemma read_pretty_eq_reread (d : Document) : read d.pretty = .ok d.reread :=
  read_of_parse_rereadJson (Json.Reader.readAll_ofList (d.reads_pretty _ 0))

end Document

end FieldNorm
