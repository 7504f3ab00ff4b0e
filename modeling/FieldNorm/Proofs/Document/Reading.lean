import FieldNorm.Proofs.Document.Values
import FieldNorm.Proofs.Json.Objects

/-!
The two ways to read a document, on any text.

* `Document.read_eq_ok_iff`, `Document.readEach_eq_ok_iff`: both read the same members. The one
  takes, of several members with one name, the last and then looks at what is left; the other looks
  at every member first.
* `Document.readEach_against_read`: so they give the same document, and the other refuses a text
  that the one reads only for an array or an object in some member, be it one that a later member
  replaces.
-/

namespace FieldNorm.Document

open FieldMap (tryEntries exists_tryEntries_iff tryEntries_mono tryMap_ofList)
open Json.Reader

variable {d : Document} {text : String} {members : List (String × Json)}

/-! ### What is read -/

/-- A text is read as a document if it is an object and what is left of its members are scalars. -/
lemma read_eq_ok_iff :
    read text = .ok d ↔ ∃ members, Json.parse text = .ok (.object members) ∧
      (FieldMap.ofList members).tryMap Value.ofJson = .ok d := by
  rw [read]
  cases Json.parse text with
  | error e => simp
  | ok j =>
      cases j with
      | null | bool b | number n | string s | array items => simp [ofJson]
      | object members =>
          cases h : (FieldMap.ofList members).tryMap Value.ofJson <;> simp [ofJson, h]

/-- Whole texts are read as objects where any value may stand. -/
lemma parse_eq_object_iff :
    Json.parse text = .ok (.object members) ↔
      ∃ rest, (lead (Json.skipBlanks text.toList) = .brace ∧
        (membersOf anyKey fun _ => Json.Reader.value (Json.maxDepth - 1)).run
          (Json.skipBlanks text.toList) = .ok (members, rest)) ∧ Json.skipBlanks rest = [] := by
  rw [Json.parse, readAll_eq_ok_iff]
  exact exists_congr fun rest => and_congr_left fun _ => value_run_eq_object_iff

/-- **A text is read member by member** if it is an object and all its members are scalars. -/
lemma readEach_eq_ok_iff :
    readEach text = .ok d ↔ ∃ members, Json.parse text = .ok (.object members) ∧
      ∃ entries, tryEntries Value.ofJsonField members = .ok entries ∧
        FieldMap.ofList entries = d := by
  simp only [readEach, readAll_eq_ok_iff, reader, shaped_object_run_eq_ok_iff, map,
    refine_run_eq_ok_iff, membersOf_refine_eq_ok_iff, parse_eq_object_iff, Except.ok.injEq]
  constructor
  · rintro ⟨rest, ⟨hlead, entries, ⟨members, hmembers, hentries⟩, hd⟩, hrest⟩
    exact ⟨members, ⟨rest, ⟨hlead, hmembers⟩, hrest⟩, entries, hentries, hd⟩
  · rintro ⟨members, ⟨rest, ⟨hlead, hmembers⟩, hrest⟩, entries, hentries, hd⟩
    exact ⟨rest, ⟨hlead, entries, ⟨members, hmembers, hentries⟩, hd⟩, hrest⟩

/-- What is read member by member is read. -/
lemma read_of_readEach (h : readEach text = .ok d) : read text = .ok d := by
  obtain ⟨members, hparse, entries, hentries, rfl⟩ := readEach_eq_ok_iff.mp h
  have hvalues : tryEntries Value.ofJson members = .ok entries :=
    tryEntries_mono (fun _ _ => Value.ofJson_of_ofJsonField) hentries
  exact read_eq_ok_iff.mpr ⟨members, hparse, tryMap_ofList hvalues⟩

/-- An object is read member by member if each of its members is a scalar. -/
lemma exists_readEach_iff (hparse : Json.parse text = .ok (.object members)) :
    (∃ d, readEach text = .ok d) ↔ ∀ m ∈ members, m.2.kind ≠ .array ∧ m.2.kind ≠ .object := by
  have hscalars : (∃ entries, tryEntries Value.ofJsonField members = .ok entries) ↔
      ∀ m ∈ members, m.2.kind ≠ .array ∧ m.2.kind ≠ .object := by
    rw [exists_tryEntries_iff]
    refine forall₂_congr fun m _ => ?_
    rw [← Value.exists_ofJson_iff]
    exact exists_congr fun v => ⟨Value.ofJson_of_ofJsonField, Value.ofJsonField_of_ofJson⟩
  rw [← hscalars]
  constructor
  · rintro ⟨d, hd⟩
    obtain ⟨members', hparse', entries, hentries, -⟩ := readEach_eq_ok_iff.mp hd
    cases hparse.symm.trans hparse'
    exact ⟨entries, hentries⟩
  · rintro ⟨entries, hentries⟩
    exact ⟨_, readEach_eq_ok_iff.mpr ⟨members, hparse, entries, hentries, rfl⟩⟩

/-! ### The two ways against each other -/

/-- **The two ways to read a document.**

* What is read member by member is read as the same document by the other way.
* Of the texts that are read by the other way, those are read member by member in which no member
  is an array or an object, be it one that a later member replaces; and the document is the same. -/
theorem readEach_against_read (text : String) (d : Document) :
    (readEach text = .ok d → read text = .ok d) ∧
    (read text = .ok d → ∃ members, Json.parse text = .ok (.object members) ∧
      ((∃ e, readEach text = .ok e) ↔
        ∀ m ∈ members, m.2.kind ≠ .array ∧ m.2.kind ≠ .object) ∧
      ∀ e, readEach text = .ok e → e = d) := by
  refine ⟨read_of_readEach, fun hread => ?_⟩
  obtain ⟨members, hparse, -⟩ := read_eq_ok_iff.mp hread
  refine ⟨members, hparse, exists_readEach_iff hparse, fun e he => ?_⟩
  have hsame : read text = .ok e := read_of_readEach he
  exact Except.ok.inj (hsame.symm.trans hread)

/-- A text with two members of one name. -/
def repeating : String := "\x7b\"a\": null, \"b\": 2, \"a\": 3\x7d"

/-- The same, but the member that is replaced holds an array. -/
def shadowing : String := "\x7b\"a\": [1], \"b\": 2, \"a\": 3\x7d"

/-- Only the text whose first member is a scalar is read member by member. -/
theorem readEach_against_read_shadowing :
    readEach repeating = .ok (.ofList [("a", .integer 3), ("b", .integer 2)]) ∧
    read repeating = .ok (.ofList [("a", .integer 3), ("b", .integer 2)]) ∧
    read shadowing = .ok (.ofList [("a", .integer 3), ("b", .integer 2)]) ∧
    (¬ ∃ e, readEach shadowing = .ok e) ∧
    ∃ members, Json.parse shadowing = .ok (.object members) ∧
      ¬ ∀ m ∈ members, m.2.kind ≠ .array ∧ m.2.kind ≠ .object := by
  have heach : readEach repeating = .ok (.ofList [("a", .integer 3), ("b", .integer 2)]) := by
    decide +kernel
  have hread : read shadowing = .ok (.ofList [("a", .integer 3), ("b", .integer 2)]) := by
    decide +kernel
  have hrefused : (readEach shadowing).toOption = none := by decide +kernel
  have hnone : ¬ ∃ e, readEach shadowing = .ok e := by
    rintro ⟨e, he⟩
    rw [he] at hrefused
    cases hrefused
  obtain ⟨members, hparse, hiff, -⟩ := (readEach_against_read shadowing _).2 hread
  exact ⟨heach, (readEach_against_read repeating _).1 heach, hread, hnone, members, hparse,
    fun hscalars => hnone (hiff.mpr hscalars)⟩

end FieldNorm.Document
