import FieldNorm.Command.Normalize
import FieldNorm.Proofs.Document.RoundTrip

/-!
Documents that are written can be loaded again.

* `documentsFrom_toJson`: the items of an array of documents, one by one.
* `loadDocuments_of_readBytes`: a file that holds the text of normalized documents.
-/

namespace FieldNorm.Command

variable {w : Workspace} {path text : String} {ds : List Document}

/-- A file that holds the bytes of a text is read as that text. -/
lemma readText_of_readBytes (h : w.readBytes path = .ok text.toUTF8) :
    w.readText path = .ok text := by
  have htext : String.fromUTF8? text.toUTF8 = some text := by
    rw [String.toUTF8_eq_toByteArray, String.fromUTF8?, dif_pos text.isValidUTF8]
    rfl
  simp only [Workspace.readText, h, htext]

/-- Every item is read back as its document. -/
lemma documentsFrom_toJson (index : Nat) (ds : List Document) :
    documentsFrom index (ds.map Document.toJson) = .ok (ds.map Document.narrowed) := by
  induction ds generalizing index with
  | nil => rfl
  | cons d ds ih => simp only [List.map_cons, documentsFrom, Document.ofJson_toJson, ih]

lemma parse_outputText (h : ∀ d ∈ ds, d.FloatFree) :
    Json.parse (outputText ds) = .ok (.array (ds.map Document.toJson)) := by
  have hfits : Json.Fits Json.maxDepth (.array (ds.map Document.toJson)) := by
    refine .array fun j hj => ?_
    obtain ⟨d, hd, rfl⟩ := List.mem_map.mp hj
    exact Document.fits_toJson (h d hd) _
  have htext : outputText ds =
      String.ofList ((Json.array (ds.map Document.toJson)).pretty ++ ['\n']) := by
    rw [outputText, Document.prettyList, String.ofList_append]
  rw [htext]
  exact Json.parse_pretty hfits (by simp [Json.AllBlank, Json.isBlank])

/-- **Documents are loaded from the text that was written for them.** -/
lemma documentsOfText_outputText (path : String) (h : ∀ d ∈ ds, d.FloatFree) :
    documentsOfText path (outputText ds) = .ok (ds.map Document.narrowed) := by
  simp only [documentsOfText, parse_outputText h, documentsFrom_toJson]

/-- **Documents are loaded from the file that was written for them.** -/
lemma loadDocuments_of_readBytes (h : ∀ d ∈ ds, d.FloatFree)
    (hfile : w.readBytes path = .ok (outputText ds).toUTF8) :
    loadDocuments w path = .ok (ds.map Document.narrowed) := by
  simp only [loadDocuments, readText_of_readBytes hfile, documentsOfText_outputText path h]

/-- **Documents without floats survive writing and reading**, with their unsigned integers in the
signed form wherever that has room.

* Both texts of a document give it back through both ways to read one, and no key changes between
  absence, null and the marker.
* A file that holds the text of normalized documents is loaded as these documents. -/
theorem written_documents_reload :
    (∀ d : Document, d.FloatFree →
      (∀ text ∈ [d.compact, d.pretty],
        Document.read text = .ok d.narrowed ∧ Document.readEach text = .ok d.narrowed) ∧
      ∀ key, ∀ state ∈ [Document.FieldState.absent, .null, .nullMarker],
        d.narrowed.state key = state ↔ d.state key = state) ∧
    ∀ ds : List Document, (∀ d ∈ ds, d.FloatFree) → ∀ w path,
      w.readBytes path = .ok (outputText ds).toUTF8 →
        loadDocuments w path = .ok (ds.map Document.narrowed) := by
  refine ⟨fun d hd => ⟨?texts, ?states⟩, fun ds hds w path hfile => ?files⟩
  case texts =>
    intro text htext
    rcases List.mem_pair.mp htext with rfl | rfl
    · exact ⟨Document.read_compact hd, Document.readEach_compact hd⟩
    · exact ⟨Document.read_pretty hd, Document.readEach_pretty hd⟩
  case states =>
    intro key state hstate
    refine Document.state_narrowed_eq_iff d key fun v => ?_
    rintro rfl
    simp at hstate
  case files => exact loadDocuments_of_readBytes hds hfile

/-- A document with all kinds of values but floats. -/
def assorted : Document :=
  .ofList
    [("big", .unsigned 18446744073709551615), ("empty", .null), ("flag", .bool true),
      ("left", .integer (-9223372036854775808)), ("note", .text "null"),
      ("quoted \" key", .text "\\ \x01 \n \x7f 😀"), ("small", .unsigned 9223372036854775807)]

def assortedFile : Workspace where
  entries := .ofList [("out.json", .file (outputText [assorted]).toUTF8)]

/-- Only the number that has room in the signed form comes back in it. -/
theorem written_documents_reload_assorted :
    assorted.FloatFree ∧
    assortedFile.readBytes "out.json" = .ok (outputText [assorted]).toUTF8 ∧
    Document.read assorted.compact = .ok assorted.narrowed ∧
    Document.readEach assorted.pretty = .ok assorted.narrowed ∧
    loadDocuments assortedFile "out.json" = .ok [assorted.narrowed] ∧
    assorted.narrowed.get? "small" = some (.integer 9223372036854775807) ∧
    assorted.narrowed.get? "big" = some (.unsigned 18446744073709551615) ∧
    assorted.narrowed.state "note" = .nullMarker := by
  have hfree : assorted.FloatFree := by decide
  have hfile : assortedFile.readBytes "out.json" = .ok (outputText [assorted]).toUTF8 := by
    rfl
  have htexts := (written_documents_reload.1 assorted hfree).1
  have hnote := (written_documents_reload.1 assorted hfree).2 "note" .nullMarker (by simp)
  have hload := written_documents_reload.2 [assorted] (by simpa using hfree) _ _ hfile
  exact ⟨hfree, hfile, (htexts _ (by simp)).1, (htexts _ (by simp)).2, hload, by decide, by decide,
    hnote.mpr (by decide)⟩

end FieldNorm.Command
