import FieldNorm.Proofs.Command.Reloading
import FieldNorm.Proofs.Document.Refusal

/-!
Which files of documents are loaded, and what is reported of the others.

* `documentsFrom_eq_ok_iff`, `documentsFrom_eq_error_iff`: the items of an array are taken one by
  one, up to the first that is no flat object.
* `loadDocuments_of_parse`: a file of JSON is loaded if it holds an array of flat objects. Otherwise
  the failure names the first item that is none, and what is wrong with it.
-/

namespace FieldNorm.Command

open Document (Counts IsFlat Refused)

variable {w : Workspace} {path text : String} {items : List Json} {ds : List Document}
  {failure : Failure}

/-! ### The items of an array -/

/-- **The items of an array are taken one by one.** -/
lemma documentsFrom_eq_ok_iff (index : ℕ) :
    documentsFrom index items = .ok ds ↔
      List.Forall₂ (fun item d => Document.ofJson item = .ok d) items ds := by
  induction items generalizing index ds with
  | nil => simp [documentsFrom, eq_comm]
  | cons item items ih =>
      rw [documentsFrom, List.forall₂_cons_left_iff]
      cases hitem : Document.ofJson item with
      | error e => simp
      | ok d =>
          simp only [Except.ok.injEq, exists_and_left, exists_eq_left', ← ih (index + 1)]
          cases documentsFrom (index + 1) items <;> simp [eq_comm]

/-- An array is taken if all its items are flat. -/
lemma exists_documentsFrom_iff (index : ℕ) :
    (∃ ds, documentsFrom index items = .ok ds) ↔ ∀ item ∈ items, IsFlat item := by
  induction items generalizing index with
  | nil => simp [documentsFrom]
  | cons item items ih =>
      rw [List.forall_mem_cons, ← ih (index + 1), ← Document.exists_ofJson_iff]
      simp only [documentsFrom_eq_ok_iff, List.forall₂_cons_left_iff]
      constructor
      · rintro ⟨-, d, ds, hd, hds, -⟩
        exact ⟨⟨d, hd⟩, ds, hds⟩
      · rintro ⟨⟨d, hd⟩, ds, hds⟩
        exact ⟨d :: ds, d, ds, hd, hds, rfl⟩

/-- **The items are taken up to the first one that is not flat.** -/
lemma documentsFrom_eq_error_iff (index : ℕ) :
    documentsFrom index items = .error failure ↔
      ∃ before item after, items = before ++ item :: after ∧ (∀ x ∈ before, IsFlat x) ∧
        ∃ e, Document.ofJson item = .error e ∧
          failure = ⟨some (.takeDocument (index + before.length)), .document e⟩ := by
  induction items generalizing index with
  | nil => simp [documentsFrom]
  | cons item items ih =>
      rw [exists_first_cons_iff (q := fun n item => ∃ e, Document.ofJson item = .error e ∧
        failure = ⟨some (.takeDocument (index + n)), .document e⟩), ← Document.exists_ofJson_iff]
      simp only [← Nat.add_assoc, Nat.add_right_comm index _ 1, ← ih (index + 1)]
      rw [documentsFrom]
      cases Document.ofJson item with
      | error e => simp [eq_comm]
      | ok d => cases documentsFrom (index + 1) items <;> simp

/-! ### Files -/

/-- **What is loaded from a file that holds JSON.**

* It is loaded exactly if it holds an array of flat objects: of several members of one name only the
  last one must be a scalar.
* Then there is one document for each item, which has under each name the value of the member that
  counts.
* If it holds another array, the failure has the place of the first item that is no flat object, and
  tells its kind if it is no object; otherwise the kind of the member with the least name, among
  those that count and are no scalars.
* If it holds no array, the failure says so. -/
theorem loadDocuments_of_parse {j : Json} (hfile : w.readText path = .ok text)
    (hparse : Json.parse text = .ok j) :
    ((∃ ds, loadDocuments w path = .ok ds) ↔
      ∃ items, j = .array items ∧ ∀ item ∈ items, IsFlat item) ∧
    (∀ ds, loadDocuments w path = .ok ds → ∃ items, j = .array items ∧
      List.Forall₂ (fun item d => ∃ members, item = .object members ∧ ∀ key v,
        d.get? key = some v ↔ ∃ a, Counts members key a ∧ Value.ofJson a = .ok v) items ds) ∧
    (∀ items, j = .array items → (¬ ∀ item ∈ items, IsFlat item) →
      ∃ before item after e, items = before ++ item :: after ∧ (∀ x ∈ before, IsFlat x) ∧
        ¬ IsFlat item ∧ Refused item e ∧
        loadDocuments w path = .error ⟨some (.takeDocument before.length), .document e⟩) ∧
    (j.kind ≠ .array → loadDocuments w path = .error ⟨none, .noArray path⟩) := by
  cases j with
  | null | bool b | number n | string s | object members =>
      have hload : loadDocuments w path = .error ⟨none, .noArray path⟩ := by
        simp only [loadDocuments, hfile, documentsOfText, hparse]
      simp [hload]
  | array items =>
      have hload : loadDocuments w path = documentsFrom 0 items := by
        simp only [loadDocuments, hfile, documentsOfText, hparse]
      rw [hload]
      refine ⟨?accepted, ?documents, ?refused, fun hkind => absurd rfl hkind⟩
      case accepted => simp [exists_documentsFrom_iff]
      case documents =>
        intro ds hds
        refine ⟨items, rfl, ((documentsFrom_eq_ok_iff 0).mp hds).imp fun item d hd => ?_⟩
        obtain ⟨members, rfl, -⟩ := Document.exists_ofJson_iff.mp ⟨d, hd⟩
        exact ⟨members, rfl, fun key v => Document.get?_of_ofJson hd⟩
      case refused =>
        rintro _ ⟨⟩ hnone
        rw [← exists_documentsFrom_iff 0] at hnone
        cases hfailure : documentsFrom 0 items with
        | ok ds => exact absurd ⟨ds, hfailure⟩ hnone
        | error failure =>
            obtain ⟨before, item, after, rfl, hbefore, e, hitem, rfl⟩ :=
              (documentsFrom_eq_error_iff 0).mp hfailure
            have hflat : ¬ IsFlat item := by
              rw [← Document.exists_ofJson_iff, hitem]
              rintro ⟨d, hd⟩
              cases hd
            rw [Nat.zero_add]
            exact ⟨before, item, after, e, rfl, hbefore, hflat,
              Document.ofJson_eq_error_iff.mp hitem, rfl⟩

/-- A flat object, in which the array is replaced by a later member. -/
def labelled : Json := .object [("note", .array [.null]), ("id", .null), ("note", .string "spare")]

/-- An object with an array and with an object, the name of which is less. -/
def tangled : Json :=
  .object [("room", .array []), ("bay", .null), ("bay", .object []), ("id", .bool true)]

lemma fits_labelled : Json.Fits (Json.maxDepth - 1) labelled := by
  have hnulls : Json.Fits (Json.maxDepth - 2) (.array [.null]) :=
    .array (by simp [Json.Fits.atom, Json.Atomic.null])
  refine .object ?_
  simp only [List.forall_mem_cons]
  exact ⟨hnulls, .atom .null, .atom (.string _), List.forall_mem_nil _⟩

lemma fits_tangled : Json.Fits (Json.maxDepth - 1) tangled := by
  have hempty : Json.Fits (Json.maxDepth - 2) (.array []) := .array (List.forall_mem_nil _)
  have hempty' : Json.Fits (Json.maxDepth - 2) (.object []) := .object (List.forall_mem_nil _)
  refine .object ?_
  simp only [List.forall_mem_cons]
  exact ⟨hempty, .atom .null, hempty', .atom (.bool _), List.forall_mem_nil _⟩

/-- The array counts for nothing. -/
lemma isFlat_labelled : IsFlat labelled :=
  Document.exists_ofJson_iff.mp ⟨.ofList [("id", .null), ("note", .text "spare")], rfl⟩

lemma counts_labelled {members : List (String × Json)} (h : labelled = .object members) :
    Counts members "note" (.string "spare") := by
  cases h
  exact ⟨[("note", .array [.null]), ("id", .null)], [], rfl, List.not_mem_nil⟩

/-- Of the array and the object the latter is reported. -/
lemma ofJson_tangled : Document.ofJson tangled = .error (.unsupportedValue .object) := rfl

lemma not_isFlat_tangled : ¬ IsFlat tangled := by
  rw [← Document.exists_ofJson_iff, ofJson_tangled]
  rintro ⟨d, hd⟩
  cases hd

def labelledText : String := String.ofList (Json.array [labelled]).compact

def tangledText : String := String.ofList (Json.array [labelled, tangled]).compact

lemma parse_labelledText : Json.parse labelledText = .ok (.array [labelled]) :=
  Json.parse_compact (.array (List.forall_mem_singleton.mpr fits_labelled))

lemma parse_tangledText : Json.parse tangledText = .ok (.array [labelled, tangled]) := by
  refine Json.parse_compact (.array ?_)
  rw [List.forall_mem_cons, List.forall_mem_singleton]
  exact ⟨fits_labelled, fits_tangled⟩

/-- If the first of two items is flat, the first one that is not flat is the second. -/
lemma eq_of_isFlat_first {first second item : Json} {before after : List Json}
    (hsplit : [first, second] = before ++ item :: after) (hfirst : IsFlat first)
    (hitem : ¬ IsFlat item) : before = [first] ∧ item = second := by
  rcases before with _ | ⟨x, _ | ⟨y, before⟩⟩
  case nil =>
    obtain ⟨rfl, -⟩ := List.cons.inj hsplit
    exact absurd hfirst hitem
  case cons.nil =>
    obtain ⟨rfl, hrest⟩ := List.cons.inj hsplit
    exact ⟨rfl, (List.cons.inj hrest).1.symm⟩
  case cons.cons => simp at hsplit

def shelves : Workspace where
  entries := .ofList [("labelled.json", .file labelledText.toUTF8),
    ("tangled.json", .file tangledText.toUTF8)]

/-- What is replaced does no harm, and of two members the one with the lesser name is reported. -/
theorem loadDocuments_of_parse_shelves :
    shelves.readText "labelled.json" = .ok labelledText ∧
    Json.parse labelledText = .ok (.array [labelled]) ∧
    shelves.readText "tangled.json" = .ok tangledText ∧
    Json.parse tangledText = .ok (.array [labelled, tangled]) ∧
    (∃ d, loadDocuments shelves "labelled.json" = .ok [d] ∧
      d.get? "note" = some (.text "spare")) ∧
    loadDocuments shelves "tangled.json" =
      .error ⟨some (.takeDocument 1), .document (.unsupportedValue .object)⟩ := by
  have hlabelled : shelves.readText "labelled.json" = .ok labelledText :=
    readText_of_readBytes rfl
  have htangled : shelves.readText "tangled.json" = .ok tangledText :=
    readText_of_readBytes rfl
  refine ⟨hlabelled, parse_labelledText, htangled, parse_tangledText, ?accepted, ?refused⟩
  case accepted =>
    obtain ⟨haccepted, hdocuments, -⟩ := loadDocuments_of_parse hlabelled parse_labelledText
    obtain ⟨ds, hds⟩ := haccepted.mpr ⟨_, rfl, List.forall_mem_singleton.mpr isFlat_labelled⟩
    obtain ⟨_, ⟨⟩, hall⟩ := hdocuments ds hds
    obtain ⟨d, _, ⟨members, hmembers, hd⟩, hnil, rfl⟩ := List.forall₂_cons_left_iff.mp hall
    obtain rfl := List.forall₂_nil_left_iff.mp hnil
    exact ⟨d, hds, (hd _ _).mpr ⟨_, counts_labelled hmembers, rfl⟩⟩
  case refused =>
    obtain ⟨-, -, hfailure, -⟩ := loadDocuments_of_parse htangled parse_tangledText
    obtain ⟨before, item, after, e, hsplit, -, hitem, he, hload⟩ :=
      hfailure _ rfl fun h => not_isFlat_tangled (h tangled (List.mem_pair.mpr (.inr rfl)))
    obtain ⟨rfl, rfl⟩ := eq_of_isFlat_first hsplit isFlat_labelled hitem
    cases (Document.ofJson_eq_error_iff.mpr he).symm.trans ofJson_tangled
    exact hload

end FieldNorm.Command
