import FieldNorm.Pipeline.Basic
import FieldNorm.Proofs.Document.Members
import FieldNorm.Proofs.Text.ByteOrder

/-!
Documents however they were made: by any operations, one after the other, also by some that fail.

* `Document.Operation`, `Document.after`: the operations, and the document that a list of them
  leaves.
* `Document.pairwise_utf8_keys`: the keys are listed in the order of their bytes in UTF-8.
* `Document.sorted_and_determined_by_lookups`: so a document is the sorted list of what is found in
  it, and its texts depend on nothing else.
-/

namespace FieldNorm.Document

variable {d : Document}

/-! ### Operations -/

/-- What can be done to a document. -/
inductive Operation
  /-- Starts anew, without any field. -/
  | empty
  /-- Starts anew with the document of a text. -/
  | read (text : String)
  /-- Starts anew with the document of a list of pairs. -/
  | ofList (pairs : List (String × Value))
  | insert (key : String) (value : Value)
  | erase (key : String)
  /-- Changes the value under a key in its place. -/
  | modify (key : String) (change : Value → Value)
  | replaceNull (key : String) (value : Value)
  | fillMissing (key : String) (value : Value)
  | stampSchema (version : Option Value)
  | apply (p : Pipeline)

/-- The document behind an operation. One that fails leaves the document as it was, but for a
pipeline, which leaves what the rules in front of the one that fails have made. -/
def Operation.run (d : Document) : Operation → Document
  | .empty => .empty
  | .read text =>
    match Document.read text with
    | .ok other => other
    | .error _ => d
  | .ofList pairs => .ofList pairs
  | .insert key value => d.insert key value
  | .erase key => d.erase key
  | .modify key change =>
    match d.get? key with
    | some value => d.insert key (change value)
    | none => d
  | .replaceNull key value =>
    match d.replaceNull key value with
    | .ok (replaced, _) => replaced
    | .error _ => d
  | .fillMissing key value => (d.fillMissing key value).1
  | .stampSchema version => (d.stampSchema version).1
  | .apply p => (p.apply d).document

/-- The document that operations leave, from one without fields on. -/
def after (operations : List Operation) : Document :=
  operations.foldl (fun d operation => operation.run d) .empty

/-! ### The keys -/

/-- **The keys are listed in the order of their bytes.** -/
lemma pairwise_utf8_keys (d : Document) : (d.keys.map Text.utf8).Pairwise (· < ·) := by
  rw [List.pairwise_map]
  exact d.pairwise_keys.imp Text.utf8_lt_iff.mpr

/-- **A document has the texts of any other in which the same is found.** -/
lemma texts_eq_of_get?_eq {e : Document} (h : ∀ key, d.get? key = e.get? key) :
    d.compact = e.compact ∧ d.pretty = e.pretty := by
  obtain rfl := FieldMap.ext_get? h
  exact ⟨rfl, rfl⟩

/-! ### Any operations -/

/-- **Documents are sorted maps, and what is found in them determines their texts.**

* Behind any operations the keys are listed in strictly increasing order of their bytes in UTF-8,
  each once; the fields are listed in the same order, and those are listed that are found; the size
  is the number of the keys.
* Two documents in which the same is found under every key have the same texts, whatever operations
  have led to them.
* The texts of objects with members are those that are made of texts of members, in their order.
* To reorder the members of an object with different names does not change the document that is
  read or the refusal of it.
* Nor does it to leave out a member that is followed by one of the same name. -/
theorem sorted_and_determined_by_lookups (operations others : List Operation) :
    (((after operations).keys.map Text.utf8).Pairwise (· < ·) ∧
      (after operations).keys.Nodup ∧
      (after operations).entries.map (·.1) = (after operations).keys ∧
      (∀ key, key ∈ (after operations).keys ↔ (after operations).contains key) ∧
      (∀ key v, (key, v) ∈ (after operations).entries ↔ (after operations).get? key = some v) ∧
      (after operations).size = (after operations).keys.length) ∧
    ((∀ key, (after operations).get? key = (after others).get? key) →
      (after operations).compact = (after others).compact ∧
        (after operations).pretty = (after others).pretty) ∧
    (∀ (text : String) (members : List (String × Json)), members ≠ [] →
      (Json.parse text = .ok (.object members) ↔
        ∃ ms, MadeOf text ms ∧ ms.map (·.entry) = members)) ∧
    (∀ (ms ms' : List MemberText) (text text' : String), MadeOf text ms → MadeOf text' ms' →
      ms.Perm ms' → (ms.map (·.name)).Nodup → read text = read text') ∧
    ∀ (front back : List MemberText) (m : MemberText) (text text' : String),
      MadeOf text (front ++ m :: back) → MadeOf text' (front ++ back) →
        m.name ∈ back.map (·.name) → read text = read text' := by
  refine ⟨⟨pairwise_utf8_keys _, FieldMap.nodup_keys _, rfl, fun key => FieldMap.mem_keys_iff,
    fun key v => FieldMap.get?_eq_some_iff.symm, (List.length_map _).symm⟩, texts_eq_of_get?_eq,
    fun text members hmembers => ⟨fun h => exists_madeOf h hmembers, ?_⟩,
    fun ms ms' text text' => MadeOf.read_eq_of_perm,
    fun front back m text text' => MadeOf.read_eq_of_append_cons⟩
  rintro ⟨ms, hmade, rfl⟩
  exact hmade.parse_eq

/-- A document that is read from a text with a member twice; the second operation fails. -/
def reading : List Operation :=
  [.read "\x7b\"\u00e9\": 1, \"z\": null, \"\\u00e9\": true\x7d", .read "[]",
    .modify "z" fun _ => .text "null",
    .apply ⟨[.replaceNull "z" (.integer 2), .replaceNull "absent" .null, .fillMissing "a" .null]⟩]

/-- The same document, but put together in another order. -/
def assembling : List Operation :=
  [.insert "lost" .null, .empty, .insert "\u00e9" .null, .insert "z" (.integer 2),
    .modify "\u00e9" fun _ => .bool true, .erase "absent"]

/-- The members of an object that is written on several lines. -/
def spaced : List (String × Json) := [("b", .null), ("a", .bool true)]

def spacedText : String := String.ofList ((Json.object spaced).pretty ++ ['\n'])

lemma fits_null : Json.Fits (Json.maxDepth - 1) .null := .atom .null

def latterMember : MemberText := .printed "a" (.bool true) (.atom (.bool true))

def otherMember : MemberText := .printed "b" .null fits_null

/-- A member that the latter one replaces. -/
def formerMember : MemberText := .printed "a" .null fits_null

/-- The two documents are one, and so are the documents of two members in either order, and of the
first one behind one that it replaces. -/
theorem sorted_and_determined_by_lookups_assembling :
    ((after reading).keys = ["z", "\u00e9"] ∧
      (after reading).compact = (after assembling).compact ∧
        (after reading).pretty = (after assembling).pretty) ∧
    (∃ ms, MadeOf spacedText ms ∧ ms.map (·.entry) = spaced) ∧
    ∃ m n o : MemberText, (m.entry, n.entry, o.entry) =
        (("a", Json.bool true), ("b", Json.null), ("a", Json.null)) ∧
      ∃ text text' text'' : String, MadeOf text [m, n] ∧ MadeOf text' [n, m] ∧
        MadeOf text'' [o, n, m] ∧ read text = read text' ∧ read text'' = read text' := by
  have hsame : after reading = after assembling := by decide +kernel
  have hparse : Json.parse spacedText = .ok (.object spaced) :=
    Json.parse_pretty (.object (by simpa [spaced] using ⟨.atom .null, .atom (.bool true)⟩))
      (Json.Spacing.allBlank_newline 0)
  obtain ⟨-, htexts, hmade, horder, hlast⟩ := sorted_and_determined_by_lookups reading assembling
  have hforward : MadeOf _ [latterMember, otherMember] := madeOf_objectText _
  have hbackward : MadeOf _ [otherMember, latterMember] := madeOf_objectText _
  have hrepeated : MadeOf _ [formerMember, otherMember, latterMember] := madeOf_objectText _
  have hnames : ([latterMember, otherMember].map (·.name)).Nodup := by decide
  have hname : formerMember.name ∈ [otherMember, latterMember].map (·.name) := by decide
  exact ⟨⟨by decide +kernel, htexts fun key => by rw [hsame]⟩,
    (hmade _ _ (List.cons_ne_nil _ _)).mp hparse, latterMember, otherMember, formerMember, rfl,
    _, _, _, hforward, hbackward, hrepeated,
    horder _ _ _ _ hforward hbackward (List.Perm.swap _ _ _) hnames,
    hlast [] _ formerMember _ _ hrepeated hbackward hname⟩

end FieldNorm.Document
