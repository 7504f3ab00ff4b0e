import FieldNorm.Proofs.Document.Members
import FieldNorm.Proofs.Text.ByteOrder

/-!
Which JSON is a document, and what is wrong with any other.

* `FieldMap.get?_of_tryMap`, `FieldMap.tryMap_eq_error_iff`: a map is converted datum by datum, and
  if that fails it does so at the least key whose datum cannot be converted.
* `Document.Counts`: which of several members with one name counts, the last one. Only members that
  count make a difference (`Document.get?_ofList_eq_some_iff`).
* `Document.exists_ofJson_iff`, `Document.get?_of_ofJson`: flat objects are documents, with the
  values of the members that count.
* `Document.ofJson_eq_error_iff`: what is reported of anything else, `Document.Refused`.
-/

namespace FieldNorm

/-- The first item of a list that does not fulfil `p` is its head or the first one of its tail. -/
lemma exists_first_cons_iff {α : Type} {p : α → Prop} {q : ℕ → α → Prop} {x : α} {l : List α} :
    (∃ before y after, x :: l = before ++ y :: after ∧ (∀ z ∈ before, p z) ∧
        q before.length y) ↔
      q 0 x ∨ p x ∧ ∃ before y after, l = before ++ y :: after ∧ (∀ z ∈ before, p z) ∧
        q (before.length + 1) y := by
  constructor
  · rintro ⟨before, y, after, hsplit, hbefore, hy⟩
    cases before with
    | nil =>
        obtain ⟨rfl, rfl⟩ := List.cons.inj hsplit
        exact .inl hy
    | cons z before =>
        obtain ⟨rfl, rfl⟩ := List.cons.inj hsplit
        rw [List.forall_mem_cons] at hbefore
        exact .inr ⟨hbefore.1, before, y, after, rfl, hbefore.2, hy⟩
  · rintro (hx | ⟨hx, before, y, after, rfl, hbefore, hy⟩)
    · exact ⟨[], x, l, rfl, by simp, hx⟩
    · exact ⟨x :: before, y, after, rfl, List.forall_mem_cons.mpr ⟨hx, hbefore⟩, hy⟩

namespace FieldMap

variable {α β ε : Type} {f : α → Except ε β} {l : List (String × α)} {k : List (String × β)}
  {m : FieldMap α} {n : FieldMap β} {key : String} {b : β} {e : ε}

/-! ### Converting a map -/

/-- What is found has been converted. -/
lemma lookup_of_tryEntries (h : tryEntries f l = .ok k) :
    (l.lookup key).map f = (k.lookup key).map .ok := by
  induction l generalizing k with
  | nil =>
      cases h
      rfl
  | cons entry rest ih =>
      obtain ⟨b, others, hb, hothers, rfl⟩ := tryEntries_cons_eq_ok_iff.mp h
      rw [List.lookup_cons, List.lookup_cons]
      split
      · rw [Option.map_some, Option.map_some, hb]
      · exact ih hothers

/-- **A map is converted datum by datum.** -/
lemma get?_of_tryMap (h : m.tryMap f = .ok n) :
    n.get? key = some b ↔ ∃ a, m.get? key = some a ∧ f a = .ok b := by
  have hfound : (m.get? key).map f = (n.get? key).map .ok :=
    lookup_of_tryEntries (tryMap_eq_ok_iff.mp h)
  rw [← Option.map_eq_some_iff, hfound, Option.map_eq_some_iff]
  simp

/-- A map can be converted if each of its data can. -/
lemma exists_tryMap_iff :
    (∃ n, m.tryMap f = .ok n) ↔ ∀ x ∈ m.entries, ∃ b, f x.2 = .ok b := by
  rw [← exists_tryEntries_iff]
  constructor
  · rintro ⟨n, hn⟩
    exact ⟨n.entries, tryMap_eq_ok_iff.mp hn⟩
  · rintro ⟨k, hk⟩
    exact ⟨⟨k, pairwise_tryEntries hk m.sorted⟩, tryMap_eq_ok_iff.mpr hk⟩

/-- A list is converted up to its first entry that cannot be converted. -/
lemma tryEntries_eq_error_iff :
    tryEntries f l = .error e ↔
      ∃ before x after, l = before ++ x :: after ∧ (∀ y ∈ before, ∃ b, f y.2 = .ok b) ∧
        f x.2 = .error e := by
  induction l with
  | nil => simp [tryEntries]
  | cons entry rest ih =>
      rw [exists_first_cons_iff (q := fun _ (x : String × α) => f x.2 = .error e), ← ih, tryEntries]
      cases f entry.2 <;> cases tryEntries f rest <;> simp

/-- **The error of a map is that of the least key whose datum cannot be converted.** -/
lemma tryMap_eq_error_iff :
    m.tryMap f = .error e ↔
      ∃ key a, m.get? key = some a ∧ f a = .error e ∧
        ∀ other c, m.get? other = some c → (¬ ∃ b, f c = .ok b) → key ≤ other := by
  have hentries : m.tryMap f = .error e ↔ tryEntries f m.entries = .error e := by
    unfold tryMap
    split <;> simp_all
  rw [hentries, tryEntries_eq_error_iff]
  constructor
  · rintro ⟨before, x, after, hsplit, hbefore, hfails⟩
    have hsorted := m.sorted
    rw [hsplit, List.pairwise_append, List.pairwise_cons] at hsorted
    refine ⟨x.1, x.2, get?_eq_some_iff.mpr (by simp [hsplit]), hfails, fun other c hc hnone => ?_⟩
    rw [get?_eq_some_iff, hsplit, List.mem_append, List.mem_cons] at hc
    rcases hc with hc | rfl | hc
    · exact absurd (hbefore _ hc) hnone
    · exact String.le_refl _
    · exact le_of_lt (hsorted.2.1.1 _ hc)
  · rintro ⟨key, a, ha, hfails, hleast⟩
    obtain ⟨before, after, hsplit⟩ := List.append_of_mem (get?_eq_some_iff.mp ha)
    have hsorted := m.sorted
    rw [hsplit, List.pairwise_append] at hsorted
    refine ⟨before, (key, a), after, hsplit, fun y hy => ?_, hfails⟩
    -- what stands in front of the key is less than it
    by_contra hnone
    have hle := hleast y.1 y.2 (get?_eq_some_iff.mpr (by simp [hsplit, hy])) hnone
    exact String.not_lt.mpr hle (hsorted.2.2 y hy (key, a) List.mem_cons_self)

end FieldMap

namespace Json

/-- Anything but an array or an object. -/
def IsScalar (j : Json) : Prop := j.kind ≠ .array ∧ j.kind ≠ .object

instance (j : Json) : Decidable j.IsScalar := inferInstanceAs (Decidable (_ ∧ _))

end Json

/-- **A value cannot be taken from an array or an object**, and the error tells which it is. -/
lemma Value.ofJson_eq_error_iff {j : Json} {kind : Json.Kind} :
    ofJson j = .error kind ↔ ¬ j.IsScalar ∧ kind = j.kind := by
  cases j <;> simp [ofJson, Json.IsScalar, Json.kind, eq_comm]

namespace Document

variable {d : Document} {members : List (String × Json)} {key : String} {a : Json} {v : Value}
  {item : Json} {e : Error}

/-! ### The members that count -/

/-- The member `key` with the value `a` counts: there is none with this name behind it. -/
def Counts (members : List (String × Json)) (key : String) (a : Json) : Prop :=
  ∃ before after, members = before ++ (key, a) :: after ∧ key ∉ after.map (·.1)

/-- **The members that count** are those that are left of an object. -/
lemma get?_ofList_eq_some_iff :
    (FieldMap.ofList members).get? key = some a ↔ Counts members key a := by
  rw [FieldMap.get?_ofList, List.lookup_eq_some_iff]
  have habsent : ∀ after : List (String × Json),
      (∀ x ∈ after, key != x.1) ↔ key ∉ after.map (·.1) := fun after => by
    simp only [bne_iff_ne, List.mem_map, not_exists, not_and, ne_comm, ne_eq]
  constructor
  · rintro ⟨after, before, hsplit, hafter⟩
    rw [habsent] at hafter
    refine ⟨before.reverse, after.reverse, ?_, by rwa [List.map_reverse, List.mem_reverse]⟩
    simpa using congrArg List.reverse hsplit
  · rintro ⟨before, after, rfl, hafter⟩
    refine ⟨after.reverse, before.reverse, by simp, (habsent _).mpr ?_⟩
    rwa [List.map_reverse, List.mem_reverse]

/-- An object, and each of its members that counts is a scalar. -/
def IsFlat (item : Json) : Prop :=
  ∃ members, item = .object members ∧ ∀ key a, Counts members key a → a.IsScalar

/-- What is reported of JSON that is no document. -/
inductive Refused : Json → Error → Prop
  | notAnObject {item : Json} (h : item.kind ≠ .object) : Refused item (.notAnObject item.kind)
  /-- Of the members that count and are no scalars it is the one with the least name, in the order
  of the bytes. -/
  | unsupportedValue {members : List (String × Json)} {key : String} {a : Json}
      (hcounts : Counts members key a) (hnested : ¬ a.IsScalar)
      (hleast : ∀ other b, Counts members other b → ¬ b.IsScalar →
        Text.utf8 key ≤ Text.utf8 other) :
      Refused (.object members) (.unsupportedValue a.kind)

/-- The error of an object is that of its values. -/
lemma ofJson_object_eq_error_iff :
    ofJson (.object members) = .error e ↔
      ∃ kind, (FieldMap.ofList members).tryMap Value.ofJson = .error kind ∧
        e = .unsupportedValue kind := by
  rw [ofJson]
  cases (FieldMap.ofList members).tryMap Value.ofJson <;> simp [eq_comm]

lemma ofJson_object_eq_ok_iff :
    ofJson (.object members) = .ok d ↔
      (FieldMap.ofList members).tryMap Value.ofJson = .ok d := by
  rw [ofJson]
  cases (FieldMap.ofList members).tryMap Value.ofJson <;> simp

/-- **What is refused, and why.** -/
lemma ofJson_eq_error_iff : ofJson item = .error e ↔ Refused item e := by
  constructor
  · intro h
    by_cases hkind : item.kind = .object
    · cases item with
      | null | bool b | number n | string s | array items => cases hkind
      | object members =>
          obtain ⟨kind, hmap, rfl⟩ := ofJson_object_eq_error_iff.mp h
          obtain ⟨key, a, ha, hfails, hleast⟩ := FieldMap.tryMap_eq_error_iff.mp hmap
          obtain ⟨hnested, rfl⟩ := Value.ofJson_eq_error_iff.mp hfails
          refine .unsupportedValue (get?_ofList_eq_some_iff.mp ha) hnested
            fun other b hb hother => ?_
          have hle := hleast other b (get?_ofList_eq_some_iff.mpr hb)
            (Value.exists_ofJson_iff.not.mpr hother)
          exact Text.utf8_le_iff.mpr hle
    · have hnone : ofJson item = .error (.notAnObject item.kind) := by
        cases item <;> first | rfl | exact absurd rfl hkind
      cases h.symm.trans hnone
      exact .notAnObject hkind
  · intro h
    cases h with
    | notAnObject h => cases item <;> first | rfl | exact absurd rfl h
    | @unsupportedValue members key a hcounts hnested hleast =>
        refine ofJson_object_eq_error_iff.mpr ⟨_, FieldMap.tryMap_eq_error_iff.mpr
          ⟨key, a, get?_ofList_eq_some_iff.mpr hcounts,
            Value.ofJson_eq_error_iff.mpr ⟨hnested, rfl⟩, fun other b hb hnone => ?_⟩, rfl⟩
        have hle := hleast other b (get?_ofList_eq_some_iff.mp hb)
          (Value.exists_ofJson_iff.not.mp hnone)
        exact Text.utf8_le_iff.mp hle

/-- **The flat objects are documents.** -/
lemma exists_ofJson_iff : (∃ d, ofJson item = .ok d) ↔ IsFlat item := by
  cases item with
  | null | bool b | number n | string s | array items => simp [ofJson, IsFlat]
  | object members =>
      have hentries : (∃ d, ofJson (.object members) = .ok d) ↔
          ∀ x ∈ (FieldMap.ofList members).entries, x.2.IsScalar := by
        simp only [ofJson_object_eq_ok_iff, FieldMap.exists_tryMap_iff, Value.exists_ofJson_iff]
        rfl
      rw [hentries]
      constructor
      · intro h
        refine ⟨members, rfl, fun key a ha => h (key, a) ?_⟩
        exact FieldMap.get?_eq_some_iff.mp (get?_ofList_eq_some_iff.mpr ha)
      · rintro ⟨_, hmembers, hscalars⟩ x hx
        cases hmembers
        exact hscalars x.1 x.2 (get?_ofList_eq_some_iff.mp (FieldMap.get?_eq_some_iff.mpr hx))

/-- **The values of a document are those of the members that count.** -/
lemma get?_of_ofJson (h : ofJson (.object members) = .ok d) :
    d.get? key = some v ↔ ∃ a, Counts members key a ∧ Value.ofJson a = .ok v := by
  rw [FieldMap.get?_of_tryMap (ofJson_object_eq_ok_iff.mp h)]
  simp only [get?_ofList_eq_some_iff]

end Document

end FieldNorm
