import FieldNorm.Json.Reader
import Mathlib.Tactic.Common

/-!
What is known of a value because a reader has given it.

`Reader.Gives r P` says that every value that the reader `r` gives satisfies `P`. There is one
lemma for each way in which readers are put together: `Gives.refine` and `Gives.map` for a value
that is looked at again, `gives_listOf`, `gives_listOfOne` and `gives_listHeaded` for arrays,
`gives_membersOf` for objects, and `gives_shaped` and `gives_valueWith` for the choice between them.
-/

namespace FieldNorm.Json.Reader

variable {α β : Type} {r item : Reader α} {value : String → Reader α} {P : α → Prop}
  {Q : β → Prop} {R : String → α → Prop}

/-- Every value that the reader gives satisfies `P`. -/
def Gives (r : Reader α) (P : α → Prop) : Prop :=
  ∀ s a rest, r.run s = .ok (a, rest) → P a

/-- Nothing is known of the values that any reader gives. -/
lemma gives_true (r : Reader α) : r.Gives fun _ => True := fun _ _ _ _ => trivial

/-- A value that is refined has been given before. -/
lemma Gives.refine {f : α → Except Mismatch β} (h : r.Gives P)
    (hf : ∀ a b, P a → f a = .ok b → Q b) : (r.refine f).Gives Q := by
  intro s b rest hrun
  simp only [Reader.refine] at hrun
  split at hrun
  · cases hrun
  · rename_i a unread ha
    split at hrun <;> cases hrun
    rename_i hb
    exact hf a b (h s a _ ha) hb

lemma Gives.map {f : α → β} (h : r.Gives P) (hf : ∀ a, P a → Q (f a)) : (r.map f).Gives Q :=
  h.refine fun a b ha hb => by
    cases hb
    exact hf a ha

lemma Gives.settled (h : r.Gives P) : r.settled.Gives P := by
  intro s a rest hrun
  simp only [Reader.settled] at hrun
  split at hrun <;> cases hrun
  rename_i ha
  exact h s a rest ha

/-- What is read from a whole text has been given by the reader. -/
lemma Gives.of_readAll (h : r.Gives P) {text : String} {a : α} (hread : r.readAll text = .ok a) :
    P a := by
  simp only [readAll] at hread
  split at hread
  · cases hread
  · rename_i b rest hrun
    split at hread <;> cases hread
    exact h _ _ _ hrun

/-! ### Scalars -/

/-- The words that announce a value are those of null and the truth values. -/
lemma lead_eq_word {word s : List Char} {j : Json} (h : lead s = .word word j) :
    j = .null ∨ ∃ b, j = .bool b := by
  cases s with
  | nil => cases h
  | cons c t =>
      rw [lead] at h
      split_ifs at h <;> cases h
      · exact .inl rfl
      · exact .inr ⟨true, rfl⟩
      · exact .inr ⟨false, rfl⟩

/-- A scalar is null, a truth value, a number that is read as a literal, or a string. -/
lemma scalar_run_cases {s rest : List Char} {j : Json} (h : scalar.run s = .ok (j, rest)) :
    j = .null ∨ (∃ b, j = .bool b) ∨
      (∃ isNegative t n, Numeral.read isNegative t = .ok (n, rest) ∧ j = .number n) ∨
      ∃ text, j = .string text := by
  simp only [scalar] at h
  split at h
  · rename_i hlead
    split at h <;> cases h
    exact (lead_eq_word hlead).imp_right .inl
  · split at h <;> cases h
    rename_i n hread
    exact .inr (.inr (.inl ⟨_, _, n, hread, rfl⟩))
  · split at h <;> cases h
    exact .inr (.inr (.inr ⟨_, rfl⟩))
  · cases h
  · cases h

/-! ### Arrays -/

/-- The first item is given by its reader, and the others by what reads on. -/
lemma forall_mem_of_itemAnd (h : item.Gives P) {s rest : List Char} {as : List α}
    {more : (rest : List Char) → rest.length < s.length → Except Fault (List α × List Char)}
    (hmore : ∀ t ht bs u, more t ht = .ok (bs, u) → ∀ b ∈ bs, P b)
    (hitems : itemAnd item s more = .ok (as, rest)) : ∀ a ∈ as, P a := by
  unfold itemAnd at hitems
  split at hitems
  · cases hitems
  · rename_i a unread ha
    split at hitems <;> cases hitems
    rename_i bs hbs
    exact List.forall_mem_cons.mpr ⟨h s a unread ha, hmore _ _ _ _ hbs⟩

/-- Every item behind the first one is given by its reader. -/
lemma forall_mem_of_moreItems (h : item.Gives P) (s : List Char) :
    ∀ {as : List α} {rest : List Char}, moreItems item s = .ok (as, rest) → ∀ a ∈ as, P a := by
  -- on the length of the text, as the items are read
  induction hn : s.length using Nat.strongRecOn generalizing s with
  | ind n ih =>
    intro as rest hitems
    subst hn
    have hblanks := length_skipBlanks_le s
    unfold moreItems at hitems
    split at hitems
    · cases hitems
    · rename_i c t hs
      rw [hs, List.length_cons] at hblanks
      split at hitems
      · cases hitems
        exact List.forall_mem_nil P
      · split at hitems
        · split at hitems
          · cases hitems
          · rename_i d after ht
            have hafter := length_skipBlanks_le t
            rw [ht] at hafter
            split at hitems
            · cases hitems
            · exact forall_mem_of_itemAnd h
                (fun u hu _ _ => ih u.length (by omega) u rfl) hitems
        · cases hitems

/-- Every item of an array is given by its reader. -/
lemma gives_listOf (h : item.Gives P) : (listOf item).Gives fun as => ∀ a ∈ as, P a := by
  intro s as rest hrun
  simp only [listOf] at hrun
  split at hrun
  · cases hrun
  · split at hrun
    · split at hrun
      · cases hrun
      · split at hrun
        · cases hrun
          exact List.forall_mem_nil P
        · exact forall_mem_of_itemAnd h (fun t _ _ _ => forall_mem_of_moreItems h t) hrun
    · cases hrun

/-- The only item of an array, if there is one, is given by its reader. -/
lemma gives_listOfOne (h : item.Gives P) : (listOfOne item).Gives fun o => ∀ a ∈ o, P a := by
  intro s o rest hrun
  simp only [listOfOne] at hrun
  split at hrun
  · cases hrun
  · split at hrun
    · split at hrun
      · cases hrun
      · split at hrun
        · cases hrun
          rintro _ ⟨⟩
        · split at hrun
          · cases hrun
          · rename_i a unread ha
            split at hrun
            · cases hrun
            · split at hrun
              · cases hrun
                rintro _ ⟨⟩
                exact h _ _ _ ha
              · split at hrun
                · split at hrun <;> cases hrun
                · cases hrun
    · cases hrun

/-- The first item of an array is given by its reader, and the others by theirs. -/
lemma gives_listHeaded {head : Reader β} (hhead : head.Gives Q) (h : item.Gives P) :
    (listHeaded head item).Gives fun o => ∀ x ∈ o, Q x.1 ∧ ∀ a ∈ x.2, P a := by
  intro s o rest hrun
  simp only [listHeaded] at hrun
  split at hrun
  · cases hrun
  · split at hrun
    · split at hrun
      · cases hrun
      · split at hrun
        · cases hrun
          rintro _ ⟨⟩
        · split at hrun
          · cases hrun
          · rename_i b unread hb
            split at hrun <;> cases hrun
            rename_i as hmore
            rintro _ ⟨⟩
            exact ⟨hhead _ _ _ hb, forall_mem_of_moreItems h _ hmore⟩
    · cases hrun

/-! ### Objects -/

/-- The value of a member is given by the reader for its key. -/
lemma of_member (h : ∀ key, (value key).Gives (R key)) {rule : KeyRule} {earlier : List String}
    {s rest : List Char} {m : String × α} (hmember : member rule value earlier s = .ok (m, rest)) :
    R m.1 m.2 := by
  unfold member at hmember
  split at hmember
  · cases hmember
  · split at hmember
    · cases hmember
    · split at hmember
      · split at hmember
        · cases hmember
        · dsimp only at hmember
          split at hmember
          · cases hmember
          · split at hmember
            · cases hmember
            · split at hmember
              · split at hmember <;> cases hmember
                rename_i hvalue
                exact h _ _ _ _ hvalue
              · cases hmember
      · cases hmember

/-- Every member behind the first one is given by the reader for its key. -/
lemma forall_mem_of_moreMembers (h : ∀ key, (value key).Gives (R key)) {rule : KeyRule}
    (s : List Char) : ∀ {earlier : List String} {ms : List (String × α)} {rest : List Char},
      moreMembers rule value earlier s = .ok (ms, rest) → ∀ m ∈ ms, R m.1 m.2 := by
  induction hn : s.length using Nat.strongRecOn generalizing s with
  | ind n ih =>
    intro earlier ms rest hmembers
    subst hn
    have hblanks := length_skipBlanks_le s
    unfold moreMembers at hmembers
    split at hmembers
    · cases hmembers
    · rename_i c t hs
      rw [hs, List.length_cons] at hblanks
      have hafter := length_skipBlanks_le t
      split at hmembers
      · cases hmembers
        exact List.forall_mem_nil _
      · split at hmembers
        · split at hmembers
          · cases hmembers
          · rename_i m after hm
            have hlength := length_lt_of_member hm
            split at hmembers <;> cases hmembers
            rename_i hmore
            exact List.forall_mem_cons.mpr
              ⟨of_member h hm, ih _ (by omega) _ rfl hmore⟩
        · cases hmembers

/-- Every member of an object is given by the reader for its key. -/
lemma gives_membersOf (h : ∀ key, (value key).Gives (R key)) (rule : KeyRule) :
    (membersOf rule value).Gives fun ms => ∀ m ∈ ms, R m.1 m.2 := by
  intro s ms rest hrun
  simp only [membersOf] at hrun
  split at hrun
  · cases hrun
  · split at hrun
    · split at hrun
      · cases hrun
      · split at hrun
        · cases hrun
          exact List.forall_mem_nil _
        · split at hrun
          · cases hrun
          · rename_i m after hm
            split at hrun <;> cases hrun
            rename_i hmore
            exact List.forall_mem_cons.mpr
              ⟨of_member h hm, forall_mem_of_moreMembers h _ hmore⟩
    · cases hrun

/-! ### Shapes -/

/-- A value of an expected shape is given by the reader for that shape. -/
lemma gives_shaped {expected : String} {array object : Option (Reader α)}
    (harray : ∀ r ∈ array, r.Gives P) (hobject : ∀ r ∈ object, r.Gives P) :
    (shaped expected array object).Gives P := by
  intro s a rest hrun
  simp only [shaped] at hrun
  split at hrun
  · cases hrun
  · exact harray _ rfl _ _ _ hrun
  · exact hobject _ rfl _ _ _ hrun
  · cases hrun

/-- A value is a scalar, an array or an object, of which what stands inside the brackets is given
by the inner reader. -/
lemma gives_valueWith {P : Json → Prop} {inner : Option (Reader Json)} (hscalar : scalar.Gives P)
    (harray : ∀ r ∈ inner, ((listOf r).map Json.array).Gives P)
    (hobject : ∀ r ∈ inner, ((membersOf anyKey fun _ => r).map Json.object).Gives P) :
    (valueWith inner).Gives P := by
  intro s j rest hrun
  simp only [valueWith] at hrun
  split at hrun
  · exact harray _ rfl _ _ _ hrun
  · exact hobject _ rfl _ _ _ hrun
  · cases hrun
  · cases hrun
  · exact hscalar _ _ _ hrun

end FieldNorm.Json.Reader
