/-!
Maps from field names to data, kept as a list in strictly increasing order of the names.
Strings are ordered by code point, which is also the order of their UTF-8 bytes.

The view of a map is `get?`: `get?_insert` and `get?_erase` say what the two writing
operations do to it, and `ext_get?` that it determines the map.
-/

namespace FieldNorm

/-- A finite map from names to data, listed in strictly increasing order of the names. -/
structure FieldMap (α : Type) where
  entries : List (String × α)
  sorted : entries.Pairwise (·.1 < ·.1) := by simp
deriving DecidableEq

namespace FieldMap

variable {α β : Type}

/-! ### Sorted lists of entries -/

/-- Puts `a` under `key`, in the place of the old entry or in front of the first greater one. -/
def insertEntry (key : String) (a : α) : List (String × α) → List (String × α)
  | [] => [(key, a)]
  | entry :: rest =>
    if key < entry.1 then (key, a) :: entry :: rest
    else if key = entry.1 then (key, a) :: rest
    else entry :: insertEntry key a rest

theorem mem_insertEntry {key : String} {a : α} {l : List (String × α)} {x : String × α}
    (h : x ∈ insertEntry key a l) : x = (key, a) ∨ x ∈ l := by
  induction l with
  | nil => simpa [insertEntry] using h
  | cons entry rest ih =>
    rw [insertEntry] at h
    split at h
    · simpa using h
    · split at h
      · grind
      · grind

theorem pairwise_insertEntry (key : String) (a : α) {l : List (String × α)}
    (h : l.Pairwise (·.1 < ·.1)) : (insertEntry key a l).Pairwise (·.1 < ·.1) := by
  induction l with
  | nil => simp [insertEntry]
  | cons entry rest ih =>
    rw [List.pairwise_cons] at h
    rw [insertEntry]
    split
    · rename_i hlt
      refine List.pairwise_cons.2 ⟨fun x hx => ?_, List.pairwise_cons.2 h⟩
      rcases List.mem_cons.1 hx with rfl | hx
      · exact hlt
      · exact String.lt_trans hlt (h.1 x hx)
    · split
      · rename_i heq
        exact List.pairwise_cons.2 ⟨fun x hx => heq ▸ h.1 x hx, h.2⟩
      · rename_i hlt hne
        refine List.pairwise_cons.2 ⟨fun x hx => ?_, ih h.2⟩
        rcases mem_insertEntry hx with rfl | hx
        · grind
        · exact h.1 x hx

theorem lookup_insertEntry (key other : String) (a : α) (l : List (String × α)) :
    (insertEntry key a l).lookup other = if other = key then some a else l.lookup other := by
  induction l with
  | nil => grind [insertEntry]
  | cons entry rest ih =>
    obtain ⟨name, b⟩ := entry
    grind [insertEntry]

/-- Where no key is repeated, what is found is what is listed. -/
theorem lookup_eq_some_iff_of_nodup {key : String} {a : α} {l : List (String × α)}
    (h : (l.map (·.1)).Nodup) : l.lookup key = some a ↔ (key, a) ∈ l := by
  rw [List.lookup_eq_some_iff]
  constructor
  · rintro ⟨front, back, rfl, -⟩
    exact List.mem_append_right _ List.mem_cons_self
  · intro hlisted
    obtain ⟨front, back, rfl⟩ := List.append_of_mem hlisted
    rw [List.map_append, List.nodup_append] at h
    refine ⟨front, back, rfl, fun x hx => bne_iff_ne.2 fun hkey => ?_⟩
    exact h.2.2 x.1 (List.mem_map_of_mem hx) key (by simp) hkey.symm

theorem lookup_filter_ne (key other : String) (l : List (String × α)) :
    (l.filter (·.1 != key)).lookup other = if other = key then none else l.lookup other := by
  induction l with
  | nil => simp
  | cons entry rest ih =>
    obtain ⟨name, b⟩ := entry
    grind

theorem lookup_map (f : α → β) (key : String) (l : List (String × α)) :
    (l.map fun entry => (entry.1, f entry.2)).lookup key = (l.lookup key).map f := by
  induction l with
  | nil => rfl
  | cons entry rest ih =>
    obtain ⟨name, b⟩ := entry
    grind

/-! ### Operations -/

/-- The map without entries. -/
def empty : FieldMap α where
  entries := []

instance : Inhabited (FieldMap α) := ⟨empty⟩

/-- The datum under `key`, if the key is present. -/
def get? (m : FieldMap α) (key : String) : Option α := m.entries.lookup key

def contains (m : FieldMap α) (key : String) : Bool := (m.get? key).isSome

/-- Puts `a` under `key`; an earlier datum there is lost. -/
def insert (m : FieldMap α) (key : String) (a : α) : FieldMap α where
  entries := insertEntry key a m.entries
  sorted := pairwise_insertEntry key a m.sorted

/-- Removes `key` and its datum. -/
def erase (m : FieldMap α) (key : String) : FieldMap α where
  entries := m.entries.filter (·.1 != key)
  sorted := m.sorted.filter _

/-- The map of a list of pairs, in which the last pair with a key counts. -/
def ofList (pairs : List (String × α)) : FieldMap α :=
  pairs.foldl (fun m pair => m.insert pair.1 pair.2) empty

def size (m : FieldMap α) : Nat := m.entries.length

def isEmpty (m : FieldMap α) : Bool := m.entries.isEmpty

/-- The keys in increasing order. -/
def keys (m : FieldMap α) : List String := m.entries.map (·.1)

theorem pairwise_map_snd (f : α → β) {l : List (String × α)} (h : l.Pairwise (·.1 < ·.1)) :
    (l.map fun entry => (entry.1, f entry.2)).Pairwise (·.1 < ·.1) :=
  List.pairwise_map.2 h

/-- Applies `f` to every datum. -/
def map (f : α → β) (m : FieldMap α) : FieldMap β where
  entries := m.entries.map fun entry => (entry.1, f entry.2)
  sorted := pairwise_map_snd f m.sorted

/-- Applies `f` to the data of a list of entries until it fails. -/
def tryEntries {ε : Type} (f : α → Except ε β) :
    List (String × α) → Except ε (List (String × β))
  | [] => .ok []
  | (key, a) :: rest =>
    match f a with
    | .error e => .error e
    | .ok b =>
      match tryEntries f rest with
      | .error e => .error e
      | .ok entries => .ok ((key, b) :: entries)

theorem keys_tryEntries {ε : Type} {f : α → Except ε β} {l : List (String × α)}
    {m : List (String × β)} (h : tryEntries f l = .ok m) : m.map (·.1) = l.map (·.1) := by
  induction l generalizing m with
  | nil => cases h; rfl
  | cons entry rest ih =>
    rw [tryEntries] at h
    split at h
    · cases h
    · split at h <;> cases h
      rename_i h
      simp [ih h]

theorem pairwise_tryEntries {ε : Type} {f : α → Except ε β} {l : List (String × α)}
    {m : List (String × β)} (h : tryEntries f l = .ok m) (hl : l.Pairwise (·.1 < ·.1)) :
    m.Pairwise (·.1 < ·.1) := by
  rw [← List.pairwise_map (f := fun entry : String × β => entry.1), keys_tryEntries h]
  exact List.pairwise_map.2 hl

/-- Applies `f` to the data in the order of the keys until it fails. -/
def tryMap {ε : Type} (f : α → Except ε β) (m : FieldMap α) : Except ε (FieldMap β) :=
  match h : tryEntries f m.entries with
  | .error e => .error e
  | .ok entries => .ok ⟨entries, pairwise_tryEntries h m.sorted⟩

/-! ### The view -/

@[ext] theorem ext {m n : FieldMap α} (h : m.entries = n.entries) : m = n := by
  cases m; cases n; cases h; rfl

/-- The keys increase strictly. -/
theorem pairwise_keys (m : FieldMap α) : m.keys.Pairwise (· < ·) :=
  List.pairwise_map.2 m.sorted

/-- No key is listed twice. -/
theorem nodup_keys (m : FieldMap α) : m.keys.Nodup := m.pairwise_keys.imp String.ne_of_lt

/-- The keys that are listed are those under which something is found. -/
theorem mem_keys_iff {m : FieldMap α} {key : String} : key ∈ m.keys ↔ m.contains key := by
  rw [contains, get?, List.lookup_isSome_iff, keys, List.mem_map]
  constructor
  · rintro ⟨x, hx, rfl⟩
    exact ⟨x, hx, beq_self_eq_true _⟩
  · rintro ⟨x, hx, hkey⟩
    exact ⟨x, hx, (beq_iff_eq.1 hkey).symm⟩

/-- The entries of a map are its keys with their data. -/
theorem get?_eq_some_iff {m : FieldMap α} {key : String} {a : α} :
    m.get? key = some a ↔ (key, a) ∈ m.entries :=
  lookup_eq_some_iff_of_nodup m.nodup_keys

/-- A map is determined by its look-ups. -/
theorem ext_get? {m n : FieldMap α} (h : ∀ key, m.get? key = n.get? key) : m = n := by
  have hnodup : ∀ k : FieldMap α, k.entries.Nodup := fun k =>
    List.Pairwise.of_map (fun x : String × α => x.1)
      (fun x y hkeys hxy => hkeys (congrArg (·.1) hxy)) k.nodup_keys
  have hperm : m.entries.Perm n.entries :=
    (List.perm_ext_iff_of_nodup (hnodup m) (hnodup n)).2 fun x => by
      rw [← get?_eq_some_iff, ← get?_eq_some_iff, h]
  -- two sorted lists with the same entries are one
  exact ext (hperm.eq_of_pairwise (fun x y _ _ hxy hyx => absurd hyx (String.lt_asymm hxy))
    m.sorted n.sorted)

@[simp] theorem get?_empty (key : String) : (empty : FieldMap α).get? key = none := rfl

theorem get?_insert (m : FieldMap α) (key other : String) (a : α) :
    (m.insert key a).get? other = if other = key then some a else m.get? other :=
  lookup_insertEntry key other a m.entries

theorem get?_erase (m : FieldMap α) (key other : String) :
    (m.erase key).get? other = if other = key then none else m.get? other :=
  lookup_filter_ne key other m.entries

theorem get?_map (f : α → β) (m : FieldMap α) (key : String) :
    (m.map f).get? key = (m.get? key).map f :=
  lookup_map f key m.entries

/-! ### The entries of a map -/

theorem insertEntry_of_forall_lt {key : String} (a : α) {l : List (String × α)}
    (h : ∀ x ∈ l, x.1 < key) : insertEntry key a l = l ++ [(key, a)] := by
  induction l with
  | nil => rfl
  | cons entry rest ih =>
    rw [List.forall_mem_cons] at h
    have hlt : ¬ key < entry.1 := String.lt_asymm h.1
    have hne : key ≠ entry.1 := (String.ne_of_lt h.1).symm
    rw [insertEntry, if_neg hlt, if_neg hne, ih h.2, List.cons_append]

/-- Entries in increasing order, all of them behind those of the map, are put at its end. -/
theorem entries_foldl_insert (m : FieldMap α) {l : List (String × α)}
    (h : (m.entries ++ l).Pairwise (·.1 < ·.1)) :
    (l.foldl (fun m pair => m.insert pair.1 pair.2) m).entries = m.entries ++ l := by
  induction l generalizing m with
  | nil => rw [List.append_nil, List.foldl_nil]
  | cons entry rest ih =>
    have hinsert : (m.insert entry.1 entry.2).entries = m.entries ++ [entry] :=
      insertEntry_of_forall_lt entry.2 fun x hx =>
        (List.pairwise_append.1 h).2.2 x hx entry List.mem_cons_self
    have hstep := ih (m.insert entry.1 entry.2) (by simpa [hinsert] using h)
    rw [List.foldl_cons, hstep, hinsert, List.append_assoc, List.singleton_append]

/-- The map of the entries of a map is that map. -/
theorem ofList_entries (m : FieldMap α) : ofList m.entries = m :=
  ext (entries_foldl_insert empty m.sorted)

/-- Every entry of the map of a list of pairs is one of the pairs. -/
theorem mem_of_mem_ofList {pairs : List (String × α)} {x : String × α}
    (h : x ∈ (ofList pairs).entries) : x ∈ pairs := by
  have hfold : ∀ m : FieldMap α,
      x ∈ (pairs.foldl (fun m pair => m.insert pair.1 pair.2) m).entries →
        x ∈ m.entries ∨ x ∈ pairs := by
    clear h
    induction pairs with
    | nil => exact fun m hx => .inl hx
    | cons pair pairs ih =>
      intro m hx
      rcases ih _ hx with hm | hpairs
      · rcases mem_insertEntry hm with rfl | hm
        · exact .inr List.mem_cons_self
        · exact .inl hm
      · exact .inr (List.mem_cons_of_mem _ hpairs)
  rcases hfold empty h with hempty | hpairs
  · cases hempty
  · exact hpairs

/-- Every entry that `f` has made comes from one with the same key. -/
theorem mem_of_tryMap {ε : Type} {f : α → Except ε β} {m : FieldMap α} {n : FieldMap β}
    (h : m.tryMap f = .ok n) {x : String × β} (hx : x ∈ n.entries) :
    ∃ a, (x.1, a) ∈ m.entries ∧ f a = .ok x.2 := by
  have hentries : ∀ {l : List (String × α)} {k : List (String × β)},
      tryEntries f l = .ok k → x ∈ k → ∃ a, (x.1, a) ∈ l ∧ f a = .ok x.2 := by
    clear h hx
    intro l k h hx
    induction l generalizing k with
    | nil =>
      cases h
      cases hx
    | cons entry rest ih =>
      rw [tryEntries] at h
      split at h
      · cases h
      · rename_i b hb
        split at h <;> cases h
        rename_i entries hrest
        rcases List.mem_cons.1 hx with rfl | hx
        · exact ⟨entry.2, List.mem_cons_self, hb⟩
        · obtain ⟨a, ha, hfa⟩ := ih hrest hx
          exact ⟨a, List.mem_cons_of_mem _ ha, hfa⟩
  unfold tryMap at h
  split at h <;> cases h
  rename_i hm
  exact hentries hm hx

theorem tryEntries_map {γ ε : Type} {e : α → β} {f : β → Except ε γ} {g : α → γ}
    {l : List (String × α)} (h : ∀ x ∈ l, f (e x.2) = .ok (g x.2)) :
    tryEntries f (l.map fun entry => (entry.1, e entry.2)) =
      .ok (l.map fun entry => (entry.1, g entry.2)) := by
  induction l with
  | nil => rfl
  | cons entry rest ih =>
    rw [List.forall_mem_cons] at h
    simp only [tryEntries, h.1, ih h.2, List.map_cons]

/-- If `f` makes `g` of what `e` makes of each datum, it does so for the whole map. -/
theorem tryMap_map {γ ε : Type} {e : α → β} {f : β → Except ε γ} {g : α → γ} {m : FieldMap α}
    (h : ∀ x ∈ m.entries, f (e x.2) = .ok (g x.2)) : (m.map e).tryMap f = .ok (m.map g) := by
  have hentries : tryEntries f (m.map e).entries = .ok (m.map g).entries := tryEntries_map h
  unfold tryMap
  split
  · simp_all
  · rename_i entries hm
    cases hentries.symm.trans hm
    rfl

/-! ### Converting a list of pairs -/

section Converting

variable {ε ε' : Type} {f : α → Except ε β} {g : α → Except ε' β} {l : List (String × α)}
  {k : List (String × β)}

/-- A list is converted entry by entry, the first one first. -/
theorem tryEntries_cons_eq_ok_iff {entry : String × α} :
    tryEntries f (entry :: l) = .ok k ↔
      ∃ b others, f entry.2 = .ok b ∧ tryEntries f l = .ok others ∧ k = (entry.1, b) :: others := by
  rw [tryEntries]
  cases f entry.2 with
  | error e => simp
  | ok b =>
    cases tryEntries f l with
    | error e => simp
    | ok others => simp [eq_comm]

/-- Every entry can be converted if each datum can. -/
theorem exists_tryEntries_iff :
    (∃ k, tryEntries f l = .ok k) ↔ ∀ x ∈ l, ∃ b, f x.2 = .ok b := by
  induction l with
  | nil => simp [tryEntries]
  | cons entry rest ih =>
    rw [List.forall_mem_cons, ← ih]
    simp only [tryEntries_cons_eq_ok_iff]
    constructor
    · rintro ⟨-, b, others, hb, hothers, -⟩
      exact ⟨⟨b, hb⟩, others, hothers⟩
    · rintro ⟨⟨b, hb⟩, others, hothers⟩
      exact ⟨_, b, others, hb, hothers, rfl⟩

theorem tryEntries_mono (hfg : ∀ a b, f a = .ok b → g a = .ok b) (h : tryEntries f l = .ok k) :
    tryEntries g l = .ok k := by
  induction l generalizing k with
  | nil => simpa [tryEntries] using h
  | cons entry rest ih =>
    obtain ⟨b, others, hb, hothers, rfl⟩ := tryEntries_cons_eq_ok_iff.1 h
    exact tryEntries_cons_eq_ok_iff.2 ⟨b, others, hfg _ _ hb, ih hothers, rfl⟩

/-- To convert and to put an entry in its place can be done in either order. -/
theorem tryEntries_insertEntry (key : String) {a : α} {b : β} (ha : f a = .ok b)
    (h : tryEntries f l = .ok k) :
    tryEntries f (insertEntry key a l) = .ok (insertEntry key b k) := by
  induction l generalizing k with
  | nil =>
    cases h
    simp [insertEntry, tryEntries, ha]
  | cons entry rest ih =>
    obtain ⟨b', others, hb', hothers, rfl⟩ := tryEntries_cons_eq_ok_iff.1 h
    rw [insertEntry, insertEntry]
    split
    · simp only [tryEntries, ha, hb', hothers]
    · split
      · simp only [tryEntries, ha, hothers]
      · simp only [tryEntries, hb', ih hothers]

theorem tryMap_eq_ok_iff {m : FieldMap α} {n : FieldMap β} :
    m.tryMap f = .ok n ↔ tryEntries f m.entries = .ok n.entries := by
  unfold tryMap
  split
  · simp_all
  · rename_i entries h
    simp only [h, Except.ok.injEq]
    exact FieldMap.ext_iff

/-- **To convert a list of pairs and to take the last pair with each key commute**,
if every pair can be converted. -/
theorem tryMap_ofList (h : tryEntries f l = .ok k) : (ofList l).tryMap f = .ok (ofList k) := by
  have hfold : ∀ (m : FieldMap α) (n : FieldMap β), tryEntries f m.entries = .ok n.entries →
      tryEntries f (l.foldl (fun m pair => m.insert pair.1 pair.2) m).entries =
        .ok (k.foldl (fun m pair => m.insert pair.1 pair.2) n).entries := by
    induction l generalizing k with
    | nil =>
      cases h
      exact fun m n hm => hm
    | cons entry rest ih =>
      obtain ⟨b, others, hb, hothers, rfl⟩ := tryEntries_cons_eq_ok_iff.1 h
      exact fun m n hm => ih hothers _ _ (tryEntries_insertEntry entry.1 hb hm)
  exact tryMap_eq_ok_iff.2 (hfold empty empty rfl)

end Converting

end FieldMap

end FieldNorm
