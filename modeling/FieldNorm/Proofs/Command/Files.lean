import FieldNorm.Command.Load
import Mathlib.Tactic.Common

/-!
Where paths lead, and what is left alone when a file is written.

* `Workspace.keyOf`: the key of a path, told from its components alone. The files have a say in
  whether the path can be followed, and none in where it leads (`locate_eq_ok`).
* `Workspace.SameBut`: two states of the files differ in the files with some keys at most. Writing a
  file makes such a difference in its own key (`SameBut.of_update`).
* `SameBut.readBytes_iff`, `SameBut.exists_update`: what that leaves the same for paths that lead
  elsewhere, and for what can be written.
-/

namespace FieldNorm

namespace Workspace

variable {w w' w'' : Workspace} {isCreating : Bool} {spot : Spot} {names : List String}
  {path text key : String} {target : Target} {keys keys' : List String} {content : ByteArray}
  {change : ByteArray → ByteArray}

/-! ### The key of a path -/

/-- Where a path ends that starts at a place. -/
def Spot.walk (spot : Spot) : List String → Spot
  | [] => spot
  | name :: rest =>
      if name = "" ∨ name = "." then spot.walk rest
      else if name = ".." then spot.up.walk rest
      else (spot.down name).walk rest

/-- The key under which the file is listed to which a path leads. -/
def keyOf (path : String) : String :=
  (Spot.walk ⟨path.toList.head? = some '/', []⟩ (Text.pieces '/' path)).key

/-- What stands at a key that is no directory. -/
def fileAt (w : Workspace) (key : String) : Target :=
  match w.entries.get? key with
  | some (.file content) => .file key content
  | _ => .vacant key

/-- The path can be followed to a file, or to where one can be made. -/
def LeadsToFile (w : Workspace) (isCreating : Bool) (path : String) : Prop :=
  w.entries.get? (keyOf path) ≠ some .directory ∧
    w.locate isCreating path = .ok (w.fileAt (keyOf path))

/-- Components that can be followed lead to a directory, or to the file at their end. -/
lemma follow_eq_ok (h : w.follow isCreating spot names = .ok target) :
    target = .directory ∨ w.entries.get? (spot.walk names).key ≠ some .directory ∧
      target = w.fileAt (spot.walk names).key := by
  fun_induction follow w isCreating spot names with
  | case1 spot => exact .inl (Except.ok.inj h).symm
  | case2 spot name rest hname ih =>
      rw [Spot.walk, if_pos hname]
      exact ih h
  | case3 spot rest hname ih =>
      rw [Spot.walk, if_neg hname, if_pos rfl]
      exact ih h
  | case4 | case5 | case8 | case10 => cases h
  | case6 spot name rest hname hup _ _ here hentry ih =>
      rw [Spot.walk, if_neg hname, if_neg hup]
      exact ih h
  | case7 spot name rest hname hup _ _ here content hentry hrest =>
      obtain rfl := List.isEmpty_iff.mp hrest
      obtain rfl := Except.ok.inj h
      rw [Spot.walk, if_neg hname, if_neg hup, Spot.walk, fileAt, hentry]
      exact .inr ⟨nofun, rfl⟩
  | case9 spot name rest hname hup _ _ here hentry hrest =>
      obtain rfl := List.isEmpty_iff.mp hrest
      obtain rfl := Except.ok.inj h
      rw [Spot.walk, if_neg hname, if_neg hup, Spot.walk, fileAt, hentry]
      exact .inr ⟨nofun, rfl⟩

/-- **A path that can be followed leads to a directory or to the file of its key.** -/
lemma locate_eq_ok (h : w.locate isCreating path = .ok target) :
    target = .directory ∨ w.LeadsToFile isCreating path ∧ target = w.fileAt (keyOf path) := by
  have hlocate := h
  rw [locate] at h
  split at h
  · cases h
  · split at h
    · cases h
    · split at h
      · cases h
      · rename_i c hc
        have hstart : (decide (path.toList.head? = some '/')) = decide (c = '/') := by simp [hc]
        rcases follow_eq_ok h with hdirectory | ⟨hfree, htarget⟩
        · exact .inl hdirectory
        · rw [← hstart] at hfree htarget
          exact .inr ⟨⟨hfree, htarget ▸ hlocate⟩, htarget⟩

/-! ### Files that differ in some keys -/

/-- `w'` differs from `w` in the files with some of these keys at most: no other entry is made,
changed or gone, and no directory. -/
structure SameBut (keys : List String) (w w' : Workspace) : Prop where
  directory_iff : ∀ key,
    w'.entries.get? key = some .directory ↔ w.entries.get? key = some .directory
  get?_eq : ∀ key, key ∉ keys → w'.entries.get? key = w.entries.get? key

lemma SameBut.refl (keys : List String) (w : Workspace) : SameBut keys w w where
  directory_iff _ := .rfl
  get?_eq _ _ := rfl

lemma SameBut.symm (h : SameBut keys w w') : SameBut keys w' w where
  directory_iff key := (h.directory_iff key).symm
  get?_eq key hkey := (h.get?_eq key hkey).symm

lemma SameBut.trans (h : SameBut keys w w') (h' : SameBut keys w' w'') : SameBut keys w w'' where
  directory_iff key := (h'.directory_iff key).trans (h.directory_iff key)
  get?_eq key hkey := (h'.get?_eq key hkey).trans (h.get?_eq key hkey)

lemma SameBut.mono (h : SameBut keys w w') (hkeys : keys ⊆ keys') : SameBut keys' w w' where
  directory_iff := h.directory_iff
  get?_eq key hkey := h.get?_eq key fun hmem => hkey (hkeys hmem)

/-- Components can still be followed where the directories are the same; to read a file less is
asked of its path than to make one. -/
lemma SameBut.follow (h : SameBut keys w w') {isMaking : Bool} (hmaking : isMaking → isCreating)
    (hfollow : w.follow isCreating spot names = .ok target) :
    ∃ target', w'.follow isMaking spot names = .ok target' ∧
      (target' = .directory → target = .directory) := by
  have hnot : ∀ {b c : Bool}, ¬ (isCreating && !b && c) → ¬ (isMaking && !b && c) := by
    cases isMaking <;> simp_all
  fun_induction Workspace.follow w isCreating spot names with
  | case1 spot => exact ⟨.directory, rfl, fun _ => (Except.ok.inj hfollow).symm⟩
  | case2 spot name rest hname ih =>
      rw [Workspace.follow, if_pos hname]
      exact ih hfollow
  | case3 spot rest hname ih =>
      rw [Workspace.follow, if_neg hname, if_pos rfl]
      exact ih hfollow
  | case4 | case5 | case8 | case10 => cases hfollow
  | case6 spot name rest hname hup hmade hsize here hentry ih =>
      have hentry' : w'.entries.get? (spot.down name).key = some .directory :=
        (h.directory_iff _).mpr hentry
      rw [Workspace.follow, if_neg hname, if_neg hup, if_neg (hnot hmade), if_neg hsize]
      simp only [hentry']
      exact ih hfollow
  | case7 spot name rest hname hup hmade hsize here content hentry hrest
  | case9 spot name rest hname hup hmade hsize here hentry hrest =>
      -- here no directory stands in either state, so that the path ends at a file in both
      have hentry' : w'.entries.get? (spot.down name).key ≠ some .directory := fun hdirectory => by
        have hbefore := (h.directory_iff _).mp hdirectory
        simp only [here] at hentry
        simp [hentry] at hbefore
      rw [Workspace.follow, if_neg hname, if_neg hup, if_neg (hnot hmade), if_neg hsize]
      cases hfile : w'.entries.get? (spot.down name).key with
      | none => exact ⟨.vacant (spot.down name).key, by simp only [hfile, hrest, if_true], nofun⟩
      | some entry =>
          cases entry with
          | file content =>
              exact ⟨.file (spot.down name).key content, by simp only [hfile, hrest, if_true],
                nofun⟩
          | directory => exact absurd hfile hentry'

/-- A path that leads to a file leads to the file of the same key where the directories are the
same. -/
lemma SameBut.leadsToFile (h : SameBut keys w w') {isMaking : Bool}
    (hmaking : isMaking → isCreating) (hleads : w.LeadsToFile isCreating path) :
    w'.LeadsToFile isMaking path := by
  obtain ⟨hfree, hlocate⟩ := hleads
  have hfile : w.fileAt (keyOf path) ≠ .directory := by
    rw [fileAt]
    split <;> nofun
  obtain ⟨target, hlocate', htarget⟩ : ∃ target, w'.locate isMaking path = .ok target ∧
      (target = .directory → w.fileAt (keyOf path) = .directory) := by
    rw [locate] at hlocate ⊢
    split at hlocate
    · cases hlocate
    · rename_i hzero
      rw [if_neg hzero]
      split at hlocate
      · cases hlocate
      · rename_i hsize
        rw [if_neg hsize]
        split at hlocate
        · cases hlocate
        · exact h.follow hmaking hlocate
  rcases locate_eq_ok hlocate' with hdirectory | ⟨hleads', -⟩
  · exact absurd (htarget hdirectory) hfile
  · exact hleads'

/-! ### Reading and writing -/

/-- A file is read if its path can be followed and its key lists it. -/
lemma readBytes_eq_ok_iff :
    w.readBytes path = .ok content ↔
      w.LeadsToFile false path ∧ w.entries.get? (keyOf path) = some (.file content) := by
  constructor
  · intro h
    rw [readBytes] at h
    split at h <;> cases h
    rename_i key hlocate
    rcases locate_eq_ok hlocate with hdirectory | ⟨hleads, htarget⟩
    · cases hdirectory
    · rw [fileAt] at htarget
      split at htarget <;> cases htarget
      exact ⟨hleads, by assumption⟩
  · rintro ⟨⟨-, hlocate⟩, hcontent⟩
    rw [fileAt, hcontent] at hlocate
    simp only [readBytes, hlocate]

/-- The bytes at a key; none are there before the file is made. -/
def contentAt (w : Workspace) (key : String) : ByteArray :=
  match w.entries.get? key with
  | some (.file content) => content
  | _ => .empty

/-- A file is written if its path can be followed, and nothing is done but that. -/
lemma update_eq_ok_iff :
    w.update path change = .ok w' ↔ w.LeadsToFile true path ∧
      w' = ⟨w.entries.insert (keyOf path) (.file (change (w.contentAt (keyOf path))))⟩ := by
  constructor
  · intro h
    rw [update] at h
    split at h
    · cases h
    · cases h
    all_goals
      rename_i hlocate
      obtain rfl := Except.ok.inj h
      rcases locate_eq_ok hlocate with hdirectory | ⟨hleads, htarget⟩
      · cases hdirectory
      · refine ⟨hleads, ?_⟩
        rw [fileAt] at htarget
        rw [contentAt]
        split at htarget <;> cases htarget
        rfl
  · rintro ⟨⟨hfree, hlocate⟩, rfl⟩
    rw [update, hlocate, fileAt, contentAt]
    cases hentry : w.entries.get? (keyOf path) with
    | none => rfl
    | some entry =>
        cases entry with
        | file content => rfl
        | directory => exact absurd hentry hfree

/-- **Writing a file changes nothing but that file.** -/
lemma SameBut.of_update (h : w.update path change = .ok w') : SameBut [keyOf path] w w' := by
  obtain ⟨⟨hfree, -⟩, rfl⟩ := update_eq_ok_iff.mp h
  refine ⟨fun key => ?_, fun key hkey => ?_⟩
  · rw [FieldMap.get?_insert]
    split
    · rename_i heq
      subst heq
      simp [hfree]
    · rfl
  · rw [FieldMap.get?_insert, if_neg (by simpa using hkey)]

/-- What is written can be read. -/
lemma readBytes_of_write (h : w.write path text = .ok w') :
    w'.readBytes path = .ok text.toUTF8 := by
  have hleads := (update_eq_ok_iff.mp h).1
  refine readBytes_eq_ok_iff.mpr ⟨(SameBut.of_update h).leadsToFile nofun hleads, ?_⟩
  rw [(update_eq_ok_iff.mp h).2, FieldMap.get?_insert, if_pos rfl]

/-- **A file with another key is read alike.** -/
lemma SameBut.readBytes_iff (h : SameBut keys w w') (hpath : keyOf path ∉ keys) :
    w'.readBytes path = .ok content ↔ w.readBytes path = .ok content := by
  rw [readBytes_eq_ok_iff, readBytes_eq_ok_iff, h.get?_eq _ hpath]
  exact and_congr_left fun _ => ⟨h.symm.leadsToFile id, h.leadsToFile id⟩

/-- What can be written can be written later too, whatever it is. -/
lemma SameBut.exists_update (h : SameBut keys w w') (hupdate : w.update path change = .ok w'')
    (change' : ByteArray → ByteArray) : ∃ v, w'.update path change' = .ok v :=
  ⟨_, update_eq_ok_iff.mpr ⟨h.leadsToFile id (update_eq_ok_iff.mp hupdate).1, rfl⟩⟩

lemma readText_eq_ok_iff :
    w.readText path = .ok text ↔
      ∃ content, w.readBytes path = .ok content ∧ String.fromUTF8? content = some text := by
  rw [readText]
  cases w.readBytes path with
  | error e => simp
  | ok content => cases h : String.fromUTF8? content <;> simp [h]

lemma SameBut.readText_iff (h : SameBut keys w w') (hpath : keyOf path ∉ keys) :
    w'.readText path = .ok text ↔ w.readText path = .ok text := by
  simp only [readText_eq_ok_iff, h.readBytes_iff hpath]

end Workspace

/-! ### Loading -/

namespace Command

open Workspace (SameBut keyOf)

variable {w w' : Workspace} {path : String} {keys : List String}

lemma loadPipeline_eq_ok_iff {p : Pipeline} :
    loadPipeline w path = .ok p ↔
      ∃ text, w.readText path = .ok text ∧ Pipeline.read text = .ok p := by
  rw [loadPipeline]
  cases w.readText path with
  | error e => simp
  | ok text => cases h : Pipeline.read text <;> simp [h]

lemma loadDocuments_eq_ok_iff {ds : List Document} :
    loadDocuments w path = .ok ds ↔
      ∃ text, w.readText path = .ok text ∧ documentsOfText path text = .ok ds := by
  rw [loadDocuments]
  cases w.readText path with
  | error e => simp
  | ok text => simp

/-- Rules are loaded alike from a file with another key. -/
lemma loadPipeline_iff_of_sameBut (h : SameBut keys w w') (hpath : keyOf path ∉ keys)
    {p : Pipeline} : loadPipeline w' path = .ok p ↔ loadPipeline w path = .ok p := by
  simp only [loadPipeline_eq_ok_iff, h.readText_iff hpath]

/-- Documents are loaded alike from a file with another key. -/
lemma loadDocuments_iff_of_sameBut (h : SameBut keys w w') (hpath : keyOf path ∉ keys)
    {ds : List Document} : loadDocuments w' path = .ok ds ↔ loadDocuments w path = .ok ds := by
  simp only [loadDocuments_eq_ok_iff, h.readText_iff hpath]

end Command

end FieldNorm
