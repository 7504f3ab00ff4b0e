import FieldNorm.Proofs.Command.Steps

/-!
Two runs on files that differ only in what some of them hold.

* `Workspace.Resembles`: the same files and directories, of which the files with some keys may hold
  something else. A path leads to the same place in both (`Resembles.locate`), and a file is written
  in both or, for the same reason, in neither (`Resembles.update`).
* `Scene.Resembles`: two scenes with such files and with the same log.
* `Task.SameFrom`: from two scenes, two tasks come to the same result and to scenes that resemble
  each other. It is kept when tasks are put one behind the other (`SameFrom.bind`).
-/

namespace FieldNorm

/-! ### Files -/

namespace Workspace

variable {w w' v v' : Workspace} {keys keys' : List String} {isCreating : Bool} {spot : Spot}
  {names : List String} {path : String} {change change' : ByteArray → ByteArray} {e : FileError}

/-- Both have the same files and directories, and only the files with these keys may hold something
else in `w'` than in `w`. -/
structure Resembles (keys : List String) (w w' : Workspace) : Prop where
  get?_cases : ∀ key, w'.entries.get? key = w.entries.get? key ∨
    key ∈ keys ∧ ∃ content content', w.entries.get? key = some (.file content) ∧
      w'.entries.get? key = some (.file content')

lemma Resembles.mono (h : Resembles keys w w') (hkeys : keys ⊆ keys') : Resembles keys' w w' where
  get?_cases key := (h.get?_cases key).imp_right fun hkey => ⟨hkeys hkey.1, hkey.2⟩

lemma Resembles.sameBut (h : Resembles keys w w') : SameBut keys w w' where
  directory_iff key := by
    rcases h.get?_cases key with heq | ⟨-, content, content', hw, hw'⟩
    · rw [heq]
    · simp [hw, hw']
  get?_eq key hkey := (h.get?_cases key).resolve_right fun hcontent => hkey hcontent.1

/-- Where one state has no file, the other one has the same. -/
lemma Resembles.get?_of_no_file {key : String} (h : Resembles keys w w')
    (hw : ∀ content, w.entries.get? key ≠ some (.file content)) :
    w'.entries.get? key = w.entries.get? key :=
  (h.get?_cases key).resolve_right fun ⟨_, content, _, hcontent, _⟩ => hw content hcontent

/-- Where one state has a file, the other one has a file too. -/
lemma Resembles.exists_file {key : String} {content : ByteArray} (h : Resembles keys w w')
    (hw : w.entries.get? key = some (.file content)) :
    ∃ content', w'.entries.get? key = some (.file content') := by
  rcases h.get?_cases key with heq | ⟨-, -, content', -, hw'⟩
  · exact ⟨content, heq.trans hw⟩
  · exact ⟨content', hw'⟩

/-- Where a path leads, whatever the file there holds. -/
def Target.place : Target → Target
  | .file key _ => .file key .empty
  | target => target

/-- Components lead to the same place. -/
lemma Resembles.follow (h : Resembles keys w w') :
    (w'.follow isCreating spot names).map Target.place =
      (w.follow isCreating spot names).map Target.place := by
  fun_induction Workspace.follow w isCreating spot names with
  | case1 spot => rfl
  | case2 spot name rest hname ih =>
      rw [Workspace.follow, if_pos hname]
      exact ih
  | case3 spot rest hname ih =>
      rw [Workspace.follow, if_neg hname, if_pos rfl]
      exact ih
  | case4 spot name rest hname hup hmade =>
      rw [Workspace.follow, if_neg hname, if_neg hup, if_pos hmade]
  | case5 spot name rest hname hup hmade hsize =>
      rw [Workspace.follow, if_neg hname, if_neg hup, if_neg hmade, if_pos hsize]
  | case6 spot name rest hname hup hmade hsize here hentry ih =>
      have hentry' : w'.entries.get? (spot.down name).key = some .directory :=
        (h.get?_of_no_file (by simp [here, hentry])).trans hentry
      rw [Workspace.follow, if_neg hname, if_neg hup, if_neg hmade, if_neg hsize]
      simp only [hentry']
      exact ih
  | case7 spot name rest hname hup hmade hsize here content hentry hrest
  | case8 spot name rest hname hup hmade hsize here content hentry hrest =>
      obtain ⟨content', hentry'⟩ := h.exists_file hentry
      rw [Workspace.follow, if_neg hname, if_neg hup, if_neg hmade, if_neg hsize]
      simp only [here] at hentry'
      simp only [hentry', hrest]
      rfl
  | case9 spot name rest hname hup hmade hsize here hentry hrest
  | case10 spot name rest hname hup hmade hsize here hentry hrest =>
      have hentry' : w'.entries.get? (spot.down name).key = none :=
        (h.get?_of_no_file (by simp [here, hentry])).trans hentry
      rw [Workspace.follow, if_neg hname, if_neg hup, if_neg hmade, if_neg hsize]
      simp only [hentry', hrest]
      rfl

/-- **A path leads to the same place.** -/
lemma Resembles.locate (h : Resembles keys w w') :
    (w'.locate isCreating path).map Target.place = (w.locate isCreating path).map Target.place := by
  rw [Workspace.locate, Workspace.locate]
  split_ifs
  · rfl
  · rfl
  · split
    · rfl
    · exact h.follow

/-- What cannot be written in one state cannot be written in the other, for the same reason. -/
lemma Resembles.update_eq_error (h : Resembles keys w w') (hw : w.update path change = .error e) :
    w'.update path change' = .error e := by
  have hplace : (w'.locate true path).map Target.place = (w.locate true path).map Target.place :=
    h.locate
  rw [Workspace.update] at hw ⊢
  split at hw
  · rename_i hlocate
    obtain rfl := Except.error.inj hw
    rw [hlocate] at hplace
    cases hlocate' : w'.locate true path <;> simp_all [Except.map]
  · rename_i hlocate
    obtain rfl := Except.error.inj hw
    rw [hlocate] at hplace
    cases hlocate' : w'.locate true path with
    | error f => simp [hlocate', Except.map] at hplace
    | ok target => cases target <;> simp_all [Except.map, Target.place]
  · cases hw
  · cases hw

/-- **A file is written in both states or in neither.** Afterwards they still resemble each other,
if the same change is made or the file may hold something else. -/
lemma Resembles.update (h : Resembles keys w w') (hsame : keyOf path ∈ keys ∨ change' = change) :
    (∃ e, w.update path change = .error e ∧ w'.update path change' = .error e) ∨
      ∃ v v', w.update path change = .ok v ∧ w'.update path change' = .ok v' ∧
        Resembles keys v v' := by
  cases hw : w.update path change with
  | error e => exact .inl ⟨e, rfl, h.update_eq_error hw⟩
  | ok v =>
      obtain ⟨v', hw'⟩ := h.sameBut.exists_update hw change'
      refine .inr ⟨v, v', rfl, hw', ⟨fun key => ?_⟩⟩
      obtain ⟨-, rfl⟩ := update_eq_ok_iff.mp hw
      obtain ⟨-, rfl⟩ := update_eq_ok_iff.mp hw'
      dsimp only
      rw [FieldMap.get?_insert, FieldMap.get?_insert]
      split_ifs with hkey
      · subst hkey
        rcases hsame with hmem | rfl
        · exact .inr ⟨hmem, _, _, rfl, rfl⟩
        · rcases h.get?_cases (keyOf path) with heq | ⟨hmem, -⟩
          · exact .inl (by rw [contentAt, contentAt, heq])
          · exact .inr ⟨hmem, _, _, rfl, rfl⟩
      · exact h.get?_cases key

/-- To change what a file holds leaves files that resemble those before. -/
lemma Resembles.of_update {content : ByteArray} (hread : w.readBytes path = .ok content)
    (hupdate : w.update path change = .ok v) : Resembles [keyOf path] w v where
  get?_cases key := by
    obtain ⟨-, hfile⟩ := readBytes_eq_ok_iff.mp hread
    obtain ⟨-, rfl⟩ := update_eq_ok_iff.mp hupdate
    dsimp only
    rw [FieldMap.get?_insert]
    split_ifs with hkey
    · subst hkey
      exact .inr ⟨List.mem_singleton_self _, content, _, hfile, rfl⟩
    · exact .inl rfl

lemma Resembles.append (h : Resembles keys w w') (path text : String) :
    (∃ e, w.append path text = .error e ∧ w'.append path text = .error e) ∨
      ∃ v v', w.append path text = .ok v ∧ w'.append path text = .ok v' ∧ Resembles keys v v' :=
  h.update (.inr rfl)

lemma Resembles.write (h : Resembles keys w w') (hpath : keyOf path ∈ keys) (text text' : String) :
    (∃ e, w.write path text = .error e ∧ w'.write path text' = .error e) ∨
      ∃ v v', w.write path text = .ok v ∧ w'.write path text' = .ok v' ∧ Resembles keys v v' :=
  h.update (.inl hpath)

end Workspace

namespace Command

open Workspace (keyOf)

variable {α β : Type} {keys : List String}

/-! ### Scenes -/

namespace Scene

variable {s s' : Scene}

/-- The files resemble each other, and the log is the same and is kept at the same place. What has
been put out does not count. -/
structure Resembles (keys : List String) (s s' : Scene) : Prop where
  files : s.workspace.Resembles keys s'.workspace
  messages_eq : s'.messages = s.messages
  events_eq : s'.events = s.events
  recorder_eq : s'.recorder = s.recorder
  span_eq : s'.span = s.span

/-- The same lines are written into the log, or are lost in both. -/
lemma Resembles.record (h : s.Resembles keys s') (recorder : Recorder) (lines : String) :
    (s.record recorder lines).Resembles keys (s'.record recorder lines) := by
  rw [Scene.record, Scene.record]
  split
  · have hmessages : s'.messages ++ lines = s.messages ++ lines := by rw [h.messages_eq]
    exact ⟨h.files, hmessages, h.events_eq, h.recorder_eq, h.span_eq⟩
  · rename_i path hpath
    rcases h.files.append path lines with ⟨e, hw, hw'⟩ | ⟨w, w', hw, hw', hfiles⟩
    · rw [hw, hw']
      exact h
    · rw [hw, hw']
      exact ⟨hfiles, h.messages_eq, h.events_eq, h.recorder_eq, h.span_eq⟩

/-- The same events are reported alike. -/
lemma Resembles.report (h : s.Resembles keys s') (events : List Log.Event) :
    (s.report events).Resembles keys (s'.report events) := by
  have hevents : s'.events ++ events = s.events ++ events := by rw [h.events_eq]
  have hnoted : Resembles keys { s with events := s.events ++ events }
      { s' with events := s'.events ++ events } :=
    ⟨h.files, h.messages_eq, hevents, h.recorder_eq, h.span_eq⟩
  have hrecorder' := h.recorder_eq
  rw [Scene.report, Scene.report]
  cases hrecorder : s.recorder with
  | none =>
      rw [hrecorder] at hrecorder'
      simp only [hrecorder, hrecorder'] at hnoted ⊢
      exact hnoted
  | some recorder =>
      rw [hrecorder] at hrecorder'
      simp only [hrecorder, hrecorder', h.span_eq] at hnoted ⊢
      exact hnoted.record recorder _

end Scene

/-! ### Tasks -/

namespace Task

variable {t t' : Task α} {next next' : α → Task β} {s s' : Scene}

lemma load_run_error {f : Workspace → Except Failure α} {e : Failure}
    (h : f s.workspace = .error e) : (Task.load f).run.run s = (.error e, s) := by
  have hget : (get : Task Scene).run.run s = (.ok s, s) := rfl
  rw [Task.load, bind_run hget, h]
  rfl

/-- From `s` and from `s'` the two tasks come to the same result, and to scenes that resemble each
other. -/
def SameFrom (keys : List String) (s s' : Scene) (t t' : Task α) : Prop :=
  ∃ result m m', t.run.run s = (result, m) ∧ t'.run.run s' = (result, m') ∧ m.Resembles keys m'

/-- Behind steps that succeed it is enough to go on to the same. -/
lemma SameFrom.of_run {a a' : α} {m m' : Scene} (hrun : t.run.run s = (.ok a, m))
    (hrun' : t'.run.run s' = (.ok a', m')) (hnext : SameFrom keys m m' (next a) (next' a')) :
    SameFrom keys s s' (t >>= next) (t' >>= next') := by
  rw [SameFrom, bind_run hrun, bind_run hrun']
  exact hnext

/-- Where a step fails for the same reason, what would be next does not count. -/
lemma SameFrom.of_run_error {e : Failure} {m m' : Scene} (h : m.Resembles keys m')
    (hrun : t.run.run s = (.error e, m)) (hrun' : t'.run.run s' = (.error e, m')) :
    SameFrom keys s s' (t >>= next) (t' >>= next') :=
  ⟨.error e, m, m', bind_run_error hrun next, bind_run_error hrun' next', h⟩

/-- Behind tasks that come to the same, tasks that go on to the same do so as a whole. -/
lemma SameFrom.bind (h : SameFrom keys s s' t t')
    (hnext : ∀ a m m', m.Resembles keys m' → SameFrom keys m m' (next a) (next' a)) :
    SameFrom keys s s' (t >>= next) (t' >>= next') := by
  obtain ⟨result, m, m', hrun, hrun', hscenes⟩ := h
  cases result with
  | error e => exact .of_run_error hscenes hrun hrun'
  | ok a => exact .of_run hrun hrun' (hnext a m m' hscenes)

lemma sameFrom_pure (h : s.Resembles keys s') (a : α) : SameFrom keys s s' (pure a) (pure a) :=
  ⟨.ok a, s, s', rfl, rfl, h⟩

lemma sameFrom_throw (h : s.Resembles keys s') (e : Failure) :
    SameFrom keys s s' (throw e : Task α) (throw e) :=
  ⟨.error e, s, s', rfl, rfl, h⟩

lemma sameFrom_report (h : s.Resembles keys s') (events : List Log.Event) :
    SameFrom keys s s' (Task.report events) (Task.report events) :=
  ⟨.ok (), _, _, rfl, rfl, h.report events⟩

/-- Whatever is printed is no part of the log. -/
lemma sameFrom_print (h : s.Resembles keys s') (bytes bytes' : ByteArray) :
    SameFrom keys s s' (Task.print bytes) (Task.print bytes') :=
  ⟨.ok (), _, _, rfl, rfl, ⟨h.files, h.messages_eq, h.events_eq, h.recorder_eq, h.span_eq⟩⟩

/-- Texts are written into a file that may hold something else, or cannot be for the same reason. -/
lemma sameFrom_write {path : String} (h : s.Resembles keys s') (hpath : keyOf path ∈ keys)
    (text text' : String) : SameFrom keys s s' (Task.write path text) (Task.write path text') := by
  have hget : ∀ m : Scene, (get : Task Scene).run.run m = (.ok m, m) := fun _ => rfl
  rw [SameFrom, Task.write, Task.write, bind_run (hget s), bind_run (hget s')]
  rcases h.files.write hpath text text' with ⟨e, hw, hw'⟩ | ⟨w, w', hw, hw', hfiles⟩
  · simp only [hw, hw']
    exact sameFrom_throw h _
  · simp only [hw, hw']
    exact ⟨.ok (), _, _, rfl, rfl, ⟨hfiles, h.messages_eq, h.events_eq, h.recorder_eq, h.span_eq⟩⟩

end Task

end Command

end FieldNorm
