import FieldNorm.Command.Program
import FieldNorm.Proofs.Command.Files
import FieldNorm.Proofs.Command.Output
import FieldNorm.Proofs.Command.Totals

/-!
The steps of the commands, and what they change on the way.

* `Scene.OnlyLogs`: between two scenes nothing has changed but the file of the log.
* `Scene.Puts`: between two scenes a text has been put into a file or on the standard output, where
  it can be seen from then on (`Puts.shows`, `Shows.of_onlyLogs`).
* `Task.Discreet`: a task that changes nothing but the log, whatever comes of it.
  `Task.Careful`: one that does so if it fails. Both are kept when tasks are put one behind the
  other.
-/

namespace FieldNorm.Command

open Workspace (SameBut keyOf)

variable {α β : Type}

/-! ### Scenes -/

namespace Scene

variable {s s' s'' : Scene} {path text : String} {output : Option String}

/-- The key of the file in which the log is kept, if it is kept in a file. -/
def logKeys (s : Scene) : List String := ((s.recorder.bind (·.file)).map keyOf).toList

/-- On the way from `s` to `s'` no file has changed but that of the log, and nothing has been put
out. -/
structure OnlyLogs (s s' : Scene) : Prop where
  files : SameBut s.logKeys s.workspace s'.workspace
  output_eq : s'.output = s.output
  recorder_eq : s'.recorder = s.recorder

lemma OnlyLogs.logKeys_eq (h : s.OnlyLogs s') : s'.logKeys = s.logKeys := by
  rw [logKeys, logKeys, h.recorder_eq]

lemma OnlyLogs.refl (s : Scene) : s.OnlyLogs s := ⟨.refl _ _, rfl, rfl⟩

lemma OnlyLogs.trans (h : s.OnlyLogs s') (h' : s'.OnlyLogs s'') : s.OnlyLogs s'' where
  files := h.files.trans (h.logKeys_eq ▸ h'.files)
  output_eq := h'.output_eq.trans h.output_eq
  recorder_eq := h'.recorder_eq.trans h.recorder_eq

/-- Events are reported in the log. -/
lemma onlyLogs_report (s : Scene) (events : List Log.Event) : s.OnlyLogs (s.report events) := by
  rw [report]
  dsimp only
  split
  · exact ⟨.refl _ _, rfl, rfl⟩
  · rename_i recorder hrecorder
    rw [record]
    split
    · exact ⟨.refl _ _, rfl, rfl⟩
    · rename_i path hpath
      have hkeys : s.logKeys = [keyOf path] := by simp [logKeys, hrecorder, hpath]
      split
      · rename_i w happend
        exact ⟨hkeys ▸ SameBut.of_update happend, rfl, rfl⟩
      · exact ⟨.refl _ _, rfl, rfl⟩

/-- The text is put where `output` says: into a file, or on the standard output. -/
def Puts (s : Scene) (output : Option String) (text : String) (s' : Scene) : Prop :=
  match output with
  | some path => ∃ w, s.workspace.write path text = .ok w ∧ s' = { s with workspace := w }
  | none => s' = { s with output := s.output ++ text.toUTF8 }

/-- Something can be put there. -/
def CanPut (s : Scene) (output : Option String) : Prop := ∃ text s', s.Puts output text s'

/-- The text stands where `output` says: as the content of a file, or behind what has been put out
before. -/
def Shows (s : Scene) (output : Option String) (text : String) (s' : Scene) : Prop :=
  match output with
  | some path => s'.workspace.readBytes path = .ok text.toUTF8
  | none => s'.output = s.output ++ text.toUTF8

/-- The key of the file into which something is put, if it is put into a file. -/
def outputKeys (output : Option String) : List String := (output.map keyOf).toList

lemma Puts.recorder_eq (h : s.Puts output text s') : s'.recorder = s.recorder := by
  cases output with
  | none =>
      obtain rfl := h
      rfl
  | some path =>
      obtain ⟨w, -, rfl⟩ := h
      rfl

lemma Puts.logKeys_eq (h : s.Puts output text s') : s'.logKeys = s.logKeys := by
  rw [logKeys, logKeys, h.recorder_eq]

/-- Nothing is changed but what is put. -/
lemma Puts.files (h : s.Puts output text s') :
    SameBut (outputKeys output) s.workspace s'.workspace := by
  cases output with
  | none =>
      obtain rfl := h
      exact .refl _ _
  | some path =>
      obtain ⟨w, hwrite, rfl⟩ := h
      exact .of_update hwrite

lemma Puts.shows (h : s.Puts output text s') : s.Shows output text s' := by
  cases output with
  | none =>
      obtain rfl := h
      rfl
  | some path =>
      obtain ⟨w, hwrite, rfl⟩ := h
      exact Workspace.readBytes_of_write hwrite

/-- The log takes no room away from the output. -/
lemma OnlyLogs.exists_puts (h : s.OnlyLogs s') (hput : s.CanPut output) (text : String) :
    ∃ s'', s'.Puts output text s'' := by
  cases output with
  | none => exact ⟨_, rfl⟩
  | some path =>
      obtain ⟨other, -, w, hwrite, -⟩ := hput
      obtain ⟨v, hv⟩ := h.files.exists_update hwrite fun _ => text.toUTF8
      exact ⟨_, v, hv, rfl⟩

/-- What stands there is still there when the log has changed before and behind it. -/
lemma Shows.of_onlyLogs {m m' : Scene} (h : m.Shows output text m') (hbefore : s.OnlyLogs m)
    (hbehind : m'.OnlyLogs s') (hlog : ∀ path ∈ output, keyOf path ∉ m'.logKeys) :
    s.Shows output text s' := by
  cases output with
  | none =>
      calc s'.output
          = m.output ++ text.toUTF8 := hbehind.output_eq.trans h
        _ = s.output ++ text.toUTF8 := by rw [hbefore.output_eq]
  | some path => exact (hbehind.files.readBytes_iff (hlog path rfl)).mpr h

end Scene

/-! ### Tasks -/

namespace Task

variable {t : Task α} {next : α → Task β} {s s' : Scene} {a : α} {b : β} {e : Failure}

/-- A step that fails is the end. -/
lemma bind_run_error (h : t.run.run s = (.error e, s')) (next : α → Task β) :
    (t >>= next).run.run s = (.error e, s') := by
  simp only [ExceptT.run_bind, StateT.run_bind, h]
  rfl

/-- Steps that succeed have both succeeded. -/
lemma bind_run_eq_ok_iff :
    (t >>= next).run.run s = (.ok b, s') ↔
      ∃ a m, t.run.run s = (.ok a, m) ∧ (next a).run.run m = (.ok b, s') := by
  obtain ⟨result, m, hm⟩ : ∃ result m, t.run.run s = (result, m) := ⟨_, _, rfl⟩
  cases result with
  | error e =>
      rw [bind_run_error hm, hm]
      exact ⟨nofun, by rintro ⟨a, m, ⟨⟩, -⟩⟩
  | ok a =>
      rw [bind_run hm, hm]
      constructor
      · exact fun h => ⟨a, m, rfl, h⟩
      · rintro ⟨a, m, ⟨⟩, h⟩
        exact h

lemma load_run_eq_ok_iff {f : Workspace → Except Failure α} :
    (Task.load f).run.run s = (.ok a, s') ↔ f s.workspace = .ok a ∧ s' = s := by
  have hget : (get : Task Scene).run.run s = (.ok s, s) := rfl
  rw [Task.load, bind_run hget]
  cases f s.workspace with
  | error e => exact ⟨(fun h => by cases h), by rintro ⟨⟨⟩, -⟩⟩
  | ok b =>
      have hpure : (pure b : Task α).run.run s = (.ok b, s) := rfl
      rw [hpure]
      constructor
      · rintro ⟨⟩
        exact ⟨rfl, rfl⟩
      · rintro ⟨⟨⟩, rfl⟩
        rfl

lemma write_run_eq_ok_iff {path text : String} :
    (Task.write path text).run.run s = (.ok (), s') ↔ s.Puts (some path) text s' := by
  have hget : (get : Task Scene).run.run s = (.ok s, s) := rfl
  rw [Task.write, bind_run hget, Scene.Puts]
  cases s.workspace.write path text with
  | error e => exact ⟨nofun, by rintro ⟨w, ⟨⟩, -⟩⟩
  | ok w =>
      have hmodify : (modify fun s => { s with workspace := w } : Task Unit).run.run s =
        (.ok (), { s with workspace := w }) := rfl
      rw [hmodify]
      constructor
      · rintro ⟨⟩
        exact ⟨w, rfl, rfl⟩
      · rintro ⟨w, ⟨⟩, rfl⟩
        rfl

lemma print_run_eq_ok_iff {text : String} :
    (Task.print text.toUTF8).run.run s = (.ok (), s') ↔ s.Puts none text s' := by
  constructor
  · rintro ⟨⟩
    rfl
  · rintro rfl
    rfl

/-- Whatever comes of the task, nothing is changed but the log. -/
def Discreet (t : Task α) : Prop := ∀ s : Scene, s.OnlyLogs (t.run.run s).2

/-- If the task fails, nothing is changed but the log. -/
def Careful (t : Task α) : Prop :=
  ∀ (s : Scene) e s', t.run.run s = (.error e, s') → s.OnlyLogs s'

/-- The task does not fail. -/
def NeverFails (t : Task α) : Prop := ∀ s, ∃ a s', t.run.run s = (.ok a, s')

/-- What is discreet comes to a scene in which only the log has changed. -/
lemma Discreet.onlyLogs (h : Discreet t) {result : Except Failure α}
    (hrun : t.run.run s = (result, s')) : s.OnlyLogs s' := by
  have hs := h s
  rwa [hrun] at hs

lemma Discreet.careful (h : Discreet t) : Careful t := fun _ _ _ hrun => h.onlyLogs hrun

lemma NeverFails.careful (h : NeverFails t) : Careful t := fun s e s' hrun => by
  obtain ⟨a, m, hm⟩ := h s
  rw [hm] at hrun
  cases hrun

lemma Discreet.bind (h : Discreet t) (hnext : ∀ a, Discreet (next a)) : Discreet (t >>= next) := by
  intro s
  have hs := h s
  obtain ⟨result, m, hm⟩ : ∃ result m, t.run.run s = (result, m) := ⟨_, _, rfl⟩
  rw [hm] at hs
  cases result with
  | error e => rwa [bind_run_error hm]
  | ok a =>
      rw [bind_run hm]
      exact hs.trans (hnext a m)

/-- What is careful may come behind what is discreet. -/
lemma Discreet.bind_careful (h : Discreet t) (hnext : ∀ a, Careful (next a)) :
    Careful (t >>= next) := by
  intro s e s' hrun
  have hs := h s
  obtain ⟨result, m, hm⟩ : ∃ result m, t.run.run s = (result, m) := ⟨_, _, rfl⟩
  rw [hm] at hs
  cases result with
  | error e =>
      rw [bind_run_error hm] at hrun
      cases hrun
      exact hs
  | ok a =>
      rw [bind_run hm] at hrun
      exact hs.trans (hnext a m e s' hrun)

/-- What never fails may come behind what is careful. -/
lemma Careful.bind_neverFails (h : Careful t) (hnext : ∀ a, NeverFails (next a)) :
    Careful (t >>= next) := by
  intro s e s' hrun
  obtain ⟨result, m, hm⟩ : ∃ result m, t.run.run s = (result, m) := ⟨_, _, rfl⟩
  cases result with
  | error e =>
      rw [bind_run_error hm] at hrun
      cases hrun
      exact h s e _ hm
  | ok a =>
      obtain ⟨b, m', hm'⟩ := hnext a m
      rw [bind_run hm, hm'] at hrun
      cases hrun

lemma NeverFails.bind (h : NeverFails t) (hnext : ∀ a, NeverFails (next a)) :
    NeverFails (t >>= next) := by
  intro s
  obtain ⟨a, m, hm⟩ := h s
  obtain ⟨b, m', hm'⟩ := hnext a m
  exact ⟨b, m', (bind_run hm).trans hm'⟩

lemma neverFails_pure (a : α) : NeverFails (pure a : Task α) := fun s => ⟨a, s, rfl⟩

lemma neverFails_report (events : List Log.Event) : NeverFails (Task.report events) :=
  fun s => ⟨(), s.report events, rfl⟩

lemma neverFails_print (bytes : ByteArray) : NeverFails (Task.print bytes) :=
  fun s => ⟨(), { s with output := s.output ++ bytes }, rfl⟩

lemma discreet_pure (a : α) : Discreet (pure a : Task α) := fun s => .refl s

lemma discreet_throw (e : Failure) : Discreet (throw e : Task α) := fun s => .refl s

lemma discreet_report (events : List Log.Event) : Discreet (Task.report events) :=
  fun s => s.onlyLogs_report events

lemma discreet_enter (span : Log.Span) : Discreet (Task.enter span) :=
  fun _ => ⟨.refl _ _, rfl, rfl⟩

lemma discreet_load (f : Workspace → Except Failure α) : Discreet (Task.load f) := by
  intro s
  have hget : (get : Task Scene).run.run s = (.ok s, s) := rfl
  rw [Task.load, bind_run hget]
  cases f s.workspace <;> exact .refl s

lemma careful_write (path text : String) : Careful (Task.write path text) := by
  intro s e s' hrun
  have hget : (get : Task Scene).run.run s = (.ok s, s) := rfl
  rw [Task.write, bind_run hget] at hrun
  cases hwrite : s.workspace.write path text with
  | error reason =>
      rw [hwrite] at hrun
      cases hrun
      exact .refl s
  | ok w =>
      rw [hwrite] at hrun
      cases hrun

end Task

end FieldNorm.Command
