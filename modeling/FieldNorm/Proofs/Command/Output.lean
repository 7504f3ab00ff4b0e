import FieldNorm.Command.Statements
import FieldNorm.Proofs.Command.Sink
import FieldNorm.Proofs.Sql.Reading

/-!
The bytes that a run puts out as statements.

* `Sink.taken_writeStatements`, `Sink.writeStatements_succeeds`: a sink without a limit takes
  everything.
* `run_statements`: the statements of a run are those of the documents it loads.
-/

namespace FieldNorm.Command

/-! ### Sinks without a limit -/

namespace Sink

variable {sink : Sink}

/-- **The sink takes the statements, each with a line break behind it.** -/
lemma taken_writeStatements (h : sink.limit = none) (texts : List String) :
    (sink.writeStatements texts).1.taken = sink.taken ++ bytesOf (joinLines texts) := by
  rw [writeStatements_eq_take, room_of_limit h, List.take_length]
  rfl

/-- Statements are put out without fail where there is no limit. -/
lemma writeStatements_succeeds (h : sink.limit = none) (hflush : sink.flushFails = false)
    (texts : List String) : (sink.writeStatements texts).2 = none := by
  rw [writeStatements_eq_take, room_of_limit h, if_pos rfl, hflush]
  rfl

end Sink

/-! ### The statements of a run -/

/-- A step that succeeds is followed by the next one. -/
lemma Task.bind_run {α β : Type} {step : Task α} {next : α → Task β} {s s' : Scene} {a : α}
    (h : step.run.run s = (.ok a, s')) : (step >>= next).run.run s = (next a).run.run s' := by
  simp only [ExceptT.run_bind, StateT.run_bind, h]
  rfl

lemma Task.load_run {α : Type} {f : Workspace → Except Failure α} {s : Scene} {a : α}
    (h : f s.workspace = .ok a) : (Task.load f).run.run s = (.ok a, s) := by
  have hget : (get : Task Scene).run.run s = (.ok s, s) := rfl
  rw [Task.load, Task.bind_run hget, h]
  rfl

lemma Task.report_run (events : List Log.Event) (s : Scene) :
    (Task.report events).run.run s = (.ok (), s.report events) := rfl

/-- **A run gives the statements of the documents it loads.** -/
lemma run_statements (request : SqlRequest) {s : Scene} {ds : List Document}
    (hload : loadDocuments s.workspace request.input = .ok ds) :
    ∃ s', (statements request).run.run s = (.ok ((request.render ds).map (·.text)), s') := by
  let span : Log.Span := { name := "sql", datumName := "table", datum := request.table }
  have henter : (Task.enter span).run.run s = (.ok (), { s with span := some span }) := rfl
  rw [statements, Task.bind_run henter, Task.bind_run (Task.load_run hload),
    Task.bind_run (Task.report_run _ _), Task.bind_run (Task.report_run _ _)]
  exact ⟨_, rfl⟩

end FieldNorm.Command
