import FieldNorm.Document.Json
import FieldNorm.Pipeline.Basic
import FieldNorm.Table.Summary

/-!
Normalizing a list of documents with one pipeline. The first document that fails ends the
batch; what was counted until then is of no use and is dropped.
-/

namespace FieldNorm.Command

/-- What stands in a log for the contents of a document unless they may be shown. -/
def redacted : String := "[REDACTED]"

/-- What a batch comes to. -/
structure Batch where
  /-- What was reported, in order, also when the batch fails. -/
  events : List Log.Event
  /-- The normalized documents and the totals, or the index of the first document that fails
  and its error. -/
  result : Except (Nat × KeyMissing) (List Document × Totals)

namespace Batch

/-- Counts the changes of one more document. -/
def count (changed : List String) (t : Totals) : Totals where
  documents := t.documents + 1
  changedDocuments := t.changedDocuments + if changed.isEmpty then 0 else 1
  fieldChanges := changed.foldl
    (fun m field => m.insert field ((m.get? field).getD 0 + 1)) t.fieldChanges

/-- What is reported about a document that has been normalized. -/
def documentEvents (showsData : Bool) (index : Nat) (d : Document) (changed : List String) :
    List Log.Event :=
  [{ level := .debug, source := .commands, message := "document normalized",
     data := [("index", .number index), ("changed", .texts changed)] },
   { level := .trace, source := .commands, message := "document contents",
     data := [("index", .number index),
       ("document", .plain (if showsData then d.compact else redacted))],
     isOnDemand := true }]

/-- Normalizes the documents behind `index` others, which come to the totals `t`. -/
def runFrom (p : Pipeline) (showsData : Bool) (index : Nat) (t : Totals) :
    List Document → Batch
  | [] => { events := [], result := .ok ([], t) }
  | d :: ds =>
    let run := p.apply d
    match run.result with
    | .error e => { events := run.events, result := .error (index, e) }
    | .ok changed =>
      let later := runFrom p showsData (index + 1) (count changed t) ds
      { events :=
          run.events ++ documentEvents showsData index run.document changed ++ later.events,
        result := later.result.map fun (ds, t) => (run.document :: ds, t) }

/-- Normalizes a list of documents. -/
def run (p : Pipeline) (showsData : Bool) (ds : List Document) : Batch :=
  runFrom p showsData 0 ⟨0, 0, .empty⟩ ds

end Batch

end FieldNorm.Command
