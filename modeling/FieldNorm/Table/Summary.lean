import FieldNorm.FieldMap
import FieldNorm.Table.Grid

/-!
The table of what a run has changed: a row for every field that changed in some document, and
the totals below.
-/

namespace FieldNorm

/-- What a run has changed. -/
structure Totals where
  documents : Nat
  changedDocuments : Nat
  /-- For every field that changed, in how many documents it did. -/
  fieldChanges : FieldMap Nat
deriving DecidableEq

namespace Totals

/-- The totals as a table. -/
def grid (t : Totals) : Table.Grid where
  header := (.ofText .bold "Field", .ofText .bold "Documents changed")
  rows :=
    t.fieldChanges.entries.map (fun (field, count) =>
      (.ofText .plain field, .ofText .plain (toString count))) ++
    [(.ofText .boldCyan "TOTAL", .ofText .bold s!"{t.changedDocuments} / {t.documents}")]

/-- The text of the table, with or without colours. -/
def summary (isStyled : Bool) (t : Totals) : String :=
  "\n".intercalate ((t.grid.draw isStyled).map String.ofList)

end Totals

end FieldNorm
