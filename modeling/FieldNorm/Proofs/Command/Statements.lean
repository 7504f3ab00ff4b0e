import FieldNorm.Proofs.Command.Output
import FieldNorm.Proofs.Command.Reloading
import Mathlib.Data.List.Forall2

/-!
What escaped statements tell of the documents they were made from: which fields have a value, and
the texts of these values. Nothing else can be learned from the bytes that are put out, and nothing
that a value holds makes them look like the statements of other values.

* `toList_joinLines_cons`: the lines are cut in one way only, since a tuple is read up to its end.
* `toList_joinLines_eq_iff`: so the lines determine the literals of every document.
-/

namespace FieldNorm.Command

open Sql (Alike Literal Shows map_ofField_eq_iff readTuple readTuple_tuple)

variable {table : String} {fields : List String} {ds es : List Document}

/-! ### Lines of statements -/

/-- The statements for the fields of some documents. -/
def escapedStatements (table : String) (fields : List String) (ds : List Document) :
    List String :=
  ds.map fun d => (Sql.insertStatement table d .escaped fields).text

/-- What stands in front of the tuple of every document. -/
def opening (table : String) (fields : List String) : List Char :=
  ("INSERT INTO " ++ table ++ " (" ++ ", ".intercalate fields ++ ") VALUES ").toList

lemma opening_eq_cons (table : String) (fields : List String) :
    ∃ t, opening table fields = 'I' :: t := by
  simp only [opening, String.toList_append]
  exact ⟨_, rfl⟩

/-- **A line is the opening, a tuple and the end of the statement.** -/
lemma toList_joinLines_cons (d : Document) (ds : List Document) :
    (joinLines (escapedStatements table fields (d :: ds))).toList =
      opening table fields ++ ((Sql.tuple d .escaped fields).text.toList ++
        (';' :: '\n' :: (joinLines (escapedStatements table fields ds)).toList)) := by
  have hstatement : (Sql.insertStatement table d .escaped fields).text.toList =
      opening table fields ++ ((Sql.tuple d .escaped fields).text.toList ++ [';']) := by
    have htext : (Sql.insertStatement table d .escaped fields).text =
        "INSERT INTO " ++ table ++ " (" ++ ", ".intercalate fields ++ ") VALUES " ++
          (Sql.tuple d .escaped fields).text ++ ";" := rfl
    rw [htext, String.toList_append, String.toList_append, List.append_assoc]
    rfl
  have hbreak : ("\n" : String).toList = ['\n'] := rfl
  have hcons : escapedStatements table fields (d :: ds) =
      (Sql.insertStatement table d .escaped fields).text :: escapedStatements table fields ds := rfl
  rw [hcons, joinLines_cons, String.toList_append, String.toList_append, hstatement, hbreak,
    List.append_assoc, List.append_assoc, List.append_assoc]
  rfl

/-- **The lines determine the literals of every document**, and how many documents there are. -/
lemma toList_joinLines_eq_iff (table : String) :
    (joinLines (escapedStatements table fields ds)).toList =
        (joinLines (escapedStatements table fields es)).toList ↔
      List.Forall₂ (fun d e => ∀ key ∈ fields, Alike (d.get? key) (e.get? key)) ds es := by
  obtain ⟨t, ht⟩ := opening_eq_cons table fields
  have hnil : (joinLines (escapedStatements table fields [])).toList = [] := rfl
  constructor
  · intro h
    induction ds generalizing es with
    | nil =>
        cases es with
        | nil => exact .nil
        | cons e es =>
            rw [hnil, toList_joinLines_cons, ht] at h
            cases h
    | cons d ds ih =>
        cases es with
        | nil =>
            rw [hnil, toList_joinLines_cons, ht] at h
            cases h
        | cons e es =>
            rw [toList_joinLines_cons, toList_joinLines_cons] at h
            -- Both tuples are read up to their ends, so they end at the same place.
            have hread := congrArg readTuple (List.append_cancel_left h)
            rw [readTuple_tuple, readTuple_tuple] at hread
            obtain ⟨hliterals, hrest⟩ := Prod.mk.inj (Option.some.inj hread)
            have hlater := List.cons.inj (List.cons.inj hrest).2
            exact .cons (map_ofField_eq_iff.mp hliterals) (ih hlater.2)
  · intro h
    induction h with
    | nil => rfl
    | cons hd h ih =>
        rw [toList_joinLines_cons, toList_joinLines_cons, ih, Sql.toList_tuple, Sql.toList_tuple,
          map_ofField_eq_iff.mpr hd]

/-! ### What is put out -/

/-- **Escaped statements show the fields they were made from, and nothing else.**

* The tuple of a document is read as one literal for each field, in their order, whatever follows
  it, and each literal shows the field.
* A run gives the escaped statements of the documents that it loads.
* A sink without a limit takes the same bytes for two lists of documents just if these have the
  same length, and documents in the same place cannot be told apart by any of the fields. -/
theorem escaped_statements_decode (table : String) (fields : List String) :
    (∀ (d : Document) (rest : List Char), ∃ ls,
      readTuple ((Sql.tuple d .escaped fields).text.toList ++ rest) = some (ls, rest) ∧
      List.Forall₂ (fun key l => Shows (d.get? key) l) fields ls) ∧
    (∀ (path : String) (s : Scene) (ds : List Document),
      loadDocuments s.workspace path = .ok ds →
        ∃ s', (statements ⟨path, table, fields, true⟩).run.run s =
          (.ok (escapedStatements table fields ds), s')) ∧
    ∀ (sink : Sink), sink.limit = none → ∀ ds es : List Document,
      (sink.writeStatements (escapedStatements table fields ds)).1.taken =
          (sink.writeStatements (escapedStatements table fields es)).1.taken ↔
        List.Forall₂ (fun d e => ∀ key ∈ fields, Alike (d.get? key) (e.get? key)) ds es := by
  refine ⟨fun d rest => ?tuple, fun path s ds hload => ?run, fun sink hlimit ds es => ?bytes⟩
  case tuple =>
    refine ⟨_, readTuple_tuple d fields rest, List.forall₂_map_right_iff.mpr ?_⟩
    exact List.forall₂_same.mpr fun key _ => Sql.shows_ofField d key
  case run =>
    have hrun := run_statements ⟨path, table, fields, true⟩ hload
    rwa [SqlRequest.render, List.map_map] at hrun
  case bytes =>
    rw [← toList_joinLines_eq_iff table, Sink.taken_writeStatements hlimit,
      Sink.taken_writeStatements hlimit, List.append_right_inj, Sink.bytesOf_injective.eq_iff,
      String.toList_inj]

/-- A text that looks like the end of its literal and the start of another one. -/
def forging : Document :=
  .ofList [("name", .text "x', 'y"), ("note", .null)]

def forgingScene : Scene :=
  .initial ⟨.ofList [("in.json", .file (outputText [forging]).toUTF8)]⟩ none

/-- The forged text is not taken for two texts, and an absent field shows like a null. -/
theorem escaped_statements_decode_forging :
    (∃ ls, readTuple ((Sql.tuple forging .escaped ["name", "note"]).text.toList ++ [';']) =
        some (ls, [';']) ∧
      List.Forall₂ (fun key l => Shows (forging.get? key) l) ["name", "note"] ls) ∧
    loadDocuments forgingScene.workspace "in.json" = .ok [forging] ∧
    (∃ s', (statements ⟨"in.json", "t", ["name", "note"], true⟩).run.run forgingScene =
      (.ok (escapedStatements "t" ["name", "note"] [forging]), s')) ∧
    Sink.endless.limit = none ∧
    (Sink.endless.writeStatements (escapedStatements "t" ["name", "note"] [forging])).1.taken =
      (Sink.endless.writeStatements (escapedStatements "t" ["name", "note"]
        [.ofList [("name", .text "x', 'y")]])).1.taken ∧
    (Sink.endless.writeStatements (escapedStatements "t" ["name", "note"] [forging])).1.taken ≠
      (Sink.endless.writeStatements (escapedStatements "t" ["name", "note"]
        [.ofList [("name", .text "x"), ("note", .text "y")]])).1.taken := by
  obtain ⟨htuple, hrun, hbytes⟩ := escaped_statements_decode "t" ["name", "note"]
  have hfree : ∀ d ∈ [forging], d.FloatFree := by decide
  have hload : loadDocuments forgingScene.workspace "in.json" = .ok [forging] :=
    loadDocuments_of_readBytes hfree rfl
  refine ⟨htuple forging [';'], hload, hrun _ _ _ hload, rfl, ?alike, ?apart⟩
  case alike =>
    refine (hbytes Sink.endless rfl _ _).mpr (.cons (fun key hkey => ?_) .nil)
    rcases List.mem_pair.mp hkey with rfl | rfl
    · exact .values (by decide) (by decide) rfl
    · exact .noValue (by decide) (by decide)
  case apart =>
    intro h
    have hname := (List.forall₂_cons.mp ((hbytes Sink.endless rfl _ _).mp h)).1 "name" (by simp)
    rcases hname with ⟨hnone, -⟩ | ⟨-, -, htext⟩
    · exact absurd hnone (by decide)
    · exact absurd htext (by decide)

end FieldNorm.Command
