import FieldNorm.Proofs.Command.FixedPoint
import FieldNorm.Proofs.Document.Rereading
import FieldNorm.Proofs.Pipeline.Fieldwise

/-!
Floats through any number of normalize commands.

* `documentsOfText_outputText_eq_reread`: what is put out is always loaded again, with its values
  reread.
* `Relay`: normalize commands, each on the text that the one before has put out, none of which has a
  rule for the field. `Relay.exists_documents` says that each of them rereads the field once.
* `floats_through_json`: so a float stays where it is if one reading leaves it there, and is finite,
  with the same sign and almost the same size, if not.
-/

namespace FieldNorm.Command

variable {request : NormalizeRequest} {showsData : Bool} {s s' : Scene} {path path' key : String}
  {text text' first : String} {ds : List Document} {d : Document} {runs : Nat} {p : Pipeline}
  {report : NormalizeReport} {x : Double}

/-! ### Loading what is put out -/

lemma documentsFrom_rereadJson (index : Nat) (ds : List Document) :
    documentsFrom index (ds.map Document.rereadJson) = .ok (ds.map Document.reread) := by
  induction ds generalizing index with
  | nil => rfl
  | cons d ds ih => simp only [List.map_cons, documentsFrom, Document.ofJson_rereadJson, ih]

lemma parse_outputText_eq_rereadJson (ds : List Document) :
    Json.parse (outputText ds) = .ok (.array (ds.map Document.rereadJson)) := by
  have htext : outputText ds = String.ofList ((Json.Spacing.lines 0).enclosed '[' ']'
      (ds.map fun d => d.toJson.prettyAt 1) ++ ['\n']) := by
    have harray := Json.laidOut_prettyAt.array 0 (ds.map Document.toJson)
    rw [List.map_map] at harray
    rw [outputText, Document.prettyList, String.ofList_append, Json.pretty, harray]
    rfl
  rw [htext]
  exact Json.Reader.readAll_eq_ok (Json.Reader.valueWith_reads_array
    (fun d _ => d.reads_pretty _ 1) (Json.Spacing.lines 0)) (by simp [Json.AllBlank, Json.isBlank])

/-- **What is put out is always loaded again**, with its values reread. -/
lemma documentsOfText_outputText_eq_reread (path : String) (ds : List Document) :
    documentsOfText path (outputText ds) = .ok (ds.map Document.reread) := by
  simp only [documentsOfText, parse_outputText_eq_rereadJson, documentsFrom_rereadJson]

/-- So is a file that holds what is put out. -/
lemma loadDocuments_eq_reread {w : Workspace} (h : w.readBytes path = .ok (outputText ds).toUTF8) :
    loadDocuments w path = .ok (ds.map Document.reread) := by
  simp only [loadDocuments, readText_of_readBytes h, documentsOfText_outputText_eq_reread]

/-- The path stands in messages only. -/
lemma documentsOfText_path (h : documentsOfText path text = .ok ds) (path' : String) :
    documentsOfText path' text = .ok ds := by
  rw [documentsOfText] at h ⊢
  split at h <;> simp_all

/-! ### One command -/

/-- There is one text that is shown. -/
lemma Scene.Shows.unique {output : Option String} (h : s.Shows output text s')
    (h' : s.Shows output text' s') : text = text' := by
  have hbytes : text.toUTF8 = text'.toUTF8 := by
    cases output with
    | some path => exact Except.ok.inj (Eq.trans (Eq.symm h) h')
    | none =>
        have hboth : (s.output ++ text.toUTF8).data = (s.output ++ text'.toUTF8).data :=
          congrArg ByteArray.data (Eq.trans (Eq.symm h) h')
        rw [ByteArray.data_append, ByteArray.data_append] at hboth
        exact ByteArray.ext (Array.append_right_inj _ |>.mp hboth)
  rw [String.toUTF8_eq_toByteArray, String.toUTF8_eq_toByteArray] at hbytes
  exact String.toByteArray_inj.mp hbytes

/-- **A normalize command between two texts**: it has loaded the documents of the one, and the
documents of the other are those that it has normalized, with their values reread. -/
lemma exists_normalized (hrun : (normalize request showsData).run.run s = (.ok report, s'))
    (hinput : s.workspace.readBytes request.input = .ok text.toUTF8) (hlog : s.LogsApart request)
    (hshows : s.Shows request.output text' s') (hds : documentsOfText path text = .ok ds)
    (path' : String) :
    ∃ p, loadPipeline s.workspace request.rules = .ok p ∧
      (∀ d ∈ ds, ((request.pipeline p).apply d).missing? = none) ∧
      documentsOfText path' text' = .ok ((request.normalized p ds).map Document.reread) := by
  -- what the command has loaded and put out is what the two texts say
  obtain ⟨p, loaded, hcourse⟩ := course_of_run hrun
  have hloaded : loadDocuments s.workspace request.input = .ok ds := by
    simp only [loadDocuments, readText_of_readBytes hinput]
    exact documentsOfText_path hds _
  obtain rfl := Except.ok.inj ((hcourse.loadDocuments_eq hlog.1).symm.trans hloaded)
  obtain rfl := (hcourse.shows hlog.2).unique hshows
  exact ⟨p, hcourse.rules_eq, hcourse.missing?_eq, documentsOfText_outputText_eq_reread _ _⟩

/-- A field that no rule has for its target is as it was. -/
lemma get?_apply_of_target_ne (hmissing : (p.apply d).missing? = none)
    (h : ∀ rule ∈ p.rules, rule.target ≠ key) : (p.apply d).document.get? key = d.get? key := by
  have happlies := Pipeline.applies_of_missing?_eq_none hmissing
  rw [happlies.get?_eq, Pipeline.fieldAfter_of_target_ne h]

/-! ### Any number of commands -/

/-- So many normalize commands lead from one text to the other. Each of them succeeds on a file with
the text that the one before it has put out, wherever the files are and whatever else the commands
are asked for; the log stands apart from the documents, and no rule has the field for its target. -/
inductive Relay (key : String) : (runs : Nat) → (first last : String) → Prop
  | refl (text : String) : Relay key 0 text text
  | step {runs : Nat} {first text text' : String} {request : NormalizeRequest} {showsData : Bool}
      {report : NormalizeReport} {s s' : Scene} (before : Relay key runs first text)
      (input : s.workspace.readBytes request.input = .ok text.toUTF8)
      (run : (normalize request showsData).run.run s = (.ok report, s'))
      (apart : s.LogsApart request)
      (untouched : ∀ p, loadPipeline s.workspace request.rules = .ok p →
        ∀ rule ∈ (request.pipeline p).rules, rule.target ≠ key)
      (shows : s.Shows request.output text' s') : Relay key (runs + 1) first text'

/-- **Each command rereads the field once.** -/
theorem Relay.exists_documents (h : Relay key runs first text)
    (hds : documentsOfText path first = .ok ds) (path' : String) :
    ∃ es, documentsOfText path' text = .ok es ∧
      es.map (·.get? key) = ds.map fun d => (d.get? key).map Value.reread^[runs] := by
  induction h generalizing path' with
  | refl text =>
      refine ⟨ds, documentsOfText_path hds path', List.map_congr_left fun d _ => ?_⟩
      rw [Function.iterate_zero, Option.map_id]
      rfl
  | @step runs first text text' request showsData report s s' before input run apart untouched shows
      ih =>
      obtain ⟨es, hes, hfields⟩ := ih hds path'
      obtain ⟨p, hp, hmissing, hafter⟩ := exists_normalized run input apart shows hes path'
      refine ⟨_, hafter, ?_⟩
      have hstep : ∀ e ∈ es, (((request.pipeline p).apply e).document.reread).get? key =
          (e.get? key).map Value.reread := by
        intro e he
        rw [Document.get?_reread, get?_apply_of_target_ne (hmissing e he) (untouched p hp)]
      calc ((request.normalized p es).map Document.reread).map (·.get? key)
          = es.map fun e => (((request.pipeline p).apply e).document.reread).get? key := by
            rw [NormalizeRequest.normalized, List.map_map, List.map_map]
            rfl
        _ = es.map fun e => (e.get? key).map Value.reread := List.map_congr_left hstep
        _ = (es.map (·.get? key)).map (Option.map Value.reread) := by
            rw [List.map_map]
            rfl
        _ = ds.map fun d => (d.get? key).map Value.reread^[runs + 1] := by
            rw [hfields, List.map_map]
            refine List.map_congr_left fun d _ => ?_
            rw [Function.comp_apply, Option.map_map, ← Function.iterate_succ']

/-- Where one reading leaves a float as it is, so does any number of commands. -/
lemma forall₂_of_map_get?_eq {es : List Document}
    (h : es.map (·.get? key) = ds.map fun d => (d.get? key).map Value.reread^[runs]) :
    List.Forall₂ (fun d e => ∀ x : Double, x.isFinite → d.get? key = some (.float x) →
      e.get? key = some (.float (Double.reread^[runs] x)) ∧
        (x.reread = x → e.get? key = d.get? key)) ds es := by
  have hfields : List.Forall₂ (fun d e => (d.get? key).map Value.reread^[runs] = e.get? key)
      ds es := by
    have hsame : List.Forall₂ (· = ·) (ds.map fun d => (d.get? key).map Value.reread^[runs])
        (es.map (·.get? key)) := h ▸ List.forall₂_refl _
    exact List.forall₂_map_left_iff.mp (List.forall₂_map_right_iff.mp hsame)
  refine hfields.imp fun d e he x hfinite hd => ?_
  rw [hd, Option.map_some, Value.iterate_reread_float hfinite] at he
  refine ⟨he.symm, fun hx => ?_⟩
  rw [hd, ← he, Function.iterate_fixed hx]

/-- **Floats through JSON.**

* The texts of a document with a finite float are always read, as the document with the float that
  the reader makes of its digits. That is a finite float of the same sign, and differs from the one
  that was written by a small part of it or by the smallest one. It does not differ if the digits
  are at most `2 ^ 53` and the power of ten is at most `1e22`.
* Through any number of normalize commands a float that no rule aims at is read as often as there
  are commands. So it is not changed if one reading does not change it. -/
theorem floats_through_json :
    (∀ (x : Double) (key : String), x.isFinite →
      (∀ text ∈ [(Document.ofFloat key x).compact, (Document.ofFloat key x).pretty],
        Document.read text = .ok (Document.ofFloat key x.reread)) ∧
      x.reread.isFinite ∧ x.reread.negative = x.negative ∧
      |x.reread.size - x.size| ≤ x.size / 2 ^ 49 + 2 ^ (-1074 : Int) ∧
      (x.written.coefficient ≤ 2 ^ 53 → x.written.exponent.natAbs ≤ 22 → x.reread = x)) ∧
    ∀ (key : String) (runs : Nat) (first last path path' : String) (ds : List Document),
      Relay key runs first last → documentsOfText path first = .ok ds →
        ∃ es, documentsOfText path' last = .ok es ∧
          List.Forall₂ (fun d e => ∀ x : Double, x.isFinite → d.get? key = some (.float x) →
            e.get? key = some (.float (Double.reread^[runs] x)) ∧
              (x.reread = x → e.get? key = d.get? key)) ds es := by
  refine ⟨fun x key hfinite => ⟨fun text htext => ?texts, Double.isFinite_reread hfinite,
    x.negative_reread, Double.abs_size_reread_sub_le hfinite, Double.reread_eq_self hfinite⟩,
    fun key runs first last path path' ds hrelay hds => ?runs⟩
  case texts =>
    rw [← Document.reread_ofFloat hfinite]
    rcases List.mem_pair.mp htext with rfl | rfl
    · exact Document.read_compact_eq_reread _
    · exact Document.read_pretty_eq_reread _
  case runs =>
    obtain ⟨es, hes, hfields⟩ := hrelay.exists_documents hds path'
    exact ⟨es, hes, forall₂_of_map_get?_eq hfields⟩

/-- The largest odd integer that is a double. With the zero behind the point it has more digits than
a double takes, and rounding them leads to its neighbour. -/
def largestOdd : Double := ⟨0x433fffffffffffff⟩

/-- **Not every float is read as it was written.** -/
theorem not_forall_read_ofFloat_eq_self :
    ¬ ∀ (x : Double) (key : String), x.isFinite →
      Document.read (Document.ofFloat key x).compact = .ok (Document.ofFloat key x) := by
  intro h
  have hfinite : largestOdd.isFinite := by decide
  have hread := h largestOdd "count" hfinite
  rw [Document.read_compact_eq_reread, Document.reread_ofFloat hfinite] at hread
  have hentries : [("count", Value.float largestOdd.reread)] =
      [("count", Value.float largestOdd)] :=
    congrArg FieldMap.entries (Except.ok.inj hread)
  have hmoves : largestOdd.reread ≠ largestOdd := by decide +kernel
  simp only [List.cons.injEq, Prod.mk.injEq, Value.float.injEq, true_and, and_true] at hentries
  exact hmoves hentries

/-- Two and a half. -/
def wide : Double := ⟨0x4004000000000000⟩

/-- A document with a float that the rules leave alone. -/
def gauged : Document := .ofList [("printer", .null), ("width", .float wide)]

def gaugedScene : Scene :=
  .initial
    { entries := .ofList
        [("in.json", .file (outputText [gauged]).toUTF8),
          ("rules.json", .file labellingText.toUTF8)] } none

def gaugedRequest : NormalizeRequest where
  input := "in.json"
  rules := "rules.json"
  output := some "out.json"
  schemaVersion := none

/-- Two commands lead from the text of the document to some text. -/
lemma exists_relay_gauged : ∃ last, Relay "width" 2 (outputText [gauged]) last := by
  have hrules : loadPipeline gaugedScene.workspace "rules.json" = .ok labelling :=
    loadPipeline_eq_ok_iff.mpr ⟨labellingText, readText_of_readBytes (by rfl), read_labellingText⟩
  have hinput : gaugedScene.workspace.readBytes "in.json" =
      .ok (outputText [gauged]).toUTF8 := by rfl
  have hdocuments : loadDocuments gaugedScene.workspace "in.json" = .ok [gauged.reread] :=
    loadDocuments_eq_reread hinput
  have hlog : gaugedScene.logKeys = [] := rfl
  obtain ⟨report, s', hrun, hcourse⟩ : ∃ report s',
      (normalize gaugedRequest false).run.run gaugedScene = (.ok report, s') ∧
        Course gaugedRequest labelling [gauged.reread] gaugedScene s' :=
    exists_run false hrules hdocuments (by simp [hlog]) (by decide +kernel) ⟨"", _, _, by rfl, rfl⟩
  have hshows := hcourse.shows (by simp [hlog])
  have hlog' : s'.logKeys = [] := hcourse.logKeys_eq.trans hlog
  let again : NormalizeRequest := { gaugedRequest with input := "out.json", output := none }
  have hrules' : loadPipeline s'.workspace again.rules = .ok labelling := by
    have hsame : s'.workspace.readBytes "rules.json" = .ok labellingText.toUTF8 :=
      (hcourse.files.readBytes_iff (by decide)).mpr (by rfl)
    exact loadPipeline_eq_ok_iff.mpr
      ⟨labellingText, readText_of_readBytes hsame, read_labellingText⟩
  have hinput' : s'.workspace.readBytes again.input =
      .ok (outputText (gaugedRequest.normalized labelling [gauged.reread])).toUTF8 := hshows
  obtain ⟨reported, t', hrun', hcourse'⟩ :=
    exists_run false hrules' (loadDocuments_eq_reread hinput') (by simp [hlog']) (by decide +kernel)
      ⟨"", _, rfl⟩
  have htargets : ∀ rule ∈ (gaugedRequest.pipeline labelling).rules, rule.target ≠ "width" := by
    decide
  refine ⟨_, ((Relay.refl _).step hinput hrun ⟨by simp [hlog], by simp [hlog]⟩ (fun p hp => ?_)
    hshows).step hinput' hrun' ⟨by simp [hlog'], nofun⟩ (fun p hp => ?_) (hcourse'.shows nofun)⟩
  · obtain rfl := Except.ok.inj (hp.symm.trans hrules)
    exact htargets
  · obtain rfl := Except.ok.inj (hp.symm.trans hrules')
    exact htargets

theorem floats_through_json_gauged :
    wide.isFinite ∧
    Document.read (Document.ofFloat "width" wide).pretty = .ok (Document.ofFloat "width" wide) ∧
    ∃ last, Relay "width" 2 (outputText [gauged]) last ∧
      ∃ e, documentsOfText "out.json" last = .ok [e] ∧ e.get? "width" = some (.float wide) := by
  have hfinite : wide.isFinite := by decide
  obtain ⟨htexts, -, -, -, hsame⟩ := floats_through_json.1 wide "width" hfinite
  have hstays : wide.reread = wide := hsame (by decide +kernel) (by decide +kernel)
  have hpretty := htexts _ (List.mem_cons_of_mem _ List.mem_cons_self)
  rw [hstays] at hpretty
  obtain ⟨last, hrelay⟩ := exists_relay_gauged
  have hdocuments := documentsOfText_outputText_eq_reread "in.json" [gauged]
  obtain ⟨es, hes, hfields⟩ :=
    floats_through_json.2 "width" 2 _ last "in.json" "out.json" _ hrelay hdocuments
  have hfile : gauged.reread.get? "width" = some (.float wide) := by
    rw [Document.get?_reread, show gauged.get? "width" = some (.float wide) from rfl,
      Option.map_some, Value.reread_float hfinite, hstays]
  obtain ⟨e, others, hfield, hothers, rfl⟩ := List.forall₂_cons_left_iff.mp hfields
  obtain rfl := List.forall₂_nil_left_iff.mp hothers
  exact ⟨hfinite, hpretty, last, hrelay, e, hes, ((hfield wide hfinite hfile).2 hstays).trans hfile⟩

end FieldNorm.Command
