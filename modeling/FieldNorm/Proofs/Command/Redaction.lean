import FieldNorm.Proofs.Command.Resemblance
import FieldNorm.Proofs.Pipeline.Alike
import Mathlib.Data.List.Forall2

/-!
What a normalize command tells of the values in its documents, unless it may show them.

* `Batch.runFrom_alike`: a batch reports the same of documents that are alike, and comes to the same
  totals or fails at the same index for want of the same key.
* `NormalizeRequest.sameFrom_complete`: so does the end of a command, whatever is written.
* `normalize_of_alike`: so does a command as a whole, and its log is the same.

The documents are those the command loads, once it has told what it is doing; by
`NormalizeRequest.loadDocuments_loadingScene_iff` they are those found before it, unless the log is
kept in the input.
-/

namespace FieldNorm.Command

open Command.Task
open Workspace (keyOf)

variable {request : NormalizeRequest} {s s' : Scene} {keys : List String} {loaded : Pipeline}
  {ds ds' : List Document}

/-! ### Batches -/

namespace Batch

variable {p : Pipeline}

/-- Nothing is told of the contents of a document. -/
lemma documentEvents_false (index : Nat) (d e : Document) (changed : List String) :
    documentEvents false index e changed = documentEvents false index d changed := rfl

/-- A document put in front of the others is no part of the totals. -/
lemma map_snd_map (result : Except (Nat × KeyMissing) (List Document × Totals)) (d : Document) :
    (result.map fun (ds, t) => (d :: ds, t)).map (·.2) = result.map (·.2) := by
  cases result <;> rfl

/-- **A batch reports the same of documents that are alike**, and comes to the same totals or fails
at the same index for want of the same key. -/
lemma runFrom_alike (h : List.Forall₂ Document.Alike ds ds') (index : Nat) (t : Totals) :
    (runFrom p false index t ds').events = (runFrom p false index t ds).events ∧
      (runFrom p false index t ds').result.map (·.2) =
        (runFrom p false index t ds).result.map (·.2) := by
  induction h generalizing index t with
  | nil => exact ⟨rfl, rfl⟩
  | @cons d e ds ds' hd hds ih =>
      have hrun := p.apply_alike hd
      rw [runFrom, runFrom, hrun.result_eq]
      cases hresult : (p.apply d).result with
      | error error => exact ⟨hrun.events_eq, rfl⟩
      | ok changed =>
          obtain ⟨hevents, hlater⟩ := ih (index + 1) (count changed t)
          refine ⟨?events, ?totals⟩
          case events =>
            dsimp only
            rw [hrun.events_eq, hevents, documentEvents_false]
          case totals =>
            dsimp only
            rw [map_snd_map, map_snd_map, hlater]

end Batch

/-! ### Commands -/

namespace NormalizeRequest

lemma sameFrom_closing (h : s.Resembles keys s') (events : List Log.Event)
    (report : NormalizeReport) :
    SameFrom keys s s' (do Task.report events; return report)
      (do Task.report events; return report) :=
  (sameFrom_report h events).bind fun _ _ _ hscenes => sameFrom_pure hscenes report

/-- The end of a command tells nothing of the documents it writes. -/
lemma sameFrom_complete (h : s.Resembles keys s')
    (houtput : Scene.outputKeys request.output ⊆ keys) (es es' : List Document)
    (totals : Totals) :
    SameFrom keys s s' (request.complete es totals) (request.complete es' totals) := by
  rw [complete, complete]
  cases hpath : request.output with
  | some path =>
      have hkey : keyOf path ∈ keys := houtput (by simp [Scene.outputKeys, hpath])
      exact (sameFrom_write h hkey _ _).bind fun _ _ _ hscenes => sameFrom_closing hscenes _ _
  | none =>
      exact (sameFrom_print h _ _).bind fun _ _ _ hscenes => sameFrom_closing hscenes _ _

/-- Behind batches that come to the same totals, or fail alike, a command ends alike. -/
lemma sameFrom_ending (h : s.Resembles keys s') (houtput : Scene.outputKeys request.output ⊆ keys)
    (result result' : Except (Nat × KeyMissing) (List Document × Totals)) :
    result'.map (·.2) = result.map (·.2) → SameFrom keys s s'
      (match result with
        | .error (index, e) => throw ⟨some (.normalizeDocument index), .keyMissing e⟩
        | .ok (normalized, totals) => request.complete normalized totals)
      (match result' with
        | .error (index, e) => throw ⟨some (.normalizeDocument index), .keyMissing e⟩
        | .ok (normalized, totals) => request.complete normalized totals) := by
  intro hresult
  cases result with
  | error e =>
      cases result' with
      | error e' =>
          obtain rfl : e' = e := Except.error.inj hresult
          exact sameFrom_throw h _
      | ok found => cases hresult
  | ok found =>
      cases result' with
      | error e => cases hresult
      | ok found' =>
          have htotals : found'.2 = found.2 := Except.ok.inj hresult
          dsimp only
          rw [htotals]
          exact sameFrom_complete h houtput _ _ _

/-- The scene in which a command loads its documents: it has told what it is doing and has warned of
a file without rules. -/
def loadingScene (request : NormalizeRequest) (loaded : Pipeline) (s : Scene) : Scene :=
  Scene.report
    { s with span := some { name := "normalize", datumName := "input", datum := request.input } }
    (ruleWarnings request.rules loaded)

/-- Unless the log is kept in the same file, the documents are loaded as they were before the
command. -/
lemma loadDocuments_loadingScene_iff (hlog : keyOf request.input ∉ s.logKeys) :
    loadDocuments (request.loadingScene loaded s).workspace request.input = .ok ds ↔
      loadDocuments s.workspace request.input = .ok ds := by
  let m : Scene :=
    { s with span := some { name := "normalize", datumName := "input", datum := request.input } }
  exact loadDocuments_iff_of_sameBut (m.onlyLogs_report _).files hlog

end NormalizeRequest

/-- **The log of a command does not depend on the values in its documents.** From files that differ
only in what the input holds, and where the rules are loaded alike and the documents as lists that
are alike one by one, a command that may not show values comes to the same result: the same totals,
or the same document misses the same key, or something else fails alike. It reports the same events
in the same span, and writes the same messages and the same log; files differ only in what the
input and the output hold. -/
theorem normalize_of_alike (request : NormalizeRequest) (s : Scene) (w' : Workspace)
    (hfiles : s.workspace.Resembles [keyOf request.input] w')
    (hrules : loadPipeline w' request.rules = loadPipeline s.workspace request.rules)
    (hdocuments : ∀ loaded, loadPipeline s.workspace request.rules = .ok loaded → ∃ ds ds',
      loadDocuments (request.loadingScene loaded s).workspace request.input = .ok ds ∧
      loadDocuments (request.loadingScene loaded { s with workspace := w' }).workspace
        request.input = .ok ds' ∧
      List.Forall₂ Document.Alike ds ds') :
    ∃ result m m',
      (normalize request false).run.run s = (result, m) ∧
      (normalize request false).run.run { s with workspace := w' } = (result, m') ∧
      m'.events = m.events ∧ m'.span = m.span ∧ m'.messages = m.messages ∧
      m.workspace.Resembles (keyOf request.input :: Scene.outputKeys request.output)
        m'.workspace := by
  let keys := keyOf request.input :: Scene.outputKeys request.output
  let span : Log.Span := { name := "normalize", datumName := "input", datum := request.input }
  have henter : ∀ m : Scene, (Task.enter span).run.run m = (.ok (), { m with span := some span }) :=
    fun _ => rfl
  have hentered : Scene.Resembles keys { s with span := some span }
      { s with workspace := w', span := some span } :=
    ⟨hfiles.mono (by simp [keys]), rfl, rfl, rfl, rfl⟩
  have hsame : SameFrom keys s { s with workspace := w' } (normalize request false)
      (normalize request false) := by
    rw [normalize]
    refine .of_run (henter s) (henter _) ?_
    cases hloaded : loadPipeline s.workspace request.rules with
    | error e =>
        exact .of_run_error hentered (load_run_error hloaded)
          (load_run_error (hrules.trans hloaded))
    | ok loaded =>
        obtain ⟨ds, ds', hds, hds', halike⟩ := hdocuments loaded hloaded
        obtain ⟨hevents, hresult⟩ :=
          Batch.runFrom_alike (p := request.pipeline loaded) halike 0 ⟨0, 0, .empty⟩
        have hlength : ds'.length = ds.length := halike.length_eq.symm
        refine .of_run (load_run hloaded) (load_run (hrules.trans hloaded)) ?_
        refine .of_run (report_run _ _) (report_run _ _) ?_
        refine .of_run (load_run hds) (load_run hds') ?_
        dsimp only
        rw [hlength, Batch.run, Batch.run, hevents]
        refine (sameFrom_report (hentered.report _) _).bind fun _ m m' hscenes => ?_
        refine (sameFrom_report hscenes _).bind fun _ m m' hscenes => ?_
        exact NormalizeRequest.sameFrom_ending hscenes (List.subset_cons_self _ _) _ _ hresult
  obtain ⟨result, m, m', hrun, hrun', hscenes⟩ := hsame
  exact ⟨result, m, m', hrun, hrun', hscenes.events_eq, hscenes.span_eq, hscenes.messages_eq,
    hscenes.files⟩

/-- A document with a balance and a note. -/
def account (balance : Value) : Document :=
  .ofList [("balance", balance), ("note", .text "null"), ("schema", .integer 1)]

def accountText (balance : String) : String :=
  "[\x7b\"balance\": " ++ balance ++ ", \"note\": \"null\", \"schema\": 1\x7d]"

/-- The file of the document, and rules that put something in the place of the note. -/
def ledger (balance : String) : Workspace where
  entries := .ofList
    [("in.json", .file (accountText balance).toUTF8),
      ("rules.json", .file ("\x7b\"rules\": [\x7b\"op\": \"replace_null\", " ++
        "\"field\": \"note\", \"value\": \"none\"\x7d]\x7d").toUTF8)]

/-- Everything is logged. -/
def ledgerScene (balance : String) : Scene :=
  .initial (ledger balance)
    (some { filter := .standard (.upTo .trace), layout := ⟨.json, false⟩, file := none })

def ledgerRequest : NormalizeRequest where
  input := "in.json"
  rules := "rules.json"
  output := none
  schemaVersion := some "1"

lemma loadDocuments_ledger_number :
    loadDocuments (ledger "12.5") "in.json" = .ok [account (.float ⟨0x4029000000000000⟩)] := by
  decide +kernel

lemma loadDocuments_ledger_text :
    loadDocuments (ledger "\"high\"") "in.json" = .ok [account (.text "high")] := by
  decide +kernel

lemma alike_accounts :
    (account (.float ⟨0x4029000000000000⟩)).Alike (account (.text "high")) := by
  have hinsert : account (.text "high") = FieldMap.insert (account (.float ⟨0x4029000000000000⟩))
      "balance" (.text "high") := by decide +kernel
  have hbalance : (account (.float ⟨0x4029000000000000⟩)).get? "balance" =
      some (.float ⟨0x4029000000000000⟩) := by rfl
  rw [hinsert]
  exact Document.alike_insert hbalance (by decide) (by decide) (by decide)

lemma resembles_ledgers : (ledger "12.5").Resembles [keyOf "in.json"] (ledger "\"high\"") := by
  obtain ⟨content, hread⟩ : ∃ content, (ledger "12.5").readBytes "in.json" = .ok content :=
    ⟨_, by rfl⟩
  have hwrite : (ledger "12.5").write "in.json" (accountText "\"high\"") =
      .ok (ledger "\"high\"") := by decide +kernel
  exact .of_update hread hwrite

/-- A number and a text are put out for the balance, and the logs are the same. -/
theorem normalize_of_alike_ledgers :
    ((normalize ledgerRequest false).run.run (ledgerScene "12.5")).2.output ≠
      ((normalize ledgerRequest false).run.run (ledgerScene "\"high\"")).2.output ∧
    ∃ result m m',
      (normalize ledgerRequest false).run.run (ledgerScene "12.5") = (result, m) ∧
      (normalize ledgerRequest false).run.run (ledgerScene "\"high\"") = (result, m') ∧
      result.toOption.isSome ∧ m'.events = m.events ∧ m'.messages = m.messages ∧
      m.messages ≠ "" := by
  have hlog : ∀ balance, keyOf ledgerRequest.input ∉ (ledgerScene balance).logKeys := fun _ => nofun
  obtain ⟨result, m, m', hrun, hrun', hevents, -, hmessages, -⟩ :=
    normalize_of_alike ledgerRequest (ledgerScene "12.5") (ledger "\"high\"") resembles_ledgers
      (by decide +kernel) fun loaded _ =>
        ⟨_, _, (NormalizeRequest.loadDocuments_loadingScene_iff (hlog _)).mpr
            loadDocuments_ledger_number,
          (NormalizeRequest.loadDocuments_loadingScene_iff (hlog "\"high\"")).mpr
            loadDocuments_ledger_text,
          .cons alike_accounts .nil⟩
  have hsucceeds :
      ((normalize ledgerRequest false).run.run (ledgerScene "12.5")).1.toOption.isSome := by
    decide +kernel
  have hlogged :
      ((normalize ledgerRequest false).run.run (ledgerScene "12.5")).2.messages ≠ "" := by
    decide +kernel
  rw [hrun] at hsucceeds hlogged
  exact ⟨by decide +kernel, result, m, m', hrun, hrun', hsucceeds, hevents, hmessages, hlogged⟩

end FieldNorm.Command
