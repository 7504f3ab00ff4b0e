import FieldNorm.Rule.Basic

/-!
Pipelines: lists of rules that are applied to a document one after the other. The first rule
that fails ends the run, and the document is left as the rules before it have made it.
-/

namespace FieldNorm

/-- A list of rules in the order of their application. -/
structure Pipeline where
  rules : List Rule
deriving DecidableEq, Inhabited

/-- What the application of a pipeline to a document comes to. -/
structure Run where
  /-- The document as the run leaves it, also when it fails. -/
  document : Document
  /-- What the run reports, in order. -/
  events : List Log.Event
  /-- The fields that some rule has changed, in the order of their first change. -/
  result : Except KeyMissing (List String)

namespace Pipeline

def empty : Pipeline := ⟨[]⟩

def push (p : Pipeline) (rule : Rule) : Pipeline := ⟨p.rules ++ [rule]⟩

def length (p : Pipeline) : Nat := p.rules.length

def isEmpty (p : Pipeline) : Bool := p.rules.isEmpty

/-- Replaces every stamp by one for `version` at the end; without a version the stamps stay. -/
def withSchemaVersion (p : Pipeline) : (version : Option Value) → Pipeline
  | none => p
  | some version =>
    ⟨p.rules.filter (fun rule => !rule.isStamp) ++ [.stampSchema (some version)]⟩

/-- Equality of pipelines with floats compared as numbers. -/
def numericallyEqual (p q : Pipeline) : Bool :=
  p.length == q.length && (p.rules.zip q.rules).all fun (r, s) => r.numericallyEqual s

/-! ### Application -/

/-- Notes that a field has changed. -/
def note (field : String) (changed : List String) : List String :=
  if changed.contains field then changed else changed ++ [field]

/-- Applies rules to a document in which the fields `changed` have changed before. A field
counts as changed by a rule if its presence or its value is not the same, bits of floats
included. -/
def applyRules (d : Document) (changed : List String) : List Rule → Run
  | [] => { document := d, events := [], result := .ok changed }
  | rule :: rules =>
    match rule.apply d with
    | .error e => { document := d, events := [], result := .error e }
    | .ok (after, events) =>
      let isSame : Bool := d.get? rule.target = after.get? rule.target
      let run :=
        applyRules after (if isSame then changed else note rule.target changed) rules
      { run with events := events ++ run.events }

/-- Applies the rules to a document and reports the numbers of rules and of changed fields if
all of them succeed. -/
def apply (p : Pipeline) (d : Document) : Run :=
  let run := applyRules d [] p.rules
  match run.result with
  | .error _ => run
  | .ok changed =>
    { run with
      events := run.events ++
        [{ level := .debug, source := .pipeline, message := "normalized document",
           data := [("rules", .number p.length), ("changed", .number changed.length)] }] }

end Pipeline

end FieldNorm
