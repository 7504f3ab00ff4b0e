import FieldNorm.Log.Directive

/-!
Filters choose what is shown: a filter is a list of directives. Of those about an event by
itself, the narrowest decides, and of several with the same subject the last. An event inside a
span is also shown if a directive about the span admits it. Where no directive fits, nothing is
shown. Some events are made on demand only: then the filter is asked twice, first without their
data.
-/

namespace FieldNorm.Log

abbrev Filter := List Directive

namespace Filter

/-! ### Events and spans by themselves -/

/-- The narrowest of the directives that fit. -/
def deciding (f : Filter) (fits : Subject → Bool) : Option Directive :=
  f.foldl (fun best d =>
    if !fits d.subject then best
    else match best with
      | some b => if b.subject.isAtMost d.subject then some d else some b
      | none => some d) none

/-- Whether the directives that fit admit a level. -/
def admits (f : Filter) (fits : Subject → Bool) (level : Level) : Bool :=
  match f.deciding fits with
  | some d => d.detail.admits level
  | none => false

/-! ### Inside a span -/

/-- The directives about spans; of several with the same subject, the last one. -/
def scopes : Filter → List Directive
  | [] => []
  | d :: ds =>
    if d.subject.isScope && !ds.any (·.subject = d.subject) then d :: scopes ds else scopes ds

/-- Up to which detail the events inside a span are shown because of it, if any directive is
about the span. -/
def scope? (f : Filter) (span : Span) : Option Detail :=
  match f.scopes.filter (·.subject.concerns span) with
  | [] => none
  | ds =>
    let ranks := (ds.filter (·.subject.admitsDatum span)).map (·.detail.rank)
    some ⟨ranks.foldl max 0⟩

/-- The greatest detail that the filter may admit. Where the value of a field is asked for, every
span has to be looked at. -/
def bound (f : Filter) : Detail :=
  if f.any (·.subject.asksValue) then .upTo .trace
  else ⟨(f.map (·.detail.rank)).foldl max 0⟩

/-- Whether a span is shown. One that is not shown is left out of the lines of the events inside
it, and admits none of them. -/
def showsSpan (f : Filter) (span : Span) : Bool :=
  f.bound.admits Span.level &&
    ((f.scope? span).isSome || f.admits (·.fitsSource Span.source) Span.level)

/-- Whether the events of a level are shown because of the span that they happen inside. -/
def admitsInside (f : Filter) (span : Option Span) (level : Level) : Bool :=
  match span with
  | none => false
  | some span => f.showsSpan span && ((f.scope? span).map (·.admits level)).getD false

/-- Whether events of a source and level are wanted at all, whatever their data. A directive
about a field counts here like one about the source, even if few events have the field. -/
def wants (f : Filter) (span : Option Span) (source : Source) (level : Level) : Bool :=
  f.admits (·.fitsSource source) level || f.admitsInside span level

/-- Whether an event is shown that happens inside a span or outside all spans. -/
def showsEvent (f : Filter) (span : Option Span) (e : Event) : Bool :=
  (!e.isOnDemand || f.wants span e.source e.level) &&
    (f.admits (·.fitsEvent e) e.level || f.admitsInside span e.level)

/-! ### Filters -/

/-- The filter of a run with a given detail; what is foreign to the program is shown from
warnings on. -/
def standard (detail : Detail) : Filter :=
  ⟨.all, .upTo .warn⟩ ::
    ["docmig", "docmig_cli", "docmig_model", "docmig_normalization"].map
      fun target => ⟨.ofTarget target, detail⟩

/-- The filter of a text without directives. -/
def bare : Filter := [⟨.all, .upTo .error⟩]

/-- Reads a list of directives with commas between them; one that cannot be read spoils all. -/
def read (text : String) : Option Filter :=
  (((Text.cut ',' text.toList).filter (!·.isEmpty)).mapM Directive.read).map fun f =>
    if f.isEmpty then bare else f

end Filter

end FieldNorm.Log
