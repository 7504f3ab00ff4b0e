import FieldNorm.Command.Grammar
import FieldNorm.Command.Normalize
import FieldNorm.Command.Statements

/-!
The command line of the program: two subcommands, and options of the log that may stand in
front of the subcommand or behind it. An option that stands in both places counts as it stands
behind the subcommand.
-/

namespace FieldNorm.Command

/-! ### What a command line asks for -/

/-- When colours are used. -/
inductive ColourChoice
  | auto | always | never
deriving DecidableEq

inductive Subcommand
  | normalize (request : NormalizeRequest)
  | sql (request : SqlRequest)
deriving DecidableEq

/-- A command line that can be carried out. -/
structure Invocation where
  subcommand : Subcommand
  /-- How much the `-v` and `-q` flags ask for. -/
  verbosity : Log.Detail
  /-- Whether any of these flags is there. -/
  hasVerbosity : Bool
  colour : ColourChoice
  level : Option Log.Level
  format : Log.Format
  logFile : Option String
  /-- Whether the contents of documents may be shown in the log. -/
  showsData : Bool
deriving DecidableEq

/-! ### The grammar -/

def levels : List (String × Log.Level) :=
  [("error", .error), ("warn", .warn), ("info", .info), ("debug", .debug), ("trace", .trace)]

def formats : List (String × Log.Format) :=
  [("pretty", .pretty), ("compact", .compact), ("json", .json)]

def colourChoices : List (String × ColourChoice) :=
  [("auto", .auto), ("always", .always), ("never", .never)]

def helpOption : Parameter := { name := "help", short := some 'h', arity := .help }

def versionOption : Parameter := { name := "version", short := some 'V', arity := .version }

/-- The options that may stand at either level. -/
def sharedOptions : List Parameter :=
  [{ name := "verbose", short := some 'v', arity := .count },
   { name := "quiet", short := some 'q', arity := .count },
   { name := "color", arity := .single, metavar := "WHEN",
     rule := .oneOf (colourChoices.map (·.1)) },
   { name := "log-level", arity := .single, metavar := "LOG_LEVEL",
     rule := .oneOf (levels.map (·.1)) },
   { name := "log-format", arity := .single, metavar := "LOG_FORMAT",
     rule := .oneOf (formats.map (·.1)) },
   { name := "log-file", arity := .single, metavar := "PATH", rule := .notEmpty },
   { name := "log-data", arity := .flag }]

def inputArgument : Parameter :=
  { name := "INPUT", arity := .single, metavar := "INPUT", rule := .notEmpty,
    isPlaced := true, isRequired := true }

def exclusions : List (String × String) := [("verbose", "quiet")]

/-- What stands in front of the subcommand. -/
def outerGrammar : Grammar where
  parameters := sharedOptions ++ [helpOption, versionOption]
  subcommands := ["normalize", "sql", "help"]
  conflicts := exclusions

def normalizeGrammar : Grammar where
  parameters :=
    [{ name := "rules", arity := .single, metavar := "FILE", rule := .notEmpty,
       isRequired := true },
     { name := "output", short := some 'o', arity := .single, metavar := "FILE",
       rule := .notEmpty },
     { name := "schema-version", arity := .single, metavar := "VERSION" },
     inputArgument, helpOption] ++ sharedOptions
  subcommands := []
  conflicts := exclusions

def sqlGrammar : Grammar where
  parameters :=
    [{ name := "table", arity := .single, metavar := "NAME", isRequired := true },
     { name := "fields", arity := .many, metavar := "FIELDS", isRequired := true },
     { name := "escape", arity := .flag },
     inputArgument, helpOption] ++ sharedOptions
  subcommands := []
  conflicts := exclusions

/-! ### Reading a command line -/

/-- The detail of the flags: warnings, more for every `-v` and less for every `-q`. -/
def detailOfFlags (verbose quiet : Nat) : Log.Detail := ⟨min 5 (2 + verbose - quiet)⟩

/-- The only value of an option. -/
def Matches.value? (m : Matches) (name : String) : Option String := (m.values name).head?

/-- Combines what was given at the two levels; the inner one comes first. -/
def invocationOf (subcommand : Subcommand) (inner outer : Matches) : Invocation :=
  let value? (name : String) : Option String := (inner ++ outer).value? name
  let verbose := Matches.times (inner ++ outer) "verbose"
  let quiet := Matches.times (inner ++ outer) "quiet"
  { subcommand := subcommand
    verbosity := detailOfFlags verbose quiet
    hasVerbosity := 0 < verbose || 0 < quiet
    colour := ((value? "color").bind fun s => colourChoices.lookup s).getD .auto
    level := (value? "log-level").bind fun s => levels.lookup s
    format := ((value? "log-format").bind fun s => formats.lookup s).getD .pretty
    logFile := value? "log-file"
    showsData := (Matches.get? (inner ++ outer) "log-data").isSome }

def normalizeRequest (m : Matches) : NormalizeRequest where
  input := (m.value? "INPUT").getD ""
  rules := (m.value? "rules").getD ""
  output := m.value? "output"
  schemaVersion := m.value? "schema-version"

def sqlRequest (m : Matches) : SqlRequest where
  input := (m.value? "INPUT").getD ""
  table := (m.value? "table").getD ""
  fields := m.values "fields"
  escape := (m.get? "escape").isSome

/-- What `help` and the words behind it ask for: help on a subcommand that exists. -/
def helpOn : List String → ArgumentError
  | [] => .helpRequested
  | word :: rest =>
    if outerGrammar.subcommands.contains word then
      match rest with
      | [] => .helpRequested
      | other :: _ => .unknownSubcommand other
    else .unknownSubcommand word

/-- Reads the arguments of a subcommand. -/
def scanInner (g : Grammar) (arguments : List String) : Except ArgumentError Matches :=
  match g.scan .start arguments with
  | .error e => .error e
  | .ok (p, _) =>
    match p.settle with
    | .error e => .error e
    | .ok p => (g.check p.given).map fun _ => p.given

/-- Completes and checks what stands in front of the subcommand. -/
def finishOuter (p : Progress) : Except ArgumentError Matches :=
  match p.settle with
  | .error e => .error e
  | .ok p => (outerGrammar.check p.given).map fun _ => p.given

/-- Reads a command line, from which the name of the program is gone. What stands behind the
subcommand is checked before what stands in front of it. -/
def Invocation.read (arguments : List String) : Except ArgumentError Invocation := do
  let (p, rest) ← outerGrammar.scan .start arguments
  match rest with
  | none =>
    let p ← p.settle
    .error (if p.given.isEmpty then .nothingRequested else .missingSubcommand)
  | some (name, rest) =>
    if name = "help" then .error (helpOn rest)
    else if name = "normalize" then
      let inner ← scanInner normalizeGrammar rest
      let outer ← finishOuter p
      return invocationOf (.normalize (normalizeRequest inner)) inner outer
    else
      let inner ← scanInner sqlGrammar rest
      let outer ← finishOuter p
      return invocationOf (.sql (sqlRequest inner)) inner outer

end FieldNorm.Command
