import FieldNorm.Text.Cut

/-!
The grammar of command lines: options with and without values, in long and short form, and
arguments known by their place, up to the name of a subcommand.

`Grammar.scan` reads the arguments of one level from left to right. A value is checked only
when the next option or argument is taken up, so that an unknown argument right behind a bad
value is what is complained about.
-/

namespace FieldNorm.Command

/-! ### Parameters -/

/-- How often an option is given, and with how many values. -/
inductive Arity
  /-- At most once, without a value. -/
  | flag
  /-- Any number of times, without a value; only so many of them count. -/
  | count
  /-- At most once, with a value. -/
  | single
  /-- Any number of times, each with values between commas. -/
  | many
  /-- Asks for help and for nothing else. -/
  | help
  /-- Asks for the version and for nothing else. -/
  | version
deriving DecidableEq

def Arity.takesValue : Arity → Bool
  | .single | .many => true
  | _ => false

/-- Which values are good. -/
inductive ValueRule
  | any
  | notEmpty
  | oneOf (values : List String)
deriving DecidableEq

/-- An option, or an argument known by its place. -/
structure Parameter where
  /-- The long name of an option; how an argument is called. -/
  name : String
  short : Option Char := none
  arity : Arity
  /-- What stands for the value in messages. -/
  metavar : String := ""
  rule : ValueRule := .any
  isPlaced : Bool := false
  isRequired : Bool := false
deriving DecidableEq

/-- How a parameter is called in messages. -/
def Parameter.label (p : Parameter) : String :=
  if p.isPlaced then s!"<{p.metavar}>"
  else match p.arity with
    | .count => s!"--{p.name}..."
    | .single | .many => s!"--{p.name} <{p.metavar}>"
    | _ => s!"--{p.name}"

/-- The parameters and subcommands of one level of a command line. -/
structure Grammar where
  parameters : List Parameter
  subcommands : List String
  /-- Pairs of options that exclude each other. -/
  conflicts : List (String × String)

namespace Grammar

def long? (g : Grammar) (name : String) : Option Parameter :=
  g.parameters.find? fun p => !p.isPlaced && p.name = name

def short? (g : Grammar) (c : Char) : Option Parameter :=
  g.parameters.find? fun p => p.short = some c

def placed (g : Grammar) : List Parameter := g.parameters.filter (·.isPlaced)

end Grammar

/-! ### Errors -/

/-- Why a command line is not carried out. -/
inductive ArgumentError
  | helpRequested
  | versionRequested
  /-- Nothing was asked for, which is answered with help. -/
  | nothingRequested
  | unknownArgument (text : String)
  | unknownSubcommand (text : String)
  | missingSubcommand
  | missingArguments (labels : List String)
  | valueRequired (label : String)
  | invalidValue (value label : String)
  | unexpectedValue (value label : String)
  | repeated (label : String)
  | conflict (label other : String)
deriving DecidableEq

/-! ### What was given -/

/-- How many times an option that is counted counts at most. -/
def maxTimes : Nat := 255

/-- How often a parameter was given, and its values. -/
structure Given where
  times : Nat
  values : List String
deriving DecidableEq

/-- What was given, in the order in which the parameters were last taken up. -/
abbrev Matches := List (String × Given)

namespace Matches

def get? (m : Matches) (name : String) : Option Given := m.lookup name

def times (m : Matches) (name : String) : Nat := ((m.get? name).map (·.times)).getD 0

def values (m : Matches) (name : String) : List String :=
  ((m.get? name).map (·.values)).getD []

end Matches

/-- Checks one value. -/
def Parameter.check (p : Parameter) (value : String) : Except ArgumentError Unit :=
  let isGood := match p.rule with
    | .any => true
    | .notEmpty => value != ""
    | .oneOf values => values.contains value
  if isGood then .ok ()
  else if value = "" then .error (.valueRequired p.label)
  else .error (.invalidValue value p.label)

/-- Takes a parameter up with the values that were given to it. -/
def Parameter.take (p : Parameter) (values : List String) (m : Matches) :
    Except ArgumentError Matches := do
  match p.arity with
  | .help => .error .helpRequested
  | .version => .error .versionRequested
  | .flag =>
    if (m.get? p.name).isSome then .error (.repeated p.label)
    else .ok (m ++ [(p.name, ⟨1, []⟩)])
  | .count =>
    .ok (m.filter (·.1 != p.name) ++ [(p.name, ⟨min maxTimes (m.times p.name + 1), []⟩)])
  | .single =>
    match values with
    | [] => .error (.valueRequired p.label)
    | value :: _ =>
      if (m.get? p.name).isSome then .error (.repeated p.label)
      else
        p.check value
        .ok (m ++ [(p.name, ⟨1, [value]⟩)])
  | .many =>
    match values with
    | [] => .error (.valueRequired p.label)
    | value :: _ =>
      let pieces := Text.pieces ',' value
      pieces.forM p.check
      let given : Given := ⟨m.times p.name + 1, m.values p.name ++ pieces⟩
      .ok (m.filter (·.1 != p.name) ++ [(p.name, given)])

/-! ### Scanning -/

/-- A parameter that is being taken up, with its values so far. -/
structure Pending where
  parameter : Parameter
  values : List String

/-- How far a level has been read. -/
structure Progress where
  given : Matches
  pending : Option Pending
  /-- Whether the next argument is the value of the pending option, unless it looks like an
  option. -/
  awaits : Bool
  /-- How many placed arguments there were. -/
  places : Nat
  /-- Whether `--` has been read, behind which there are no options. -/
  onlyPlaced : Bool

namespace Progress

def start : Progress where
  given := []
  pending := none
  awaits := false
  places := 0
  onlyPlaced := false

/-- Completes the pending parameter. -/
def settle (p : Progress) : Except ArgumentError Progress :=
  match p.pending with
  | none => .ok { p with awaits := false }
  | some pending =>
    match pending.parameter.take pending.values p.given with
    | .error e => .error e
    | .ok given => .ok { p with given := given, pending := none, awaits := false }

/-- Takes a parameter up and completes it at once. -/
def takeNow (p : Progress) (parameter : Parameter) (values : List String) :
    Except ArgumentError Progress :=
  match p.settle with
  | .error e => .error e
  | .ok p =>
    match parameter.take values p.given with
    | .error e => .error e
    | .ok given => .ok { p with given := given }

/-- Takes an option up whose value is expected next. -/
def expectValue (p : Progress) (parameter : Parameter) : Except ArgumentError Progress :=
  match p.settle with
  | .error e => .error e
  | .ok p => .ok { p with pending := some ⟨parameter, []⟩, awaits := true }

/-- Takes an option up with the value attached to it, if there is one. -/
def takeOption (p : Progress) (parameter : Parameter) (attached : Option String) :
    Except ArgumentError Progress :=
  match attached with
  | some value => p.takeNow parameter [value]
  | none => p.expectValue parameter

end Progress

namespace Grammar

/-- Reads a long option; `text` follows the two dashes. -/
def scanLong (g : Grammar) (p : Progress) (text : List Char) :
    Except ArgumentError Progress :=
  let name := String.ofList (text.takeWhile (· != '='))
  let attached := match text.dropWhile (· != '=') with
    | [] => none
    | _ :: value => some (String.ofList value)
  match g.long? name with
  | none => .error (.unknownArgument ("--" ++ name))
  | some parameter =>
    if parameter.arity.takesValue then p.takeOption parameter attached
    else match attached with
      | some value => .error (.unexpectedValue value parameter.label)
      | none => p.takeNow parameter []

/-- Reads short options that stand together. The first that takes a value gets the rest of the
text, less an equals sign in front. -/
def scanShort (g : Grammar) (p : Progress) : List Char → Except ArgumentError Progress
  | [] => .ok p
  | c :: rest =>
    match g.short? c with
    | none => .error (.unknownArgument (String.ofList ['-', c]))
    | some parameter =>
      if parameter.arity.takesValue then
        p.takeOption parameter (match rest with
          | [] => none
          | '=' :: value => some (String.ofList value)
          | value => some (String.ofList value))
      else
        match p.takeNow parameter [] with
        | .error e => .error e
        | .ok p => g.scanShort p rest

/-- Why there is no place for an argument. -/
def noPlace (g : Grammar) (p : Progress) (argument : String) : ArgumentError :=
  if g.subcommands.isEmpty || (p.onlyPlaced && g.subcommands.contains argument) then
    .unknownArgument argument
  else .unknownSubcommand argument

/-- Takes an argument for the next place. -/
def scanPlaced (g : Grammar) (p : Progress) (argument : String) :
    Except ArgumentError Progress :=
  match g.placed[p.places]? with
  | none => .error (g.noPlace p argument)
  | some parameter =>
    match p.settle with
    | .error e => .error e
    | .ok p =>
      .ok { p with pending := some ⟨parameter, [argument]⟩, places := p.places + 1 }

/-- Reads one argument that is not the name of a subcommand. -/
def scanArgument (g : Grammar) (p : Progress) (argument : String) :
    Except ArgumentError Progress :=
  if p.onlyPlaced then g.scanPlaced p argument
  else
    match argument.toList with
    | ['-', '-'] => .ok { p with onlyPlaced := true }
    | '-' :: '-' :: text => g.scanLong p text
    | '-' :: c :: text => g.scanShort p (c :: text)
    | _ =>
      match p.pending with
      | some pending =>
        if p.awaits then
          .ok { p with pending := some { pending with values := [argument] }, awaits := false }
        else g.scanPlaced p argument
      | none => g.scanPlaced p argument

/-- Reads the arguments up to the name of a subcommand; gives that name and what follows. -/
def scan (g : Grammar) (p : Progress) :
    List String → Except ArgumentError (Progress × Option (String × List String))
  | [] => .ok (p, none)
  | argument :: rest =>
    if !p.onlyPlaced && !p.awaits && g.subcommands.contains argument then
      .ok (p, some (argument, rest))
    else
      match g.scanArgument p argument with
      | .error e => .error e
      | .ok p => g.scan p rest

/-! ### Checks of a whole level -/

/-- The first option that excludes another one, in the order in which they were given. -/
def firstConflict (g : Grammar) (m : Matches) : Option ArgumentError :=
  m.findSome? fun (name, _) =>
    let others := g.conflicts.filterMap fun (a, b) =>
      if a = name then some b else if b = name then some a else none
    match others.find? fun other => (m.get? other).isSome with
    | none => none
    | some other =>
      match g.long? name, g.long? other with
      | some p, some q => some (.conflict p.label q.label)
      | _, _ => none

/-- The required parameters that were not given, options first. -/
def missing (g : Grammar) (m : Matches) : List String :=
  let absent := g.parameters.filter fun p => p.isRequired && (m.get? p.name).isNone
  ((absent.filter (!·.isPlaced)) ++ absent.filter (·.isPlaced)).map Parameter.label

/-- Checks what was given at a level. -/
def check (g : Grammar) (m : Matches) : Except ArgumentError Unit :=
  match g.firstConflict m with
  | some e => .error e
  | none =>
    match g.missing m with
    | [] => .ok ()
    | labels => .error (.missingArguments labels)

end Grammar

end FieldNorm.Command
