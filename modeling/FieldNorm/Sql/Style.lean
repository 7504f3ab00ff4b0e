import FieldNorm.Json.Reader

/-!
The two ways to treat a single quote inside a literal, with their JSON: the name of the style,
or an object whose only member has that name and the value null.
-/

namespace FieldNorm.Sql

/-- How a single quote inside a literal is written. -/
inductive Style
  /-- As it is, which is safe for trusted data only. -/
  | raw
  /-- Twice. -/
  | escaped
deriving DecidableEq

instance : Inhabited Style := ⟨.raw⟩

namespace Style

def name : Style → String
  | .raw => "raw"
  | .escaped => "escaped"

def all : List Style := [.raw, .escaped]

def ofName (name : String) : Except Json.Mismatch Style :=
  match all.find? (·.name == name) with
  | some style => .ok style
  | none => .error (.unknownVariant name (all.map Style.name))

/-- Reads the name of a style. -/
def nameReader : Json.Reader Style :=
  ((Json.Reader.string "variant identifier").refine ofName).settled

/-- Reads the colon, the null and the brace behind the name of a style. -/
def closeMember (s : List Char) : Except Json.Fault (List Char) :=
  match Json.skipBlanks s with
  | [] => .error (.before .endInObject [])
  | c :: rest =>
    if c != ':' then .error (.upon .expectedColon (c :: rest))
    else
      match Json.skipBlanks rest with
      | [] => .error (.before .endInValue [])
      | c :: rest =>
        if c != 'n' then .error (Json.Reader.wrongType "unit" (c :: rest))
        else
          match Json.Reader.letters ['u', 'l', 'l'] rest with
          | .error fault => .error fault
          | .ok rest =>
            match Json.skipBlanks rest with
            | [] => .error (.before .endInObject [])
            | c :: rest =>
              if c = '\x7d' then .ok rest
              else .error (.before .expectedValue (c :: rest))

theorem length_le_of_closeMember {s rest : List Char} (h : closeMember s = .ok rest) :
    rest.length ≤ s.length := by
  unfold closeMember at h
  grind [→ Json.length_lt_of_skipBlanks, → Json.Reader.length_le_of_letters]

/-- Reads the name of a style as the key of an object. -/
def keyReader : Json.Reader Style where
  run s :=
    match Json.skipBlanks s with
    | [] => .error (.before .endInObject [])
    | c :: rest =>
      if c = '"' then nameReader.run (c :: rest)
      else if c = '\x7d' then .error (.upon .expectedValue (c :: rest))
      else .error (.upon .keyNotString (c :: rest))
  consumes {s _ _} h := by
    have hs := Json.length_skipBlanks_le s
    split at h
    · cases h
    · rename_i hc
      rw [hc] at hs
      split at h
      · exact Nat.lt_of_lt_of_le (nameReader.consumes h) hs
      · split at h <;> cases h

/-- Reads an object of one member, whose opening brace is the first character. -/
def memberReader : Json.Reader Style where
  run s :=
    match keyReader.run (s.drop 1) with
    | .error fault => .error fault
    | .ok (style, rest) =>
      match closeMember rest with
      | .error fault => .error fault
      | .ok rest => .ok (style, rest)
  consumes {s _ _} h := by
    split at h
    · cases h
    · rename_i h₁
      have hname := keyReader.consumes h₁
      split at h <;> cases h
      rename_i h₂
      have hclose := length_le_of_closeMember h₂
      rw [List.length_drop] at hname
      omega

/-- Reads a style. -/
def reader : Json.Reader Style where
  run s :=
    match Json.Reader.lead (Json.skipBlanks s) with
    | .nothing => .error (.before .endInValue [])
    | .string => nameReader.run (Json.skipBlanks s)
    | .brace => memberReader.run (Json.skipBlanks s)
    | _ => .error (.upon .expectedValue (Json.skipBlanks s))
  consumes {s _ _} h := by
    refine Nat.lt_of_lt_of_le ?_ (Json.length_skipBlanks_le s)
    split at h
    · cases h
    · exact Json.Reader.consumes _ h
    · exact Json.Reader.consumes _ h
    · cases h

/-- Reads a text as a style. -/
def read (text : String) : Except Json.Error Style := reader.readAll text

/-- The JSON text of a style. -/
def jsonText (style : Style) : String :=
  String.ofList (Json.Quoted.write style.name.toList)

end Style

end FieldNorm.Sql
