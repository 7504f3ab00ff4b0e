import FieldNorm.Json.Reader

/-!
Passing over a value that is not wanted. Only the grammar is checked: brackets may nest to any
depth, numbers may be of any size and surrogates may stand alone.
-/

namespace FieldNorm.Json

/-- A bracket that is still open. -/
inductive Bracket
  | list
  | object
deriving DecidableEq

namespace Bracket

def closing : Bracket → Char
  | .list => ']'
  | .object => '\x7d'

/-- The fault of a text that ends inside the bracket. -/
def atEnd : Bracket → Cause
  | .list => .endInList
  | .object => .endInObject

/-- The fault of an item that is followed by neither a comma nor the end. -/
def noComma : Bracket → Cause
  | .list => .expectedCommaOrBracket
  | .object => .expectedCommaOrBrace

end Bracket

namespace Skip

/-- Passes over a value that is neither an array nor an object. -/
def scalar (s : List Char) : Except Fault (List Char) :=
  match Reader.lead s, s with
  | .word letters _, _ :: rest => Reader.letters letters rest
  | .number isNegative, c :: rest => Numeral.skip (if isNegative then rest else c :: rest)
  | .string, _ :: rest => Quoted.skip rest
  | _, [] => .error (.before .endInValue [])
  | _, _ => .error (.upon .expectedValue s)

theorem length_lt_of_scalar {s rest : List Char} (h : scalar s = .ok rest) :
    rest.length < s.length := by
  unfold scalar at h
  split at h
  · have := Reader.length_le_of_letters h
    simp only [List.length_cons]
    omega
  · have := Numeral.length_lt_of_skip h
    split at this <;> simp only [List.length_cons] at * <;> omega
  · have := Quoted.length_lt_of_skip h
    simp only [List.length_cons]
    omega
  · cases h
  · cases h

theorem length_lt_of_scalar_skipBlanks {s rest : List Char}
    (h : scalar (skipBlanks s) = .ok rest) : rest.length < s.length :=
  Nat.lt_of_lt_of_le (length_lt_of_scalar h) (length_skipBlanks_le s)

/-- Passes over a key and its colon. -/
def key (s : List Char) : Except Fault (List Char) :=
  match skipBlanks s with
  | [] => .error (.before .endInObject [])
  | c :: rest =>
    if c = '"' then
      match Quoted.skip rest with
      | .error fault => .error fault
      | .ok rest =>
        match skipBlanks rest with
        | [] => .error (.before .endInObject [])
        | c :: rest =>
          if c = ':' then .ok rest else .error (.upon .expectedColon (c :: rest))
    else .error (.upon .keyNotString (c :: rest))

theorem length_lt_of_key {s rest : List Char} (h : key s = .ok rest) :
    rest.length < s.length := by
  have h₁ := length_skipBlanks_le s
  unfold key at h
  split at h
  · cases h
  · rename_i hs
    split at h
    · split at h
      · cases h
      · rename_i t h₂
        have h₂ := Quoted.length_lt_of_skip h₂
        have h₃ := length_skipBlanks_le t
        split at h
        · cases h
        · rename_i ht
          split at h <;> cases h
          simp only [hs, ht, List.length_cons] at *
          omega
    · cases h

/-- Where the reader is inside the open brackets. -/
inductive Stage
  /-- In front of a value. -/
  | value
  /-- Behind an opening bracket. -/
  | opened
  /-- Behind an item. -/
  | item
deriving DecidableEq

/-- A step that reads nothing goes to the stage in front of a value. -/
def Stage.rank : Stage → Nat
  | .value => 0
  | .opened | .item => 1

/-- Passes over the rest of a value with the given brackets open, the innermost first. -/
def run (stage : Stage) (open' : List Bracket) (s : List Char) : Except Fault (List Char) :=
  match stage, open' with
  | .value, brackets =>
    match _h₁ : Reader.lead (skipBlanks s), _h₂ : skipBlanks s with
    | .bracket, _ :: rest => run .opened (.list :: brackets) rest
    | .brace, _ :: rest => run .opened (.object :: brackets) rest
    | _, _ =>
      match _h₃ : scalar (skipBlanks s) with
      | .error fault => .error fault
      | .ok rest => run .item brackets rest
  | .opened, [] | .item, [] => .ok s
  | .opened, bracket :: outer =>
    match _h₂ : skipBlanks s with
    | [] => .error (.before bracket.atEnd [])
    | c :: rest =>
      if c = bracket.closing then run .item outer rest
      else if bracket = .object then
        match _h₃ : key (c :: rest) with
        | .error fault => .error fault
        | .ok rest => run .value (bracket :: outer) rest
      else run .value (bracket :: outer) (c :: rest)
  | .item, bracket :: outer =>
    match _h₂ : skipBlanks s with
    | [] => .error (.before bracket.atEnd [])
    | c :: rest =>
      if c = bracket.closing then run .item outer rest
      else if c = ',' then
        if bracket = .object then
          match _h₃ : key rest with
          | .error fault => .error fault
          | .ok rest => run .value (bracket :: outer) rest
        else run .value (bracket :: outer) rest
      else .error (.upon bracket.noComma (c :: rest))
termination_by 2 * s.length + stage.rank
decreasing_by
  all_goals
    grind [→ length_lt_of_key, → length_lt_of_scalar_skipBlanks, → length_lt_of_skipBlanks,
      Stage.rank]

/-- A reader only goes forward, and whenever it starts at a value it reads something. -/
theorem length_le_of_run {stage : Stage} {brackets : List Bracket} {s rest : List Char}
    (h : run stage brackets s = .ok rest) :
    rest.length + (if stage = .value then 1 else 0) ≤ s.length := by
  fun_induction run stage brackets s <;>
    grind [→ length_lt_of_key, → length_lt_of_scalar_skipBlanks, → length_lt_of_skipBlanks]

/-- Passes over any value, however deep. -/
def value : Reader Unit where
  run s :=
    match run .value [] s with
    | .error fault => .error fault
    | .ok rest => .ok ((), rest)
  consumes h := by
    split at h <;> cases h
    rename_i h
    exact length_le_of_run h

end Skip

end FieldNorm.Json
