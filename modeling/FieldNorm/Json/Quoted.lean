import FieldNorm.Json.Fault
import FieldNorm.Text.Hex

/-!
String literals of JSON. `Quoted.write` escapes what must be escaped and nothing else;
`Quoted.read` reads any literal, with surrogate pairs taken together.
-/

namespace FieldNorm.Json.Quoted

/-! ### Writing -/

/-- One character inside a literal. -/
def writeChar (c : Char) : List Char :=
  if c = '"' then ['\\', '"']
  else if c = '\\' then ['\\', '\\']
  else if c = '\x08' then ['\\', 'b']
  else if c = '\x0c' then ['\\', 'f']
  else if c = '\n' then ['\\', 'n']
  else if c = '\r' then ['\\', 'r']
  else if c = '\t' then ['\\', 't']
  else if c.toNat < 0x20 then
    ['\\', 'u', '0', '0', Text.hexDigit (c.toNat / 16), Text.hexDigit (c.toNat % 16)]
  else [c]

/-- The literal of a text. -/
def write (s : List Char) : List Char := '"' :: s.flatMap writeChar ++ ['"']

/-! ### Escapes -/

/-- Reads four hexadecimal digits. The four bytes are consumed before they are looked at. -/
def readHex (s : List Char) : Except Fault (Nat × List Char) :=
  match s with
  | a :: b :: c :: d :: rest =>
    match Text.hexValue? a, Text.hexValue? b, Text.hexValue? c, Text.hexValue? d with
    | some a, some b, some c, some d => .ok (((a * 16 + b) * 16 + c) * 16 + d, rest)
    | _, _, _, _ => .error ⟨.invalidEscape, .settled (byteLength s - 4)⟩
  | _ =>
    if byteLength s < 4 then .error (.before .endInString [])
    else .error ⟨.invalidEscape, .settled (byteLength s - 4)⟩

theorem length_lt_of_readHex {s rest : List Char} {n : Nat} (h : readHex s = .ok (n, rest)) :
    rest.length < s.length := by
  unfold readHex at h
  split at h
  · split at h
    · cases h
      simp only [List.length_cons]
      omega
    · cases h
  · split at h <;> cases h

/-- The first byte of `s` must be `c`. -/
def expectInPair (c : Char) (s : List Char) : Except Fault (List Char) :=
  match s with
  | [] => .error (.before .endInString [])
  | d :: rest => if d = c then .ok rest else .error (.upon .endOfHexEscape s)

theorem length_lt_of_expectInPair {c : Char} {s rest : List Char}
    (h : expectInPair c s = .ok rest) : rest.length < s.length := by
  unfold expectInPair at h
  split at h
  · cases h
  · split at h
    · cases h
      simp
    · cases h

/-- The character of a high and a low surrogate. -/
def ofPair (high low : Nat) : Char :=
  Char.ofNat ((high - 0xd800) * 0x400 + (low - 0xdc00) + 0x10000)

/-- Reads the digits behind `\u`, and the second escape that a high surrogate needs. -/
def readUnit (s : List Char) : Except Fault (Char × List Char) :=
  match readHex s with
  | .error fault => .error fault
  | .ok (high, rest) =>
    if 0xdc00 ≤ high ∧ high ≤ 0xdfff then .error (.before .unpairedSurrogate rest)
    else if high < 0xd800 ∨ 0xdbff < high then .ok (Char.ofNat high, rest)
    else
      match expectInPair '\\' rest with
      | .error fault => .error fault
      | .ok rest =>
        match expectInPair 'u' rest with
        | .error fault => .error fault
        | .ok rest =>
          match readHex rest with
          | .error fault => .error fault
          | .ok (low, rest) =>
            if low < 0xdc00 ∨ 0xdfff < low then .error (.before .unpairedSurrogate rest)
            else .ok (ofPair high low, rest)

theorem length_lt_of_readUnit {s rest : List Char} {c : Char}
    (h : readUnit s = .ok (c, rest)) : rest.length < s.length := by
  unfold readUnit at h
  split at h
  · cases h
  · rename_i h₁
    have := length_lt_of_readHex h₁
    split at h
    · cases h
    · split at h
      · cases h
        assumption
      · split at h
        · cases h
        · rename_i h₂
          have := length_lt_of_expectInPair h₂
          split at h
          · cases h
          · rename_i h₃
            have := length_lt_of_expectInPair h₃
            split at h
            · cases h
            · rename_i h₄
              have := length_lt_of_readHex h₄
              split at h
              · cases h
              · simp only [Except.ok.injEq, Prod.mk.injEq] at h
                obtain ⟨-, rfl⟩ := h
                omega

/-- The character that a one-letter escape stands for. -/
def shortEscape? (c : Char) : Option Char :=
  if c = '"' ∨ c = '\\' ∨ c = '/' then some c
  else if c = 'b' then some '\x08'
  else if c = 'f' then some '\x0c'
  else if c = 'n' then some '\n'
  else if c = 'r' then some '\r'
  else if c = 't' then some '\t'
  else none

/-- Reads the escape behind a backslash. -/
def readEscape (s : List Char) : Except Fault (Char × List Char) :=
  match s with
  | [] => .error (.before .endInString [])
  | c :: rest =>
    if c = 'u' then readUnit rest
    else match shortEscape? c with
      | some d => .ok (d, rest)
      | none => .error (.upon .invalidEscape s)

theorem length_lt_of_readEscape {s rest : List Char} {c : Char}
    (h : readEscape s = .ok (c, rest)) : rest.length < s.length := by
  unfold readEscape at h
  split at h
  · cases h
  · split at h
    · have := length_lt_of_readUnit h
      simp only [List.length_cons]
      omega
    · split at h
      · cases h
        simp
      · cases h

/-! ### Reading -/

/-- Reads a literal whose opening quote is gone, up to its closing quote; `done` holds the
characters so far, the last one first. -/
def read (done : List Char) (s : List Char) : Except Fault (List Char × List Char) :=
  match s with
  | [] => .error (.before .endInString [])
  | c :: rest =>
    if c = '"' then .ok (done.reverse, rest)
    else if c = '\\' then
      match _h : readEscape rest with
      | .error fault => .error fault
      | .ok (d, rest) => read (d :: done) rest
    else if c.toNat < 0x20 then .error (.before .controlCharacter rest)
    else read (c :: done) rest
termination_by s.length
decreasing_by
  · have := length_lt_of_readEscape _h
    simp only [List.length_cons]
    omega
  · simp

theorem length_lt_of_read {done s text rest : List Char} (h : read done s = .ok (text, rest)) :
    rest.length < s.length := by
  fun_induction read done s with
  | case1 => cases h
  | case2 => cases h; simp
  | case3 => cases h
  | case4 done s d rest' h₁ _ ih =>
    have := length_lt_of_readEscape h₁
    have := ih h
    simp only [List.length_cons]
    omega
  | case5 => cases h
  | case6 done c s _ _ _ ih =>
    have := ih h
    simp only [List.length_cons]
    omega

/-! ### Skipping -/

/-- Passes over the escape behind a backslash; surrogates need no partner here. -/
def skipEscape (s : List Char) : Except Fault (List Char) :=
  match s with
  | [] => .error (.before .endInString [])
  | c :: rest =>
    if c = 'u' then
      match readHex rest with
      | .error fault => .error fault
      | .ok (_, rest) => .ok rest
    else if (shortEscape? c).isSome then .ok rest
    else .error (.upon .invalidEscape s)

theorem length_lt_of_skipEscape {s rest : List Char} (h : skipEscape s = .ok rest) :
    rest.length < s.length := by
  unfold skipEscape at h
  split at h
  · cases h
  · split at h
    · split at h
      · cases h
      · rename_i h₁
        have := length_lt_of_readHex h₁
        cases h
        simp only [List.length_cons]
        omega
    · split at h
      · cases h
        simp
      · cases h

/-- Passes over a literal whose opening quote is gone. -/
def skip (s : List Char) : Except Fault (List Char) :=
  match s with
  | [] => .error (.before .endInString [])
  | c :: rest =>
    if c = '"' then .ok rest
    else if c = '\\' then
      match _h : skipEscape rest with
      | .error fault => .error fault
      | .ok rest => skip rest
    else if c.toNat < 0x20 then .error (.before .controlCharacter (c :: rest))
    else skip rest
termination_by s.length
decreasing_by
  · have := length_lt_of_skipEscape _h
    simp only [List.length_cons]
    omega
  · simp

theorem length_lt_of_skip {s rest : List Char} (h : skip s = .ok rest) :
    rest.length < s.length := by
  fun_induction skip s with
  | case1 => cases h
  | case2 => cases h; simp
  | case3 => cases h
  | case4 s rest' h₁ _ ih =>
    have := length_lt_of_skipEscape h₁
    have := ih h
    simp only [List.length_cons]
    omega
  | case5 => cases h
  | case6 c s _ _ _ ih =>
    have := ih h
    simp only [List.length_cons]
    omega

end FieldNorm.Json.Quoted
