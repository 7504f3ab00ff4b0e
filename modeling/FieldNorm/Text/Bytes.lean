/-!
The text of bytes that need not be UTF-8. The longest start of a character that cannot be read
on gives one replacement character, and so does a byte that starts no character.
-/

namespace FieldNorm.Text

/-- Stands for bytes that are no character. -/
def replacement : Char := '\ufffd'

/-- How far a character has been read. -/
inductive Unfinished
  /-- Nothing of it was read. -/
  | nothing
  /-- The bits so far, how many bytes are missing, and between which bounds the next one is. -/
  | started (bits missing first last : Nat)

/-- The characters that a first byte completes, and what it starts. -/
def startCharacter (b : Nat) : List Char × Unfinished :=
  if b < 0x80 then ([Char.ofNat b], .nothing)
  else if b < 0xc2 then ([replacement], .nothing)
  else if b < 0xe0 then ([], .started (b % 0x20) 1 0x80 0xbf)
  else if b = 0xe0 then ([], .started 0 2 0xa0 0xbf)
  else if b = 0xed then ([], .started 0xd 2 0x80 0x9f)
  else if b < 0xf0 then ([], .started (b % 0x10) 2 0x80 0xbf)
  else if b = 0xf0 then ([], .started 0 3 0x90 0xbf)
  else if b < 0xf4 then ([], .started (b % 0x8) 3 0x80 0xbf)
  else if b = 0xf4 then ([], .started 4 3 0x80 0x8f)
  else ([replacement], .nothing)

/-- The characters that one more byte completes, and what is left of it. -/
def Unfinished.step (p : Unfinished) (b : Nat) : List Char × Unfinished :=
  match p with
  | .nothing => startCharacter b
  | .started bits missing first last =>
    if first ≤ b && b ≤ last then
      let bits := 0x40 * bits + b % 0x40
      if missing ≤ 1 then ([Char.ofNat bits], .nothing)
      else ([], .started bits (missing - 1) 0x80 0xbf)
    else
      let (characters, p) := startCharacter b
      (replacement :: characters, p)

/-- The characters of bytes that follow a part of a character. -/
def charactersFrom (p : Unfinished) : List UInt8 → List Char
  | [] =>
    match p with
    | .nothing => []
    | .started .. => [replacement]
  | b :: bytes =>
    let (characters, p) := p.step b.toNat
    characters ++ charactersFrom p bytes

/-- The text of bytes. -/
def ofBytes (bytes : List UInt8) : String := String.ofList (charactersFrom .nothing bytes)

end FieldNorm.Text
