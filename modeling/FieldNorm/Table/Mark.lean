import FieldNorm.Text.Escape

/-!
Style marks inside the text of a cell. Each line of a cell is drawn on its own, so the marks that
are in force at the end of a line are reset there and set again in front of the next line.
-/

namespace FieldNorm.Table

/-! ### Marks -/

/-- The mark that ends all others. -/
def reset : List Char := ['\x1b', '[', '0', 'm']

/-- Whether a mark can start with the character. -/
def startsMark (c : Char) : Bool := c = '\x1b' || c = '\u009b'

/-- Whether the character can stand in front of the numbers of a mark. -/
def isMarkSign (c : Char) : Bool := ['[', '(', ')', '#', ';', '?'].contains c

/-- Whether the character ends a mark wherever it stands. -/
def endsMark (c : Char) : Bool :=
  Text.isWithin 0x41 0x50 c || Text.isWithin 0x66 0x6e c ||
    ['R', 'Z', 'c', 'q', 'r', 'y', '=', '>', '<'].contains c

/-- How far the inside of a mark has been read. -/
inductive MarkPart
  /-- No digit was there yet. -/
  | signs
  /-- The number that is being read has so many digits. -/
  | number (digits : Nat)

/-- How many digits of a number are followed by more of the mark. -/
def maxMarkDigits : Nat := 4

/-- How far the inside has been read behind one more character; `none` if the mark ends with it
or in front of it. -/
def MarkPart.next (part : MarkPart) (c : Char) : Option MarkPart :=
  match part with
  | .signs =>
    if c.isDigit then some (.number 1) else if isMarkSign c then some .signs else none
  | .number digits =>
    if c.isDigit && digits < maxMarkDigits then some (.number (digits + 1))
    else if c = ';' then some (.number 0)
    else none

/-- What stands behind the inside of a mark at the start of a text; `best` is what stands behind
the part that was read. A digit can be the last character, so that the longest inside counts. -/
def afterInside (part : MarkPart) (best : Option (List Char)) :
    List Char → Option (List Char)
  | [] => best
  | c :: rest =>
    let best := if c.isDigit || endsMark c then some rest else best
    match part.next c with
    | some part => afterInside part best rest
    | none => best

theorem length_le_of_afterInside {n : Nat} {part : MarkPart} {best : Option (List Char)}
    {s after : List Char} (hs : s.length ≤ n) (hbest : ∀ b ∈ best, b.length ≤ n)
    (h : afterInside part best s = some after) : after.length ≤ n := by
  induction s generalizing part best with
  | nil => exact hbest after h
  | cons c rest ih =>
    have hrest : rest.length ≤ n := Nat.le_of_succ_le hs
    have hbetter : ∀ b ∈ (if c.isDigit || endsMark c then some rest else best),
        b.length ≤ n := by
      intro b hb
      split at hb
      · cases hb
        exact hrest
      · exact hbest b hb
    rw [afterInside] at h
    split at h
    · exact ih hrest hbetter h
    · exact hbetter after h

/-- What stands behind a command, which ends with BEL, with a backslash behind an escape
character, or with the text. -/
def afterCommand : List Char → List Char
  | [] => []
  | c :: rest =>
    if c = '\x07' then rest
    else if c = '\x1b' && rest.head? = some '\\' then rest.tail
    else afterCommand rest

theorem length_afterCommand_le (s : List Char) : (afterCommand s).length ≤ s.length := by
  induction s with
  | nil => exact Nat.le_refl _
  | cons c rest ih =>
    rw [afterCommand]
    split
    · exact Nat.le_succ _
    · split
      · simp only [List.length_tail, List.length_cons]
        omega
      · exact Nat.le_succ_of_le ih

/-- Whether two characters choose a set of characters, which is a whole mark. -/
def choosesSet (sign digit : Char) : Bool :=
  (sign = '(' || sign = ')') && Text.isWithin 0x30 0x32 digit

/-- What stands behind a mark whose first character is gone. -/
def afterMark (s : List Char) : Option (List Char) :=
  match s with
  | ']' :: command => some (afterCommand command)
  | sign :: digit :: rest =>
    if choosesSet sign digit then some rest else afterInside .signs none (sign :: digit :: rest)
  | s => afterInside .signs none s

theorem length_le_of_afterMark {s after : List Char} (h : afterMark s = some after) :
    after.length ≤ s.length := by
  have inside {t : List Char} (h : afterInside .signs none t = some after) :
      after.length ≤ t.length :=
    length_le_of_afterInside (Nat.le_refl _) (fun _ hb => by cases hb) h
  unfold afterMark at h
  split at h
  · cases h
    exact Nat.le_succ_of_le (length_afterCommand_le _)
  · split at h
    · cases h
      simp only [List.length_cons]
      omega
    · exact inside h
  · exact inside h

/-- The marks of a text, in order. -/
def marks : List Char → List (List Char)
  | [] => []
  | c :: rest =>
    if startsMark c then
      match _h : afterMark rest with
      | some after => (c :: rest.take (rest.length - after.length)) :: marks after
      | none => marks rest
    else marks rest
termination_by s => s.length
decreasing_by
  · have := length_le_of_afterMark _h
    simp only [List.length_cons]
    omega
  · simp only [List.length_cons]
    omega
  · simp only [List.length_cons]
    omega

/-! ### Lines -/

/-- The marks in force behind a line, if some are in force in front of it. -/
def inForce (before : List (List Char)) (line : List Char) : List (List Char) :=
  (marks line).foldl (fun active mark => if mark = reset then [] else active ++ [mark]) before

/-- Makes every line set the marks in force in front of it, and reset those in force at its
end. -/
def carryMarks (before : List (List Char)) : List (List Char) → List (List Char)
  | [] => []
  | line :: lines =>
    let after := inForce before line
    (before.flatten ++ line ++ if after.isEmpty then [] else reset) :: carryMarks after lines

end FieldNorm.Table
