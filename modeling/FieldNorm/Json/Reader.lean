import FieldNorm.Json.Numeral
import FieldNorm.Json.Quoted

/-!
Readers of JSON: a `Reader α` reads one value at the start of a text and gives it with the rest,
and it never succeeds without reading something, so that the loops over the items of an array
(`listOf`) and the members of an object (`membersOf`) end.

`value depth` reads any JSON with at most `depth` brackets open at a time, and `parse` a whole
text.
-/

namespace FieldNorm.Json

/-- Reads one value at the start of a text. -/
structure Reader (α : Type) where
  run : List Char → Except Fault (α × List Char)
  consumes : ∀ {s : List Char} {a : α} {rest : List Char},
    run s = .ok (a, rest) → rest.length < s.length

/-! ### Blanks -/

def isBlank (c : Char) : Bool := c = ' ' || c = '\n' || c = '\t' || c = '\r'

def skipBlanks (s : List Char) : List Char := s.dropWhile isBlank

theorem length_skipBlanks_le (s : List Char) : (skipBlanks s).length ≤ s.length :=
  Numeral.length_dropWhile_le isBlank s

theorem length_lt_of_skipBlanks {s rest : List Char} {c : Char}
    (h : skipBlanks s = c :: rest) : rest.length < s.length := by
  have := length_skipBlanks_le s
  rw [h, List.length_cons] at this
  omega

/-- Goes behind the bracket that closes an array, or behind the comma in its place. -/
def closeList (s : List Char) : List Char :=
  match skipBlanks s with
  | ']' :: rest => rest
  | ',' :: rest => skipBlanks rest
  | rest => rest

/-- Goes behind the brace that closes an object. -/
def closeObject (s : List Char) : List Char :=
  match skipBlanks s with
  | '\x7d' :: rest => rest
  | rest => rest

namespace Reader

variable {α β : Type}

/-! ### Combinations -/

/-- Reads a value and passes it to `f`, which may find that it has the wrong shape. -/
def refine (r : Reader α) (f : α → Except Mismatch β) : Reader β where
  run s :=
    match r.run s with
    | .error fault => .error fault
    | .ok (a, rest) =>
      match f a with
      | .error reason => .error (.ofMismatch reason rest)
      | .ok b => .ok (b, rest)
  consumes h := by
    split at h
    · cases h
    · rename_i h₁
      have := r.consumes h₁
      split at h <;> cases h
      assumption

def map (f : α → β) (r : Reader α) : Reader β := r.refine fun a => .ok (f a)

/-- Places the pending faults of a reader where it has got to. -/
def settled (r : Reader α) : Reader α where
  run s :=
    match r.run s with
    | .error fault => .error fault.settleHere
    | .ok result => .ok result
  consumes h := by
    split at h <;> cases h
    rename_i h
    exact r.consumes h

/-- Reads the whole text as one value with blanks around it. -/
def readAll (r : Reader α) (text : String) : Except Error α :=
  let s := text.toList
  match r.run s with
  | .error fault => .error (fault.toError s)
  | .ok (a, rest) =>
    match skipBlanks rest with
    | [] => .ok a
    | rest => .error ((Fault.upon .trailingCharacters rest).toError s)

/-! ### Scalars -/

/-- Reads the letters of a literal such as `null`. -/
def letters : (word : List Char) → (s : List Char) → Except Fault (List Char)
  | [], s => .ok s
  | _ :: _, [] => .error (.before .endInValue [])
  | c :: word, d :: s =>
    if d = c then letters word s else .error (.upon .expectedLiteral (d :: s))

theorem length_le_of_letters {word s rest : List Char} (h : letters word s = .ok rest) :
    rest.length ≤ s.length := by
  fun_induction letters word s with
  | case1 => cases h; exact Nat.le_refl _
  | case2 => cases h
  | case3 c word s ih =>
    have := ih h
    simp only [List.length_cons]
    omega
  | case4 => cases h

/-- What kind of value the first character of a text announces. -/
inductive Lead
  | nothing
  | word (rest : List Char) (value : Json)
  | number (isNegative : Bool)
  | string
  | bracket
  | brace
  | other

def lead : List Char → Lead
  | [] => .nothing
  | c :: _ =>
    if c = 'n' then .word ['u', 'l', 'l'] .null
    else if c = 't' then .word ['r', 'u', 'e'] (.bool true)
    else if c = 'f' then .word ['a', 'l', 's', 'e'] (.bool false)
    else if c = '-' then .number true
    else if Numeral.isDigit c then .number false
    else if c = '"' then .string
    else if c = '[' then .bracket
    else if c = '\x7b' then .brace
    else .other

/-- Reads a value that is neither an array nor an object. -/
def scalar : Reader Json where
  run s :=
    match lead s, s with
    | .word letters' j, _ :: rest =>
      match letters letters' rest with
      | .error fault => .error fault
      | .ok rest => .ok (j, rest)
    | .number isNegative, c :: rest =>
      match Numeral.read isNegative (if isNegative then rest else c :: rest) with
      | .error fault => .error fault
      | .ok (x, rest) => .ok (.number x, rest)
    | .string, _ :: rest =>
      match Quoted.read [] rest with
      | .error fault => .error fault
      | .ok (text, rest) => .ok (.string (String.ofList text), rest)
    | _, [] => .error (.before .endInValue [])
    | _, _ => .error (.upon .expectedValue s)
  consumes h := by
    split at h
    · split at h <;> cases h
      rename_i h₁
      have := length_le_of_letters h₁
      simp only [List.length_cons]
      omega
    · split at h <;> cases h
      rename_i h₁
      have := Numeral.length_lt_of_read h₁
      split at this <;> simp only [List.length_cons] at * <;> omega
    · split at h <;> cases h
      rename_i h₁
      have := Quoted.length_lt_of_read h₁
      simp only [List.length_cons]
      omega
    · cases h
    · cases h

/-- The fault of a value that starts at `s` and has another type than the expected one. A
scalar is read first; an array or object is not. -/
def wrongType (expected : String) (s : List Char) : Fault :=
  match lead s with
  | .bracket => .before (.mismatch (.invalidType .sequence expected)) s
  | .brace => .before (.mismatch (.invalidType .map expected)) s
  | _ =>
    match scalar.run s with
    | .error fault => fault
    | .ok (j, rest) => .before (.mismatch (.invalidType (found j) expected)) rest

/-- Reads a string; any other value has the wrong type. -/
def string (expected : String) : Reader String where
  run s :=
    match skipBlanks s with
    | [] => .error (.before .endInValue [])
    | c :: rest =>
      if c = '"' then
        match Quoted.read [] rest with
        | .error fault => .error fault
        | .ok (text, rest) => .ok (String.ofList text, rest)
      else .error (wrongType expected (c :: rest))
  consumes h := by
    split at h
    · cases h
    · rename_i hs
      split at h
      · split at h <;> cases h
        rename_i h₁
        exact Nat.lt_trans (Quoted.length_lt_of_read h₁) (length_lt_of_skipBlanks hs)
      · cases h

/-! ### Arrays -/

/-- Reads the item at `s` and the rest of the array through `more`. -/
def itemAnd (item : Reader α) (s : List Char)
    (more : (rest : List Char) → rest.length < s.length →
      Except Fault (List α × List Char)) : Except Fault (List α × List Char) :=
  match h : item.run s with
  | .error fault => .error (fault.settle closeList)
  | .ok (a, rest) =>
    match more rest (item.consumes h) with
    | .error fault => .error fault
    | .ok (as, rest) => .ok (a :: as, rest)

/-- Reads the items behind the first one, with the commas in front of them, and the closing
bracket. -/
def moreItems (item : Reader α) (s : List Char) : Except Fault (List α × List Char) :=
  match _h₁ : skipBlanks s with
  | [] => .error (.before .endInList [])
  | c :: rest =>
    if c = ']' then .ok ([], rest)
    else if c = ',' then
      match _h₂ : skipBlanks rest with
      | [] => .error (.before .endInValue [])
      | d :: after =>
        if d = ']' then .error (.upon .trailingComma (d :: after))
        else itemAnd item (d :: after) fun unread _ => moreItems item unread
    else .error (.upon .expectedCommaOrBracket (c :: rest))
termination_by s.length
decreasing_by
  have h₃ := length_skipBlanks_le s
  have h₄ := length_skipBlanks_le rest
  simp only [_h₁, _h₂, List.length_cons] at *
  omega

theorem length_lt_of_itemAnd {item : Reader α} {s rest : List Char} {as : List α}
    {more : (rest : List Char) → rest.length < s.length → Except Fault (List α × List Char)}
    (hmore : ∀ t ht bs u, more t ht = .ok (bs, u) → u.length < t.length)
    (h : itemAnd item s more = .ok (as, rest)) : rest.length < s.length := by
  unfold itemAnd at h
  split at h
  · cases h
  · rename_i h₁
    have := item.consumes h₁
    split at h <;> cases h
    rename_i h₂
    have := hmore _ _ _ _ h₂
    omega

theorem length_lt_of_moreItems {item : Reader α} (s : List Char) :
    ∀ {as : List α} {rest : List Char}, moreItems item s = .ok (as, rest) →
      rest.length < s.length := by
  induction hn : s.length using Nat.strongRecOn generalizing s with
  | ind n ih =>
    intro as rest h
    subst hn
    have h₁ := length_skipBlanks_le s
    unfold moreItems at h
    split at h
    · cases h
    · rename_i c t hs
      rw [hs, List.length_cons] at h₁
      split at h
      · cases h
        omega
      · split at h
        · have h₂ := length_skipBlanks_le t
          split at h
          · cases h
          · rename_i d after ht
            rw [ht] at h₂
            split at h
            · cases h
            · have := length_lt_of_itemAnd
                (fun u hu bs v huv => ih u.length (by omega) u rfl huv) h
              omega
        · cases h

/-- Reads an array, whose opening bracket is the first character of the text. -/
def listOf (item : Reader α) : Reader (List α) where
  run s :=
    match s with
    | [] => .error (.before .endInValue [])
    | c :: rest =>
      if c = '[' then
        match skipBlanks rest with
        | [] => .error (.before .endInList [])
        | d :: after =>
          if d = ']' then .ok ([], after)
          else itemAnd item (d :: after) fun rest _ => moreItems item rest
      else .error (.upon .expectedValue s)
  consumes {s _ _} h := by
    split at h
    · cases h
    · rename_i c rest
      have h₁ := length_skipBlanks_le rest
      split at h
      · split at h
        · cases h
        · rename_i hs
          rw [hs] at h₁
          simp only [List.length_cons] at *
          split at h
          · cases h
            omega
          · have := length_lt_of_itemAnd
              (fun u hu bs v huv => length_lt_of_moreItems u huv) h
            simp only [List.length_cons] at this
            omega
      · cases h

/-! ### Objects -/

/-- Which keys an object may not have, given the keys in front of them. -/
abbrev KeyRule := (earlier : List String) → (key : String) → Option Mismatch

/-- Any key, also repeated. -/
def anyKey : KeyRule := fun _ _ => none

/-- The key `name` only once. -/
def onlyOnce (name : String) : KeyRule := fun earlier key =>
  if key = name && earlier.contains name then some (.duplicateField name) else none

/-- Reads the member at `s`, key, colon and value. -/
def member (rule : KeyRule) (value : String → Reader α) (earlier : List String)
    (s : List Char) : Except Fault ((String × α) × List Char) :=
  match s with
  | [] => .error (.before .endInValue [])
  | c :: rest =>
    if c = '\x7d' then .error (.upon .trailingComma s)
    else if c = '"' then
      match Quoted.read [] rest with
      | .error fault => .error fault
      | .ok (text, rest) =>
        let key := String.ofList text
        match rule earlier key with
        | some reason => .error ((Fault.ofMismatch reason rest).settle closeObject)
        | none =>
          match skipBlanks rest with
          | [] => .error (.before .endInObject [])
          | c :: rest =>
            if c = ':' then
              match (value key).run rest with
              | .error fault => .error (fault.settle closeObject)
              | .ok (a, rest) => .ok ((key, a), rest)
            else .error (.upon .expectedColon (c :: rest))
    else .error (.upon .keyNotString s)

theorem length_lt_of_member {rule : KeyRule} {value : String → Reader α}
    {earlier : List String} {s rest : List Char} {m : String × α}
    (h : member rule value earlier s = .ok (m, rest)) : rest.length < s.length := by
  unfold member at h
  split at h
  · cases h
  · split at h
    · cases h
    · split at h
      · split at h
        · cases h
        · rename_i text t h₁
          have h₁ := Quoted.length_lt_of_read h₁
          have h₂ := length_skipBlanks_le t
          dsimp only at h
          split at h
          · cases h
          · split at h
            · cases h
            · rename_i hs
              rw [hs] at h₂
              split at h
              · split at h <;> cases h
                rename_i h₃
                have := (value _).consumes h₃
                simp only [List.length_cons] at *
                omega
              · cases h
      · cases h

/-- Reads the members behind the first one, with the commas in front of them, and the closing
brace. -/
def moreMembers (rule : KeyRule) (value : String → Reader α) (earlier : List String)
    (s : List Char) : Except Fault (List (String × α) × List Char) :=
  match _h₁ : skipBlanks s with
  | [] => .error (.before .endInObject [])
  | c :: rest =>
    if c = '\x7d' then .ok ([], rest)
    else if c = ',' then
      match _h₂ : member rule value earlier (skipBlanks rest) with
      | .error fault => .error fault
      | .ok (m, after) =>
        match moreMembers rule value (m.1 :: earlier) after with
        | .error fault => .error fault
        | .ok (ms, after) => .ok (m :: ms, after)
    else .error (.upon .expectedCommaOrBrace (c :: rest))
termination_by s.length
decreasing_by
  have h₃ := length_skipBlanks_le s
  have h₄ := length_skipBlanks_le rest
  have h₅ := length_lt_of_member _h₂
  rw [_h₁, List.length_cons] at h₃
  omega

theorem length_lt_of_moreMembers {rule : KeyRule} {value : String → Reader α} (s : List Char) :
    ∀ {earlier : List String} {ms : List (String × α)} {rest : List Char},
      moreMembers rule value earlier s = .ok (ms, rest) → rest.length < s.length := by
  induction hn : s.length using Nat.strongRecOn generalizing s with
  | ind n ih =>
    intro earlier ms rest h
    subst hn
    have h₁ := length_skipBlanks_le s
    unfold moreMembers at h
    split at h
    · cases h
    · rename_i c t hs
      rw [hs, List.length_cons] at h₁
      have h₂ := length_skipBlanks_le t
      split at h
      · cases h
        omega
      · split at h
        · split at h
          · cases h
          · rename_i h₃
            have h₃ := length_lt_of_member h₃
            split at h <;> cases h
            rename_i h₄
            have := ih _ (by omega) _ rfl h₄
            omega
        · cases h

/-- Reads an object, whose opening brace is the first character of the text. -/
def membersOf (rule : KeyRule) (value : String → Reader α) : Reader (List (String × α)) where
  run s :=
    match s with
    | [] => .error (.before .endInValue [])
    | c :: rest =>
      if c = '\x7b' then
        match skipBlanks rest with
        | [] => .error (.before .endInObject [])
        | d :: after =>
          if d = '\x7d' then .ok ([], after)
          else
            match member rule value [] (d :: after) with
            | .error fault => .error fault
            | .ok (m, after) =>
              match moreMembers rule value [m.1] after with
              | .error fault => .error fault
              | .ok (ms, after) => .ok (m :: ms, after)
      else .error (.upon .expectedValue s)
  consumes {s _ _} h := by
    split at h
    · cases h
    · rename_i c rest
      have h₁ := length_skipBlanks_le rest
      split at h
      · split at h
        · cases h
        · rename_i hs
          rw [hs] at h₁
          simp only [List.length_cons] at *
          split at h
          · cases h
            omega
          · split at h
            · cases h
            · rename_i h₂
              have h₂ := length_lt_of_member h₂
              split at h <;> cases h
              rename_i h₃
              have h₃ := length_lt_of_moreMembers _ h₃
              simp only [List.length_cons] at h₂
              omega
      · cases h

/-! ### Expected shapes -/

/-- Reads an array through `array` and an object through `object`, whichever is admitted; any
other value has the wrong type. -/
def shaped (expected : String) (array object : Option (Reader α)) : Reader α where
  run s :=
    match lead (skipBlanks s), array, object with
    | .nothing, _, _ => .error (.before .endInValue [])
    | .bracket, some r, _ => r.run (skipBlanks s)
    | .brace, _, some r => r.run (skipBlanks s)
    | _, _, _ => .error (wrongType expected (skipBlanks s))
  consumes {s _ _} h := by
    refine Nat.lt_of_lt_of_le ?_ (length_skipBlanks_le s)
    split at h
    · cases h
    · exact Reader.consumes _ h
    · exact Reader.consumes _ h
    · cases h

/-- Reads an array of at most one item, whose opening bracket is the first character. -/
def listOfOne (item : Reader α) : Reader (Option α) where
  run s :=
    match s with
    | [] => .error (.before .endInValue [])
    | c :: rest =>
      if c = '[' then
        match skipBlanks rest with
        | [] => .error (.before .endInList [])
        | d :: after =>
          if d = ']' then .ok (none, after)
          else
            match item.run (d :: after) with
            | .error fault => .error (fault.settle closeList)
            | .ok (a, rest) =>
              match skipBlanks rest with
              | [] => .error (.before .endInList [])
              | c :: after =>
                if c = ']' then .ok (some a, after)
                else if c = ',' then
                  match skipBlanks after with
                  | ']' :: after => .error (.upon .trailingComma (']' :: after))
                  | after => .error (.upon .trailingCharacters after)
                else .error (.upon .trailingCharacters (c :: after))
      else .error (.upon .expectedValue s)
  consumes {s _ _} h := by
    split at h
    · cases h
    · split at h
      · split at h
        · cases h
        · rename_i h₁
          have h₁ := length_lt_of_skipBlanks h₁
          split at h
          · cases h
            exact Nat.lt_succ_of_lt h₁
          · split at h
            · cases h
            · rename_i h₂
              have h₂ := item.consumes h₂
              split at h
              · cases h
              · rename_i h₃
                have h₃ := length_lt_of_skipBlanks h₃
                split at h
                · cases h
                  have h₂ := Nat.le_of_lt_succ h₂
                  exact Nat.lt_succ_of_lt (Nat.lt_trans (Nat.lt_of_lt_of_le h₃ h₂) h₁)
                · split at h
                  · split at h <;> cases h
                  · cases h
      · cases h

/-- Reads an array of a first item and others, whose opening bracket is the first character;
`none` for the empty array. -/
def listHeaded (head : Reader α) (item : Reader β) : Reader (Option (α × List β)) where
  run s :=
    match s with
    | [] => .error (.before .endInValue [])
    | c :: rest =>
      if c = '[' then
        match skipBlanks rest with
        | [] => .error (.before .endInList [])
        | d :: after =>
          if d = ']' then .ok (none, after)
          else
            match head.run (d :: after) with
            | .error fault => .error (fault.settle closeList)
            | .ok (a, rest) =>
              match moreItems item rest with
              | .error fault => .error fault
              | .ok (bs, rest) => .ok (some (a, bs), rest)
      else .error (.upon .expectedValue s)
  consumes {s _ _} h := by
    split at h
    · cases h
    · split at h
      · split at h
        · cases h
        · rename_i h₁
          have h₁ := length_lt_of_skipBlanks h₁
          split at h
          · cases h
            simp only [List.length_cons]
            omega
          · split at h
            · cases h
            · rename_i h₂
              have h₂ := head.consumes h₂
              split at h <;> cases h
              rename_i h₃
              have h₃ := length_lt_of_moreItems _ h₃
              simp only [List.length_cons] at *
              omega
      · cases h

/-! ### Any value -/

/-- Reads a value; `inner` reads what is inside its brackets, and without it a bracket is one
too many. -/
def valueWith (inner : Option (Reader Json)) : Reader Json where
  run s :=
    match lead (skipBlanks s), inner with
    | .bracket, some item => ((listOf item).map Json.array).run (skipBlanks s)
    | .brace, some value =>
      ((membersOf anyKey fun _ => value).map Json.object).run (skipBlanks s)
    | .bracket, none => .error (.upon .tooDeep (skipBlanks s))
    | .brace, none => .error (.upon .tooDeep (skipBlanks s))
    | _, _ => scalar.run (skipBlanks s)
  consumes {s _ _} h := by
    refine Nat.lt_of_lt_of_le ?_ (length_skipBlanks_le s)
    split at h
    · exact Reader.consumes _ h
    · exact Reader.consumes _ h
    · cases h
    · cases h
    · exact Reader.consumes _ h

/-- Reads any value in which at most `depth` brackets are open at a time. -/
def value : (depth : Nat) → Reader Json
  | 0 => valueWith none
  | depth + 1 => valueWith (some (value depth))

end Reader

/-- How many brackets may be open at a time in a text. -/
def maxDepth : Nat := 127

/-- Reads a text as JSON. -/
def parse (text : String) : Except Error Json := (Reader.value maxDepth).readAll text

end FieldNorm.Json
