import FieldNorm.Json.Reader
import FieldNorm.Proofs.Json.Numeral
import FieldNorm.Proofs.Json.Quoted
import Mathlib.Data.List.DropRight

/-!
Readers of JSON on texts that are laid out as arrays and objects.

* `Reader.Reads`: a reader takes a text as a value, whatever blanks stand in front of the text and
  whatever follows that does not go on with a number.
* `Spacing`: where the blanks of an array or an object stand; `Spacing.enclosed` is the text of its
  items with brackets, commas and blanks around them.
* `Reader.listOf_enclosed`, `Reader.membersOf_enclosed`: if every item is read from its text, the
  array or object is read from the text that encloses them.
* `Reader.readAll_eq_ok`: a whole text is read if only blanks follow.
-/

namespace FieldNorm.Json

open Numeral (Ends ends_nil ends_cons_iff)

variable {c d : Char} {s t gap rest after unread : List Char}

/-! ### Blanks -/

/-- The text has no character but blanks. -/
def AllBlank (s : List Char) : Prop := ∀ c ∈ s, isBlank c

lemma allBlank_nil : AllBlank [] := by simp [AllBlank]

lemma isBlank_iff : isBlank c ↔ c = ' ' ∨ c = '\n' ∨ c = '\t' ∨ c = '\r' := by
  simp [isBlank, or_assoc]

lemma skipBlanks_append (h : AllBlank gap) (s : List Char) : skipBlanks (gap ++ s) = skipBlanks s :=
  List.dropWhile_append_of_pos h

lemma skipBlanks_cons (h : ¬ isBlank c) (s : List Char) : skipBlanks (c :: s) = c :: s := by
  simp [skipBlanks, h]

lemma skipBlanks_skipBlanks (s : List Char) : skipBlanks (skipBlanks s) = skipBlanks s :=
  List.dropWhile_idempotent isBlank s

lemma skipBlanks_of_allBlank (h : AllBlank gap) : skipBlanks gap = [] := by
  rw [← List.append_nil gap, skipBlanks_append h]
  rfl

/-- Blanks do not go on with a number. -/
lemma ends_append (h : AllBlank gap) (hrest : Ends rest) : Ends (gap ++ rest) := by
  cases gap with
  | nil => exact hrest
  | cons c gap =>
      rw [List.cons_append, ends_cons_iff]
      rcases isBlank_iff.mp (h c List.mem_cons_self) with rfl | rfl | rfl | rfl <;> decide

/-! ### The layout of arrays and objects -/

/-- Where the blanks of an array or an object stand. -/
structure Spacing where
  /-- In front of every item. -/
  item : List Char
  /-- Between a colon and the value behind it. -/
  colon : List Char
  /-- In front of the closing bracket. -/
  close : List Char
  item_blank : AllBlank item
  colon_blank : AllBlank colon
  close_blank : AllBlank close

namespace Spacing

/-- The texts behind the first one, each behind a comma, and the closing bracket. -/
def following (sp : Spacing) (closing : Char) : List (List Char) → List Char
  | [] => sp.close ++ [closing]
  | s :: ss => ',' :: sp.item ++ s ++ sp.following closing ss

/-- The texts between brackets. -/
def enclosed (sp : Spacing) (opening closing : Char) : List (List Char) → List Char
  | [] => [opening, closing]
  | s :: ss => opening :: sp.item ++ s ++ sp.following closing ss

/-- The text of a member, whose value has the text `s`. -/
def member (sp : Spacing) (key : String) (s : List Char) : List Char :=
  Quoted.write key.toList ++ ':' :: sp.colon ++ s

lemma enclosed_eq_cons (sp : Spacing) (opening closing : Char) (ss : List (List Char)) :
    ∃ t, sp.enclosed opening closing ss = opening :: t := by
  cases ss <;> exact ⟨_, rfl⟩

/-- What follows an item does not go on with a number. -/
lemma ends_following (sp : Spacing) (closing : Char) (h : Ends [closing])
    (ss : List (List Char)) (rest : List Char) : Ends (sp.following closing ss ++ rest) := by
  cases ss with
  | nil =>
      rw [following, List.append_assoc]
      exact ends_append sp.close_blank (ends_cons_iff.mpr (ends_cons_iff.mp h))
  | cons s ss => exact ends_cons_iff.mpr (by decide)

/-- Behind the last item the closing bracket comes next. -/
lemma skipBlanks_following_nil {closing : Char} (sp : Spacing) (h : ¬ isBlank closing)
    (rest : List Char) :
    skipBlanks (sp.following closing [] ++ rest) = closing :: rest := by
  rw [following, List.append_assoc, skipBlanks_append sp.close_blank, List.singleton_append,
    skipBlanks_cons h]

/-- Behind any other item a comma comes next. -/
lemma skipBlanks_following_cons (sp : Spacing) (closing : Char) (s : List Char)
    (ss : List (List Char)) (rest : List Char) :
    skipBlanks (sp.following closing (s :: ss) ++ rest) =
      ',' :: (sp.item ++ (s ++ (sp.following closing ss ++ rest))) := by
  rw [following, List.cons_append, List.append_assoc, List.cons_append, List.append_assoc,
    skipBlanks_cons (by decide)]

end Spacing

namespace Reader

variable {α β γ : Type} {r : Reader α} {a : α} {as : List α}

/-! ### What a reader reads -/

/-- **The reader takes the text `s` as `a`**, whatever blanks stand in front of `s` and whatever
follows it that does not go on with a number. Such a text starts with its value: with no blank and
no closing bracket. -/
structure Reads (r : Reader α) (s : List Char) (a : α) : Prop where
  starts : ∃ c t, s = c :: t ∧ ¬ isBlank c ∧ c ≠ ']'
  run_eq : ∀ gap rest, AllBlank gap → Ends rest → r.run (gap ++ (s ++ rest)) = .ok (a, rest)

/-- Blanks in front of a text that is read are passed over. -/
lemma Reads.skipBlanks_eq (h : r.Reads s a) (hgap : AllBlank gap) (rest : List Char) :
    skipBlanks (gap ++ (s ++ rest)) = s ++ rest := by
  obtain ⟨c, t, rfl, hc, -⟩ := h.starts
  rw [skipBlanks_append hgap, List.cons_append, skipBlanks_cons hc]

/-- A reader that passes over blanks reads what it reads without them. -/
lemma reads_of_skipBlanks (hskip : ∀ s, r.run s = r.run (skipBlanks s))
    (hs : s = c :: t) (hblank : ¬ isBlank c) (hbracket : c ≠ ']')
    (h : ∀ rest, Ends rest → r.run (s ++ rest) = .ok (a, rest)) : r.Reads s a where
  starts := ⟨c, t, hs, hblank, hbracket⟩
  run_eq gap rest hgap hrest := by
    subst hs
    rw [hskip, skipBlanks_append hgap, List.cons_append, skipBlanks_cons hblank, ← List.cons_append,
      h rest hrest]

lemma refine_run {f : α → Except Mismatch β} {b : β} (h : r.run s = .ok (a, rest))
    (hf : f a = .ok b) : (r.refine f).run s = .ok (b, rest) := by
  simp only [refine, h, hf]

lemma map_run (f : α → β) (h : r.run s = .ok (a, rest)) : (r.map f).run s = .ok (f a, rest) :=
  refine_run h rfl

/-- What is read is refined, if it has the right shape. -/
lemma Reads.refine {f : α → Except Mismatch β} {b : β} (h : r.Reads s a) (hf : f a = .ok b) :
    (r.refine f).Reads s b where
  starts := h.starts
  run_eq gap rest hgap hrest := refine_run (h.run_eq gap rest hgap hrest) hf

lemma Reads.map (f : α → β) (h : r.Reads s a) : (r.map f).Reads s (f a) := h.refine rfl

/-- Where no fault is found there is none to place. -/
lemma settled_run (h : r.run s = .ok (a, rest)) : r.settled.run s = .ok (a, rest) := by
  simp only [Reader.settled, h]

lemma Reads.settled (h : r.Reads s a) : r.settled.Reads s a where
  starts := h.starts
  run_eq gap rest hgap hrest := settled_run (h.run_eq gap rest hgap hrest)

/-- **A string is read as it is written** where a string is expected. -/
lemma string_reads (expected text : String) :
    (string expected).Reads (Quoted.write text.toList) text := by
  refine reads_of_skipBlanks (fun s => ?_) rfl (by decide) (by decide) fun rest _ => ?_
  · simp only [string, skipBlanks_skipBlanks]
  · obtain ⟨t, ht, hread⟩ := Quoted.read_write text.toList rest
    have hskip : skipBlanks ('"' :: t) = '"' :: t := skipBlanks_cons (by decide) t
    simp only [ht, string, hskip, if_true, hread, String.ofList_toList]

/-- **A whole text is read** if nothing but blanks follows the value. -/
lemma readAll_eq_ok (h : r.Reads s a) (hgap : AllBlank gap) :
    r.readAll (String.ofList (s ++ gap)) = .ok a := by
  have hends : Ends gap := List.append_nil gap ▸ ends_append hgap ends_nil
  have hrun : r.run (s ++ gap) = .ok (a, gap) := h.run_eq [] gap allBlank_nil hends
  simp only [readAll, String.toList_ofList, hrun, skipBlanks_of_allBlank hgap]

lemma readAll_ofList (h : r.Reads s a) : r.readAll (String.ofList s) = .ok a := by
  have hread := readAll_eq_ok h allBlank_nil
  rwa [List.append_nil] at hread

/-! ### Arrays -/

lemma itemAnd_eq {item : Reader α} {more : (rest : List Char) → rest.length < s.length →
      Except Fault (List α × List Char)} (hitem : item.run s = .ok (a, unread))
    (hmore : ∀ h, more unread h = .ok (as, rest)) : itemAnd item s more = .ok (a :: as, rest) := by
  unfold itemAnd
  split
  · simp_all
  · rename_i b t hrun
    obtain ⟨rfl, rfl⟩ : b = a ∧ t = unread := by simpa [hrun] using hitem
    rw [hmore]

lemma moreItems_of_bracket {item : Reader α} (h : skipBlanks s = ']' :: rest) :
    moreItems item s = .ok ([], rest) := by
  unfold moreItems
  split <;> simp_all

lemma moreItems_of_comma {item : Reader α} (h : skipBlanks s = ',' :: t)
    (ht : skipBlanks t = d :: after) (hd : d ≠ ']')
    (hitem : item.run (d :: after) = .ok (a, unread))
    (hmore : moreItems item unread = .ok (as, rest)) : moreItems item s = .ok (a :: as, rest) := by
  unfold moreItems
  split
  · simp_all
  · rename_i c' t' hs
    obtain ⟨rfl, rfl⟩ : c' = ',' ∧ t' = t := by simpa [hs] using h
    rw [if_neg (by decide), if_pos rfl]
    split
    · simp_all
    · rename_i d' after' ht'
      obtain ⟨rfl, rfl⟩ : d' = d ∧ after' = after := by simpa [ht'] using ht
      rw [if_neg hd]
      exact itemAnd_eq hitem fun _ => hmore

section Items

variable {item : Reader α} {text : γ → List Char} {out : γ → α} {xs : List γ}

/-- Behind the blanks in front of an item the reader of the item takes over, up to the next comma
or the closing bracket. -/
lemma Reads.exists_run (h : item.Reads s a) (sp : Spacing) (closing : Char)
    (hclosing : Ends [closing]) (ss : List (List Char)) (rest : List Char) :
    ∃ c t, skipBlanks (sp.item ++ (s ++ (sp.following closing ss ++ rest))) = c :: t ∧ c ≠ ']' ∧
      item.run (c :: t) = .ok (a, sp.following closing ss ++ rest) := by
  obtain ⟨c, t, hs, -, hbracket⟩ := h.starts
  refine ⟨c, t ++ (sp.following closing ss ++ rest), ?_, hbracket, ?_⟩
  · rw [h.skipBlanks_eq sp.item_blank, hs, List.cons_append]
  · rw [← List.cons_append, ← hs]
    exact h.run_eq [] _ allBlank_nil (sp.ends_following closing hclosing ss rest)

/-- The items behind the first one are read from their texts. -/
lemma moreItems_following (h : ∀ x ∈ xs, item.Reads (text x) (out x)) (sp : Spacing)
    (rest : List Char) :
    moreItems item (sp.following ']' (xs.map text) ++ rest) = .ok (xs.map out, rest) := by
  induction xs with
  | nil => exact moreItems_of_bracket (sp.skipBlanks_following_nil (by decide) rest)
  | cons x xs ih =>
      rw [List.forall_mem_cons] at h
      obtain ⟨c, t, hskip, hbracket, hrun⟩ :=
        h.1.exists_run sp ']' (by decide) (xs.map text) rest
      exact moreItems_of_comma (sp.skipBlanks_following_cons ']' _ _ rest) hskip hbracket hrun
        (ih h.2)

/-- **An array is read** if its items are read from their texts. -/
lemma listOf_enclosed (h : ∀ x ∈ xs, item.Reads (text x) (out x)) (sp : Spacing)
    (rest : List Char) :
    (listOf item).run (sp.enclosed '[' ']' (xs.map text) ++ rest) = .ok (xs.map out, rest) := by
  cases xs with
  | nil => rfl
  | cons x xs =>
      rw [List.forall_mem_cons] at h
      obtain ⟨c, t, hskip, hbracket, hrun⟩ :=
        h.1.exists_run sp ']' (by decide) (xs.map text) rest
      simp only [List.map_cons, Spacing.enclosed, List.append_assoc, List.cons_append, listOf,
        if_true, hskip, if_neg hbracket]
      exact itemAnd_eq hrun fun _ => moreItems_following h.2 sp rest

end Items

/-! ### Objects -/

section Members

variable {rule : KeyRule} {value : String → Reader α} {earlier : List String} {key : String}
  {name : γ → String} {text : γ → List Char} {out : γ → α} {xs : List γ}

/-- The rule has nothing against the keys, one after the other. -/
def Admits (rule : KeyRule) (earlier : List String) : List String → Prop
  | [] => True
  | key :: keys => rule earlier key = none ∧ Admits rule (key :: earlier) keys

lemma admits_anyKey (earlier keys : List String) : Admits anyKey earlier keys := by
  induction keys generalizing earlier with
  | nil => trivial
  | cons key keys ih => exact ⟨rfl, ih _⟩

/-- **A member is read** if its value is read from its text. -/
lemma member_eq (hkey : rule earlier key = none) (h : (value key).Reads s a) (sp : Spacing)
    (hrest : Ends rest) :
    member rule value earlier (sp.member key s ++ rest) = .ok ((key, a), rest) := by
  obtain ⟨t, ht, hquoted⟩ :=
    Quoted.read_write key.toList (':' :: (sp.colon ++ (s ++ rest)))
  have hvalue := h.run_eq sp.colon rest sp.colon_blank hrest
  have hcolon : skipBlanks (':' :: (sp.colon ++ (s ++ rest))) = ':' :: (sp.colon ++ (s ++ rest)) :=
    skipBlanks_cons (by decide) _
  simp only [Spacing.member, List.append_assoc, List.cons_append, ht, member, hquoted,
    String.ofList_toList, hkey, hcolon, hvalue, if_true]
  rfl

lemma moreMembers_of_brace (h : skipBlanks s = '\x7d' :: rest) :
    moreMembers rule value earlier s = .ok ([], rest) := by
  unfold moreMembers
  split <;> simp_all

/-- Behind a comma the next member stands, and behind it the others. -/
lemma moreMembers_eq_of_comma (h : skipBlanks s = ',' :: t) :
    moreMembers rule value earlier s =
      match member rule value earlier (skipBlanks t) with
      | .error fault => .error fault
      | .ok (m, unread) =>
        match moreMembers rule value (m.1 :: earlier) unread with
        | .error fault => .error fault
        | .ok (ms, rest) => .ok (m :: ms, rest) := by
  rw [moreMembers]
  split
  · simp_all
  · rename_i c' t' hs
    obtain ⟨rfl, rfl⟩ : c' = ',' ∧ t' = t := by simpa [hs] using h
    rw [if_neg (by decide), if_pos rfl]
    split
    · rename_i fault hm
      rw [hm]
    · rename_i m unread hm
      cases hmore : moreMembers rule value (m.1 :: earlier) unread <;> simp only [hm, hmore]

lemma moreMembers_of_comma {ms : List (String × α)} (h : skipBlanks s = ',' :: t)
    (hmember : member rule value earlier (skipBlanks t) = .ok ((key, a), unread))
    (hmore : moreMembers rule value (key :: earlier) unread = .ok (ms, rest)) :
    moreMembers rule value earlier s = .ok ((key, a) :: ms, rest) := by
  simp only [moreMembers_eq_of_comma h, hmember, hmore]

/-- The text of a member starts with its key. -/
lemma skipBlanks_member (sp : Spacing) (key : String) (s rest : List Char) :
    skipBlanks (sp.item ++ (sp.member key s ++ rest)) = sp.member key s ++ rest := by
  rw [skipBlanks_append sp.item_blank]
  exact skipBlanks_cons (by decide) _

/-- The members behind the first one are read from their texts. -/
lemma moreMembers_following (h : ∀ x ∈ xs, (value (name x)).Reads (text x) (out x))
    (hkeys : Admits rule earlier (xs.map name)) (sp : Spacing) (rest : List Char) :
    moreMembers rule value earlier
        (sp.following '\x7d' (xs.map fun x => sp.member (name x) (text x)) ++ rest) =
      .ok (xs.map fun x => (name x, out x), rest) := by
  induction xs generalizing earlier with
  | nil => exact moreMembers_of_brace (sp.skipBlanks_following_nil (by decide) rest)
  | cons x xs ih =>
      rw [List.forall_mem_cons] at h
      refine moreMembers_of_comma (sp.skipBlanks_following_cons '\x7d' _ _ rest) ?_
        (ih h.2 hkeys.2)
      rw [skipBlanks_member]
      exact member_eq hkeys.1 h.1 sp (sp.ends_following _ (by decide) _ rest)

/-- **An object is read** if its values are read from their texts. -/
lemma membersOf_enclosed (h : ∀ x ∈ xs, (value (name x)).Reads (text x) (out x))
    (hkeys : Admits rule [] (xs.map name)) (sp : Spacing) (rest : List Char) :
    (membersOf rule value).run
        (sp.enclosed '\x7b' '\x7d' (xs.map fun x => sp.member (name x) (text x)) ++ rest) =
      .ok (xs.map fun x => (name x, out x), rest) := by
  cases xs with
  | nil => rfl
  | cons x xs =>
      rw [List.forall_mem_cons] at h
      have hmore := moreMembers_following h.2 hkeys.2 sp rest
      have hmember := member_eq hkeys.1 h.1 sp
        (sp.ends_following '\x7d' (by decide) (xs.map fun x => sp.member (name x) (text x)) rest)
      have hskip := skipBlanks_member sp (name x) (text x)
        (sp.following '\x7d' (xs.map fun x => sp.member (name x) (text x)) ++ rest)
      -- The text starts with the quote of a key, not with the closing brace.
      obtain ⟨t, ht⟩ : ∃ t, sp.member (name x) (text x) ++
          (sp.following '\x7d' (xs.map fun x => sp.member (name x) (text x)) ++ rest) = '"' :: t :=
        ⟨_, rfl⟩
      rw [ht] at hmember
      simp only [List.map_cons, Spacing.enclosed, List.append_assoc, List.cons_append, membersOf,
        if_true, hskip.trans ht, hmember, hmore]
      rfl

end Members

/-! ### Shapes -/

/-- **An array is read** where an array is expected. -/
lemma shaped_reads_array {expected : String} {object : Option (Reader α)}
    (hs : s = '[' :: t) (h : ∀ rest, Ends rest → r.run (s ++ rest) = .ok (a, rest)) :
    (shaped expected (some r) object).Reads s a := by
  subst hs
  refine reads_of_skipBlanks (fun s => ?_) rfl (by decide) (by decide) fun rest hrest => ?_
  · simp only [shaped, skipBlanks_skipBlanks]
  · have hskip : skipBlanks ('[' :: t ++ rest) = '[' :: t ++ rest := skipBlanks_cons (by decide) _
    have hlead : lead ('[' :: t ++ rest) = .bracket := rfl
    simp only [shaped, hskip, hlead, h rest hrest]

/-- **An object is read** where an object is expected. -/
lemma shaped_reads_object {expected : String} {array : Option (Reader α)}
    (hs : s = '\x7b' :: t) (h : ∀ rest, Ends rest → r.run (s ++ rest) = .ok (a, rest)) :
    (shaped expected array (some r)).Reads s a := by
  subst hs
  refine reads_of_skipBlanks (fun s => ?_) rfl (by decide) (by decide) fun rest hrest => ?_
  · simp only [shaped, skipBlanks_skipBlanks]
  · have hskip : skipBlanks ('\x7b' :: t ++ rest) = '\x7b' :: t ++ rest :=
      skipBlanks_cons (by decide) _
    have hlead : lead ('\x7b' :: t ++ rest) = .brace := rfl
    simp only [shaped, hskip, hlead, h rest hrest]

end Reader

end FieldNorm.Json
