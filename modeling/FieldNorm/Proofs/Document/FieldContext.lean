import FieldNorm.Proofs.Document.Refusal

/-!
A value in the text of an object.

* `Fails`: a way to read fails with a given cause. `MembersFail` says that one of the members at the
  start of a text does, and those in front of it are read; then the object fails with that cause.
* `FieldContext`: the text of an object around the value of one of its members, and `fill`, the text
  with a value in that place.
* `FieldContext.parse_fill`, `FieldContext.parse_fill_error`: if the reader of values reads the text
  of the value, whatever follows it, the object is read, and if it fails, so does the object.
* `FieldContext.exists_read_fill`, `FieldContext.read_fill_error`: what this means for the document.
-/

namespace FieldNorm

namespace Json

variable {α : Type} {cause : Cause} {s t : List Char} {earlier : List String}

/-! ### Faults -/

/-- The reading fails with the cause. -/
def Fails (cause : Cause) (result : Except Fault α) : Prop :=
  ∃ fault, result = .error fault ∧ fault.cause = cause

/-- To place a fault does not change its cause. -/
lemma cause_settle (close : List Char → List Char) (fault : Fault) :
    (fault.settle close).cause = fault.cause := by
  rw [Fault.settle]
  split <;> rfl

namespace Reader

/-- A member fails if its value does. -/
lemma fails_member {value : String → Reader α} {name : String} {u v : List Char}
    (hname : Quoted.read [] t = .ok (name.toList, u)) (hcolon : skipBlanks u = ':' :: v)
    (h : Fails cause ((value name).run v)) :
    Fails cause (member anyKey value earlier ('"' :: t)) := by
  obtain ⟨fault, hfault, hcause⟩ := h
  refine ⟨fault.settle closeObject, ?_, (cause_settle _ _).trans hcause⟩
  simp [member, anyKey, hname, String.ofList_toList, hcolon, hfault]

/-- One of the members that stand at the start of a text, each behind a comma but the first one,
fails, and those in front of it are read. -/
inductive MembersFail (cause : Cause) (value : String → Reader α) :
    (earlier : List String) → List Char → Prop
  | here {earlier : List String} {s t : List Char} (hquote : skipBlanks s = '"' :: t)
      (h : Fails cause (member anyKey value earlier ('"' :: t))) : MembersFail cause value earlier s
  | behind {earlier : List String} {s t unread later : List Char} {m : String × α}
      (hquote : skipBlanks s = '"' :: t)
      (hmember : member anyKey value earlier ('"' :: t) = .ok (m, unread))
      (hcomma : skipBlanks unread = ',' :: later)
      (h : MembersFail cause value (m.1 :: earlier) later) : MembersFail cause value earlier s

variable {value : String → Reader α}

/-- Behind a comma, the members behind it fail. -/
lemma MembersFail.moreMembers (h : MembersFail cause value earlier t)
    (hcomma : skipBlanks s = ',' :: t) : Fails cause (moreMembers anyKey value earlier s) := by
  induction h generalizing s with
  | here hquote hfails =>
      obtain ⟨fault, hfault, hcause⟩ := hfails
      exact ⟨fault, by simp only [moreMembers_eq_of_comma hcomma, hquote, hfault], hcause⟩
  | behind hquote hmember hnext _ ih =>
      obtain ⟨fault, hfault, hcause⟩ := ih hnext
      refine ⟨fault, ?_, hcause⟩
      simp only [moreMembers_eq_of_comma hcomma, hquote, hmember, hfault]

/-- **An object fails if one of its members does.** -/
lemma MembersFail.membersOf (h : MembersFail cause value [] t) :
    Fails cause ((membersOf anyKey value).run ('\x7b' :: t)) := by
  cases h with
  | here hquote hfails =>
      obtain ⟨fault, hfault, hcause⟩ := hfails
      exact ⟨fault, by simp [Reader.membersOf, hquote, hfault], hcause⟩
  | behind hquote hmember hcomma hmore =>
      obtain ⟨fault, hfault, hcause⟩ := hmore.moreMembers hcomma
      exact ⟨fault, by simp [Reader.membersOf, hquote, hmember, hfault], hcause⟩

/-- A whole text fails if an object at its start does. -/
lemma fails_parse {text : String} {rest : List Char}
    (hbrace : skipBlanks text.toList = '\x7b' :: rest)
    (h : Fails cause
      ((membersOf anyKey fun _ => Reader.value (maxDepth - 1)).run ('\x7b' :: rest))) :
    ∃ e, parse text = .error e ∧ e.cause = cause := by
  obtain ⟨fault, hfault, hcause⟩ := h
  have hrun : (Reader.value maxDepth).run text.toList = .error fault := by
    have hlead : lead ('\x7b' :: rest) = .brace := rfl
    have hdepth : Reader.value maxDepth = valueWith (some (Reader.value (maxDepth - 1))) := rfl
    rw [hdepth, valueWith]
    simp only [hbrace, hlead, map, refine, hfault]
  exact ⟨fault.toError text.toList, by simp only [parse, readAll, hrun], hcause⟩

end Reader

end Json

/-! ### Objects around a value -/

namespace Document

open Json (AllBlank Spacing isBlank skipBlanks skipBlanks_append skipBlanks_cons ends_append Fails)
open Json.Numeral (Ends)
open Json.Reader

/-- Texts of members with commas between them, and the closing brace. -/
def openText : List String → List Char
  | [] => ['\x7d']
  | text :: texts => text.toList ++ Spacing.none.following '\x7d' (texts.map String.toList)

lemma toList_objectText (texts : List String) :
    (objectText texts).toList = '\x7b' :: openText texts := by
  cases texts with
  | nil => rfl
  | cons text texts => exact toList_objectText_cons text texts

/-- Members that are read may stand in front of those that fail. -/
lemma membersFail_openText {cause : Json.Cause} {text : String} {texts : List String}
    {rest : List Char}
    (h : ∀ earlier, MembersFail cause valueReader earlier (openText (text :: texts) ++ rest))
    (front : List MemberText) : ∀ earlier, MembersFail cause valueReader earlier
      (openText (front.map (·.text) ++ text :: texts) ++ rest) := by
  induction front with
  | nil => exact h
  | cons m front ih =>
      intro earlier
      obtain ⟨next, others, hothers⟩ :
          ∃ next others, front.map (·.text) ++ text :: texts = next :: others := by
        cases front <;> exact ⟨_, _, rfl⟩
      rw [hothers] at ih
      have hcomma : openText ((m :: front).map (·.text) ++ text :: texts) ++ rest =
          m.text.toList ++ ',' :: (openText (next :: others) ++ rest) := by
        rw [List.map_cons, List.cons_append, hothers, openText, List.append_assoc]
        rfl
      have hends : Ends (',' :: (openText (next :: others) ++ rest)) :=
        Json.Numeral.ends_cons_iff.mpr (by decide)
      obtain ⟨gap, t, hgap, ht, hmember⟩ := m.exists_run hends
      rw [hcomma]
      refine .behind ht (hmember earlier) ?_ (ih _)
      rw [skipBlanks_append hgap]
      exact skipBlanks_cons (by decide) _

/-- Blanks, or nothing. -/
def Gap : Type := {gap : List Char // AllBlank gap}

/-- **The text of an object around the value of one of its members.** No later member has the name
of this one, and what else counts in the object are scalars, so that it is a document if a scalar
is put in that place. The name may be written in any way that is read as such. -/
structure FieldContext where
  /-- The members in front of this one, and those behind it. -/
  front : List MemberText
  back : List MemberText
  name : String
  /-- The name as it is written, behind the quote that opens it. -/
  quoted : List Char
  beforeObject : Gap
  beforeName : Gap
  beforeColon : Gap
  beforeValue : Gap
  behindValue : Gap
  behindObject : Gap
  reads_quoted : ∀ rest, Json.Quoted.read [] (quoted ++ rest) = .ok (name.toList, rest)
  name_notMem : name ∉ back.map (·.name)
  isScalar_of_counts : ∀ other a, other ≠ name →
    Counts ((front ++ back).map (·.entry)) other a → a.IsScalar

namespace FieldContext

variable (ctx : FieldContext) {value : List Char} {j : Json} {cause : Json.Cause}

/-- The text of the member behind the quote that opens it. -/
def behindQuote (value : List Char) : List Char :=
  ctx.quoted ++ (ctx.beforeColon.1 ++ ':' :: (ctx.beforeValue.1 ++ value))

/-- The text of the member. -/
def member (value : List Char) : String :=
  String.ofList (ctx.beforeName.1 ++ '"' :: (ctx.behindQuote value ++ ctx.behindValue.1))

/-- The text of the object with a value in its place. -/
def fill (value : List Char) : String :=
  String.ofList (ctx.beforeObject.1 ++
    ((objectText (ctx.front.map (·.text) ++ ctx.member value :: ctx.back.map (·.text))).toList ++
      ctx.behindObject.1))

/-- The members of the object with a value in its place. -/
def members (j : Json) : List (String × Json) :=
  ctx.front.map (·.entry) ++ (ctx.name, j) :: ctx.back.map (·.entry)

/-- The name is read, and the value stands behind the colon. -/
lemma exists_of_behindQuote (value rest : List Char) :
    ∃ u, Json.Quoted.read [] (ctx.behindQuote value ++ rest) = .ok (ctx.name.toList, u) ∧
      skipBlanks u = ':' :: (ctx.beforeValue.1 ++ (value ++ rest)) := by
  refine ⟨ctx.beforeColon.1 ++ ':' :: (ctx.beforeValue.1 ++ (value ++ rest)), ?_, ?_⟩
  · rw [behindQuote, List.append_assoc, ctx.reads_quoted, List.append_assoc, List.cons_append,
      List.append_assoc]
  · rw [skipBlanks_append ctx.beforeColon.2]
    exact skipBlanks_cons (by decide) _

/-- **What is read of the value is read of the object.** -/
lemma parse_fill (h : ∀ gap rest, AllBlank gap → Ends rest →
      (Json.Reader.value (Json.maxDepth - 1)).run (gap ++ (value ++ rest)) = .ok (j, rest)) :
    Json.parse (ctx.fill value) = .ok (.object (ctx.members j)) := by
  have hmember : ∀ rest, Ends rest →
      Json.Reader.member anyKey valueReader [] ('"' :: (ctx.behindQuote value ++ rest)) =
        .ok ((ctx.name, j), rest) := by
    intro rest hrest
    obtain ⟨u, hname, hcolon⟩ := ctx.exists_of_behindQuote value rest
    exact member_eq_ok_iff.mpr ⟨_, _, u, _, rfl, hname, String.ofList_toList.symm, rfl, hcolon,
      h _ _ ctx.beforeValue.2 hrest⟩
  let m : MemberText := ⟨ctx.member value, ctx.name, j,
    parse_objectText_singleton ctx.beforeName.2 ctx.behindValue.2 hmember⟩
  have hmade : MadeOf (ctx.fill value) (ctx.front ++ m :: ctx.back) := by
    refine ⟨_, _, ctx.beforeObject.2, ctx.behindObject.2, ?_⟩
    rw [fill, String.toList_ofList, List.map_append, List.map_cons]
  rw [hmade.parse_eq, List.map_append, List.map_cons]
  rfl

/-- **The object fails as its value does.** -/
lemma parse_fill_error (h : ∀ gap rest, AllBlank gap → Ends rest →
      Fails cause ((Json.Reader.value (Json.maxDepth - 1)).run (gap ++ (value ++ rest)))) :
    ∃ e, Json.parse (ctx.fill value) = .error e ∧ e.cause = cause := by
  have hplace : ∀ earlier, MembersFail cause valueReader earlier
      (openText (ctx.member value :: ctx.back.map (·.text)) ++ ctx.behindObject.1) := by
    intro earlier
    have hends := ends_append ctx.behindValue.2 (ends_followingText ctx.back ctx.behindObject.1)
    obtain ⟨u, hname, hcolon⟩ := ctx.exists_of_behindQuote value
      (ctx.behindValue.1 ++ (followingText ctx.back ++ ctx.behindObject.1))
    refine .here ?_ (fails_member hname hcolon (h _ _ ctx.beforeValue.2 hends))
    rw [openText, member, String.toList_ofList, List.append_assoc, List.append_assoc,
      List.cons_append, List.append_assoc, skipBlanks_append ctx.beforeName.2]
    exact skipBlanks_cons (by decide) _
  refine fails_parse ?_ (membersFail_openText hplace ctx.front []).membersOf
  rw [fill, String.toList_ofList, skipBlanks_append ctx.beforeObject.2, toList_objectText]
  exact skipBlanks_cons (by decide) _

/-! ### The document -/

/-- The member in this place counts. -/
lemma counts_members_iff {a : Json} : Counts (ctx.members j) ctx.name a ↔ a = j := by
  have hcounts : Counts (ctx.members j) ctx.name j := by
    refine ⟨_, _, rfl, ?_⟩
    rw [List.map_map]
    exact ctx.name_notMem
  constructor
  · intro h
    exact Option.some.inj ((get?_ofList_eq_some_iff.mpr h).symm.trans
      (get?_ofList_eq_some_iff.mpr hcounts))
  · rintro rfl
    exact hcounts

/-- It makes no difference to members with other names. -/
lemma counts_members_iff_of_ne {other : String} {a : Json} (h : other ≠ ctx.name) :
    Counts (ctx.members j) other a ↔ Counts ((ctx.front ++ ctx.back).map (·.entry)) other a := by
  have hplace : [(ctx.name, j)].lookup other = none := by
    rw [List.lookup_cons, beq_eq_false_iff_ne.mpr h, List.lookup_nil]
  simp only [← get?_ofList_eq_some_iff, FieldMap.get?_ofList, members, List.map_append,
    List.reverse_append, List.reverse_cons, List.lookup_append, hplace, Option.or_none]

/-- **A scalar in this place makes a document** that has its value in the field. -/
lemma exists_read_fill {v : Value} (h : ∀ gap rest, AllBlank gap → Ends rest →
      (Json.Reader.value (Json.maxDepth - 1)).run (gap ++ (value ++ rest)) = .ok (j, rest))
    (hvalue : Value.ofJson j = .ok v) :
    ∃ d, read (ctx.fill value) = .ok d ∧ d.get? ctx.name = some v := by
  have hflat : IsFlat (.object (ctx.members j)) := by
    refine ⟨_, rfl, fun other a ha => ?_⟩
    by_cases hother : other = ctx.name
    · rw [hother, counts_members_iff] at ha
      rw [ha]
      exact Value.exists_ofJson_iff.mp ⟨v, hvalue⟩
    · exact ctx.isScalar_of_counts other a hother ((ctx.counts_members_iff_of_ne hother).mp ha)
  obtain ⟨d, hd⟩ := exists_ofJson_iff.mpr hflat
  refine ⟨d, by simp only [read, ctx.parse_fill h, hd], ?_⟩
  exact (get?_of_ofJson hd).mpr ⟨j, ctx.counts_members_iff.mpr rfl, hvalue⟩

/-- **A value that cannot be read makes none.** -/
lemma read_fill_error (h : ∀ gap rest, AllBlank gap → Ends rest →
      Fails cause ((Json.Reader.value (Json.maxDepth - 1)).run (gap ++ (value ++ rest)))) :
    ∃ e, read (ctx.fill value) = .error (.json e) ∧ e.cause = cause := by
  obtain ⟨e, he, hcause⟩ := ctx.parse_fill_error h
  exact ⟨e, by simp only [read, he], hcause⟩

end FieldContext

end Document

end FieldNorm
