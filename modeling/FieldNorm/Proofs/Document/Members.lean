import FieldNorm.Proofs.Document.Reading
import FieldNorm.Proofs.Json.Locality
import FieldNorm.Proofs.Json.RoundTrip
import Mathlib.Data.List.Nodup

/-!
The members of an object text.

* `FieldMap.get?_ofList`: of several pairs with one key the last one counts. So the order of pairs
  with different keys does not matter (`FieldMap.ofList_eq_of_perm`), and a pair may be left out if
  a later one has its key (`FieldMap.ofList_append_cons`).
* `Document.MemberText`: the text of one member, which between braces is an object with that member
  alone; `Document.MadeOf` says that a text is put together of such texts.
* `Document.MadeOf.parse_eq`, `Document.exists_madeOf`: the members of the object are those of the
  texts, in their order, and every text of an object with members is put together so.
* `Document.MadeOf.read_eq_of_perm`, `Document.MadeOf.read_eq_of_append_cons`: what this means for
  the document that is read.
-/

namespace FieldNorm

namespace FieldMap

variable {α : Type} {key : String} {l l' front back : List (String × α)} {x : String × α}

/-! ### Lists of pairs -/

/-- **Of several pairs with one key the last one counts.** -/
lemma get?_ofList : (ofList l).get? key = l.reverse.lookup key := by
  induction l using List.reverseRecOn with
  | nil => rfl
  | append_singleton l x ih =>
      have hlast : ofList (l ++ [x]) = (ofList l).insert x.1 x.2 := by
        simp only [ofList, List.foldl_append, List.foldl_cons, List.foldl_nil]
      rw [hlast, get?_insert, ih, List.reverse_append, List.reverse_singleton,
        List.singleton_append, List.lookup_cons]
      split_ifs with hkey
      · rw [beq_iff_eq.mpr hkey]
      · rw [beq_eq_false_iff_ne.mpr hkey]

/-- **Pairs with different keys may be put in any order.** -/
lemma ofList_eq_of_perm (hperm : l.Perm l') (hkeys : (l.map (·.1)).Nodup) :
    ofList l = ofList l' := by
  refine ext_get? fun key => ?_
  have hkeys' : (l'.map (·.1)).Nodup := (hperm.map _).nodup_iff.mp hkeys
  have hreverse : ∀ {k : List (String × α)}, (k.map (·.1)).Nodup → (k.reverse.map (·.1)).Nodup :=
    fun hk => by rwa [List.map_reverse, List.nodup_reverse]
  refine Option.ext fun a => ?_
  rw [get?_ofList, get?_ofList, lookup_eq_some_iff_of_nodup (hreverse hkeys),
    lookup_eq_some_iff_of_nodup (hreverse hkeys'), List.mem_reverse, List.mem_reverse,
    hperm.mem_iff]

/-- **A pair may be left out** if a later one has its key. -/
lemma ofList_append_cons (h : x.1 ∈ back.map (·.1)) :
    ofList (front ++ x :: back) = ofList (front ++ back) := by
  refine ext_get? fun key => ?_
  simp only [get?_ofList, List.reverse_append, List.reverse_cons, List.append_assoc,
    List.lookup_append]
  by_cases hkey : key = x.1
  · obtain ⟨y, hy, hxy⟩ := List.mem_map.mp h
    have hlater : (back.reverse.lookup key).isSome :=
      List.lookup_isSome_iff.mpr ⟨y, List.mem_reverse.mpr hy, beq_iff_eq.mpr (hkey.trans hxy.symm)⟩
    obtain ⟨a, ha⟩ := Option.isSome_iff_exists.mp hlater
    rw [ha, Option.some_or, Option.some_or]
  · have hplace : [x].lookup key = none :=
      List.lookup_eq_none_iff.mpr fun y hy => by simpa [List.mem_singleton.mp hy] using hkey
    rw [hplace, Option.none_or]

end FieldMap

namespace Document

open Json (AllBlank Spacing isBlank skipBlanks skipBlanks_append skipBlanks_cons ends_append)
open Json.Numeral (Ends)
open Json.Reader

variable {front back : List Char} {members members' : List (String × Json)} {text text' : String}

/-! ### Texts of members -/

/-- The text of an object with the given texts of members. -/
def objectText (members : List String) : String :=
  "\x7b" ++ ",".intercalate members ++ "\x7d"

/-- The text of a member of an object, with blanks around it or without: alone between braces it is
an object with that member. -/
structure MemberText where
  text : String
  name : String
  value : Json
  stands : Json.parse (objectText [text]) = .ok (.object [(name, value)])

/-- The name with the value that stands in the text. -/
def MemberText.entry (m : MemberText) : String × Json := (m.name, m.value)

/-- Behind the first member the others follow, each behind a comma, and the closing brace. -/
lemma toList_objectText_cons (text : String) (texts : List String) :
    (objectText (text :: texts)).toList = '\x7b' ::
      (text.toList ++ Spacing.none.following '\x7d' (texts.map String.toList)) := by
  have hfollowing : ∀ (text : String) (texts : List String),
      [','].intercalate ((text :: texts).map String.toList) ++ ['\x7d'] =
        text.toList ++ Spacing.none.following '\x7d' (texts.map String.toList) := by
    intro text texts
    induction texts generalizing text with
    | nil => rw [List.map_singleton, List.intercalate_singleton]; rfl
    | cons next texts ih =>
        rw [List.map_cons, List.map_cons, List.intercalate_cons_cons, List.append_assoc,
          List.append_assoc, ← List.map_cons, ih next]
        rfl
  rw [objectText, String.toList_append, String.toList_append, String.toList_intercalate,
    List.append_assoc]
  exact congrArg ('\x7b' :: ·) (hfollowing text texts)

/-- The reader of the values in an object that is a whole text. -/
def valueReader : String → Json.Reader Json := fun _ => Json.Reader.value (Json.maxDepth - 1)

/-- A text that ends with its only `c` is cut in front of it in one way. -/
lemma append_singleton_inj {s t rest : List Char} {c : Char} (h : s ++ [c] = t ++ c :: rest)
    (hrest : c ∉ rest) : s = t ∧ rest = [] := by
  rcases List.eq_nil_or_concat rest with rfl | ⟨init, d, rfl⟩
  · exact ⟨List.append_cancel_right h, rfl⟩
  · rw [List.concat_eq_append] at h hrest
    have hconcat : s ++ [c] = (t ++ c :: init) ++ [d] := by
      rw [h, List.append_assoc, List.cons_append]
    have hlast : c = d := List.cons_eq_cons.mp (List.append_inj' hconcat rfl).2 |>.1
    exact absurd (hlast ▸ List.mem_append_right init List.mem_cons_self) hrest

/-- **What the text of a member is made of**: blanks, a member that is read whatever follows it,
and blanks again. -/
lemma MemberText.exists_front (m : MemberText) :
    ∃ gap front gap', m.text.toList = gap ++ '"' :: (front ++ gap') ∧ AllBlank gap ∧
      AllBlank gap' ∧ ∀ earlier rest, Ends rest →
        member anyKey valueReader earlier ('"' :: (front ++ rest)) = .ok (m.entry, rest) := by
  obtain ⟨rest, ⟨-, hmembers⟩, hrest⟩ := parse_eq_object_iff.mp m.stands
  have hbrace : skipBlanks (objectText [m.text]).toList =
      '\x7b' :: (m.text.toList ++ ['\x7d']) := by
    rw [toList_objectText_cons]
    exact skipBlanks_cons (by decide) _
  rw [hbrace] at hmembers
  obtain ⟨t, ht, ⟨-, hnil⟩ | ⟨name, value, unread, others, hmember, hothers, hlist⟩⟩ :=
    membersOf_eq_ok_iff.mp hmembers
  · cases hnil
  · obtain ⟨hentry, rfl⟩ := List.cons_eq_cons.mp hlist
    obtain ⟨-, rfl⟩ := List.cons_eq_cons.mp ht
    rcases moreMembers_eq_ok_iff.mp hothers with ⟨hclose, -⟩ | ⟨_, _, _, _, _, -, -, -, hnil⟩
    · obtain ⟨front, hquote, hfront⟩ := exists_of_member (fun _ => local_value _) hmember
      obtain ⟨gap, htext, hgap, -⟩ := exists_of_skipBlanks hquote
      obtain ⟨gap', rfl, hgap', -⟩ := exists_of_skipBlanks hclose
      -- the brace that closes the object is the one behind the text
      have hclosing : '\x7d' ∉ rest := fun hmem =>
        absurd (List.dropWhile_eq_nil_iff.mp hrest _ hmem) (by decide)
      obtain ⟨htext, -⟩ := append_singleton_inj
        (t := gap ++ '"' :: (front ++ gap')) (by simpa using htext) hclosing
      refine ⟨gap, front, gap', htext, hgap, hgap', fun earlier rest hends => ?_⟩
      have hexchange := hfront rest (.inl hends)
      rw [← hentry] at hexchange
      exact hexchange
    · cases hnil

/-- A member is read from its text, and blanks are left. -/
lemma MemberText.exists_run (m : MemberText) {rest : List Char} (hrest : Ends rest) :
    ∃ gap t, AllBlank gap ∧ skipBlanks (m.text.toList ++ rest) = '"' :: t ∧
      ∀ earlier, member anyKey valueReader earlier ('"' :: t) = .ok (m.entry, gap ++ rest) := by
  obtain ⟨before, front, gap, htext, hbefore, hgap, hmember⟩ := m.exists_front
  refine ⟨gap, front ++ (gap ++ rest), hgap, ?_, fun earlier => ?_⟩
  · rw [htext, List.append_assoc, List.cons_append, List.append_assoc, skipBlanks_append hbefore]
    exact skipBlanks_cons (by decide) _
  · exact hmember earlier _ (ends_append hgap hrest)

/-- What follows the first member up to the end of the object. -/
def followingText (ms : List MemberText) : List Char :=
  Spacing.none.following '\x7d' ((ms.map (·.text)).map String.toList)

lemma ends_followingText (ms : List MemberText) (rest : List Char) :
    Ends (followingText ms ++ rest) :=
  Spacing.none.ends_following '\x7d' (by decide) _ rest

/-- **The members behind the first one are read from their texts.** -/
lemma moreMembers_followingText (ms : List MemberText) (rest : List Char) :
    ∀ (earlier : List String) (gap : List Char), AllBlank gap →
      moreMembers anyKey valueReader earlier (gap ++ (followingText ms ++ rest)) =
        .ok (ms.map (·.entry), rest) := by
  induction ms with
  | nil =>
      intro earlier gap hgap
      refine moreMembers_of_brace ?_
      rw [skipBlanks_append hgap]
      exact skipBlanks_cons (by decide) _
  | cons m ms ih =>
      intro earlier gap hgap
      obtain ⟨gap', t, hgap', ht, hmember⟩ := m.exists_run (ends_followingText ms rest)
      refine moreMembers_of_comma (t := m.text.toList ++ (followingText ms ++ rest)) ?_ ?_
        (ih (m.name :: earlier) gap' hgap')
      · have hcomma : followingText (m :: ms) ++ rest =
            ',' :: (m.text.toList ++ (followingText ms ++ rest)) := List.append_assoc _ _ _
        rw [skipBlanks_append hgap, hcomma]
        exact skipBlanks_cons (by decide) _
      · rw [ht]
        exact hmember earlier

/-- The text is that of an object with the given texts of members, with blanks around its braces or
without. -/
def MadeOf (text : String) (ms : List MemberText) : Prop :=
  ∃ before after, AllBlank before ∧ AllBlank after ∧
    text.toList = before ++ ((objectText (ms.map (·.text))).toList ++ after)

lemma madeOf_objectText (ms : List MemberText) : MadeOf (objectText (ms.map (·.text))) ms :=
  ⟨[], [], Json.allBlank_nil, Json.allBlank_nil, (List.append_nil _).symm⟩

/-- **An object is read from the texts of its members**, in their order. -/
lemma MadeOf.parse_eq {ms : List MemberText} (h : MadeOf text ms) :
    Json.parse text = .ok (.object (ms.map (·.entry))) := by
  obtain ⟨before, after, hbefore, hafter, htext⟩ := h
  have hrest : skipBlanks after = [] := Json.skipBlanks_of_allBlank hafter
  have hskip : ∀ t, (objectText (ms.map (·.text))).toList = '\x7b' :: t →
      skipBlanks text.toList = '\x7b' :: (t ++ after) := fun t ht => by
    rw [htext, skipBlanks_append hbefore, ht, List.cons_append]
    exact skipBlanks_cons (by decide) _
  cases ms with
  | nil =>
      have hbrace := hskip ['\x7d'] rfl
      refine parse_eq_object_iff.mpr ⟨after, ⟨by rw [hbrace]; rfl, ?_⟩, hrest⟩
      rw [hbrace]
      exact membersOf_eq_ok_iff.mpr ⟨_, rfl, .inl ⟨skipBlanks_cons (by decide) _, rfl⟩⟩
  | cons m ms =>
      obtain ⟨gap, t, hgap, ht, hmember⟩ := m.exists_run (ends_followingText ms after)
      have hbrace := hskip (m.text.toList ++ followingText ms) (toList_objectText_cons _ _)
      rw [List.append_assoc] at hbrace
      refine parse_eq_object_iff.mpr ⟨after, ⟨by rw [hbrace]; rfl, ?_⟩, hrest⟩
      rw [hbrace]
      change (membersOf anyKey valueReader).run _ = _
      refine membersOf_eq_ok_iff.mpr ⟨_, rfl, .inr ⟨m.name, m.value, _, ms.map (·.entry), ?_,
        moreMembers_followingText ms after [m.name] gap hgap, rfl⟩⟩
      rw [ht]
      exact hmember []

/-- The text of a member as it is printed: the name in quotes, a colon and the value. -/
def MemberText.printed (name : String) (value : Json) (h : Json.Fits (Json.maxDepth - 1) value) :
    MemberText where
  text := String.ofList (Json.Quoted.write name.toList ++ ':' :: value.compact)
  name := name
  value := value
  stands := by
    have htext :
        objectText [String.ofList (Json.Quoted.write name.toList ++ ':' :: value.compact)] =
          String.ofList (Json.object [(name, value)]).compact := by
      rw [← String.toList_inj, toList_objectText_cons, String.toList_ofList, String.toList_ofList,
        Json.compact, Json.compactMembers, List.cons_append, List.cons_append, List.append_assoc,
        List.append_assoc]
      rfl
    rw [htext]
    refine Json.parse_compact (.object fun m hm => ?_)
    rw [List.mem_singleton.mp hm]
    exact h

/-! ### Every object is made of texts of members -/

/-- A member that is read whatever follows it stands alone between braces, with blanks around it or
without. -/
lemma parse_objectText_singleton {gap front gap' : List Char} {name : String} {value : Json}
    (hgap : AllBlank gap) (hgap' : AllBlank gap')
    (h : ∀ rest, Ends rest →
      member anyKey valueReader [] ('"' :: (front ++ rest)) = .ok ((name, value), rest)) :
    Json.parse (objectText [String.ofList (gap ++ '"' :: (front ++ gap'))]) =
      .ok (.object [(name, value)]) := by
  have hbrace : skipBlanks (objectText [String.ofList (gap ++ '"' :: (front ++ gap'))]).toList =
      '\x7b' :: (gap ++ '"' :: (front ++ (gap' ++ ['\x7d']))) := by
    rw [toList_objectText_cons, String.toList_ofList, List.append_assoc, List.cons_append,
      List.append_assoc]
    exact skipBlanks_cons (by decide) _
  have hquote : skipBlanks (gap ++ '"' :: (front ++ (gap' ++ ['\x7d']))) =
      '"' :: (front ++ (gap' ++ ['\x7d'])) := by
    rw [skipBlanks_append hgap]
    exact skipBlanks_cons (by decide) _
  have hclose : skipBlanks (gap' ++ ['\x7d']) = ['\x7d'] := by
    rw [skipBlanks_append hgap']
    exact skipBlanks_cons (by decide) _
  refine parse_eq_object_iff.mpr ⟨[], ⟨by rw [hbrace]; rfl, ?_⟩, rfl⟩
  rw [hbrace]
  refine membersOf_eq_ok_iff.mpr ⟨_, rfl, .inr ⟨name, value, gap' ++ ['\x7d'], [], ?_,
    moreMembers_of_brace hclose, rfl⟩⟩
  rw [hquote]
  exact h _ (ends_append hgap' (by decide))

/-- The text of a member that has been read, with the blanks around it. -/
lemma exists_memberText {earlier : List String} {s gap' rest : List Char} {m : String × Json}
    (hmember : member anyKey valueReader earlier (skipBlanks s) = .ok (m, gap' ++ rest))
    (hgap' : AllBlank gap') :
    ∃ mt : MemberText, s = mt.text.toList ++ rest ∧ mt.entry = m := by
  obtain ⟨front, hquote, hfront⟩ := exists_of_member (fun _ => local_value _) hmember
  obtain ⟨gap, rfl, hgap, -⟩ := exists_of_skipBlanks hquote
  refine ⟨⟨String.ofList (gap ++ '"' :: (front ++ gap')), m.1, m.2,
    parse_objectText_singleton hgap hgap' fun rest hends => hfront rest (.inl hends)⟩, ?_, rfl⟩
  simp

/-- Members behind the first one are read only from texts of members. -/
lemma exists_followingText (s : List Char) :
    ∀ {earlier : List String} {members : List (String × Json)} {rest : List Char},
      moreMembers anyKey valueReader earlier s = .ok (members, rest) →
        ∃ gap ms, AllBlank gap ∧ s = gap ++ (followingText ms ++ rest) ∧
          ms.map (·.entry) = members := by
  -- on the length of the text, as the members are read
  induction hn : s.length using Nat.strongRecOn generalizing s with
  | ind n ih =>
      subst hn
      intro earlier members rest h
      rcases moreMembers_eq_ok_iff.mp h with ⟨hs, rfl⟩ |
        ⟨t, name, value, unread, others, hs, hmember, hothers, rfl⟩
      · obtain ⟨gap, rfl, hgap, -⟩ := exists_of_skipBlanks hs
        exact ⟨gap, [], hgap, rfl, rfl⟩
      · have hlength := length_lt_of_comma hs hmember
        obtain ⟨gap', ms, hgap', rfl, rfl⟩ := ih _ hlength unread rfl hothers
        obtain ⟨m, rfl, hm⟩ := exists_memberText hmember hgap'
        obtain ⟨gap, rfl, hgap, -⟩ := exists_of_skipBlanks hs
        refine ⟨gap, m :: ms, hgap, ?_, by rw [List.map_cons, hm]⟩
        have hfollowing :
            followingText (m :: ms) = ',' :: (m.text.toList ++ followingText ms) := rfl
        rw [hfollowing, List.cons_append, List.append_assoc]

/-- **Every text of an object with members is made of texts of members**, with blanks around the
braces or without. -/
lemma exists_madeOf (h : Json.parse text = .ok (.object members)) (hmembers : members ≠ []) :
    ∃ ms, MadeOf text ms ∧ ms.map (·.entry) = members := by
  obtain ⟨rest, ⟨-, hrun⟩, hrest⟩ := parse_eq_object_iff.mp h
  have hafter : AllBlank rest := List.dropWhile_eq_nil_iff.mp hrest
  obtain ⟨t, hbrace, ⟨-, hnil⟩ | ⟨name, value, unread, others, hmember, hothers, rfl⟩⟩ :=
    membersOf_eq_ok_iff.mp hrun
  · exact absurd hnil hmembers
  · obtain ⟨gap', ms, hgap', rfl, rfl⟩ := exists_followingText unread hothers
    obtain ⟨m, rfl, hm⟩ := exists_memberText hmember hgap'
    obtain ⟨before, htext, hbefore, -⟩ := exists_of_skipBlanks hbrace
    refine ⟨m :: ms, ⟨before, rest, hbefore, hafter, ?_⟩, by rw [List.map_cons, hm]⟩
    rw [htext, List.map_cons, toList_objectText_cons, List.cons_append, List.append_assoc]
    rfl

/-! ### Documents -/

/-- **Only the last value under each name counts.** -/
lemma read_congr (h : Json.parse text = .ok (.object members))
    (h' : Json.parse text' = .ok (.object members'))
    (hlast : FieldMap.ofList members = FieldMap.ofList members') : read text = read text' := by
  rw [read, read, h, h']
  simp only [ofJson, hlast]

/-- **To reorder members with different names changes nothing.** -/
lemma MadeOf.read_eq_of_perm {ms ms' : List MemberText} (h : MadeOf text ms)
    (h' : MadeOf text' ms') (hperm : ms.Perm ms') (hnames : (ms.map (·.name)).Nodup) :
    read text = read text' := by
  refine read_congr h.parse_eq h'.parse_eq (FieldMap.ofList_eq_of_perm (hperm.map _) ?_)
  rw [List.map_map]
  exact hnames

/-- **To leave out a member that a later one replaces changes nothing.** -/
lemma MadeOf.read_eq_of_append_cons {front back : List MemberText} {m : MemberText}
    (h : MadeOf text (front ++ m :: back)) (h' : MadeOf text' (front ++ back))
    (hname : m.name ∈ back.map (·.name)) : read text = read text' := by
  refine read_congr h.parse_eq h'.parse_eq ?_
  rw [List.map_append, List.map_cons, List.map_append]
  refine FieldMap.ofList_append_cons ?_
  rw [List.map_map]
  exact hname

end Document

end FieldNorm
