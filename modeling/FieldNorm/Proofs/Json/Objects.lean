import FieldNorm.FieldMap
import FieldNorm.Proofs.Json.Reading
import FieldNorm.Proofs.Json.Results

/-!
Texts from which objects are read.

* `Reader.member_eq_ok_iff`, `Reader.moreMembers_eq_ok_iff`, `Reader.membersOf_eq_ok_iff`: what
  stands in a text from which a member, the members behind the first one, or an object is read.
* `Reader.membersOf_refine_eq_ok_iff`: a reader that looks at the value of each member where it
  stands reads the same objects as one that looks at all of them in the end, but for those in
  which a value is refused.
* `Reader.value_run_eq_object_iff`, `Reader.shaped_object_run_eq_ok_iff`: an object among values of
  any kind, and where an object is expected.
-/

namespace FieldNorm.Json.Reader

open FieldMap (tryEntries tryEntries_cons_eq_ok_iff)

variable {α β : Type} {r : Reader α} {value : String → Reader α} {rule : KeyRule}
  {earlier : List String} {f : α → Except Mismatch β} {a : α} {b : β} {key : String}
  {s rest : List Char} {ms : List (String × α)} {ns : List (String × β)}

/-! ### What has been read -/

/-- What is refined has been read before. -/
lemma refine_run_eq_ok_iff :
    (r.refine f).run s = .ok (b, rest) ↔ ∃ a, r.run s = .ok (a, rest) ∧ f a = .ok b := by
  constructor
  · intro h
    simp only [refine] at h
    split at h
    · cases h
    · rename_i a unread ha
      split at h <;> cases h
      exact ⟨a, ha, by assumption⟩
  · rintro ⟨a, ha, hb⟩
    exact refine_run ha hb

/-- **How a member is read**: its key in quotes, to which the rule has no objection, a colon and
its value. -/
lemma member_eq_ok_iff :
    member rule value earlier s = .ok ((key, a), rest) ↔
      ∃ t text u v, s = '"' :: t ∧ Quoted.read [] t = .ok (text, u) ∧ key = String.ofList text ∧
        rule earlier key = none ∧ skipBlanks u = ':' :: v ∧ (value key).run v = .ok (a, rest) := by
  constructor
  · intro h
    unfold member at h
    split at h
    · cases h
    · rename_i c t
      split_ifs at h with hbrace hquote
      subst hquote
      cases hread : Quoted.read [] t with
      | error fault => simp [hread] at h
      | ok result =>
          obtain ⟨text, u⟩ := result
          cases hrule : rule earlier (String.ofList text) with
          | some reason => simp [hread, hrule] at h
          | none =>
              cases hu : skipBlanks u with
              | nil => simp [hread, hrule, hu] at h
              | cons d v =>
                  simp only [hread, hrule, hu] at h
                  split_ifs at h with hcolon
                  subst hcolon
                  split at h <;> cases h
                  rename_i hvalue
                  exact ⟨t, text, u, v, rfl, hread, rfl, hrule, hu, hvalue⟩
  · rintro ⟨t, text, u, v, rfl, hread, rfl, hrule, hu, hvalue⟩
    simp only [member, hread, hrule, hu, hvalue, if_true]
    rfl

/-- **How the members behind the first one are read**: either the object is closed, or a comma
and a member come first. -/
lemma moreMembers_eq_ok_iff :
    moreMembers rule value earlier s = .ok (ms, rest) ↔
      (skipBlanks s = '\x7d' :: rest ∧ ms = []) ∨
        ∃ t key a unread others, skipBlanks s = ',' :: t ∧
          member rule value earlier (skipBlanks t) = .ok ((key, a), unread) ∧
          moreMembers rule value (key :: earlier) unread = .ok (others, rest) ∧
          ms = (key, a) :: others := by
  constructor
  · intro h
    unfold moreMembers at h
    split at h
    · cases h
    · rename_i c t hs
      split_ifs at h with hbrace hcomma
      · cases h
        exact .inl ⟨hbrace ▸ hs, rfl⟩
      · split at h
        · cases h
        · rename_i m unread hm
          split at h <;> cases h
          rename_i others hothers
          exact .inr ⟨t, m.1, m.2, unread, others, hcomma ▸ hs, hm, hothers, rfl⟩
  · rintro (⟨hs, rfl⟩ | ⟨t, key, a, unread, others, hs, hmember, hothers, rfl⟩)
    · exact moreMembers_of_brace hs
    · exact moreMembers_of_comma hs hmember hothers

/-- **How an object is read**: behind its brace it is closed, or its first member stands. -/
lemma membersOf_eq_ok_iff :
    (membersOf rule value).run s = .ok (ms, rest) ↔
      ∃ t, s = '\x7b' :: t ∧ ((skipBlanks t = '\x7d' :: rest ∧ ms = []) ∨
        ∃ key a unread others, member rule value [] (skipBlanks t) = .ok ((key, a), unread) ∧
          moreMembers rule value [key] unread = .ok (others, rest) ∧ ms = (key, a) :: others) := by
  constructor
  · intro h
    simp only [membersOf] at h
    split at h
    · cases h
    · rename_i c t
      split_ifs at h with hopen
      subst hopen
      refine ⟨t, rfl, ?_⟩
      split at h
      · cases h
      · rename_i d after ht
        split_ifs at h with hbrace
        · cases h
          exact .inl ⟨hbrace ▸ ht, rfl⟩
        · split at h
          · cases h
          · rename_i m unread hm
            split at h <;> cases h
            rename_i others hothers
            exact .inr ⟨m.1, m.2, unread, others, ht ▸ hm, hothers, rfl⟩
  · rintro ⟨t, rfl, ⟨ht, rfl⟩ | ⟨key, a, unread, others, hmember, hothers, rfl⟩⟩
    · simp [membersOf, ht]
    · obtain ⟨u, -, -, -, hu, -⟩ := member_eq_ok_iff.mp hmember
      rw [hu] at hmember
      simp [membersOf, hu, hmember, hothers]

/-! ### Members that are looked at where they stand -/

lemma member_refine_eq_ok_iff :
    member rule (fun key => (value key).refine f) earlier s = .ok ((key, b), rest) ↔
      ∃ a, member rule value earlier s = .ok ((key, a), rest) ∧ f a = .ok b := by
  simp only [member_eq_ok_iff, refine_run_eq_ok_iff]
  constructor
  · rintro ⟨t, text, u, v, hs, hread, hkey, hrule, hu, a, ha, hb⟩
    exact ⟨a, ⟨t, text, u, v, hs, hread, hkey, hrule, hu, ha⟩, hb⟩
  · rintro ⟨a, ⟨t, text, u, v, hs, hread, hkey, hrule, hu, ha⟩, hb⟩
    exact ⟨t, text, u, v, hs, hread, hkey, hrule, hu, a, ha, hb⟩

/-- What is left behind a comma and a member is shorter than the text. -/
lemma length_lt_of_comma {t unread : List Char} {m : String × α} (hs : skipBlanks s = ',' :: t)
    (hmember : member rule value earlier (skipBlanks t) = .ok (m, unread)) :
    unread.length < s.length := by
  have hmember := length_lt_of_member hmember
  have hblanks := length_skipBlanks_le t
  have ht := length_lt_of_skipBlanks hs
  omega

/-- Each member behind the first one is looked at where it stands, or all of them when they have
been read. -/
lemma moreMembers_refine_eq_ok_iff (s : List Char) :
    ∀ {earlier : List String} {ns : List (String × β)} {rest : List Char},
      moreMembers rule (fun key => (value key).refine f) earlier s = .ok (ns, rest) ↔
        ∃ ms, moreMembers rule value earlier s = .ok (ms, rest) ∧
          tryEntries f ms = .ok ns := by
  -- on the length of the text, as the members are read
  induction hn : s.length using Nat.strongRecOn generalizing s with
  | ind n ih =>
      subst hn
      intro earlier ns rest
      constructor
      · intro h
        rcases moreMembers_eq_ok_iff.mp h with ⟨hs, rfl⟩ |
          ⟨t, key, b, unread, others, hs, hmember, hothers, rfl⟩
        · exact ⟨[], moreMembers_of_brace hs, rfl⟩
        · obtain ⟨a, hmember, hb⟩ := member_refine_eq_ok_iff.mp hmember
          have hlength := length_lt_of_comma hs hmember
          obtain ⟨ms, hms, htry⟩ := (ih _ hlength unread rfl).mp hothers
          exact ⟨(key, a) :: ms, moreMembers_of_comma hs hmember hms,
            tryEntries_cons_eq_ok_iff.mpr ⟨b, others, hb, htry, rfl⟩⟩
      · rintro ⟨ms, hms, htry⟩
        rcases moreMembers_eq_ok_iff.mp hms with ⟨hs, rfl⟩ |
          ⟨t, key, a, unread, others, hs, hmember, hothers, rfl⟩
        · cases htry
          exact moreMembers_of_brace hs
        · have hlength := length_lt_of_comma hs hmember
          obtain ⟨b, ns, hb, hns, rfl⟩ := tryEntries_cons_eq_ok_iff.mp htry
          exact moreMembers_of_comma hs (member_refine_eq_ok_iff.mpr ⟨a, hmember, hb⟩)
            ((ih _ hlength unread rfl).mpr ⟨others, hothers, hns⟩)

/-- **To look at each member where it stands, or at all of them when the object has been read**,
gives the same members if none is refused. -/
lemma membersOf_refine_eq_ok_iff :
    (membersOf rule fun key => (value key).refine f).run s = .ok (ns, rest) ↔
      ∃ ms, (membersOf rule value).run s = .ok (ms, rest) ∧ tryEntries f ms = .ok ns := by
  constructor
  · intro h
    obtain ⟨t, rfl, ⟨ht, rfl⟩ | ⟨key, b, unread, others, hmember, hothers, rfl⟩⟩ :=
      membersOf_eq_ok_iff.mp h
    · exact ⟨[], membersOf_eq_ok_iff.mpr ⟨t, rfl, .inl ⟨ht, rfl⟩⟩, rfl⟩
    · obtain ⟨a, hmember, hb⟩ := member_refine_eq_ok_iff.mp hmember
      obtain ⟨ms, hms, htry⟩ := (moreMembers_refine_eq_ok_iff unread).mp hothers
      exact ⟨(key, a) :: ms,
        membersOf_eq_ok_iff.mpr ⟨t, rfl, .inr ⟨key, a, unread, ms, hmember, hms, rfl⟩⟩,
        tryEntries_cons_eq_ok_iff.mpr ⟨b, others, hb, htry, rfl⟩⟩
  · rintro ⟨ms, hms, htry⟩
    obtain ⟨t, rfl, ⟨ht, rfl⟩ | ⟨key, a, unread, others, hmember, hothers, rfl⟩⟩ :=
      membersOf_eq_ok_iff.mp hms
    · cases htry
      exact membersOf_eq_ok_iff.mpr ⟨t, rfl, .inl ⟨ht, rfl⟩⟩
    · obtain ⟨b, ns, hb, hns, rfl⟩ := tryEntries_cons_eq_ok_iff.mp htry
      exact membersOf_eq_ok_iff.mpr ⟨t, rfl, .inr ⟨key, b, unread, ns,
        member_refine_eq_ok_iff.mpr ⟨a, hmember, hb⟩,
        (moreMembers_refine_eq_ok_iff unread).mpr ⟨others, hothers, hns⟩, rfl⟩⟩

/-! ### Objects among other values -/

/-- A scalar is no object. -/
lemma ne_object_of_scalar {j : Json} (h : scalar.run s = .ok (j, rest))
    (members : List (String × Json)) :
    j ≠ .object members := by
  rintro rfl
  rcases scalar_run_cases h with h | ⟨b, h⟩ | ⟨-, -, n, -, h⟩ | ⟨text, h⟩ <;> cases h

/-- An object is read where any value may stand, if one more bracket may be open. -/
lemma value_run_eq_object_iff {depth : Nat} {members : List (String × Json)} :
    (Reader.value (depth + 1)).run s = .ok (.object members, rest) ↔
      lead (skipBlanks s) = .brace ∧
        (membersOf anyKey fun _ => Reader.value depth).run (skipBlanks s) =
          .ok (members, rest) := by
  simp only [Reader.value, valueWith]
  split
  · rename_i hlead hinner
    simp [map, refine_run_eq_ok_iff, hlead]
  · rename_i hlead hinner
    obtain rfl := Option.some.inj hinner
    simp [map, refine_run_eq_ok_iff, hlead]
  · simp_all
  · simp_all
  · rename_i hother
    constructor
    · intro h
      exact absurd rfl (ne_object_of_scalar h members)
    · rintro ⟨hlead, -⟩
      simp_all

/-- Where an object is expected, an object is read. -/
lemma shaped_object_run_eq_ok_iff {expected : String} :
    (shaped expected none (some r)).run s = .ok (a, rest) ↔
      lead (skipBlanks s) = .brace ∧ r.run (skipBlanks s) = .ok (a, rest) := by
  simp only [shaped]
  split <;> simp_all

/-- A whole text is read if only blanks are left behind the value. -/
lemma readAll_eq_ok_iff {text : String} :
    r.readAll text = .ok a ↔ ∃ rest, r.run text.toList = .ok (a, rest) ∧ skipBlanks rest = [] := by
  rw [readAll]
  cases hrun : r.run text.toList with
  | error fault => simp
  | ok result =>
      obtain ⟨b, rest⟩ := result
      cases hrest : skipBlanks rest with
      | nil => simp [hrest]
      | cons c t => simp [hrest]
end FieldNorm.Json.Reader
