import FieldNorm.Proofs.Json.Objects
import FieldNorm.Proofs.Json.RoundTrip

/-!
What a reader takes does not depend on what stands behind it.

A reader that gives a value and the rest of the text would give the same value if something else
stood in the place of that rest, as long as a number that ends there still ends there
(`Continues`). `Local` says this of a way to read; there is one lemma for each reader, and
`Reader.local_value` for values of any kind.
-/

namespace FieldNorm.Json

open Numeral (Ends isDigit)

variable {α β : Type} {s t rest rest' : List Char} {a : α}

/-! ### Exchanging the rest -/

/-- `rest'` may stand in the place of `rest` behind a value: either no number goes on with it, or
it starts as `rest` does. -/
def Continues (rest rest' : List Char) : Prop := Ends rest' ∨ rest'.head? = rest.head?

lemma Continues.append (h : Continues rest rest') (front : List Char) :
    Continues (front ++ rest) (front ++ rest') := by
  cases front with
  | nil => exact h
  | cons c front => exact .inr rfl

/-- What does not start `rest` and goes on with no number that ends does not start `rest'`. -/
lemma Continues.head?_any {p : Char → Bool} (h : Continues rest rest')
    (hends : Ends rest' → rest'.head?.any p = false) (hrest : rest.head?.any p = false) :
    rest'.head?.any p = false := by
  rcases h with h | h
  · exact hends h
  · rw [h, hrest]

/-- **The reading takes what stands in front of the rest, whatever stands behind it.** -/
def Local (read : List Char → Except Fault (α × List Char)) : Prop :=
  ∀ s a rest, read s = .ok (a, rest) → ∃ front, s = front ++ rest ∧
    ∀ rest', Continues rest rest' → read (front ++ rest') = .ok (a, rest')

/-! ### Numbers -/

namespace Numeral

/-- Behind a point or an exponent sign no number that ends goes on. -/
lemma Ends.head?_any (h : Ends rest) {p : Char → Bool}
    (hp : ∀ c, p c → isDigit c ∨ c = '.' ∨ c = 'e' ∨ c = 'E') : rest.head?.any p = false := by
  rw [Option.any_eq_false]
  intro c hc
  obtain ⟨hdigit, hpoint, he, hE⟩ := h c hc
  have := hp c
  grind

/-- The digits in front of something else are those that are taken. -/
lemma takeWhile_isDigit {ds : List Char} (hds : ∀ d ∈ ds, isDigit d)
    (hrest : rest.head?.any isDigit = false) :
    (ds ++ rest).takeWhile isDigit = ds ∧ (ds ++ rest).dropWhile isDigit = rest := by
  rw [List.takeWhile_append_of_pos hds, List.dropWhile_append_of_pos hds]
  cases rest with
  | nil => simp
  | cons c rest =>
      have hc : isDigit c = false := by simpa using hrest
      simp [hc]

/-- What is left behind all digits starts with no digit. -/
lemma head?_dropWhile_isDigit (s : List Char) :
    (s.dropWhile isDigit).head?.any isDigit = false := by
  rw [Option.any_eq_false]
  intro c hc
  have := List.head?_dropWhile_not isDigit s
  rw [Option.mem_def.mp hc] at this
  simpa using this

/-- All digits at the start of a text are taken, whatever stands behind them. -/
lemma takeWhile_of_continues (h : Continues (s.dropWhile isDigit) rest') :
    (s.takeWhile isDigit ++ rest').takeWhile isDigit = s.takeWhile isDigit ∧
      (s.takeWhile isDigit ++ rest').dropWhile isDigit = rest' :=
  takeWhile_isDigit (fun _ hd => List.mem_takeWhile_imp hd)
    (h.head?_any (fun hends => hends.head?_any fun _ => .inl) (head?_dropWhile_isDigit s))

lemma local_scanWhole (atEnd : Cause) : Local (scanWhole atEnd) := by
  intro s ds rest h
  cases s with
  | nil => cases h
  | cons c t =>
      rw [scanWhole] at h
      split_ifs at h with hzero hnext hdigit <;> cases h
      · refine ⟨[c], rfl, fun rest' hrest => ?_⟩
        have hnext := hrest.head?_any (fun hends => hends.head?_any fun _ => .inl)
          (by simpa using hnext)
        simp [scanWhole, hzero, hnext]
      · refine ⟨c :: t.takeWhile isDigit, by simp, fun rest' hrest => ?_⟩
        obtain ⟨htake, hdrop⟩ := takeWhile_of_continues hrest
        rw [List.cons_append, scanWhole, if_neg hzero, if_pos hdigit, htake, hdrop]

/-- The first digit stays the first character. -/
lemma head?_takeWhile_append (h : t.head?.any isDigit) (rest' : List Char) :
    (t.takeWhile isDigit ++ rest').head?.any isDigit := by
  cases t with
  | nil => simp at h
  | cons d t => simp_all

/-- Without a point there is no fraction. -/
lemma scanFraction_of_head? (atEnd : Cause) (h : rest.head?.any (· == '.') = false) :
    scanFraction atEnd rest = .ok ([], rest) := by
  rw [scanFraction]
  rintro t rfl
  simp at h

lemma local_scanFraction (atEnd : Cause) : Local (scanFraction atEnd) := by
  intro s ds rest h
  by_cases hpoint : s.head?.any (· == '.') = false
  · rw [scanFraction_of_head? atEnd hpoint] at h
    cases h
    refine ⟨[], rfl, fun rest' hrest => scanFraction_of_head? atEnd ?_⟩
    exact hrest.head?_any (fun hends => hends.head?_any (by simp_all)) hpoint
  · obtain ⟨t, rfl⟩ : ∃ t, s = '.' :: t := by
      cases s with
      | nil => simp at hpoint
      | cons c t => exact ⟨t, by simpa using hpoint⟩
    rw [scanFraction] at h
    split_ifs at h with hdigit
    cases h
    refine ⟨'.' :: t.takeWhile isDigit, by simp, fun rest' hrest => ?_⟩
    obtain ⟨htake, hdrop⟩ := takeWhile_of_continues hrest
    rw [List.cons_append, scanFraction, if_pos (head?_takeWhile_append hdigit rest'), htake, hdrop]

/-- A sign in front of digits is told apart from them, whatever the digits are. -/
lemma exists_scanSign (s : List Char) :
    ∃ sign, s = sign ++ (scanSign s).2 ∧
      ∀ ds, ds.head?.any isDigit → scanSign (sign ++ ds) = ((scanSign s).1, ds) := by
  rw [scanSign.eq_def]
  split
  · exact ⟨['+'], rfl, fun ds _ => rfl⟩
  · exact ⟨['-'], rfl, fun ds _ => rfl⟩
  · refine ⟨[], rfl, fun ds hds => ?_⟩
    rw [List.nil_append, scanSign.eq_def]
    split
    · exact absurd hds (by rw [List.head?_cons, Option.any_some]; decide)
    · exact absurd hds (by rw [List.head?_cons, Option.any_some]; decide)
    · rfl

/-- Without its letter there is no exponent. -/
lemma scanExponent_of_head? (atEnd : Cause)
    (h : rest.head?.any (fun c => c == 'e' || c == 'E') = false) :
    scanExponent atEnd rest = .ok (none, rest) := by
  cases rest with
  | nil => rfl
  | cons c t =>
      have hc : ¬ (c = 'e' ∨ c = 'E') := by simpa using h
      rw [scanExponent, if_neg hc]

lemma local_scanExponent (atEnd : Cause) : Local (scanExponent atEnd) := by
  intro s e rest h
  by_cases hletter : s.head?.any (fun c => c == 'e' || c == 'E') = false
  · rw [scanExponent_of_head? atEnd hletter] at h
    cases h
    refine ⟨[], rfl, fun rest' hrest => scanExponent_of_head? atEnd ?_⟩
    exact hrest.head?_any (fun hends => hends.head?_any (by simp_all)) hletter
  · obtain ⟨c, t, rfl, hc⟩ : ∃ c t, s = c :: t ∧ (c = 'e' ∨ c = 'E') := by
      cases s with
      | nil => simp at hletter
      | cons c t => exact ⟨c, t, rfl, by simpa [or_iff_not_imp_left] using hletter⟩
    rw [scanExponent, if_pos hc] at h
    dsimp only at h
    split_ifs at h with hdigit
    cases h
    obtain ⟨sign, hsign, hscan⟩ := exists_scanSign t
    refine ⟨c :: (sign ++ (scanSign t).2.takeWhile isDigit), ?_, fun rest' hrest => ?_⟩
    · rw [List.cons_append, List.append_assoc, List.takeWhile_append_dropWhile, ← hsign]
    · obtain ⟨htake, hdrop⟩ := takeWhile_of_continues hrest
      have hfirst := head?_takeWhile_append hdigit rest'
      rw [List.cons_append, List.append_assoc, scanExponent, if_pos hc, hscan _ hfirst]
      dsimp only
      rw [if_pos hfirst, htake, hdrop]

/-- A literal is cut into its whole part, its fraction and its exponent. -/
lemma scan_eq_ok_iff {atEnd : Cause} {isNegative : Bool} {n : Numeral} :
    scan atEnd isNegative s = .ok (n, rest) ↔
      ∃ whole t fraction u exponent, scanWhole atEnd s = .ok (whole, t) ∧
        scanFraction atEnd t = .ok (fraction, u) ∧ scanExponent atEnd u = .ok (exponent, rest) ∧
        n = ⟨isNegative, whole, fraction, exponent⟩ := by
  rw [scan]
  cases scanWhole atEnd s with
  | error fault => simp
  | ok first =>
      obtain ⟨whole, t⟩ := first
      cases hfraction : scanFraction atEnd t with
      | error fault => simp [hfraction]
      | ok second =>
          obtain ⟨fraction, u⟩ := second
          cases hexponent : scanExponent atEnd u with
          | error fault => simp [hfraction, hexponent]
          | ok third => simp [hfraction, hexponent, Prod.ext_iff, eq_comm, and_comm]

lemma local_scan (atEnd : Cause) (isNegative : Bool) : Local (scan atEnd isNegative) := by
  intro s n rest h
  obtain ⟨whole, t, fraction, u, exponent, hwhole, hfraction, hexponent, rfl⟩ :=
    scan_eq_ok_iff.mp h
  obtain ⟨first, rfl, hfirst⟩ := local_scanWhole atEnd _ _ _ hwhole
  obtain ⟨second, rfl, hsecond⟩ := local_scanFraction atEnd _ _ _ hfraction
  obtain ⟨third, rfl, hthird⟩ := local_scanExponent atEnd _ _ _ hexponent
  refine ⟨first ++ (second ++ third), by simp, fun rest' hrest => ?_⟩
  rw [List.append_assoc, List.append_assoc]
  exact scan_eq_ok_iff.mpr ⟨whole, _, fraction, _, exponent,
    hfirst _ ((hrest.append third).append second), hsecond _ (hrest.append third),
    hthird _ hrest, rfl⟩

lemma local_read (isNegative : Bool) : Local (read isNegative) := by
  intro s x rest h
  rw [read] at h
  split at h
  · cases h
  · rename_i n t hscan
    split at h <;> cases h
    rename_i hvalue
    obtain ⟨front, rfl, hfront⟩ := local_scan _ _ _ _ _ hscan
    refine ⟨front, rfl, fun rest' hrest => ?_⟩
    simp only [read, hfront rest' hrest, hvalue]

end Numeral

/-! ### Strings -/

namespace Quoted

lemma local_readHex : Local readHex := by
  intro s n rest h
  rw [readHex.eq_def] at h
  split at h
  · rename_i a b c d t
    split at h <;> cases h
    rename_i ha hb hc hd
    refine ⟨[a, b, c, d], rfl, fun rest' _ => ?_⟩
    simp only [List.cons_append, List.nil_append, readHex, ha, hb, hc, hd]
  · split_ifs at h

lemma expectInPair_eq_ok_iff {c : Char} : expectInPair c s = .ok rest ↔ s = c :: rest := by
  cases s with
  | nil => simp [expectInPair]
  | cons d t =>
      rw [expectInPair]
      split_ifs with hd
      · simp [hd]
      · simp [hd]

lemma local_readUnit : Local readUnit := by
  intro s c rest h
  rw [readUnit] at h
  split at h
  · cases h
  · rename_i high t hhigh
    obtain ⟨front, rfl, hfront⟩ := local_readHex _ _ _ hhigh
    split_ifs at h with hlow hplain
    · cases h
      refine ⟨front, rfl, fun rest' hrest => ?_⟩
      simp only [readUnit, hfront rest' hrest, if_neg hlow, if_pos hplain]
    · split at h
      · cases h
      · rename_i hbackslash
        obtain rfl := expectInPair_eq_ok_iff.mp hbackslash
        split at h
        · cases h
        · rename_i hu
          obtain rfl := expectInPair_eq_ok_iff.mp hu
          split at h
          · cases h
          · rename_i low v hsecond
            split_ifs at h with hrange
            simp only [Except.ok.injEq, Prod.mk.injEq] at h
            obtain ⟨rfl, rfl⟩ := h
            obtain ⟨second, rfl, htail⟩ := local_readHex _ _ _ hsecond
            refine ⟨front ++ '\\' :: 'u' :: second, by simp, fun rest' hrest => ?_⟩
            have hhigh : readHex (front ++ '\\' :: 'u' :: (second ++ rest')) =
                .ok (high, '\\' :: 'u' :: (second ++ rest')) :=
              hfront _ ((hrest.append second).append ['\\', 'u'])
            have hbackslash : expectInPair '\\' ('\\' :: 'u' :: (second ++ rest')) =
                .ok ('u' :: (second ++ rest')) := expectInPair_eq_ok_iff.mpr rfl
            have hu : expectInPair 'u' ('u' :: (second ++ rest')) = .ok (second ++ rest') :=
              expectInPair_eq_ok_iff.mpr rfl
            rw [List.append_assoc, List.cons_append, List.cons_append, readUnit, hhigh]
            dsimp only
            rw [if_neg hlow, if_neg hplain, hbackslash]
            dsimp only
            rw [hu]
            dsimp only
            rw [htail rest' hrest]
            exact if_neg hrange

lemma local_readEscape : Local readEscape := by
  intro s d rest h
  cases s with
  | nil => cases h
  | cons c t =>
      rw [readEscape] at h
      split_ifs at h with hu
      · obtain ⟨front, rfl, hfront⟩ := local_readUnit _ _ _ h
        refine ⟨c :: front, rfl, fun rest' hrest => ?_⟩
        rw [List.cons_append, readEscape, if_pos hu, hfront rest' hrest]
      · split at h <;> cases h
        rename_i hshort
        refine ⟨[c], rfl, fun rest' _ => ?_⟩
        simp only [List.cons_append, List.nil_append, readEscape, if_neg hu, hshort]

/-- **A string is read up to its closing quote.** -/
lemma local_read (done : List Char) : Local (read done) := by
  intro s text rest h
  fun_induction read done s with
  | case1 => cases h
  | case2 done t =>
      cases h
      exact ⟨['"'], rfl, fun rest' _ => read_close done rest'⟩
  | case3 => cases h
  | case4 done t d u hescape _ ih =>
      obtain ⟨front, rfl, hfront⟩ := ih h
      obtain ⟨first, rfl, hfirst⟩ := local_readEscape _ _ _ hescape
      refine ⟨'\\' :: (first ++ front), by simp, fun rest' hrest => ?_⟩
      rw [List.cons_append, List.append_assoc, read_escape (hfirst _ (hrest.append front)),
        hfront rest' hrest]
  | case5 => cases h
  | case6 done c t hquote hbackslash hcontrol ih =>
      obtain ⟨front, rfl, hfront⟩ := ih h
      refine ⟨c :: front, rfl, fun rest' hrest => ?_⟩
      rw [List.cons_append, read_plain hquote hbackslash hcontrol, hfront rest' hrest]

end Quoted

/-! ### Scalars -/

namespace Reader

variable {r item inner : Reader α} {value : String → Reader α} {rule : KeyRule}
  {earlier : List String} {c : Char} {as : List α}

/-- A reader takes at least the first character. -/
lemma exists_of_local (hr : Local r.run) (h : r.run (c :: t) = .ok (a, rest)) :
    ∃ front, t = front ++ rest ∧
      ∀ rest', Continues rest rest' → r.run (c :: (front ++ rest')) = .ok (a, rest') := by
  obtain ⟨front, hfront, hexchange⟩ := hr _ _ _ h
  cases front with
  | nil =>
      have hlength := r.consumes h
      rw [hfront, List.nil_append] at hlength
      exact absurd hlength (Nat.lt_irrefl _)
  | cons d front =>
      obtain ⟨rfl, rfl⟩ := List.cons_eq_cons.mp hfront
      exact ⟨front, rfl, hexchange⟩

/-- The first character tells the kind of a value. -/
lemma lead_of_cons {kind : Lead} (h : lead (c :: t) = kind) (t' : List Char) :
    lead (c :: t') = kind := h

lemma letters_eq_ok_iff {word : List Char} : letters word s = .ok rest ↔ s = word ++ rest := by
  fun_induction letters word s with
  | case1 => simp
  | case2 => simp
  | case3 c word s ih => simpa using ih
  | case4 c word d s hd => simp [hd]

lemma local_scalar : Local scalar.run := by
  intro s j rest h
  simp only [scalar] at h
  split at h
  · rename_i word j c t hlead
    split at h <;> cases h
    rename_i hletters
    obtain rfl := letters_eq_ok_iff.mp hletters
    refine ⟨c :: word, rfl, fun rest' _ => ?_⟩
    have hletters : letters word (word ++ rest') = .ok rest' := letters_eq_ok_iff.mpr rfl
    simp only [List.cons_append, scalar, lead_of_cons hlead, hletters]
  · rename_i isNegative c t hlead
    split at h <;> cases h
    rename_i x hread
    cases isNegative with
    | true =>
        obtain ⟨front, rfl, hfront⟩ := Numeral.local_read _ _ _ _ hread
        refine ⟨c :: front, rfl, fun rest' hrest => ?_⟩
        have hread := hfront rest' hrest
        simp only [List.cons_append, scalar, lead_of_cons hlead, if_true, hread]
    | false =>
        rw [if_neg Bool.false_ne_true] at hread
        obtain ⟨front, hs, hfront⟩ := Numeral.local_read _ _ _ _ hread
        have hlength := Numeral.length_lt_of_read hread
        cases front with
        | nil => simp [hs] at hlength
        | cons d digits =>
            obtain ⟨rfl, rfl⟩ := List.cons_eq_cons.mp hs
            refine ⟨c :: digits, rfl, fun rest' hrest => ?_⟩
            have hread := hfront rest' hrest
            rw [List.cons_append] at hread
            simp only [List.cons_append, scalar, lead_of_cons hlead, if_neg Bool.false_ne_true,
              hread]
  · rename_i c t hlead
    split at h <;> cases h
    rename_i text hread
    obtain ⟨front, rfl, hfront⟩ := Quoted.local_read _ _ _ _ hread
    refine ⟨c :: front, rfl, fun rest' hrest => ?_⟩
    simp only [List.cons_append, scalar, lead_of_cons hlead, hfront rest' hrest]
  · cases h
  · cases h

/-! ### Blanks -/

/-- What stands behind blanks may be exchanged, if only its first character stays. -/
lemma exists_of_skipBlanks (h : skipBlanks s = c :: t) :
    ∃ gap, s = gap ++ c :: t ∧ AllBlank gap ∧ ∀ t', skipBlanks (gap ++ c :: t') = c :: t' := by
  have hc : ¬ isBlank c := by
    have := List.head?_dropWhile_not isBlank s
    rw [← skipBlanks, h] at this
    simpa using this
  have hgap : AllBlank (s.takeWhile isBlank) := fun _ hd => List.mem_takeWhile_imp hd
  refine ⟨s.takeWhile isBlank, ?_, hgap, fun t' => ?_⟩
  · rw [← h, skipBlanks, List.takeWhile_append_dropWhile]
  · rw [skipBlanks_append hgap, skipBlanks_cons hc]

/-! ### Arrays -/

/-- **How the items behind the first one are read**: either the array is closed, or a comma and an
item come first. -/
lemma moreItems_eq_ok_iff :
    moreItems item s = .ok (as, rest) ↔
      (skipBlanks s = ']' :: rest ∧ as = []) ∨
        ∃ t d after a unread others, skipBlanks s = ',' :: t ∧ skipBlanks t = d :: after ∧
          d ≠ ']' ∧ item.run (d :: after) = .ok (a, unread) ∧
          moreItems item unread = .ok (others, rest) ∧ as = a :: others := by
  constructor
  · intro h
    unfold moreItems at h
    split at h
    · cases h
    · rename_i c t hs
      split_ifs at h with hbracket hcomma
      · cases h
        exact .inl ⟨hbracket ▸ hs, rfl⟩
      · split at h
        · cases h
        · rename_i d after ht
          split_ifs at h with hd
          unfold itemAnd at h
          split at h
          · cases h
          · rename_i a unread ha
            split at h <;> cases h
            rename_i others hothers
            exact .inr ⟨t, d, after, a, unread, others, hcomma ▸ hs, ht, hd, ha, hothers, rfl⟩
  · rintro (⟨hs, rfl⟩ | ⟨t, d, after, a, unread, others, hs, ht, hd, ha, hothers, rfl⟩)
    · exact moreItems_of_bracket hs
    · exact moreItems_of_comma hs ht hd ha hothers

/-- **How an array is read**: behind its bracket it is closed, or its first item stands. -/
lemma listOf_eq_ok_iff :
    (listOf item).run s = .ok (as, rest) ↔
      ∃ t, s = '[' :: t ∧ ((skipBlanks t = ']' :: rest ∧ as = []) ∨
        ∃ d after a unread others, skipBlanks t = d :: after ∧ d ≠ ']' ∧
          item.run (d :: after) = .ok (a, unread) ∧
          moreItems item unread = .ok (others, rest) ∧ as = a :: others) := by
  constructor
  · intro h
    simp only [listOf] at h
    split at h
    · cases h
    · rename_i c t
      split_ifs at h with hopen
      subst hopen
      refine ⟨t, rfl, ?_⟩
      split at h
      · cases h
      · rename_i d after ht
        split_ifs at h with hd
        · cases h
          exact .inl ⟨hd ▸ ht, rfl⟩
        · unfold itemAnd at h
          split at h
          · cases h
          · rename_i a unread ha
            split at h <;> cases h
            rename_i others hothers
            exact .inr ⟨d, after, a, unread, others, ht, hd, ha, hothers, rfl⟩
  · rintro ⟨t, rfl, ⟨ht, rfl⟩ | ⟨d, after, a, unread, others, ht, hd, ha, hothers, rfl⟩⟩
    · simp [listOf, ht]
    · simp only [listOf, if_true, ht, if_neg hd]
      exact itemAnd_eq ha fun _ => hothers

lemma local_moreItems (hitem : Local item.run) : Local (moreItems item) := by
  intro s
  -- on the length of the text, as the items are read
  induction hn : s.length using Nat.strongRecOn generalizing s with
  | ind n ih =>
      subst hn
      intro as rest h
      rcases moreItems_eq_ok_iff.mp h with ⟨hs, rfl⟩ |
        ⟨t, d, after, a, unread, others, hs, ht, hd, ha, hothers, rfl⟩
      · obtain ⟨gap, rfl, -, hgap⟩ := exists_of_skipBlanks hs
        refine ⟨gap ++ [']'], by simp, fun rest' _ => ?_⟩
        rw [List.append_assoc]
        exact moreItems_of_bracket (hgap rest')
      · have hlength : unread.length < s.length := by
          have hunread := item.consumes ha
          have hafter := length_skipBlanks_le t
          have htail := length_lt_of_skipBlanks hs
          rw [ht] at hafter
          omega
        obtain ⟨gap, rfl, -, hgap⟩ := exists_of_skipBlanks hs
        obtain ⟨gap', rfl, -, hgap'⟩ := exists_of_skipBlanks ht
        obtain ⟨first, rfl, hfirst⟩ := exists_of_local hitem ha
        obtain ⟨last, rfl, hlast⟩ := ih _ hlength unread rfl _ _ hothers
        refine ⟨gap ++ ',' :: (gap' ++ d :: (first ++ last)), by simp, fun rest' hrest => ?_⟩
        simp only [List.append_assoc, List.cons_append]
        exact moreItems_of_comma (hgap _) (hgap' _) hd (hfirst _ (hrest.append last))
          (hlast rest' hrest)

lemma local_listOf (hitem : Local item.run) : Local (listOf item).run := by
  intro s as rest h
  obtain ⟨t, rfl, ⟨ht, rfl⟩ | ⟨d, after, a, unread, others, ht, hd, ha, hothers, rfl⟩⟩ :=
    listOf_eq_ok_iff.mp h
  · obtain ⟨gap, rfl, -, hgap⟩ := exists_of_skipBlanks ht
    refine ⟨'[' :: (gap ++ [']']), by simp, fun rest' _ => ?_⟩
    exact listOf_eq_ok_iff.mpr ⟨gap ++ ']' :: rest', by simp, .inl ⟨hgap rest', rfl⟩⟩
  · obtain ⟨gap, rfl, -, hgap⟩ := exists_of_skipBlanks ht
    obtain ⟨first, rfl, hfirst⟩ := exists_of_local hitem ha
    obtain ⟨last, rfl, hlast⟩ := local_moreItems hitem _ _ _ hothers
    refine ⟨'[' :: (gap ++ d :: (first ++ last)), by simp, fun rest' hrest => ?_⟩
    exact listOf_eq_ok_iff.mpr ⟨gap ++ d :: (first ++ (last ++ rest')), by simp,
      .inr ⟨d, _, a, _, others, hgap _, hd, hfirst _ (hrest.append last), hlast rest' hrest, rfl⟩⟩

/-! ### Objects -/

/-- A member starts with the quote of its key, behind which the rest may be exchanged. -/
lemma exists_of_member (hvalue : ∀ key, Local (value key).run) {m : String × α}
    (h : member rule value earlier s = .ok (m, rest)) :
    ∃ front, s = '"' :: (front ++ rest) ∧ ∀ rest', Continues rest rest' →
      member rule value earlier ('"' :: (front ++ rest')) = .ok (m, rest') := by
  obtain ⟨key, a⟩ := m
  obtain ⟨t, text, u, v, rfl, hread, hkey, hrule, hu, ha⟩ := member_eq_ok_iff.mp h
  obtain ⟨first, rfl, hfirst⟩ := Quoted.local_read _ _ _ _ hread
  obtain ⟨gap, rfl, -, hgap⟩ := exists_of_skipBlanks hu
  obtain ⟨last, rfl, hlast⟩ := hvalue key _ _ _ ha
  refine ⟨first ++ (gap ++ ':' :: last), by simp, fun rest' hrest => ?_⟩
  exact member_eq_ok_iff.mpr ⟨first ++ (gap ++ ':' :: (last ++ rest')), text, _, _, by simp,
    hfirst _ (((hrest.append last).append [':']).append gap), hkey, hrule, hgap _,
    hlast rest' hrest⟩

lemma local_moreMembers (hvalue : ∀ key, Local (value key).run) (earlier : List String) :
    Local (moreMembers rule value earlier) := by
  intro s
  -- on the length of the text, as the members are read
  induction hn : s.length using Nat.strongRecOn generalizing s earlier with
  | ind n ih =>
      subst hn
      intro ms rest h
      rcases moreMembers_eq_ok_iff.mp h with ⟨hs, rfl⟩ |
        ⟨t, key, a, unread, others, hs, hmember, hothers, rfl⟩
      · obtain ⟨gap, rfl, -, hgap⟩ := exists_of_skipBlanks hs
        refine ⟨gap ++ ['\x7d'], by simp, fun rest' _ => ?_⟩
        rw [List.append_assoc]
        exact moreMembers_of_brace (hgap rest')
      · have hlength := length_lt_of_comma hs hmember
        obtain ⟨gap, rfl, -, hgap⟩ := exists_of_skipBlanks hs
        obtain ⟨first, ht, hfirst⟩ := exists_of_member hvalue hmember
        obtain ⟨gap', rfl, -, hgap'⟩ := exists_of_skipBlanks ht
        obtain ⟨last, rfl, hlast⟩ := ih _ hlength (key :: earlier) unread rfl _ _ hothers
        refine ⟨gap ++ ',' :: (gap' ++ '"' :: (first ++ last)), by simp, fun rest' hrest => ?_⟩
        simp only [List.append_assoc, List.cons_append]
        refine moreMembers_of_comma (hgap _) ?_ (hlast rest' hrest)
        rw [hgap']
        exact hfirst _ (hrest.append last)

lemma local_membersOf (hvalue : ∀ key, Local (value key).run) :
    Local (membersOf rule value).run := by
  intro s ms rest h
  obtain ⟨t, rfl, ⟨ht, rfl⟩ | ⟨key, a, unread, others, hmember, hothers, rfl⟩⟩ :=
    membersOf_eq_ok_iff.mp h
  · obtain ⟨gap, rfl, -, hgap⟩ := exists_of_skipBlanks ht
    refine ⟨'\x7b' :: (gap ++ ['\x7d']), by simp, fun rest' _ => ?_⟩
    exact membersOf_eq_ok_iff.mpr ⟨gap ++ '\x7d' :: rest', by simp, .inl ⟨hgap rest', rfl⟩⟩
  · obtain ⟨first, ht, hfirst⟩ := exists_of_member hvalue hmember
    obtain ⟨gap, rfl, -, hgap⟩ := exists_of_skipBlanks ht
    obtain ⟨last, rfl, hlast⟩ := local_moreMembers hvalue _ _ _ _ hothers
    refine ⟨'\x7b' :: (gap ++ '"' :: (first ++ last)), by simp, fun rest' hrest => ?_⟩
    refine membersOf_eq_ok_iff.mpr ⟨gap ++ '"' :: (first ++ (last ++ rest')), by simp,
      .inr ⟨key, a, _, others, ?_, hlast rest' hrest, rfl⟩⟩
    rw [hgap]
    exact hfirst _ (hrest.append last)

/-! ### Any value -/

lemma local_map {f : α → β} (hr : Local r.run) : Local (r.map f).run := by
  intro s b rest h
  obtain ⟨a, ha, hb⟩ := refine_run_eq_ok_iff.mp h
  obtain ⟨front, rfl, hfront⟩ := hr _ _ _ ha
  exact ⟨front, rfl, fun rest' hrest => refine_run (hfront rest' hrest) hb⟩

lemma local_valueWith {inner : Option (Reader Json)} (hinner : ∀ r ∈ inner, Local r.run) :
    Local (valueWith inner).run := by
  intro s j rest h
  rw [valueWith_skipBlanks] at h
  cases hs : skipBlanks s with
  | nil =>
      rw [hs] at h
      exact absurd ((valueWith inner).consumes h) (Nat.not_lt_zero _)
  | cons c t =>
      obtain ⟨gap, rfl, -, hgap⟩ := exists_of_skipBlanks hs
      have hskip (t' : List Char) : skipBlanks (c :: t') = c :: t' := by
        rw [← hgap t', skipBlanks_skipBlanks]
      suffices ∃ front, t = front ++ rest ∧ ∀ rest', Continues rest rest' →
          (valueWith inner).run (c :: (front ++ rest')) = .ok (j, rest') by
        obtain ⟨front, rfl, hfront⟩ := this
        refine ⟨gap ++ c :: front, by simp, fun rest' hrest => ?_⟩
        rw [List.append_assoc, List.cons_append, valueWith_skipBlanks, hgap, hfront rest' hrest]
      rw [hs] at h
      simp only [valueWith, hskip] at h ⊢
      split at h
      · rename_i item hlead
        simp only [lead_of_cons hlead]
        exact exists_of_local (local_map (local_listOf (hinner item rfl))) h
      · rename_i value hlead
        simp only [lead_of_cons hlead]
        exact exists_of_local (local_map (local_membersOf fun _ => hinner value rfl)) h
      · cases h
      · cases h
      · rename_i hbracket hbrace hdeep hdeep'
        obtain ⟨front, hfront, hexchange⟩ := exists_of_local local_scalar h
        refine ⟨front, hfront, fun rest' hrest => ?_⟩
        rw [← hexchange rest' hrest]
        split
        · rename_i item hlead
          exact (hbracket item (lead_of_cons hlead t) rfl).elim
        · rename_i value hlead
          exact (hbrace value (lead_of_cons hlead t) rfl).elim
        · rename_i hlead
          exact (hdeep (lead_of_cons hlead t) rfl).elim
        · rename_i hlead
          exact (hdeep' (lead_of_cons hlead t) rfl).elim
        · rfl

/-- **A value is read from the characters of its text alone.** -/
lemma local_value (depth : Nat) : Local (Reader.value depth).run := by
  induction depth with
  | zero => exact local_valueWith (by simp)
  | succ depth ih =>
      refine local_valueWith fun r hr => ?_
      rw [Option.mem_some_iff] at hr
      exact hr ▸ ih

end Reader

end FieldNorm.Json
