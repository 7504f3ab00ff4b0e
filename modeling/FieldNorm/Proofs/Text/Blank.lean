import FieldNorm.Text.Blank
import Mathlib.Data.List.TakeWhile

/-!
Texts without the blanks at their ends.

* `Core`: what is left of a text without the blanks at either end, said without the functions that
  remove them.
* `core_trim`, `Core.trim_eq`: every text has exactly one core, and `trim` finds it.
* `trim_append_append`: blanks around a text make no difference to `trim`.
-/

namespace FieldNorm.Text

variable {s t front back : List Char}

/-- All characters of a text are blanks. -/
def AllBlank (s : List Char) : Prop := ∀ c ∈ s, isBlank c

instance : Decidable (AllBlank s) := List.decidableBAll (fun c => isBlank c) s

/-- The text `t` is what is left of `s` without the blanks at either end: blanks stand around it,
and it neither starts nor ends with one. -/
structure Core (s t : List Char) : Prop where
  exists_eq : ∃ front back, AllBlank front ∧ AllBlank back ∧ s = front ++ t ++ back
  not_isBlank_head : ∀ c ∈ t.head?, ¬ isBlank c
  not_isBlank_getLast : ∀ c ∈ t.getLast?, ¬ isBlank c

lemma AllBlank.append (hs : AllBlank s) (ht : AllBlank t) : AllBlank (s ++ t) :=
  List.forall_mem_append.mpr ⟨hs, ht⟩

lemma allBlank_reverse_iff : AllBlank s.reverse ↔ AllBlank s := by
  simp only [AllBlank, List.mem_reverse]

/-- A text without any blank is its own core. -/
lemma core_self (h : ∀ c ∈ s, ¬ isBlank c) : Core s s where
  exists_eq := ⟨[], [], nofun, nofun, by simp⟩
  not_isBlank_head c hc := h c (List.mem_of_mem_head? hc)
  not_isBlank_getLast c hc := h c (List.mem_of_getLast? hc)

/-- A core is its own core. -/
lemma Core.self (h : Core s t) : Core t t where
  exists_eq := ⟨[], [], nofun, nofun, by simp⟩
  not_isBlank_head := h.not_isBlank_head
  not_isBlank_getLast := h.not_isBlank_getLast

/-- Blanks around a text do not change its core. -/
lemma Core.append_append (h : Core s t) (hfront : AllBlank front) (hback : AllBlank back) :
    Core (front ++ s ++ back) t where
  exists_eq := by
    obtain ⟨before, behind, hbefore, hbehind, rfl⟩ := h.exists_eq
    exact ⟨front ++ before, behind ++ back, hfront.append hbefore, hbehind.append hback,
      by simp only [List.append_assoc]⟩
  not_isBlank_head := h.not_isBlank_head
  not_isBlank_getLast := h.not_isBlank_getLast

/-! ### The start of a text -/

lemma trimStart_of_allBlank (h : AllBlank s) : trimStart s = [] :=
  List.dropWhile_eq_nil_iff.mpr h

/-- Blanks in front of a text that starts with none are removed, and nothing else. -/
lemma trimStart_append (hfront : AllBlank front) (hs : ∀ c ∈ s.head?, ¬ isBlank c) :
    trimStart (front ++ s) = s := by
  rw [trimStart, List.dropWhile_append_of_pos hfront]
  cases s with
  | nil => rfl
  | cons c s => exact List.dropWhile_cons_of_neg (hs c rfl)

/-- Only blanks are removed, and none is left at the start. -/
lemma exists_append_trimStart (s : List Char) :
    ∃ front, AllBlank front ∧ s = front ++ trimStart s ∧
      ∀ c ∈ (trimStart s).head?, ¬ isBlank c := by
  refine ⟨s.takeWhile isBlank, fun c hc => List.mem_takeWhile_imp hc,
    List.takeWhile_append_dropWhile.symm, fun c hc => ?_⟩
  have hhead := List.head?_dropWhile_not isBlank s
  rw [trimStart] at hc
  rw [Option.mem_def.mp hc] at hhead
  simpa using hhead

/-! ### Both ends -/

/-- **The core of a text is what `trim` leaves of it.** -/
lemma Core.trim_eq (h : Core s t) : trim s = t := by
  obtain ⟨front, back, hfront, hback, rfl⟩ := h.exists_eq
  by_cases ht : t = []
  · have hall : AllBlank (front ++ t ++ back) := by
      rw [ht, List.append_nil]
      exact hfront.append hback
    rw [trim, trimStart_of_allBlank hall, ht]
    rfl
  · have hstart : trimStart (front ++ (t ++ back)) = t ++ back := by
      refine trimStart_append hfront ?_
      obtain ⟨c, u, rfl⟩ := List.exists_cons_of_ne_nil ht
      exact h.not_isBlank_head
    have hend : trimStart (back.reverse ++ t.reverse) = t.reverse := by
      refine trimStart_append (allBlank_reverse_iff.mpr hback) ?_
      rw [List.head?_reverse]
      exact h.not_isBlank_getLast
    rw [trim, List.append_assoc, hstart, List.reverse_append, hend, List.reverse_reverse]

/-- **What `trim` leaves of a text is its core.** -/
lemma core_trim (s : List Char) : Core s (trim s) := by
  obtain ⟨front, hfront, hs, hhead⟩ := exists_append_trimStart s
  obtain ⟨back, hback, hreverse, hlast⟩ := exists_append_trimStart (trimStart s).reverse
  have htrim : trimStart s = trim s ++ back.reverse := by
    rw [← List.reverse_reverse (trimStart s), hreverse, List.reverse_append, trim]
  refine ⟨⟨front, back.reverse, hfront, allBlank_reverse_iff.mpr hback, ?_⟩, fun c hc => ?_, ?_⟩
  · rw [List.append_assoc, ← htrim]
    exact hs
  · refine hhead c ?_
    rw [htrim, List.head?_append, Option.mem_def.mp hc]
    rfl
  · rw [trim, List.getLast?_reverse]
    exact hlast

/-- **Blanks around a text make no difference.** -/
lemma trim_append_append (hfront : AllBlank front) (hback : AllBlank back) :
    trim (front ++ s ++ back) = trim s :=
  ((core_trim s).append_append hfront hback).trim_eq

lemma trim_trim (s : List Char) : trim (trim s) = trim s := (core_trim s).self.trim_eq

end FieldNorm.Text
