import FieldNorm.Command.Scene
import FieldNorm.Command.Sink
import Mathlib.Tactic.Common

/-!
What a sink takes of the bytes it is offered.

A sink has taken more bytes each time it is asked again, so what it takes at once may be any
function of what it has taken: every course of partial writes is that of some sink.

* `Sink.room`: how many of some bytes a sink takes in all, whatever it takes at once.
* `Sink.writeAll_eq`: of bytes that are offered the sink takes the start, as far as there is room.
* `Sink.writeAll_append`: so to offer bytes in two parts is to offer them at once.
* `Sink.writeStatements_eq`: statements are written like their lines at once.
* `Sink.written_up_to_limit`: what a sink has taken behind that, and how the writing ends.
-/

namespace FieldNorm.Command

lemma joinLines_cons (line : String) (lines : List String) :
    joinLines (line :: lines) = line ++ "\n" ++ joinLines lines := by
  rw [joinLines, List.map_cons, String.join_cons, joinLines]

namespace Sink

variable {sink : Sink} {bytes : List UInt8} {size taken : Nat}

/-- The sink after it has taken some bytes. -/
def take (sink : Sink) (bytes : List UInt8) : Sink :=
  { sink with taken := sink.taken ++ bytes }

lemma take_nil (sink : Sink) : sink.take [] = sink := by
  rw [take, List.append_nil]

lemma take_take (sink : Sink) (bytes others : List UInt8) :
    (sink.take bytes).take others = sink.take (bytes ++ others) := by
  simp only [take, List.append_assoc]

/-! ### The room in a sink -/

/-- How many of `size` bytes the sink takes, however few at a time. -/
def room (sink : Sink) (size : Nat) : Nat :=
  match sink.limit with
  | none => size
  | some limit => min size (limit - sink.taken.length)

/-- There is room for `size` more bytes. -/
def Fits (sink : Sink) (size : Nat) : Prop :=
  ∀ limit ∈ sink.limit, size ≤ limit - sink.taken.length

lemma room_le (sink : Sink) (size : Nat) : sink.room size ≤ size := by
  rw [room.eq_def]
  split <;> omega

lemma room_eq_iff : sink.room size = size ↔ sink.Fits size := by
  rw [room.eq_def, Fits]
  cases sink.limit with
  | none => simp
  | some limit =>
      simp only [Option.mem_def, Option.some.injEq, forall_eq']
      omega

lemma fits_zero (sink : Sink) : sink.Fits 0 := fun _ _ => Nat.zero_le _

lemma room_of_limit (h : sink.limit = none) (size : Nat) : sink.room size = size := by
  rw [room, h]

lemma accepts_le_room (sink : Sink) (size : Nat) : sink.accepts size ≤ sink.room size := by
  rw [accepts.eq_def, room.eq_def]
  cases sink.limit with
  | none => exact Nat.min_le_left _ _
  | some limit =>
      dsimp only
      omega

/-- Where a sink takes none of the bytes it is offered, there is no room. -/
lemma room_of_accepts (h : sink.accepts size = 0) : sink.room size = 0 := by
  have hchunk := sink.chunk_pos sink.taken.length
  rw [accepts.eq_def] at h
  rw [room.eq_def]
  cases hlimit : sink.limit with
  | none =>
      simp only [hlimit] at h ⊢
      omega
  | some limit =>
      simp only [hlimit] at h ⊢
      omega

/-- The room behind bytes that are taken is what is left of it. -/
lemma room_take (hsize : bytes.length = taken) (h : taken ≤ sink.room size) :
    (sink.take bytes).room (size - taken) = sink.room size - taken := by
  rw [room.eq_def] at h ⊢
  rw [room.eq_def]
  cases hlimit : sink.limit with
  | none => simp only [take, hlimit]
  | some limit =>
      simp only [hlimit] at h
      simp only [take, hlimit, List.length_append]
      omega

/-- There is room for a second part only behind a first one that is taken as a whole. -/
lemma room_add (sink : Sink) (bytes : List UInt8) (size : Nat) :
    sink.room (bytes.length + size) =
      if sink.room bytes.length = bytes.length then bytes.length + (sink.take bytes).room size
      else sink.room bytes.length := by
  simp only [room.eq_def, take]
  cases sink.limit with
  | none => exact (if_pos rfl).symm
  | some limit =>
      simp only [List.length_append]
      split <;> omega

/-! ### Bytes that are offered -/

/-- **A sink takes the start of the bytes it is offered**, as far as there is room, and fails unless
that is all of them. -/
lemma writeAll_eq (sink : Sink) (bytes : List UInt8) :
    sink.writeAll bytes = (sink.take (bytes.take (sink.room bytes.length)),
      if sink.room bytes.length = bytes.length then none else some sink.error) := by
  fun_induction writeAll sink bytes with
  | case1 sink =>
      rw [List.length_nil, room_eq_iff.mpr sink.fits_zero, List.take_nil, take_nil, if_pos rfl]
  | case2 sink bytes hbytes n hn =>
      have hlength : bytes.length ≠ 0 := mt List.length_eq_zero_iff.mp hbytes
      rw [room_of_accepts hn, List.take_zero, take_nil, if_neg hlength.symm]
  | case3 sink bytes hbytes n hn ih =>
      -- The portion and what is taken of the rest are together the start of the bytes.
      have hle : n ≤ sink.room bytes.length := sink.accepts_le_room bytes.length
      have hroom : sink.room bytes.length ≤ bytes.length := sink.room_le _
      have hportion : (bytes.take n).length = n := List.length_take_of_le (sink.accepts_le _)
      have hrest : (sink.take (bytes.take n)).room (bytes.drop n).length =
          sink.room bytes.length - n := by
        rw [List.length_drop, room_take hportion hle]
      have htake : bytes.take n ++ (bytes.drop n).take (sink.room bytes.length - n) =
          bytes.take (sink.room bytes.length) := by
        rw [← List.take_add, Nat.add_sub_cancel' hle]
      have hall : sink.room bytes.length - n = (bytes.drop n).length ↔
          sink.room bytes.length = bytes.length := by
        rw [List.length_drop]
        omega
      have hsink : { sink with taken := sink.taken ++ bytes.take n } = sink.take (bytes.take n) :=
        rfl
      rw [ih, hsink, hrest, take_take, htake, if_congr hall rfl rfl]
      rfl

/-- **To offer bytes in two parts is to offer them at once**, however they are taken. -/
lemma writeAll_append (sink : Sink) (bytes others : List UInt8) :
    sink.writeAll (bytes ++ others) =
      match sink.writeAll bytes with
      | (sink, some e) => (sink, some e)
      | (sink, none) => sink.writeAll others := by
  rw [writeAll_eq sink (bytes ++ others), writeAll_eq sink bytes, List.length_append, room_add]
  by_cases h : sink.room bytes.length = bytes.length
  · have hsum : ∀ k, bytes.length + k = bytes.length + others.length ↔ k = others.length :=
      fun k => Nat.add_left_cancel_iff
    rw [if_pos h, if_pos h, h, List.take_length]
    dsimp only
    rw [writeAll_eq, take_take, List.take_length_add_append, if_congr (hsum _) rfl rfl]
    rfl
  · have hle : sink.room bytes.length ≤ bytes.length := sink.room_le _
    have hne : sink.room bytes.length ≠ bytes.length + others.length := by omega
    rw [if_neg h, if_neg h, if_neg hne, List.take_append_of_le_length hle]

/-! ### Texts and their bytes -/

lemma toList_loop (bytes : ByteArray) (i : Nat) (done : List UInt8) :
    ByteArray.toList.loop bytes i done = done.reverse ++ bytes.data.toList.drop i := by
  fun_induction ByteArray.toList.loop bytes i done with
  | case1 i done hlt ih =>
      have hget : bytes.get! i = bytes.data.toList[i] := getElem!_pos bytes.data i hlt
      rw [ih, hget, List.reverse_cons, List.append_assoc, List.singleton_append,
        ← List.drop_eq_getElem_cons]
  | case2 i done hle =>
      have hlength : bytes.data.toList.length ≤ i := Nat.le_of_not_lt hle
      rw [List.drop_eq_nil_of_le hlength, List.append_nil]

lemma bytesOf_eq (text : String) : bytesOf text = text.toByteArray.data.toList := by
  rw [bytesOf, ByteArray.toList, toList_loop]
  rfl

lemma bytesOf_append (s t : String) : bytesOf (s ++ t) = bytesOf s ++ bytesOf t := by
  simp only [bytesOf_eq, String.toByteArray_append, ByteArray.data_append, Array.toList_append]

lemma bytesOf_empty : bytesOf "" = [] := by
  rw [bytesOf_eq]
  rfl

/-- Different texts have different bytes. -/
lemma bytesOf_injective : Function.Injective bytesOf := by
  intro s t h
  rw [bytesOf_eq, bytesOf_eq] at h
  exact String.toByteArray_inj.mp (ByteArray.ext (Array.toList_inj.mp h))

/-! ### Statements -/

/-- A statement and its line break are written like one text. -/
lemma writeStatement_eq (sink : Sink) (text : String) :
    sink.writeStatement text = sink.writeAll (bytesOf (text ++ "\n")) := by
  rw [writeStatement, bytesOf_append]
  exact (sink.writeAll_append _ _).symm

/-- What follows when all bytes have been offered: the flush, unless they have not been taken. -/
def conclude : Sink × Option SinkError → Sink × Option Failure
  | (sink, some e) => (sink, some ⟨some .writeStatement, .sink e⟩)
  | (sink, none) => sink.writeStatements []

/-- **Statements are written like their lines at once.** -/
lemma writeStatements_eq (sink : Sink) (texts : List String) :
    sink.writeStatements texts = conclude (sink.writeAll (bytesOf (joinLines texts))) := by
  induction texts generalizing sink with
  | nil =>
      have hempty : bytesOf (joinLines []) = [] := bytesOf_empty
      rw [hempty, writeAll, dif_pos rfl]
      rfl
  | cons text texts ih =>
      rw [writeStatements, writeStatement_eq, joinLines_cons, bytesOf_append (text ++ "\n"),
        writeAll_append]
      rcases sink.writeAll (bytesOf (text ++ "\n")) with ⟨after, _ | e⟩
      · exact ih after
      · rfl

/-- What a sink takes of statements, and what the writing comes to. -/
lemma writeStatements_eq_take (sink : Sink) (texts : List String) :
    sink.writeStatements texts =
      (sink.take ((bytesOf (joinLines texts)).take (sink.room (bytesOf (joinLines texts)).length)),
        if sink.room (bytesOf (joinLines texts)).length = (bytesOf (joinLines texts)).length then
          if sink.flushFails then some ⟨some .flushStatements, .sink sink.error⟩ else none
        else some ⟨some .writeStatement, .sink sink.error⟩) := by
  rw [writeStatements_eq, writeAll_eq]
  by_cases hall : sink.room (bytesOf (joinLines texts)).length = (bytesOf (joinLines texts)).length
  · rw [if_pos hall, if_pos hall]
    rfl
  · rw [if_neg hall, if_neg hall]
    rfl

lemma message_sink (activity : Activity) (e : SinkError) :
    Failure.message ⟨some activity, .sink e⟩ = activity.message ++ ": " ++ e.message := rfl

/-- **What a sink has taken of statements, and how their writing ends.** Let the lines be the
statements one after the other, each with a line break behind it. However few bytes the sink takes
at a time,

* it takes the start of the lines, as far as there is room, and nothing else about it changes; for a
  sink that has taken nothing before, there is room up to its limit;
* the writing succeeds exactly if there is room for all of the lines and the flush does not fail;
* if there is not, the failure tells that a statement was being written, and if only the flush
  fails, that statements were being flushed. -/
theorem written_up_to_limit (sink : Sink) (texts : List String) :
    (sink.writeStatements texts).1 = sink.take
      ((bytesOf (joinLines texts)).take (sink.room (bytesOf (joinLines texts)).length)) ∧
    ((sink.writeStatements texts).2 = none ↔
      sink.Fits (bytesOf (joinLines texts)).length ∧ sink.flushFails = false) ∧
    (¬ sink.Fits (bytesOf (joinLines texts)).length →
      (sink.writeStatements texts).2.map Failure.message =
        some ("write statement" ++ ": " ++ sink.error.message)) ∧
    (sink.Fits (bytesOf (joinLines texts)).length → sink.flushFails = true →
      (sink.writeStatements texts).2.map Failure.message =
        some ("flush statements" ++ ": " ++ sink.error.message)) := by
  have hrun := sink.writeStatements_eq_take texts
  rw [← room_eq_iff]
  generalize bytesOf (joinLines texts) = bytes at hrun ⊢
  by_cases hall : sink.room bytes.length = bytes.length
  · rw [if_pos hall] at hrun
    refine ⟨congrArg Prod.fst hrun, ?_, absurd hall, fun _ hflush => ?_⟩
    · rw [hrun]
      cases sink.flushFails <;> simp [hall]
    · rw [hrun, hflush, if_pos rfl, Option.map_some, message_sink]
      rfl
  · rw [if_neg hall] at hrun
    refine ⟨congrArg Prod.fst hrun, ?_, fun _ => ?_, (absurd · hall)⟩
    · rw [hrun]
      simp [hall]
    · rw [hrun, Option.map_some, message_sink]
      rfl

/-- A sink that takes one, two or three bytes at a time, `limit` in all, and cannot be flushed. -/
def sluggish (limit : Nat) : Sink where
  limit := some limit
  chunk n := n % 3 + 1
  chunk_pos n := Nat.succ_pos (n % 3)
  flushFails := true
  error := .timedOut
  taken := []

/-- Of six bytes the first two are taken, in the middle of a character; if there is room for all of
them, the flush fails. -/
theorem written_up_to_limit_sluggish :
    ((sluggish 2).writeStatements ["né", "b"]).1.taken = [110, 195] ∧
    ((sluggish 2).writeStatements ["né", "b"]).2.map Failure.message =
      some "write statement: timed out" ∧
    ((sluggish 6).writeStatements ["né", "b"]).2.map Failure.message =
      some "flush statements: timed out" := by
  have hlines : bytesOf (joinLines ["né", "b"]) = [110, 195, 169, 10, 98, 10] := by
    rw [bytesOf_eq]
    decide
  obtain ⟨htaken, -, hwrite, -⟩ := written_up_to_limit (sluggish 2) ["né", "b"]
  obtain ⟨-, -, -, hflush⟩ := written_up_to_limit (sluggish 6) ["né", "b"]
  rw [hlines] at htaken hwrite hflush
  have hover : ¬ (sluggish 2).Fits 6 := by simp [Fits, sluggish]
  have hfits : (sluggish 6).Fits 6 := by simp [Fits, sluggish]
  exact ⟨congrArg Sink.taken htaken, hwrite hover, hflush hfits rfl⟩

end Sink

end FieldNorm.Command
