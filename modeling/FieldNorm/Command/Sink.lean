import FieldNorm.Command.Failure

/-!
Writing statements to something that takes bytes a few at a time and may stop taking them. What
it has taken is always the start of the statements, each with a line break behind it.
-/

namespace FieldNorm.Command

/-- Something that takes bytes. -/
structure Sink where
  /-- How many bytes it takes in all; without a limit it takes any number. -/
  limit : Option Nat
  /-- How many bytes at most it takes at once when it has taken `n` before. -/
  chunk : (n : Nat) → Nat
  chunk_pos : ∀ n, 0 < chunk n
  flushFails : Bool
  error : SinkError
  /-- The bytes taken so far. -/
  taken : List UInt8

namespace Sink

/-- A sink that takes everything. -/
def endless : Sink where
  limit := none
  chunk _ := 1
  chunk_pos _ := by decide
  flushFails := false
  error := .brokenPipe
  taken := []

/-- How many of `size` bytes the sink takes now. -/
def accepts (sink : Sink) (size : Nat) : Nat :=
  match sink.limit with
  | none => min size (sink.chunk sink.taken.length)
  | some limit =>
    min (min size (sink.chunk sink.taken.length)) (limit - sink.taken.length)

theorem accepts_le (sink : Sink) (size : Nat) : sink.accepts size ≤ size := by
  unfold accepts
  split <;> omega

/-- Offers bytes until all are taken or none of them is. -/
def writeAll (sink : Sink) (bytes : List UInt8) : Sink × Option SinkError :=
  if _h : bytes = [] then (sink, none)
  else
    let n := sink.accepts bytes.length
    if _h₁ : n = 0 then (sink, some sink.error)
    else writeAll { sink with taken := sink.taken ++ bytes.take n } (bytes.drop n)
termination_by bytes.length
decreasing_by
  have := List.length_pos_iff.2 _h
  simp only [List.length_drop]
  omega

def bytesOf (text : String) : List UInt8 := text.toUTF8.toList

/-- Writes a statement and a line break. -/
def writeStatement (sink : Sink) (statement : String) : Sink × Option SinkError :=
  match sink.writeAll (bytesOf statement) with
  | (sink, some e) => (sink, some e)
  | (sink, none) => sink.writeAll (bytesOf "\n")

/-- Writes statements, one on a line, and flushes. -/
def writeStatements (sink : Sink) : List String → Sink × Option Failure
  | [] =>
    (sink, if sink.flushFails then some ⟨some .flushStatements, .sink sink.error⟩ else none)
  | statement :: statements =>
    match sink.writeStatement statement with
    | (sink, some e) => (sink, some ⟨some .writeStatement, .sink e⟩)
    | (sink, none) => sink.writeStatements statements

end Sink

end FieldNorm.Command
