import Carrier.GoRuntime
import Mathlib.Data.List.Basic

/-! Byte sources in the sense of `io.Reader`, and the two ways of reading a fixed
number of bytes from one: the loop that stops at the first error, and
`io.ReadFull`, which forgives an error beside the last byte. How a source cuts
its bytes into reads is part of its state, so a statement about every source is
one about every fragmentation. -/
namespace Carrier.ByteReader

open GoRuntime

/-- One `Read` call to come: at most `size` bytes, and with an error or not. -/
structure Turn where
  size : Nat
  fails : Bool
  deriving DecidableEq, Repr

/-- The bytes still to come. Once the turns are used up, a `Read` returns as
much as fits. -/
structure Source where
  rest : Bytes
  turns : List Turn
  deriving DecidableEq, Repr

namespace Source

/-- `Read` into a buffer of `want > 0` bytes: what was read, whether there was an
error, and the source afterwards. Without an error at least one byte is read, and
an exhausted source reports the end. -/
def read (source : Source) (want : Nat) : Bytes × Bool × Source :=
  match source.turns with
  | [] => (source.rest.take want, source.rest.isEmpty, { source with rest := source.rest.drop want })
  | turn :: more =>
      let size := if turn.fails then min turn.size want else max 1 (min turn.size want)
      (source.rest.take size, turn.fails || source.rest.isEmpty,
        { rest := source.rest.drop size, turns := more })

/-- The loop `for total < want && err == nil`. Every turn without an error reads a
byte, so `want` turns are enough; running out of them counts as an error. -/
def fill : Nat → Nat → Source → Bytes × Bool × Source
  | 0, want, source => ([], want ≠ 0, source)
  | fuel + 1, want, source =>
      if want = 0 then ([], false, source)
      else
        let (chunk, failed, next) := source.read want
        if failed then (chunk, true, next)
        else
          let (more, failed, last) := fill fuel (want - chunk.length) next
          (chunk ++ more, failed, last)

def readLoop (source : Source) (want : Nat) : Option Bytes × Source :=
  let (bytes, failed, next) := fill want want source
  (if failed then none else some bytes, next)

/-- `io.ReadFull`: an error is dropped when the buffer is full. -/
def readFull (source : Source) (want : Nat) : Option Bytes × Source :=
  let (bytes, _, next) := fill want want source
  (if bytes.length < want then none else some bytes, next)

end Source

/-- No read fails before the end of the bytes. -/
def Smooth (source : Source) : Prop := ∀ turn ∈ source.turns, turn.fails = false

theorem read_smooth (source : Source) (want : Nat) (smooth : Smooth source) (positive : 0 < want)
    (enough : want ≤ source.rest.length) :
    ∃ chunk next, source.read want = (chunk, false, next) ∧ Smooth next ∧
      0 < chunk.length ∧ chunk.length ≤ want ∧ source.rest = chunk ++ next.rest := by
  have bytesLeft : source.rest.isEmpty = false := by
    cases bytes : source.rest with
    | nil => simp [bytes] at enough; omega
    | cons => rfl
  unfold Source.read
  split
  · rename_i turns
    refine ⟨_, _, by rw [bytesLeft], ?_, ?_, ?_, (List.take_append_drop want source.rest).symm⟩
    · simp [Smooth, turns]
    · rw [List.length_take]; omega
    · rw [List.length_take]; omega
  · rename_i turn more turns
    have fine : turn.fails = false := smooth turn (by simp [turns])
    refine ⟨source.rest.take (max 1 (min turn.size want)),
      ⟨source.rest.drop (max 1 (min turn.size want)), more⟩, by simp [fine, bytesLeft], ?_, ?_, ?_,
      (List.take_append_drop _ source.rest).symm⟩
    · intro later member
      exact smooth later (by simp [turns, member])
    · rw [List.length_take]; omega
    · rw [List.length_take]; omega

/-- The loop collects exactly the next `want` bytes, however they are cut. -/
theorem fill_smooth (fuel want : Nat) (source : Source) (smooth : Smooth source)
    (turns : want ≤ fuel) (enough : want ≤ source.rest.length) :
    ∃ next, Source.fill fuel want source = (source.rest.take want, false, next) ∧ Smooth next ∧
      next.rest = source.rest.drop want := by
  induction fuel generalizing want source with
  | zero =>
      have nothing : want = 0 := by omega
      subst nothing
      exact ⟨source, by simp [Source.fill], smooth, by simp⟩
  | succ fuel ih =>
      by_cases nothing : want = 0
      · subst nothing
        exact ⟨source, by simp [Source.fill], smooth, by simp⟩
      · obtain ⟨chunk, next, read, nextSmooth, nonempty, bounded, split⟩ :=
          read_smooth source want smooth (by omega) enough
        have total : source.rest.length = chunk.length + next.rest.length := by simp [split]
        obtain ⟨last, filled, lastSmooth, lastRest⟩ :=
          ih (want - chunk.length) next nextSmooth (by omega) (by omega)
        refine ⟨last, ?_, lastSmooth, ?_⟩
        · simp only [Source.fill, nothing, if_false, read, Bool.false_eq_true, filled]
          rw [split, List.take_append, List.take_of_length_le bounded]
        · rw [lastRest, split, List.drop_append, List.drop_of_length_le bounded, List.nil_append]

theorem readLoop_smooth (source : Source) (want : Nat) (smooth : Smooth source)
    (enough : want ≤ source.rest.length) :
    ∃ next, source.readLoop want = (some (source.rest.take want), next) ∧ Smooth next ∧
      next.rest = source.rest.drop want := by
  obtain ⟨next, filled, kept⟩ := fill_smooth want want source smooth (Nat.le_refl _) enough
  exact ⟨next, by simp [Source.readLoop, filled], kept⟩

theorem readFull_smooth (source : Source) (want : Nat) (smooth : Smooth source)
    (enough : want ≤ source.rest.length) :
    ∃ next, source.readFull want = (some (source.rest.take want), next) ∧ Smooth next ∧
      next.rest = source.rest.drop want := by
  obtain ⟨next, filled, kept⟩ := fill_smooth want want source smooth (Nat.le_refl _) enough
  have full : ¬ (source.rest.take want).length < want := by rw [List.length_take]; omega
  exact ⟨next, by simp only [Source.readFull, filled, full, if_false], kept⟩

/-! A read that succeeds fills its buffer. -/

theorem read_length (source : Source) (want : Nat) (positive : 0 < want) :
    (source.read want).1.length ≤ want := by
  unfold Source.read
  split
  · exact List.length_take_le _ _
  · refine Nat.le_trans (List.length_take_le _ _) ?_
    split <;> omega

theorem fill_length (fuel want : Nat) (source : Source) :
    (Source.fill fuel want source).1.length ≤ want ∧
      ((Source.fill fuel want source).2.1 = false → (Source.fill fuel want source).1.length = want) := by
  induction fuel generalizing want source with
  | zero =>
      refine ⟨Nat.zero_le _, fun done => ?_⟩
      simp only [Source.fill, ne_eq, decide_eq_false_iff_not, not_not] at done
      exact done.symm
  | succ fuel ih =>
      by_cases nothing : want = 0
      · simp [Source.fill, nothing]
      · have bounded := read_length source want (by omega)
        rcases taken : source.read want with ⟨chunk, failed, next⟩
        rw [taken] at bounded
        obtain ⟨below, full⟩ := ih (want - chunk.length) next
        rcases filled : Source.fill fuel (want - chunk.length) next with ⟨more, again, last⟩
        rw [filled] at below full
        simp only [Source.fill, nothing, if_false, taken, filled]
        cases failed with
        | true => exact ⟨bounded, fun fine => Bool.noConfusion fine⟩
        | false =>
            simp only [Bool.false_eq_true, if_false, List.length_append] at bounded below full ⊢
            exact ⟨by omega, fun fine => by have rest := full fine; omega⟩

theorem readLoop_length {source next : Source} {want : Nat} {bytes : Bytes}
    (read : source.readLoop want = (some bytes, next)) : bytes.length = want := by
  have full := (fill_length want want source).2
  simp only [Source.readLoop, Prod.mk.injEq] at read
  cases failed : (Source.fill want want source).2.1 with
  | true => simp [failed] at read
  | false =>
      simp only [failed, Bool.false_eq_true, if_false, Option.some.injEq] at read
      rw [← read.1]
      exact full failed

theorem readFull_length {source next : Source} {want : Nat} {bytes : Bytes}
    (read : source.readFull want = (some bytes, next)) : bytes.length = want := by
  have bounded := (fill_length want want source).1
  simp only [Source.readFull, Prod.mk.injEq] at read
  by_cases short : (Source.fill want want source).1.length < want
  · simp [short] at read
  · simp only [short, if_false, Option.some.injEq] at read
    rw [← read.1]
    omega

end Carrier.ByteReader
