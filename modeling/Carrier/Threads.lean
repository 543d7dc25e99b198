import Carrier.TransitionSystem
import Mathlib.Logic.Function.Basic

/-! Threads over a shared state. A program says what a thread does next from the
shared state and its own local state, or that it has to wait; the choice stands for
whatever else the step depends on. Any thread may be the next to move.

The rule is the one of Owicki and Gries: a property of every thread and the shared
state is kept by a step if the moving thread keeps it for itself and for any other. -/
namespace Carrier.Threads

open TransitionSystem

universe u v w
variable {Shared : Type u} {Local : Type v} {Choice : Type w}

structure World (Shared : Type u) (Local : Type v) where
  shared : Shared
  locals : Nat → Local

abbrev Program (Shared : Type u) (Local : Type v) (Choice : Type w) :=
  Nat → Shared → Local → Choice → Option (Shared × Local)

def World.set (world : World Shared Local) (thread : Nat) (shared : Shared) (now : Local) : World Shared Local :=
  ⟨shared, Function.update world.locals thread now⟩

@[simp] theorem World.set_shared (world : World Shared Local) (thread : Nat) (shared : Shared) (now : Local) :
    (world.set thread shared now).shared = shared := rfl

@[simp] theorem World.set_self (world : World Shared Local) (thread : Nat) (shared : Shared) (now : Local) :
    (world.set thread shared now).locals thread = now := by
  simp [World.set]

theorem World.set_other (world : World Shared Local) {thread other : Nat} (shared : Shared) (now : Local)
    (different : other ≠ thread) : (world.set thread shared now).locals other = world.locals other := by
  simp [World.set, different]

/-! What is read off the local states after a move. -/

section Reading

variable {α : Type*} (read : Local → α) (world : World Shared Local) (thread : Nat) (shared : Shared) (now : Local)

theorem World.read_set (other : Nat) : read ((world.set thread shared now).locals other) =
    if other = thread then read now else read (world.locals other) := by
  by_cases own : other = thread
  · rw [own, World.set_self, if_pos rfl]
  · rw [World.set_other world shared now own, if_neg own]

variable {read world thread shared now}

theorem World.read_set_eq_iff {other : Nat} {value : α} :
    read ((world.set thread shared now).locals other) = value ↔
      other = thread ∧ read now = value ∨ other ≠ thread ∧ read (world.locals other) = value := by
  rw [World.read_set read]
  by_cases own : other = thread
  · simp [own]
  · simp [own]

/-- A move that keeps what is read off its own thread keeps it everywhere. -/
theorem World.read_set_of_eq (kept : read now = read (world.locals thread)) (other : Nat) :
    read ((world.set thread shared now).locals other) = read (world.locals other) := by
  rw [World.read_set read, kept]
  split
  · rename_i own
    rw [own]
  · rfl

end Reading

inductive Steps (program : Program Shared Local Choice) (world : World Shared Local) :
    Nat × Choice → World Shared Local → Prop where
  | move {thread : Nat} {choice : Choice} {shared : Shared} {now : Local} :
      program thread world.shared (world.locals thread) choice = some (shared, now) →
      Steps program world (thread, choice) (world.set thread shared now)

def World.play (program : Program Shared Local Choice) (world : World Shared Local)
    (moves : List (Nat × Choice)) : Option (World Shared Local) :=
  follow (fun world (thread, choice) =>
    (program thread world.shared (world.locals thread) choice).map fun (shared, now) =>
      world.set thread shared now) moves world

theorem World.run_of_play {program : Program Shared Local Choice} {moves : List (Nat × Choice)}
    {world last : World Shared Local} (played : world.play program moves = some last) :
    Run (Steps program) world moves last := by
  refine Run.of_follow ?_ played
  rintro before ⟨thread, choice⟩ after reached
  obtain ⟨⟨shared, now⟩, moved, rfl⟩ := Option.map_eq_some_iff.mp reached
  exact .move moved

/-- The same for moves that are only made where they meet a condition. -/
def World.playWhile (program : Program Shared Local Choice) (Meets : World Shared Local → Nat × Choice → Prop)
    [∀ world move, Decidable (Meets world move)] (world : World Shared Local)
    (moves : List (Nat × Choice)) : Option (World Shared Local) :=
  follow (fun world move =>
    if Meets world move then
      (program move.1 world.shared (world.locals move.1) move.2).map fun (shared, now) =>
        world.set move.1 shared now
    else none) moves world

theorem World.run_of_playWhile {program : Program Shared Local Choice}
    {Meets : World Shared Local → Nat × Choice → Prop} [∀ world move, Decidable (Meets world move)]
    {moves : List (Nat × Choice)} {world last : World Shared Local}
    (played : world.playWhile program Meets moves = some last) :
    Run (fun before move after => Steps program before move after ∧ Meets before move) world moves last := by
  refine (Run.of_follow_if played).mono ?_
  rintro before move after ⟨moved, meets⟩
  obtain ⟨⟨shared, now⟩, stepped, rfl⟩ := Option.map_eq_some_iff.mp moved
  exact ⟨.move stepped, meets⟩

def Everywhere (Inv : Shared → Nat → Local → Prop) (world : World Shared Local) : Prop :=
  ∀ thread, Inv world.shared thread (world.locals thread)

theorem Everywhere.set {Inv : Shared → Nat → Local → Prop} {world : World Shared Local} {thread : Nat}
    {shared : Shared} {now : Local} (own : Inv shared thread now)
    (others : ∀ other, other ≠ thread → Inv shared other (world.locals other)) :
    Everywhere Inv (world.set thread shared now) := by
  intro other
  by_cases same : other = thread
  · subst same
    simpa using own
  · rw [World.set_other world shared now same]
    exact others other same

/-! Mutual exclusion by a lock. -/

/-- The lock is taken on entering the critical section and left alone elsewhere. -/
structure Guarded (program : Program Shared Local Choice) (locked : Shared → Bool) (inside : Local → Bool) :
    Prop where
  enters : ∀ {thread shared stage choice next now}, program thread shared stage choice = some (next, now) →
    inside stage = false → inside now = true → locked shared = false ∧ locked next = true
  remains : ∀ {thread shared stage choice next now}, program thread shared stage choice = some (next, now) →
    inside now = inside stage → locked next = locked shared

/-- A thread in the critical section has the lock, and there is only one. -/
structure Exclusive (locked : Shared → Bool) (inside : Local → Bool) (world : World Shared Local) : Prop where
  holds : ∀ thread, inside (world.locals thread) = true → locked world.shared = true
  alone : ∀ thread other, inside (world.locals thread) = true → inside (world.locals other) = true → thread = other

theorem Guarded.exclusive {program : Program Shared Local Choice} {locked : Shared → Bool}
    {inside : Local → Bool} (guarded : Guarded program locked inside) {world next : World Shared Local}
    {move : Nat × Choice} (step : Steps program world move next) (exclusive : Exclusive locked inside world) :
    Exclusive locked inside next := by
  cases step with
  | @move thread choice shared now moved =>
      -- With the mover inside before or after, nobody else is.
      have others : inside (world.locals thread) = true ∨ inside now = true →
          ∀ other, other ≠ thread → inside (world.locals other) = false := by
        intro busy other different
        cases within : inside (world.locals other) with
        | false => rfl
        | true =>
            cases before : inside (world.locals thread) with
            | true => exact absurd (exclusive.alone other thread within before) different
            | false =>
                have after : inside now = true := by simpa [before] using busy
                have free := (guarded.enters moved before after).1
                rw [exclusive.holds other within] at free
                cases free
      have elsewhere : ∀ other, inside ((world.set thread shared now).locals other) = true →
          other ≠ thread → inside (world.locals other) = true := by
        intro other within different
        rwa [World.set_other world shared now different] at within
      refine ⟨fun other within => ?_, fun one two first second => ?_⟩
      · by_cases own : other = thread
        · subst own
          rw [World.set_self] at within
          cases before : inside (world.locals other) with
          | false => exact (guarded.enters moved before within).2
          | true =>
              rw [World.set_shared, guarded.remains moved (within.trans before.symm)]
              exact exclusive.holds other before
        · have old := elsewhere other within own
          have outside : inside (world.locals thread) = false ∧ inside now = false := by
            constructor <;> apply eq_false_of_ne_true <;> intro busy
            · simp [others (Or.inl busy) other own] at old
            · simp [others (Or.inr busy) other own] at old
          rw [World.set_shared, guarded.remains moved (outside.2.trans outside.1.symm)]
          exact exclusive.holds other old
      · by_cases ownOne : one = thread
        · by_cases ownTwo : two = thread
          · rw [ownOne, ownTwo]
          · rw [ownOne, World.set_self] at first
            have old := elsewhere two second ownTwo
            simp [others (Or.inr first) two ownTwo] at old
        · by_cases ownTwo : two = thread
          · rw [ownTwo, World.set_self] at second
            have old := elsewhere one first ownOne
            simp [others (Or.inr second) one ownOne] at old
          · exact exclusive.alone one two (elsewhere one first ownOne) (elsewhere two second ownTwo)

end Carrier.Threads
