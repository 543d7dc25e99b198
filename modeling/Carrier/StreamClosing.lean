import Carrier.Threads

/-! Streams that are closed while messages are on their way: the goroutines of
`loopStreamSend`, `CloseStream` of `network/multiplex.go` and the removal of a
connection's streams by `Close`. A goroutine looks its stream up four times, once to
see that it is there, once to lock its mutex, once for the deferred unlock and once in
`streamSendMessage`; each look-up is two map operations. `Close` takes no mutex that
a goroutine holds, and `CloseStream` only the one of the stream. -/
namespace Carrier.StreamClosing

open Threads TransitionSystem

structure Item where
  mutex : Nat
  peerID : String
  streamID : String
  deriving DecidableEq, Repr

/-- The maps, by numbers for what they point to, and who holds the mutexes. A frame is
noted with its goroutine and with whether its stream was in the maps when the mutex
of the stream was taken. -/
structure Shared where
  streams : String → Option Nat
  stream : Nat → String → Option Nat
  writerMutex : Nat → Option Nat
  streamMutex : Nat → Option Nat
  frames : List (Nat × Bool)

/-- What a stream is looked up for. From the lock on, `present` goes along. -/
inductive Use where
  | check
  | lock
  | unlock (held : Nat) (present : Bool)
  | send (deferred : Nat) (present : Bool)
  deriving DecidableEq, Repr

/-- Where a goroutine is. A look-up has read the first map once it knows the second. -/
inductive Stage where
  | start
  | looking (use : Use) (multi : Option Nat)
  | locking (stream : Nat)
  | writing (deferred : Nat) (present found : Bool)
  | done
  | crashed
  deriving DecidableEq, Repr

inductive CloseStage where
  | start
  | loaded (multi : Nat)
  | found (multi stream : Nat)
  | done
  deriving DecidableEq, Repr

/-- What a thread is executing. `RemoveEntries` goes through the two keys of a client. -/
inductive Code where
  | idle
  | goroutine (item : Item) (stage : Stage)
  | closeStream (streamID : String) (stage : CloseStage)
  | removeEntries (keys : List String)
  deriving DecidableEq, Repr

namespace Shared

def load (shared : Shared) (key streamID : String) : Option Nat → Option (Nat ⊕ Nat)
  | none => (shared.streams key).map .inl
  | some multi => (shared.stream multi streamID).map .inr

/-- `Stream(streamID) != nil`, with both maps read at once. -/
def present (shared : Shared) (key streamID : String) : Bool :=
  ((shared.streams key).bind fun multi => shared.stream multi streamID).isSome

theorem present_iff (shared : Shared) (key streamID : String) : shared.present key streamID = true ↔
    ∃ multi stream, shared.streams key = some multi ∧ shared.stream multi streamID = some stream := by
  simp [present, Option.isSome_iff_exists, Option.bind_eq_some_iff, exists_comm (α := Nat)]

def deleteStream (shared : Shared) (multi : Nat) (streamID : String) : Shared :=
  { shared with
    stream := Function.update shared.stream multi (Function.update (shared.stream multi) streamID none) }

def deleteStreams (shared : Shared) (key : String) : Shared :=
  { shared with streams := Function.update shared.streams key none }

theorem deleteStream_stream (shared : Shared) (multi other : Nat) (streamID otherID : String) :
    (shared.deleteStream multi streamID).stream other otherID =
      if other = multi ∧ otherID = streamID then none else shared.stream other otherID := by
  by_cases sameMulti : other = multi
  · subst sameMulti
    by_cases sameID : otherID = streamID <;> simp [deleteStream, sameID]
  · simp [deleteStream, sameMulti]

theorem deleteStreams_streams (shared : Shared) (key other : String) :
    (shared.deleteStreams key).streams other = if other = key then none else shared.streams other := by
  simp [deleteStreams, Function.update_apply]

def leave (shared : Shared) (item : Item) : Shared × Stage :=
  ({ shared with writerMutex := Function.update shared.writerMutex item.mutex none }, .done)

/-- The deferred unlocks. Unlocking a mutex that is not locked is fatal. -/
def finish (shared : Shared) (item : Item) (deferred : Nat) : Shared × Stage :=
  match shared.streamMutex deferred with
  | none => (shared, .crashed)
  | some _ =>
      leave { shared with streamMutex := Function.update shared.streamMutex deferred none } item

end Shared

def Use.key (own : String) (item : Item) : Use → String
  | .send _ _ => item.peerID
  | _ => own

def Use.found (stream : Nat) : Use → Stage
  | .check => .looking .lock none
  | .lock => .locking stream
  | .unlock _ present => .looking (.send stream present) none
  | .send deferred present => .writing deferred present true

/-- A nil `*Stream` is dereferenced for its mutex. `streamSendMessage` gives up when
the connection has no streams any more, but goes on to write when it has them without
this one. -/
def Use.missing (shared : Shared) (item : Item) : Use → Option Nat → Shared × Stage
  | .check, _ => shared.leave item
  | .lock, _ => (shared, .crashed)
  | .unlock _ _, _ => (shared, .crashed)
  | .send deferred _, none => shared.finish item deferred
  | .send deferred present, some _ => (shared, .writing deferred present false)

/-- A goroutine of `loopStreamSend`. The message may be impossible to encode and the
writer may fail. A frame without a stream to count it ends in a failing assertion. -/
def runGoroutine (own : String) (thread : Nat) (shared : Shared) (item : Item) (fails : Bool) :
    Stage → Option (Shared × Stage)
  | .start =>
      if shared.writerMutex item.mutex = none then
        some ({ shared with writerMutex := Function.update shared.writerMutex item.mutex (some thread) },
          .looking .check none)
      else none
  | .looking use multi =>
      if fails = true ∧ multi = none then
        match use with
        | .send deferred _ => some (shared.finish item deferred)
        | _ => none
      else match shared.load (use.key own item) item.streamID multi with
        | some (.inl multi) => some (shared, .looking use (some multi))
        | some (.inr stream) => some (shared, use.found stream)
        | none => some (use.missing shared item multi)
  | .locking stream =>
      if shared.streamMutex stream = none then
        some ({ shared with streamMutex := Function.update shared.streamMutex stream (some thread) },
          .looking (.unlock stream (shared.present own item.streamID)) none)
      else none
  | .writing deferred present found =>
      if fails then some (shared.finish item deferred)
      else
        let written := { shared with frames := shared.frames ++ [(thread, present)] }
        if found then some (written.finish item deferred) else some (written, .crashed)
  | .done => none
  | .crashed => none

/-- `CloseStream`; the deletion stands inside the mutex of the stream. -/
def runCloseStream (own streamID : String) (shared : Shared) : CloseStage → Option (Shared × CloseStage)
  | .start => some (shared, ((shared.streams own).map .loaded).getD .done)
  | .loaded multi => some (shared, ((shared.stream multi streamID).map (.found multi)).getD .done)
  | .found multi stream =>
      if shared.streamMutex stream = none then
        some (shared.deleteStream multi streamID, .done)
      else none
  | .done => none

/-- `own` is the key of the client. The choice is a failure of a goroutine, or whether
`RemoveEntries` finds a connection under its key. -/
def program (own : String) : Program Shared Code Bool
  | thread, shared, .goroutine item stage, fails =>
      (runGoroutine own thread shared item fails stage).map fun (shared, stage) =>
        (shared, .goroutine item stage)
  | _, shared, .closeStream streamID stage, _ =>
      (runCloseStream own streamID shared stage).map fun (shared, stage) =>
        (shared, .closeStream streamID stage)
  | _, shared, .removeEntries (key :: keys), connected =>
      some (if connected then shared.deleteStreams key else shared, .removeEntries keys)
  | _, _, .removeEntries [], _ => none
  | _, _, .idle, _ => none

/-! What a step comes to. -/

inductive Looked (own : String) (shared : Shared) (item : Item) (use : Use) :
    Option Nat → Shared → Stage → Prop where
  | unencoded {deferred present next now} :
      use = .send deferred present → shared.finish item deferred = (next, now) →
      Looked own shared item use none next now
  | loaded {multi} :
      shared.streams (use.key own item) = some multi →
      Looked own shared item use none shared (.looking use (some multi))
  | disconnected {next now} :
      shared.streams (use.key own item) = none → use.missing shared item none = (next, now) →
      Looked own shared item use none next now
  | found {multi stream} :
      shared.stream multi item.streamID = some stream →
      Looked own shared item use (some multi) shared (use.found stream)
  | missing {multi next now} :
      shared.stream multi item.streamID = none → use.missing shared item (some multi) = (next, now) →
      Looked own shared item use (some multi) next now

theorem looking_step {own : String} {thread : Nat} {shared next : Shared} {item : Item} {fails : Bool}
    {use : Use} {read : Option Nat} {now : Stage}
    (stepped : runGoroutine own thread shared item fails (.looking use read) = some (next, now)) :
    Looked own shared item use read next now := by
  simp only [runGoroutine] at stepped
  split at stepped
  · rename_i early
    obtain ⟨_, rfl⟩ := early
    split at stepped
    · exact .unencoded rfl (Option.some.inj stepped)
    · cases stepped
  · cases read with
    | none =>
        cases entry : shared.streams (use.key own item) with
        | none =>
            simp only [Shared.load, entry, Option.map_none] at stepped
            exact .disconnected entry (Option.some.inj stepped)
        | some multi =>
            simp only [Shared.load, entry, Option.map_some] at stepped
            cases stepped
            exact .loaded entry
    | some multi =>
        cases entry : shared.stream multi item.streamID with
        | none =>
            simp only [Shared.load, entry, Option.map_none] at stepped
            exact .missing entry (Option.some.inj stepped)
        | some stream =>
            simp only [Shared.load, entry, Option.map_some] at stepped
            cases stepped
            exact .found entry

theorem goroutine_moved {own : String} {thread : Nat} {shared next : Shared} {item : Item} {stage : Stage}
    {choice : Bool} {now : Code}
    (moved : program own thread shared (.goroutine item stage) choice = some (next, now)) :
    ∃ later, runGoroutine own thread shared item choice stage = some (next, later) ∧
      now = .goroutine item later := by
  obtain ⟨⟨after, later⟩, ran, same⟩ := Option.map_eq_some_iff.mp moved
  cases same
  exact ⟨later, ran, rfl⟩

theorem closeStream_moved {own streamID : String} {thread : Nat} {shared next : Shared} {stage : CloseStage}
    {choice : Bool} {now : Code}
    (moved : program own thread shared (.closeStream streamID stage) choice = some (next, now)) :
    ∃ later, runCloseStream own streamID shared stage = some (next, later) ∧
      now = .closeStream streamID later := by
  obtain ⟨⟨after, later⟩, ran, same⟩ := Option.map_eq_some_iff.mp moved
  cases same
  exact ⟨later, ran, rfl⟩

theorem goroutine_after {own : String} {thread : Nat} {item : Item} {stage : Stage}
    {world next : World Shared Code} {move : Nat × Bool} (code : world.locals thread = .goroutine item stage)
    (step : Steps (program own) world move next) :
    (∃ later, runGoroutine own thread world.shared item move.2 stage = some (next.shared, later) ∧
      next.locals thread = .goroutine item later) ∨
    (thread ≠ move.1 ∧ next.locals thread = .goroutine item stage) := by
  cases step with
  | @move mover choice shared now moved =>
      by_cases mine : thread = mover
      · subst mine
        rw [code] at moved
        obtain ⟨later, ran, rfl⟩ := goroutine_moved moved
        exact .inl ⟨later, ran, World.set_self ..⟩
      · exact .inr ⟨mine, (World.set_other _ _ _ mine).trans code⟩

/-! Entries only disappear, so that whatever a thread has read is what the maps held at
the beginning. -/

structure Shrunk (first shared : Shared) : Prop where
  streams : ∀ key multi, shared.streams key = some multi → first.streams key = some multi
  stream : ∀ multi streamID stream, shared.stream multi streamID = some stream →
    first.stream multi streamID = some stream

theorem Shrunk.refl (shared : Shared) : Shrunk shared shared :=
  ⟨fun _ _ found => found, fun _ _ _ found => found⟩

theorem Shrunk.deleteStream {first shared : Shared} (shrunk : Shrunk first shared) (multi : Nat)
    (streamID : String) : Shrunk first (shared.deleteStream multi streamID) := by
  refine ⟨shrunk.streams, ?_⟩
  intro other otherID stream found
  rw [Shared.deleteStream_stream] at found
  split at found
  · simp at found
  · exact shrunk.stream other otherID stream found

theorem Shrunk.deleteStreams {first shared : Shared} (shrunk : Shrunk first shared) (key : String) :
    Shrunk first (shared.deleteStreams key) := by
  refine ⟨?_, shrunk.stream⟩
  intro other multi found
  rw [Shared.deleteStreams_streams] at found
  split at found
  · simp at found
  · exact shrunk.streams other multi found

/-- Nothing is ever added to the maps, and only a frame of the thread's own to the log. -/
structure Lessens (thread : Nat) (shared next : Shared) : Prop where
  shrunk : Shrunk shared next
  frames : ∀ entry ∈ next.frames, entry ∈ shared.frames ∨ entry.1 = thread

theorem Lessens.of_same {thread : Nat} {shared next : Shared} (streams : next.streams = shared.streams)
    (stream : next.stream = shared.stream)
    (frames : ∀ entry ∈ next.frames, entry ∈ shared.frames ∨ entry.1 = thread) :
    Lessens thread shared next :=
  ⟨⟨fun _ _ found => streams ▸ found, fun _ _ _ found => stream ▸ found⟩, frames⟩

theorem finish_lessens {thread : Nat} {shared before : Shared} (item : Item) (deferred : Nat)
    (lessens : Lessens thread before shared) : Lessens thread before (shared.finish item deferred).1 := by
  unfold Shared.finish
  split
  · exact lessens
  · exact ⟨⟨lessens.shrunk.streams, lessens.shrunk.stream⟩, lessens.frames⟩

theorem missing_lessens {thread : Nat} {shared : Shared} (item : Item) (use : Use) (multi : Option Nat)
    (same : Lessens thread shared shared) : Lessens thread shared (use.missing shared item multi).1 := by
  unfold Use.missing
  split
  · exact .of_same rfl rfl fun _ => Or.inl
  · exact same
  · exact same
  · exact finish_lessens item _ same
  · exact same

theorem runGoroutine_lessens {shared next : Shared} {own : String} {thread : Nat} {item : Item} {fails : Bool}
    {stage now : Stage} (stepped : runGoroutine own thread shared item fails stage = some (next, now)) :
    Lessens thread shared next := by
  have same : Lessens thread shared shared := .of_same rfl rfl fun _ => Or.inl
  cases stage with
  | start =>
      simp only [runGoroutine] at stepped
      split at stepped
      · cases stepped
        exact .of_same rfl rfl fun _ => Or.inl
      · simp at stepped
  | looking use multi =>
      cases looking_step stepped with
      | @unencoded deferred _ _ _ _ left =>
          have kept := finish_lessens item deferred same
          rwa [left] at kept
      | loaded => exact same
      | disconnected _ left =>
          have kept := missing_lessens item use none same
          rwa [left] at kept
      | found => exact same
      | @missing multi _ _ _ left =>
          have kept := missing_lessens item use (some multi) same
          rwa [left] at kept
  | locking stream =>
      simp only [runGoroutine] at stepped
      split at stepped
      · cases stepped
        exact .of_same rfl rfl fun _ => Or.inl
      · simp at stepped
  | writing deferred present found =>
      have written : Lessens thread shared { shared with frames := shared.frames ++ [(thread, present)] } := by
        refine .of_same rfl rfl fun entry member => ?_
        rcases List.mem_append.mp member with old | new
        · exact Or.inl old
        · rw [List.mem_singleton.mp new]
          exact Or.inr rfl
      simp only [runGoroutine] at stepped
      split at stepped
      · rw [← (Prod.mk.inj (Option.some.inj stepped)).1]
        exact finish_lessens item deferred same
      · split at stepped
        · rw [← (Prod.mk.inj (Option.some.inj stepped)).1]
          exact finish_lessens item deferred written
        · cases stepped
          exact written
  | done => simp [runGoroutine] at stepped
  | crashed => simp [runGoroutine] at stepped

theorem steps_lessen {own : String} {world next : World Shared Code} {move : Nat × Bool}
    (step : Steps (program own) world move next) : Lessens move.1 world.shared next.shared := by
  cases step with
  | @move thread choice shared now moved =>
      cases code : world.locals thread with
      | idle => simp [program, code] at moved
      | goroutine item stage =>
          rw [code] at moved
          obtain ⟨last, ran, rfl⟩ := goroutine_moved moved
          exact runGoroutine_lessens ran
      | closeStream streamID stage =>
          rw [code] at moved
          obtain ⟨last, ran, rfl⟩ := closeStream_moved moved
          cases stage with
          | found multi stream =>
              simp only [runCloseStream] at ran
              split at ran
              · cases ran
                exact ⟨(Shrunk.refl _).deleteStream multi streamID, fun _ => Or.inl⟩
              · simp at ran
          | start =>
              cases ran
              exact ⟨Shrunk.refl _, fun _ => Or.inl⟩
          | loaded multi =>
              cases ran
              exact ⟨Shrunk.refl _, fun _ => Or.inl⟩
          | done => simp [runCloseStream] at ran
      | removeEntries keys =>
          rw [code] at moved
          cases keys with
          | nil => simp [program] at moved
          | cons key keys =>
              cases moved
              cases choice with
              | false => exact ⟨Shrunk.refl _, fun _ => Or.inl⟩
              | true => exact ⟨(Shrunk.refl _).deleteStreams key, fun _ => Or.inl⟩

/-! A stream that is gone before the test. -/

def Turned (shared : Shared) (item : Item) : Stage → Prop
  | .start => True
  | .looking .check none => True
  | .looking .check (some multi) => shared.stream multi item.streamID = none
  | .done => True
  | _ => False

theorem turned_step {shared next : Shared} {own : String} {thread : Nat} {item : Item} {fails : Bool}
    {stage now : Stage} (missing : shared.present own item.streamID = false)
    (turned : Turned shared item stage)
    (stepped : runGoroutine own thread shared item fails stage = some (next, now)) :
    Turned next item now ∧ next.frames = shared.frames := by
  unfold Turned at turned
  split at turned
  · simp only [runGoroutine] at stepped
    split at stepped
    · cases stepped
      exact ⟨trivial, rfl⟩
    · simp at stepped
  · cases looking_step stepped with
    | unencoded use => cases use
    | loaded entry =>
        have entry : shared.streams own = some _ := entry
        refine ⟨?_, rfl⟩
        simpa [Turned, Shared.present, entry] using missing
    | disconnected _ left =>
        cases left
        exact ⟨trivial, rfl⟩
  · cases looking_step stepped with
    | found entry => cases turned.symm.trans entry
    | missing _ left =>
        cases left
        exact ⟨trivial, rfl⟩
  · simp [runGoroutine] at stepped
  · exact turned.elim

structure Dropping (own : String) (thread : Nat) (item : Item) (frames : List (Nat × Bool))
    (world : World Shared Code) : Prop where
  turned : ∃ stage, world.locals thread = .goroutine item stage ∧ Turned world.shared item stage
  missing : world.shared.present own item.streamID = false
  frames : ∀ present, (thread, present) ∈ world.shared.frames → (thread, present) ∈ frames

theorem Shrunk.missing {first shared : Shared} (shrunk : Shrunk first shared) {own streamID : String}
    (missing : first.present own streamID = false) : shared.present own streamID = false := by
  by_contra found
  obtain ⟨multi, stream, entry, present⟩ := (Shared.present_iff _ _ _).mp (Bool.not_eq_false _ ▸ found)
  have before : first.present own streamID = true := (Shared.present_iff _ _ _).mpr
    ⟨multi, stream, shrunk.streams own multi entry, shrunk.stream multi streamID stream present⟩
  simp [missing] at before

theorem Shrunk.turned {first shared : Shared} (shrunk : Shrunk first shared) {item : Item} {stage : Stage}
    (turned : Turned first item stage) : Turned shared item stage := by
  unfold Turned at turned ⊢
  split at turned
  · trivial
  · trivial
  · rename_i multi
    by_contra found
    obtain ⟨stream, present⟩ := Option.ne_none_iff_exists'.mp found
    simp [shrunk.stream _ _ _ present] at turned
  · trivial
  · exact turned.elim

theorem Dropping.step {own : String} {thread : Nat} {item : Item} {frames : List (Nat × Bool)}
    {world next : World Shared Code} {move : Nat × Bool} (dropping : Dropping own thread item frames world)
    (step : Steps (program own) world move next) : Dropping own thread item frames next := by
  have lessens := steps_lessen step
  have missing := lessens.shrunk.missing dropping.missing
  obtain ⟨stage, code, turned⟩ := dropping.turned
  rcases goroutine_after code step with ⟨later, ran, after⟩ | ⟨other, after⟩
  · obtain ⟨still, log⟩ := turned_step dropping.missing turned ran
    refine ⟨⟨later, after, still⟩, missing, fun present member => ?_⟩
    rw [log] at member
    exact dropping.frames present member
  · refine ⟨⟨stage, after, lessens.shrunk.turned turned⟩, missing, fun present member => ?_⟩
    rcases lessens.frames _ member with old | new
    · exact dropping.frames present old
    · exact absurd new other

/-! A stream that goes after the test. -/

def Tested : Stage → Prop
  | .looking .lock _ => True
  | .locking _ => True
  | .looking (.unlock _ _) none => True
  | _ => False

/-- The goroutine is past its test and its stream is not to be found any more. -/
def Doomed (own : String) (shared : Shared) (item : Item) (stage : Stage) : Prop :=
  Tested stage ∧ shared.present own item.streamID = false ∨
    ∃ held present multi, stage = .looking (.unlock held present) (some multi) ∧
      shared.stream multi item.streamID = none

theorem Shrunk.doomed {first shared : Shared} (shrunk : Shrunk first shared) {own : String} {item : Item}
    {stage : Stage} (doomed : Doomed own first item stage) : Doomed own shared item stage := by
  rcases doomed with ⟨tested, missing⟩ | ⟨held, present, multi, rfl, gone⟩
  · exact Or.inl ⟨tested, shrunk.missing missing⟩
  · refine Or.inr ⟨held, present, multi, rfl, ?_⟩
    by_contra found
    obtain ⟨stream, still⟩ := Option.ne_none_iff_exists'.mp found
    simp [shrunk.stream _ _ _ still] at gone

theorem doomed_step {shared next : Shared} {own : String} {thread : Nat} {item : Item} {fails : Bool}
    {stage now : Stage} (doomed : Doomed own shared item stage)
    (stepped : runGoroutine own thread shared item fails stage = some (next, now)) :
    Doomed own next item now ∨ now = .crashed := by
  rcases doomed with ⟨tested, missing⟩ | ⟨held, present, multi, rfl, gone⟩
  -- each look-up before the deferred unlock fails or leads to the next one
  · unfold Tested at tested
    split at tested
    · cases looking_step stepped with
      | unencoded use => cases use
      | loaded => exact Or.inl (Or.inl ⟨trivial, missing⟩)
      | found => exact Or.inl (Or.inl ⟨trivial, missing⟩)
      | disconnected _ left =>
          cases left
          exact Or.inr rfl
      | missing _ left =>
          cases left
          exact Or.inr rfl
    · simp only [runGoroutine] at stepped
      split at stepped
      · cases stepped
        exact Or.inl (Or.inl ⟨trivial, missing⟩)
      · simp at stepped
    · cases looking_step stepped with
      | unencoded use => cases use
      | @loaded multi entry =>
          have entry : shared.streams own = some multi := entry
          have gone : shared.stream multi item.streamID = none := by
            simpa [Shared.present, entry] using missing
          exact Or.inl (Or.inr ⟨_, _, multi, rfl, gone⟩)
      | disconnected _ left =>
          cases left
          exact Or.inr rfl
    · exact tested.elim
  · cases looking_step stepped with
    | found entry => cases gone.symm.trans entry
    | missing _ left =>
        cases left
        exact Or.inr rfl

/-- A goroutine whose stream goes after the test does not come to its end. -/
theorem doomed_never_done {own : String} {thread : Nat} {item : Item} {stage : Stage}
    {world last : World Shared Code} {moves : List (Nat × Bool)}
    (code : world.locals thread = .goroutine item stage) (doomed : Doomed own world.shared item stage)
    (run : Run (Steps (program own)) world moves last) :
    ∃ stage, last.locals thread = .goroutine item stage ∧ stage ≠ .done := by
  have stays := run.invariant
    (fun world => ∃ stage, world.locals thread = .goroutine item stage ∧
      (Doomed own world.shared item stage ∨ stage = .crashed)) ?_ ⟨stage, code, Or.inl doomed⟩
  · obtain ⟨stage, code, doomed | rfl⟩ := stays
    · refine ⟨stage, code, ?_⟩
      rintro rfl
      simp [Doomed, Tested] at doomed
    · exact ⟨_, code, by simp⟩
  · rintro world move next step ⟨stage, code, doomed⟩
    rcases goroutine_after code step with ⟨later, ran, after⟩ | ⟨_, after⟩
    · rcases doomed with doomed | rfl
      · exact ⟨later, after, doomed_step doomed ran⟩
      · simp [runGoroutine] at ran
    · exact ⟨stage, after, doomed.imp_left (steps_lessen step).shrunk.doomed⟩

end Carrier.StreamClosing
