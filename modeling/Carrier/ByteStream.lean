import Carrier.GoRuntime
import Carrier.Threads
import Mathlib.Data.List.Basic
import Mathlib.Data.List.Nodup

/-! The byte stream of a peer client: `handleBytes`, `Read`, `SetReadDeadline` and the
part of `Close` that reaches the stream, in `network/client.go`. Every call is a thread
of its own, and the mutex of the stream is taken and given back in steps of their own.

A `Read` takes bytes from the buffer before it looks at the closed flag and at the
deadline, so whatever it took has to come out with the error. The channel that wakes
a waiting `Read` carries nothing, and the wait ends by itself after a second, so a
waiting `Read` may go on at any time. -/
namespace Carrier.ByteStream

open GoRuntime TransitionSystem Threads

/-- `StreamState`, with the flag that `Close` swaps. The zero time is `none`. -/
structure StreamState where
  locked : Bool
  buffer : Bytes
  isClosed : Bool
  readDeadline : Option Int
  closed : Bool
  deriving DecidableEq, Repr

def errClosed : String := "closed"
def errDeadline : String := "read deadline exceeded"

/-- Where a call stands. A `Read` carries its buffer `out`, and after the copy the
number of bytes copied. -/
inductive Stage where
  | appendLock (pkt : Bytes)
  | append (pkt : Bytes)
  | appendUnlock (empty : Bool)
  | notify (empty : Bool)
  | readLock (out : Bytes)
  | copy (out : Bytes)
  | advance (out : Bytes) (n : Nat) (isClosed : Bool)
  | readUnlock (out : Bytes) (n : Nat) (isClosed : Bool) (readDeadline : Option Int)
  | check (out : Bytes) (n : Nat) (isClosed : Bool) (readDeadline : Option Int)
  | wait (out : Bytes)
  | returned (out : Bytes) (n : Nat) (error : Option String)
  | closeSwap
  | closeLock
  | close
  | deadlineLock (t : Option Int)
  | deadline (t : Option Int)
  | unlock
  | finished
  deriving DecidableEq, Repr

def StreamState.lock (stream : StreamState) (next : Stage) : Option (StreamState × Stage) :=
  if stream.locked then none else some ({ stream with locked := true }, next)

def expired (readDeadline : Option Int) (now : Int) : Bool :=
  match readDeadline with
  | none => false
  | some t => t < now

def afterCheck (out : Bytes) (n : Nat) (isClosed : Bool) (readDeadline : Option Int) (now : Int) : Stage :=
  if isClosed then .returned out n (some errClosed)
  else if expired readDeadline now then .returned out n (some errDeadline)
  else if n ≠ 0 then .returned out n none
  else .wait out

/-- The next step of a call; the choice is the clock. -/
def program : Program StreamState Stage Int := fun _ stream stage now =>
  match stage with
  | .appendLock pkt => stream.lock (.append pkt)
  | .append pkt =>
      some ({ stream with buffer := stream.buffer ++ pkt }, .appendUnlock (stream.buffer.length = 0))
  | .appendUnlock empty => some ({ stream with locked := false }, .notify empty)
  -- A send that finds no waiting reader is dropped.
  | .notify _ => some (stream, .finished)
  | .readLock out => stream.lock (.copy out)
  | .copy out =>
      let n := min out.length stream.buffer.length
      some (stream, .advance (stream.buffer.take n ++ out.drop n) n stream.isClosed)
  | .advance out n isClosed =>
      some ({ stream with buffer := stream.buffer.drop n },
        .readUnlock out n isClosed stream.readDeadline)
  | .readUnlock out n isClosed readDeadline =>
      some ({ stream with locked := false }, .check out n isClosed readDeadline)
  | .check out n isClosed readDeadline => some (stream, afterCheck out n isClosed readDeadline now)
  | .wait out => some (stream, .readLock out)
  | .returned _ _ _ => none
  | .closeSwap => some ({ stream with closed := true }, if stream.closed then .finished else .closeLock)
  | .closeLock => stream.lock .close
  | .close => some ({ stream with isClosed := true }, .unlock)
  | .deadlineLock t => stream.lock (.deadline t)
  | .deadline t => some ({ stream with readDeadline := t }, .unlock)
  | .unlock => some ({ stream with locked := false }, .finished)
  | .finished => none

def inside : Stage → Bool
  | .append _ | .appendUnlock _ | .copy _ | .advance _ _ _ | .readUnlock _ _ _ _ | .close | .deadline _
  | .unlock => true
  | _ => false

def report : Stage → Bytes
  | .readUnlock out n _ _ | .check out n _ _ | .returned out n _ => out.take n
  | _ => []

/-! The record of a run: the packets in the order in which they were appended, and the
calls of `Read` that took bytes, in the order in which they did. -/

def appends : Stage → List Bytes
  | .append pkt => [pkt]
  | _ => []

def takes (thread : Nat) : Stage → List Nat
  | .advance _ n _ => if n = 0 then [] else [thread]
  | _ => []

structure Logged where
  world : World StreamState Stage
  packets : List Bytes
  readers : List Nat

def logStep (state : Logged) (move : Nat × Int) : Option Logged :=
  (program move.1 state.world.shared (state.world.locals move.1) move.2).map fun (shared, now) =>
    { world := state.world.set move.1 shared now,
      packets := state.packets ++ appends (state.world.locals move.1),
      readers := state.readers ++ takes move.1 (state.world.locals move.1) }

/-! What one step does to the buffer and to the bytes a call reports. -/

def bufferAfter (buffer : Bytes) : Stage → Bytes
  | .append pkt => buffer ++ pkt
  | .advance _ n _ => buffer.drop n
  | _ => buffer

def reportAfter : Stage → Bytes
  | .advance out n _ => out.take n
  | stage => report stage

section Step

variable {thread : Nat} {stream next : StreamState} {stage after : Stage} {now : Int}

theorem lock_eq_some {target : Stage} (locked : stream.lock target = some (next, after)) :
    stream.locked = false ∧ next = { stream with locked := true } ∧ after = target := by
  unfold StreamState.lock at locked
  split at locked
  · simp at locked
  · rename_i free
    simp only [Option.some.injEq, Prod.mk.injEq] at locked
    exact ⟨eq_false_of_ne_true free, locked.1.symm, locked.2.symm⟩

theorem afterCheck_cases (out : Bytes) (n : Nat) (isClosed : Bool) (readDeadline : Option Int) (now : Int) :
    (∃ error, afterCheck out n isClosed readDeadline now = .returned out n error) ∨
      n = 0 ∧ afterCheck out n isClosed readDeadline now = .wait out := by
  unfold afterCheck
  split
  · exact Or.inl ⟨_, rfl⟩
  · split
    · exact Or.inl ⟨_, rfl⟩
    · split
      · exact Or.inl ⟨_, rfl⟩
      · rename_i none
        exact Or.inr ⟨not_not.mp none, rfl⟩

theorem report_afterCheck (out : Bytes) (n : Nat) (isClosed : Bool) (readDeadline : Option Int) (now : Int) :
    report (afterCheck out n isClosed readDeadline now) = out.take n := by
  rcases afterCheck_cases out n isClosed readDeadline now with ⟨error, returns⟩ | ⟨zero, waits⟩
  · rw [returns]
    rfl
  · rw [waits, zero, List.take_zero]
    rfl

/-- A step changes the buffer in the critical sections of `handleBytes` and `Read` only. -/
theorem buffer_eq (made : program thread stream stage now = some (next, after)) :
    next.buffer = bufferAfter stream.buffer stage := by
  cases stage with
  | appendLock | readLock | closeLock | deadlineLock =>
      obtain ⟨-, rfl, -⟩ := lock_eq_some made
      rfl
  | returned | finished => simp [program] at made
  | _ =>
      cases made
      rfl

theorem report_eq (made : program thread stream stage now = some (next, after)) :
    report after = reportAfter stage := by
  cases stage with
  | appendLock | readLock | closeLock | deadlineLock =>
      obtain ⟨-, -, rfl⟩ := lock_eq_some made
      rfl
  | returned | finished => simp [program] at made
  | check out n isClosed readDeadline =>
      cases made
      exact report_afterCheck out n isClosed readDeadline now
  | closeSwap =>
      cases made
      split
      · rfl
      · rfl
  | _ =>
      cases made
      rfl

theorem program_guarded : Guarded program StreamState.locked inside where
  enters := by
    intro thread shared stage choice next now made outside within
    cases stage with
    | appendLock | readLock | closeLock | deadlineLock =>
        obtain ⟨free, rfl, -⟩ := lock_eq_some made
        exact ⟨free, rfl⟩
    | check out n isClosed readDeadline =>
        cases made
        rcases afterCheck_cases out n isClosed readDeadline choice with ⟨error, returns⟩ | ⟨_, waits⟩
        · simp [returns, inside] at within
        · simp [waits, inside] at within
    | closeSwap =>
        cases made
        split at within
        · simp [inside] at within
        · simp [inside] at within
    | returned | finished => simp [program] at made
    | notify | wait =>
        cases made
        simp [inside] at within
    | _ => simp [inside] at outside
  remains := by
    intro thread shared stage choice next now made same
    cases stage with
    | appendLock | readLock | closeLock | deadlineLock =>
        obtain ⟨-, -, rfl⟩ := lock_eq_some made
        simp [inside] at same
    | appendUnlock | readUnlock | unlock =>
        cases made
        simp [inside] at same
    | returned | finished => simp [program] at made
    | _ =>
        cases made
        rfl

end Step

/-! Where a `Read` stands between copying and moving the buffer forward, its copy is
still the front of the buffer. -/

def Stands (buffer : Bytes) : Stage → Prop
  | .advance out n _ => n ≤ out.length ∧ n ≤ buffer.length ∧ out.take n = buffer.take n
  | .readUnlock out n _ _ | .check out n _ _ | .returned out n _ => n ≤ out.length
  | _ => True

theorem copy_stands (out buffer : Bytes) (isClosed : Bool) :
    Stands buffer (.advance (buffer.take (min out.length buffer.length) ++ out.drop (min out.length buffer.length))
      (min out.length buffer.length) isClosed) := by
  refine ⟨by simp, by omega, ?_⟩
  rw [List.take_append_of_le_length (by simp), List.take_take, Nat.min_self]

theorem program_stands {thread : Nat} {stream next : StreamState} {stage after : Stage} {now : Int}
    (made : program thread stream stage now = some (next, after)) (stands : Stands stream.buffer stage) :
    Stands next.buffer after := by
  cases stage with
  | appendLock | readLock | closeLock | deadlineLock =>
      obtain ⟨-, -, rfl⟩ := lock_eq_some made
      trivial
  | copy out =>
      cases made
      exact copy_stands out stream.buffer stream.isClosed
  | advance out n isClosed =>
      cases made
      exact stands.1
  | check out n isClosed readDeadline =>
      cases made
      rcases afterCheck_cases out n isClosed readDeadline now with ⟨error, returns⟩ | ⟨_, waits⟩
      · rw [returns]
        exact stands
      · rw [waits]
        trivial
  | closeSwap =>
      cases made
      split
      · trivial
      · trivial
  | readUnlock =>
      cases made
      exact stands
  | returned | finished => simp [program] at made
  | _ =>
      cases made
      trivial

theorem stands_of_outside {buffer : Bytes} {stage : Stage} (stands : Stands buffer stage)
    (outside : inside stage = false) (other : Bytes) : Stands other stage := by
  cases stage with
  | advance => simp [inside] at outside
  | _ => exact stands

theorem bufferAfter_of_outside {stage : Stage} (outside : inside stage = false) (buffer : Bytes) :
    bufferAfter buffer stage = buffer := by
  cases stage with
  | append | advance => simp [inside] at outside
  | _ => rfl

/-! Whole runs. -/

structure Inv (state : Logged) : Prop where
  exclusive : Exclusive StreamState.locked inside state.world
  stands : Everywhere (fun stream _ stage => Stands stream.buffer stage) state.world
  once : state.readers.Nodup
  readers : ∀ thread, thread ∈ state.readers ↔ report (state.world.locals thread) ≠ []
  flow : (state.readers.flatMap fun thread => report (state.world.locals thread)) ++ state.world.shared.buffer =
    state.packets.flatten

section Run

variable {thread : Nat} {stage : Stage}

theorem reportAfter_of_takes_nil (idle : takes thread stage = []) : reportAfter stage = report stage := by
  cases stage with
  | advance out n isClosed =>
      have zero : n = 0 := by simpa [takes] using idle
      rw [zero]
      rfl
  | _ => rfl

theorem bufferAfter_of_takes_nil (idle : takes thread stage = []) (buffer : Bytes) :
    bufferAfter buffer stage = buffer ++ (appends stage).flatten := by
  cases stage with
  | append pkt => simp [bufferAfter, appends]
  | advance out n isClosed =>
      have zero : n = 0 := by simpa [takes] using idle
      simp [bufferAfter, appends, zero]
  | _ => simp [bufferAfter, appends]

theorem takes_ne_nil (busy : takes thread stage ≠ []) :
    ∃ out n isClosed, stage = .advance out n isClosed ∧ n ≠ 0 ∧ takes thread stage = [thread] := by
  cases stage with
  | advance out n isClosed =>
      have taken : n ≠ 0 := fun zero => busy (by simp [takes, zero])
      exact ⟨out, n, isClosed, rfl, taken, by simp [takes, taken]⟩
  | _ => exact absurd rfl busy

theorem report_set {world : World StreamState Stage} {shared : StreamState} {after : Stage} {now : Int}
    (made : program thread world.shared (world.locals thread) now = some (shared, after)) (other : Nat) :
    report ((world.set thread shared after).locals other) =
      if other = thread then reportAfter (world.locals thread) else report (world.locals other) := by
  rw [World.read_set report, report_eq made]

section Moved

variable {before : Logged} {shared : StreamState} {now : Stage} {clock : Int}

theorem Inv.stands_set (inv : Inv before)
    (made : program thread before.world.shared (before.world.locals thread) clock = some (shared, now)) :
    Everywhere (fun stream _ stage => Stands stream.buffer stage) (before.world.set thread shared now) := by
  refine Everywhere.set (program_stands made (inv.stands thread)) fun other different => ?_
  cases within : inside (before.world.locals thread) with
  | false =>
      rw [buffer_eq made, bufferAfter_of_outside within]
      exact inv.stands other
  | true =>
      have outside : inside (before.world.locals other) = false :=
        eq_false_of_ne_true fun busy => different (inv.exclusive.alone other thread busy within)
      exact stands_of_outside (inv.stands other) outside _

/-- A step that takes no bytes: the reports stay, and a packet goes to both sides. -/
theorem Inv.pass (inv : Inv before)
    (made : program thread before.world.shared (before.world.locals thread) clock = some (shared, now))
    (idle : takes thread (before.world.locals thread) = []) :
    Inv ⟨before.world.set thread shared now, before.packets ++ appends (before.world.locals thread),
      before.readers⟩ := by
  have same : ∀ other, report ((before.world.set thread shared now).locals other) =
      report (before.world.locals other) :=
    World.read_set_of_eq ((report_eq made).trans (reportAfter_of_takes_nil idle))
  refine ⟨program_guarded.exclusive (.move made) inv.exclusive, inv.stands_set made, inv.once, ?_, ?_⟩
  · intro other
    rw [same]
    exact inv.readers other
  · simp only [same, World.set_shared, buffer_eq made, bufferAfter_of_takes_nil idle,
      List.flatten_append, ← inv.flow, List.append_assoc]

/-- A step that takes bytes: they go from the front of the buffer to the last report. -/
theorem Inv.take (inv : Inv before) {out : Bytes} {n : Nat} {isClosed : Bool}
    (made : program thread before.world.shared (before.world.locals thread) clock = some (shared, now))
    (stage : before.world.locals thread = .advance out n isClosed) (taken : n ≠ 0) :
    Inv ⟨before.world.set thread shared now, before.packets, before.readers ++ [thread]⟩ := by
  have front : Stands before.world.shared.buffer (.advance out n isClosed) := stage ▸ inv.stands thread
  have new : thread ∉ before.readers := by
    rw [inv.readers, stage]
    exact fun reported => reported rfl
  have own : report ((before.world.set thread shared now).locals thread) =
      before.world.shared.buffer.take n := by
    rw [report_set made, if_pos rfl, stage]
    exact front.2.2
  have others : ∀ other, other ≠ thread → report ((before.world.set thread shared now).locals other) =
      report (before.world.locals other) := by
    intro other different
    rw [report_set made, if_neg different]
  have nonempty : before.world.shared.buffer.take n ≠ [] := by
    intro empty
    have length := congrArg List.length empty
    have bound := front.2.1
    simp only [List.length_take, List.length_nil] at length
    omega
  refine ⟨program_guarded.exclusive (.move made) inv.exclusive, inv.stands_set made, ?_, ?_, ?_⟩
  · exact inv.once.append (List.nodup_singleton thread) (List.disjoint_singleton.mpr new)
  · intro other
    rw [List.mem_append, List.mem_singleton]
    by_cases same : other = thread
    · subst same
      exact ⟨fun _ => own ▸ nonempty, fun _ => Or.inr rfl⟩
    · rw [others other same, or_iff_left same]
      exact inv.readers other
  · have earlier : (before.readers.flatMap fun other =>
        report ((before.world.set thread shared now).locals other)) =
        before.readers.flatMap fun other => report (before.world.locals other) :=
      List.flatMap_congr fun other member => others other fun same => new (same ▸ member)
    rw [List.flatMap_append, earlier, List.flatMap_singleton, own, World.set_shared, buffer_eq made, stage]
    simp only [bufferAfter, List.append_assoc, List.take_append_drop]
    exact inv.flow

end Moved

theorem Inv.step {before after : Logged} {move : Nat × Int} (inv : Inv before)
    (stepped : logStep before move = some after) : Inv after := by
  obtain ⟨⟨shared, now⟩, made, rfl⟩ := Option.map_eq_some_iff.mp stepped
  obtain ⟨thread, clock⟩ := move
  by_cases idle : takes thread (before.world.locals thread) = []
  · simp only [idle, List.append_nil]
    exact inv.pass made idle
  · obtain ⟨out, n, isClosed, stage, taken, takes_eq⟩ := takes_ne_nil idle
    have silent : appends (before.world.locals thread) = [] := by rw [stage]; rfl
    simp only [takes_eq, silent, List.append_nil]
    exact inv.take made stage taken

end Run

def Begins : Stage → Prop
  | .appendLock _ | .readLock _ | .closeSwap | .deadlineLock _ | .finished => True
  | _ => False

def Fresh (world : World StreamState Stage) : Prop :=
  world.shared.locked = false ∧ world.shared.buffer = [] ∧ ∀ thread, Begins (world.locals thread)

theorem inv_fresh {world : World StreamState Stage} (fresh : Fresh world) : Inv ⟨world, [], []⟩ := by
  obtain ⟨free, empty, begins⟩ := fresh
  have outside : ∀ thread, inside (world.locals thread) = false := by
    intro thread
    have begun := begins thread
    cases stage : world.locals thread with
    | appendLock | readLock | closeSwap | deadlineLock | finished => rfl
    | _ => simp [stage, Begins] at begun
  have silent : ∀ thread, report (world.locals thread) = [] := by
    intro thread
    have begun := begins thread
    cases stage : world.locals thread with
    | readUnlock | check | returned => simp [stage, Begins] at begun
    | _ => rfl
  refine ⟨⟨fun thread within => ?_, fun thread _ within => ?_⟩, fun thread => ?_, List.nodup_nil, ?_, ?_⟩
  · simp [outside] at within
  · simp [outside] at within
  · have begun := begins thread
    cases stage : world.locals thread with
    | advance | readUnlock | check | returned => simp [stage, Begins] at begun
    | _ => trivial
  · simp [silent]
  · simp [empty]

/-- In every interleaving, the bytes that the calls of `Read` report, in the order in
which they took them, and then the buffer are the packets in the order in which they
were appended. What a `Read` returns lies in its own buffer, with an error or without. -/
theorem reads_in_order {start : World StreamState Stage} {moves : List (Nat × Int)} {last : Logged}
    (fresh : Fresh start)
    (run : Run (fun before move after => logStep before move = some after) ⟨start, [], []⟩ moves last) :
    last.readers.Nodup ∧
    (∀ thread, thread ∈ last.readers ↔ report (last.world.locals thread) ≠ []) ∧
    (last.readers.flatMap fun thread => report (last.world.locals thread)) ++ last.world.shared.buffer =
      last.packets.flatten ∧
    ∀ thread out n error, last.world.locals thread = .returned out n error →
      n ≤ out.length ∧ report (last.world.locals thread) = out.take n := by
  have inv : Inv last :=
    run.invariant Inv (fun _ _ _ stepped inv => inv.step stepped) (inv_fresh fresh)
  refine ⟨inv.once, inv.readers, inv.flow, fun thread out n error returned => ?_⟩
  have stands := inv.stands thread
  rw [returned] at stands ⊢
  exact ⟨stands, rfl⟩

/-! A packet of three bytes, a `Read` of two, and a `Read` that finds the stream closed. -/

def threeBytes : World StreamState Stage :=
  ⟨{ locked := false, buffer := [], isClosed := false, readDeadline := none, closed := false },
    fun | 0 => .appendLock [1, 2, 3] | 1 => .readLock [0, 0] | 2 => .closeSwap | 3 => .readLock [0, 0, 0]
        | _ => .finished⟩

def closedInBetween : List (Nat × Int) :=
  [0, 0, 0, 1, 1, 1, 1, 1, 2, 2, 2, 2, 3, 3, 3, 3, 3].map fun thread => (thread, 0)

theorem threeBytes_fresh : Fresh threeBytes :=
  ⟨rfl, rfl, fun | 0 | 1 | 2 | 3 | _ + 4 => trivial⟩

theorem reads_in_order_closed :
    ∃ last, Fresh threeBytes ∧
      Run (fun before move after => logStep before move = some after) ⟨threeBytes, [], []⟩ closedInBetween last ∧
      last.world.locals 1 = .returned [1, 2] 2 none ∧
      last.world.locals 3 = .returned [3, 0, 0] 1 (some errClosed) ∧
      (last.readers.flatMap fun thread => report (last.world.locals thread)) ++ last.world.shared.buffer =
        last.packets.flatten := by
  obtain ⟨last, followed, first, second⟩ : ∃ last,
      follow logStep closedInBetween ⟨threeBytes, [], []⟩ = some last ∧
      last.world.locals 1 = .returned [1, 2] 2 none ∧
      last.world.locals 3 = .returned [3, 0, 0] 1 (some errClosed) := ⟨_, rfl, rfl, rfl⟩
  have run : Run (fun before move after => logStep before move = some after) ⟨threeBytes, [], []⟩
      closedInBetween last := Run.of_follow (fun _ _ _ stepped => stepped) followed
  exact ⟨last, threeBytes_fresh, run, first, second, (reads_in_order threeBytes_fresh run).2.2.1⟩

end Carrier.ByteStream
