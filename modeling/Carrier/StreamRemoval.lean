import Carrier.StreamClosing

/-! Removals that wait. A goroutine that has tested for its stream relies on it until it
holds the mutex of the stream and has found it for the deferred unlock. As long as no
removal comes in between, the stream it locks is the one it unlocks and the one it
counts its frame for. -/
namespace Carrier.StreamRemoval

open Threads TransitionSystem StreamClosing

/-- The goroutine has still to find the streams of its connection: it has tested for
its stream, or is about to test it in a map that holds it. -/
def Relies (shared : Shared) (item : Item) : Stage → Prop
  | .looking .check (some multi) => shared.stream multi item.streamID ≠ none
  | stage => Tested stage

def Spares (own : String) (world : World Shared Code) : Nat × Bool → Prop
  | (thread, choice) =>
      match world.locals thread with
      | .closeStream streamID (.found _ _) =>
          ∀ other item stage, world.locals other = .goroutine item stage → item.streamID = streamID →
            ¬ Tested stage
      | .removeEntries (key :: _) => choice = true → key = own →
          ∀ other item stage, world.locals other = .goroutine item stage → ¬ Relies world.shared item stage
      | _ => True

def Sound (own : String) (world : World Shared Code) : Prop :=
  ∀ thread item stage, world.locals thread = .goroutine item stage → stage ≠ .crashed ∧
    (Relies world.shared item stage → world.shared.present own item.streamID = true)

def Refers (multi stream : Nat) : Stage → Prop
  | .looking .lock read => ∀ other ∈ read, other = multi
  | .locking read => read = stream
  | .looking (.unlock held present) read => held = stream ∧ present = true ∧ ∀ other ∈ read, other = multi
  | .looking (.send deferred present) read =>
      deferred = stream ∧ present = true ∧ ∀ other ∈ read, other = multi
  | .writing deferred present found => deferred = stream ∧ present = true ∧ found = true
  | _ => True

def Holds : Stage → Prop
  | .looking (.unlock _ _) _ => True
  | .looking (.send _ _) _ => True
  | .writing _ _ _ => True
  | _ => False

structure Using (first : Shared) (own : String) (shared : Shared) (thread : Nat) (item : Item) (stage : Stage)
    (multi stream : Nat) : Prop where
  first_multi : first.streams own = some multi
  first_stream : first.stream multi item.streamID = some stream
  kept : shared.stream multi item.streamID = some stream
  reached : Tested stage → shared.streams own = some multi
  refers : Refers multi stream stage
  holds : Holds stage → shared.streamMutex stream = some thread

/-- A goroutine about to test its stream in a map reaches the map through its
connection, unless the stream is gone. -/
structure GoroutineInv (first : Shared) (own : String) (shared : Shared) (thread : Nat) (item : Item)
    (stage : Stage) : Prop where
  alive : stage ≠ .crashed
  read : ∀ multi, stage = .looking .check (some multi) → first.streams own = some multi ∧
    (shared.stream multi item.streamID ≠ none → shared.streams own = some multi)
  uses : Tested stage ∨ Holds stage → ∃ multi stream, Using first own shared thread item stage multi stream

def CloseInv (first : Shared) (own streamID : String) : CloseStage → Prop
  | .loaded multi => first.streams own = some multi
  | .found multi stream => first.streams own = some multi ∧ first.stream multi streamID = some stream
  | _ => True

def Inv (first : Shared) (own : String) (shared : Shared) (thread : Nat) : Code → Prop
  | .goroutine item stage => item.peerID = own ∧ GoroutineInv first own shared thread item stage
  | .closeStream streamID stage => CloseInv first own streamID stage
  | _ => True

/-- What a goroutine can do to the shared state: the maps stay, nobody else loses a
mutex, and a frame of its own may be added. -/
structure Quiet (thread : Nat) (shared next : Shared) : Prop where
  streams : next.streams = shared.streams
  stream : next.stream = shared.stream
  mutex : ∀ stream other, other ≠ thread → shared.streamMutex stream = some other →
    next.streamMutex stream = some other
  frames : next.frames = shared.frames ∨ next.frames = shared.frames ++ [(thread, true)]

theorem Quiet.refl (thread : Nat) (shared : Shared) : Quiet thread shared shared :=
  ⟨rfl, rfl, fun _ _ _ held => held, Or.inl rfl⟩

theorem leave_quiet (thread : Nat) (shared : Shared) (item : Item) :
    Quiet thread shared (shared.leave item).1 :=
  ⟨rfl, rfl, fun _ _ _ held => held, Or.inl rfl⟩

theorem finish_held {thread : Nat} {shared : Shared} (item : Item) {stream : Nat}
    (held : shared.streamMutex stream = some thread) :
    ∃ next, shared.finish item stream = (next, .done) ∧ Quiet thread shared next ∧
      next.frames = shared.frames := by
  have ended : shared.finish item stream = Shared.leave
      { shared with streamMutex := Function.update shared.streamMutex stream none } item := by
    simp only [Shared.finish, held]
  refine ⟨_, ended, ⟨rfl, rfl, ?_, Or.inl rfl⟩, rfl⟩
  intro other owner different locked
  have apart : other ≠ stream := by
    intro same
    rw [same, held] at locked
    exact different (Option.some.inj locked).symm
  simpa [Shared.leave, apart] using locked

section Goroutine

variable {first shared next : Shared} {own : String} {thread : Nat} {item : Item} {fails : Bool}
  {multi stream : Nat} {stage now : Stage}

theorem done_inv : GoroutineInv first own shared thread item .done :=
  ⟨by simp, by simp, by simp [Tested, Holds]⟩

theorem Using.inv (uses : Using first own shared thread item stage multi stream)
    (passed : Tested stage ∨ Holds stage) : GoroutineInv first own shared thread item stage := by
  refine ⟨?_, ?_, fun _ => ⟨multi, stream, uses⟩⟩
  · rintro rfl
    simp [Tested, Holds] at passed
  · rintro other rfl
    simp [Tested, Holds] at passed

theorem check_step {read : Option Nat} (shrunk : Shrunk first shared)
    (inv : GoroutineInv first own shared thread item (.looking .check read))
    (stepped : runGoroutine own thread shared item fails (.looking .check read) = some (next, now)) :
    GoroutineInv first own next thread item now ∧ Quiet thread shared next := by
  cases looking_step stepped with
  | unencoded use => cases use
  | loaded entry =>
      refine ⟨⟨by simp, ?_, by simp [Tested, Holds]⟩, Quiet.refl thread shared⟩
      intro other same
      cases same
      exact ⟨shrunk.streams own _ entry, fun _ => entry⟩
  | disconnected _ left =>
      cases left
      exact ⟨done_inv, leave_quiet thread shared item⟩
  | found entry =>
      obtain ⟨known, reached⟩ := inv.read _ rfl
      have uses : Using first own shared thread item (.looking .lock none) _ _ :=
        { first_multi := known
          first_stream := shrunk.stream _ _ _ entry
          kept := entry
          reached := fun _ => reached (by simp [entry])
          refers := by simp [Refers]
          holds := False.elim }
      exact ⟨uses.inv (Or.inl trivial), Quiet.refl thread shared⟩
  | missing _ left =>
      cases left
      exact ⟨done_inv, leave_quiet thread shared item⟩

theorem lock_step {read : Option Nat}
    (uses : Using first own shared thread item (.looking .lock read) multi stream)
    (stepped : runGoroutine own thread shared item fails (.looking .lock read) = some (next, now)) :
    GoroutineInv first own next thread item now ∧ Quiet thread shared next := by
  have entry := uses.reached trivial
  cases looking_step stepped with
  | unencoded use => cases use
  | @loaded read loaded =>
      obtain rfl : read = multi := Option.some.inj (loaded.symm.trans entry)
      have later : Using first own shared thread item (.looking .lock (some read)) read stream :=
        { uses with refers := by simp [Refers] }
      exact ⟨later.inv (Or.inl trivial), Quiet.refl thread shared⟩
  | disconnected absent => cases absent.symm.trans entry
  | found present =>
      obtain rfl := uses.refers _ rfl
      obtain rfl := Option.some.inj (present.symm.trans uses.kept)
      have later : Using first own shared thread item (.locking _) _ _ :=
        { uses with refers := rfl, holds := False.elim }
      exact ⟨later.inv (Or.inl trivial), Quiet.refl thread shared⟩
  | missing absent =>
      obtain rfl := uses.refers _ rfl
      cases absent.symm.trans uses.kept

theorem locking_step {read : Nat}
    (uses : Using first own shared thread item (.locking read) multi stream)
    (stepped : runGoroutine own thread shared item fails (.locking read) = some (next, now)) :
    GoroutineInv first own next thread item now ∧ Quiet thread shared next := by
  obtain rfl : read = stream := uses.refers
  have entry := uses.reached trivial
  have present : shared.present own item.streamID = true :=
    (shared.present_iff own item.streamID).mpr ⟨multi, read, entry, uses.kept⟩
  simp only [runGoroutine] at stepped
  split at stepped
  · rename_i free
    rw [present] at stepped
    obtain ⟨rfl, rfl⟩ := Prod.mk.inj (Option.some.inj stepped)
    have later : Using first own
        { shared with streamMutex := Function.update shared.streamMutex read (some thread) } thread item
        (.looking (.unlock read true) none) multi read :=
      { uses with
        reached := fun _ => entry
        refers := ⟨rfl, rfl, by simp⟩
        holds := fun _ => by simp }
    refine ⟨later.inv (Or.inl trivial), ⟨rfl, rfl, ?_, Or.inl rfl⟩⟩
    intro other owner _ locked
    have apart : other ≠ read := by
      intro same
      rw [same, free] at locked
      simp at locked
    simpa [apart] using locked
  · simp at stepped

theorem Using.held_inv (uses : Using first own shared thread item stage multi stream) (holds : Holds stage)
    (untested : ¬ Tested now) (later : Holds now) (refers : Refers multi stream now) :
    GoroutineInv first own shared thread item now := by
  have going : Using first own shared thread item now multi stream :=
    { uses with
      reached := fun tested => absurd tested untested
      refers := refers
      holds := fun _ => uses.holds holds }
  exact going.inv (Or.inr later)

/-- The mutex keeps the stream in its map, so that it is found for the deferred unlock. -/
theorem unlock_step {read : Option Nat} {held : Nat} {present : Bool}
    (uses : Using first own shared thread item (.looking (.unlock held present) read) multi stream)
    (stepped : runGoroutine own thread shared item fails (.looking (.unlock held present) read) =
      some (next, now)) :
    GoroutineInv first own next thread item now ∧ Quiet thread shared next := by
  obtain ⟨rfl, rfl, refers⟩ := uses.refers
  cases looking_step stepped with
  | unencoded use => cases use
  | loaded loaded =>
      obtain rfl := Option.some.inj (loaded.symm.trans (uses.reached trivial))
      exact ⟨uses.held_inv trivial id trivial ⟨rfl, rfl, by simp⟩, Quiet.refl thread shared⟩
  | disconnected absent => cases absent.symm.trans (uses.reached trivial)
  | found present =>
      obtain rfl := refers _ rfl
      obtain rfl := Option.some.inj (present.symm.trans uses.kept)
      exact ⟨uses.held_inv trivial id trivial ⟨rfl, rfl, by simp⟩, Quiet.refl thread shared⟩
  | missing absent =>
      obtain rfl := refers _ rfl
      cases absent.symm.trans uses.kept

theorem send_step {read : Option Nat} {deferred : Nat} {present : Bool} (shrunk : Shrunk first shared)
    (addressed : item.peerID = own)
    (uses : Using first own shared thread item (.looking (.send deferred present) read) multi stream)
    (stepped : runGoroutine own thread shared item fails (.looking (.send deferred present) read) =
      some (next, now)) :
    GoroutineInv first own next thread item now ∧ Quiet thread shared next := by
  obtain ⟨rfl, rfl, refers⟩ := uses.refers
  obtain ⟨last, ended, quiet, _⟩ := finish_held item (uses.holds trivial)
  cases looking_step stepped with
  | unencoded use left =>
      cases use
      cases ended.symm.trans left
      exact ⟨done_inv, quiet⟩
  | @loaded read loaded =>
      have entry : shared.streams item.peerID = some read := loaded
      rw [addressed] at entry
      have known := shrunk.streams own read entry
      obtain rfl : read = multi := Option.some.inj (known.symm.trans uses.first_multi)
      exact ⟨uses.held_inv trivial id trivial ⟨rfl, rfl, by simp⟩, Quiet.refl thread shared⟩
  | disconnected _ left =>
      cases ended.symm.trans left
      exact ⟨done_inv, quiet⟩
  | found =>
      exact ⟨uses.held_inv trivial id trivial ⟨rfl, rfl, rfl⟩, Quiet.refl thread shared⟩
  | missing absent =>
      obtain rfl := refers _ rfl
      cases absent.symm.trans uses.kept

theorem writing_step {deferred : Nat} {present found : Bool}
    (uses : Using first own shared thread item (.writing deferred present found) multi stream)
    (stepped : runGoroutine own thread shared item fails (.writing deferred present found) = some (next, now)) :
    GoroutineInv first own next thread item now ∧ Quiet thread shared next := by
  obtain ⟨rfl, rfl, rfl⟩ := uses.refers
  have mutex := uses.holds trivial
  simp only [runGoroutine, if_true] at stepped
  split at stepped
  · obtain ⟨last, ended, quiet, _⟩ := finish_held item mutex
    rw [ended] at stepped
    obtain ⟨rfl, rfl⟩ := Prod.mk.inj (Option.some.inj stepped)
    exact ⟨done_inv, quiet⟩
  · have mutexWritten : { shared with frames := shared.frames ++ [(thread, true)] }.streamMutex deferred =
        some thread := mutex
    obtain ⟨last, ended, quiet, frames⟩ := finish_held item mutexWritten
    rw [ended] at stepped
    obtain ⟨rfl, rfl⟩ := Prod.mk.inj (Option.some.inj stepped)
    exact ⟨done_inv, ⟨quiet.streams, quiet.stream, quiet.mutex, Or.inr frames⟩⟩

theorem runGoroutine_step (shrunk : Shrunk first shared) (addressed : item.peerID = own)
    (inv : GoroutineInv first own shared thread item stage)
    (stepped : runGoroutine own thread shared item fails stage = some (next, now)) :
    GoroutineInv first own next thread item now ∧ Quiet thread shared next := by
  cases stage with
  | start =>
      simp only [runGoroutine] at stepped
      split at stepped
      · cases stepped
        exact ⟨⟨by simp, by simp, by simp [Tested, Holds]⟩, ⟨rfl, rfl, fun _ _ _ held => held, Or.inl rfl⟩⟩
      · simp at stepped
  | looking use read =>
      cases use with
      | check => exact check_step shrunk inv stepped
      | lock =>
          obtain ⟨multi, stream, uses⟩ := inv.uses (Or.inl trivial)
          exact lock_step uses stepped
      | unlock held present =>
          obtain ⟨multi, stream, uses⟩ := inv.uses (Or.inr trivial)
          exact unlock_step uses stepped
      | send deferred present =>
          obtain ⟨multi, stream, uses⟩ := inv.uses (Or.inr trivial)
          exact send_step shrunk addressed uses stepped
  | locking read =>
      obtain ⟨multi, stream, uses⟩ := inv.uses (Or.inl trivial)
      exact locking_step uses stepped
  | writing deferred present found =>
      obtain ⟨multi, stream, uses⟩ := inv.uses (Or.inr trivial)
      exact writing_step uses stepped
  | done => simp [runGoroutine] at stepped
  | crashed => exact absurd rfl inv.alive

end Goroutine

/-! What the other threads keep. -/

section Others

variable {first shared next : Shared} {own : String} {thread other : Nat}

theorem Using.quiet {item : Item} {stage : Stage} {multi stream : Nat}
    (uses : Using first own shared other item stage multi stream) (quiet : Quiet thread shared next)
    (different : other ≠ thread) : Using first own next other item stage multi stream :=
  { uses with
    kept := quiet.stream ▸ uses.kept
    reached := fun tested => quiet.streams ▸ uses.reached tested
    holds := fun holds => quiet.mutex stream other different (uses.holds holds) }

theorem inv_of_goroutine {code : Code} (inv : Inv first own shared other code)
    (kept : ∀ item stage, code = .goroutine item stage → GoroutineInv first own shared other item stage →
      GoroutineInv first own next other item stage) : Inv first own next other code := by
  cases code with
  | idle => trivial
  | removeEntries keys => trivial
  | closeStream streamID stage => exact inv
  | goroutine item stage => exact ⟨inv.1, kept item stage rfl inv.2⟩

theorem inv_quiet {code : Code} (inv : Inv first own shared other code) (quiet : Quiet thread shared next)
    (different : other ≠ thread) : Inv first own next other code := by
  apply inv_of_goroutine inv
  intro item stage _ inv
  refine ⟨inv.alive, ?_, ?_⟩
  · intro multi same
    rw [quiet.streams, quiet.stream]
    exact inv.read multi same
  · intro passed
    obtain ⟨multi, stream, uses⟩ := inv.uses passed
    exact ⟨multi, stream, uses.quiet quiet different⟩

/-- `CloseStream` waits for the goroutines that hold the mutex, and the others have
not tested the stream yet. -/
theorem inv_deleted {code : Code} {streamID : String} {multi stream : Nat}
    (inv : Inv first own shared other code) (entry : first.streams own = some multi)
    (named : first.stream multi streamID = some stream) (free : shared.streamMutex stream = none)
    (spared : ∀ item stage, code = .goroutine item stage → item.streamID = streamID → ¬ Tested stage) :
    Inv first own (shared.deleteStream multi streamID) other code := by
  apply inv_of_goroutine inv
  intro item stage running inv
  refine ⟨inv.alive, ?_, ?_⟩
  · intro read same
    obtain ⟨known, reached⟩ := inv.read read same
    refine ⟨known, fun present => reached fun absent => present ?_⟩
    rw [Shared.deleteStream_stream]
    split
    · rfl
    · exact absent
  · intro passed
    obtain ⟨read, found, uses⟩ := inv.uses passed
    obtain rfl : read = multi := Option.some.inj (uses.first_multi.symm.trans entry)
    by_cases same : item.streamID = streamID
    -- the stream is the goroutine's own: it has neither tested it nor does it hold its mutex
    · exfalso
      subst same
      obtain rfl : found = stream := Option.some.inj (uses.first_stream.symm.trans named)
      rcases passed with tested | holds
      · exact spared item stage running rfl tested
      · simp [uses.holds holds] at free
    · refine ⟨read, found, { uses with kept := ?_ }⟩
      rw [Shared.deleteStream_stream, if_neg fun both => same both.2]
      exact uses.kept

theorem relies_of_tested {item : Item} {stage : Stage} (tested : Tested stage) : Relies shared item stage := by
  unfold Relies
  split
  · exact tested.elim
  · exact tested

theorem inv_removed {code : Code} {key : String} (inv : Inv first own shared other code)
    (spared : key = own → ∀ item stage, code = .goroutine item stage → ¬ Relies shared item stage) :
    Inv first own (shared.deleteStreams key) other code := by
  apply inv_of_goroutine inv
  intro item stage running inv
  by_cases mine : key = own
  · have unused := spared mine item stage running
    refine ⟨inv.alive, ?_, ?_⟩
    · rintro read rfl
      exact ⟨(inv.read read rfl).1, fun present => absurd present unused⟩
    · intro passed
      obtain ⟨read, found, uses⟩ := inv.uses passed
      exact ⟨read, found, { uses with reached := fun tested => absurd (relies_of_tested tested) unused }⟩
  -- a removal under another key leaves the streams of this client in place
  · have unchanged : (shared.deleteStreams key).streams own = shared.streams own := by
      rw [Shared.deleteStreams_streams, if_neg (Ne.symm mine)]
    refine ⟨inv.alive, ?_, ?_⟩
    · intro read same
      rw [unchanged]
      exact inv.read read same
    · intro passed
      obtain ⟨read, found, uses⟩ := inv.uses passed
      exact ⟨read, found, { uses with reached := fun tested => unchanged ▸ uses.reached tested }⟩

end Others

/-! Whole runs. -/

structure WorldInv (first : Shared) (own : String) (world : World Shared Code) : Prop where
  shrunk : Shrunk first world.shared
  everywhere : Everywhere (Inv first own) world
  frames : ∀ entry ∈ world.shared.frames, entry.2 = true

theorem runCloseStream_step {first shared next : Shared} {own streamID : String} {stage now : CloseStage}
    (shrunk : Shrunk first shared) (inv : CloseInv first own streamID stage)
    (stepped : runCloseStream own streamID shared stage = some (next, now)) :
    CloseInv first own streamID now ∧ (next = shared ∧ (∀ multi stream, stage ≠ .found multi stream) ∨
      ∃ multi stream, stage = .found multi stream ∧ shared.streamMutex stream = none ∧
        next = shared.deleteStream multi streamID) := by
  cases stage with
  | start =>
      cases stepped
      cases found : shared.streams own with
      | none => exact ⟨trivial, Or.inl ⟨rfl, by simp⟩⟩
      | some multi => exact ⟨shrunk.streams own multi found, Or.inl ⟨rfl, by simp⟩⟩
  | loaded multi =>
      cases stepped
      cases found : shared.stream multi streamID with
      | none => exact ⟨trivial, Or.inl ⟨rfl, by simp⟩⟩
      | some stream => exact ⟨⟨inv, shrunk.stream multi streamID stream found⟩, Or.inl ⟨rfl, by simp⟩⟩
  | found multi stream =>
      simp only [runCloseStream] at stepped
      split at stepped
      · rename_i free
        cases stepped
        exact ⟨trivial, Or.inr ⟨multi, stream, rfl, free, rfl⟩⟩
      · simp at stepped
  | done => simp [runCloseStream] at stepped

theorem WorldInv.step {first : Shared} {own : String} {world next : World Shared Code} {move : Nat × Bool}
    (inv : WorldInv first own world) (step : Steps (program own) world move next)
    (spares : Spares own world move) : WorldInv first own next := by
  cases step with
  | @move thread choice shared now moved =>
      have mine := inv.everywhere thread
      simp only [Spares] at spares
      cases code : world.locals thread with
      | idle => simp [program, code] at moved
      | goroutine item stage =>
          rw [code] at mine moved
          obtain ⟨last, ran, rfl⟩ := goroutine_moved moved
          obtain ⟨kept, quiet⟩ := runGoroutine_step inv.shrunk mine.1 mine.2 ran
          refine ⟨⟨?_, ?_⟩, Everywhere.set ⟨mine.1, kept⟩ ?_, ?_⟩
          · intro key multi found
            exact inv.shrunk.streams key multi (quiet.streams ▸ found)
          · intro multi streamID stream found
            exact inv.shrunk.stream multi streamID stream (quiet.stream ▸ found)
          · intro other different
            exact inv_quiet (inv.everywhere other) quiet different
          · intro entry member
            rcases quiet.frames with same | longer
            · exact inv.frames entry (same ▸ member)
            · rw [World.set_shared, longer] at member
              rcases List.mem_append.mp member with old | new
              · exact inv.frames entry old
              · rw [List.mem_singleton.mp new]
      | closeStream streamID stage =>
          rw [code] at mine moved
          simp only [code] at spares
          obtain ⟨last, ran, rfl⟩ := closeStream_moved moved
          obtain ⟨kept, ⟨rfl, _⟩ | ⟨multi, stream, rfl, free, rfl⟩⟩ := runCloseStream_step inv.shrunk mine ran
          · exact ⟨inv.shrunk, Everywhere.set kept fun other _ => inv.everywhere other, inv.frames⟩
          · refine ⟨inv.shrunk.deleteStream multi streamID, Everywhere.set kept ?_, inv.frames⟩
            intro other _
            exact inv_deleted (inv.everywhere other) mine.1 mine.2 free (spares other)
      | removeEntries keys =>
          rw [code] at moved
          simp only [code] at spares
          cases keys with
          | nil => simp [program] at moved
          | cons key keys =>
              cases moved
              cases choice with
              | false => exact ⟨inv.shrunk, Everywhere.set trivial fun other _ => inv.everywhere other, inv.frames⟩
              | true =>
                  refine ⟨inv.shrunk.deleteStreams key, Everywhere.set trivial ?_, inv.frames⟩
                  intro other _
                  exact inv_removed (inv.everywhere other) fun same => spares rfl same other

theorem GoroutineInv.present {first shared : Shared} {own : String} {thread : Nat} {item : Item} {stage : Stage}
    (inv : GoroutineInv first own shared thread item stage) (relies : Relies shared item stage) :
    shared.present own item.streamID = true := by
  rw [Shared.present_iff]
  unfold Relies at relies
  split at relies
  · rename_i multi
    obtain ⟨stream, found⟩ := Option.ne_none_iff_exists'.mp relies
    exact ⟨multi, stream, (inv.read multi rfl).2 relies, found⟩
  · obtain ⟨multi, stream, uses⟩ := inv.uses (Or.inl relies)
    exact ⟨multi, stream, uses.reached relies, uses.kept⟩

theorem WorldInv.sound {first : Shared} {own : String} {world : World Shared Code}
    (inv : WorldInv first own world) : Sound own world := by
  intro thread item stage code
  have mine := inv.everywhere thread
  rw [code] at mine
  exact ⟨mine.2.alive, mine.2.present⟩

/-- A removal at the wrong moment leaves a goroutine behind that looks for its stream
in vain. -/
theorem WorldInv.spares {first : Shared} {own : String} {world next : World Shared Code} {move : Nat × Bool}
    (inv : WorldInv first own world) (step : Steps (program own) world move next) (sound : Sound own next) :
    Spares own world move := by
  cases step with
  | @move thread choice shared now moved =>
      have mine := inv.everywhere thread
      simp only [Spares]
      split
      · rename_i streamID multi stream code
        rw [code] at mine moved
        have refers : CloseInv first own streamID (.found multi stream) := mine
        obtain ⟨last, ran, rfl⟩ := closeStream_moved moved
        obtain ⟨_, ⟨_, other⟩ | ⟨_, _, same, _, rfl⟩⟩ := runCloseStream_step inv.shrunk refers ran
        · exact absurd rfl (other multi stream)
        · cases same
          intro other item stage running same tested
          have different : other ≠ thread := by
            rintro rfl
            simp [code] at running
          have after := sound other item stage (by rw [World.set_other _ _ _ different, running])
          -- after the deletion the goroutine would still have to find the stream that is gone
          obtain ⟨read, found, entry, present⟩ := (Shared.present_iff _ _ _).mp
            (after.2 (relies_of_tested tested))
          obtain rfl : read = multi :=
            Option.some.inj ((inv.shrunk.streams own read entry).symm.trans mine.1)
          simp [Shared.deleteStream_stream, same] at present
      · rename_i key keys code
        rw [code] at moved
        rintro rfl rfl other item stage running relies
        cases moved
        have different : other ≠ thread := by
          rintro rfl
          simp [code] at running
        have after := sound other item stage (by rw [World.set_other _ _ _ different, running])
        obtain ⟨read, found, entry, _⟩ := (Shared.present_iff _ _ _).mp (after.2 relies)
        simp [Shared.deleteStreams_streams] at entry
      · trivial

def Fresh (own : String) (world : World Shared Code) : Prop :=
  world.shared.frames = [] ∧ ∀ thread,
    match world.locals thread with
    | .idle => True
    | .goroutine item stage => item.peerID = own ∧ stage = .start
    | .closeStream _ stage => stage = .start
    | .removeEntries _ => True

theorem fresh_inv {own : String} {world : World Shared Code} (fresh : Fresh own world) :
    WorldInv world.shared own world := by
  refine ⟨Shrunk.refl _, fun thread => ?_, by simp [fresh.1]⟩
  have begins := fresh.2 thread
  cases code : world.locals thread with
  | idle => trivial
  | removeEntries keys => trivial
  | goroutine item stage =>
      rw [code] at begins
      obtain ⟨addressed, rfl⟩ := begins
      exact ⟨addressed, by simp, by simp, by simp [Tested, Holds]⟩
  | closeStream streamID stage =>
      rw [code] at begins
      obtain rfl : stage = .start := begins
      trivial

/-- As long as streams are removed only when no goroutine is between its test and its
last look-up for the mutex, every goroutine finds what it looks for, and a frame is
written only if its stream was there when the mutex was taken. The next removal keeps
that exactly if it waits, too. A stream that is gone before the test costs the
message, and nothing is written. -/
theorem streams_found_while_spared {own : String} {start world : World Shared Code} {moves : List (Nat × Bool)}
    (fresh : Fresh own start)
    (run : Run (fun world move next => Steps (program own) world move next ∧ Spares own world move)
      start moves world) :
    (∀ thread item, world.locals thread ≠ .goroutine item .crashed) ∧
      (∀ entry ∈ world.shared.frames, entry.2 = true) ∧
      (∀ move next, Steps (program own) world move next → (Sound own next ↔ Spares own world move)) ∧
      ∀ thread item, (world.locals thread = .goroutine item .start ∨
          world.locals thread = .goroutine item (.looking .check none)) →
        world.shared.present own item.streamID = false →
        ∀ later last, Run (Steps (program own)) world later last →
          ∀ present, (thread, present) ∈ last.shared.frames → (thread, present) ∈ world.shared.frames := by
  have inv : WorldInv start.shared own world := run.invariant (WorldInv start.shared own)
    (fun _ _ _ step kept => kept.step step.1 step.2) (fresh_inv fresh)
  refine ⟨fun thread item code => (inv.sound thread item .crashed code).1 rfl, inv.frames,
    fun move next step => ⟨inv.spares step, fun spares => (inv.step step spares).sound⟩, ?_⟩
  intro thread item code missing later last after
  -- before its test a goroutine is dropped, whatever the later run does
  have dropping : Dropping own thread item world.shared.frames world := by
    refine ⟨?_, missing, fun present member => member⟩
    rcases code with start | check
    · exact ⟨_, start, trivial⟩
    · exact ⟨_, check, trivial⟩
  exact (after.invariant (Dropping own thread item world.shared.frames)
    (fun _ _ _ step kept => kept.step step) dropping).frames

/-! One stream, one message on it, and a call that closes it. -/

def smallItem : Item := ⟨0, "01", "tcp://b:1:1"⟩

def smallWorld : World Shared Code where
  shared :=
    { streams := fun key => if key = "01" then some 0 else none
      stream := fun _ streamID => if streamID = "tcp://b:1:1" then some 0 else none
      writerMutex := fun _ => none
      streamMutex := fun _ => none
      frames := [] }
  locals := fun thread =>
    if thread = 0 then .goroutine smallItem .start
    else if thread = 1 then .closeStream "tcp://b:1:1" .start
    else .idle

theorem smallWorld_fresh : Fresh "01" smallWorld := by
  refine ⟨rfl, fun thread => ?_⟩
  by_cases first : thread = 0
  · simp [smallWorld, smallItem, first]
  · by_cases second : thread = 1 <;> simp [smallWorld, first, second]

/-- The call that closes the stream has found it while the goroutine was at work, and
deletes it when the goroutine is done. -/
theorem streams_found_undisturbed :
    ∃ moves last, Run (fun world move next => Steps (program "01") world move next ∧ Spares "01" world move)
        smallWorld moves last ∧
      last.locals 1 = .closeStream "tcp://b:1:1" .done ∧ last.shared.present "01" "tcp://b:1:1" = false ∧
      last.shared.frames = [(0, true)] ∧ ∀ thread item, last.locals thread ≠ .goroutine item .crashed := by
  obtain ⟨busy, run, first, second, others, removed⟩ : ∃ busy,
      Run (fun world move next => Steps (program "01") world move next ∧ Spares "01" world move) smallWorld
        (List.replicate 5 (0, false) ++ List.replicate 2 (1, false) ++ List.replicate 6 (0, false)) busy ∧
      busy.locals 0 = .goroutine smallItem .done ∧
      busy.locals 1 = .closeStream "tcp://b:1:1" (.found 0 0) ∧
      (∀ other, other ≠ 0 → other ≠ 1 → busy.locals other = .idle) ∧
      ∃ shared now, program "01" 1 busy.shared (busy.locals 1) false = some (shared, now) ∧
        now = .closeStream "tcp://b:1:1" .done ∧ shared.present "01" "tcp://b:1:1" = false ∧
        shared.frames = [(0, true)] := by
    refine ⟨_, .cons ⟨.move rfl, trivial⟩ (.cons ⟨.move rfl, trivial⟩ (.cons ⟨.move rfl, trivial⟩
      (.cons ⟨.move rfl, trivial⟩ (.cons ⟨.move rfl, trivial⟩ (.cons ⟨.move rfl, trivial⟩
      (.cons ⟨.move rfl, trivial⟩ (.cons ⟨.move rfl, trivial⟩ (.cons ⟨.move rfl, trivial⟩
      (.cons ⟨.move rfl, trivial⟩ (.cons ⟨.move rfl, trivial⟩ (.cons ⟨.move rfl, trivial⟩
      (.cons ⟨.move rfl, trivial⟩ (.nil _))))))))))))), rfl, rfl, ?_, _, _, rfl, rfl, rfl, rfl⟩
    intro other notFirst notSecond
    simp [World.set, smallWorld, notFirst, notSecond]
  obtain ⟨shared, now, moved, rfl, absent, frames⟩ := removed
  have spares : Spares "01" busy (1, false) := by
    simp only [Spares, second]
    intro other item stage running _
    by_cases own : other = 0
    · rw [own, first] at running
      cases running
      simp [Tested]
    · by_cases closing : other = 1
      · rw [closing, second] at running
        cases running
      · rw [others other own closing] at running
        cases running
  have whole := run.snoc ⟨.move moved, spares⟩
  exact ⟨_, _, whole, by simp, absent, frames, (streams_found_while_spared smallWorld_fresh whole).1⟩

/-- The goroutine has tested its stream; then the stream is closed. -/
theorem closed_after_test :
    ∃ last, smallWorld.play (program "01")
      [(0, false), (0, false), (0, false), (1, false), (1, false), (1, false), (0, false), (0, false)] =
        some last ∧ last.locals 0 = .goroutine smallItem .crashed :=
  ⟨_, rfl, rfl⟩

end Carrier.StreamRemoval
