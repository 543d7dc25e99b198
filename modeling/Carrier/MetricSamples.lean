import Carrier.Threads

/-! The samples of `network/components/metric`: `sendMetricRequest`, called by any
number of goroutines. Under a mutex a call puts a sample with its own start time into
the array, in a full array after shifting all samples down by one, and remembers the
index. It then waits for the response without the mutex and writes the end time at the
remembered index, wherever its sample has gone in the meantime.

A copy of the shift loop is a step of its own, because the end times are written without
the mutex. A step that cannot be made is an index out of range. -/
namespace Carrier.MetricSamples

open Threads TransitionSystem

/-- `startedBy` and `endedBy` record the calls that have written the two times. -/
structure TimeDistance where
  startTime : Int
  endTime : Int
  startedBy : Option Nat
  endedBy : Option Nat
  deriving DecidableEq, Repr

structure TimeMetric where
  timeMetric : List TimeDistance
  index : Nat
  locked : Bool
  deriving DecidableEq, Repr

/-- A call of `sendMetricRequest`, with the readings of the clock in nanoseconds. -/
inductive Stage where
  | idle
  | start
  | timed (nanoTime : Int)
  | shifting (nanoTime : Int) (i : Nat)
  | placing (nanoTime : Int) (slot : Nat)
  | waiting (nanoTime : Int) (workingIndex : Nat)
  | arrived (nanoTime : Int) (workingIndex : Nat) (now : Int)
  | done (nanoTime : Int) (now : Int)
  | failed (nanoTime : Int)
  deriving DecidableEq, Repr

def micros (nanoTime : Int) : Int := nanoTime.tdiv 1000

def startup (sampleSize : Nat) : TimeMetric :=
  { timeMetric := List.replicate sampleSize ⟨0, 0, none, none⟩, index := 0, locked := false }

def workingIndex (sampleSize index : Nat) : Nat := if index + 1 ≥ sampleSize then sampleSize - 1 else index

/-- `choice` is a reading of the clock, or that `Request` gives an error. -/
def sendMetricRequest (sampleSize thread : Nat) (data : TimeMetric) (choice : Option Int) :
    Stage → Option (TimeMetric × Stage)
  | .start => choice.map fun nanoTime => (data, .timed nanoTime)
  | .timed nanoTime =>
      if data.locked then none
      else if data.index ≥ sampleSize then
        data.timeMetric[sampleSize - 1]?.map fun last =>
          ({ data with locked := true },
            if last.startTime > 0 then .shifting nanoTime 0 else .placing nanoTime data.index)
      else some ({ data with locked := true }, .placing nanoTime data.index)
  | .shifting nanoTime i =>
      if i < sampleSize - 1 then
        data.timeMetric[i + 1]?.map fun next =>
          ({ data with timeMetric := data.timeMetric.set i next }, .shifting nanoTime (i + 1))
      else some (data, .placing nanoTime (sampleSize - 1))
  | .placing nanoTime slot =>
      if slot < data.timeMetric.length then
        some ({ timeMetric := data.timeMetric.set slot ⟨micros nanoTime, 0, some thread, none⟩
                index := workingIndex sampleSize data.index + 1
                locked := false }, .waiting nanoTime (workingIndex sampleSize data.index))
      else none
  | .waiting nanoTime index =>
      match choice with
      | none => some (data, .failed nanoTime)
      | some now => some (data, .arrived nanoTime index now)
  | .arrived nanoTime index now =>
      data.timeMetric[index]?.map fun sample =>
        ({ data with
            timeMetric := data.timeMetric.set index
              { sample with endTime := micros now, endedBy := some thread } }, .done nanoTime now)
  | .idle => none
  | .done _ _ => none
  | .failed _ => none

def program (sampleSize : Nat) : Program TimeMetric Stage (Option Int) :=
  fun thread data stage choice => sendMetricRequest sampleSize thread data choice stage

inductive Turns (sampleSize thread : Nat) (data : TimeMetric) (choice : Option Int) :
    Stage → TimeMetric → Stage → Prop where
  | reads {nanoTime : Int} : choice = some nanoTime →
      Turns sampleSize thread data choice .start data (.timed nanoTime)
  | full {nanoTime : Int} {last : TimeDistance} : data.locked = false → sampleSize ≤ data.index →
      data.timeMetric[sampleSize - 1]? = some last → 0 < last.startTime →
      Turns sampleSize thread data choice (.timed nanoTime) { data with locked := true } (.shifting nanoTime 0)
  | unset {nanoTime : Int} {last : TimeDistance} : data.locked = false → sampleSize ≤ data.index →
      data.timeMetric[sampleSize - 1]? = some last → ¬ 0 < last.startTime →
      Turns sampleSize thread data choice (.timed nanoTime) { data with locked := true }
        (.placing nanoTime data.index)
  | room {nanoTime : Int} : data.locked = false → data.index < sampleSize →
      Turns sampleSize thread data choice (.timed nanoTime) { data with locked := true }
        (.placing nanoTime data.index)
  | copies {nanoTime : Int} {i : Nat} {sample : TimeDistance} : i < sampleSize - 1 →
      data.timeMetric[i + 1]? = some sample →
      Turns sampleSize thread data choice (.shifting nanoTime i)
        { data with timeMetric := data.timeMetric.set i sample } (.shifting nanoTime (i + 1))
  | shifted {nanoTime : Int} {i : Nat} : ¬ i < sampleSize - 1 →
      Turns sampleSize thread data choice (.shifting nanoTime i) data (.placing nanoTime (sampleSize - 1))
  | places {nanoTime : Int} {slot : Nat} : slot < data.timeMetric.length →
      Turns sampleSize thread data choice (.placing nanoTime slot)
        { timeMetric := data.timeMetric.set slot ⟨micros nanoTime, 0, some thread, none⟩
          index := workingIndex sampleSize data.index + 1
          locked := false } (.waiting nanoTime (workingIndex sampleSize data.index))
  | fails {nanoTime : Int} {index : Nat} :
      Turns sampleSize thread data choice (.waiting nanoTime index) data (.failed nanoTime)
  | arrives {nanoTime now : Int} {index : Nat} :
      Turns sampleSize thread data choice (.waiting nanoTime index) data (.arrived nanoTime index now)
  | ends {nanoTime now : Int} {index : Nat} {sample : TimeDistance} : data.timeMetric[index]? = some sample →
      Turns sampleSize thread data choice (.arrived nanoTime index now)
        { data with
          timeMetric := data.timeMetric.set index
            { sample with endTime := micros now, endedBy := some thread } } (.done nanoTime now)

theorem sendMetricRequest_turns {sampleSize thread : Nat} {data next : TimeMetric} {choice : Option Int}
    {stage now : Stage} (stepped : sendMetricRequest sampleSize thread data choice stage = some (next, now)) :
    Turns sampleSize thread data choice stage next now := by
  cases stage with
  | idle => cases stepped
  | start =>
      obtain ⟨nanoTime, read, same⟩ := Option.map_eq_some_iff.mp stepped
      cases same
      exact .reads read
  | timed nanoTime =>
      simp only [sendMetricRequest] at stepped
      split at stepped
      · cases stepped
      · rename_i unlocked
        have free := eq_false_of_ne_true unlocked
        split at stepped
        · rename_i reached
          obtain ⟨last, found, same⟩ := Option.map_eq_some_iff.mp stepped
          cases same
          split
          · rename_i set
            exact .full free reached found set
          · rename_i unset
            exact .unset free reached found unset
        · rename_i below
          cases stepped
          exact .room free (Nat.lt_of_not_le below)
  | shifting nanoTime i =>
      simp only [sendMetricRequest] at stepped
      split at stepped
      · rename_i below
        obtain ⟨sample, found, same⟩ := Option.map_eq_some_iff.mp stepped
        cases same
        exact .copies below found
      · rename_i reached
        cases stepped
        exact .shifted reached
  | placing nanoTime slot =>
      simp only [sendMetricRequest] at stepped
      split at stepped
      · rename_i within
        cases stepped
        exact .places within
      · cases stepped
  | waiting nanoTime index =>
      cases choice with
      | none => cases stepped; exact .fails
      | some time => cases stepped; exact .arrives
  | arrived nanoTime index time =>
      obtain ⟨sample, found, same⟩ := Option.map_eq_some_iff.mp stepped
      cases same
      exact .ends found
  | done nanoTime time => cases stepped
  | failed nanoTime => cases stepped

/-! What a step does to the samples. -/

def Stage.placed : Stage → Option Int
  | .waiting nanoTime _ | .arrived nanoTime _ _ | .done nanoTime _ | .failed nanoTime => some (micros nanoTime)
  | .idle | .start | .timed _ | .shifting _ _ | .placing _ _ => none

def Stage.ended : Stage → Option Int
  | .done _ now => some (micros now)
  | _ => none

/-- The samples stay, or one of them is copied, or the call puts its own, or it ends the
one at its working index. -/
inductive Acts (thread : Nat) (samples : List TimeDistance) : Stage → List TimeDistance → Stage → Prop where
  | stays {stage now : Stage} : now.placed = stage.placed → stage.ended = none →
      (∀ nanoTime index time, stage ≠ .arrived nanoTime index time) → Acts thread samples stage samples now
  | copies {nanoTime : Int} {i : Nat} (sample : TimeDistance) : sample ∈ samples →
      Acts thread samples (.shifting nanoTime i) (samples.set i sample) (.shifting nanoTime (i + 1))
  | places {nanoTime : Int} {slot index : Nat} :
      Acts thread samples (.placing nanoTime slot)
        (samples.set slot ⟨micros nanoTime, 0, some thread, none⟩) (.waiting nanoTime index)
  | ends {nanoTime now : Int} {index : Nat} (sample : TimeDistance) : samples[index]? = some sample →
      Acts thread samples (.arrived nanoTime index now)
        (samples.set index { sample with endTime := micros now, endedBy := some thread }) (.done nanoTime now)

theorem sendMetricRequest_acts {sampleSize thread : Nat} {data next : TimeMetric} {choice : Option Int}
    {stage now : Stage} (stepped : sendMetricRequest sampleSize thread data choice stage = some (next, now)) :
    Acts thread data.timeMetric stage next.timeMetric now := by
  cases sendMetricRequest_turns stepped with
  | reads | full | unset | room | shifted | fails | arrives => exact .stays rfl rfl (by simp)
  | copies _ found => exact .copies _ (List.mem_of_getElem? found)
  | places => exact .places
  | ends found => exact .ends _ found

/-! Which calls the times in a sample come from. -/

/-- A sample carries the start time of the call that placed it and the end time of the
call that ended it. -/
structure Recorded (locals : Nat → Stage) (sample : TimeDistance) : Prop where
  started : ∀ call, sample.startedBy = some call → (locals call).placed = some sample.startTime
  ended : ∀ call, sample.endedBy = some call → (locals call).ended = some sample.endTime
  unended : sample.endedBy = none → sample.endTime = 0

theorem Recorded.kept {locals : Nat → Stage} {sample : TimeDistance} {thread : Nat} {now : Stage}
    (recorded : Recorded locals sample)
    (placed : ∀ time, (locals thread).placed = some time → now.placed = some time)
    (unended : (locals thread).ended = none) : Recorded (Function.update locals thread now) sample := by
  refine ⟨fun call mark => ?_, fun call mark => ?_, recorded.unended⟩
  · have known := recorded.started call mark
    by_cases own : call = thread
    · subst own
      simpa using placed _ known
    · simpa [own] using known
  · have known := recorded.ended call mark
    have other : call ≠ thread := by
      rintro rfl
      rw [unended] at known
      cases known
    simpa [other] using known

theorem recorded_acts {thread : Nat} {samples after : List TimeDistance} {locals : Nat → Stage} {now : Stage}
    (acts : Acts thread samples (locals thread) after now) (recorded : ∀ sample ∈ samples, Recorded locals sample) :
    ∀ sample ∈ after, Recorded (Function.update locals thread now) sample := by
  generalize stage : locals thread = before at acts
  have old : ∀ sample ∈ samples, (∀ time, before.placed = some time → now.placed = some time) →
      before.ended = none → Recorded (Function.update locals thread now) sample := fun sample member placed unended =>
    (recorded sample member).kept (by rwa [stage]) (by rw [stage, unended])
  intro sample member
  cases acts with
  | stays placed unended _ => exact old sample member (fun time known => placed.trans known) unended
  | copies copied inside =>
      rcases List.mem_or_eq_of_mem_set member with there | rfl
      · exact old sample there (fun _ known => known) rfl
      · exact old _ inside (fun _ known => known) rfl
  | places =>
      rcases List.mem_or_eq_of_mem_set member with there | rfl
      · exact old sample there (fun _ known => (by cases known)) rfl
      · refine ⟨fun call mark => ?_, fun _ mark => (by cases mark), fun _ => rfl⟩
        cases mark
        simp [Stage.placed]
  | ends ended found =>
      rcases List.mem_or_eq_of_mem_set member with there | rfl
      · exact old sample there (fun _ known => known) rfl
      · have kept := old ended (List.mem_of_getElem? found) (fun _ known => known) rfl
        refine ⟨kept.started, fun call mark => ?_, fun mark => (by cases mark)⟩
        cases mark
        simp [Stage.ended]

def Attributed (samples : List TimeDistance) : Prop :=
  ∀ sample ∈ samples, ∀ call, sample.endedBy = some call → sample.startedBy = some call

/-- A call that is about to write its end time has its own sample at its working index. -/
def ownSample (thread : Nat) (samples : List TimeDistance) : Stage → Bool
  | .arrived _ index _ => samples[index]?.bind (·.startedBy) = some thread
  | _ => true

theorem ownSample_of_ne (thread : Nat) (samples : List TimeDistance) {stage : Stage}
    (elsewhere : ∀ nanoTime index now, stage ≠ .arrived nanoTime index now) :
    ownSample thread samples stage = true := by
  cases stage with
  | arrived nanoTime index now => exact absurd rfl (elsewhere nanoTime index now)
  | idle | start | timed _ | shifting _ _ | placing _ _ | waiting _ _ | done _ _ | failed _ => rfl

theorem attributed_acts {thread : Nat} {samples after : List TimeDistance} {stage now : Stage}
    (acts : Acts thread samples stage after now) (attributed : Attributed samples) :
    Attributed after ↔ ownSample thread samples stage = true := by
  cases acts with
  | stays _ _ elsewhere => exact iff_of_true attributed (ownSample_of_ne thread samples elsewhere)
  | copies copied inside =>
      refine iff_of_true (fun sample member => ?_) rfl
      rcases List.mem_or_eq_of_mem_set member with there | rfl
      · exact attributed sample there
      · exact attributed _ inside
  | places =>
      refine iff_of_true (fun sample member call mark => ?_) rfl
      rcases List.mem_or_eq_of_mem_set member with there | rfl
      · exact attributed sample there call mark
      · cases mark
  | @ends nanoTime now index ended found =>
      have own : ownSample thread samples (.arrived nanoTime index now) = true ↔
          ended.startedBy = some thread := by
        simp [ownSample, found]
      rw [own]
      constructor
      · intro after
        have inside := (List.getElem?_eq_some_iff.mp found).1
        exact after _ (List.mem_set inside _) thread rfl
      · intro mine sample member call mark
        rcases List.mem_or_eq_of_mem_set member with there | rfl
        · exact attributed sample there call mark
        · cases mark
          exact mine

/-! What others write between the two writes of a call. -/

def inside : Stage → Bool
  | .shifting _ _ | .placing _ _ => true
  | _ => false

theorem program_guarded (sampleSize : Nat) : Guarded (program sampleSize) (·.locked) inside where
  enters := by
    intro thread shared stage choice next now moved outside within
    cases sendMetricRequest_turns moved with
    | full free | unset free | room free => exact ⟨free, rfl⟩
    | copies | shifted | places => cases outside
    | reads | fails | arrives | ends => cases within
  remains := by
    intro thread shared stage choice next now moved same
    cases sendMetricRequest_turns moved with
    | full | unset | room | places => cases same
    | reads | copies | shifted | fails | arrives | ends => rfl

/-- A run of calls, and for each call whether another one has been in the shift loop
since it put its sample. -/
structure Watched where
  world : World TimeMetric Stage
  overtaken : Nat → Bool

def note (thread : Nat) (overtaken : Nat → Bool) : Stage → Nat → Bool
  | .shifting _ _ => fun call => overtaken call || decide (call ≠ thread)
  | .placing _ _ => Function.update overtaken thread false
  | _ => overtaken

def watchStep (sampleSize : Nat) (state : Watched) (move : Nat × Option Int) : Option Watched :=
  (program sampleSize move.1 state.world.shared (state.world.locals move.1) move.2).map fun (shared, now) =>
    { world := state.world.set move.1 shared now
      overtaken := note move.1 state.overtaken (state.world.locals move.1) }

def WatchSteps (sampleSize : Nat) (before : Watched) (move : Nat × Option Int) (after : Watched) : Prop :=
  watchStep sampleSize before move = some after

/-- An end time is written before another call shifts the samples. -/
def inTime (overtaken : Bool) : Stage → Bool
  | .arrived _ _ _ => !overtaken
  | _ => true

def Undisturbed (state : Watched) (move : Nat × Option Int) : Prop :=
  inTime (state.overtaken move.1) (state.world.locals move.1) = true

instance (state : Watched) (move : Nat × Option Int) : Decidable (Undisturbed state move) :=
  inferInstanceAs (Decidable (_ = true))

def Stage.remembered : Stage → Option Nat
  | .waiting _ index | .arrived _ index _ => some index
  | _ => none

def owner (samples : List TimeDistance) (slot : Nat) : Option Nat := samples[slot]?.bind (·.startedBy)

/-- What a call knows at each stage. A sample is put where no waiting call has its own,
or after the loop. -/
def Stands (sampleSize : Nat) (data : TimeMetric) (locals : Nat → Stage) (overtaken : Nat → Bool)
    (thread : Nat) : Stage → Prop
  | .shifting _ _ => 0 < sampleSize ∧ sampleSize ≤ data.index
  | .placing _ slot => slot = data.index ∨
      slot + 1 = sampleSize ∧ sampleSize ≤ data.index ∧
        ∀ call, call ≠ thread → (locals call).remembered ≠ none → overtaken call = true
  | .waiting _ index | .arrived _ index _ =>
      index < data.index ∧ (overtaken thread = false → owner data.timeMetric index = some thread)
  | _ => True

structure Kept (sampleSize : Nat) (state : Watched) : Prop where
  length : state.world.shared.timeMetric.length = sampleSize
  index : state.world.shared.index ≤ sampleSize
  exclusive : Exclusive (·.locked) inside state.world
  stands : ∀ thread, Stands sampleSize state.world.shared state.world.locals state.overtaken thread
    (state.world.locals thread)

theorem owner_set_ne (samples : List TimeDistance) (sample : TimeDistance) {slot other : Nat}
    (different : slot ≠ other) : owner (samples.set slot sample) other = owner samples other := by
  unfold owner
  rw [List.getElem?_set_ne different]

theorem owner_set_self {samples : List TimeDistance} {slot : Nat} (sample : TimeDistance)
    (within : slot < samples.length) : owner (samples.set slot sample) slot = sample.startedBy := by
  unfold owner
  rw [List.getElem?_set_self within, Option.bind_some]

theorem owner_ended {samples : List TimeDistance} {index : Nat} {sample : TimeDistance}
    (found : samples[index]? = some sample) (time : Int) (ended : Option Nat) (slot : Nat) :
    owner (samples.set index { sample with endTime := time, endedBy := ended }) slot = owner samples slot := by
  by_cases same : index = slot
  · subst same
    rw [owner_set_self _ (List.getElem?_eq_some_iff.mp found).1, owner, found]
    rfl
  · exact owner_set_ne _ _ same

section Step

variable {sampleSize thread : Nat} {data next : TimeMetric} {choice : Option Int} {stage now : Stage}
  {locals : Nat → Stage} {overtaken : Nat → Bool}

theorem workingIndex_succ_le {index : Nat} (nonempty : 0 < sampleSize) :
    workingIndex sampleSize index + 1 ≤ sampleSize := by
  unfold workingIndex
  split <;> omega

theorem index_bounds (turns : Turns sampleSize thread data choice stage next now)
    (length : data.timeMetric.length = sampleSize) (bound : data.index ≤ sampleSize) :
    next.timeMetric.length = sampleSize ∧ data.index ≤ next.index ∧ next.index ≤ sampleSize := by
  cases turns with
  | reads | full | unset | room | shifted | fails | arrives => exact ⟨length, Nat.le_refl _, bound⟩
  | copies | ends => exact ⟨(List.length_set ..).trans length, Nat.le_refl _, bound⟩
  | places within =>
      refine ⟨(List.length_set ..).trans length, ?_, workingIndex_succ_le (by omega)⟩
      dsimp only [workingIndex]
      split <;> omega

theorem note_eq_false {call : Nat} (different : call ≠ thread) (free : note thread overtaken stage call = false) :
    overtaken call = false ∧ ∀ nanoTime i, stage ≠ .shifting nanoTime i := by
  cases stage with
  | shifting nanoTime i => simp [note, different] at free
  | placing nanoTime slot => exact ⟨by simpa [note, different] using free, by simp⟩
  | _ => exact ⟨free, by simp⟩

theorem stands_own (turns : Turns sampleSize thread data choice stage next now)
    (length : data.timeMetric.length = sampleSize)
    (stands : Stands sampleSize data locals overtaken thread stage) :
    Stands sampleSize next (Function.update locals thread now) (note thread overtaken stage) thread now := by
  cases turns with
  | reads => trivial
  | full free reached found set =>
      have inside := (List.getElem?_eq_some_iff.mp found).1
      exact ⟨by omega, reached⟩
  | unset => exact .inl rfl
  | room => exact .inl rfl
  | copies => exact stands
  | shifted reached =>
      obtain ⟨nonempty, full⟩ := stands
      refine .inr ⟨by omega, full, fun call different _ => ?_⟩
      simp [note, different]
  | @places nanoTime slot within =>
      -- the index remembered is that of the place the sample is put at
      have place : workingIndex sampleSize data.index = slot := by
        unfold workingIndex
        rcases stands with here | ⟨last, full, _⟩ <;> split <;> omega
      rw [place]
      refine ⟨Nat.lt_succ_self slot, fun _ => ?_⟩
      exact owner_set_self _ within
  | fails => trivial
  | arrives => exact stands
  | ends => trivial

/-- A call that waits keeps its sample, unless it is overtaken. -/
theorem owner_kept (turns : Turns sampleSize thread data choice stage next now)
    (stands : Stands sampleSize data locals overtaken thread stage) {call index : Nat} (different : call ≠ thread)
    (waits : (locals call).remembered = some index) (below : index < data.index)
    (own : overtaken call = false → owner data.timeMetric index = some call)
    (free : note thread overtaken stage call = false) : owner next.timeMetric index = some call := by
  obtain ⟨before, unshifted⟩ := note_eq_false different free
  cases turns with
  | reads | full | unset | room | fails | arrives => exact own before
  | copies | shifted => exact absurd rfl (unshifted _ _)
  | @places nanoTime slot within =>
      have elsewhere : slot ≠ index := by
        rcases stands with here | ⟨_, _, others⟩
        · omega
        · rw [others call different (by simp [waits])] at before
          cases before
      exact (owner_set_ne _ _ elsewhere).trans (own before)
  | ends found => exact (owner_ended found ..).trans (own before)

theorem remembered_before (own : locals thread = stage) (same : now.remembered ≠ none → stage.remembered ≠ none)
    {call : Nat} (waits : (Function.update locals thread now call).remembered ≠ none) :
    (locals call).remembered ≠ none := by
  by_cases mover : call = thread
  · subst mover
    rw [Function.update_self] at waits
    rw [own]
    exact same waits
  · rwa [Function.update_of_ne mover] at waits

theorem stands_other (turns : Turns sampleSize thread data choice stage next now) (own : locals thread = stage)
    (length : data.timeMetric.length = sampleSize) (bound : data.index ≤ sampleSize)
    (stands : ∀ call, Stands sampleSize data locals overtaken call (locals call)) {call : Nat}
    (different : call ≠ thread)
    (alone : inside (locals call) = true → inside stage = false ∧ inside now = false) :
    Stands sampleSize next (Function.update locals thread now) (note thread overtaken stage) call
      (locals call) := by
  have grown := (index_bounds turns length bound).2.1
  have mine := stands call
  have movers : Stands sampleSize data locals overtaken thread stage := own ▸ stands thread
  generalize held : locals call = standing at mine alone
  have kept (index : Nat) (waits : standing.remembered = some index)
      (mine : index < data.index ∧ (overtaken call = false → owner data.timeMetric index = some call)) :
      index < next.index ∧
        (note thread overtaken stage call = false → owner next.timeMetric index = some call) :=
    ⟨Nat.lt_of_lt_of_le mine.1 grown, owner_kept turns movers different (held ▸ waits) mine.1 mine.2⟩
  cases standing with
  | idle | start | timed | done | failed => trivial
  | waiting nanoTime index => exact kept index rfl mine
  | arrived nanoTime index time => exact kept index rfl mine
  | shifting nanoTime i =>
      obtain ⟨before, after⟩ := alone rfl
      cases turns with
      | reads | fails | arrives | ends => exact mine
      | copies | shifted | places => cases before
      | full | unset | room => cases after
  | placing nanoTime slot =>
      obtain ⟨before, after⟩ := alone rfl
      have moved (same : now.remembered ≠ none → stage.remembered ≠ none) (index : next.index = data.index)
          (notes : note thread overtaken stage = overtaken) :
          Stands sampleSize next (Function.update locals thread now) (note thread overtaken stage) call
            (.placing nanoTime slot) := by
        rw [notes]
        rcases mine with here | ⟨last, full, others⟩
        · exact .inl (here.trans index.symm)
        · exact .inr ⟨last, index ▸ full, fun other apart waits => others other apart (remembered_before own same waits)⟩
      cases turns with
      | reads => exact moved (by simp [Stage.remembered]) rfl rfl
      | fails => exact moved (by simp [Stage.remembered]) rfl rfl
      | arrives => exact moved (by simp [Stage.remembered]) rfl rfl
      | ends => exact moved (by simp [Stage.remembered]) rfl rfl
      | copies | shifted | places => cases before
      | full | unset | room => cases after

end Step

theorem Kept.step {sampleSize : Nat} {before after : Watched} {move : Nat × Option Int}
    (kept : Kept sampleSize before) (stepped : WatchSteps sampleSize before move after) :
    Kept sampleSize after := by
  obtain ⟨thread, choice⟩ := move
  obtain ⟨⟨shared, now⟩, made, rfl⟩ := Option.map_eq_some_iff.mp stepped
  have turns := sendMetricRequest_turns made
  obtain ⟨length, _, bound⟩ := index_bounds turns kept.length kept.index
  have exclusive := (program_guarded sampleSize).exclusive (.move made) kept.exclusive
  refine ⟨length, bound, exclusive, fun call => ?_⟩
  by_cases own : call = thread
  · subst own
    rw [World.set_self]
    exact stands_own turns kept.length (kept.stands call)
  · rw [World.set_other _ _ _ own]
    refine stands_other turns rfl kept.length kept.index kept.stands own fun busy => ?_
    constructor <;> apply eq_false_of_ne_true <;> intro also
    · exact own (kept.exclusive.alone call thread busy also)
    · refine own (exclusive.alone call thread ?_ ?_)
      · rw [World.set_other _ _ _ own]
        exact busy
      · rw [World.set_self]
        exact also

theorem Kept.ownSample {sampleSize : Nat} {state : Watched} (kept : Kept sampleSize state)
    {move : Nat × Option Int} (undisturbed : Undisturbed state move) :
    ownSample move.1 state.world.shared.timeMetric (state.world.locals move.1) = true := by
  have stands := kept.stands move.1
  unfold Undisturbed at undisturbed
  cases stage : state.world.locals move.1 with
  | arrived nanoTime index now =>
      rw [stage] at stands undisturbed
      have free : state.overtaken move.1 = false := by simpa [inTime] using undisturbed
      exact decide_eq_true (stands.2 free)
  | idle | start | timed _ | shifting _ _ | placing _ _ | waiting _ _ | done _ _ | failed _ => rfl

theorem attributed_step {sampleSize : Nat} {before after : Watched} {move : Nat × Option Int}
    (kept : Kept sampleSize before) (attributed : Attributed before.world.shared.timeMetric)
    (stepped : WatchSteps sampleSize before move after) (undisturbed : Undisturbed before move) :
    Attributed after.world.shared.timeMetric := by
  obtain ⟨⟨shared, now⟩, made, rfl⟩ := Option.map_eq_some_iff.mp stepped
  exact (attributed_acts (sendMetricRequest_acts made) attributed).mpr (kept.ownSample undisturbed)

def Fresh (sampleSize : Nat) (world : World TimeMetric Stage) : Prop :=
  world.shared = startup sampleSize ∧ ∀ thread, world.locals thread = .idle ∨ world.locals thread = .start

theorem Fresh.blank {sampleSize : Nat} {world : World TimeMetric Stage} (fresh : Fresh sampleSize world) :
    ∀ sample ∈ world.shared.timeMetric, sample = ⟨0, 0, none, none⟩ := by
  rw [fresh.1]
  exact fun sample member => List.eq_of_mem_replicate member

theorem Fresh.kept {sampleSize : Nat} {world : World TimeMetric Stage} (fresh : Fresh sampleSize world) :
    Kept sampleSize ⟨world, fun _ => false⟩ := by
  obtain ⟨shared, stages⟩ := fresh
  have outside (thread : Nat) : inside (world.locals thread) = false := by
    rcases stages thread with idle | start
    · rw [idle]; rfl
    · rw [start]; rfl
  refine ⟨by simp [shared, startup], by simp [shared, startup], ⟨fun thread busy => ?_, fun thread _ busy => ?_⟩,
    fun thread => ?_⟩
  · simp [outside thread] at busy
  · simp [outside thread] at busy
  · rcases stages thread with idle | start
    · simp [idle, Stands]
    · simp [start, Stands]

theorem recorded_step {sampleSize : Nat} {before after : Watched} {move : Nat × Option Int}
    (stepped : WatchSteps sampleSize before move after)
    (recorded : ∀ sample ∈ before.world.shared.timeMetric, Recorded before.world.locals sample) :
    ∀ sample ∈ after.world.shared.timeMetric, Recorded after.world.locals sample := by
  obtain ⟨⟨shared, now⟩, made, rfl⟩ := Option.map_eq_some_iff.mp stepped
  exact recorded_acts (sendMetricRequest_acts made) recorded

/-- Runs in which every end time is written before another call shifts the samples: the
end time of a sample is that of the call with its start time. In any run the step that
first breaks this is the end time of a call that has been overtaken. -/
theorem samples_attributed {sampleSize : Nat} {start : World TimeMetric Stage} (fresh : Fresh sampleSize start) :
    (∀ moves last, Run (fun before move after => WatchSteps sampleSize before move after ∧ Undisturbed before move)
        ⟨start, fun _ => false⟩ moves last →
      ∀ sample ∈ last.world.shared.timeMetric, sample.endTime ≠ 0 →
        ∃ call nanoTime now, sample.startedBy = some call ∧ last.world.locals call = .done nanoTime now ∧
          sample.startTime = micros nanoTime ∧ sample.endTime = micros now) ∧
    ∀ moves last, Run (WatchSteps sampleSize) ⟨start, fun _ => false⟩ moves last →
      Attributed last.world.shared.timeMetric → ∀ move next, WatchSteps sampleSize last move next →
        ¬ Attributed next.world.shared.timeMetric → ¬ Undisturbed last move := by
  constructor
  · intro moves last run sample member written
    have recorded : ∀ sample ∈ last.world.shared.timeMetric, Recorded last.world.locals sample := by
      refine run.invariant (fun state => ∀ sample ∈ state.world.shared.timeMetric, Recorded state.world.locals sample)
        (fun _ _ _ step known => recorded_step step.1 known) fun sample member => ?_
      rw [fresh.blank sample member]
      exact ⟨fun _ mark => (by cases mark), fun _ mark => (by cases mark), fun _ => rfl⟩
    have attributed : Kept sampleSize last ∧ Attributed last.world.shared.timeMetric := by
      refine run.invariant (fun state => Kept sampleSize state ∧ Attributed state.world.shared.timeMetric)
        (fun _ _ _ step known => ⟨known.1.step step.1, attributed_step known.1 known.2 step.1 step.2⟩)
        ⟨fresh.kept, fun sample member call mark => ?_⟩
      rw [fresh.blank sample member] at mark
      cases mark
    have known := recorded sample member
    obtain ⟨call, ended⟩ := Option.ne_none_iff_exists'.mp fun none => written (known.unended none)
    have started := attributed.2 sample member call ended
    have placed := known.started call started
    have time := known.ended call ended
    cases stage : last.world.locals call with
    | done nanoTime now =>
        rw [stage] at placed time
        exact ⟨call, nanoTime, now, started, stage, (Option.some.inj placed).symm, (Option.some.inj time).symm⟩
    | idle | start | timed _ | shifting _ _ | placing _ _ | waiting _ _ | arrived _ _ _ | failed _ =>
        rw [stage] at time
        cases time
  · intro moves last run attributed move next stepped broken undisturbed
    have kept : Kept sampleSize last :=
      run.invariant (Kept sampleSize) (fun _ _ _ step before => before.step step) fresh.kept
    exact broken (attributed_step kept attributed stepped undisturbed)

/-! Two samples and three calls. -/

def twoSamples : World TimeMetric Stage where
  shared := startup 2
  locals := fun thread => if thread < 3 then .start else .idle

theorem twoSamples_fresh : Fresh 2 twoSamples := by
  refine ⟨rfl, fun thread => ?_⟩
  simp only [twoSamples]
  split
  · exact Or.inr rfl
  · exact Or.inl rfl

/-- The first two requests overlap. Both responses come before the third request shifts
the samples. -/
def inTurn : List (Nat × Option Int) :=
  [(0, some 1000), (0, none), (0, none), (1, some 2000), (1, none), (1, none), (1, some 8000), (0, some 9000),
    (1, none), (0, none), (2, some 10000), (2, none), (2, none), (2, none), (2, none), (2, some 12000), (2, none)]

theorem samples_attributed_in_turn :
    ∃ last, Run (fun before move after => WatchSteps 2 before move after ∧ Undisturbed before move)
        ⟨twoSamples, fun _ => false⟩ inTurn last ∧
      last.world.shared.timeMetric = [⟨2, 8, some 1, some 1⟩, ⟨10, 12, some 2, some 2⟩] ∧
      ∃ call nanoTime now, last.world.locals call = .done nanoTime now ∧ 2 = micros nanoTime ∧ 8 = micros now := by
  obtain ⟨last, followed, samples⟩ : ∃ last, follow (fun state move =>
      if Undisturbed state move then watchStep 2 state move else none) inTurn ⟨twoSamples, fun _ => false⟩ = some last ∧
      last.world.shared.timeMetric = [⟨2, 8, some 1, some 1⟩, ⟨10, 12, some 2, some 2⟩] := ⟨_, rfl, rfl⟩
  have run := Run.of_follow_if followed
  obtain ⟨call, nanoTime, now, _, done, first, second⟩ := (samples_attributed twoSamples_fresh).1 _ _ run
    ⟨2, 8, some 1, some 1⟩ (by rw [samples]; simp) (by decide)
  exact ⟨last, run, samples, call, nanoTime, now, done, first, second⟩

/-- The third request shifts the samples while the second response is out. -/
def overtaken : List (Nat × Option Int) :=
  [(0, some 1000), (0, none), (0, none), (1, some 2000), (1, none), (1, none), (2, some 3000), (2, none),
    (2, none), (2, none), (2, none), (1, some 9000), (1, none)]

/-- The end time goes to the sample of the third request, which still waits. -/
theorem samples_misattributed :
    Fresh 2 twoSamples ∧ ∃ last, Run (Steps (program 2)) twoSamples overtaken last ∧
      last.shared.timeMetric = [⟨2, 0, some 1, none⟩, ⟨3, 9, some 2, some 1⟩] ∧
      last.locals 1 = .done 2000 9000 ∧ last.locals 2 = .waiting 3000 1 := by
  obtain ⟨last, played, samples, second, third⟩ : ∃ last,
      twoSamples.play (program 2) overtaken = some last ∧
      last.shared.timeMetric = [⟨2, 0, some 1, none⟩, ⟨3, 9, some 2, some 1⟩] ∧
      last.locals 1 = .done 2000 9000 ∧ last.locals 2 = .waiting 3000 1 := ⟨_, rfl, rfl, rfl, rfl⟩
  exact ⟨twoSamples_fresh, last, World.run_of_play played, samples, second, third⟩

end Carrier.MetricSamples
