import Carrier.MetricSamples

/-! The start times in the samples are those of the last calls. A record of the start
times, in the order in which the calls place their samples, is kept beside the run. The
index counts the calls up to the size of the array; while nobody has the mutex, the
entries below it are the end of the record. -/
namespace Carrier.MetricWindow

open Threads TransitionSystem
open MetricSamples hiding Stands

def startTimes (data : TimeMetric) : List Int := data.timeMetric.map (·.startTime)

def sends : Stage → List Int
  | .placing nanoTime _ => [micros nanoTime]
  | _ => []

structure Logged where
  world : World TimeMetric Stage
  sent : List Int

def logStep (sampleSize : Nat) (state : Logged) (move : Nat × Option Int) : Option Logged :=
  (program sampleSize move.1 state.world.shared (state.world.locals move.1) move.2).map fun (shared, now) =>
    { world := state.world.set move.1 shared now, sent := state.sent ++ sends (state.world.locals move.1) }

/-- A start time that is read is positive as it is stored, in microseconds. -/
def readsPositive (stage : Stage) (choice : Option Int) : Bool :=
  match stage, choice with
  | .start, some nanoTime => 0 < micros nanoTime
  | _, _ => true

def LogSteps (sampleSize : Nat) (before : Logged) (move : Nat × Option Int) (after : Logged) : Prop :=
  logStep sampleSize before move = some after ∧ readsPositive (before.world.locals move.1) move.2 = true

/-! Entries of the array against the record. -/

/-- The times from `low` up to `high` are those of the record `offset` places further on. -/
def Agree (times sent : List Int) (offset low high : Nat) : Prop :=
  ∀ j, low ≤ j → j < high → times[j]? = sent[offset + j]?

section Agreement

variable {times sent : List Int} {offset low high : Nat}

theorem Agree.narrow {lower higher : Nat} (agree : Agree times sent offset low high) (above : low ≤ lower)
    (below : higher ≤ high) : Agree times sent offset lower higher :=
  fun j lowest highest => agree j (Nat.le_trans above lowest) (Nat.lt_of_lt_of_le highest below)

theorem Agree.set_outside (agree : Agree times sent offset low high) {i : Nat} (value : Int)
    (away : i < low ∨ high ≤ i) : Agree (times.set i value) sent offset low high := by
  intro j lowest highest
  have different : i ≠ j := by omega
  rw [List.getElem?_set_ne different]
  exact agree j lowest highest

theorem Agree.snoc (agree : Agree times sent offset low high) (next : times[high]? = sent[offset + high]?) :
    Agree times sent offset low (high + 1) := by
  intro j lowest highest
  rcases Nat.lt_succ_iff_lt_or_eq.mp highest with below | rfl
  · exact agree j lowest below
  · exact next

theorem Agree.append (agree : Agree times sent offset low high) (more : List Int)
    (inside : offset + high ≤ sent.length) : Agree times (sent ++ more) offset low high := by
  intro j lowest highest
  rw [List.getElem?_append_left (by omega)]
  exact agree j lowest highest

theorem agree_empty (times sent : List Int) (offset low : Nat) : Agree times sent offset low low :=
  fun _ lowest highest => absurd highest (Nat.not_lt.mpr lowest)

theorem Agree.take_eq_drop {count : Nat} (agree : Agree times sent (sent.length - count) 0 count)
    (inside : count ≤ sent.length) : times.take count = sent.drop (sent.length - count) := by
  apply List.ext_getElem?
  intro j
  rw [List.getElem?_drop]
  by_cases below : j < count
  · rw [List.getElem?_take_of_lt below]
    exact agree j (Nat.zero_le j) below
  · rw [List.getElem?_take_eq_none (Nat.le_of_not_lt below), List.getElem?_eq_none (by omega)]

end Agreement

/-! What holds between the steps. -/

structure Window (sampleSize : Nat) (data : TimeMetric) (sent : List Int) : Prop where
  length : data.timeMetric.length = sampleSize
  index : data.index = min sent.length sampleSize
  positive : ∀ time ∈ sent, 0 < time
  free : data.locked = false → Agree (startTimes data) sent (sent.length - data.index) 0 data.index

/-- What a call knows at each stage. The shift loop has moved the entries below its
counter; the sample is placed above the ones that stay. -/
def Stands (sampleSize : Nat) (times sent : List Int) : Stage → Prop
  | .timed nanoTime => 0 < micros nanoTime
  | .shifting nanoTime i => 0 < micros nanoTime ∧ sampleSize ≤ sent.length ∧ i < sampleSize ∧
      Agree times sent (sent.length - sampleSize + 1) 0 i ∧
      Agree times sent (sent.length - sampleSize) i sampleSize
  | .placing nanoTime slot => 0 < micros nanoTime ∧ slot = min sent.length (sampleSize - 1) ∧
      Agree times sent (sent.length - slot) 0 slot
  | .waiting _ index | .arrived _ index _ => index < sampleSize
  | .idle | .start | .done _ _ | .failed _ => True

theorem sends_of_outside {stage : Stage} (outside : inside stage = false) : sends stage = [] := by
  cases stage with
  | placing => cases outside
  | idle | start | timed | shifting | waiting | arrived | done | failed => rfl

theorem Stands.of_outside {sampleSize : Nat} {times sent after more : List Int} {stage : Stage}
    (stands : Stands sampleSize times sent stage) (outside : inside stage = false) :
    Stands sampleSize after more stage := by
  cases stage with
  | shifting | placing => cases outside
  | idle | start | timed | waiting | arrived | done | failed => exact stands

/-- The call has ended or not begun, waits for the mutex, or has no reading of the
clock yet. -/
def rests (data : TimeMetric) (choice : Option Int) : Stage → Bool
  | .idle | .done _ _ | .failed _ => true
  | .start => choice = none
  | .timed _ => data.locked
  | .shifting _ _ | .placing _ _ | .waiting _ _ | .arrived _ _ _ => false

section Step

variable {sampleSize thread : Nat} {data next : TimeMetric} {sent : List Int} {choice : Option Int}
  {stage now : Stage}

theorem startTimes_set (samples : List TimeDistance) (slot index : Nat) (locked : Bool) (sample : TimeDistance) :
    startTimes ⟨samples.set slot sample, index, locked⟩ =
      (startTimes ⟨samples, index, locked⟩).set slot sample.startTime :=
  List.map_set ..

theorem startTimes_getElem? {slot : Nat} {sample : TimeDistance} (found : data.timeMetric[slot]? = some sample) :
    (startTimes data)[slot]? = some sample.startTime := by
  rw [startTimes, List.getElem?_map, found]
  rfl

theorem startTimes_of_outside (turns : Turns sampleSize thread data choice stage next now)
    (outside : inside stage = false) : startTimes next = startTimes data := by
  cases turns with
  | reads | full | unset | room | fails | arrives => rfl
  | copies | shifted | places => cases outside
  | @ends nanoTime now index sample found =>
      have same : (startTimes data).set index sample.startTime = startTimes data := by
        obtain ⟨bound, value⟩ := List.getElem?_eq_some_iff.mp (startTimes_getElem? found)
        rw [← value, List.set_getElem_self]
      exact (startTimes_set ..).trans same

theorem Window.last_positive {last : TimeDistance} (window : Window sampleSize data sent) (nonempty : 1 ≤ sampleSize)
    (free : data.locked = false) (reached : sampleSize ≤ data.index)
    (found : data.timeMetric[sampleSize - 1]? = some last) : 0 < last.startTime := by
  have index := window.index
  have agree := window.free free (sampleSize - 1) (Nat.zero_le _) (by omega)
  rw [startTimes_getElem? found] at agree
  exact window.positive _ (List.mem_of_getElem? agree.symm)

theorem turns_stands (nonempty : 1 ≤ sampleSize) (window : Window sampleSize data sent)
    (stands : Stands sampleSize (startTimes data) sent stage)
    (reading : readsPositive stage choice = true)
    (turns : Turns sampleSize thread data choice stage next now) :
    Stands sampleSize (startTimes next) (sent ++ sends stage) now := by
  have index := window.index
  cases turns with
  | @reads nanoTime read =>
      subst read
      have positive : 0 < micros nanoTime := of_decide_eq_true reading
      exact positive
  | full free reached found set =>
      simp only [sends, List.append_nil]
      have all : data.index = sampleSize := by omega
      have agree := window.free free
      rw [all] at agree
      exact ⟨stands, by omega, nonempty, agree_empty _ _ _ 0, agree⟩
  | unset free reached found unset => exact absurd (window.last_positive nonempty free reached found) unset
  | room free below =>
      simp only [sends, List.append_nil]
      exact ⟨stands, by omega, window.free free⟩
  | @copies nanoTime i sample below found =>
      simp only [sends, List.append_nil]
      obtain ⟨positive, enough, inside, moved, rest⟩ := stands
      have times : startTimes { data with timeMetric := data.timeMetric.set i sample } =
          (startTimes data).set i sample.startTime := startTimes_set ..
      have value : ((startTimes data).set i sample.startTime)[i]? = sent[sent.length - sampleSize + 1 + i]? := by
        have length : i < (startTimes data).length := by
          rw [startTimes, List.length_map, window.length]
          exact inside
        have next := rest (i + 1) (Nat.le_succ i) (by omega)
        rw [startTimes_getElem? found] at next
        rw [List.getElem?_set_self length, next, Nat.add_right_comm, Nat.add_assoc]
      rw [times]
      refine ⟨positive, enough, by omega, (moved.set_outside _ (Or.inr (Nat.le_refl i))).snoc value, ?_⟩
      exact (rest.narrow (Nat.le_succ i) (Nat.le_refl _)).set_outside _ (Or.inl (Nat.lt_succ_self i))
  | @shifted nanoTime i reached =>
      simp only [sends, List.append_nil]
      obtain ⟨positive, enough, inside, moved, _⟩ := stands
      have last : i = sampleSize - 1 := by omega
      subst last
      have offset : sent.length - (sampleSize - 1) = sent.length - sampleSize + 1 := by omega
      exact ⟨positive, by omega, offset ▸ moved⟩
  | places within =>
      change workingIndex sampleSize data.index < sampleSize
      unfold workingIndex
      split <;> omega
  | fails => trivial
  | arrives => exact stands
  | ends => trivial

theorem turns_window (nonempty : 1 ≤ sampleSize) (window : Window sampleSize data sent)
    (stands : Stands sampleSize (startTimes data) sent stage)
    (held : inside stage = true → data.locked = true)
    (turns : Turns sampleSize thread data choice stage next now) :
    Window sampleSize next (sent ++ sends stage) := by
  have index := window.index
  have unchanged := startTimes_of_outside turns
  cases turns with
  | reads | shifted | fails | arrives => simpa only [sends, List.append_nil] using window
  | full | unset | room =>
      simp only [sends, List.append_nil]
      exact ⟨window.length, window.index, window.positive, fun free => absurd free (by simp)⟩
  | copies =>
      simp only [sends, List.append_nil]
      refine ⟨(List.length_set ..).trans window.length, window.index, window.positive, fun free => ?_⟩
      exact absurd (held rfl) (by simpa using free)
  | @places nanoTime slot within =>
      obtain ⟨positive, place, agree⟩ := stands
      have count : workingIndex sampleSize data.index = slot := by
        unfold workingIndex
        split <;> omega
      have length : (sent ++ [micros nanoTime]).length = sent.length + 1 := by simp
      refine ⟨(List.length_set ..).trans window.length, ?_, fun time member => ?_, fun _ => ?_⟩
      · simp only [sends, length, count]
        omega
      · rcases List.mem_append.mp member with old | new
        · exact window.positive time old
        · rwa [List.mem_singleton.mp new]
      · have times : startTimes ⟨data.timeMetric.set slot ⟨micros nanoTime, 0, some thread, none⟩,
            slot + 1, false⟩ = (startTimes data).set slot (micros nanoTime) := startTimes_set ..
        have offset : sent.length + 1 - (slot + 1) = sent.length - slot := by omega
        have kept := (agree.set_outside (micros nanoTime) (Or.inr (Nat.le_refl slot))).append
          [micros nanoTime] (by omega)
        have bound : slot < (startTimes data).length := by
          rwa [startTimes, List.length_map]
        have reached : sent.length - slot + slot = sent.length := by omega
        have value : ((startTimes data).set slot (micros nanoTime))[slot]? =
            (sent ++ [micros nanoTime])[sent.length - slot + slot]? := by
          rw [List.getElem?_set_self bound, reached, List.getElem?_concat_length]
        simp only [sends, length, count, times, offset]
        exact kept.snoc value
  | ends found =>
      simp only [sends, List.append_nil]
      refine ⟨(List.length_set ..).trans window.length, window.index, window.positive, fun free => ?_⟩
      rw [unchanged rfl]
      exact window.free free

/-- A call that is not at rest can make its next step: none of its accesses is out of
range. -/
theorem rests_of_none (window : Window sampleSize data sent)
    (stands : Stands sampleSize (startTimes data) sent stage) (nonempty : 1 ≤ sampleSize)
    (stuck : sendMetricRequest sampleSize thread data choice stage = none) : rests data choice stage = true := by
  have length := window.length
  have found : ∀ slot, slot < sampleSize → data.timeMetric[slot]? ≠ none := by
    intro slot below
    rw [ne_eq, List.getElem?_eq_none_iff]
    omega
  cases stage with
  | idle | done | failed => rfl
  | start =>
      rw [sendMetricRequest, Option.map_eq_none_iff] at stuck
      simp [rests, stuck]
  | timed nanoTime =>
      simp only [sendMetricRequest] at stuck
      split at stuck
      · rename_i locked
        exact locked
      · split at stuck
        · exact absurd (Option.map_eq_none_iff.mp stuck) (found _ (by omega))
        · cases stuck
  | shifting nanoTime i =>
      simp only [sendMetricRequest] at stuck
      split at stuck
      · exact absurd (Option.map_eq_none_iff.mp stuck) (found _ (by omega))
      · cases stuck
  | placing nanoTime slot =>
      have place := stands.2.1
      simp only [sendMetricRequest] at stuck
      split at stuck
      · cases stuck
      · omega
  | waiting nanoTime index => cases choice <;> cases stuck
  | arrived nanoTime index time =>
      exact absurd (Option.map_eq_none_iff.mp stuck) (found _ stands)

end Step

/-! Whole runs. -/

structure Inv (sampleSize : Nat) (state : Logged) : Prop where
  window : Window sampleSize state.world.shared state.sent
  stands : ∀ thread, Stands sampleSize (startTimes state.world.shared) state.sent (state.world.locals thread)
  exclusive : Exclusive (·.locked) inside state.world

theorem Inv.step {sampleSize : Nat} {before after : Logged} {move : Nat × Option Int} (inv : Inv sampleSize before)
    (nonempty : 1 ≤ sampleSize) (stepped : LogSteps sampleSize before move after) : Inv sampleSize after := by
  obtain ⟨moved, positive⟩ := stepped
  obtain ⟨⟨shared, now⟩, made, rfl⟩ := Option.map_eq_some_iff.mp moved
  obtain ⟨thread, choice⟩ := move
  have turns := sendMetricRequest_turns made
  have own := inv.stands thread
  have everywhere : Everywhere (fun shared _ => Stands sampleSize (startTimes shared)
      (before.sent ++ sends (before.world.locals thread))) (before.world.set thread shared now) := by
    refine Everywhere.set (turns_stands nonempty inv.window own positive turns) fun other different => ?_
    cases within : inside (before.world.locals thread) with
    | false =>
        rw [startTimes_of_outside turns within, sends_of_outside within, List.append_nil]
        exact inv.stands other
    | true =>
        -- The mover has the mutex, so the other call is not in its critical section.
        refine (inv.stands other).of_outside (eq_false_of_ne_true fun busy => different ?_)
        exact inv.exclusive.alone other thread busy within
  exact ⟨turns_window nonempty inv.window own (inv.exclusive.holds thread) turns, everywhere,
    (program_guarded sampleSize).exclusive (.move made) inv.exclusive⟩

theorem inv_fresh {sampleSize : Nat} {world : World TimeMetric Stage} (fresh : Fresh sampleSize world) :
    Inv sampleSize ⟨world, []⟩ := by
  obtain ⟨shared, stages⟩ := fresh
  refine ⟨?_, fun thread => ?_, fun thread busy => ?_, fun thread other busy => ?_⟩
  · rw [shared]
    refine ⟨List.length_replicate .., ?_, by simp, fun _ => agree_empty _ _ _ 0⟩
    simp [startup]
  · rcases stages thread with idle | start
    · simp [idle, Stands]
    · simp [start, Stands]
  · rcases stages thread with idle | start
    · simp [idle, inside] at busy
    · simp [start, inside] at busy
  · rcases stages thread with idle | start
    · simp [idle, inside] at busy
    · simp [start, inside] at busy

/-- Any number of calls, interleaved in any way: every access is in range, the index
counts the calls that have placed their sample up to the size of the array, and while
the mutex is free the entries below the index carry the start times of the last calls,
in their order. -/
theorem window_of_sends {sampleSize : Nat} {start : World TimeMetric Stage} {moves : List (Nat × Option Int)}
    {last : Logged} (nonempty : 1 ≤ sampleSize) (fresh : Fresh sampleSize start)
    (run : Run (LogSteps sampleSize) ⟨start, []⟩ moves last) :
    (∀ thread choice, sendMetricRequest sampleSize thread last.world.shared choice (last.world.locals thread) = none →
      rests last.world.shared choice (last.world.locals thread) = true) ∧
    last.world.shared.index = min last.sent.length sampleSize ∧
    (last.world.shared.locked = false → (startTimes last.world.shared).take last.world.shared.index =
      last.sent.drop (last.sent.length - last.world.shared.index)) := by
  have inv : Inv sampleSize last :=
    run.invariant (Inv sampleSize) (fun _ _ _ stepped inv => inv.step nonempty stepped) (inv_fresh fresh)
  refine ⟨fun thread choice stuck => ?_, inv.window.index, fun free => ?_⟩
  · exact rests_of_none inv.window (inv.stands thread) nonempty stuck
  · have index := inv.window.index
    exact (inv.window.free free).take_eq_drop (by omega)

/-- Three calls on two samples, the third of which shifts. -/
theorem window_of_sends_three : ∃ last,
    Fresh 2 twoSamples ∧ Run (LogSteps 2) ⟨twoSamples, []⟩ overtaken last ∧ last.sent = [1, 2, 3] ∧
    (startTimes last.world.shared).take last.world.shared.index = [2, 3] := by
  obtain ⟨last, followed, sent, index, free⟩ : ∃ last, follow (fun state move =>
      if readsPositive (state.world.locals move.1) move.2 = true then logStep 2 state move else none)
        overtaken ⟨twoSamples, []⟩ = some last ∧ last.sent = [1, 2, 3] ∧
      last.world.shared.index = 2 ∧ last.world.shared.locked = false := ⟨_, rfl, rfl, rfl, rfl⟩
  have run : Run (LogSteps 2) ⟨twoSamples, []⟩ overtaken last := Run.of_follow_if followed
  have window := (window_of_sends (by decide) twoSamples_fresh run).2.2 free
  rw [sent, index] at window
  exact ⟨last, twoSamples_fresh, run, sent, by rw [index, window]; rfl⟩

end Carrier.MetricWindow
