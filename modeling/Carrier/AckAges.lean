import Carrier.AckReply

/-! How old the checker of `network/components/ackreply` takes an entry to be. Both the
time of sending and the time of the check are `time.Now().Second()`, the second within
the minute, so that whole minutes drop out of their difference. -/
namespace Carrier.AckAges

open AckReply TransitionSystem

/-- `time.Now().Second()`, for a clock in whole seconds. -/
def second (time : Int) : Int := time % 60

variable (calls : Nat → Call) (settings : Settings)

def Expires (state : State) (index call : Nat) (time : Int) : Prop :=
  ∃ last, follow (step calls settings) (.visit index :: List.replicate 3 (.check (second time))) state =
      some last ∧
    last.tracks (calls call).msgID = false ∧ last.log = state.log ++ [.report (calls call).msgID .failed]

def Skips (state : State) (index : Nat) (time : Int) : Prop :=
  follow (step calls settings) (.visit index :: List.replicate 2 (.check (second time))) state = some state

variable {calls settings} {state : State} {index call : Nat} {msgID : String}

theorem follow_visit (watching : state.check = .watching) (found : state.syncWaitAck[index]? = some (msgID, call))
    (labels : List Label) :
    follow (step calls settings) (.visit index :: labels) state =
      follow (step calls settings) labels (state.setCheck (.visiting call)) := by
  simp [follow, step, visitStep, watching, found]

theorem check_visiting (state : State) (call : Nat) (now : Int) :
    checkStep calls settings (state.setCheck (.visiting call)) now = some (state.setCheck
      (if settings.ackMessageTimeout < now - (state.times call).whenSend then .expired call
        else .tested call)) := by
  by_cases old : settings.ackMessageTimeout < now - (state.times call).whenSend
  · rw [if_pos old]
    exact if_pos old
  · rw [if_neg old]
    exact if_neg old

theorem check_tested (state : State) (call : Nat) (now : Int) :
    checkStep calls settings (state.setCheck (.tested call)) now = some (state.setCheck
      (if now - (state.times call).whenSend < settings.ackCheckedInterval then .watching
        else .due call)) := by
  by_cases recent : now - (state.times call).whenSend < settings.ackCheckedInterval
  · rw [if_pos recent]
    exact if_pos recent
  · rw [if_neg recent]
    exact if_neg recent

theorem check_due_log {next : State} {now : Int}
    (checked : checkStep calls settings (state.setCheck (.due call)) now = some next) : next.log = state.log := by
  by_cases stale : now - (state.times call).latestSendSuccessAt > settings.ackCheckedInterval
  · obtain rfl := Option.some.inj ((if_pos stale).symm.trans checked)
    rfl
  · obtain rfl := Option.some.inj ((if_neg stale).symm.trans checked)
    rfl

theorem expires_iff (watching : state.check = .watching) (found : state.syncWaitAck[index]? = some (msgID, call))
    (time : Int) :
    Expires calls settings state index call time ↔
      settings.ackMessageTimeout < second time - (state.times call).whenSend := by
  rw [Expires, follow_visit watching found]
  simp only [List.replicate, follow, step, check_visiting, Option.bind_some]
  by_cases old : settings.ackMessageTimeout < second time - (state.times call).whenSend
  · simp only [old, if_true, iff_true]
    exact ⟨_, rfl, by simp [State.tracks, State.record, State.untrack, State.setCheck], rfl⟩
  · simp only [old, if_false, check_tested, Option.bind_some, iff_false]
    -- from here no test writes to the log
    rintro ⟨last, followed, _, log⟩
    by_cases recent : second time - (state.times call).whenSend < settings.ackCheckedInterval
    · rw [if_pos recent] at followed
      cases followed
    · rw [if_neg recent] at followed
      obtain ⟨next, checked, ended⟩ := Option.bind_eq_some_iff.mp followed
      cases ended
      rw [check_due_log checked] at log
      simp at log

theorem skips_iff (watching : state.check = .watching) (found : state.syncWaitAck[index]? = some (msgID, call))
    (time : Int) :
    Skips calls settings state index time ↔
      ¬ settings.ackMessageTimeout < second time - (state.times call).whenSend ∧
        second time - (state.times call).whenSend < settings.ackCheckedInterval := by
  have back : state.setCheck .watching = state := by
    cases state
    cases watching
    rfl
  have elsewhere : ∀ last : State, last.check ≠ .watching → ¬ (some last = some state) := by
    rintro last apart ⟨rfl⟩
    exact apart watching
  rw [Skips, follow_visit watching found]
  simp only [List.replicate, follow, step, check_visiting, Option.bind_some]
  by_cases old : settings.ackMessageTimeout < second time - (state.times call).whenSend
  · simp only [old, if_true, not_true, false_and, iff_false]
    exact elsewhere _ (by simp [State.setCheck, State.untrack])
  · simp only [old, if_false, check_tested, Option.bind_some, not_false_eq_true, true_and]
    by_cases recent : second time - (state.times call).whenSend < settings.ackCheckedInterval
    · simp [recent, back]
    · simp only [recent, if_false, iff_false]
      exact elsewhere _ (by simp [State.setCheck])

def Timely (calls : Nat → Call) (settings : Settings) (state : State) (index call : Nat) (sent time : Int) : Prop :=
  (Expires calls settings state index call time ↔ time - sent > settings.ackMessageTimeout) ∧
    (¬ time - sent > settings.ackMessageTimeout →
      (Skips calls settings state index time ↔ time - sent < settings.ackCheckedInterval))

/-- The whole minutes that drop out do not carry the age across the timeout, nor across
the interval. -/
def Legible (settings : Settings) (sent time : Int) : Prop :=
  (time - sent ≤ settings.ackMessageTimeout ∨ settings.ackMessageTimeout < second time - second sent) ∧
    (settings.ackMessageTimeout < time - sent ∨ time - sent < settings.ackCheckedInterval ∨
      settings.ackCheckedInterval ≤ second time - second sent)

/-- For every entry, time of sending and later tick. Within one minute the age is read
right. -/
theorem timely_iff (watching : state.check = .watching)
    (found : state.syncWaitAck[index]? = some (msgID, call)) (sent time : Int) (later : sent ≤ time)
    (stamped : (state.times call).whenSend = second sent) :
    (Timely calls settings state index call sent time ↔ Legible settings sent time) ∧
      (time / 60 = sent / 60 → Timely calls settings state index call sent time) := by
  have shorter : second time - second sent ≤ time - sent := by
    simp only [second]
    omega
  have exact : Timely calls settings state index call sent time ↔ Legible settings sent time := by
    rw [Timely, Legible, expires_iff watching found, skips_iff watching found, stamped]
    omega
  refine ⟨exact, fun minute => exact.mpr ?_⟩
  have equal : second time - second sent = time - sent := by
    simp only [second]
    omega
  rw [Legible, equal]
  omega

/-! One entry under the default settings, sent in second 55 of a minute. -/

def lateCall : Call where
  msgID := "late"
  req := ⟨[1], 1000, AcceptLoops.neighbour [1], 0⟩
  stream := false
  signature := none
  background := none

def lateState : State :=
  { emptyState with times := fun _ => ⟨second 55, 0⟩, syncWaitAck := [("late", 0)] }

/-- Four seconds later the entry is old enough to be sent again and not to be given up. -/
theorem timely_iff_same_minute :
    Timely (fun _ => lateCall) defaultOptions lateState 0 0 55 59 :=
  (timely_iff rfl rfl 55 59 (by decide) rfl).2 (by decide)

/-- Fifteen seconds later, across the minute, the entry is past its timeout of ten and
is skipped as too recent; ten minutes later it still is. -/
theorem tick_not_timely :
    70 - 55 > defaultOptions.ackMessageTimeout ∧
    ¬ Expires (fun _ => lateCall) defaultOptions lateState 0 0 70 ∧
    Skips (fun _ => lateCall) defaultOptions lateState 0 70 ∧
    ¬ Expires (fun _ => lateCall) defaultOptions lateState 0 0 (70 + 600) := by
  have watching : lateState.check = .watching := rfl
  have found : lateState.syncWaitAck[0]? = some ("late", 0) := rfl
  rw [expires_iff watching found, skips_iff watching found, expires_iff watching found]
  decide

end Carrier.AckAges
