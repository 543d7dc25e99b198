import Carrier.AckLifecycle
import Carrier.AckTracking

/-! The client runs one automaton for each message. Where the IDs of the calls differ, a
step is a move in the life of the message it is about and leaves every other life as it
was, so that what holds of one life holds of the client. An answer that comes too early
or too late leaves a message that is reported twice, sent again or kept in `SyncWaitAck`
after its success. -/
namespace Carrier.AckSettling

open TransitionSystem AckReply AckLifecycle AckTracking
open AcceptLoops (ackReply)

def happening (calls : Nat → Call) (call : Nat) : Event → Option Happening
  | .sent sender copy => if sender = call then some (.sent copy) else none
  | .report msgID state => if msgID = (calls call).msgID then some (.report state) else none
  | .accepted _ _ => none

def trace (calls : Nat → Call) (log : List Event) (call : Nat) : List Happening :=
  log.filterMap (happening calls call)

def watch (call : Nat) : CheckStage → Watch
  | .watching => .away
  | .visiting held => if held = call then .weighing else .away
  | .tested held => if held = call then .weighing else .away
  | .due held => if held = call then .weighing else .away
  | .expired held => if held = call then .expired else .away
  | .failing held => if held = call then .failing else .away

def life (calls : Nat → Call) (state : State) (call : Nat) : Life where
  stage := state.stages call
  answer := state.answers call
  queued := state.outgoing call
  sleeping := state.sleeping call
  watch := watch call state.check
  tracked := state.tracks (calls call).msgID
  trace := trace calls state.log call

section projection
variable {calls : Nat → Call} {settings : Settings} {state next : State} {label : Label} {call other : Nat}

theorem tracks_untrack (state : State) (gone msgID : String) :
    (state.untrack gone).tracks msgID = (state.tracks msgID && decide (msgID ≠ gone)) := by
  rw [Bool.eq_iff_iff]
  simp only [State.tracks, State.untrack, List.any_eq_true, List.mem_filter, Bool.and_eq_true,
    decide_eq_true_eq]
  constructor
  · rintro ⟨entry, ⟨member, kept⟩, rfl⟩
    exact ⟨⟨entry, member, rfl⟩, kept⟩
  · rintro ⟨⟨entry, member, rfl⟩, kept⟩
    exact ⟨entry, ⟨member, kept⟩, rfl⟩

theorem tracks_track (state : State) (new msgID : String) (call : Nat) :
    (state.track new call).tracks msgID = (decide (msgID = new) || (state.untrack new).tracks msgID) := by
  simp [State.tracks, State.track, State.untrack, eq_comm]

/-! The parts of a life that an operation on the state changes. -/

theorem life_setStage (stage : SendStage) :
    life calls (state.setStage call stage) other =
      { life calls state other with stage := if other = call then stage else state.stages other } := by
  simp [life, State.setStage, State.tracks, Function.update_apply]

theorem life_setAnswer (answer : AnswerStage) :
    life calls (state.setAnswer call answer) other =
      { life calls state other with answer := if other = call then answer else state.answers other } := by
  simp [life, State.setAnswer, State.tracks, Function.update_apply]

theorem life_setOutgoing (waits : Bool) :
    life calls (state.setOutgoing call waits) other =
      { life calls state other with queued := if other = call then waits else state.outgoing other } := by
  simp [life, State.setOutgoing, State.tracks, Function.update_apply]

theorem life_setSleeping (count : Nat) :
    life calls (state.setSleeping call count) other =
      { life calls state other with sleeping := if other = call then count else state.sleeping other } := by
  simp [life, State.setSleeping, State.tracks, Function.update_apply]

theorem life_setTimes (times : Times) : life calls (state.setTimes call times) other = life calls state other :=
  rfl

theorem life_setCheck (check : CheckStage) :
    life calls (state.setCheck check) other = { life calls state other with watch := watch other check } :=
  rfl

theorem life_record (event : Event) :
    life calls (state.record event) other =
      { life calls state other with
        trace := (life calls state other).trace ++ (happening calls other event).toList } := by
  have last : [event].filterMap (happening calls other) = (happening calls other event).toList := by
    cases found : happening calls other event <;> simp [found]
  simp only [life, State.record, State.tracks, trace, List.filterMap_append, last]

theorem life_sent (copy : Copy) :
    life calls (state.record (.sent call copy)) other =
      { life calls state other with
        trace := (life calls state other).trace ++ if other = call then [.sent copy] else [] } := by
  rw [life_record]
  by_cases same : other = call
  · simp [happening, same]
  · simp [happening, same, Ne.symm same]

theorem life_report (distinct : Function.Injective fun call => (calls call).msgID) (report : AckState) :
    life calls (state.record (.report (calls call).msgID report)) other =
      { life calls state other with
        trace := (life calls state other).trace ++ if other = call then [.report report] else [] } := by
  have names : (calls call).msgID = (calls other).msgID ↔ other = call := distinct.eq_iff.trans eq_comm
  rw [life_record]
  by_cases same : other = call
  · simp [happening, same]
  · simp [happening, names, same]

theorem life_accepted (msgID : String) (outstanding : Bool) :
    life calls (state.record (.accepted msgID outstanding)) other = life calls state other := by
  rw [life_record]
  simp [happening]

theorem life_untrack (distinct : Function.Injective fun call => (calls call).msgID) :
    life calls (state.untrack (calls call).msgID) other =
      { life calls state other with
        tracked := if other = call then false else state.tracks (calls other).msgID } := by
  have names : (calls other).msgID = (calls call).msgID ↔ other = call := distinct.eq_iff
  simp only [life, tracks_untrack, ne_eq, names]
  by_cases same : other = call <;> simp [same, State.untrack]

theorem life_track (distinct : Function.Injective fun call => (calls call).msgID) :
    life calls (state.track (calls call).msgID call) other =
      { life calls state other with
        tracked := if other = call then true else state.tracks (calls other).msgID } := by
  have names : (calls other).msgID = (calls call).msgID ↔ other = call := distinct.eq_iff
  simp only [life, tracks_track, tracks_untrack, ne_eq, names]
  by_cases same : other = call <;> simp [same, State.track]

theorem answerTo_msgID {log : List Event} {msgID : String} (answered : answerTo calls log call = some msgID) :
    msgID = (calls call).msgID ∧ .sent .first ∈ trace calls log call := by
  obtain ⟨event, member, replied⟩ := List.exists_of_findSome?_eq_some answered
  cases event with
  | report => cases replied
  | accepted => cases replied
  | sent sender copy =>
      dsimp only at replied
      split at replied
      case isFalse => cases replied
      case isTrue same =>
          subst same
          obtain ⟨rfl, rfl, _⟩ := ackReply_msgID replied
          exact ⟨rfl, List.mem_filterMap.mpr ⟨_, member, if_pos rfl⟩⟩

structure Named (calls : Nat → Call) (state : State) : Prop where
  answers : ∀ call msgID, state.answers call = .deleted msgID → msgID = (calls call).msgID
  entries : ∀ entry ∈ state.syncWaitAck, entry.1 = (calls entry.2).msgID

theorem answers_eq (acts : Acts calls state label next) {call : Nat} (other : label ≠ .answer call) :
    next.answers call = state.answers call := by
  cases acts with
  | delivers emptied _ which =>
      have same : emptied.answers = state.answers := by
        rcases which with rfl | rfl <;> rfl
      split <;> exact congrFun same call
  | resends woken _ which =>
      have same : woken.answers = state.answers := by
        rcases which with rfl | rfl <;> rfl
      split <;> exact congrFun same call
  | deletes => exact Function.update_of_ne (fun same => other (congrArg Label.answer same.symm)) _ _
  | succeeds => exact Function.update_of_ne (fun same => other (congrArg Label.answer same.symm)) _ _
  | _ => rfl

theorem answered_of_acts (acts : Acts calls state (.answer call) next) :
    (∃ msgID, answerTo calls state.log call = some msgID ∧
      next = (state.untrack msgID).setAnswer call (.deleted msgID)) ∨
    (state.answers call ≠ .waiting ∧ next.answers call = .reported) := by
  cases acts with
  | deletes msgID _ answered => exact .inl ⟨msgID, answered, rfl⟩
  | succeeds msgID deleted =>
      have later : state.answers call ≠ .waiting := by
        rw [deleted]
        intro waiting
        cases waiting
      exact .inr ⟨later, Function.update_self ..⟩

theorem Named.step (named : Named calls state) (acts : Acts calls state label next) : Named calls next where
  answers := by
    intro call msgID deleted
    by_cases own : label = .answer call
    · subst own
      rcases answered_of_acts acts with ⟨answer, answered, rfl⟩ | ⟨_, reported⟩
      · obtain rfl : answer = msgID := AnswerStage.deleted.inj ((Function.update_self ..).symm.trans deleted)
        exact (answerTo_msgID answered).1
      · rw [reported] at deleted
        cases deleted
    · rw [answers_eq acts own] at deleted
      exact named.answers call msgID deleted
  entries := by
    intro entry member
    cases stores : storing state label with
    | none => exact named.entries entry ((keeps_of_acts acts stores).entries.subset member)
    | some call =>
        rw [(stored_of_acts acts stores).entries] at member
        rcases List.mem_cons.mp member with rfl | earlier
        · rfl
        · exact named.entries entry (List.mem_of_mem_filter earlier)

theorem moves_or_rests (call : Nat) (own : Moves (life calls state call) (life calls next call))
    (rests : other ≠ call → life calls next other = life calls state other) :
    life calls next other = life calls state other ∨ Moves (life calls state other) (life calls next other) := by
  by_cases same : other = call
  · subst same
    exact .inr own
  · exact .inl (rests same)

theorem moves_or_rests_stage {later : SendStage} (early : Early (state.stages call))
    (unaccepted : later ≠ .accepted) :
    life calls (state.setStage call later) other = life calls state other ∨
      Moves (life calls state other) (life calls (state.setStage call later) other) := by
  apply moves_or_rests call
  · rw [life_setStage, if_pos rfl]
    exact .advances later early unaccepted
  · intro different
    rw [life_setStage, if_neg different]
    rfl

theorem moves_or_rests_check {later : CheckStage} (weighs : Weighs state.check call)
    (judged : Judged later call) :
    life calls (state.setCheck later) other = life calls state other ∨
      Moves (life calls state other) (life calls (state.setCheck later) other) := by
  have before : ∀ message, watch message state.check = if call = message then .weighing else .away := by
    intro message
    rcases weighs with held | held | held <;> rw [held] <;> rfl
  apply moves_or_rests call
  · rw [life_setCheck]
    have weighing : (life calls state call).watch = .weighing := (before call).trans (if_pos rfl)
    refine .judges _ weighing ?_
    rcases judged with rfl | rfl | rfl | rfl <;> simp [watch]
  · intro different
    have away : (life calls state other).watch = .away := (before other).trans (if_neg (Ne.symm different))
    rw [life_setCheck]
    have still : watch other later = .away := by
      rcases judged with rfl | rfl | rfl | rfl <;> simp [watch, Ne.symm different]
    rw [still, ← away]

theorem unqueued_life (distinct : Function.Injective fun call => (calls call).msgID) {emptied : State}
    (which : emptied = state.setOutgoing call false ∨
      emptied = (state.setOutgoing call false).untrack (calls call).msgID) :
    ∃ tracked, (tracked = (life calls state call).tracked ∨ tracked = false) ∧
      life calls emptied call = { life calls state call with queued := false, tracked := tracked } := by
  rcases which with rfl | rfl
  · refine ⟨_, .inl rfl, ?_⟩
    rw [life_setOutgoing, if_pos rfl]
  · refine ⟨false, .inr rfl, ?_⟩
    rw [life_untrack distinct, life_setOutgoing, if_pos rfl, if_pos rfl]

theorem unqueued_rests (distinct : Function.Injective fun call => (calls call).msgID) {emptied : State}
    (which : emptied = state.setOutgoing call false ∨
      emptied = (state.setOutgoing call false).untrack (calls call).msgID) (different : other ≠ call) :
    life calls emptied other = life calls state other := by
  rcases which with rfl | rfl
  · rw [life_setOutgoing, if_neg different]
    rfl
  · rw [life_untrack distinct, life_setOutgoing, if_neg different, if_neg different]
    rfl

theorem moves_of_acts (distinct : Function.Injective fun call => (calls call).msgID) (named : Named calls state)
    (acts : Acts calls state label next) (other : Nat) :
    life calls next other = life calls state other ∨ Moves (life calls state other) (life calls next other) := by
  cases acts with
  | refuses early => exact moves_or_rests_stage early (by decide)
  | counts start => exact moves_or_rests_stage (.inl start) (by decide)
  | looks counted => exact moves_or_rests_stage (.inr (.inl counted)) (by decide)
  | drops checked => exact moves_or_rests_stage (.inr (.inr checked)) (by decide)
  | @enqueues call _ _ checked =>
      apply moves_or_rests call
      · rw [life_setOutgoing, life_setStage, if_pos rfl, if_pos rfl]
        exact .enqueues checked
      · intro different
        rw [life_setOutgoing, life_setStage, if_neg different, if_neg different]
        rfl
  | @writes call _ _ checked =>
      apply moves_or_rests call
      · rw [life_sent, life_setStage, if_pos rfl, if_pos rfl]
        exact .writes checked
      · intro different
        rw [life_sent, life_setStage, if_neg different, if_neg different, List.append_nil]
        rfl
  | @stores call _ _ _ entry sent =>
      apply moves_or_rests call
      · rw [life_accepted, life_track distinct, life_setTimes, life_setStage, if_pos rfl, if_pos rfl]
        exact .stores sent
      · intro different
        rw [life_accepted, life_track distinct, life_setTimes, life_setStage, if_neg different, if_neg different]
        rfl
  | @delivers call fate _ emptied waits which =>
      -- the frame leaves the queue first; then it is written or given up
      obtain ⟨tracked, fewer, own⟩ := unqueued_life distinct which
      have rests : other ≠ call → life calls emptied other = life calls state other :=
        unqueued_rests distinct which
      apply moves_or_rests call
      · split
        · rw [life_sent, own, if_pos rfl]
          exact .delivers tracked waits fewer
        · rw [own]
          exact .loses tracked waits fewer
      · intro different
        split
        · rw [life_sent, rests different, if_neg different, List.append_nil]
        · exact rests different
  | @deletes call msgID waiting answered =>
      obtain ⟨rfl, sent⟩ := answerTo_msgID answered
      apply moves_or_rests call
      · rw [life_setAnswer, life_untrack distinct, if_pos rfl, if_pos rfl]
        exact .deletes _ waiting sent
      · intro different
        rw [life_setAnswer, life_untrack distinct, if_neg different, if_neg different]
        rfl
  | @succeeds call msgID deleted =>
      obtain rfl := named.answers call msgID deleted
      apply moves_or_rests call
      · rw [life_report distinct, life_setAnswer, if_pos rfl, if_pos rfl]
        exact .succeeds _ deleted
      · intro different
        rw [life_report distinct, life_setAnswer, if_neg different, if_neg different, List.append_nil]
        rfl
  | visits msgID call watching member =>
      -- the checker visits an entry that is in the map at that moment
      have name : msgID = (calls call).msgID := named.entries _ member
      have tracked : state.tracks (calls call).msgID = true :=
        List.any_eq_true.mpr ⟨_, member, decide_eq_true name⟩
      apply moves_or_rests call
      · rw [life_setCheck]
        simp only [watch, if_pos]
        exact .visits (by simp [life, watch, watching]) tracked
      · intro different
        rw [life_setCheck]
        simp [life, watch, watching, Ne.symm different]
  | judges call later weighs judged => exact moves_or_rests_check weighs judged
  | schedules call due =>
      apply moves_or_rests call
      · rw [life_setSleeping, life_setCheck, if_pos rfl]
        exact .schedules (by simp [life, watch, due])
      · intro different
        rw [life_setSleeping, life_setCheck, if_neg different]
        simp [life, watch, due, Ne.symm different, State.setCheck]
  | expires call expired =>
      apply moves_or_rests call
      · rw [life_untrack distinct, life_setCheck, if_pos rfl]
        simp only [watch, if_pos]
        exact .expires (by simp [life, watch, expired])
      · intro different
        rw [life_untrack distinct, life_setCheck, if_neg different]
        simp [life, watch, expired, Ne.symm different, State.setCheck, State.tracks]
  | fails call failing =>
      apply moves_or_rests call
      · rw [life_report distinct, life_setCheck, if_pos rfl]
        exact .fails (by simp [life, watch, failing])
      · intro different
        rw [life_report distinct, life_setCheck, if_neg different]
        simp [life, watch, failing, Ne.symm different]
  | @resends call fate woken sleeps which =>
      have same : life calls woken = life calls (state.setSleeping call (state.sleeping call - 1)) := by
        rcases which with rfl | rfl <;> rfl
      apply moves_or_rests call
      · split
        · rw [life_sent, same, life_setSleeping, if_pos rfl, if_pos rfl]
          exact .resends sleeps
        · rw [same, life_setSleeping, if_pos rfl]
          exact .gives sleeps
      · intro different
        split
        · rw [life_sent, same, life_setSleeping, if_neg different, if_neg different, List.append_nil]
          rfl
        · rw [same, life_setSleeping, if_neg different]
          rfl
  | touches => exact .inl rfl

/-! Runs. -/

def Timely (calls : Nat → Call) (state : State) : Label → Prop
  | .answer call => state.answers call = .waiting → Ready (life calls state call)
  | _ => True

def Sound (calls : Nat → Call) (state : State) : Prop :=
  ∀ call, Clean (trace calls state.log call) ∧
    (state.answers call ≠ .waiting → Settled (life calls state call))

structure AllGood (calls : Nat → Call) (state : State) : Prop where
  named : Named calls state
  lives : ∀ call, Good (life calls state call)

theorem AllGood.sound (good : AllGood calls state) : Sound calls state :=
  fun call => ⟨(good.lives call).clean, (good.lives call).answered⟩

theorem AllGood.step (good : AllGood calls state)
    (distinct : Function.Injective fun call => (calls call).msgID)
    (step : Steps calls settings state label next) (timely : Timely calls state label) :
    AllGood calls next := by
  refine ⟨good.named.step step.acts, fun call => ?_⟩
  rcases moves_of_acts distinct good.named step.acts call with rests | moves
  · rw [rests]
    exact good.lives call
  · refine (good.lives call).moves moves fun waiting answered => ?_
    -- only the answer to this message changes how far it is answered
    have own : label = .answer call := by
      by_contra other
      exact answered ((answers_eq step.acts other).trans waiting)
    subst own
    exact timely waiting

theorem Sound.timely (sound : Sound calls next) (distinct : Function.Injective fun call => (calls call).msgID)
    (step : Steps calls settings state label next) : Timely calls state label := by
  cases label with
  | answer call =>
      intro waiting
      rcases answered_of_acts step.acts with ⟨msgID, answered, rfl⟩ | ⟨later, _⟩
      · obtain ⟨rfl, _⟩ := answerTo_msgID answered
        have deleted : ((state.untrack (calls call).msgID).setAnswer call
            (.deleted (calls call).msgID)).answers call ≠ .waiting := by
          simp [State.setAnswer]
        have settled := (sound call).2 deleted
        rw [life_setAnswer, life_untrack distinct] at settled
        exact ⟨settled.stage, settled.sleeping, settled.watch, settled.failed⟩
      · exact absurd waiting later
  | _ => trivial

theorem allGood_of_fresh (fresh : Fresh state) : AllGood calls state where
  named :=
    { answers := fun call msgID deleted => by rw [fresh.answers] at deleted; cases deleted
      entries := fun entry member => by rw [fresh.syncWaitAck] at member; cases member }
  lives := fun call => by
    have untracked : state.tracks (calls call).msgID = false := by simp [State.tracks, fresh.syncWaitAck]
    have silent : trace calls state.log call = [] := by simp [trace, fresh.log]
    have start : life calls state call = ⟨.start, .waiting, false, 0, .away, false, []⟩ := by
      simp [life, fresh.stages, fresh.answers, fresh.outgoing, fresh.sleeping, fresh.check, untracked, silent, watch]
    rw [start]
    exact Good.start

/-- While every answer comes when its message is stored, not held by the checker or one
of its goroutines and not failed, no message is reported twice, and none is sent again,
failed or stored after its success. The next step leaves every answered message settled
exactly if it is such an answer or none. -/
theorem messages_settle_while_timely {labels : List Label} {now : State}
    (distinct : Function.Injective fun call => (calls call).msgID) (fresh : Fresh state)
    (run : Run (fun s l t => Steps calls settings s l t ∧ Timely calls s l) state labels now) :
    (∀ call, Clean (trace calls now.log call) ∧
      (.report .success ∈ trace calls now.log call → now.tracks (calls call).msgID = false)) ∧
    Sound calls now ∧
    ∀ label next, Steps calls settings now label next → (Sound calls next ↔ Timely calls now label) := by
  have good : AllGood calls now := run.invariant (AllGood calls)
    (fun _ _ _ step before => before.step distinct step.1 step.2) (allGood_of_fresh fresh)
  refine ⟨fun call => ⟨(good.lives call).clean, fun success => ?_⟩, good.sound, fun label next step => ?_⟩
  · have reported : now.answers call = .reported := (good.lives call).success success
    have answered : now.answers call ≠ .waiting := by rw [reported]; decide
    exact ((good.lives call).answered answered).tracked
  · exact ⟨fun sound => sound.timely distinct step, fun timely => (good.step distinct step timely).sound⟩

instance (life : Life) : Decidable (Ready life) :=
  decidable_of_iff (life.stage = .accepted ∧ life.sleeping = 0 ∧ life.watch = .away ∧
      .report .failed ∉ life.trace)
    ⟨fun ⟨stage, sleeping, watch, failed⟩ => ⟨stage, sleeping, watch, failed⟩,
      fun ready => ⟨ready.stage, ready.sleeping, ready.watch, ready.failed⟩⟩

instance (calls : Nat → Call) (state : State) (label : Label) : Decidable (Timely calls state label) :=
  match label with
  | .answer call => inferInstanceAs (Decidable (state.answers call = .waiting → Ready (life calls state call)))
  | .call .. => isTrue trivial
  | .deliver .. => isTrue trivial
  | .visit .. => isTrue trivial
  | .check .. => isTrue trivial
  | .resend .. => isTrue trivial
  | .touch .. => isTrue trivial

theorem messages_settle_one :
    ∃ labels now,
      Run (fun s l t => Steps manyCalls defaultOptions s l t ∧ Timely manyCalls s l) emptyState labels now ∧
      trace manyCalls now.log 1 = [.sent .first, .report .success] ∧
      Clean (trace manyCalls now.log 1) ∧ now.tracks (manyCalls 1).msgID = false := by
  obtain ⟨labels, now, followed, seen⟩ :
      ∃ labels now, follow (fun s l => if Timely manyCalls s l then step manyCalls defaultOptions s l else none)
          labels emptyState = some now ∧
        trace manyCalls now.log 1 = [.sent .first, .report .success] :=
    ⟨List.replicate 4 (.call 1 .written 0 0) ++ [.answer 1, .answer 1], _, rfl, rfl⟩
  have run := Run.of_follow_if followed
  obtain ⟨clean, untracked⟩ := (messages_settle_while_timely manyCalls_distinct emptyState_fresh run).1 1
  exact ⟨labels, now, run, seen, clean, untracked (by rw [seen]; decide)⟩

/-- The answer overtakes the store: the message stays in `SyncWaitAck` after its
success, is sent again and is reported as failed. -/
theorem answer_before_store :
    ∃ early stored late last,
      Run (Steps manyCalls defaultOptions) emptyState early stored ∧
      stored.stages 1 = .accepted ∧ stored.tracks (manyCalls 1).msgID = true ∧
      trace manyCalls stored.log 1 = [.sent .first, .report .success] ∧
      Run (Steps manyCalls defaultOptions) stored late last ∧
      trace manyCalls last.log 1 = [.sent .first, .report .success, .sent .again, .report .failed] := by
  obtain ⟨early, stored, late, last, first, accepted, tracked, answered, second, seen⟩ :
      ∃ early stored late last,
        follow (step manyCalls defaultOptions) early emptyState = some stored ∧
        stored.stages 1 = .accepted ∧ stored.tracks (manyCalls 1).msgID = true ∧
        trace manyCalls stored.log 1 = [.sent .first, .report .success] ∧
        follow (step manyCalls defaultOptions) late stored = some last ∧
        trace manyCalls last.log 1 = [.sent .first, .report .success, .sent .again, .report .failed] :=
    ⟨List.replicate 3 (.call 1 .written 0 0) ++ [.answer 1, .answer 1, .call 1 .written 0 0], _,
      [.visit 0, .check 5, .check 5, .check 5, .resend 1 .written, .visit 0, .check 20, .check 20, .check 20], _,
      rfl, rfl, rfl, rfl, rfl, rfl⟩
  exact ⟨early, stored, late, last, Run.of_follow (fun _ _ _ next => next) first, accepted, tracked, answered,
    Run.of_follow (fun _ _ _ next => next) second, seen⟩

end projection

end Carrier.AckSettling
