import Carrier.AckReply

/-! What a message in `SyncWaitAck` can count on: that every copy of it on the
connection can be answered, that the map stays within its capacity and that an ID is
stored once. The first fails with the first copy `Tell` sends. The other two fail where
two calls make their checks before either stores. -/
namespace Carrier.AckTracking

open AckReply TransitionSystem
open AcceptLoops (ackReply)

section steps
variable {calls : Nat → Call} {settings : Settings} {state next : State} {label : Label}

/-! Frames. -/

def written (calls : Nat → Call) (state : State) : Label → Option (Nat × Copy)
  | .call call .written _ _ =>
      if state.stages call = .checked ∧ (calls call).stream = false then some (call, .first) else none
  | .deliver call .written _ => some (call, .first)
  | .resend call .written => some (call, .again)
  | _ => none

theorem sent_mem_iff (acts : Acts calls state label next) (call : Nat) (copy : Copy) :
    .sent call copy ∈ next.log ↔
      .sent call copy ∈ state.log ∨ written calls state label = some (call, copy) := by
  cases acts with
  | @refuses call fate _ _ early error =>
      cases fate with
      | written =>
          -- a call refused at its write got an error, so that it wrote nothing
          have earlier : state.stages call ≠ .checked := fun checked => by cases error checked
          simp [State.setStage, written, earlier]
      | _ => simp [State.setStage, written]
  | @counts _ fate _ _ start => cases fate <;> simp [State.setStage, written, start]
  | @looks _ fate _ _ counted => cases fate <;> simp [State.setStage, written, counted]
  | drops => simp [State.setStage, written]
  | enqueues _ stream => simp [State.setStage, State.setOutgoing, written, stream]
  | writes checked plain =>
      simp [State.setStage, State.record, written, checked, plain, eq_comm]
  | @stores _ fate _ _ _ sent =>
      cases fate <;> simp [State.setStage, State.setTimes, State.track, State.record, written, sent]
  | @delivers _ fate _ emptied _ which =>
      have same : emptied.log = state.log := by
        rcases which with rfl | rfl <;> rfl
      cases fate <;> simp [State.record, written, same, eq_comm]
  | deletes => simp [State.untrack, State.setAnswer, written]
  | succeeds => simp [State.setAnswer, State.record, written]
  | visits => simp [State.setCheck, written]
  | judges => simp [State.setCheck, written]
  | schedules => simp [State.setCheck, State.setSleeping, written]
  | expires => simp [State.setCheck, State.untrack, written]
  | fails => simp [State.setCheck, State.record, written]
  | @resends _ fate woken _ which =>
      have same : woken.log = state.log := by
        rcases which with rfl | rfl <;> rfl
      cases fate <;> simp [State.record, written, same, eq_comm]
  | touches => simp [State.setTouching, State.setTimes, written]

def Answerable (calls : Nat → Call) (state : State) : Prop :=
  ∀ call copy, .sent call copy ∈ state.log →
    ((calls call).frame copy).messageID = (calls call).msgID ∧
      ackReply .accept true ((calls call).frame copy) = some (calls call).msgID

/-- A step writes no second copy and no frame for an empty ID. -/
def Marked (calls : Nat → Call) (state : State) (label : Label) : Prop :=
  ∀ call copy, written calls state label = some (call, copy) → copy = .first ∧ (calls call).msgID ≠ ""

instance : Decidable (Marked calls state label) :=
  decidable_of_iff (∀ frame ∈ written calls state label, frame.2 = .first ∧ (calls frame.1).msgID ≠ "")
    ⟨fun all call copy wrote => all (call, copy) wrote, fun marked frame wrote => marked frame.1 frame.2 wrote⟩

theorem answerable_step_iff (step : Steps calls settings state label next) (before : Answerable calls state) :
    Answerable calls next ↔ Marked calls state label := by
  constructor
  · intro after call copy wrote
    obtain ⟨_, answered⟩ := after call copy ((sent_mem_iff step.acts call copy).mpr (.inr wrote))
    obtain ⟨first, _, named⟩ := ackReply_msgID answered
    exact ⟨first, named⟩
  · intro marked call copy sent
    rcases (sent_mem_iff step.acts call copy).mp sent with earlier | wrote
    · exact before call copy earlier
    · obtain ⟨rfl, named⟩ := marked call copy wrote
      exact ⟨rfl, ackReply_first (calls call) named⟩

/-- While no second copy and no frame for an empty ID is written, every frame names its
message and is answered under that name; the next step keeps this exactly if it writes
none either. -/
theorem frames_answerable_while_marked {labels : List Label} {now : State} (fresh : Fresh state)
    (run : Run (fun s l t => Steps calls settings s l t ∧ Marked calls s l) state labels now) :
    Answerable calls now ∧
      ∀ label next, Steps calls settings now label next → (Answerable calls next ↔ Marked calls now label) := by
  have initial : Answerable calls state := by
    intro call copy sent
    rw [fresh.log] at sent
    cases sent
  have answerable := run.invariant (Answerable calls)
    (fun _ _ _ step before => (answerable_step_iff step.1 before).mpr step.2) initial
  exact ⟨answerable, fun label next step => answerable_step_iff step answerable⟩

def sampleCall (msgID : String) : Call where
  msgID := msgID
  req := ⟨[], 1, ⟨none, "tcp://127.0.0.1:1", [], [], ""⟩, 0⟩
  stream := false
  signature := none
  background := none

theorem frames_answerable_one :
    ∃ labels now,
      Run (fun s l t => Steps (fun _ => sampleCall "m") defaultOptions s l t ∧
        Marked (fun _ => sampleCall "m") s l) emptyState labels now ∧
      now.log = [.sent 0 .first, .accepted "m" false] ∧ Answerable (fun _ => sampleCall "m") now := by
  obtain ⟨labels, now, followed, log⟩ :
      ∃ labels now, follow (fun s l => if Marked (fun _ => sampleCall "m") s l
          then step (fun _ => sampleCall "m") defaultOptions s l else none) labels emptyState = some now ∧
        now.log = [.sent 0 .first, .accepted "m" false] :=
    ⟨List.replicate 4 (.call 0 .written 0 0), _, rfl, rfl⟩
  have run := Run.of_follow_if followed
  exact ⟨labels, now, run, log, (frames_answerable_while_marked emptyState_fresh run).1⟩

/-- The checker sends a copy of a stored message that no peer answers. -/
theorem second_copy_unanswered :
    ∃ labels now, Run (Steps (fun _ => sampleCall "m") defaultOptions) emptyState labels now ∧
      now.tracks "m" = true ∧ now.log = [.sent 0 .first, .accepted "m" false, .sent 0 .again] ∧
      ((sampleCall "m").frame .again).messageID = "" ∧
      ¬ Answerable (fun _ => sampleCall "m") now := by
  obtain ⟨labels, now, followed, tracked, log⟩ :
      ∃ labels now, follow (step (fun _ => sampleCall "m") defaultOptions) labels emptyState = some now ∧
        now.tracks "m" = true ∧ now.log = [.sent 0 .first, .accepted "m" false, .sent 0 .again] :=
    ⟨List.replicate 4 (.call 0 .written 0 0) ++
      [.visit 0, .check 5, .check 5, .check 5, .resend 0 .written], _, rfl, rfl, rfl⟩
  refine ⟨labels, now, Run.of_follow (fun _ _ _ step => step) followed, tracked, log, rfl, fun answerable => ?_⟩
  obtain ⟨_, answered⟩ := answerable 0 .again (by rw [log]; decide)
  rw [ackReply_again] at answered
  cases answered

/-! Entries. -/

def storing (state : State) : Label → Option Nat
  | .call call _ _ _ => if state.stages call = .sent then some call else none
  | _ => none

structure Keeps (state next : State) : Prop where
  entries : next.syncWaitAck.Sublist state.syncWaitAck
  accepted : ∀ msgID outstanding, .accepted msgID outstanding ∈ next.log ↔
    .accepted msgID outstanding ∈ state.log

theorem keeps_of_acts (acts : Acts calls state label next) (idle : storing state label = none) :
    Keeps state next := by
  cases acts with
  | refuses => exact ⟨List.Sublist.refl _, fun _ _ => Iff.rfl⟩
  | counts => exact ⟨List.Sublist.refl _, fun _ _ => Iff.rfl⟩
  | looks => exact ⟨List.Sublist.refl _, fun _ _ => Iff.rfl⟩
  | drops => exact ⟨List.Sublist.refl _, fun _ _ => Iff.rfl⟩
  | enqueues => exact ⟨List.Sublist.refl _, fun _ _ => Iff.rfl⟩
  | writes => exact ⟨List.Sublist.refl _, by simp [State.setStage, State.record]⟩
  | stores _ sent => simp [storing, sent] at idle
  | @delivers _ fate _ emptied _ which =>
      have kept : Keeps state emptied := by
        rcases which with rfl | rfl
        · exact ⟨List.Sublist.refl _, fun _ _ => Iff.rfl⟩
        · exact ⟨List.filter_sublist, fun _ _ => Iff.rfl⟩
      split
      · exact ⟨kept.entries, by simp [State.record, kept.accepted]⟩
      · exact kept
  | deletes => exact ⟨List.filter_sublist, fun _ _ => Iff.rfl⟩
  | succeeds => exact ⟨List.Sublist.refl _, by simp [State.setAnswer, State.record]⟩
  | visits => exact ⟨List.Sublist.refl _, fun _ _ => Iff.rfl⟩
  | judges => exact ⟨List.Sublist.refl _, fun _ _ => Iff.rfl⟩
  | schedules => exact ⟨List.Sublist.refl _, fun _ _ => Iff.rfl⟩
  | expires => exact ⟨List.filter_sublist, fun _ _ => Iff.rfl⟩
  | fails => exact ⟨List.Sublist.refl _, by simp [State.setCheck, State.record]⟩
  | @resends _ fate woken _ which =>
      have kept : Keeps state woken := by
        rcases which with rfl | rfl <;> exact ⟨List.Sublist.refl _, fun _ _ => Iff.rfl⟩
      split
      · exact ⟨kept.entries, by simp [State.record, kept.accepted]⟩
      · exact kept
  | touches => exact ⟨List.Sublist.refl _, fun _ _ => Iff.rfl⟩

structure Stored (calls : Nat → Call) (state next : State) (call : Nat) : Prop where
  stages : next.stages = Function.update state.stages call .accepted
  entries : next.syncWaitAck = (state.track (calls call).msgID call).syncWaitAck
  log : next.log = state.log ++ [.accepted (calls call).msgID (state.tracks (calls call).msgID)]

theorem stored_of_acts (acts : Acts calls state label next) {call : Nat}
    (stores : storing state label = some call) : Stored calls state next call := by
  cases acts with
  | refuses early => rcases early with stage | stage | stage <;> simp [storing, stage] at stores
  | counts start => simp [storing, start] at stores
  | looks counted => simp [storing, counted] at stores
  | drops checked => simp [storing, checked] at stores
  | enqueues checked => simp [storing, checked] at stores
  | writes checked => simp [storing, checked] at stores
  | stores entry sent =>
      obtain rfl : _ = call := by simpa [storing, sent] using stores
      exact ⟨rfl, rfl, rfl⟩
  | _ => cases stores

/-- `SyncWaitAck` is within its capacity and no ID was accepted while it was stored. -/
structure Bounded (state : State) : Prop where
  length : state.syncWaitAck.length ≤ defaultAckReplyCapacity
  once : ∀ msgID, .accepted msgID true ∉ state.log

/-- A call that stores its entry finds room for it and its ID not stored. -/
def Roomy (calls : Nat → Call) (state : State) (label : Label) : Prop :=
  ∀ call, storing state label = some call →
    state.syncWaitAck.length < defaultAckReplyCapacity ∧ state.tracks (calls call).msgID = false

theorem Keeps.bounded (keeps : Keeps state next) (before : Bounded state) : Bounded next where
  length := Nat.le_trans keeps.entries.length_le before.length
  once := fun msgID accepted => before.once msgID ((keeps.accepted msgID true).mp accepted)

theorem track_new (state : State) (msgID : String) (call : Nat) (absent : state.tracks msgID = false) :
    (state.track msgID call).syncWaitAck = (msgID, call) :: state.syncWaitAck := by
  have all : (state.syncWaitAck.filter fun entry => entry.1 ≠ msgID) = state.syncWaitAck := by
    apply List.filter_eq_self.mpr
    intro entry member
    have other := List.any_eq_false.mp absent entry member
    simpa using other
  unfold State.track
  rw [all]

theorem Stored.bounded_iff {call : Nat} (stored : Stored calls state next call) (before : Bounded state) :
    Bounded next ↔
      state.syncWaitAck.length < defaultAckReplyCapacity ∧ state.tracks (calls call).msgID = false := by
  constructor
  · intro after
    have absent : state.tracks (calls call).msgID = false := by
      cases found : state.tracks (calls call).msgID with
      | false => rfl
      | true =>
          have twice : .accepted (calls call).msgID true ∈ next.log := by
            rw [stored.log, found]
            exact List.mem_append_right _ (List.mem_singleton_self _)
          exact absurd twice (after.once _)
    have length := after.length
    rw [stored.entries, track_new state _ _ absent] at length
    exact ⟨length, absent⟩
  · rintro ⟨room, absent⟩
    refine ⟨?_, fun msgID accepted => ?_⟩
    · rw [stored.entries, track_new state _ _ absent]
      exact room
    · rw [stored.log, absent] at accepted
      rcases List.mem_append.mp accepted with earlier | last
      · exact before.once msgID earlier
      · cases List.mem_singleton.mp last

theorem bounded_step_iff (step : Steps calls settings state label next) (before : Bounded state) :
    Bounded next ↔ Roomy calls state label := by
  cases stores : storing state label with
  | none =>
      have bounded := (keeps_of_acts step.acts stores).bounded before
      exact iff_of_true bounded fun call some => by rw [stores] at some; cases some
  | some call =>
      rw [(stored_of_acts step.acts stores).bounded_iff before]
      constructor
      · rintro room other same
        rw [stores] at same
        obtain rfl := Option.some.inj same
        exact room
      · intro roomy
        exact roomy call stores

theorem bounded_of_fresh (fresh : Fresh state) : Bounded state where
  length := by rw [fresh.syncWaitAck]; exact Nat.zero_le _
  once := fun msgID accepted => by rw [fresh.log] at accepted; cases accepted

/-! Calls that overlap. -/

/-- Any number of calls can pass their checks before one of them stores. -/
theorem calls_pass_together {calls : Nat → Call} (plain : ∀ call, (calls call).stream = false)
    (settings : Settings) (count : Nat) :
    ∃ labels now, Run (Steps calls settings) emptyState labels now ∧ now.syncWaitAck = [] ∧
      ∀ call, now.stages call = if call < count then .sent else .start := by
  induction count with
  | zero => exact ⟨[], emptyState, .nil _, rfl, fun call => by simp [emptyState]⟩
  | succ count ih =>
      obtain ⟨labels, now, run, empty, stages⟩ := ih
      -- one more call makes its three operations; nothing is stored in between
      have start : now.stages count = .start := by simp [stages]
      have counts : Steps calls settings now (.call count .written 0 0) (now.setStage count .counted) := by
        simp [Steps, step, callStep, start, empty, defaultAckReplyCapacity]
      have looks : Steps calls settings (now.setStage count .counted) (.call count .written 0 0)
          ((now.setStage count .counted).setStage count .checked) := by
        simp [Steps, step, callStep, State.setStage, State.tracks, empty]
      have writes : Steps calls settings ((now.setStage count .counted).setStage count .checked)
          (.call count .written 0 0)
          ((((now.setStage count .counted).setStage count .checked).setStage count .sent).record
            (.sent count .first)) := by
        simp [Steps, step, callStep, State.setStage, plain]
      refine ⟨_, _, ((run.snoc counts).snoc looks).snoc writes, empty, fun call => ?_⟩
      simp only [State.setStage, State.record, Function.update_idem]
      by_cases same : call = count
      · simp [same]
      · rw [Function.update_of_ne same, stages]
        exact if_congr ⟨fun early => by omega, fun early => by omega⟩ rfl rfl

theorem calls_store_together {calls : Nat → Call} (plain : ∀ call, (calls call).stream = false)
    (distinct : Function.Injective fun call => (calls call).msgID) (settings : Settings) (count stored : Nat)
    (within : stored ≤ count) :
    ∃ labels now, Run (Steps calls settings) emptyState labels now ∧ now.syncWaitAck.length = stored ∧
      (∀ entry ∈ now.syncWaitAck, ∃ call < stored, entry.1 = (calls call).msgID) ∧
      ∀ call, stored ≤ call → call < count → now.stages call = .sent := by
  induction stored with
  | zero =>
      obtain ⟨labels, now, run, empty, stages⟩ := calls_pass_together plain settings count
      refine ⟨labels, now, run, by simp [empty], by simp [empty], fun call _ early => ?_⟩
      rw [stages, if_pos early]
  | succ stored ih =>
      obtain ⟨labels, now, run, length, entries, stages⟩ := ih (by omega)
      have sent : now.stages stored = .sent := stages stored (Nat.le_refl _) (by omega)
      -- the IDs differ, so that the store adds an entry
      have absent : now.tracks (calls stored).msgID = false := by
        apply List.any_eq_false.mpr
        intro entry member same
        obtain ⟨call, earlier, name⟩ := entries entry member
        have equal : call = stored := distinct (name.symm.trans (of_decide_eq_true same))
        omega
      obtain ⟨next, stores⟩ : ∃ next, Steps calls settings now (.call stored .written 0 0) next := by
        simp [Steps, step, callStep, sent]
      have after := stored_of_acts stores.acts (if_pos sent)
      have more : next.syncWaitAck = ((calls stored).msgID, stored) :: now.syncWaitAck := by
        rw [after.entries, track_new now _ _ absent]
      refine ⟨_, next, run.snoc stores, by simp [more, length], ?_, ?_⟩
      · intro entry member
        rw [more] at member
        rcases List.mem_cons.mp member with rfl | earlier
        · exact ⟨stored, Nat.lt_succ_self _, rfl⟩
        · obtain ⟨call, before, name⟩ := entries entry earlier
          exact ⟨call, Nat.lt_succ_of_lt before, name⟩
      · intro call later early
        rw [after.stages, Function.update_of_ne (by omega)]
        exact stages call (by omega) early

def manyCalls (call : Nat) : Call := sampleCall (String.ofList (List.replicate call 'm'))

theorem manyCalls_distinct : Function.Injective fun call => (manyCalls call).msgID := by
  intro one other same
  have lists := String.ofList_injective same
  simpa using congrArg List.length lists

/-- Calls that pass their checks together fill `SyncWaitAck` beyond its capacity, and
two of them are accepted with one ID. -/
theorem overlapping_calls_accepted :
    (∃ labels now, Run (Steps manyCalls defaultOptions) emptyState labels now ∧
      now.syncWaitAck.length = defaultAckReplyCapacity + 1) ∧
    ∃ labels now, Run (Steps (fun _ => sampleCall "m") defaultOptions) emptyState labels now ∧
      now.stages 0 = .accepted ∧ now.stages 1 = .accepted ∧
      now.log = [.sent 0 .first, .sent 1 .first, .accepted "m" false, .accepted "m" true] := by
  constructor
  · obtain ⟨labels, now, run, length, _⟩ := calls_store_together (fun _ => rfl) manyCalls_distinct
      defaultOptions
      (defaultAckReplyCapacity + 1) (defaultAckReplyCapacity + 1) (Nat.le_refl _)
    exact ⟨labels, now, run, length⟩
  · obtain ⟨labels, now, followed, first, second, log⟩ :
        ∃ labels now, follow (step (fun _ => sampleCall "m") defaultOptions) labels emptyState = some now ∧
          now.stages 0 = .accepted ∧ now.stages 1 = .accepted ∧
          now.log = [.sent 0 .first, .sent 1 .first, .accepted "m" false, .accepted "m" true] :=
      ⟨List.replicate 3 (.call 0 .written 0 0) ++ List.replicate 3 (.call 1 .written 0 0) ++
        [.call 0 .written 0 0, .call 1 .written 0 0], _, rfl, rfl, rfl, rfl⟩
    exact ⟨labels, now, Run.of_follow (fun _ _ _ next => next) followed, first, second, log⟩

/-! Calls whose checks still hold when they store, since nobody else has stored. -/

def caller : Label → Option Nat
  | .call call _ _ _ => some call
  | _ => none

/-- How many operations a call has made. They are `waitAckLen`, `Load`, the write and
`Store`, in this order; a call that is refused makes no more. -/
def operations (past : List Label) (call : Nat) : Nat := past.countP fun label => caller label = some call

def storer (past : List Label) (label : Label) : Option Nat :=
  (caller label).filter fun call => operations past call = 3

/-- No other call has stored since this one began to check. -/
def Undisturbed (past : List Label) (call : Nat) : Prop :=
  Along (fun early label => 0 < operations early call → ∀ other ∈ storer early label, other = call) past

instance (past : List Label) (call : Nat) : Decidable (Undisturbed past call) :=
  inferInstanceAs (Decidable (Along _ past))

/-- No call stores between the checks of another and its `Store`. -/
def Serial (labels : List Label) : Prop :=
  Along (fun past label => ∀ call ∈ storer past label, Undisturbed past call) labels

instance (labels : List Label) : Decidable (Serial labels) := inferInstanceAs (Decidable (Along _ labels))

theorem operations_snoc (past : List Label) (label : Label) (call : Nat) :
    operations (past ++ [label]) call = operations past call + if caller label = some call then 1 else 0 := by
  simp [operations, List.countP_append, List.countP_singleton]

theorem mem_storer {past : List Label} {call : Nat} :
    call ∈ storer past label ↔ caller label = some call ∧ operations past call = 3 := by
  simp [storer, Option.mem_def, Option.filter_eq_some_iff]

def made : SendStage → Option Nat
  | .start => some 0
  | .counted => some 1
  | .checked => some 2
  | .sent => some 3
  | .accepted => none
  | .refused => none

def Busy (stage : SendStage) : Prop := stage = .counted ∨ stage = .checked ∨ stage = .sent

/-- What an undisturbed call has checked still holds. -/
structure Reserved (calls : Nat → Call) (state : State) (call : Nat) : Prop where
  room : state.syncWaitAck.length < defaultAckReplyCapacity
  absent : state.stages call ≠ .counted → state.tracks (calls call).msgID = false

structure Checked (calls : Nat → Call) (past : List Label) (state : State) : Prop where
  made : ∀ call count, made (state.stages call) = some count → operations past call = count
  reserved : ∀ call, Busy (state.stages call) → Undisturbed past call → Reserved calls state call

theorem Keeps.tracks (keeps : Keeps state next) {msgID : String} (absent : state.tracks msgID = false) :
    next.tracks msgID = false := by
  apply List.any_eq_false.mpr
  intro entry member
  exact List.any_eq_false.mp absent entry (keeps.entries.subset member)

theorem Reserved.keep {call : Nat} (reserved : Reserved calls state call) (keeps : Keeps state next)
    (same : next.stages call = state.stages call) : Reserved calls next call where
  room := Nat.lt_of_le_of_lt keeps.entries.length_le reserved.room
  absent := fun later => keeps.tracks (reserved.absent (same ▸ later))

theorem stages_eq (acts : Acts calls state label next) (other : caller label = none) :
    next.stages = state.stages := by
  cases acts with
  | delivers emptied _ which =>
      have same : emptied.stages = state.stages := by
        rcases which with rfl | rfl <;> rfl
      split <;> exact same
  | resends woken _ which =>
      have same : woken.stages = state.stages := by
        rcases which with rfl | rfl <;> rfl
      split <;> exact same
  | deletes => rfl
  | succeeds => rfl
  | visits => rfl
  | judges => rfl
  | schedules => rfl
  | expires => rfl
  | fails => rfl
  | touches => rfl
  | _ => cases other

theorem stages_of_call (acts : Acts calls state label next) {call : Nat} (own : caller label = some call) :
    ∃ count later, made (state.stages call) = some count ∧
      next.stages = Function.update state.stages call later ∧
      (made later = some (count + 1) ∨ ¬ Busy later ∧ made later = none) := by
  cases acts with
  | refuses early =>
      cases own
      rcases early with stage | stage | stage <;>
        exact ⟨_, _, by rw [stage]; rfl, rfl, .inr ⟨by unfold Busy; decide, rfl⟩⟩
  | counts stage => cases own; exact ⟨_, _, by rw [stage]; rfl, rfl, .inl rfl⟩
  | looks stage => cases own; exact ⟨_, _, by rw [stage]; rfl, rfl, .inl rfl⟩
  | drops stage => cases own; exact ⟨_, _, by rw [stage]; rfl, rfl, .inl rfl⟩
  | enqueues stage => cases own; exact ⟨_, _, by rw [stage]; rfl, rfl, .inl rfl⟩
  | writes stage => cases own; exact ⟨_, _, by rw [stage]; rfl, rfl, .inl rfl⟩
  | stores _ stage =>
      cases own
      exact ⟨_, _, by rw [stage]; rfl, rfl, .inr ⟨by unfold Busy; decide, rfl⟩⟩
  | _ => cases own

theorem stages_of_other (acts : Acts calls state label next) {call : Nat} (other : caller label ≠ some call) :
    next.stages call = state.stages call := by
  cases own : caller label with
  | none => rw [stages_eq acts own]
  | some mover =>
      obtain ⟨_, _, _, stages, _⟩ := stages_of_call acts own
      rw [stages, Function.update_of_ne]
      rintro rfl
      exact other own

theorem Checked.storing_iff {past : List Label} (checked : Checked calls past state)
    (acts : Acts calls state label next) {call : Nat} :
    call ∈ storer past label ↔ storing state label = some call := by
  rw [mem_storer]
  constructor
  · rintro ⟨own, three⟩
    obtain ⟨count, _, stage, _⟩ := stages_of_call acts own
    obtain rfl : count = 3 := (checked.made call count stage).symm.trans three
    have sent : state.stages call = .sent := by
      generalize state.stages call = now at stage
      cases now <;> simp [AckTracking.made] at stage
      rfl
    cases label with
    | call mover fate whenSend latest =>
        cases own
        exact if_pos sent
    | _ => cases own
  · intro stores
    cases label with
    | call mover fate whenSend latest =>
        dsimp only [storing] at stores
        split at stores
        · rename_i sent
          obtain rfl := Option.some.inj stores
          exact ⟨rfl, checked.made mover 3 (by rw [sent]; rfl)⟩
        · cases stores
    | _ => cases stores

theorem Reserved.own {call : Nat} (acts : Acts calls state label next) (own : caller label = some call)
    (busy : Busy (next.stages call)) (before : Busy (state.stages call) → Reserved calls state call) :
    Reserved calls next call := by
  cases acts with
  | refuses =>
      cases own
      simp [State.setStage, Busy] at busy
  | counts start room =>
      cases own
      exact ⟨room, fun later => absurd (Function.update_self ..) later⟩
  | looks counted absent =>
      cases own
      exact ⟨(before (.inl counted)).room, fun _ => absent⟩
  | drops checked =>
      cases own
      have kept := before (.inr (.inl checked))
      exact ⟨kept.room, fun _ => kept.absent (by rw [checked]; decide)⟩
  | enqueues checked =>
      cases own
      have kept := before (.inr (.inl checked))
      exact ⟨kept.room, fun _ => kept.absent (by rw [checked]; decide)⟩
  | writes checked =>
      cases own
      have kept := before (.inr (.inl checked))
      exact ⟨kept.room, fun _ => kept.absent (by rw [checked]; decide)⟩
  | stores =>
      cases own
      simp [State.setStage, State.setTimes, State.track, State.record, Busy] at busy
  | _ => cases own

theorem Checked.step {past : List Label} (checked : Checked calls past state)
    (acts : Acts calls state label next) : Checked calls (past ++ [label]) next where
  made := by
    intro call count stage
    rw [operations_snoc]
    by_cases own : caller label = some call
    · obtain ⟨before, later, stageBefore, stages, taken⟩ := stages_of_call acts own
      rw [stages, Function.update_self] at stage
      rcases taken with further | ⟨_, ended⟩
      · rw [if_pos own, checked.made call before stageBefore]
        exact Option.some.inj (further.symm.trans stage)
      · rw [ended] at stage
        cases stage
    · rw [if_neg own]
      exact checked.made call count (stages_of_other acts own ▸ stage)
  reserved := by
    intro call busy undisturbed
    obtain ⟨earlier, now⟩ := along_snoc.mp undisturbed
    by_cases own : caller label = some call
    · exact .own acts own busy fun before => checked.reserved call before earlier
    · have same := stages_of_other acts own
      rw [same] at busy
      have begun : 0 < operations past call := by
        rcases busy with stage | stage | stage <;> rw [checked.made call _ (by rw [stage]; rfl)] <;> decide
      cases stores : storing state label with
      | none => exact (checked.reserved call busy earlier).keep (keeps_of_acts acts stores) same
      | some mover =>
          -- the call that stores would be this one, which does not move
          have member := (checked.storing_iff acts).mpr stores
          obtain rfl := now begun mover member
          exact absurd (mem_storer.mp member).1 own

/-- A `Store` that no other has come before since the checks finds what they found. -/
theorem Checked.roomy {past : List Label} (checked : Checked calls past state)
    (acts : Acts calls state label next)
    (undisturbed : ∀ call ∈ storer past label, Undisturbed past call) : Roomy calls state label := by
  intro call stores
  have member := (checked.storing_iff acts).mpr stores
  have sent : state.stages call = .sent := by
    cases label with
    | call mover fate whenSend latest =>
        dsimp only [storing] at stores
        split at stores
        · rename_i sent
          exact Option.some.inj stores ▸ sent
        · cases stores
    | _ => cases stores
  have kept := checked.reserved call (.inr (.inr sent)) (undisturbed call member)
  exact ⟨kept.room, kept.absent (by rw [sent]; decide)⟩

theorem checked_of_fresh (fresh : Fresh state) : Checked calls [] state where
  made := by
    intro call count stage
    rw [fresh.stages] at stage
    exact Option.some.inj stage
  reserved := by
    intro call busy
    rw [fresh.stages] at busy
    simp [Busy] at busy

/-- As long as no call stores between the checks of another and its `Store`, `SyncWaitAck`
is within its capacity and no ID is accepted while it is stored. In any run the step
that breaks this is a `Store` that another call's has come before since the checks. -/
theorem entries_bounded_while_serial {labels : List Label} {now : State} (fresh : Fresh state)
    (run : Run (Steps calls settings) state labels now) :
    (Serial labels → Bounded now) ∧
      ∀ label next, Steps calls settings now label next → Bounded now → ¬ Bounded next →
        ∃ call ∈ storer labels label, ¬ Undisturbed labels call := by
  have checked : Checked calls labels now :=
    run.history (Checked calls) (fun _ _ _ _ step before => before.step step.acts) (checked_of_fresh fresh)
  constructor
  · have kept : ∀ past s label t, Steps calls settings s label t →
        Checked calls past s ∧ (Serial past → Bounded s) →
        Checked calls (past ++ [label]) t ∧ (Serial (past ++ [label]) → Bounded t) := by
      rintro past s label t step ⟨before, bounded⟩
      refine ⟨before.step step.acts, fun serial => ?_⟩
      obtain ⟨earlier, now⟩ := along_snoc.mp serial
      exact (bounded_step_iff step (bounded earlier)).mpr (before.roomy step.acts now)
    exact (run.history _ kept ⟨checked_of_fresh fresh, fun _ => bounded_of_fresh fresh⟩).2
  · intro label next step bounded broken
    by_contra every
    push Not at every
    exact broken ((bounded_step_iff step bounded).mpr (checked.roomy step.acts every))

/-- Two calls with one ID while the first is stored: the second is refused. A third with
another ID has begun before and stores after the answer to the first, and a fourth with
the first ID is accepted then. -/
theorem entries_bounded_in_turn :
    ∃ labels now, Run (Steps (fun call => sampleCall (if call = 2 then "n" else "m")) defaultOptions) emptyState
        labels now ∧ Serial labels ∧
      now.syncWaitAck = [("m", 3), ("n", 2)] ∧ now.stages 1 = .refused ∧ Bounded now := by
  obtain ⟨labels, now, followed, serial, entries, second⟩ :
      ∃ labels now, follow (step (fun call => sampleCall (if call = 2 then "n" else "m")) defaultOptions) labels
          emptyState = some now ∧ Serial labels ∧ now.syncWaitAck = [("m", 3), ("n", 2)] ∧
        now.stages 1 = .refused :=
    ⟨List.replicate 4 (.call 0 .written 0 0) ++ List.replicate 2 (.call 2 .written 0 0) ++
      List.replicate 2 (.call 1 .written 0 0) ++ [.answer 0] ++ List.replicate 2 (.call 2 .written 0 0) ++
      List.replicate 4 (.call 3 .written 0 0), _, rfl, by decide, rfl, rfl⟩
  have run := Run.of_follow (fun _ _ _ next => next) followed
  exact ⟨labels, now, run, serial, entries, second, (entries_bounded_while_serial emptyState_fresh run).1 serial⟩

end steps

end Carrier.AckTracking
