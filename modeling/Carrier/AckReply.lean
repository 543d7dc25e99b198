import Carrier.AcceptLoops
import Mathlib.Logic.Function.Basic

/-! Sending with acknowledgement: `AsyncSendAndWaitAck` and
`StreamAsyncSendAndWaitAck` of `network/client.go` and the component of
`network/components/ackreply`. A call writes its frame and then stores an entry in
`SyncWaitAck`. The peer answers a frame that names a message. The answer deletes the
entry and reports success; the checker visits the entries, reports those that are too
old as failed and starts goroutines that send the others again.

A step is one operation on the map, on the connection or on `AckStatusNotify`, so that
a run interleaves the calls, the answers, the checker and its goroutines in any way.
The checker may visit any entry at any time: its ticks and the order of `Range` are
left to the run. The clock readings are `time.Now().Second()`, any numbers here. -/
namespace Carrier.AckReply

open GoRuntime Identity Framing AcceptLoops TransitionSystem

def defaultAckReplyCapacity : Nat := 4096

/-- The two durations of the component that decide, in seconds. -/
structure Settings where
  ackCheckedInterval : Int
  ackMessageTimeout : Int

def defaultOptions : Settings := ⟨3, 10⟩

/-! Messages. -/

structure Body where
  message : Bytes
  opcode : UInt32
  sender : ID
  netID : UInt32

def prepareMessage (body : Body) (signature : Option Bytes) : Message where
  message := body.message
  sender := some body.sender
  signature := signature
  requestNonce := 0
  messageNonce := 0
  replyFlag := false
  opcode := body.opcode
  netID := body.netID
  messageID := ""
  needAck := false

def prepareMessageWithMsgID (body : Body) (signature : Option Bytes) (msgID : String) : Message :=
  { prepareMessage body signature with messageID := msgID, needAck := true }

/-- A call of `AsyncSendAndWaitAck`, or of the stream variant. The caller's context
decides on the first signature, `context.Background()` on that of a second copy. -/
structure Call where
  msgID : String
  req : Body
  stream : Bool
  signature : Option Bytes
  background : Option Bytes

/-- The frame a call writes, and the one the checker's goroutine writes for its entry
with `Tell`. -/
inductive Copy where
  | first
  | again
  deriving DecidableEq, Repr

def Call.frame (call : Call) : Copy → Message
  | .first => prepareMessageWithMsgID call.req call.signature call.msgID
  | .again => prepareMessage call.req call.background

theorem ackReply_first (call : Call) (named : call.msgID ≠ "") :
    ackReply .accept true (call.frame .first) = some call.msgID :=
  if_pos ⟨rfl, rfl, named⟩

theorem ackReply_again (call : Call) (loop : Loop) (enableAckReply : Bool) :
    ackReply loop enableAckReply (call.frame .again) = none :=
  if_neg fun answers => answers.2.2 rfl

theorem ackReply_msgID {call : Call} {copy : Copy} {loop : Loop} {enableAckReply : Bool} {msgID : String}
    (answered : ackReply loop enableAckReply (call.frame copy) = some msgID) :
    copy = .first ∧ msgID = call.msgID ∧ call.msgID ≠ "" := by
  cases copy with
  | again =>
      rw [ackReply_again] at answered
      cases answered
  | first =>
      unfold ackReply at answered
      split at answered
      · rename_i answers
        exact ⟨rfl, (Option.some.inj answered).symm, answers.2.2⟩
      · cases answered

/-! The state of one client. -/

inductive SendStage where
  | start
  /-- `waitAckLen` was below the capacity. -/
  | counted
  /-- `SyncWaitAck` did not hold the ID. -/
  | checked
  /-- `Write` or `StreamWrite` gave no error. -/
  | sent
  /-- Stored, and returned without an error. -/
  | accepted
  | refused
  deriving DecidableEq, Repr

inductive AnswerStage where
  | waiting
  | deleted (msgID : String)
  | reported
  deriving DecidableEq, Repr

/-- Where the checker stands in the callback of `Range`; an entry is named by the call
that made it. -/
inductive CheckStage where
  | watching
  | visiting (call : Nat)
  | tested (call : Nat)
  | due (call : Nat)
  | expired (call : Nat)
  | failing (call : Nat)
  deriving DecidableEq, Repr

inductive AckState where
  | success
  | failed
  deriving DecidableEq, Repr

inductive Event where
  | sent (call : Nat) (copy : Copy)
  | report (msgID : String) (state : AckState)
  /-- A call returned without an error; `outstanding` says that its ID was stored before. -/
  | accepted (msgID : String) (outstanding : Bool)
  deriving DecidableEq, Repr

/-- The fields of a `PrepareAckMessage` that change or depend on the clock. Its ID and
message are those of its call. -/
structure Times where
  whenSend : Int
  latestSendSuccessAt : Int

structure State where
  stages : Nat → SendStage
  answers : Nat → AnswerStage
  /-- The calls whose frame waits in the stream send queue. -/
  outgoing : Nat → Bool
  /-- How many goroutines will send the entry of a call again. -/
  sleeping : Nat → Nat
  /-- How many of them have sent it and not yet noted the time. -/
  touching : Nat → Nat
  times : Nat → Times
  check : CheckStage
  syncWaitAck : List (String × Nat)
  log : List Event

namespace State

def tracks (state : State) (msgID : String) : Bool := state.syncWaitAck.any fun entry => entry.1 = msgID

def untrack (state : State) (msgID : String) : State :=
  { state with syncWaitAck := state.syncWaitAck.filter fun entry => entry.1 ≠ msgID }

def track (state : State) (msgID : String) (call : Nat) : State :=
  { state with syncWaitAck := (msgID, call) :: state.syncWaitAck.filter fun entry => entry.1 ≠ msgID }

def record (state : State) (event : Event) : State := { state with log := state.log ++ [event] }

def setStage (state : State) (call : Nat) (stage : SendStage) : State :=
  { state with stages := Function.update state.stages call stage }

def setAnswer (state : State) (call : Nat) (answer : AnswerStage) : State :=
  { state with answers := Function.update state.answers call answer }

def setCheck (state : State) (check : CheckStage) : State := { state with check := check }

def setTimes (state : State) (call : Nat) (times : Times) : State :=
  { state with times := Function.update state.times call times }

def setOutgoing (state : State) (call : Nat) (waits : Bool) : State :=
  { state with outgoing := Function.update state.outgoing call waits }

def setSleeping (state : State) (call count : Nat) : State :=
  { state with sleeping := Function.update state.sleeping call count }

def setTouching (state : State) (call count : Nat) : State :=
  { state with touching := Function.update state.touching call count }

end State

/-! The steps. -/

/-- How a write ends: with an error, with none though nothing was written, or with the
frame on the connection. -/
inductive Fate where
  | error
  | dropped
  | written
  deriving DecidableEq, Repr

inductive Label where
  /-- The next operation of a call. `fate` also says whether the context is usable. -/
  | call (call : Nat) (fate : Fate) (whenSend latestSendSuccessAt : Int)
  /-- A queued frame is written or given up. A frame whose stream is gone also has its
  entry deleted (`untracked`). -/
  | deliver (call : Nat) (fate : Fate) (untracked : Bool)
  | answer (call : Nat)
  | visit (index : Nat)
  | check (second : Int)
  | resend (call : Nat) (fate : Fate)
  | touch (call : Nat) (second : Int)
  deriving DecidableEq, Repr

section steps
variable (calls : Nat → Call) (settings : Settings)

def callStep (state : State) (call : Nat) (fate : Fate) (times : Times) : Option State :=
  match state.stages call with
  | .start =>
      if fate = .error ∨ defaultAckReplyCapacity ≤ state.syncWaitAck.length
      then some (state.setStage call .refused)
      else some (state.setStage call .counted)
  | .counted =>
      if state.tracks (calls call).msgID then some (state.setStage call .refused)
      else some (state.setStage call .checked)
  | .checked =>
      match fate with
      | .error => some (state.setStage call .refused)
      | .dropped => some (state.setStage call .sent)
      | .written =>
          if (calls call).stream then some ((state.setStage call .sent).setOutgoing call true)
          else some ((state.setStage call .sent).record (.sent call .first))
  | .sent =>
      -- the plain variant leaves LatestSendSuccessAt zero
      let entry : Times := if (calls call).stream then times else { times with latestSendSuccessAt := 0 }
      some ((((state.setStage call .accepted).setTimes call entry).track (calls call).msgID call).record
        (.accepted (calls call).msgID (state.tracks (calls call).msgID)))
  | .accepted => none
  | .refused => none

def deliverStep (state : State) (call : Nat) (fate : Fate) (untracked : Bool) : Option State :=
  if state.outgoing call then
    let state := state.setOutgoing call false
    let state := if untracked then state.untrack (calls call).msgID else state
    match fate with
    | .written => some (state.record (.sent call .first))
    | _ => some state
  else none

def answerTo (log : List Event) (call : Nat) : Option String :=
  log.findSome? fun
    | .sent sender copy => if sender = call then ackReply .accept true ((calls sender).frame copy) else none
    | _ => none

/-- `Receive` of the component on the client's `AsyncAckResponse`. -/
def answerStep (state : State) (call : Nat) : Option State :=
  match state.answers call with
  | .waiting =>
      (answerTo calls state.log call).map fun msgID => (state.untrack msgID).setAnswer call (.deleted msgID)
  | .deleted msgID => some ((state.setAnswer call .reported).record (.report msgID .success))
  | .reported => none

def visitStep (state : State) (index : Nat) : Option State :=
  match state.check with
  | .watching => state.syncWaitAck[index]?.map fun entry => state.setCheck (.visiting entry.2)
  | _ => none

/-- The callback of `checkAckReceivedService`, which reads the clock before each test. -/
def checkStep (state : State) (second : Int) : Option State :=
  match state.check with
  | .watching => none
  | .visiting call =>
      if second - (state.times call).whenSend > settings.ackMessageTimeout
      then some (state.setCheck (.expired call))
      else some (state.setCheck (.tested call))
  | .tested call =>
      if second - (state.times call).whenSend < settings.ackCheckedInterval
      then some (state.setCheck .watching)
      else some (state.setCheck (.due call))
  | .due call =>
      if second - (state.times call).latestSendSuccessAt > settings.ackCheckedInterval
      then some ((state.setCheck .watching).setSleeping call (state.sleeping call + 1))
      else some (state.setCheck .watching)
  | .expired call => some ((state.setCheck (.failing call)).untrack (calls call).msgID)
  | .failing call => some ((state.setCheck .watching).record (.report (calls call).msgID .failed))

def resendStep (state : State) (call : Nat) (fate : Fate) : Option State :=
  if 0 < state.sleeping call then
    let state := state.setSleeping call (state.sleeping call - 1)
    match fate with
    | .error => some state
    | .dropped => some (state.setTouching call (state.touching call + 1))
    | .written => some ((state.setTouching call (state.touching call + 1)).record (.sent call .again))
  else none

def touchStep (state : State) (call : Nat) (second : Int) : Option State :=
  if 0 < state.touching call then
    some ((state.setTouching call (state.touching call - 1)).setTimes call
      { state.times call with latestSendSuccessAt := second })
  else none

def step (state : State) : Label → Option State
  | .call call fate whenSend latest => callStep calls state call fate ⟨whenSend, latest⟩
  | .deliver call fate untracked => deliverStep calls state call fate untracked
  | .answer call => answerStep calls state call
  | .visit index => visitStep state index
  | .check second => checkStep calls settings state second
  | .resend call fate => resendStep state call fate
  | .touch call second => touchStep state call second

def Steps (state : State) (label : Label) (next : State) : Prop := step calls settings state label = some next

end steps

structure Fresh (state : State) : Prop where
  stages : ∀ call, state.stages call = .start
  answers : ∀ call, state.answers call = .waiting
  outgoing : ∀ call, state.outgoing call = false
  sleeping : ∀ call, state.sleeping call = 0
  check : state.check = .watching
  syncWaitAck : state.syncWaitAck = []
  log : state.log = []

def emptyState : State where
  stages := fun _ => .start
  answers := fun _ => .waiting
  outgoing := fun _ => false
  sleeping := fun _ => 0
  touching := fun _ => 0
  times := fun _ => ⟨0, 0⟩
  check := .watching
  syncWaitAck := []
  log := []

theorem emptyState_fresh : Fresh emptyState :=
  ⟨fun _ => rfl, fun _ => rfl, fun _ => rfl, fun _ => rfl, rfl, rfl, rfl⟩

/-! What a step does. -/

def Early (stage : SendStage) : Prop := stage = .start ∨ stage = .counted ∨ stage = .checked

def Weighs (check : CheckStage) (call : Nat) : Prop :=
  check = .visiting call ∨ check = .tested call ∨ check = .due call

def Judged (check : CheckStage) (call : Nat) : Prop :=
  check = .watching ∨ check = .tested call ∨ check = .due call ∨ check = .expired call

inductive Acts (calls : Nat → Call) (state : State) : Label → State → Prop where
  | refuses {call fate whenSend latest} :
      Early (state.stages call) → (state.stages call = .checked → fate = .error) →
      Acts calls state (.call call fate whenSend latest) (state.setStage call .refused)
  | counts {call fate whenSend latest} :
      state.stages call = .start → state.syncWaitAck.length < defaultAckReplyCapacity →
      Acts calls state (.call call fate whenSend latest) (state.setStage call .counted)
  | looks {call fate whenSend latest} :
      state.stages call = .counted → state.tracks (calls call).msgID = false →
      Acts calls state (.call call fate whenSend latest) (state.setStage call .checked)
  | drops {call whenSend latest} :
      state.stages call = .checked →
      Acts calls state (.call call .dropped whenSend latest) (state.setStage call .sent)
  | enqueues {call whenSend latest} :
      state.stages call = .checked → (calls call).stream = true →
      Acts calls state (.call call .written whenSend latest)
        ((state.setStage call .sent).setOutgoing call true)
  | writes {call whenSend latest} :
      state.stages call = .checked → (calls call).stream = false →
      Acts calls state (.call call .written whenSend latest)
        ((state.setStage call .sent).record (.sent call .first))
  | stores {call fate whenSend latest} (entry : Times) :
      state.stages call = .sent →
      Acts calls state (.call call fate whenSend latest)
        ((((state.setStage call .accepted).setTimes call entry).track (calls call).msgID call).record
          (.accepted (calls call).msgID (state.tracks (calls call).msgID)))
  | delivers {call fate untracked} (emptied : State) :
      state.outgoing call = true →
      emptied = state.setOutgoing call false ∨
        emptied = (state.setOutgoing call false).untrack (calls call).msgID →
      Acts calls state (.deliver call fate untracked)
        (if fate = .written then emptied.record (.sent call .first) else emptied)
  | deletes {call} (msgID : String) :
      state.answers call = .waiting → answerTo calls state.log call = some msgID →
      Acts calls state (.answer call) ((state.untrack msgID).setAnswer call (.deleted msgID))
  | succeeds {call} (msgID : String) :
      state.answers call = .deleted msgID →
      Acts calls state (.answer call) ((state.setAnswer call .reported).record (.report msgID .success))
  | visits {index} (msgID : String) (call : Nat) :
      state.check = .watching → (msgID, call) ∈ state.syncWaitAck →
      Acts calls state (.visit index) (state.setCheck (.visiting call))
  | judges {second} (call : Nat) (later : CheckStage) :
      Weighs state.check call → Judged later call →
      Acts calls state (.check second) (state.setCheck later)
  | schedules {second} (call : Nat) :
      state.check = .due call →
      Acts calls state (.check second)
        ((state.setCheck .watching).setSleeping call (state.sleeping call + 1))
  | expires {second} (call : Nat) :
      state.check = .expired call →
      Acts calls state (.check second) ((state.setCheck (.failing call)).untrack (calls call).msgID)
  | fails {second} (call : Nat) :
      state.check = .failing call →
      Acts calls state (.check second)
        ((state.setCheck .watching).record (.report (calls call).msgID .failed))
  | resends {call fate} (woken : State) :
      0 < state.sleeping call →
      woken = state.setSleeping call (state.sleeping call - 1) ∨
        woken = (state.setSleeping call (state.sleeping call - 1)).setTouching call (state.touching call + 1) →
      Acts calls state (.resend call fate)
        (if fate = .written then woken.record (.sent call .again) else woken)
  | touches {call second} (entry : Times) :
      0 < state.touching call →
      Acts calls state (.touch call second)
        ((state.setTouching call (state.touching call - 1)).setTimes call entry)

section inversion
variable {calls : Nat → Call} {settings : Settings} {state next : State}

theorem callStep_acts {call : Nat} {fate : Fate} {whenSend latest : Int}
    (step : callStep calls state call fate ⟨whenSend, latest⟩ = some next) :
    Acts calls state (.call call fate whenSend latest) next := by
  unfold callStep at step
  split at step
  case h_1 stage =>
      split at step
      · obtain rfl := Option.some.inj step
        exact .refuses (.inl stage) (by simp [stage])
      · rename_i room
        obtain rfl := Option.some.inj step
        exact .counts stage (Nat.lt_of_not_le fun full => room (.inr full))
  case h_2 stage =>
      split at step
      · obtain rfl := Option.some.inj step
        exact .refuses (.inr (.inl stage)) (by simp [stage])
      · rename_i absent
        obtain rfl := Option.some.inj step
        exact .looks stage (Bool.eq_false_iff.mpr absent)
  case h_3 stage =>
      split at step
      · obtain rfl := Option.some.inj step
        exact .refuses (.inr (.inr stage)) fun _ => rfl
      · obtain rfl := Option.some.inj step
        exact .drops stage
      · split at step
        · rename_i stream
          obtain rfl := Option.some.inj step
          exact .enqueues stage stream
        · rename_i plain
          obtain rfl := Option.some.inj step
          exact .writes stage (Bool.eq_false_iff.mpr plain)
  case h_4 stage =>
      obtain rfl := Option.some.inj step
      exact .stores _ stage
  case h_5 => cases step
  case h_6 => cases step

theorem deliverStep_acts {call : Nat} {fate : Fate} {untracked : Bool}
    (step : deliverStep calls state call fate untracked = some next) :
    Acts calls state (.deliver call fate untracked) next := by
  unfold deliverStep at step
  split at step
  case isFalse => cases step
  case isTrue waits =>
      have emptied : (if untracked then (state.setOutgoing call false).untrack (calls call).msgID
            else state.setOutgoing call false) = state.setOutgoing call false ∨
          (if untracked then (state.setOutgoing call false).untrack (calls call).msgID
            else state.setOutgoing call false) =
              (state.setOutgoing call false).untrack (calls call).msgID := by
        cases untracked with
        | false => exact .inl rfl
        | true => exact .inr rfl
      have acts : Acts calls state (.deliver call fate untracked) _ := .delivers _ waits emptied
      cases fate with
      | written => exact Option.some.inj step ▸ acts
      | dropped => exact Option.some.inj step ▸ acts
      | error => exact Option.some.inj step ▸ acts

theorem answerStep_acts {call : Nat} (step : answerStep calls state call = some next) :
    Acts calls state (.answer call) next := by
  unfold answerStep at step
  split at step
  case h_1 waiting =>
      obtain ⟨msgID, answered, rfl⟩ := Option.map_eq_some_iff.mp step
      exact .deletes msgID waiting answered
  case h_2 msgID deleted =>
      obtain rfl := Option.some.inj step
      exact .succeeds msgID deleted
  case h_3 => cases step

theorem visitStep_acts {index : Nat} (step : visitStep state index = some next) :
    Acts calls state (.visit index) next := by
  unfold visitStep at step
  split at step
  case h_1 watching =>
      obtain ⟨entry, found, rfl⟩ := Option.map_eq_some_iff.mp step
      exact .visits entry.1 entry.2 watching (List.mem_of_getElem? found)
  case h_2 => cases step

theorem checkStep_acts {second : Int} (step : checkStep calls settings state second = some next) :
    Acts calls state (.check second) next := by
  unfold checkStep at step
  split at step
  case h_1 => cases step
  case h_2 call visiting =>
      split at step
      · obtain rfl := Option.some.inj step
        exact .judges call _ (.inl visiting) (.inr (.inr (.inr rfl)))
      · obtain rfl := Option.some.inj step
        exact .judges call _ (.inl visiting) (.inr (.inl rfl))
  case h_3 call tested =>
      split at step
      · obtain rfl := Option.some.inj step
        exact .judges call _ (.inr (.inl tested)) (.inl rfl)
      · obtain rfl := Option.some.inj step
        exact .judges call _ (.inr (.inl tested)) (.inr (.inr (.inl rfl)))
  case h_4 call due =>
      split at step
      · obtain rfl := Option.some.inj step
        exact .schedules call due
      · obtain rfl := Option.some.inj step
        exact .judges call _ (.inr (.inr due)) (.inl rfl)
  case h_5 call expired =>
      obtain rfl := Option.some.inj step
      exact .expires call expired
  case h_6 call failing =>
      obtain rfl := Option.some.inj step
      exact .fails call failing

theorem resendStep_acts {call : Nat} {fate : Fate} (step : resendStep state call fate = some next) :
    Acts calls state (.resend call fate) next := by
  unfold resendStep at step
  split at step
  case isFalse => cases step
  case isTrue sleeps =>
      cases fate with
      | error => exact Option.some.inj step ▸ Acts.resends _ sleeps (.inl rfl)
      | dropped => exact Option.some.inj step ▸ Acts.resends _ sleeps (.inr rfl)
      | written => exact Option.some.inj step ▸ Acts.resends _ sleeps (.inr rfl)

theorem Steps.acts {label : Label} (step : Steps calls settings state label next) :
    Acts calls state label next := by
  cases label with
  | call call fate whenSend latest => exact callStep_acts step
  | deliver call fate untracked => exact deliverStep_acts step
  | answer call => exact answerStep_acts step
  | visit index => exact visitStep_acts step
  | check second => exact checkStep_acts step
  | resend call fate => exact resendStep_acts step
  | touch call second =>
      have touch : touchStep state call second = some next := step
      unfold touchStep at touch
      split at touch
      case isFalse => cases touch
      case isTrue touching =>
          obtain rfl := Option.some.inj touch
          exact .touches _ touching

end inversion

end Carrier.AckReply
