import Carrier.Requests
import Carrier.Opcodes

/-! Two nodes that ask and answer each other. Each of them runs `Request` and
`dispatchMessage` as in `Carrier.Requests`; what one of them writes is what the other
gets to dispatch. A message that is not the reply to a waiting call goes to the
components, and what a component passes to `ComponentContext.Reply` goes back under the
nonce of the message it was handed.

Both sides count their requests from one, so that the same numbers are used in both
directions. A reply that comes too late is handed to the components like any other
message; if one of them answered it, the answer would carry the number back to the node
that has a request of its own under it. -/
namespace Carrier.Exchange

open GoRuntime Identity Framing Protobuf Requests Threads TransitionSystem

/-! The model. -/

structure Context where
  sender : Option ID
  opcode : UInt32
  message : Bytes
  nonce : UInt64
  deriving DecidableEq

def context (message : Message) : Context :=
  ⟨message.sender, message.opcode, message.message, message.requestNonce⟩

structure Prepared where
  body : AckReply.Body
  signature : Option Bytes

def Prepared.message (prepared : Prepared) : Message :=
  AckReply.prepareMessage prepared.body prepared.signature

/-- The requests of the calls, and what the components of a node reply. -/
structure Nodes where
  request : Bool → Nat → Prepared
  components : Bool → Context → List Prepared

def Nodes.asks (nodes : Nodes) (side : Bool) (call : Nat) (nonce : UInt64) : Message :=
  { (nodes.request side call).message with requestNonce := nonce }

def answer (nonce : UInt64) (reply : Prepared) : Message :=
  { reply.message with requestNonce := nonce, replyFlag := true }

/-- For each side: its calls and dispatches, the messages written to it and not yet
dispatched, and the `messageNonce` of the connection it writes to. -/
structure State where
  world : Bool → World Shared Code
  inbox : Bool → List Message
  messageNonce : Bool → UInt64

def State.write (state : State) (side : Bool) (message : Message) : State :=
  { state with
    messageNonce := Function.update state.messageNonce side (state.messageNonce side + 1)
    inbox := Function.update state.inbox (!side)
      (state.inbox (!side) ++ [{ message with messageNonce := state.messageNonce side + 1 }]) }

def State.setWorld (state : State) (side : Bool) (world : World Shared Code) : State :=
  { state with world := Function.update state.world side world }

/-- What a thread writes with a step: the request once it is tracked, and the replies
of the components once a dispatch has found no call for its message. -/
def Nodes.writes (nodes : Nodes) (side : Bool) (thread : Nat) (other : Bool) : Code → Code → List Message
  | .request (.tracked nonce), .request (.waiting _) => [nodes.asks side thread nonce]
  | .dispatch message .start, .dispatch _ .passed =>
      if other then []
      else (nodes.components side (context message)).map (answer message.requestNonce)
  | _, _ => []

inductive Label where
  | move (side : Bool) (thread : Nat) (other : Bool)
  | take (side : Bool) (thread : Nat) (place : Nat)
  | tell (side : Bool) (message : Prepared)

/-- A thread moves, a free one begins to dispatch a message that has been written, or a
message is told that is no request. -/
def step (nodes : Nodes) (state : State) : Label → Option State
  | .move side thread other =>
      let world := state.world side
      (program thread world.shared (world.locals thread) other).map fun (shared, now) =>
        (nodes.writes side thread other (world.locals thread) now).foldl (·.write side)
          (state.setWorld side (world.set thread shared now))
  | .take side thread place =>
      let world := state.world side
      match world.locals thread, (state.inbox side)[place]? with
      | .idle, some message => some { state.setWorld side (world.set thread world.shared (.dispatch message .start)) with
          inbox := Function.update state.inbox side ((state.inbox side).eraseIdx place) }
      | _, _ => none
  | .tell side message => some (state.write side message.message)

abbrev Steps (nodes : Nodes) (before : State) (label : Label) (after : State) : Prop :=
  step nodes before label = some after

def Fresh (state : State) : Prop :=
  ∀ side, Requests.Fresh (state.world side) ∧ state.inbox side = [] ∧
    ∀ thread message stage, (state.world side).locals thread ≠ .dispatch message stage

def Nodes.NoEcho (nodes : Nodes) : Prop :=
  ∀ side received nonce, ∀ reply ∈ nodes.components side received,
    nodes.components (!side) (context (answer nonce reply)) = []

/-! What the updates change. -/

section Updates

variable (state : State) (side : Bool)

@[simp] theorem setWorld_self (world : World Shared Code) : (state.setWorld side world).world side = world := by
  simp [State.setWorld]

theorem setWorld_other (world : World Shared Code) {reader : Bool} (different : reader ≠ side) :
    (state.setWorld side world).world reader = state.world reader := by
  simp [State.setWorld, different]

theorem write_inbox_self (message : Message) : (state.write side message).inbox (!side) =
    state.inbox (!side) ++ [{ message with messageNonce := state.messageNonce side + 1 }] := by
  simp [State.write]

theorem write_inbox_other (message : Message) {reader : Bool} (different : reader ≠ !side) :
    (state.write side message).inbox reader = state.inbox reader := by
  simp [State.write, different]

end Updates

/-! Where a message comes from. -/

/-- A message written to a side: told, or asked by a call of the other side, or the
answer of the other side's components to a message it was told or asked. -/
inductive Origin (nodes : Nodes) (world : Bool → World Shared Code) (side : Bool) : Message → Prop where
  | told {message : Message} : message.requestNonce = 0 → message.replyFlag = false → Origin nodes world side message
  | asked {call : Nat} {nonce : UInt64} (stamp : UInt64) : Numbered (world (!side)).shared call nonce →
      Origin nodes world side { nodes.asks (!side) call nonce with messageNonce := stamp }
  | answeredTold {received : Context} {reply : Prepared} (stamp : UInt64) :
      reply ∈ nodes.components (!side) received →
      Origin nodes world side { answer 0 reply with messageNonce := stamp }
  | answered {call : Nat} {nonce : UInt64} {reply : Prepared} (stamp : UInt64) :
      Numbered (world side).shared call nonce →
      reply ∈ nodes.components (!side) (context (nodes.asks side call nonce)) →
      Origin nodes world side { answer nonce reply with messageNonce := stamp }

structure Inv (nodes : Nodes) (state : State) : Prop where
  calls : ∀ side, WorldInv (state.world side)
  inbox : ∀ side, ∀ message ∈ state.inbox side, Origin nodes state.world side message
  dispatched : ∀ side thread message stage, (state.world side).locals thread = .dispatch message stage →
    Origin nodes state.world side message

section Steps

variable {nodes : Nodes} {state next : State} {world : Bool → World Shared Code} {side : Bool} {message : Message}

theorem Origin.grows {later : Bool → World Shared Code}
    (kept : ∀ side call nonce, Numbered (world side).shared call nonce → Numbered (later side).shared call nonce)
    (origin : Origin nodes world side message) : Origin nodes later side message := by
  cases origin with
  | told zero flag => exact .told zero flag
  | asked stamp numbered => exact .asked stamp (kept _ _ _ numbered)
  | answeredTold stamp member => exact .answeredTold stamp member
  | answered stamp numbered member => exact .answered stamp (kept _ _ _ numbered) member

/-- The connection stamps a message without changing where it comes from. -/
theorem Origin.stamp (origin : Origin nodes world side message) (stamp : UInt64) :
    Origin nodes world side { message with messageNonce := stamp } := by
  cases origin with
  | told zero flag => exact .told zero flag
  | asked _ numbered => exact .asked stamp numbered
  | answeredTold _ member => exact .answeredTold stamp member
  | answered _ numbered member => exact .answered stamp numbered member

theorem Origin.answer (silent : nodes.NoEcho) (origin : Origin nodes world side message) {reply : Prepared}
    (member : reply ∈ nodes.components side (context message)) :
    Origin nodes world (!side) (Exchange.answer message.requestNonce reply) := by
  cases origin with
  | told zero flag =>
      rw [zero]
      exact .answeredTold 0 (by simpa using member)
  | asked stamp numbered =>
      refine .answered 0 numbered ?_
      rw [Bool.not_not]
      exact member
  | answeredTold stamp given =>
      have none := silent (!side) _ 0 _ given
      rw [Bool.not_not] at none
      change reply ∈ nodes.components side (context (Exchange.answer 0 _)) at member
      simp [none] at member
  | @answered _ nonce _ stamp numbered given =>
      have none := silent (!side) _ nonce _ given
      rw [Bool.not_not] at none
      change reply ∈ nodes.components side (context (Exchange.answer nonce _)) at member
      simp [none] at member

theorem Inv.write (inv : Inv nodes state) (origin : Origin nodes state.world (!side) message) :
    Inv nodes (state.write side message) := by
  refine ⟨inv.calls, fun reader received member => ?_, inv.dispatched⟩
  by_cases own : reader = !side
  · subst own
    rw [write_inbox_self, List.mem_append, List.mem_singleton] at member
    rcases member with old | rfl
    · exact inv.inbox _ received old
    · exact origin.stamp _
  · rw [write_inbox_other _ _ _ own] at member
    exact inv.inbox reader received member

theorem Inv.writeAll {messages : List Message} (inv : Inv nodes state)
    (origins : ∀ message ∈ messages, Origin nodes state.world (!side) message) :
    Inv nodes (messages.foldl (·.write side) state) := by
  induction messages generalizing state with
  | nil => exact inv
  | cons message rest ih =>
      exact ih (inv.write (origins message List.mem_cons_self))
        fun later member => origins later (List.mem_cons_of_mem _ member)

theorem numbered_step {world : World Shared Code} {thread : Nat} {other : Bool} {shared : Shared} {now : Code}
    (inv : WorldInv world) (moved : program thread world.shared (world.locals thread) other = some (shared, now))
    {call : Nat} {nonce : UInt64} (numbered : Numbered world.shared call nonce) : Numbered shared call nonce := by
  have mine := inv.everywhere thread
  cases code : world.locals thread with
  | idle => simp [program, code] at moved
  | request stage =>
      rw [code] at mine moved
      obtain ⟨⟨after, later⟩, ran, same⟩ := Option.map_eq_some_iff.mp moved
      cases same
      exact numbered.grows (runRequest_served inv.shared mine.2.served ran).2.2.1
  | dispatch message stage =>
      rw [code] at moved
      obtain ⟨⟨after, later⟩, ran, same⟩ := Option.map_eq_some_iff.mp moved
      cases same
      obtain ⟨index, found, counted⟩ := numbered
      exact ⟨index, by rw [runDispatch_issued ran, found], counted⟩

theorem program_dispatch {thread : Nat} {shared after : Shared} {code : Code} {other : Bool}
    {stage : DispatchStage} (moved : program thread shared code other = some (after, .dispatch message stage)) :
    ∃ before, code = .dispatch message before := by
  cases code with
  | idle => simp [program] at moved
  | request call =>
      obtain ⟨⟨_, later⟩, _, same⟩ := Option.map_eq_some_iff.mp moved
      cases same
  | dispatch received before =>
      obtain ⟨⟨_, later⟩, _, same⟩ := Option.map_eq_some_iff.mp moved
      cases same
      exact ⟨before, rfl⟩

theorem mem_writes {thread : Nat} {other : Bool} {code now : Code}
    (written : message ∈ nodes.writes side thread other code now) :
    (∃ nonce, code = .request (.tracked nonce) ∧ message = nodes.asks side thread nonce) ∨
      ∃ received, code = .dispatch received .start ∧
        ∃ reply ∈ nodes.components side (context received), message = answer received.requestNonce reply := by
  unfold Nodes.writes at written
  split at written
  · exact Or.inl ⟨_, rfl, List.mem_singleton.mp written⟩
  · split at written
    · cases written
    · obtain ⟨reply, member, rfl⟩ := List.mem_map.mp written
      exact Or.inr ⟨_, rfl, reply, member, rfl⟩
  · cases written

theorem writes_origin (silent : nodes.NoEcho) (inv : Inv nodes state) {thread : Nat} {other : Bool} {now : Code}
    (written : message ∈ nodes.writes side thread other ((state.world side).locals thread) now) :
    Origin nodes state.world (!side) message := by
  rcases mem_writes written with ⟨nonce, tracked, rfl⟩ | ⟨received, begins, reply, member, rfl⟩
  · have mine := (inv.calls side).everywhere thread
    rw [tracked] at mine
    have origin : Origin nodes state.world (!side) { nodes.asks (!!side) thread nonce with messageNonce := 0 } :=
      .asked 0 (by simpa using mine.2.1)
    rw [Bool.not_not] at origin
    exact origin
  · exact (inv.dispatched side thread received .start begins).answer silent member

theorem Inv.move (silent : nodes.NoEcho) (inv : Inv nodes state)
    (few : (state.world side).shared.issued.length < 2 ^ 64) {thread : Nat} {other : Bool}
    (stepped : Steps nodes state (.move side thread other) next) : Inv nodes next := by
  obtain ⟨⟨shared, now⟩, moved, rfl⟩ := Option.map_eq_some_iff.mp stepped
  have kept : ∀ reader call nonce, Numbered (state.world reader).shared call nonce →
      Numbered ((state.setWorld side ((state.world side).set thread shared now)).world reader).shared call nonce := by
    intro reader call nonce numbered
    by_cases own : reader = side
    · subst own
      rw [setWorld_self]
      exact numbered_step (inv.calls reader) moved numbered
    · rw [setWorld_other _ _ _ own]
      exact numbered
  have moves : Inv nodes (state.setWorld side ((state.world side).set thread shared now)) := by
    refine ⟨fun reader => ?_, fun reader received member => (inv.inbox reader received member).grows kept,
      fun reader dispatch received stage code => ?_⟩
    · by_cases own : reader = side
      · subst own
        rw [setWorld_self]
        exact (inv.calls reader).step few (.move moved)
      · rw [setWorld_other _ _ _ own]
        exact inv.calls reader
    · refine Origin.grows kept ?_
      by_cases own : reader = side
      · subst own
        rw [setWorld_self] at code
        by_cases mover : dispatch = thread
        · subst mover
          rw [World.set_self] at code
          subst code
          obtain ⟨before, same⟩ := program_dispatch moved
          exact inv.dispatched reader dispatch received before same
        · rw [World.set_other _ _ _ mover] at code
          exact inv.dispatched reader dispatch received stage code
      · rw [setWorld_other _ _ _ own] at code
        exact inv.dispatched reader dispatch received stage code
  exact moves.writeAll fun message written => (writes_origin silent inv written).grows kept

theorem worldInv_begin {world : World Shared Code} {thread : Nat} (inv : WorldInv world)
    (idle : world.locals thread = .idle) (message : Message) :
    WorldInv (world.set thread world.shared (.dispatch message .start)) := by
  refine ⟨inv.shared, Everywhere.set ?_ fun other _ => inv.everywhere other⟩
  have mine := inv.everywhere thread
  rw [idle] at mine
  exact mine

theorem Inv.take (inv : Inv nodes state) {thread place : Nat}
    (stepped : Steps nodes state (.take side thread place) next) : Inv nodes next := by
  simp only [Steps, step] at stepped
  split at stepped
  · rename_i taken idle found
    cases stepped
    have kept : ∀ reader call nonce, Numbered (state.world reader).shared call nonce →
        Numbered ((state.setWorld side ((state.world side).set thread (state.world side).shared
          (.dispatch taken .start))).world reader).shared call nonce := by
      intro reader call nonce numbered
      by_cases own : reader = side
      · subst own
        rw [setWorld_self]
        exact numbered
      · rw [setWorld_other _ _ _ own]
        exact numbered
    refine ⟨fun reader => ?_, fun reader received member => ?_, fun reader dispatch received stage code => ?_⟩
    · change WorldInv ((state.setWorld side _).world reader)
      by_cases own : reader = side
      · subst own
        rw [setWorld_self]
        exact worldInv_begin (inv.calls reader) idle taken
      · rw [setWorld_other _ _ _ own]
        exact inv.calls reader
    · refine Origin.grows kept (inv.inbox reader received ?_)
      by_cases own : reader = side
      · subst own
        exact List.mem_of_mem_eraseIdx (by simpa using member)
      · simpa [own] using member
    · refine Origin.grows kept ?_
      change ((state.setWorld side _).world reader).locals dispatch = _ at code
      by_cases own : reader = side
      · subst own
        rw [setWorld_self] at code
        by_cases mover : dispatch = thread
        · subst mover
          rw [World.set_self] at code
          cases code
          exact inv.inbox reader taken (List.mem_of_getElem? found)
        · rw [World.set_other _ _ _ mover] at code
          exact inv.dispatched reader dispatch received stage code
      · rw [setWorld_other _ _ _ own] at code
        exact inv.dispatched reader dispatch received stage code
  · cases stepped

def issued (state : State) (side : Bool) : Nat := (state.world side).shared.issued.length

theorem Inv.step {label : Label} (silent : nodes.NoEcho) (few : ∀ side, issued state side < 2 ^ 64)
    (inv : Inv nodes state) (stepped : Steps nodes state label next) : Inv nodes next := by
  cases label with
  | move side thread other => exact inv.move silent (few side) stepped
  | take side thread place => exact inv.take stepped
  | tell side message =>
      cases stepped
      exact inv.write (.told rfl rfl)

theorem writeAll_world (messages : List Message) (state : State) :
    (messages.foldl (·.write side) state).world = state.world := by
  induction messages generalizing state with
  | nil => rfl
  | cons message rest ih => exact ih (state.write side message)

theorem issued_step {label : Label} (stepped : Steps nodes state label next) (reader : Bool) :
    issued state reader ≤ issued next reader := by
  cases label with
  | move side thread other =>
      obtain ⟨⟨shared, now⟩, moved, rfl⟩ := Option.map_eq_some_iff.mp stepped
      simp only [issued, writeAll_world]
      by_cases own : reader = side
      · subst own
        rw [setWorld_self]
        exact issued_grows (.move moved)
      · rw [setWorld_other _ _ _ own]
  | take side thread place =>
      simp only [Steps, Exchange.step] at stepped
      split at stepped
      · cases stepped
        change issued state reader ≤ issued (state.setWorld side _) reader
        by_cases own : reader = side
        · subst own
          simp [issued]
        · simp only [issued, setWorld_other _ _ _ own, le_refl]
      · cases stepped
  | tell side message =>
      cases stepped
      exact le_refl _

end Steps

/-! Whole runs. -/

theorem Inv.fresh {nodes : Nodes} {state : State} (fresh : Fresh state) : Inv nodes state := by
  refine ⟨fun side => fresh_inv (fresh side).1, fun side message member => ?_, fun side thread message stage code => ?_⟩
  · rw [(fresh side).2.1] at member
    cases member
  · exact absurd code ((fresh side).2.2 thread message stage)

theorem Inv.of_run {nodes : Nodes} {start state : State} {labels : List Label} (silent : nodes.NoEcho)
    (fresh : Fresh start) (run : Run (Steps nodes) start labels state)
    (few : ∀ side, issued state side < 2 ^ 64) : Inv nodes state := by
  refine run.invariant (fun state => (∀ side, issued state side < 2 ^ 64) → Inv nodes state) ?_
    (fun _ => Inv.fresh fresh) few
  intro before label after stepped kept bound
  have earlier : ∀ side, issued before side < 2 ^ 64 := fun side =>
    lt_of_le_of_lt (issued_step stepped side) (bound side)
  exact (kept earlier).step silent earlier stepped

theorem numbered_pos {shared : Shared} {call : Nat} {nonce : UInt64} (few : shared.issued.length < 2 ^ 64)
    (numbered : Numbered shared call nonce) : nonce ≠ 0 := by
  obtain ⟨index, found, rfl⟩ := numbered
  have bound := (List.getElem?_eq_some_iff.mp found).1
  intro zero
  have equal := congrArg UInt64.toNat zero
  rw [UInt64.toNat_ofNat', Nat.mod_eq_of_lt (by omega)] at equal
  simp at equal

/-- A reply under a number of a side answers the request with that number. -/
theorem Inv.returned {nodes : Nodes} {state : State} (inv : Inv nodes state)
    {side : Bool} (few : issued state side < 2 ^ 64) {call : Nat} {nonce : UInt64} {letter : Letter}
    (returned : (state.world side).locals call = .request (.returned nonce (some letter))) :
    ∃ reply ∈ nodes.components (!side) (context (nodes.asks side call nonce)),
      context letter.message = context (answer nonce reply) := by
  have mine := (inv.calls side).everywhere call
  rw [returned] at mine
  obtain ⟨numbered, _, _, letters⟩ := mine.2
  have answers := letters letter rfl
  have code := delivered_code (known_of_inv ((inv.calls side).everywhere letter.origin)) answers.delivered
  have origin := inv.dispatched side letter.origin letter.message _ code
  have flagged := answers.reply
  have number := answers.nonce
  generalize letter.message = message at origin flagged number
  cases origin with
  | told zero unflagged =>
      rw [unflagged] at flagged
      cases flagged
  | asked stamp other => cases flagged
  | answeredTold stamp member => exact absurd number.symm (numbered_pos few numbered)
  | @answered caller answered reply stamp other member =>
      obtain rfl : answered = nonce := number
      obtain rfl := numbered_apart few numbered other
      exact ⟨reply, member, rfl⟩

/-! The metric component. -/

structure MetricCodec where
  marshalRequest : Int64 → Bytes → Bytes
  unmarshalRequest : Bytes → Option (Int64 × Bytes)
  marshalResponse : Int64 → Bytes → Bytes
  unmarshalResponse : Bytes → Option (Int64 × Bytes)
  request_roundTrip : ∀ time raw, unmarshalRequest (marshalRequest time raw) = some (time, raw)
  response_roundTrip : ∀ time raw, unmarshalResponse (marshalResponse time raw) = some (time, raw)

/-- `MetricComponent.Receive`. A message that cannot be decoded does not get there. -/
def MetricCodec.receive (codec : MetricCodec) (self : ID) (netID : UInt32) (received : Context) : List Prepared :=
  if received.opcode = Opcodes.metricRequestCode then
    match codec.unmarshalRequest received.message with
    | some (time, raw) => [⟨⟨codec.marshalResponse time raw, Opcodes.metricResponseCode, self, netID⟩, none⟩]
    | none => []
  else []

def MetricCodec.request (codec : MetricCodec) (self : ID) (netID : UInt32) (nanoTime : Int64) (randRaw : Bytes) :
    Prepared :=
  ⟨⟨codec.marshalRequest nanoTime randRaw, Opcodes.metricRequestCode, self, netID⟩, none⟩

theorem receive_noEcho (codec : MetricCodec) (request : Bool → Nat → Prepared) (self : Bool → ID) (netID : UInt32) :
    Nodes.NoEcho ⟨request, fun side => codec.receive (self side) netID⟩ := by
  intro side received nonce reply member
  simp only [MetricCodec.receive] at member
  split at member
  · split at member
    · obtain rfl := List.mem_singleton.mp member
      rfl
    · cases member
  · cases member

/-- `MetricRequest` and `MetricResponse`, which have the same fields. -/
def marshalMetric (sendTimestamp : Int64) (rawData : Bytes) : Bytes :=
  numberField 0x08 sendTimestamp.toUInt64.toNat ++ bytesField 0x12 rawData

/-- The fields in their order and nothing after them. -/
def unmarshalMetric (bytes : Bytes) : Option (Int64 × Bytes) := do
  let (sendTimestamp, rest) ← readNumber 0x08 bytes
  let (rawData, rest) ← readBytes 0x12 rest
  if rest = [] then some (⟨UInt64.ofNat sendTimestamp⟩, rawData) else none

theorem unmarshalMetric_marshal (sendTimestamp : Int64) (rawData : Bytes) :
    unmarshalMetric (marshalMetric sendTimestamp rawData) = some (sendTimestamp, rawData) := by
  have apart : (bytesField 0x12 rawData).head? ≠ some 0x08 := by
    unfold bytesField
    split <;> simp
  have raw := readBytes_field (show ([] : Bytes).head? ≠ some 0x12 from nofun) rawData
  rw [List.append_nil] at raw
  simp [unmarshalMetric, marshalMetric, readNumber_field apart, raw]

def smallCodec : MetricCodec where
  marshalRequest := marshalMetric
  unmarshalRequest := unmarshalMetric
  marshalResponse := marshalMetric
  unmarshalResponse := unmarshalMetric
  request_roundTrip := unmarshalMetric_marshal
  response_roundTrip := unmarshalMetric_marshal

/-- Both nodes ask at the same time and under the same number, each with its own time. -/
def smallNodes : Nodes where
  request side _ := smallCodec.request (AcceptLoops.neighbour [1]) 0 (if side then 7 else 8) [5]
  components _ := smallCodec.receive (AcceptLoops.neighbour [1]) 0

def smallState : State where
  world _ :=
    { shared :=
        { requestNonce := 0, requests := fun _ => none, data := fun _ => none, closed := fun _ => false
          issued := [], delivered := fun _ => none }
      locals := fun thread => if thread = 0 then .request .start else .idle }
  inbox _ := []
  messageNonce _ := 0

/-- The reply overtakes the other side's request. -/
def smallLabels : List Label :=
  [.move false 0 false, .move false 0 false, .move true 0 false, .move true 0 false, .move true 0 false,
    .move false 0 false, .take true 1 0, .move true 1 false, .take false 1 1, .move false 1 false,
    .move false 1 false, .move false 0 false, .move false 0 false, .move false 0 false]

theorem smallState_fresh : Fresh smallState := by
  intro side
  refine ⟨⟨rfl, rfl, fun _ => rfl, fun _ => rfl, fun _ => rfl, fun thread => ?_⟩, rfl, fun thread message stage => ?_⟩
  · simp only [smallState]
    split
    · exact Or.inr (Or.inl rfl)
    · exact Or.inl rfl
  · simp only [smallState]
    split <;> exact nofun

theorem smallLabels_run : ∃ last letter, Run (Steps smallNodes) smallState smallLabels last ∧
    (∀ side, issued last side < 2 ^ 64) ∧
    (last.world false).locals 0 = .request (.returned 1 (some letter)) := by
  obtain ⟨last, letter, followed, counts, returned⟩ : ∃ last letter,
      follow (step smallNodes) smallLabels smallState = some last ∧ (issued last true = 1 ∧ issued last false = 1) ∧
      (last.world false).locals 0 = .request (.returned 1 (some letter)) := ⟨_, _, rfl, ⟨rfl, rfl⟩, rfl⟩
  refine ⟨last, letter, Run.of_follow (fun _ _ _ stepped => stepped) followed, fun side => ?_, returned⟩
  cases side with
  | true => rw [counts.1]; decide
  | false => rw [counts.2]; decide

theorem smallNodes_noEcho : smallNodes.NoEcho :=
  receive_noEcho smallCodec _ (fun _ => AcceptLoops.neighbour [1]) 0

/-- Whatever the two nodes ask and tell each other, and in whatever order the messages
are dispatched: a call that returns without an error returns what the components of the
other node replied to the request of this very call. -/
theorem replies_belong {nodes : Nodes} {start state : State} {labels : List Label} (silent : nodes.NoEcho)
    (fresh : Fresh start) (run : Run (Steps nodes) start labels state) (few : ∀ side, issued state side < 2 ^ 64)
    {side : Bool} {call : Nat} {nonce : UInt64} {letter : Letter}
    (returned : (state.world side).locals call = .request (.returned nonce (some letter))) :
    ∃ reply ∈ nodes.components (!side) (context (nodes.asks side call nonce)),
      context letter.message = context (answer nonce reply) :=
  (Inv.of_run silent fresh run few).returned (few side) returned

theorem replies_belong_crosswise : ∃ last letter, Run (Steps smallNodes) smallState smallLabels last ∧
    (last.world false).locals 0 = .request (.returned 1 (some letter)) ∧
    ∃ reply ∈ smallNodes.components true (context (smallNodes.asks false 0 1)),
      context letter.message = context (answer 1 reply) := by
  obtain ⟨last, letter, run, few, returned⟩ := smallLabels_run
  exact ⟨last, letter, run, returned, replies_belong smallNodes_noEcho smallState_fresh run few returned⟩

/-- Two nodes that answer metric requests with the metric component alone: the response
that `sendMetricRequest` gets has the type it asserts and the time it has sent, so that
the check of the time never fails. -/
theorem metric_response_matches {App : Type} [DecidableEq App] {nodes : Nodes} {start state : State}
    {labels : List Label} (codec : MetricCodec) (self : Bool → ID) (netID : UInt32)
    (silent : nodes.NoEcho)
    (alone : ∀ side received, received.opcode = Opcodes.metricRequestCode →
      nodes.components side received = codec.receive (self side) netID received)
    {registry : Opcodes.Registry App} (consistent : Opcodes.Consistent registry)
    (fresh : Fresh start) (run : Run (Steps nodes) start labels state) (few : ∀ side, issued state side < 2 ^ 64)
    {side : Bool} {call : Nat} {nanoTime : Int64} {randRaw : Bytes}
    (asked : nodes.request side call = codec.request (self side) netID nanoTime randRaw)
    {nonce : UInt64} {letter : Letter}
    (returned : (state.world side).locals call = .request (.returned nonce (some letter))) :
    Opcodes.dispatchTarget registry letter.message = .ok (Opcodes.emptyMessage .metricResponse) ∧
      codec.unmarshalResponse letter.message.message = some (nanoTime, randRaw) := by
  obtain ⟨reply, member, same⟩ := (Inv.of_run silent fresh run few).returned (few side) returned
  have request : context (nodes.asks side call nonce) =
      ⟨some (self side), Opcodes.metricRequestCode, codec.marshalRequest nanoTime randRaw, nonce⟩ := by
    simp only [Nodes.asks, asked]
    rfl
  rw [request, alone _ _ rfl] at member
  simp only [MetricCodec.receive, if_true, codec.request_roundTrip, List.mem_singleton] at member
  subst member
  have opcode : letter.message.opcode = Opcodes.metricResponseCode := congrArg Context.opcode same
  have body : letter.message.message = codec.marshalResponse nanoTime randRaw := congrArg Context.message same
  refine ⟨?_, by rw [body, codec.response_roundTrip]⟩
  have stored := consistent.reserved Opcodes.metricResponseCode (by decide)
  simp only [Opcodes.dispatchTarget, opcode, Opcodes.getMessageType, stored]
  rfl

theorem metric_response_matches_crosswise : ∃ last letter, Run (Steps smallNodes) smallState smallLabels last ∧
    (last.world false).locals 0 = .request (.returned 1 (some letter)) ∧
    smallCodec.unmarshalResponse letter.message.message = some (8, [5]) := by
  obtain ⟨last, letter, run, few, returned⟩ := smallLabels_run
  have registry : Opcodes.Consistent (Opcodes.init : Opcodes.Registry Nat) := Opcodes.init_consistent
  have same := metric_response_matches smallCodec (fun _ => AcceptLoops.neighbour [1]) 0 smallNodes_noEcho
    (fun _ _ _ => rfl) registry smallState_fresh run few rfl returned
  exact ⟨last, letter, run, returned, same.2⟩

end Carrier.Exchange
