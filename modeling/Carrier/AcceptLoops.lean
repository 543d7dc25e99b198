import Carrier.ConnMgr
import Carrier.Framing
import Carrier.TransitionSystem

/-! The receive loops `Accept`, `AcceptQuic` and `AcceptUdp` of
`network/network.go`, one received message at a time. A message names its sender;
the loop looks up or registers the client for it, notes the sender as the client's
ID and hands the message on. The stream loops check the signature after that, the
datagram loop before. What other goroutines do between two messages is left to
the run. -/
namespace Carrier.AcceptLoops

open GoRuntime BigEndian Identity Address ConnMgr Framing TransitionSystem

inductive Loop where
  | accept
  | acceptQuic
  | acceptUdp
  deriving DecidableEq, Repr

/-- A running loop: its connection, and the client it closes at its end. That is
the dialled client of a stream loop, if it was dialled, and the client of the last
message in a datagram loop. -/
structure Session where
  loop : Loop
  incoming : Conn
  client : Option ClientRef
  deriving DecidableEq, Repr

structure Node where
  env : Env
  proxyMode : Bool
  verify : Bytes → Bytes → Bytes → Bool

/-- A received message, what a dial would answer and whether the acknowledgement
could not be written. -/
structure Input where
  msg : Message
  dialed : Option Conn
  ackFails : Bool
  deriving DecidableEq, Repr

def putLittleEndian (n : Nat) : Bytes := (put 4 n).reverse

/-- `SerializeMessage`: address and hash with their lengths, then the message. -/
def serializeMessage (id : ID) (message : Bytes) : Bytes :=
  putLittleEndian id.address.toUTF8.toList.length ++ id.address.toUTF8.toList ++
    putLittleEndian id.id.length ++ id.id ++ message

/-- A missing signature is not checked. -/
def malformedSignature (node : Node) (sender : ID) (msg : Message) : Bool :=
  match msg.signature with
  | none => false
  | some signature =>
      !node.verify (sender.netKey.getD []) (serializeMessage sender msg.message) signature

structure Processed where
  reg : Registry
  session : Session
  dispatched : Option ClientRef
  alive : Bool

def setID (reg : Registry) (ref : ClientRef) (sender : ID) : Registry :=
  match reg.clients[ref]? with
  | none => reg
  | some client => { reg with clients := reg.clients.set ref { client with id := some sender } }

def register (node : Node) (session : Session) (reg : Registry) (sender : ID) (dialed : Option Conn) :
    Outcome (Option ClientRef × Registry) :=
  getOrSetPeerClient node.env reg sender.address sender.publicKeyHex
    (if node.proxyMode then none else some session.incoming) dialed

/-- The deferred part of a loop; closing the connection itself changes no map. -/
def quit (node : Node) (session : Session) (reg : Registry) : Outcome Processed :=
  (match session.client with
    | none => Outcome.done reg
    | some ref => close node.env reg ref).map fun reg =>
      { reg := reg, session := session, dispatched := none, alive := false }

def ackReply (loop : Loop) (enableAckReply : Bool) (msg : Message) : Option String :=
  if loop = .accept ∧ enableAckReply = true ∧ msg.messageID ≠ "" then some msg.messageID else none

/-- A response that cannot be written closes the client registered for the peer. -/
def acknowledge (node : Node) (session : Session) (reg : Registry) (client : PeerClient) (input : Input) :
    Outcome Registry :=
  if (ackReply session.loop client.enableAckReply input.msg).isSome ∧ input.ackFails = true
  then match reg.peers client.peerID with
    | none => .done reg
    | some ref => close node.env reg ref
  else .done reg

/-- `Accept` and `AcceptQuic` once they have a client. The ID is written before the
signature is checked and before it is compared with the sender. -/
def admitStream (node : Node) (session : Session) (reg : Registry) (ref : ClientRef) (sender : ID)
    (input : Input) : Outcome Processed :=
  let reg := setID reg ref sender
  match reg.clients[ref]? with
  | none => .panic
  | some client =>
      -- "network: failed to load session"
      if reg.connections client.peerID = none then quit node session reg
      else if malformedSignature node sender input.msg then quit node session reg
      else if client.id.any (·.equals sender) = false then quit node session reg
      else (acknowledge node session reg client input).map fun reg =>
        { reg := reg, session := session, dispatched := some ref, alive := true }

/-- One turn of `Accept` or `AcceptQuic`. Every early end leaves the loop. -/
def handleStream (node : Node) (session : Session) (reg : Registry) (input : Input) : Outcome Processed :=
  match input.msg.sender with
  | none => .panic
  | some sender =>
      (register node session reg sender input.dialed).bind fun
        | (none, reg) => quit node session reg
        | (some ref, reg) => admitStream node session reg ref sender input

def admitUdp (session : Session) (reg : Registry) (ref : ClientRef) (sender : ID) : Outcome Processed :=
  let reg := setID reg ref sender
  match reg.clients[ref]? with
  | none => .panic
  | some client =>
      let result : Processed :=
        { reg := reg, session := { session with client := some ref }, dispatched := none, alive := true }
      if reg.connections client.peerID = none then .done result
      else if client.id.any (·.equals sender) = false then .done result
      else .done { result with dispatched := some ref }

/-- One turn of `AcceptUdp`. Every early end drops the message and goes on; the
client variable keeps what the lookup returned. -/
def handleUdp (node : Node) (session : Session) (reg : Registry) (input : Input) : Outcome Processed :=
  match input.msg.sender with
  | none => .panic
  | some sender =>
      if malformedSignature node sender input.msg then
        .done { reg := reg, session := session, dispatched := none, alive := true }
      else
        (register node session reg sender input.dialed).bind fun
          | (none, reg) =>
              .done { reg := reg, session := { session with client := none }, dispatched := none, alive := true }
          | (some ref, reg) => admitUdp session reg ref sender

def handle (node : Node) (session : Session) (reg : Registry) (input : Input) : Outcome Processed :=
  match session.loop with
  | .acceptUdp => handleUdp node session reg input
  | _ => handleStream node session reg input

/-! Runs. -/

/-- What can happen to the registry. Beside the receive loops there are the callers
of `Client`, of a client's `Close` and of `UpdateConnState`, and the component that
switches acknowledgements on. -/
inductive Event where
  | message (session : Session) (input : Input)
  | client (address peerID : String) (dialed : Option Conn)
  | close (ref : ClientRef)
  | updateConnState (peerID : String) (state : PeerState)
  | enableAckReply (ref : ClientRef)
  deriving DecidableEq, Repr

/-- The registry, and the messages handed on so far: the client each went to and
its sender. -/
structure World where
  reg : Registry
  log : List (ClientRef × ID)

def start : World := { reg := emptyRegistry, log := [] }

def note (log : List (ClientRef × ID)) (sender : Option ID) (dispatched : Option ClientRef) :
    List (ClientRef × ID) :=
  match sender, dispatched with
  | some sender, some ref => (ref, sender) :: log
  | _, _ => log

/-- Any loop may be the next to run, on whatever connection. -/
def step (node : Node) (world : World) : Event → Outcome World
  | .message session input =>
      (handle node session world.reg input).map fun result =>
        { reg := result.reg, log := note world.log input.msg.sender result.dispatched }
  | .client address peerID dialed =>
      (getOrSetPeerClient node.env world.reg address peerID none dialed).map fun (_, reg) =>
        { world with reg := reg }
  | .close ref => (close node.env world.reg ref).map fun reg => { world with reg := reg }
  | .updateConnState peerID state => .done { world with reg := updateConnState world.reg peerID state }
  | .enableAckReply ref => .done { world with reg := enableAckReply world.reg ref }

/-! A small node for the examples below: two addresses, and no signature is good. -/

def localResolver : Resolver where
  trimSpace address := address
  urlParse address :=
    if address = "tcp://a:1" then some ("tcp", "a:1")
    else if address = "tcp://b:1" then some ("tcp", "b:1")
    else none
  splitHostPort host :=
    if host = "a:1" then some ("a", "1") else if host = "b:1" then some ("b", "1") else none
  joinHostPort host port := host ++ ":" ++ port
  parseUint16 port := if port = "1" then some 1 else none
  parseIP _ := true
  lookupHost _ := none

def localNode : Node :=
  { env := { resolver := localResolver, address := "tcp://a:1", transports := ["tcp"] },
    proxyMode := false, verify := fun _ _ _ => false }

/-- The peer at the other address; its key is fixed, its ID is what it says. -/
def neighbour (id : Bytes) : ID :=
  { netKey := some [1], address := "tcp://b:1", id := id, connectionId := [], address2 := "" }

def inputOf (sender : ID) (signature : Option Bytes) : Input :=
  { msg := { message := [], sender := some sender, signature := signature, requestNonce := 0,
             messageNonce := 0, replyFlag := false, opcode := 10, netID := 0, messageID := "",
             needAck := false },
    dialed := none, ackFails := false }

def accepted : Session := { loop := .accept, incoming := ⟨.net, 0⟩, client := none }

/-! What a turn does to the identities. -/

theorem ids_setID (reg : Registry) (ref : ClientRef) (sender : ID) :
    ids (setID reg ref sender) = (ids reg).set ref (some sender) := by
  unfold setID
  cases found : reg.clients[ref]? with
  | none =>
      have outside : (ids reg).length ≤ ref := by simpa using found
      rw [List.set_eq_of_length_le outside]
  | some client => simp [ids, List.map_set]

theorem quit_ids {node : Node} {session : Session} {reg : Registry} {result : Processed}
    (left : quit node session reg = .done result) :
    ids result.reg = ids reg ∧ result.dispatched = none ∧ result.alive = false := by
  obtain ⟨last, closed, same⟩ := Outcome.bind_eq_done.mp left
  cases same
  refine ⟨?_, rfl, rfl⟩
  split at closed
  · cases closed; rfl
  · exact close_ids closed

theorem acknowledge_ids {node : Node} {session : Session} {reg next : Registry} {client : PeerClient}
    {input : Input} (told : acknowledge node session reg client input = .done next) :
    ids next = ids reg := by
  unfold acknowledge at told
  split at told
  · split at told
    · cases told; rfl
    · exact close_ids told
  · cases told; rfl

def Resolves (node : Node) (reg : Registry) (sender : ID) (ref : ClientRef) : Prop :=
  Takes node.env reg sender.address sender.publicKeyHex ref

/-- The datagram loop looks at the signature first and stops there. -/
def Ignores (node : Node) (session : Session) (sender : ID) (msg : Message) : Prop :=
  session.loop = .acceptUdp ∧ malformedSignature node sender msg = true

/-- Once there is a client, the sender is written into it whatever follows. Only
the signature and a missing connection hold the message back: the comparison with
the client's ID is one of the sender with itself. -/
structure Admits (node : Node) (reg : Registry) (ref : ClientRef) (sender : ID) (msg : Message)
    (result : Processed) : Prop where
  written : ids result.reg = (ids reg).set ref (some sender)
  dispatched : ∀ other, result.dispatched = some other ↔
    other = ref ∧ malformedSignature node sender msg = false ∧ reg.connections sender.publicKeyHex ≠ none

theorem setID_connections (reg : Registry) (ref : ClientRef) (sender : ID) :
    (setID reg ref sender).connections = reg.connections := by
  unfold setID
  split <;> rfl

theorem setID_length (reg : Registry) (ref : ClientRef) (sender : ID) :
    (setID reg ref sender).clients.length = reg.clients.length := by
  rw [← ids_length, ids_setID, List.length_set, ids_length]

theorem setID_found {reg : Registry} {ref : ClientRef} {sender : ID} {client : PeerClient}
    (found : (setID reg ref sender).clients[ref]? = some client) :
    client.id = some sender ∧ client.peerID = sender.publicKeyHex := by
  have noted : (ids (setID reg ref sender))[ref]? = some client.id := by simp [ids, found]
  have bound := (List.getElem?_eq_some_iff.mp noted).1
  rw [ids_length, setID_length, ← ids_length] at bound
  rw [ids_setID, List.getElem?_set_self bound] at noted
  have known : client.id = some sender := (Option.some.inj noted).symm
  exact ⟨known, by simp [PeerClient.peerID, known]⟩

theorem admitStream_admits {node : Node} {session : Session} {reg : Registry} {ref : ClientRef}
    {sender : ID} {input : Input} {result : Processed}
    (admitted : admitStream node session reg ref sender input = .done result) :
    Admits node reg ref sender input.msg result ∧ result.alive = result.dispatched.isSome := by
  unfold admitStream at admitted
  dsimp only at admitted
  split at admitted
  · simp at admitted
  · rename_i client found
    obtain ⟨noted, key⟩ := setID_found found
    -- All ends but the last are the deferred close.
    have held : (malformedSignature node sender input.msg = true ∨
        reg.connections sender.publicKeyHex = none) →
        quit node session (setID reg ref sender) = .done result →
        Admits node reg ref sender input.msg result ∧ result.alive = result.dispatched.isSome := by
      intro reason left
      obtain ⟨same, nobody, ended⟩ := quit_ids left
      refine ⟨⟨same.trans (ids_setID reg ref sender), fun other => ?_⟩, by simp [nobody, ended]⟩
      rcases reason with malformed | missing
      · simp [nobody, malformed]
      · simp [nobody, missing]
    rw [setID_connections, key] at admitted
    split at admitted
    · rename_i missing
      exact held (Or.inr missing) admitted
    · rename_i connected
      split at admitted
      · rename_i malformed
        exact held (Or.inl malformed) admitted
      · rename_i signed
        rw [if_neg (by simp [noted, ID.equals])] at admitted
        obtain ⟨last, told, same⟩ := Outcome.bind_eq_done.mp admitted
        cases same
        refine ⟨⟨(acknowledge_ids told).trans (ids_setID reg ref sender), fun other => ?_⟩, rfl⟩
        simpa [connected, signed] using eq_comm

theorem admitUdp_admits {node : Node} {session : Session} {reg : Registry} {ref : ClientRef} {sender : ID}
    {msg : Message} {result : Processed} (signed : malformedSignature node sender msg = false)
    (admitted : admitUdp session reg ref sender = .done result) :
    Admits node reg ref sender msg result := by
  unfold admitUdp at admitted
  dsimp only at admitted
  split at admitted
  · simp at admitted
  · rename_i client found
    obtain ⟨noted, key⟩ := setID_found found
    rw [setID_connections, key] at admitted
    split at admitted
    · rename_i missing
      cases admitted
      exact ⟨ids_setID reg ref sender, by simp [missing]⟩
    · rename_i connected
      rw [if_neg (by simp [noted, ID.equals])] at admitted
      cases admitted
      exact ⟨ids_setID reg ref sender, fun other => by simpa [connected, signed] using eq_comm⟩

theorem handle_of_stream {node : Node} {session : Session} {reg : Registry} {input : Input}
    (stream : session.loop ≠ .acceptUdp) :
    handle node session reg input = handleStream node session reg input := by
  unfold handle
  split
  · contradiction
  · rfl

/-- What every turn comes to: it ignores the message, or it asks the registry and
then ends without a client or admits the message to the one it got. -/
theorem handle_cases {node : Node} {session : Session} {reg : Registry} {input : Input} {sender : ID}
    {result : Processed} (named : input.msg.sender = some sender)
    (handled : handle node session reg input = .done result) :
    (session.loop ≠ .acceptUdp → result.alive = result.dispatched.isSome) ∧
    ((Ignores node session sender input.msg ∧ result.reg = reg ∧ result.dispatched = none) ∨
      ¬ Ignores node session sender input.msg ∧
        ∃ returned next, register node session reg sender input.dialed = .done (returned, next) ∧
          ((returned = none ∧ ids result.reg = ids next ∧ result.dispatched = none) ∨
            ∃ ref, returned = some ref ∧ Admits node next ref sender input.msg result)) := by
  by_cases udp : session.loop = .acceptUdp
  · refine ⟨fun other => absurd udp other, ?_⟩
    simp only [handle, udp, handleUdp, named] at handled
    cases malformed : malformedSignature node sender input.msg with
    | true =>
        simp only [malformed, if_true] at handled
        cases handled
        exact Or.inl ⟨⟨udp, malformed⟩, rfl, rfl⟩
    | false =>
        simp only [malformed, Bool.false_eq_true, if_false] at handled
        obtain ⟨⟨returned, next⟩, registered, rest⟩ := Outcome.bind_eq_done.mp handled
        refine Or.inr ⟨fun ignored => by simp [Ignores, malformed] at ignored, returned, next, registered, ?_⟩
        cases returned with
        | none => cases rest; exact Or.inl ⟨rfl, rfl, rfl⟩
        | some ref => exact Or.inr ⟨ref, rfl, admitUdp_admits malformed rest⟩
  · simp only [handle_of_stream udp, handleStream, named] at handled
    obtain ⟨⟨returned, next⟩, registered, rest⟩ := Outcome.bind_eq_done.mp handled
    have heeded : ¬ Ignores node session sender input.msg := fun ignored => udp ignored.1
    cases returned with
    | none =>
        obtain ⟨same, nobody, ended⟩ := quit_ids rest
        exact ⟨fun _ => by simp [nobody, ended],
          Or.inr ⟨heeded, none, next, registered, Or.inl ⟨rfl, same, nobody⟩⟩⟩
    | some ref =>
        obtain ⟨admits, alive⟩ := admitStream_admits rest
        exact ⟨fun _ => alive, Or.inr ⟨heeded, some ref, next, registered, Or.inr ⟨ref, rfl, admits⟩⟩⟩

/-! Properties of the registry alone. After its registration a turn only names and
closes clients; a run does five things to a registry in all. -/

structure Persists (node : Node) (Holds : Registry → Prop) : Prop where
  named : ∀ reg ref sender, Holds reg → Holds (setID reg ref sender)
  closed : ∀ reg ref next, Holds reg → close node.env reg ref = .done next → Holds next

structure Stable (node : Node) (Holds : Registry → Prop) : Prop where
  registered : ∀ reg address peerID conn dialed returned next, Holds reg →
    getOrSetPeerClient node.env reg address peerID conn dialed = .done (returned, next) → Holds next
  named : ∀ reg ref sender, Holds reg → Holds (setID reg ref sender)
  closed : ∀ reg ref next, Holds reg → close node.env reg ref = .done next → Holds next
  updated : ∀ reg peerID state, Holds reg → Holds (updateConnState reg peerID state)
  switched : ∀ reg ref, Holds reg → Holds (enableAckReply reg ref)

namespace Persists

variable {node : Node} {Holds : Registry → Prop} (persists : Persists node Holds) {session : Session}
  {reg : Registry} {input : Input} {sender : ID} {ref : ClientRef} {result : Processed}
include persists

theorem quit (held : Holds reg) (left : quit node session reg = .done result) : Holds result.reg := by
  obtain ⟨last, closed, same⟩ := Outcome.bind_eq_done.mp left
  cases same
  split at closed
  · cases closed; exact held
  · exact persists.closed _ _ _ held closed

theorem admitStream (held : Holds reg)
    (admitted : admitStream node session reg ref sender input = .done result) : Holds result.reg := by
  have noted := persists.named reg ref sender held
  unfold AcceptLoops.admitStream at admitted
  dsimp only at admitted
  split at admitted
  · simp at admitted
  · split at admitted
    · exact persists.quit noted admitted
    · split at admitted
      · exact persists.quit noted admitted
      · split at admitted
        · exact persists.quit noted admitted
        · obtain ⟨last, told, same⟩ := Outcome.bind_eq_done.mp admitted
          cases same
          unfold acknowledge at told
          split at told
          · split at told
            · cases told; exact noted
            · exact persists.closed _ _ _ noted told
          · cases told; exact noted

theorem admitUdp (held : Holds reg) (admitted : admitUdp session reg ref sender = .done result) :
    Holds result.reg := by
  have noted := persists.named reg ref sender held
  unfold AcceptLoops.admitUdp at admitted
  dsimp only at admitted
  split at admitted
  · simp at admitted
  · split at admitted
    · cases admitted; exact noted
    · split at admitted <;> (cases admitted; exact noted)

theorem handle (held : Holds reg)
    (registered : ∀ sender returned next, input.msg.sender = some sender →
      register node session reg sender input.dialed = .done (returned, next) → Holds next)
    (handled : handle node session reg input = .done result) : Holds result.reg := by
  unfold AcceptLoops.handle at handled
  split at handled
  · unfold handleUdp at handled
    split at handled
    · simp at handled
    · rename_i sender named
      split at handled
      · cases handled; exact held
      · obtain ⟨⟨returned, next⟩, called, rest⟩ := Outcome.bind_eq_done.mp handled
        have nextHeld := registered sender returned next named called
        cases returned with
        | none => cases rest; exact nextHeld
        | some ref => exact persists.admitUdp nextHeld rest
  · unfold handleStream at handled
    split at handled
    · simp at handled
    · rename_i sender named
      obtain ⟨⟨returned, next⟩, called, rest⟩ := Outcome.bind_eq_done.mp handled
      have nextHeld := registered sender returned next named called
      cases returned with
      | none => exact persists.quit nextHeld rest
      | some ref => exact persists.admitStream nextHeld rest

end Persists

namespace Stable

variable {node : Node} {Holds : Registry → Prop} (stable : Stable node Holds) {session : Session}
  {reg : Registry} {input : Input} {result : Processed}
include stable

theorem persists : Persists node Holds where
  named := stable.named
  closed := stable.closed

theorem handle (held : Holds reg) (handled : handle node session reg input = .done result) :
    Holds result.reg :=
  stable.persists.handle held (fun _ _ _ _ called => stable.registered _ _ _ _ _ _ _ held called) handled

theorem step {before after : World} {event : Event} (stepped : step node before event = .done after)
    (held : Holds before.reg) : Holds after.reg := by
  cases event with
  | message session input =>
      obtain ⟨result, handled, same⟩ := Outcome.bind_eq_done.mp stepped
      cases same
      exact stable.handle held handled
  | client address peerID dialed =>
      obtain ⟨⟨returned, next⟩, called, same⟩ := Outcome.bind_eq_done.mp stepped
      cases same
      exact stable.registered _ _ _ _ _ _ _ held called
  | close ref =>
      obtain ⟨next, closed, same⟩ := Outcome.bind_eq_done.mp stepped
      cases same
      exact stable.closed _ _ _ held closed
  | updateConnState peerID state => cases stepped; exact stable.updated _ _ _ held
  | enableAckReply ref => cases stepped; exact stable.switched _ _ held

theorem run {first last : World} {events : List Event}
    (run : Run (fun before event after => AcceptLoops.step node before event = .done after) first events last)
    (held : Holds first.reg) : Holds last.reg :=
  run.invariant (fun world => Holds world.reg) (fun _ _ _ stepped => stable.step stepped) held

end Stable

end Carrier.AcceptLoops
