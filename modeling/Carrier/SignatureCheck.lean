import Carrier.AcceptLoops

/-! A message whose signature does not verify. The datagram loop checks it before
anything else. The stream loops check it after the sender has been registered and
written into a client, so the message has left its mark by then unless there was
nothing to register and nothing to write. What their end then removes goes by the
keys of the dialled client. -/
namespace Carrier.SignatureCheck

open GoRuntime Identity Address ConnMgr Framing TransitionSystem AcceptLoops

def SameAt (before after : Registry) (key : String) : Prop :=
  after.peers key = before.peers key ∧ after.connections key = before.connections key ∧
    after.connStates key = before.connStates key ∧ after.streams key = before.streams key

structure RemovedAt (incoming : Conn) (before after : Registry) (key : String) : Prop where
  owned : before.connections key = some incoming
  peers : after.peers key = none
  connections : after.connections key = none
  streams : after.streams key = none
  connStates : after.connStates key ≠ some .reachable

/-- Nothing but entries of the connection was removed, and nothing was added. -/
def Cleared (incoming : Conn) (before after : Registry) : Prop :=
  ∀ key, SameAt before after key ∨ RemovedAt incoming before after key

structure Harmless (reg : Registry) (incoming : Conn) (result : Processed) : Prop where
  undispatched : result.dispatched = none
  ids : ∀ ref : ClientRef, ref < reg.clients.length → (ids result.reg)[ref]? = (ids reg)[ref]?
  cleared : Cleared incoming reg result.reg

theorem cleared_of_eq {incoming : Conn} {before after : Registry} (peers : after.peers = before.peers)
    (connections : after.connections = before.connections) (connStates : after.connStates = before.connStates)
    (streams : after.streams = before.streams) : Cleared incoming before after := by
  intro key
  exact Or.inl ⟨by rw [peers], by rw [connections], by rw [connStates], by rw [streams]⟩

theorem Cleared.connections {incoming : Conn} {before after : Registry} (cleared : Cleared incoming before after)
    {key : String} {conn : Conn} (held : after.connections key = some conn) :
    before.connections key = some conn := by
  rcases cleared key with ⟨_, same, _⟩ | removed
  · rwa [← same]
  · rw [removed.connections] at held
    simp at held

theorem Cleared.trans {incoming : Conn} {first second third : Registry}
    (before : Cleared incoming first second) (after : Cleared incoming second third) :
    Cleared incoming first third := by
  intro key
  rcases before key with ⟨peers, connections, connStates, streams⟩ | removed
  · rcases after key with ⟨peers', connections', connStates', streams'⟩ | removed
    · exact Or.inl ⟨peers'.trans peers, connections'.trans connections, connStates'.trans connStates,
        streams'.trans streams⟩
    · exact Or.inr { removed with owned := connections ▸ removed.owned }
  · rcases after key with ⟨peers, connections, connStates, streams⟩ | again
    · exact Or.inr {
        owned := removed.owned
        peers := peers.trans removed.peers
        connections := connections.trans removed.connections
        streams := streams.trans removed.streams
        connStates := by rw [connStates]; exact removed.connStates }
    · -- The first removal left no connection for the second to find.
      have owned := again.owned
      rw [removed.connections] at owned
      simp at owned

/-! The end of a stream loop. -/

/-- What closing the client removes is the connection's: its two keys lead to that
connection or to none. A node whose own address does not parse removes nothing. -/
def Owns (env : Env) (incoming : Conn) (reg : Registry) (ref : ClientRef) : Prop :=
  ∀ client info, reg.clients[ref]? = some client → client.closed = false →
    parseAddress env.resolver env.address = some info →
    ∀ key, key = client.peerID ∨ key = client.lastAddress →
      ∀ conn, reg.connections key = some conn → conn = incoming ∧ closable info.protocol conn = true

theorem removeKey_cleared (env : Env) (incoming : Conn) (reg : Registry) (key : String)
    (own : ∀ info conn, parseAddress env.resolver env.address = some info →
      reg.connections key = some conn → conn = incoming ∧ closable info.protocol conn = true) :
    ∃ next, removeKey env reg key = .done next ∧ Cleared incoming reg next := by
  unfold removeKey
  cases link : reg.connections key with
  | none => exact ⟨reg, rfl, cleared_of_eq rfl rfl rfl rfl⟩
  | some conn =>
      cases parses : parseAddress env.resolver env.address with
      | none => exact ⟨reg, rfl, cleared_of_eq rfl rfl rfl rfl⟩
      | some info =>
          obtain ⟨rfl, fits⟩ := own info conn parses link
          refine ⟨deleteKey reg key, by simp [fits], fun other => ?_⟩
          by_cases here : other = key
          · subst here
            exact Or.inr {
              owned := link
              peers := by simp [deleteKey, delete]
              connections := by simp [deleteKey, delete]
              streams := by simp [deleteKey, delete]
              connStates := by simp [deleteKey, store] }
          · exact Or.inl (by simp [SameAt, deleteKey, delete, store, here])

theorem close_cleared {env : Env} {incoming : Conn} {reg : Registry} {ref : ClientRef}
    (owns : Owns env incoming reg ref) :
    ∃ next, close env reg ref = .done next ∧ Cleared incoming reg next := by
  unfold close
  cases found : reg.clients[ref]? with
  | none => exact ⟨reg, rfl, cleared_of_eq rfl rfl rfl rfl⟩
  | some client =>
      dsimp only
      cases ended : client.closed with
      | true => exact ⟨reg, rfl, cleared_of_eq rfl rfl rfl rfl⟩
      | false =>
          simp only [Bool.false_eq_true, if_false]
          -- Marking the client as closed is in no map.
          generalize marked : { reg with clients := reg.clients.set ref { client with closed := true } } =
            opened
          have same : Cleared incoming reg opened := by
            subst marked
            exact cleared_of_eq rfl rfl rfl rfl
          have own := fun key is info conn parses (link : opened.connections key = some conn) =>
            owns client info found ended parses key is conn (same.connections link)
          unfold removeEntries
          by_cases nowhere : client.lastAddress = ""
          · exact ⟨opened, by rw [if_pos nowhere], same⟩
          · obtain ⟨middle, first, cleared⟩ := removeKey_cleared env incoming opened client.peerID
              (own _ (Or.inl rfl))
            obtain ⟨last, second, clearedToo⟩ := removeKey_cleared env incoming middle client.lastAddress
              fun info conn parses link => own _ (Or.inr rfl) info conn parses (cleared.connections link)
            refine ⟨last, ?_, same.trans (cleared.trans clearedToo)⟩
            rw [if_neg nowhere, first, Outcome.done_bind, second]

theorem quit_harmless {node : Node} {session : Session} {reg : Registry}
    (owns : ∀ ref, session.client = some ref → Owns node.env session.incoming reg ref) :
    ∃ result, quit node session reg = .done result ∧ Harmless reg session.incoming result := by
  cases dialled : session.client with
  | none =>
      refine ⟨_, by unfold quit; rw [dialled]; rfl, rfl, fun _ _ => rfl, cleared_of_eq rfl rfl rfl rfl⟩
  | some ref =>
      obtain ⟨next, closed, cleared⟩ := close_cleared (owns ref dialled)
      refine ⟨_, by unfold quit; rw [dialled]; dsimp only; rw [closed]; rfl, rfl, ?_, cleared⟩
      intro other _
      rw [close_ids closed]

/-! The sender's entry. -/

/-- Nothing is registered and nothing is written: the address is refused, or no
entry is moved and either no connection comes about or the client of the key has
the sender for its ID already. -/
def Quiet (node : Node) (session : Session) (reg : Registry) (sender : ID) (dialed : Option Conn) : Prop :=
  ∀ unified info, Accepted node.env sender.address unified info →
    (unified = keyOf sender.address sender.publicKeyHex ∨ reg.peers unified = none) ∧
    (∀ ref client, reg.peers (keyOf sender.address sender.publicKeyHex) = some ref →
      reg.clients[ref]? = some client → client.outgoingReady = true → client.id = some sender) ∧
    (reg.peers (keyOf sender.address sender.publicKeyHex) = none →
      obtainConn node.env unified (if node.proxyMode then none else some session.incoming) dialed = .done none)

def Vetted (node : Node) (session : Session) (reg : Registry) (sender : ID) (dialed : Option Conn) : Prop :=
  session.loop = .acceptUdp ∨ (Quiet node session reg sender dialed ∧
    ∀ ref, session.client = some ref → Owns node.env session.incoming reg ref)

def written (returned : Option ClientRef) (reg : Registry) (sender : ID) : Registry :=
  match returned with
  | none => reg
  | some ref => setID reg ref sender

theorem registered_found {node : Node} {session : Session} {reg next : Registry} {sender : ID}
    {dialed : Option Conn} {ref : ClientRef}
    (registered : register node session reg sender dialed = .done (some ref, next)) :
    ref < next.clients.length := by
  rcases getOrSetPeerClient_ids registered with ⟨impossible, _⟩ |
      ⟨other, unified, info, same, ⟨_, _, _, _, ready⟩, _, rfl⟩ | ⟨same, kept, _⟩
  · simp at impossible
  · cases same
    rw [rename_clients]
    by_contra outside
    rw [List.getElem?_eq_none (Nat.le_of_not_lt outside)] at ready
    simp at ready
  · cases same
    rw [← ids_length next, kept, List.length_append, ids_length, List.length_singleton]
    exact Nat.lt_succ_self _

theorem admitStream_malformed {node : Node} {session : Session} {reg : Registry} {ref : ClientRef}
    {sender : ID} {input : Input} (inside : ref < reg.clients.length)
    (malformed : malformedSignature node sender input.msg = true) :
    admitStream node session reg ref sender input = quit node session (setID reg ref sender) := by
  unfold admitStream
  dsimp only
  split
  · rename_i missing
    rw [List.getElem?_eq_none_iff, setID_length] at missing
    exact absurd inside (Nat.not_lt.mpr missing)
  · rw [if_pos malformed]
    split <;> rfl

theorem handle_malformed {node : Node} {session : Session} {reg : Registry} {input : Input} {sender : ID}
    (stream : session.loop ≠ .acceptUdp) (named : input.msg.sender = some sender)
    (malformed : malformedSignature node sender input.msg = true) :
    handle node session reg input =
      (register node session reg sender input.dialed).bind fun (returned, next) =>
        quit node session (written returned next sender) := by
  simp only [handle_of_stream stream, handleStream, named]
  cases registered : register node session reg sender input.dialed with
  | panic => rfl
  | done answer =>
      obtain ⟨returned, next⟩ := answer
      cases returned with
      | none => rfl
      | some ref => exact admitStream_malformed (registered_found registered) malformed

theorem setID_same {reg : Registry} {ref : ClientRef} {sender : ID} {client : PeerClient}
    (found : reg.clients[ref]? = some client) (known : client.id = some sender) :
    setID reg ref sender = reg := by
  obtain ⟨inside, rfl⟩ := List.getElem?_eq_some_iff.mp found
  have same : { reg.clients[ref] with id := some sender } = reg.clients[ref] := by rw [← known]
  simp [setID, found, same]

theorem quiet_registered {node : Node} {session : Session} {reg : Registry} {sender : ID}
    {dialed : Option Conn} (quiet : Quiet node session reg sender dialed) :
    ∃ returned next, register node session reg sender dialed = .done (returned, next) ∧
      written returned next sender = reg := by
  have registered := getOrSetPeerClient_registered node.env reg sender.address sender.publicKeyHex
    (if node.proxyMode then none else some session.incoming) dialed
  unfold register
  generalize getOrSetPeerClient node.env reg sender.address sender.publicKeyHex
    (if node.proxyMode then none else some session.incoming) dialed = outcome at registered ⊢
  cases registered with
  | rejected => exact ⟨none, reg, rfl, rfl⟩
  | undialed => exact ⟨none, reg, rfl, rfl⟩
  | undialable accepted _ free obtained =>
      rw [(quiet _ _ accepted).2.2 free] at obtained
      simp at obtained
  | created accepted _ free obtained =>
      rw [(quiet _ _ accepted).2.2 free] at obtained
      simp at obtained
  | @present unified info ref accepted held =>
      obtain ⟨still, known, _⟩ := quiet unified info accepted
      rw [rename_eq_of_still still] at held ⊢
      refine ⟨_, _, rfl, ?_⟩
      cases found : reg.clients[ref]? with
      | none => rfl
      | some client =>
          cases ready : client.outgoingReady with
          | false => simp [written, ready]
          | true =>
              simp only [Option.any_some, ready, if_true, written]
              exact setID_same found (known ref client held found ready)

theorem harmless_of_vetted {node : Node} {session : Session} {reg : Registry} {input : Input} {sender : ID}
    (named : input.msg.sender = some sender) (malformed : malformedSignature node sender input.msg = true)
    (vetted : Vetted node session reg sender input.dialed) :
    ∃ result, handle node session reg input = .done result ∧ Harmless reg session.incoming result := by
  by_cases udp : session.loop = .acceptUdp
  · refine ⟨_, by simp only [handle, udp, handleUdp, named, malformed, if_true]; rfl, rfl, fun _ _ => rfl,
      cleared_of_eq rfl rfl rfl rfl⟩
  · rcases vetted with isUdp | ⟨quiet, owns⟩
    · exact absurd isUdp udp
    · obtain ⟨returned, next, registered, unwritten⟩ := quiet_registered quiet
      rw [handle_malformed udp named malformed, registered, Outcome.done_bind]
      dsimp only
      rw [unwritten]
      exact quit_harmless owns

/-! What a message that is not quiet leaves behind. -/

theorem setID_peers (reg : Registry) (ref : ClientRef) (sender : ID) :
    (setID reg ref sender).peers = reg.peers := by
  unfold setID
  split <;> rfl

theorem written_peers (returned : Option ClientRef) (reg : Registry) (sender : ID) :
    (written returned reg sender).peers = reg.peers := by
  cases returned with
  | none => rfl
  | some ref => exact setID_peers reg ref sender

theorem Cleared.peers {incoming : Conn} {before after : Registry} (cleared : Cleared incoming before after)
    {key : String} {ref : ClientRef} (held : after.peers key = some ref) : before.peers key = some ref := by
  rcases cleared key with ⟨same, _⟩ | removed
  · rwa [← same]
  · rw [removed.peers] at held
    simp at held

theorem quiet_of_cleared {node : Node} {session : Session} {reg next : Registry} {sender : ID}
    {dialed : Option Conn} {returned : Option ClientRef} (indexed : Indexed reg)
    (registered : register node session reg sender dialed = .done (returned, next))
    (kept : ∀ ref : ClientRef, ref < reg.clients.length →
      (ids (written returned next sender))[ref]? = (ids reg)[ref]?)
    (cleared : Cleared session.incoming reg (written returned next sender)) :
    Quiet node session reg sender dialed := by
  unfold register at registered
  intro unified info accepted
  cases returns_of_called registered with
  | rejected refused => exact absurd accepted (refused unified info)
  | @undialed other another again unmoved free obtained =>
      obtain ⟨rfl, rfl⟩ := accepted.unique again
      have missing := rename_peers_key reg other (keyOf sender.address sender.publicKeyHex)
      rw [unmoved, free, Option.or_none] at missing
      exact ⟨Or.inr missing.symm, by simp [free], fun _ => obtained⟩
  | @created other another link _ _ free _ =>
      -- A new peer entry is neither an old one nor gone.
      have new : (written (some reg.clients.length)
          (enter reg another other (keyOf sender.address sender.publicKeyHex) link) sender).peers
          (keyOf sender.address sender.publicKeyHex) = some reg.clients.length := by
        rw [written_peers, enter_peers]
        simp [store]
      have old := cleared.peers new
      simp [free] at old
  | @present other another ref _ again held result =>
      subst result
      obtain ⟨rfl, rfl⟩ := accepted.unique again
      have still := indexed.unmoved held (cleared.peers (by rw [written_peers, held]))
      rw [rename_eq_of_still still] at held kept
      refine ⟨still, fun found client foundHeld stored ready => ?_, fun free => by simp [held] at free⟩
      obtain rfl := Option.some.inj (held.symm.trans foundHeld)
      have inside := indexed.inside _ _ held
      have same := kept ref inside
      simp only [stored, Option.any_some, ready, if_true, written] at same
      rw [ids_setID, List.getElem?_set_self (by simpa using inside)] at same
      have noted : (ids reg)[ref]? = some client.id := by simp [ids, stored]
      rw [noted] at same
      exact (Option.some.inj same).symm

theorem vetted_of_harmless {node : Node} {session : Session} {reg : Registry} {input : Input} {sender : ID}
    {result : Processed} (indexed : Indexed reg) (undialled : session.client = none)
    (named : input.msg.sender = some sender) (malformed : malformedSignature node sender input.msg = true)
    (handled : handle node session reg input = .done result)
    (harmless : Harmless reg session.incoming result) : Vetted node session reg sender input.dialed := by
  by_cases udp : session.loop = .acceptUdp
  · exact Or.inl udp
  · refine Or.inr ⟨?_, by simp [undialled]⟩
    rw [handle_malformed udp named malformed] at handled
    obtain ⟨⟨returned, next⟩, registered, left⟩ := Outcome.bind_eq_done.mp handled
    simp only [quit, undialled, Outcome.done_map] at left
    cases left
    exact quiet_of_cleared indexed registered harmless.ids harmless.cleared

theorem indexed_stable (node : Node) : Stable node Indexed where
  registered _ _ _ _ _ _ _ indexed called := indexed.getOrSetPeerClient called
  named reg ref sender indexed :=
    indexed.of_fewer (fun _ _ held => by rwa [setID_peers] at held) (setID_length reg ref sender)
  closed _ _ _ indexed closed := indexed.close closed
  updated _ _ _ indexed := indexed.of_fewer (fun _ _ held => held) rfl
  switched _ _ indexed := indexed.of_fewer (fun _ _ held => held) (by simp [enableAckReply])

/-- In every state a node can reach, a vetted message with a bad signature goes
nowhere and changes nothing but the entries of its own connection. On an accepted
connection no other one does. -/
theorem badSignature_harmless {node : Node} {events : List Event} {world : World} {session : Session}
    {input : Input} {sender : ID}
    (run : Run (fun before event after => step node before event = .done after) start events world)
    (named : input.msg.sender = some sender) (malformed : malformedSignature node sender input.msg = true) :
    (Vetted node session world.reg sender input.dialed →
      ∃ result, handle node session world.reg input = .done result ∧
        Harmless world.reg session.incoming result) ∧
    (session.client = none →
      (∃ result, handle node session world.reg input = .done result ∧
        Harmless world.reg session.incoming result) →
      Vetted node session world.reg sender input.dialed) := by
  refine ⟨harmless_of_vetted named malformed, ?_⟩
  rintro undialled ⟨result, handled, harmless⟩
  have empty : Indexed start.reg := ⟨by simp [start, emptyRegistry], by simp [start, emptyRegistry]⟩
  exact vetted_of_harmless ((indexed_stable node).run run empty) undialled named malformed handled harmless

/-- A second message of a peer that is known, with the same sender and a bad
signature. -/
theorem badSignature_harmless_known :
    ∃ world result, Run (fun before event after => step localNode before event = .done after) start
        [.message accepted (inputOf (neighbour [1]) none)] world ∧
      handle localNode accepted world.reg (inputOf (neighbour [1]) (some [1])) = .done result ∧
      Harmless world.reg accepted.incoming result := by
  obtain ⟨world, stepped, away, held, known⟩ : ∃ world,
      step localNode start (.message accepted (inputOf (neighbour [1]) none)) = .done world ∧
      world.reg.peers "tcp://b:1" = none ∧
      world.reg.peers (keyOf (neighbour [1]).address (neighbour [1]).publicKeyHex) = some 0 ∧
      world.reg.clients[0]?.map (·.id) = some (some (neighbour [1])) := ⟨_, rfl, rfl, rfl, rfl⟩
  have run : Run (fun before event after => step localNode before event = .done after) start
      [.message accepted (inputOf (neighbour [1]) none)] world := .cons stepped (.nil _)
  have named : (inputOf (neighbour [1]) (some [1])).msg.sender = some (neighbour [1]) := rfl
  have malformed : malformedSignature localNode (neighbour [1]) (inputOf (neighbour [1]) (some [1])).msg = true :=
    rfl
  have vetted : Vetted localNode accepted world.reg (neighbour [1]) none := by
    refine Or.inr ⟨?_, by simp [accepted]⟩
    intro unified info peer
    have here : unified = "tcp://b:1" := by
      have value : toUnifiedAddress localResolver "tcp://b:1" = some "tcp://b:1" := by decide
      exact Option.some.inj (peer.unifies.symm.trans value)
    refine ⟨Or.inr (here ▸ away), fun ref client found stored _ => ?_, by simp [held]⟩
    obtain rfl := Option.some.inj (held.symm.trans found)
    simpa [stored] using known
  obtain ⟨result, handled, harmless⟩ := (badSignature_harmless run named malformed).1 vetted
  exact ⟨world, result, run, handled, harmless⟩

/-- `Accept` registers the sender of a message with a bad signature, and lets such
a message replace the ID of a client. -/
theorem badSignature_leaves_marks :
    malformedSignature localNode (neighbour [1]) (inputOf (neighbour [1]) (some [1])).msg = true ∧
    malformedSignature localNode (neighbour [2]) (inputOf (neighbour [2]) (some [1])).msg = true ∧
    (∃ result, handle localNode accepted start.reg (inputOf (neighbour [1]) (some [1])) = .done result ∧
      result.reg.peers "01" = some 0 ∧ result.reg.connections "01" = some accepted.incoming ∧
      result.reg.connStates "01" = some .reachable ∧ result.reg.streams "01" = some 0 ∧
      ¬ Harmless start.reg accepted.incoming result) ∧
    ∃ world result, Run (fun before event after => step localNode before event = .done after) start
        [.message accepted (inputOf (neighbour [1]) none)] world ∧
      handle localNode accepted world.reg (inputOf (neighbour [2]) (some [1])) = .done result ∧
      ids world.reg = [some (neighbour [1])] ∧ ids result.reg = [some (neighbour [2])] := by
  refine ⟨rfl, rfl, ?_, _, _, .cons rfl (.nil _), rfl, rfl, rfl⟩
  obtain ⟨result, handled, peers, connections, connStates, streams⟩ : ∃ result,
      handle localNode accepted start.reg (inputOf (neighbour [1]) (some [1])) = .done result ∧
      result.reg.peers "01" = some 0 ∧ result.reg.connections "01" = some accepted.incoming ∧
      result.reg.connStates "01" = some .reachable ∧ result.reg.streams "01" = some 0 :=
    ⟨_, rfl, rfl, rfl, rfl, rfl⟩
  refine ⟨result, handled, peers, connections, connStates, streams, fun harmless => ?_⟩
  have before := harmless.cleared.peers peers
  simp [start, emptyRegistry] at before

end Carrier.SignatureCheck
