import Carrier.OpenConnections
import Carrier.Writing

/-! Which connection a message goes to. `Tell` and `Request` write under the key of
the client's ID, `TellByAddr` and the broadcasts under an address, and an entry is
registered under whatever key the caller of `Client` or the sender of a message gave.
The message reaches the peer where these agree. -/
namespace Carrier.Telling

open GoRuntime Identity Address Framing ConnMgr TransitionSystem AcceptLoops SignatureCheck RegistryOps
  OpenConnections Writing

inductive TellError where
  | prepare
  | context
  | write (error : WriteError)
  deriving DecidableEq, Repr

structure Told where
  outbox : Outbox
  error : Option TellError
  handed : Option (Conn × Bytes)

/-- `PrepareMessage` and `Write`; the first gives no message if it fails. -/
def sendTo (net : Network) (outbox : Outbox) (key : String) (prepared : Option Message) : Progress Told :=
  match prepared with
  | none => .returns ⟨outbox, some .prepare, none⟩
  | some message =>
      match write net outbox key message with
      | .panics => .panics
      | .blocks => .blocks
      | .returns written => .returns ⟨written.outbox, written.error.map .write, written.handed⟩

def tell (net : Network) (outbox : Outbox) (client : PeerClient) (prepared : Option Message) : Progress Told :=
  sendTo net outbox client.peerID prepared

def tellByAddr (net : Network) (outbox : Outbox) (client : PeerClient) (prepared : Option Message) :
    Progress Told :=
  sendTo net outbox client.address prepared

/-- `Request` up to where it waits for the reply. `live` says that the context is
there and not done. -/
def request (net : Network) (outbox : Outbox) (client : PeerClient) (live : Bool) (requestNonce : UInt64)
    (prepared : Option Message) : Progress Told :=
  if live then
    sendTo net outbox client.peerID (prepared.map fun message => { message with requestNonce := requestNonce })
  else .returns ⟨outbox, some .context, none⟩

def Reaches (told : Progress Told) (conn : Conn) : Prop :=
  ∃ after bytes, told = .returns after ∧ after.error = none ∧ after.handed = some (conn, bytes)

theorem reaches_iff {net : Network} {outbox : Outbox} {key : String} {message : Message} {conn : Conn} :
    Reaches (sendTo net outbox key (some message)) conn ↔
      outbox.reg.connections key = some conn ∧ Passes net outbox key message conn := by
  constructor
  · rintro ⟨after, bytes, told, _, handed⟩
    rw [← hands_iff]
    simp only [sendTo] at told
    split at told
    · simp at told
    · simp at told
    · rename_i written wrote
      cases told
      exact ⟨written, bytes, wrote, handed⟩
  · rintro ⟨connected, info, bytes, parses, carries⟩
    have wrote := write_of_carries connected parses carries
    exact ⟨_, bytes, by simp only [sendTo, wrote]; rfl, rfl, rfl⟩

/-! The empty key. A client without an ID is asked for under it. -/

theorem keyOf_ne_blank {env : Env} {address peerID unified : String} {info : AddressInfo}
    (blank : env.resolver.trimSpace "" = "") (accepted : Accepted env address unified info) :
    keyOf address peerID ≠ "" := by
  intro empty
  unfold keyOf at empty
  split at empty
  · have unifies := accepted.unifies
    simp [toUnifiedAddress, empty, blank] at unifies
  · contradiction

theorem blank_stable (node : Node) (blank : node.env.resolver.trimSpace "" = "") :
    Stable node fun reg => Linked reg ∧ reg.peers "" = none where
  registered reg address peerID conn dialed returned next held called := by
    obtain ⟨linked, free⟩ := held
    have change := linked.registered called
    refine ⟨linked.change change, ?_⟩
    -- A move neither starts nor ends at the empty key.
    have moved : ∀ {unified info}, Moves node.env reg address peerID unified info →
        move reg.peers unified (keyOf address peerID) "" = none := by
      intro unified info moves
      have notOld : "" ≠ unified := fun same => moves.present (same ▸ free)
      rw [move_other _ notOld (keyOf_ne_blank blank moves.accepted).symm, free]
    cases change with
    | unchanged => exact free
    | half moves _ => exact moved moves
    | moved moves _ => exact moved moves
    | created creates =>
        have away : keyOf address peerID ≠ "" := keyOf_ne_blank blank creates.accepted
        rw [(enter_other reg _ _ _ _ away.symm).1, free]
  named reg ref sender held :=
    ⟨(linked_stable node).named reg ref sender held.1, by rw [setID_peers]; exact held.2⟩
  closed reg ref next held closed := by
    refine ⟨(linked_stable node).closed reg ref next held.1 closed, ?_⟩
    rcases close_at closed "" with ⟨_, deleted⟩ | ⟨_, same⟩
    · exact deleted.1
    · exact same.1.trans held.2
  updated reg peerID state held := ⟨(linked_stable node).updated reg peerID state held.1, held.2⟩
  switched reg ref held := ⟨(linked_stable node).switched reg ref held.1, held.2⟩

theorem reachable_blank {env : Env} {reg : Registry} (reachable : Reachable env reg)
    (blank : env.resolver.trimSpace "" = "") : reg.connections "" = none := by
  have both := reachable.holds (blank_stable ⟨env, false, fun _ _ _ => false⟩ blank) ⟨linked_empty, rfl⟩
  exact both.1.unconnected both.2

/-! `Tell` on what `Client` returned. -/

/-- The client has the ID of a received message, and its key leads to the connection
registered under the peer ID. -/
def Answers (net : Network) (outbox : Outbox) (ref : ClientRef) (peerID : String) (message : Message) : Prop :=
  ∃ id conn, (ids outbox.reg)[ref]? = some (some id) ∧
    outbox.reg.connections id.publicKeyHex = some conn ∧
    outbox.reg.connections peerID = some conn ∧ Passes net outbox id.publicKeyHex message conn

theorem sendTo_answers_iff {net : Network} {outbox : Outbox} {ref : ClientRef} {client : PeerClient}
    {peerID : String} {message : Message} (unconnected : outbox.reg.connections "" = none)
    (found : outbox.reg.clients[ref]? = some client) :
    (∃ conn, outbox.reg.connections peerID = some conn ∧
      Reaches (sendTo net outbox client.peerID (some message)) conn) ↔
      Answers net outbox ref peerID message := by
  have named : (ids outbox.reg)[ref]? = some client.id := by simp [ids, found]
  constructor
  · rintro ⟨conn, registered, reaches⟩
    obtain ⟨connected, passes⟩ := reaches_iff.mp reaches
    cases known : client.id with
    | none =>
        have nobody : client.peerID = "" := by simp [PeerClient.peerID, known]
        rw [nobody, unconnected] at connected
        simp at connected
    | some id =>
        have key : client.peerID = id.publicKeyHex := by simp [PeerClient.peerID, known]
        rw [key] at connected passes
        exact ⟨id, conn, by rw [named, known], connected, registered, passes⟩
  · rintro ⟨id, conn, noted, connected, registered, passes⟩
    have known : client.id = some id := Option.some.inj (named.symm.trans noted)
    have key : client.peerID = id.publicKeyHex := by simp [PeerClient.peerID, known]
    refine ⟨conn, registered, reaches_iff.mpr ?_⟩
    rw [key]
    exact ⟨connected, passes⟩

/-- At any time after `Client` returned a client for the peer ID, a `Tell` or `Request`
on it reaches the connection registered under the peer ID exactly if the client
answers to it. A client that has had no message does not. -/
theorem tell_reaches_iff {net : Network} {reg next now : Registry} {address peerID : String}
    {dialed : Option Conn} {ref : ClientRef} {client : PeerClient} {ops : List Op} {lines : String → Line}
    (blank : net.env.resolver.trimSpace "" = "") (reachable : Reachable net.env reg)
    (called : getOrSetPeerClient net.env reg address peerID none dialed = .done (some ref, next))
    (later : Run (Performs net.env) next ops now) (found : now.clients[ref]? = some client)
    (message : Message) (requestNonce : UInt64) :
    ((∃ conn, now.connections peerID = some conn ∧
        Reaches (tell net ⟨now, lines⟩ client (some message)) conn) ↔
      Answers net ⟨now, lines⟩ ref peerID message) ∧
    ((∃ conn, now.connections peerID = some conn ∧
        Reaches (request net ⟨now, lines⟩ client true requestNonce (some message)) conn) ↔
      Answers net ⟨now, lines⟩ ref peerID { message with requestNonce := requestNonce }) := by
  have reached : Reachable net.env now := by
    have first : Reachable net.env next :=
      reachable.perform (.register address peerID none dialed) (by simp [Performs, perform, called])
    exact later.invariant (Reachable net.env) (fun _ op _ performed held => held.perform op performed) first
  have unconnected : (Outbox.mk now lines).reg.connections "" = none := reachable_blank reached blank
  constructor
  · exact sendTo_answers_iff unconnected found
  · simp only [request, if_true, Option.map_some]
    exact sendTo_answers_iff unconnected found

def localNetwork : Network :=
  { env := localNode.env, wire := pingWire, codecs := pingCodecs, settings := plainSettings }

def quietLines : String → Line := fun _ => ⟨⟨[], none⟩, 0⟩

/-- A connected peer is asked for and told something. -/
theorem tell_reaches_iff_neighbour : ∃ world next client,
    Run (fun before event after => step localNode before event = .done after) start
      [.message accepted (inputOf (neighbour [1]) none)] world ∧
    getOrSetPeerClient localNode.env world.reg "tcp://b:1" "01" none none = .done (some 0, next) ∧
    next.clients[0]? = some client ∧ ∃ conn, next.connections "01" = some conn ∧
      Reaches (tell localNetwork ⟨next, quietLines⟩ client (some pingMessage)) conn := by
  obtain ⟨world, next, client, stepped, called, found, known, connected⟩ : ∃ world next client,
      step localNode start (.message accepted (inputOf (neighbour [1]) none)) = .done world ∧
      getOrSetPeerClient localNode.env world.reg "tcp://b:1" "01" none none = .done (some 0, next) ∧
      next.clients[0]? = some client ∧ (ids next)[0]? = some (some (neighbour [1])) ∧
      next.connections (neighbour [1]).publicKeyHex = some accepted.incoming :=
    ⟨_, _, _, rfl, rfl, rfl, rfl, rfl⟩
  have run : Run (fun before event after => step localNode before event = .done after) start
      [.message accepted (inputOf (neighbour [1]) none)] world := .cons stepped (.nil _)
  have reachable : Reachable localNetwork.env world.reg := reachable_of_run run
  have answers : Answers localNetwork ⟨next, quietLines⟩ 0 "01" pingMessage :=
    ⟨neighbour [1], accepted.incoming, known, connected, connected, ⟨"tcp", "a", 1⟩, _, rfl,
      .stream (Or.inl rfl) (by decide) rfl rfl⟩
  exact ⟨world, next, client, run, called, found,
    (tell_reaches_iff rfl reachable called (.nil _) found pingMessage 0).1.mpr answers⟩

/-- A peer is dialled under its key. It is registered there, and a `Tell` before its
first message asks for the empty key. -/
theorem tell_misses_new_client : ∃ next client,
    getOrSetPeerClient localNode.env emptyRegistry "tcp://b:1" "01" none (some ⟨.net, 1⟩) =
      .done (some 0, next) ∧
    next.clients[0]? = some client ∧ next.connections "01" = some ⟨.net, 1⟩ ∧
    ∃ told, tell localNetwork ⟨next, quietLines⟩ client (some pingMessage) = .returns told ∧
      told.error = some (.write .missing) ∧ told.handed = none :=
  ⟨_, _, rfl, rfl, rfl, _, rfl, rfl, rfl⟩

/-! `TellByAddr` and `Close` on what `Client` dialled. -/

theorem carries_closable {net : Network} {protocol : String} {conn : Conn} {message : Message} {sink : Sink}
    {bytes : Bytes} (carries : Carries net protocol conn message sink bytes) : closable protocol conn = true := by
  cases carries with
  | stream isStream suits => simp [closable, isStream, suits]
  | datagram isUdp suits => simp [closable, isUdp, suits]

theorem creates_of_new {env : Env} {reg next : Registry} {address peerID : String} {conn dialed : Option Conn}
    (indexed : Indexed reg) (linked : Linked reg)
    (called : getOrSetPeerClient env reg address peerID conn dialed = .done (some reg.clients.length, next)) :
    ∃ unified info link, Creates env reg address peerID conn dialed unified info link ∧
      next = enter reg info unified (keyOf address peerID) link := by
  rcases getOrSetPeerClient_ids called with ⟨impossible, _⟩ | ⟨ref, _, _, same, taken, _⟩ | ⟨_, grown, _⟩
  · simp at impossible
  · cases same
    obtain ⟨_, _, _, held, _⟩ := taken
    rcases Option.or_eq_some_iff.mp held with here | ⟨_, there⟩
    · exact absurd (indexed.inside _ _ here) (Nat.lt_irrefl _)
    · exact absurd (indexed.inside _ _ there) (Nat.lt_irrefl _)
  · have longer : next.clients.length = reg.clients.length + 1 := by
      have lengths := congrArg List.length grown
      simpa using lengths
    cases linked.registered called with
    | unchanged => simp at longer
    | half => simp at longer
    | moved => simp [moveEntry] at longer
    | created creates => exact ⟨_, _, _, creates, rfl⟩

/-- The address is in normal form and of a protocol that gets an entry, and the
connection dialled for it can take the message. -/
def NormalForm (net : Network) (outbox : Outbox) (address : String) (dialed : Option Conn) (message : Message) :
    Prop :=
  ∃ info conn, toUnifiedAddress net.env.resolver address = some address ∧
    parseAddress net.env.resolver address = some info ∧ info.protocol ∈ supported ∧ dialed = some conn ∧
    Passes net outbox address message conn

theorem creates_dialled {env : Env} {reg : Registry} {address peerID unified : String} {dialed : Option Conn}
    {info : AddressInfo} {link : Conn} (creates : Creates env reg address peerID none dialed unified info link) :
    dialed = some link := by
  have obtained := creates.obtained
  unfold obtainConn at obtained
  simp only [Option.filter_none, dial, creates.accepted.parses] at obtained
  split at obtained
  · simp at obtained
  · split at obtained
    · simp at obtained
    · simpa using obtained

section Dialled

variable {net : Network} {reg : Registry} {address unified : String} {dialed : Option Conn} {info : AddressInfo}
  {link : Conn} {lines : String → Line} {message : Message}
  (linked : Linked reg) (creates : Creates net.env reg address "" none dialed unified info link)
include linked creates

theorem tellByAddr_new_iff {conn : Conn} :
    (enter reg info unified address link).connections address = some conn ∧
      Reaches (tellByAddr net ⟨enter reg info unified address link, lines⟩ (newClient unified address)
        (some message)) conn ↔
    address = unified ∧ info.protocol ∈ supported ∧ conn = link ∧
      Passes net ⟨enter reg info unified address link, lines⟩ unified message conn := by
  have sends : (newClient unified address).address = unified := rfl
  rw [tellByAddr, sends, reaches_iff]
  have entry : (enter reg info unified address link).connections address =
      if info.protocol ∈ supported then some link else none := by
    rw [enter_connections]
    split
    · simp [store]
    · exact linked.unconnected creates.free
  constructor
  · rintro ⟨registered, connected, passes⟩
    have normal : address = unified := by
      by_contra apart
      have kept := (enter_other reg info unified address link (Ne.symm apart)).2.1
      rw [kept, linked.unconnected creates.freeAddress] at connected
      simp at connected
    rw [entry] at registered
    split at registered
    · rename_i known
      exact ⟨normal, known, (Option.some.inj registered).symm, passes⟩
    · simp at registered
  · rintro ⟨rfl, known, rfl, passes⟩
    rw [entry, if_pos known]
    exact ⟨rfl, rfl, passes⟩

end Dialled

theorem close_new_removes {net : Network} {reg : Registry} {address unified : String} {info : AddressInfo}
    {link : Conn} (blank : reg.connections "" = none) (away : address ≠ "") (normal : address = unified)
    (known : info.protocol ∈ supported) {own : AddressInfo}
    (parses : parseAddress net.env.resolver net.env.address = some own) (fits : closable own.protocol link = true) :
    ∃ after, close net.env (enter reg info unified address link) reg.clients.length = .done after ∧
      DeletedAt after address := by
  have found : (enter reg info unified address link).clients[reg.clients.length]? =
      some (newClient unified address) := by simp [enter_clients]
  have entry : (enter reg info unified address link).connections address = some link := by
    simp [enter_connections, known, store]
  have nobody : (enter reg info unified address link).connections "" = none := by
    rw [(enter_other reg info unified address link (Ne.symm away)).2.1, blank]
  have owns : Owns net.env link (enter reg info unified address link) reg.clients.length := by
    intro client another stored _ again key isKey conn held
    cases Option.some.inj (found.symm.trans stored)
    cases Option.some.inj (parses.symm.trans again)
    have empty : (newClient unified address).peerID = "" := rfl
    have last : (newClient unified address).lastAddress = address := normal.symm
    rw [empty, last] at isKey
    rcases isKey with here | here
    · rw [here, nobody] at held
      simp at held
    · rw [here, entry] at held
      cases held
      exact ⟨rfl, fits⟩
  have removes : Removes net.env (enter reg info unified address link) reg.clients.length address
      (newClient unified address) own :=
    ⟨found, rfl, normal ▸ away, parses, Or.inr normal, by simp [entry]⟩
  obtain ⟨after, closed, _⟩ := close_cleared owns
  exact ⟨after, closed, removes.deleted closed⟩

/-- `Client` has dialled an address and made a client for it. `TellByAddr` on it
reaches the connection just registered and `Close` removes the registration exactly
if the address was given in normal form. -/
theorem dialledClient_usable_iff {net : Network} {reg next : Registry} {address : String} {dialed : Option Conn}
    {client : PeerClient} {lines : String → Line} {message : Message}
    (blank : net.env.resolver.trimSpace "" = "") (reachable : Reachable net.env reg)
    (called : getOrSetPeerClient net.env reg address "" none dialed = .done (some reg.clients.length, next))
    (found : next.clients[reg.clients.length]? = some client) :
    ((∃ conn, next.connections address = some conn ∧
        Reaches (tellByAddr net ⟨next, lines⟩ client (some message)) conn) ∧
      ∃ after, close net.env next reg.clients.length = .done after ∧ DeletedAt after address) ↔
    NormalForm net ⟨next, lines⟩ address dialed message := by
  obtain ⟨unified, info, link, creates, same⟩ := creates_of_new reachable.indexed reachable.linked called
  have key : keyOf address "" = address := rfl
  rw [key] at same
  subst same
  have isNew : client = newClient unified address := by
    rw [enter_clients, List.getElem?_append_right (Nat.le_refl _)] at found
    simpa using found.symm
  subst isNew
  constructor
  · rintro ⟨⟨conn, told⟩, _⟩
    obtain ⟨normal, known, same, passes⟩ := (tellByAddr_new_iff reachable.linked creates).mp told
    have parses := creates.accepted.parses
    have unifies := creates.accepted.unifies
    rw [← normal] at parses unifies passes
    exact ⟨info, conn, unifies, parses, known, by rw [creates_dialled creates, same], passes⟩
  · rintro ⟨another, conn, unifies, parses, known, gave, passes⟩
    have normal : address = unified := Option.some.inj (unifies.symm.trans creates.accepted.unifies)
    have sameInfo : another = info := by
      have again := creates.accepted.parses
      rw [← normal, parses] at again
      exact Option.some.inj again
    have sameConn : conn = link := Option.some.inj (gave.symm.trans (creates_dialled creates))
    rw [sameInfo] at known
    constructor
    · refine ⟨conn, (tellByAddr_new_iff reachable.linked creates).mpr ⟨normal, known, sameConn, ?_⟩⟩
      rw [← normal]
      exact passes
    · obtain ⟨own, bytes, ownParses, carries⟩ := passes
      have away : keyOf address "" ≠ "" := keyOf_ne_blank blank creates.accepted
      rw [sameConn] at carries
      exact close_new_removes (reachable_blank reachable blank) away normal known ownParses
        (carries_closable carries)

theorem dialledClient_usable_iff_normal : ∃ next client,
    getOrSetPeerClient localNode.env emptyRegistry "tcp://b:1" "" none (some ⟨.net, 0⟩) = .done (some 0, next) ∧
    next.clients[0]? = some client ∧
    (∃ conn, next.connections "tcp://b:1" = some conn ∧
      Reaches (tellByAddr localNetwork ⟨next, quietLines⟩ client (some pingMessage)) conn) ∧
    ∃ after, close localNode.env next 0 = .done after ∧ DeletedAt after "tcp://b:1" := by
  obtain ⟨next, client, called, found⟩ : ∃ next client,
      getOrSetPeerClient localNode.env emptyRegistry "tcp://b:1" "" none (some ⟨.net, 0⟩) =
        .done (some 0, next) ∧ next.clients[0]? = some client := ⟨_, _, rfl, rfl⟩
  have empty : Reachable localNetwork.env emptyRegistry := ⟨[], .nil _⟩
  have normal : NormalForm localNetwork ⟨next, quietLines⟩ "tcp://b:1" (some ⟨.net, 0⟩) pingMessage :=
    ⟨⟨"tcp", "b", 1⟩, ⟨.net, 0⟩, by decide, by decide, by decide, rfl, ⟨"tcp", "a", 1⟩, _, rfl,
      .stream (Or.inl rfl) (by decide) rfl rfl⟩
  obtain ⟨told, removed⟩ := (dialledClient_usable_iff rfl empty called found).mpr normal
  exact ⟨next, client, called, found, told, removed⟩

def trimmingNetwork : Network :=
  { localNetwork with
    env := { localNode.env with
      resolver := { localResolver with
        trimSpace := fun address => if address = " tcp://b:1" then "tcp://b:1" else address } } }

/-- An address with a blank in front is dialled and registered as it is spelled. The
client writes under the address without the blank and is not removed. -/
theorem dialledClient_unusable : ∃ next client after,
    getOrSetPeerClient trimmingNetwork.env emptyRegistry " tcp://b:1" "" none (some ⟨.net, 0⟩) =
      .done (some 0, next) ∧
    next.clients[0]? = some client ∧ next.connections " tcp://b:1" = some ⟨.net, 0⟩ ∧
    (∃ told, tellByAddr trimmingNetwork ⟨next, quietLines⟩ client (some pingMessage) = .returns told ∧
      told.error = some (.write .missing) ∧ told.handed = none) ∧
    close trimmingNetwork.env next 0 = .done after ∧ after.peers " tcp://b:1" = some 0 ∧
    after.connections " tcp://b:1" = some ⟨.net, 0⟩ :=
  ⟨_, _, _, rfl, rfl, rfl, ⟨_, rfl, rfl, rfl⟩, rfl, rfl, rfl⟩

/-! Broadcasts. -/

/-- One `Write` for each key; its error is dropped. The result says for each key which
connection got the message. -/
def writeAll (net : Network) (message : Message) :
    Outbox → List String → Progress (Outbox × List (Option Conn))
  | outbox, [] => .returns (outbox, [])
  | outbox, key :: rest =>
      match write net outbox key message with
      | .panics => .panics
      | .blocks => .blocks
      | .returns written =>
          match writeAll net message written.outbox rest with
          | .panics => .panics
          | .blocks => .blocks
          | .returns (last, handed) => .returns (last, written.handed.map (·.1) :: handed)

def broadcast (net : Network) (outbox : Outbox) (prepared : Option Message) (keys : List String) :
    Progress (Outbox × List (Option Conn)) :=
  match prepared with
  | none => .returns (outbox, [])
  | some message => writeAll net message outbox keys

def broadcastByIDs (net : Network) (outbox : Outbox) (prepared : Option Message) (peers : List ID) :
    Progress (Outbox × List (Option Conn)) :=
  broadcast net outbox prepared (peers.map (·.address))

def broadcastByAddresses (net : Network) (outbox : Outbox) (prepared : Option Message)
    (addresses : List String) : Progress (Outbox × List (Option Conn)) :=
  broadcast net outbox prepared addresses

/-- Every registered connection can take the message, any number of times. -/
def Ready (net : Network) (outbox : Outbox) (message : Message) : Prop :=
  ∀ key conn, outbox.reg.connections key = some conn → (outbox.lines key).sink.room = none ∧
    ∃ info, parseAddress net.env.resolver net.env.address = some info ∧ ∀ nonce sink, sink.room = none →
      ∃ bytes, Carries net info.protocol conn { message with messageNonce := nonce } sink bytes

theorem writeAll_of_ready {net : Network} {message : Message} (keys : List String) :
    ∀ outbox, Ready net outbox message →
      ∃ last, writeAll net message outbox keys = .returns (last, keys.map outbox.reg.connections) := by
  induction keys with
  | nil => exact fun outbox _ => ⟨outbox, rfl⟩
  | cons key rest ih =>
      intro outbox ready
      cases connected : outbox.reg.connections key with
      | none =>
          obtain ⟨last, others⟩ := ih outbox ready
          refine ⟨last, ?_⟩
          simp [writeAll, write, connected, others]
      | some conn =>
          obtain ⟨open_, info, parses, carries⟩ := ready key conn connected
          obtain ⟨bytes, carried⟩ := carries _ _ open_
          have wrote := write_of_carries connected parses carried
          -- A writer that takes everything is one afterwards as well.
          have still : ((outbox.lines key).sink.write bytes).2.2.room = none := by
            simp [Sink.write, open_]
          obtain ⟨last, others⟩ := ih
            ⟨outbox.reg, Function.update outbox.lines key
              ⟨((outbox.lines key).sink.write bytes).2.2, (outbox.lines key).messageNonce + 1⟩⟩ (by
            intro other link held
            obtain ⟨otherOpen, rest⟩ := ready other link held
            refine ⟨?_, rest⟩
            by_cases here : other = key
            · simp [here, still]
            · simpa [here] using otherOpen)
          refine ⟨last, ?_⟩
          simp only [writeAll, wrote, others, List.map_cons, connected, Option.map_some]

/-- The listed peers that are connected get the message, each as often as it is listed. -/
def ReachesIDs (net : Network) (outbox : Outbox) (message : Message) (peers : List ID) : Prop :=
  ∃ last handed, broadcastByIDs net outbox (some message) peers = .returns (last, handed) ∧
    ∀ (index : Nat) (id : ID) (conn : Conn), peers[index]? = some id →
      outbox.reg.connections id.publicKeyHex = some conn → handed[index]? = some (some conn)

structure Advertises (reg : Registry) (address : String) (id : ID) (ref : ClientRef) (conn : Conn) : Prop where
  registered : reg.peers id.publicKeyHex = some ref
  named : (ids reg)[ref]? = some (some id)
  advertised : id.address = address
  connected : reg.connections id.publicKeyHex = some conn

def ReachesAddresses (net : Network) (outbox : Outbox) (message : Message) (addresses : List String) : Prop :=
  ∃ last handed, broadcastByAddresses net outbox (some message) addresses = .returns (last, handed) ∧
    ∀ (index : Nat) (address : String) (id : ID) (ref : ClientRef) (conn : Conn),
      addresses[index]? = some address → Advertises outbox.reg address id ref conn →
        handed[index]? = some (some conn)

theorem broadcast_handed {net : Network} {outbox last : Outbox} {message : Message} {handed : List (Option Conn)}
    (ready : Ready net outbox message) {keys : List String}
    (sent : broadcast net outbox (some message) keys = .returns (last, handed)) :
    handed = keys.map outbox.reg.connections := by
  obtain ⟨other, all⟩ := writeAll_of_ready keys outbox ready
  have both := sent.symm.trans all
  simp only [Progress.returns.injEq, Prod.mk.injEq] at both
  exact both.2

/-- Both broadcasts reach the connected peers they are meant for exactly if these are
registered under their addresses too. -/
theorem broadcast_reaches_iff {net : Network} {outbox : Outbox} {message : Message}
    (ready : Ready net outbox message) (peers : List ID) (addresses : List String) :
    (ReachesIDs net outbox message peers ↔
      ∀ id ∈ peers, ∀ conn, outbox.reg.connections id.publicKeyHex = some conn →
        outbox.reg.connections id.address = some conn) ∧
    (ReachesAddresses net outbox message addresses ↔
      ∀ address ∈ addresses, ∀ id ref conn, Advertises outbox.reg address id ref conn →
        outbox.reg.connections address = some conn) := by
  constructor
  · constructor
    · rintro ⟨last, handed, sent, reaches⟩ id listed conn connected
      obtain ⟨index, found⟩ := List.mem_iff_getElem?.mp listed
      have got := reaches index id conn found connected
      simpa [broadcast_handed ready sent, found] using got
    · intro both
      obtain ⟨last, sent⟩ := writeAll_of_ready (peers.map (·.address)) outbox ready
      refine ⟨last, _, sent, fun index id conn found connected => ?_⟩
      simpa [found] using both id (List.mem_of_getElem? found) conn connected
  · constructor
    · rintro ⟨last, handed, sent, reaches⟩ address listed id ref conn advertises
      obtain ⟨index, found⟩ := List.mem_iff_getElem?.mp listed
      have got := reaches index address id ref conn found advertises
      simpa [broadcast_handed ready sent, found] using got
    · intro both
      obtain ⟨last, sent⟩ := writeAll_of_ready addresses outbox ready
      refine ⟨last, _, sent, fun index address id ref conn found advertises => ?_⟩
      simpa [found] using both address (List.mem_of_getElem? found) id ref conn advertises

def trimmingNode : Node := { localNode with env := trimmingNetwork.env }

def blankNeighbour : ID := { neighbour [1] with address := " tcp://b:1" }

/-- A peer dialled with a blank in front of its address, which it advertises that way
as well, is registered under its key and its address. -/
theorem broadcast_reaches_iff_blank : ∃ world,
    Run (fun before event after => step trimmingNode before event = .done after) start
      [.client " tcp://b:1" "" (some ⟨.net, 0⟩),
        .message { accepted with client := some 0 } (inputOf blankNeighbour none)] world ∧
    Advertises world.reg " tcp://b:1" blankNeighbour 1 ⟨.net, 0⟩ ∧
    ReachesIDs trimmingNetwork ⟨world.reg, quietLines⟩ pingMessage [blankNeighbour, blankNeighbour] ∧
    ReachesAddresses trimmingNetwork ⟨world.reg, quietLines⟩ pingMessage [" tcp://b:1"] := by
  obtain ⟨world, run, advertises, connections⟩ : ∃ world,
      Run (fun before event after => step trimmingNode before event = .done after) start
        [.client " tcp://b:1" "" (some ⟨.net, 0⟩),
          .message { accepted with client := some 0 } (inputOf blankNeighbour none)] world ∧
      Advertises world.reg " tcp://b:1" blankNeighbour 1 ⟨.net, 0⟩ ∧
      world.reg.connections = store (store (fun _ => none) " tcp://b:1" ⟨.net, 0⟩) "01" ⟨.net, 0⟩ :=
    ⟨_, .cons rfl (.cons rfl (.nil _)), ⟨rfl, rfl, rfl, rfl⟩, rfl⟩
  have only : ∀ key conn, world.reg.connections key = some conn → conn = ⟨.net, 0⟩ := by
    intro key conn held
    rw [connections] at held
    by_cases here : key = "01"
    · simpa [store, here] using held.symm
    · by_cases there : key = " tcp://b:1"
      · simpa [store, there] using held.symm
      · simp [store, here, there] at held
  have listed : world.reg.connections " tcp://b:1" = some ⟨.net, 0⟩ := by simp [connections, store]
  have ready : Ready trimmingNetwork ⟨world.reg, quietLines⟩ pingMessage := by
    intro key conn held
    refine ⟨rfl, ⟨"tcp", "a", 1⟩, rfl, fun nonce sink open_ => ?_⟩
    rw [only key conn held]
    exact ⟨_, .stream (Or.inl rfl) (by decide) rfl (by simp [Sink.write, open_])⟩
  have both := broadcast_reaches_iff ready [blankNeighbour, blankNeighbour] [" tcp://b:1"]
  refine ⟨world, run, advertises, both.1.mpr ?_, both.2.mpr ?_⟩
  · intro id member conn connected
    have same : id = blankNeighbour := by simpa using member
    rw [same, only _ conn connected]
    exact listed
  · intro address member id ref conn advertised
    rw [List.mem_singleton.mp member, only _ conn advertised.connected]
    exact listed

/-- A peer that has sent a message is registered under its key. A broadcast to it goes
by its address, finds nothing there and drops the error. -/
theorem broadcast_misses_peer : ∃ world,
    Run (fun before event after => step localNode before event = .done after) start
      [.message accepted (inputOf (neighbour [1]) none)] world ∧
    Advertises world.reg "tcp://b:1" (neighbour [1]) 0 accepted.incoming ∧
    ¬ ReachesIDs localNetwork ⟨world.reg, quietLines⟩ pingMessage [neighbour [1]] ∧
    ¬ ReachesAddresses localNetwork ⟨world.reg, quietLines⟩ pingMessage ["tcp://b:1"] := by
  obtain ⟨world, stepped, advertises, last, sent⟩ : ∃ world,
      step localNode start (.message accepted (inputOf (neighbour [1]) none)) = .done world ∧
      Advertises world.reg "tcp://b:1" (neighbour [1]) 0 accepted.incoming ∧
      ∃ last, broadcast localNetwork ⟨world.reg, quietLines⟩ (some pingMessage) ["tcp://b:1"] =
        .returns (last, [none]) := ⟨_, rfl, ⟨rfl, rfl, rfl, rfl⟩, _, rfl⟩
  have nothing : ∀ {after handed}, broadcast localNetwork ⟨world.reg, quietLines⟩ (some pingMessage)
      ["tcp://b:1"] = .returns (after, handed) → handed = [none] := by
    intro after handed again
    have both := again.symm.trans sent
    simp only [Progress.returns.injEq, Prod.mk.injEq] at both
    exact both.2
  refine ⟨world, .cons stepped (.nil _), advertises, ?_, ?_⟩
  · rintro ⟨_, handed, again, reaches⟩
    have got := reaches 0 (neighbour [1]) accepted.incoming rfl advertises.connected
    simp [nothing again] at got
  · rintro ⟨_, handed, again, reaches⟩
    have got := reaches 0 "tcp://b:1" (neighbour [1]) 0 accepted.incoming rfl advertises
    simp [nothing again] at got

end Carrier.Telling
