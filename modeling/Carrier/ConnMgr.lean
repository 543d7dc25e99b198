import Carrier.Address
import Carrier.Identity
import Mathlib.Logic.Function.Basic

/-! The connection registry of `network/network.go` and `network/client.go`: four
maps keyed by address or by public key, and the clients they point to. Every
function here runs to completion, as its mutex has it. Clients are named by their
position in the order of creation, so a new one never disturbs the others. The
component callbacks and the queues of a client are left out. -/
namespace Carrier.ConnMgr

open GoRuntime Identity Address

abbrev ClientRef := Nat

inductive ConnKind where
  | net
  | quic
  | udp
  deriving DecidableEq, Repr

/-- An open connection; `number` tells connections of one kind apart. -/
structure Conn where
  kind : ConnKind
  number : Nat
  deriving DecidableEq, Repr

inductive PeerState where
  | unknown
  | unreachable
  | reachable
  deriving DecidableEq, Repr

structure PeerClient where
  id : Option ID
  address : String
  pubKey : String
  outgoingReady : Bool
  closed : Bool
  enableAckReply : Bool
  deriving DecidableEq, Repr

def PeerClient.peerID (client : PeerClient) : String :=
  match client.id with
  | some id => id.publicKeyHex
  | none => ""

abbrev SyncMap (α : Type) := String → Option α

def store {α : Type} (map : SyncMap α) (key : String) (value : α) : SyncMap α :=
  Function.update map key (some value)

def delete {α : Type} (map : SyncMap α) (key : String) : SyncMap α :=
  Function.update map key none

/-- `ConnMgr` with the clients in use. A `MultiStream` is made together with a
client and named by it. -/
structure Registry where
  peers : SyncMap ClientRef
  connections : SyncMap Conn
  connStates : SyncMap PeerState
  streams : SyncMap ClientRef
  clients : List PeerClient

def emptyRegistry : Registry :=
  { peers := fun _ => none, connections := fun _ => none, connStates := fun _ => none,
    streams := fun _ => none, clients := [] }

structure Env where
  resolver : Resolver
  address : String
  transports : List String

/-! Registering. -/

/-- Each map is only looked at when the one before it had the address. -/
def resetConnMgrItemByPeerID (reg : Registry) (address peerID : String) : Registry :=
  match reg.peers address with
  | none => reg
  | some peer =>
      let reg := { reg with peers := delete (store reg.peers peerID peer) address }
      match reg.connections address with
      | none => reg
      | some conn =>
          let reg := { reg with connections := delete (store reg.connections peerID conn) address }
          match reg.connStates address with
          | none => reg
          | some status =>
              let reg := { reg with connStates := delete (store reg.connStates peerID status) address }
              match reg.streams address with
              | none => reg
              | some stream => { reg with streams := delete (store reg.streams peerID stream) address }

/-- `Dial`. What the transport answers is `dialed`. A protocol without a transport fails
a type assertion, and so does the answer of the `quic` transport, which is neither a
stream nor an error. -/
def dial (env : Env) (address : String) (dialed : Option Conn) : Outcome (Option Conn) :=
  match parseAddress env.resolver address with
  | none => .done none
  | some info =>
      if info.host ≠ "127.0.0.1" ∧ parseAddress env.resolver env.address = none then .done none
      else if info.protocol ∉ env.transports ∨ info.protocol = "quic" then .panic
      else .done dialed

/-- A protocol outside the list is logged and gets no connection entry. -/
def initConnection (reg : Registry) (info : AddressInfo) (peerID : String) (conn : Conn) : Registry :=
  if info.protocol ∈ ["tcp", "kcp", "udp", "quic"] then
    { reg with connections := store reg.connections peerID conn }
  else reg

def newClient (address pubKey : String) : PeerClient :=
  { id := none, address := address, pubKey := pubKey, outgoingReady := true, closed := false,
    enableAckReply := false }

def updateConnState (reg : Registry) (peerID : String) (state : PeerState) : Registry :=
  { reg with connStates := store reg.connStates peerID state }

def enableAckReply (reg : Registry) (ref : ClientRef) : Registry :=
  { reg with clients := reg.clients.modify ref fun client => { client with enableAckReply := true } }

def enter (reg : Registry) (info : AddressInfo) (address peerID : String) (conn : Conn) : Registry :=
  let reg := initConnection reg info peerID conn
  { reg with
    peers := store reg.peers peerID reg.clients.length
    streams := store reg.streams peerID reg.clients.length
    connStates := store reg.connStates peerID .reachable
    clients := reg.clients ++ [newClient address peerID] }

def keyOf (address peerID : String) : String := if peerID = "" then address else peerID

def rename (reg : Registry) (unified key : String) : Registry :=
  if unified ≠ key then resetConnMgrItemByPeerID reg unified key else reg

/-- The connection given by the caller or dialled. A datagram connection is not
taken over but dialled anew. -/
def obtainConn (env : Env) (address : String) (conn dialed : Option Conn) : Outcome (Option Conn) :=
  match conn.filter fun conn => conn.kind ≠ .udp with
  | some conn => .done (some conn)
  | none => dial env address dialed

/-- `getOrSetPeerClient`; the client is `none` when an error is returned. -/
def getOrSetPeerClient (env : Env) (reg : Registry) (address peerID : String) (conn dialed : Option Conn) :
    Outcome (Option ClientRef × Registry) :=
  let key := keyOf address peerID
  match toUnifiedAddress env.resolver address with
  | none => .done (none, reg)
  | some unified =>
      if unified = env.address then .done (none, reg)
      else match parseAddress env.resolver unified with
        | none => .done (none, reg)
        | some info =>
            -- A client dialled by address gets its entries moved to the key here.
            let reg := rename reg unified key
            match reg.peers key with
            | some ref =>
                if reg.clients[ref]?.any (·.outgoingReady) then .done (some ref, reg)
                else .done (none, reg)
            | none =>
                (obtainConn env unified conn dialed).map fun
                  | none => (none, { reg with peers := delete reg.peers key })
                  | some conn => (some reg.clients.length, enter reg info unified key conn)

/-! Closing. -/

/-- The type assertion made on a connection follows the node's own protocol. A
`*net.UDPConn` is a `net.Conn` as well. -/
def closable (protocol : String) (conn : Conn) : Bool :=
  if protocol = "tcp" ∨ protocol = "kcp" then conn.kind ≠ .quic
  else if protocol = "udp" then conn.kind = .udp
  else if protocol = "quic" then conn.kind = .quic
  else true

def deleteKey (reg : Registry) (key : String) : Registry :=
  { reg with
    peers := delete reg.peers key
    connections := delete reg.connections key
    streams := delete reg.streams key
    connStates := store reg.connStates key .unreachable }

/-- One half of `RemoveEntries`; it goes by the key and not by the client stored
there. An address of the node that does not parse is an error. -/
def removeKey (env : Env) (reg : Registry) (key : String) : Outcome Registry :=
  match reg.connections key with
  | none => .done reg
  | some conn =>
      match parseAddress env.resolver env.address with
      | none => .done reg
      | some info => if closable info.protocol conn then .done (deleteKey reg key) else .panic

def PeerClient.lastAddress (client : PeerClient) : String :=
  match client.id with
  | some id => id.address
  | none => client.address

def removeEntries (env : Env) (reg : Registry) (client : PeerClient) : Outcome Registry :=
  if client.lastAddress = "" then .done reg
  else (removeKey env reg client.peerID).bind fun reg => removeKey env reg client.lastAddress

def close (env : Env) (reg : Registry) (ref : ClientRef) : Outcome Registry :=
  match reg.clients[ref]? with
  | none => .done reg
  | some client =>
      if client.closed then .done reg
      else removeEntries env
        { reg with clients := reg.clients.set ref { client with closed := true } } client

/-! What registering can do. -/

theorem reset_of_missing {reg : Registry} {address : String} (missing : reg.peers address = none)
    (peerID : String) : resetConnMgrItemByPeerID reg address peerID = reg := by
  simp [resetConnMgrItemByPeerID, missing]

theorem reset_of_present {reg : Registry} {address : String} {ref : ClientRef}
    (present : reg.peers address = some ref) (peerID : String) :
    (resetConnMgrItemByPeerID reg address peerID).peers = delete (store reg.peers peerID ref) address ∧
      (resetConnMgrItemByPeerID reg address peerID).clients = reg.clients := by
  unfold resetConnMgrItemByPeerID
  rw [present]
  dsimp only
  -- The later maps are moved or not; neither touches the peers or the clients.
  cases reg.connections address with
  | none => exact ⟨rfl, rfl⟩
  | some conn =>
      cases reg.connStates address with
      | none => exact ⟨rfl, rfl⟩
      | some status =>
          cases reg.streams address with
          | none => exact ⟨rfl, rfl⟩
          | some stream => exact ⟨rfl, rfl⟩

theorem rename_cases (reg : Registry) (unified key : String) :
    (rename reg unified key = reg ∧ (unified = key ∨ reg.peers unified = none)) ∨
    ∃ ref, unified ≠ key ∧ reg.peers unified = some ref ∧
      (rename reg unified key).peers = delete (store reg.peers key ref) unified ∧
      (rename reg unified key).clients = reg.clients := by
  unfold rename
  by_cases same : unified = key
  · exact Or.inl ⟨by simp [same], Or.inl same⟩
  · rw [if_pos same]
    cases present : reg.peers unified with
    | none => exact Or.inl ⟨reset_of_missing present key, Or.inr rfl⟩
    | some ref =>
        obtain ⟨peers, clients⟩ := reset_of_present present key
        exact Or.inr ⟨ref, same, rfl, peers, clients⟩

theorem rename_clients (reg : Registry) (unified key : String) :
    (rename reg unified key).clients = reg.clients := by
  rcases rename_cases reg unified key with ⟨unchanged, _⟩ | ⟨_, _, _, _, clients⟩
  · rw [unchanged]
  · exact clients

theorem rename_eq_of_still {reg : Registry} {unified key : String}
    (still : unified = key ∨ reg.peers unified = none) : rename reg unified key = reg := by
  rcases rename_cases reg unified key with ⟨unchanged, _⟩ | ⟨_, apart, present, _⟩
  · exact unchanged
  · rcases still with same | missing
    · exact absurd same apart
    · simp [missing] at present

theorem rename_eq_of_free {reg : Registry} {unified key : String}
    (free : (rename reg unified key).peers key = none) : rename reg unified key = reg := by
  rcases rename_cases reg unified key with ⟨unchanged, _⟩ | ⟨ref, apart, _, peers, _⟩
  · exact unchanged
  · rw [peers] at free
    simp [delete, store, Function.update_of_ne (Ne.symm apart)] at free

theorem delete_of_free {α : Type} {map : SyncMap α} {key : String} (free : map key = none) :
    delete map key = map := by
  funext other
  by_cases same : other = key
  · simp [delete, same, free]
  · simp [delete, same]

theorem store_eq_some {α : Type} {map : SyncMap α} {key other : String} {value entry : α} :
    store map key value other = some entry ↔
      (other = key ∧ value = entry) ∨ (other ≠ key ∧ map other = some entry) := by
  by_cases here : other = key
  · simp [store, here]
  · simp [store, here]

theorem moved_eq_some {α : Type} {map : SyncMap α} {old new other : String} {value entry : α} (apart : old ≠ new) :
    delete (store map new value) old other = some entry ↔
      (other = new ∧ value = entry) ∨ (other ≠ new ∧ other ≠ old ∧ map other = some entry) := by
  by_cases there : other = old
  · simp [delete, there, apart]
  · have kept : delete (store map new value) old other = store map new value other := by simp [delete, there]
    rw [kept, store_eq_some]
    simp [there]

structure Accepted (env : Env) (address unified : String) (info : AddressInfo) : Prop where
  unifies : toUnifiedAddress env.resolver address = some unified
  other : unified ≠ env.address
  parses : parseAddress env.resolver unified = some info

section Registering

variable (env : Env) (reg : Registry) (address peerID : String) (conn dialed : Option Conn)

/-- Everything a call of `getOrSetPeerClient` can do. -/
inductive Registered : Outcome (Option ClientRef × Registry) → Prop where
  | rejected : (∀ unified info, ¬ Accepted env address unified info) → Registered (.done (none, reg))
  | present {unified : String} {info : AddressInfo} {ref : ClientRef} :
      Accepted env address unified info →
      (rename reg unified (keyOf address peerID)).peers (keyOf address peerID) = some ref →
      Registered (.done (if reg.clients[ref]?.any (·.outgoingReady) then some ref else none,
        rename reg unified (keyOf address peerID)))
  | undialed {unified : String} {info : AddressInfo} :
      Accepted env address unified info → rename reg unified (keyOf address peerID) = reg →
      reg.peers (keyOf address peerID) = none → obtainConn env unified conn dialed = .done none →
      Registered (.done (none, reg))
  | undialable {unified : String} {info : AddressInfo} :
      Accepted env address unified info → rename reg unified (keyOf address peerID) = reg →
      reg.peers (keyOf address peerID) = none → obtainConn env unified conn dialed = .panic →
      Registered .panic
  | created {unified : String} {info : AddressInfo} {link : Conn} :
      Accepted env address unified info → rename reg unified (keyOf address peerID) = reg →
      reg.peers (keyOf address peerID) = none → obtainConn env unified conn dialed = .done (some link) →
      Registered (.done (some reg.clients.length, enter reg info unified (keyOf address peerID) link))

theorem getOrSetPeerClient_registered :
    Registered env reg address peerID conn dialed
      (getOrSetPeerClient env reg address peerID conn dialed) := by
  unfold getOrSetPeerClient
  dsimp only
  cases unifies : toUnifiedAddress env.resolver address with
  | none =>
      refine .rejected fun other info accepted => ?_
      rw [accepted.unifies] at unifies
      simp at unifies
  | some unified =>
      dsimp only
      by_cases own : unified = env.address
      · rw [if_pos own]
        refine .rejected fun other info accepted => accepted.other ?_
        rw [accepted.unifies] at unifies
        exact (Option.some.inj unifies).trans own
      · rw [if_neg own]
        cases parses : parseAddress env.resolver unified with
        | none =>
            refine .rejected fun other info accepted => ?_
            have same := accepted.unifies
            rw [unifies] at same
            have parsed := accepted.parses
            rw [← Option.some.inj same, parses] at parsed
            simp at parsed
        | some info =>
            have accepted : Accepted env address unified info := ⟨unifies, own, parses⟩
            dsimp only
            cases held : (rename reg unified (keyOf address peerID)).peers (keyOf address peerID) with
            | some ref =>
                have registered : Registered env reg address peerID conn dialed _ :=
                  .present accepted held
                dsimp only
                rw [rename_clients]
                by_cases ready : reg.clients[ref]?.any (·.outgoingReady) = true
                · simpa only [ready, if_true] using registered
                · simpa only [ready, if_false, Bool.false_eq_true] using registered
            | none =>
                have unmoved := rename_eq_of_free held
                rw [unmoved] at held ⊢
                dsimp only
                cases obtained : obtainConn env unified conn dialed with
                | panic => exact .undialable accepted unmoved held obtained
                | done link =>
                    cases link with
                    | none =>
                        have same : { reg with peers := delete reg.peers (keyOf address peerID) } =
                            reg := by rw [delete_of_free held]
                        simp only [Outcome.done_map, same]
                        exact .undialed accepted unmoved held obtained
                    | some link => exact .created accepted unmoved held obtained

inductive Returns : Option ClientRef → Registry → Prop where
  | rejected : (∀ unified info, ¬ Accepted env address unified info) → Returns none reg
  | present {unified : String} {info : AddressInfo} {ref : ClientRef} {returned : Option ClientRef} :
      Accepted env address unified info →
      (rename reg unified (keyOf address peerID)).peers (keyOf address peerID) = some ref →
      returned = (if reg.clients[ref]?.any (·.outgoingReady) then some ref else none) →
      Returns returned (rename reg unified (keyOf address peerID))
  | undialed {unified : String} {info : AddressInfo} :
      Accepted env address unified info → rename reg unified (keyOf address peerID) = reg →
      reg.peers (keyOf address peerID) = none → obtainConn env unified conn dialed = .done none →
      Returns none reg
  | created {unified : String} {info : AddressInfo} {link : Conn} :
      Accepted env address unified info → rename reg unified (keyOf address peerID) = reg →
      reg.peers (keyOf address peerID) = none → obtainConn env unified conn dialed = .done (some link) →
      Returns (some reg.clients.length) (enter reg info unified (keyOf address peerID) link)

variable {env reg address peerID conn dialed} in
theorem returns_of_called {returned : Option ClientRef} {next : Registry}
    (called : getOrSetPeerClient env reg address peerID conn dialed = .done (returned, next)) :
    Returns env reg address peerID conn dialed returned next := by
  have registered := getOrSetPeerClient_registered env reg address peerID conn dialed
  rw [called] at registered
  generalize result : Outcome.done (returned, next) = outcome at registered
  cases registered with
  | rejected refused => cases result; exact .rejected refused
  | present accepted held => cases result; exact .present accepted held rfl
  | undialed accepted unmoved free obtained => cases result; exact .undialed accepted unmoved free obtained
  | undialable => cases result
  | created accepted unmoved free obtained => cases result; exact .created accepted unmoved free obtained

end Registering

theorem rename_peers_key (reg : Registry) (unified key : String) :
    (rename reg unified key).peers key = (reg.peers unified).or (reg.peers key) := by
  rcases rename_cases reg unified key with ⟨unchanged, same | missing⟩ | ⟨ref, apart, present, peers, _⟩
  · rw [unchanged, same]
    cases reg.peers key <;> rfl
  · rw [unchanged, missing]
    rfl
  · rw [peers, present]
    simp [delete, store, Function.update_of_ne (Ne.symm apart)]

theorem Accepted.unique {env : Env} {address unified other : String} {info another : AddressInfo}
    (first : Accepted env address unified info) (second : Accepted env address other another) :
    other = unified ∧ another = info := by
  have sameAddress : other = unified := by
    have both := second.unifies
    rw [first.unifies] at both
    exact (Option.some.inj both).symm
  have both := second.parses
  rw [sameAddress, first.parses] at both
  exact ⟨sameAddress, (Option.some.inj both).symm⟩

/-- The call returns a client that was there before: the one under the unified
address or else the one under the key. -/
def Takes (env : Env) (reg : Registry) (address peerID : String) (ref : ClientRef) : Prop :=
  ∃ unified info, Accepted env address unified info ∧
    (reg.peers unified).or (reg.peers (keyOf address peerID)) = some ref ∧
    reg.clients[ref]?.any (·.outgoingReady) = true

/-! The identities of the clients. -/

def ids (reg : Registry) : List (Option ID) := reg.clients.map (·.id)

@[simp] theorem ids_length (reg : Registry) : (ids reg).length = reg.clients.length := List.length_map _

theorem ids_rename (reg : Registry) (unified key : String) : ids (rename reg unified key) = ids reg := by
  rw [ids, rename_clients, ids]

section Fields

variable {α : Type} {field : PeerClient → α}

theorem enableAckReply_map (reg : Registry) (ref : ClientRef)
    (ignored : ∀ client, field { client with enableAckReply := true } = field client) :
    (enableAckReply reg ref).clients.map field = reg.clients.map field := by
  unfold enableAckReply
  apply List.ext_getElem?
  intro index
  simp only [List.getElem?_map, List.getElem?_modify]
  split
  · cases reg.clients[index]? with
    | none => rfl
    | some client => exact congrArg some (ignored client)
  · cases reg.clients[index]? <;> rfl

theorem set_map {clients : List PeerClient} {ref : ClientRef} {before after : PeerClient}
    (found : clients[ref]? = some before) (ignored : field after = field before) :
    (clients.set ref after).map field = clients.map field := by
  obtain ⟨bound, rfl⟩ := List.getElem?_eq_some_iff.mp found
  have unmarked : (clients.set ref clients[ref]).map field = clients.map field := by
    rw [List.set_getElem_self]
  rw [List.map_set] at unmarked ⊢
  rw [ignored]
  exact unmarked

end Fields

theorem ids_enableAckReply (reg : Registry) (ref : ClientRef) : ids (enableAckReply reg ref) = ids reg :=
  enableAckReply_map reg ref fun _ => rfl

theorem enter_clients (reg : Registry) (info : AddressInfo) (address key : String) (link : Conn) :
    (enter reg info address key link).clients = reg.clients ++ [newClient address key] := by
  unfold enter initConnection
  split <;> rfl

theorem getOrSetPeerClient_ids {env : Env} {reg next : Registry} {address peerID : String}
    {conn dialed : Option Conn} {returned : Option ClientRef}
    (called : getOrSetPeerClient env reg address peerID conn dialed = .done (returned, next)) :
    (returned = none ∧ ids next = ids reg ∧ ∀ ref, ¬ Takes env reg address peerID ref) ∨
    (∃ ref unified info, returned = some ref ∧ Takes env reg address peerID ref ∧
      Accepted env address unified info ∧ next = rename reg unified (keyOf address peerID)) ∨
    (returned = some reg.clients.length ∧ ids next = ids reg ++ [none] ∧
      reg.peers (keyOf address peerID) = none ∧ ∀ ref, ¬ Takes env reg address peerID ref) := by
  -- With the key free in the end, neither of its two places held a client.
  have freeTakes : ∀ unified info, Accepted env address unified info →
      rename reg unified (keyOf address peerID) = reg → reg.peers (keyOf address peerID) = none →
      ∀ ref, ¬ Takes env reg address peerID ref := by
    rintro unified info accepted unmoved free ref ⟨other, another, again, held, _⟩
    rw [(accepted.unique again).1, ← rename_peers_key, unmoved, free] at held
    simp at held
  cases returns_of_called called with
  | rejected refused =>
      exact Or.inl ⟨rfl, rfl, fun ref taken =>
        taken.elim fun unified rest => rest.elim fun info held => refused unified info held.1⟩
  | @present unified info ref _ accepted held result =>
      rw [rename_peers_key] at held
      by_cases ready : reg.clients[ref]?.any (·.outgoingReady) = true
      · exact Or.inr (Or.inl ⟨ref, unified, info, by simp [result, ready],
          ⟨unified, info, accepted, held, ready⟩, accepted, rfl⟩)
      · refine Or.inl ⟨by simp [result, ready], ids_rename .., ?_⟩
        rintro other ⟨otherAddress, otherInfo, again, otherHeld, otherReady⟩
        rw [(accepted.unique again).1, held] at otherHeld
        cases otherHeld
        exact ready otherReady
  | undialed accepted unmoved free _ => exact Or.inl ⟨rfl, rfl, freeTakes _ _ accepted unmoved free⟩
  | created accepted unmoved free _ =>
      refine Or.inr (Or.inr ⟨rfl, ?_, free, freeTakes _ _ accepted unmoved free⟩)
      simp [ids, enter_clients, newClient]

theorem removeKey_cases {env : Env} {reg next : Registry} {key : String}
    (removed : removeKey env reg key = .done next) : next = reg ∨ next = deleteKey reg key := by
  unfold removeKey at removed
  split at removed
  · cases removed; exact Or.inl rfl
  · split at removed
    · cases removed; exact Or.inl rfl
    · split at removed
      · cases removed; exact Or.inr rfl
      · simp at removed

theorem removeKey_clients {env : Env} {reg next : Registry} {key : String}
    (removed : removeKey env reg key = .done next) : next.clients = reg.clients := by
  rcases removeKey_cases removed with rfl | rfl <;> rfl

theorem removeEntries_clients {env : Env} {reg next : Registry} {client : PeerClient}
    (removed : removeEntries env reg client = .done next) : next.clients = reg.clients := by
  unfold removeEntries at removed
  split at removed
  · cases removed; rfl
  · obtain ⟨middle, first, second⟩ := Outcome.bind_eq_done.mp removed
    exact (removeKey_clients second).trans (removeKey_clients first)

theorem close_map {α : Type} {field : PeerClient → α} {env : Env} {reg next : Registry} {ref : ClientRef}
    (closed : close env reg ref = .done next)
    (ignored : ∀ client, field { client with closed := true } = field client) :
    next.clients.map field = reg.clients.map field := by
  unfold close at closed
  split at closed
  · cases closed; rfl
  · rename_i client found
    split at closed
    · cases closed; rfl
    · rw [removeEntries_clients closed]
      exact set_map found (ignored client)

theorem close_ids {env : Env} {reg next : Registry} {ref : ClientRef}
    (closed : close env reg ref = .done next) : ids next = ids reg :=
  close_map closed fun _ => rfl

/-! Every peer entry leads to a client, and no two entries to the same one. -/

structure Indexed (reg : Registry) : Prop where
  inside : ∀ key ref, reg.peers key = some ref → ref < reg.clients.length
  injective : ∀ key other ref, reg.peers key = some ref → reg.peers other = some ref → key = other

theorem Indexed.of_fewer {reg next : Registry} (indexed : Indexed reg)
    (fewer : ∀ key ref, next.peers key = some ref → reg.peers key = some ref)
    (clients : next.clients.length = reg.clients.length) : Indexed next where
  inside key ref held := clients ▸ indexed.inside key ref (fewer key ref held)
  injective key other ref first second :=
    indexed.injective key other ref (fewer key ref first) (fewer other ref second)

theorem Indexed.rename {reg : Registry} (indexed : Indexed reg) (unified key : String) :
    Indexed (rename reg unified key) := by
  rcases rename_cases reg unified key with ⟨unchanged, _⟩ | ⟨moved, apart, present, peers, clients⟩
  · rwa [unchanged]
  · refine ⟨fun other ref held => ?_, fun one other ref first second => ?_⟩
    · rw [peers, moved_eq_some apart] at held
      rw [clients]
      rcases held with ⟨_, rfl⟩ | ⟨_, _, kept⟩
      · exact indexed.inside unified moved present
      · exact indexed.inside other ref kept
    · rw [peers, moved_eq_some apart] at first second
      rcases first with ⟨rfl, rfl⟩ | ⟨_, away, firstKept⟩
      · rcases second with ⟨rfl, _⟩ | ⟨_, away, secondKept⟩
        · rfl
        · exact absurd (indexed.injective other unified moved secondKept present) away
      · rcases second with ⟨_, rfl⟩ | ⟨_, _, secondKept⟩
        · exact absurd (indexed.injective one unified moved firstKept present) away
        · exact indexed.injective one other ref firstKept secondKept

theorem Indexed.unmoved {reg : Registry} {unified key : String} {ref : ClientRef} (indexed : Indexed reg)
    (held : (ConnMgr.rename reg unified key).peers key = some ref) (before : reg.peers key = some ref) :
    unified = key ∨ reg.peers unified = none := by
  rcases rename_cases reg unified key with ⟨_, still⟩ | ⟨moved, _, present, _⟩
  · exact still
  · rw [rename_peers_key, present, Option.some_or] at held
    rw [← held] at before
    exact Or.inl (indexed.injective _ _ moved present before)

theorem enter_peers (reg : Registry) (info : AddressInfo) (address key : String) (link : Conn) :
    (enter reg info address key link).peers = store reg.peers key reg.clients.length := by
  unfold enter initConnection
  split <;> rfl

theorem Indexed.enter {reg : Registry} (indexed : Indexed reg) (info : AddressInfo) (address key : String)
    (link : Conn) : Indexed (enter reg info address key link) := by
  have lookup : ∀ other ref, (ConnMgr.enter reg info address key link).peers other = some ref →
      (other = key ∧ ref = reg.clients.length) ∨ reg.peers other = some ref := by
    intro other ref held
    rw [enter_peers, store_eq_some] at held
    rcases held with ⟨here, value⟩ | ⟨_, kept⟩
    · exact Or.inl ⟨here, value.symm⟩
    · exact Or.inr kept
  refine ⟨fun other ref held => ?_, fun one other ref first second => ?_⟩
  · rw [enter_clients, List.length_append, List.length_singleton]
    rcases lookup other ref held with ⟨_, rfl⟩ | kept
    · exact Nat.lt_succ_self _
    · exact Nat.lt_succ_of_lt (indexed.inside other ref kept)
  · rcases lookup one ref first with ⟨rfl, rfl⟩ | firstKept
    · rcases lookup other _ second with ⟨rfl, _⟩ | kept
      · rfl
      · exact absurd (indexed.inside other _ kept) (Nat.lt_irrefl _)
    · rcases lookup other ref second with ⟨_, rfl⟩ | secondKept
      · exact absurd (indexed.inside one _ firstKept) (Nat.lt_irrefl _)
      · exact indexed.injective one other ref firstKept secondKept

theorem Indexed.getOrSetPeerClient {env : Env} {reg next : Registry} {address peerID : String}
    {conn dialed : Option Conn} {returned : Option ClientRef} (indexed : Indexed reg)
    (called : getOrSetPeerClient env reg address peerID conn dialed = .done (returned, next)) :
    Indexed next := by
  cases returns_of_called called with
  | rejected => exact indexed
  | present => exact indexed.rename ..
  | undialed => exact indexed
  | created => exact indexed.enter ..

theorem removeKey_fewer {env : Env} {reg next : Registry} {key : String}
    (removed : removeKey env reg key = .done next) (other : String) (ref : ClientRef)
    (held : next.peers other = some ref) : reg.peers other = some ref := by
  rcases removeKey_cases removed with rfl | rfl
  · exact held
  · by_cases here : other = key
    · simp [deleteKey, delete, here] at held
    · simpa [deleteKey, delete, here] using held

theorem Indexed.close {env : Env} {reg next : Registry} {ref : ClientRef} (indexed : Indexed reg)
    (closed : close env reg ref = .done next) : Indexed next := by
  have clients : next.clients.length = reg.clients.length := by
    simpa using congrArg List.length (close_ids closed)
  refine indexed.of_fewer (fun key other held => ?_) clients
  unfold ConnMgr.close at closed
  split at closed
  · cases closed; exact held
  · split at closed
    · cases closed; exact held
    · unfold removeEntries at closed
      split at closed
      · cases closed; exact held
      · obtain ⟨middle, first, second⟩ := Outcome.bind_eq_done.mp closed
        exact removeKey_fewer first key other (removeKey_fewer second key other held)

end Carrier.ConnMgr
