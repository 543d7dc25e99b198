import Carrier.SignatureCheck

/-! The registry as a store on its own. Whatever the receive loops and the callers
of a node do to it comes down to five operations on the four maps. The maps are
written one after the other, so an entry may be in one of them and not in another,
and `Close` goes by keys and not by the client stored under them. -/
namespace Carrier.RegistryOps

open GoRuntime Identity Address ConnMgr TransitionSystem AcceptLoops SignatureCheck

/-! Moving an entry. -/

/-- `Load`, `Store` under the new key, `Delete` under the old one. -/
def move {α : Type} (map : SyncMap α) (old new : String) : SyncMap α :=
  match map old with
  | none => map
  | some value => delete (store map new value) old

section Move

variable {α : Type} (map : SyncMap α) {old new : String}

theorem move_new (apart : old ≠ new) : move map old new new = (map old).or (map new) := by
  unfold move
  cases map old with
  | none => rfl
  | some value => simp [delete, store, Function.update_of_ne (Ne.symm apart)]

theorem move_old : move map old new old = none := by
  unfold move
  cases held : map old with
  | none => exact held
  | some value => simp [delete]

theorem move_other {key : String} (notOld : key ≠ old) (notNew : key ≠ new) :
    move map old new key = map key := by
  unfold move
  cases map old with
  | none => rfl
  | some value => simp [delete, store, notOld, notNew]

theorem move_eq_some {key : String} {value : α} (apart : old ≠ new) (present : map old ≠ none) :
    move map old new key = some value ↔
      (key = new ∧ map old = some value) ∨ (key ≠ new ∧ key ≠ old ∧ map key = some value) := by
  obtain ⟨entry, held⟩ := Option.ne_none_iff_exists'.mp present
  simp only [move, held, moved_eq_some apart, Option.some.injEq]

end Move

def moveEntry (reg : Registry) (old new : String) : Registry :=
  { reg with
    peers := move reg.peers old new
    connections := move reg.connections old new
    connStates := move reg.connStates old new
    streams := move reg.streams old new }

/-- A connection entry is never without the other three. -/
def Linked (reg : Registry) : Prop :=
  ∀ key, reg.connections key ≠ none →
    reg.peers key ≠ none ∧ reg.connStates key ≠ none ∧ reg.streams key ≠ none

theorem Linked.rename_cases {reg : Registry} (linked : Linked reg) (unified key : String) :
    (rename reg unified key = reg ∧ (unified = key ∨ reg.peers unified = none)) ∨
    (unified ≠ key ∧ reg.peers unified ≠ none ∧ reg.connections unified = none ∧
      rename reg unified key = { reg with peers := move reg.peers unified key }) ∨
    (unified ≠ key ∧ reg.peers unified ≠ none ∧ reg.connections unified ≠ none ∧
      rename reg unified key = moveEntry reg unified key) := by
  by_cases still : unified = key ∨ reg.peers unified = none
  · exact Or.inl ⟨rename_eq_of_still still, still⟩
  · obtain ⟨apart, present⟩ := not_or.mp still
    obtain ⟨ref, held⟩ := Option.ne_none_iff_exists'.mp present
    refine Or.inr ?_
    cases link : reg.connections unified with
    | none => exact Or.inl ⟨apart, present, rfl, by simp [rename, apart, resetConnMgrItemByPeerID, move, held, link]⟩
    | some conn =>
        obtain ⟨_, stated, streamed⟩ := linked unified (by simp [link])
        obtain ⟨state, stateHeld⟩ := Option.ne_none_iff_exists'.mp stated
        obtain ⟨stream, streamHeld⟩ := Option.ne_none_iff_exists'.mp streamed
        exact Or.inr ⟨apart, present, by simp, by
          simp [rename, apart, resetConnMgrItemByPeerID, moveEntry, move, held, link, stateHeld, streamHeld]⟩

theorem Linked.rename_connected {reg : Registry} (linked : Linked reg) {unified key : String}
    (apart : unified ≠ key) (connected : reg.connections unified ≠ none) :
    rename reg unified key = moveEntry reg unified key := by
  rcases linked.rename_cases unified key with ⟨_, still⟩ | ⟨_, _, missing, _⟩ | ⟨_, _, _, whole⟩
  · exact (still.elim apart (linked unified connected).1).elim
  · exact absurd missing connected
  · exact whole

theorem Linked.rename_unconnected {reg : Registry} (linked : Linked reg) {unified : String}
    (missing : reg.connections unified = none) (key : String) :
    (rename reg unified key).connections = reg.connections := by
  rcases linked.rename_cases unified key with ⟨same, _⟩ | ⟨_, _, _, half⟩ | ⟨_, _, connected, _⟩
  · rw [same]
  · rw [half]
  · exact absurd missing connected

/-! What a registration does. -/

section Registering

variable (env : Env) (reg : Registry) (address peerID : String) (conn dialed : Option Conn)

/-- The call makes a new client: both its places are free and a connection is at
hand. -/
structure Creates (unified : String) (info : AddressInfo) (link : Conn) : Prop where
  accepted : Accepted env address unified info
  freeAddress : reg.peers unified = none
  free : reg.peers (keyOf address peerID) = none
  obtained : obtainConn env unified conn dialed = .done (some link)

/-- The call finds an entry under the address and moves it to the key. -/
structure Moves (unified : String) (info : AddressInfo) : Prop where
  accepted : Accepted env address unified info
  apart : unified ≠ keyOf address peerID
  present : reg.peers unified ≠ none

/-- What a call leaves behind. An entry without a connection is moved by half. -/
inductive Change : Registry → Prop where
  | unchanged : (∀ unified info link, ¬ Creates env reg address peerID conn dialed unified info link) →
      (∀ unified info, ¬ Moves env reg address peerID unified info) → Change reg
  | half {unified : String} {info : AddressInfo} : Moves env reg address peerID unified info →
      reg.connections unified = none →
      Change { reg with peers := move reg.peers unified (keyOf address peerID) }
  | moved {unified : String} {info : AddressInfo} : Moves env reg address peerID unified info →
      reg.connections unified ≠ none → Change (moveEntry reg unified (keyOf address peerID))
  | created {unified : String} {info : AddressInfo} {link : Conn} :
      Creates env reg address peerID conn dialed unified info link →
      Change (enter reg info unified (keyOf address peerID) link)

end Registering

section Registered

variable {env : Env} {reg next : Registry} {address peerID unified other : String} {conn dialed : Option Conn}
  {info another : AddressInfo} {link third : Conn} {returned : Option ClientRef}

theorem Creates.not_moves (creates : Creates env reg address peerID conn dialed unified info link)
    (moves : Moves env reg address peerID other another) : False := by
  rw [(creates.accepted.unique moves.accepted).1] at moves
  exact moves.present creates.freeAddress

theorem Creates.unique (creates : Creates env reg address peerID conn dialed unified info link)
    (again : Creates env reg address peerID conn dialed other another third) :
    other = unified ∧ another = info ∧ third = link := by
  obtain ⟨rfl, rfl⟩ := creates.accepted.unique again.accepted
  have same := creates.obtained.symm.trans again.obtained
  simp only [Outcome.done.injEq, Option.some.injEq] at same
  exact ⟨rfl, rfl, same.symm⟩

theorem Moves.unique (moves : Moves env reg address peerID unified info)
    (again : Moves env reg address peerID other another) : other = unified :=
  (moves.accepted.unique again.accepted).1

theorem free_of_unmoved {key : String} (unmoved : rename reg unified key = reg) (free : reg.peers key = none) :
    reg.peers unified = none := by
  have both := rename_peers_key reg unified key
  rw [unmoved, free] at both
  exact (Option.or_eq_none_iff.mp both.symm).1

theorem Linked.registered (linked : Linked reg)
    (called : getOrSetPeerClient env reg address peerID conn dialed = .done (returned, next)) :
    Change env reg address peerID conn dialed next := by
  cases returns_of_called called with
  | rejected refused =>
      exact .unchanged (fun unified info _ creates => refused unified info creates.accepted)
        fun unified info moves => refused unified info moves.accepted
  | undialed accepted unmoved free obtained =>
      refine .unchanged (fun other another link creates => ?_) fun other another moves => ?_
      · have same := creates.obtained
        rw [(accepted.unique creates.accepted).1, obtained] at same
        simp at same
      · have missing := free_of_unmoved unmoved free
        rw [← (accepted.unique moves.accepted).1] at missing
        exact moves.present missing
  | created accepted unmoved free obtained =>
      exact .created ⟨accepted, free_of_unmoved unmoved free, free, obtained⟩
  | @present unified info ref _ accepted held _ =>
      rcases linked.rename_cases unified (keyOf address peerID) with
        ⟨unmoved, still⟩ | ⟨apart, present, missing, moved⟩ | ⟨apart, present, connected, moved⟩
      · rw [unmoved] at held ⊢
        refine .unchanged (fun other another link creates => ?_) fun other another moves => ?_
        · rw [creates.free] at held
          simp at held
        · have ⟨same, _⟩ := accepted.unique moves.accepted
          subst same
          exact still.elim moves.apart moves.present
      · rw [moved]
        exact .half ⟨accepted, apart, present⟩ missing
      · rw [moved]
        exact .moved ⟨accepted, apart, present⟩ connected

end Registered

/-! What a `Close` does. -/

/-- The protocols `initConnection` keeps a connection for and `RemoveEntries` closes
one of. -/
def supported : List String := ["tcp", "kcp", "udp", "quic"]

def hungUp (env : Env) (reg : Registry) (key : String) : List Conn :=
  match reg.connections key, parseAddress env.resolver env.address with
  | some conn, some info => if info.protocol ∈ supported then [conn] else []
  | _, _ => []

def hangUps (env : Env) (reg : Registry) (client : PeerClient) : List Conn :=
  if client.lastAddress = "" then []
  else match removeKey env reg client.peerID with
    | .panic => []
    | .done middle => hungUp env reg client.peerID ++ hungUp env middle client.lastAddress

def closing (env : Env) (reg : Registry) (ref : ClientRef) : List Conn :=
  match reg.clients[ref]? with
  | none => []
  | some client =>
      if client.closed then []
      else hangUps env { reg with clients := reg.clients.set ref { client with closed := true } } client

theorem mem_hungUp {env : Env} {reg : Registry} {key : String} {conn : Conn} :
    conn ∈ hungUp env reg key ↔ reg.connections key = some conn ∧
      ∃ info, parseAddress env.resolver env.address = some info ∧ info.protocol ∈ supported := by
  unfold hungUp
  cases reg.connections key with
  | none => simp
  | some link =>
      cases parseAddress env.resolver env.address with
      | none => simp
      | some info =>
          by_cases known : info.protocol ∈ supported
          · simp [known, eq_comm]
          · simp [known]

def DeletedAt (reg : Registry) (key : String) : Prop :=
  reg.peers key = none ∧ reg.connections key = none ∧ reg.connStates key = some .unreachable ∧
    reg.streams key = none

theorem sameAt_trans {first second third : Registry} {key : String} (before : SameAt first second key)
    (after : SameAt second third key) : SameAt first third key :=
  ⟨after.1.trans before.1, after.2.1.trans before.2.1, after.2.2.1.trans before.2.2.1,
    after.2.2.2.trans before.2.2.2⟩

theorem deleted_of_same {before after : Registry} {key : String} (same : SameAt before after key)
    (deleted : DeletedAt before key) : DeletedAt after key := by
  obtain ⟨peers, connections, connStates, streams⟩ := same
  exact ⟨peers.trans deleted.1, connections.trans deleted.2.1, connStates.trans deleted.2.2.1,
    streams.trans deleted.2.2.2⟩

section Closing

variable (env : Env) (reg : Registry) (ref : ClientRef)

/-- The keys `Close` removes: the two of an open client, where they lead to a
connection. -/
structure Removes (key : String) (client : PeerClient) (info : AddressInfo) : Prop where
  found : reg.clients[ref]? = some client
  opened : client.closed = false
  somewhere : client.lastAddress ≠ ""
  parses : parseAddress env.resolver env.address = some info
  own : key = client.peerID ∨ key = client.lastAddress
  connected : reg.connections key ≠ none

end Closing

section Closed

variable {env : Env} {reg next : Registry} {ref : ClientRef}

theorem removeKey_at {key : String} (removed : removeKey env reg key = .done next) (other : String) :
    (other = key ∧ reg.connections key ≠ none ∧ parseAddress env.resolver env.address ≠ none ∧
      DeletedAt next other) ∨
    (¬ (other = key ∧ reg.connections key ≠ none ∧ parseAddress env.resolver env.address ≠ none) ∧
      SameAt reg next other) := by
  unfold removeKey at removed
  cases link : reg.connections key with
  | none =>
      simp only [link] at removed
      cases removed
      exact Or.inr ⟨by simp, rfl, rfl, rfl, rfl⟩
  | some conn =>
      simp only [link] at removed
      cases parses : parseAddress env.resolver env.address with
      | none =>
          simp only [parses] at removed
          cases removed
          exact Or.inr ⟨by simp, rfl, rfl, rfl, rfl⟩
      | some info =>
          simp only [parses] at removed
          split at removed
          · cases removed
            by_cases here : other = key
            · exact Or.inl ⟨here, by simp, by simp, by simp [DeletedAt, deleteKey, delete, store, here]⟩
            · exact Or.inr ⟨by simp [here], by simp [SameAt, deleteKey, delete, store, here]⟩
          · simp at removed

theorem close_cases (closed : close env reg ref = .done next) :
    ((∀ key client info, ¬ Removes env reg ref key client info) ∧ (∀ key, SameAt reg next key) ∧
      closing env reg ref = []) ∨
    ∃ client opened middle, reg.clients[ref]? = some client ∧ client.closed = false ∧ client.lastAddress ≠ "" ∧
      (∀ key, SameAt reg opened key) ∧ removeKey env opened client.peerID = .done middle ∧
      removeKey env middle client.lastAddress = .done next ∧
      closing env reg ref = hungUp env opened client.peerID ++ hungUp env middle client.lastAddress := by
  unfold close at closed
  unfold closing
  cases found : reg.clients[ref]? with
  | none =>
      simp only [found] at closed
      cases closed
      refine Or.inl ⟨fun key client info removes => ?_, fun key => ⟨rfl, rfl, rfl, rfl⟩, rfl⟩
      rw [removes.found] at found
      simp at found
  | some client =>
      simp only [found] at closed
      have same : ∀ {key other info}, Removes env reg ref key other info → other = client := by
        intro key other info removes
        exact Option.some.inj (removes.found.symm.trans found)
      cases ended : client.closed with
      | true =>
          simp only [ended, if_true] at closed
          cases closed
          refine Or.inl ⟨fun key other info removes => ?_, fun key => ⟨rfl, rfl, rfl, rfl⟩, by simp [ended]⟩
          have opened := removes.opened
          rw [same removes, ended] at opened
          simp at opened
      | false =>
          simp only [ended, Bool.false_eq_true, if_false] at closed ⊢
          unfold removeEntries at closed
          unfold hangUps
          by_cases nowhere : client.lastAddress = ""
          · rw [if_pos nowhere] at closed
            cases closed
            refine Or.inl ⟨fun key other info removes => removes.somewhere ?_,
              fun key => ⟨rfl, rfl, rfl, rfl⟩, if_pos nowhere⟩
            rw [same removes, nowhere]
          · rw [if_neg nowhere] at closed
            obtain ⟨middle, first, second⟩ := Outcome.bind_eq_done.mp closed
            refine Or.inr ⟨client, _, middle, rfl, ended, nowhere, fun key => ?_, first, second, ?_⟩
            · exact ⟨rfl, rfl, rfl, rfl⟩
            · rw [if_neg nowhere, first]

/-- Closing removes whole entries and leaves the others as they are. -/
theorem close_at (closed : close env reg ref = .done next) (key : String) :
    ((∃ client info, Removes env reg ref key client info) ∧ DeletedAt next key) ∨
    ((∀ client info, ¬ Removes env reg ref key client info) ∧ SameAt reg next key) := by
  rcases close_cases closed with ⟨none, same, _⟩ |
      ⟨client, opened, middle, found, unclosed, somewhere, marked, first, second, _⟩
  · exact Or.inr ⟨none key, same key⟩
  · have removes : (key = client.peerID ∨ key = client.lastAddress) → opened.connections key ≠ none →
        parseAddress env.resolver env.address ≠ none → ∃ other info, Removes env reg ref key other info := by
      intro own connected parsed
      obtain ⟨info, parses⟩ := Option.ne_none_iff_exists'.mp parsed
      exact ⟨client, info, found, unclosed, somewhere, parses, own, (marked key).2.1 ▸ connected⟩
    rcases removeKey_at first key with ⟨here, connected, parsed, deleted⟩ | ⟨kept, same⟩
    · -- The second half finds nothing more under this key.
      refine Or.inl ⟨removes (Or.inl here) (by rw [here]; exact connected) parsed, ?_⟩
      rcases removeKey_at second key with ⟨_, _, _, again⟩ | ⟨_, sameToo⟩
      · exact again
      · exact deleted_of_same sameToo deleted
    · rcases removeKey_at second key with ⟨here, connected, parsed, deleted⟩ | ⟨keptToo, sameToo⟩
      · refine Or.inl ⟨removes (Or.inr here) ?_ parsed, deleted⟩
        rw [← same.2.1, here]
        exact connected
      · refine Or.inr ⟨fun other info removed => ?_, sameAt_trans (marked key) (sameAt_trans same sameToo)⟩
        have parsed : parseAddress env.resolver env.address ≠ none := by simp [removed.parses]
        have connected : opened.connections key ≠ none := (marked key).2.1 ▸ removed.connected
        have own := removed.own
        rw [Option.some.inj (removed.found.symm.trans found)] at own
        rcases own with here | here
        · exact kept ⟨here, by rw [← here]; exact connected, parsed⟩
        · exact keptToo ⟨here, by rw [← here, same.2.1]; exact connected, parsed⟩

theorem Removes.deleted {key : String} {client : PeerClient} {info : AddressInfo}
    (removes : Removes env reg ref key client info) (closed : close env reg ref = .done next) :
    DeletedAt next key := by
  rcases close_at closed key with ⟨_, deleted⟩ | ⟨kept, _⟩
  · exact deleted
  · exact absurd removes (kept client info)

theorem same_of_kept {key : String} (closed : close env reg ref = .done next)
    (kept : ∀ client info, ¬ Removes env reg ref key client info) : SameAt reg next key := by
  rcases close_at closed key with ⟨⟨client, info, removes⟩, _⟩ | ⟨_, same⟩
  · exact absurd removes (kept client info)
  · exact same

theorem close_connections {key : String} {conn : Conn} (closed : close env reg ref = .done next) :
    next.connections key = some conn ↔
      (∀ client info, ¬ Removes env reg ref key client info) ∧ reg.connections key = some conn := by
  constructor
  · intro held
    rcases close_at closed key with ⟨_, deleted⟩ | ⟨kept, same⟩
    · rw [deleted.2.1] at held
      cases held
    · exact ⟨kept, same.2.1 ▸ held⟩
  · rintro ⟨kept, held⟩
    exact (same_of_kept closed kept).2.1.trans held

/-- The connections closed are those under the keys removed, unless the node's own
protocol is an unknown one. -/
theorem mem_closing {conn : Conn} (closed : close env reg ref = .done next) :
    conn ∈ closing env reg ref ↔ ∃ key client info, Removes env reg ref key client info ∧
      reg.connections key = some conn ∧ info.protocol ∈ supported := by
  rcases close_cases closed with ⟨none, _, nothing⟩ |
      ⟨client, opened, middle, found, unclosed, somewhere, marked, first, second, both⟩
  · rw [nothing]
    constructor
    · intro impossible
      simp at impossible
    · rintro ⟨key, client, info, removes, _⟩
      exact absurd removes (none key client info)
  · rw [both, List.mem_append, mem_hungUp, mem_hungUp, (marked _).2.1]
    have removes : ∀ {key info}, (key = client.peerID ∨ key = client.lastAddress) →
        reg.connections key = some conn → parseAddress env.resolver env.address = some info →
        Removes env reg ref key client info := fun own held parses =>
      ⟨found, unclosed, somewhere, parses, own, by simp [held]⟩
    constructor
    · rintro (⟨held, info, parses, known⟩ | ⟨held, info, parses, known⟩)
      · exact ⟨_, client, info, removes (Or.inl rfl) held parses, held, known⟩
      · rcases removeKey_at first client.lastAddress with ⟨_, _, _, deleted⟩ | ⟨_, same⟩
        · rw [deleted.2.1] at held
          simp at held
        · rw [same.2.1, (marked _).2.1] at held
          exact ⟨_, client, info, removes (Or.inr rfl) held parses, held, known⟩
    · rintro ⟨key, other, info, removed, held, known⟩
      have own := removed.own
      rw [Option.some.inj (removed.found.symm.trans found)] at own
      rcases own with rfl | rfl
      · exact Or.inl ⟨held, info, removed.parses, known⟩
      · rcases removeKey_at first client.lastAddress with ⟨here, _, _, _⟩ | ⟨_, same⟩
        · exact Or.inl ⟨here ▸ held, info, removed.parses, known⟩
        · exact Or.inr ⟨by rw [same.2.1, (marked _).2.1, held], info, removed.parses, known⟩

end Closed

/-! Runs of operations. -/

/-- What is done to a registry: the calls of `getOrSetPeerClient` and of a client's
`Close`, the ID a receive loop writes into a client, a state reported from outside
and the switch of the acknowledgement component. -/
inductive Op where
  | register (address peerID : String) (conn dialed : Option Conn)
  | close (ref : ClientRef)
  | setID (ref : ClientRef) (sender : ID)
  | updateConnState (peerID : String) (state : PeerState)
  | enableAckReply (ref : ClientRef)
  deriving DecidableEq, Repr

def perform (env : Env) (reg : Registry) : Op → Outcome Registry
  | .register address peerID conn dialed =>
      (getOrSetPeerClient env reg address peerID conn dialed).map (·.2)
  | .close ref => close env reg ref
  | .setID ref sender => .done (setID reg ref sender)
  | .updateConnState peerID state => .done (updateConnState reg peerID state)
  | .enableAckReply ref => .done (enableAckReply reg ref)

def Performs (env : Env) (before : Registry) (op : Op) (after : Registry) : Prop :=
  perform env before op = .done after

def Reachable (env : Env) (reg : Registry) : Prop :=
  ∃ ops, Run (Performs env) emptyRegistry ops reg

theorem Reachable.perform {env : Env} {reg next : Registry} (reachable : Reachable env reg) (op : Op)
    (performed : Performs env reg op next) : Reachable env next :=
  reachable.elim fun ops run => ⟨ops ++ [op], run.snoc performed⟩

/-- A turn of a receive loop comes down to operations, and so does every step of a
node. -/
theorem reachable_stable (node : Node) : Stable node (Reachable node.env) where
  registered _ address peerID conn dialed _ _ reachable called :=
    reachable.perform (.register address peerID conn dialed) (by simp [Performs, RegistryOps.perform, called])
  named _ ref sender reachable := reachable.perform (.setID ref sender) rfl
  closed _ ref _ reachable closed := reachable.perform (.close ref) closed
  updated _ peerID state reachable := reachable.perform (.updateConnState peerID state) rfl
  switched _ ref reachable := reachable.perform (.enableAckReply ref) rfl

theorem reachable_of_run {node : Node} {events : List Event} {world : World}
    (run : Run (fun before event after => step node before event = .done after) start events world) :
    Reachable node.env world.reg :=
  (reachable_stable node).run run ⟨[], .nil _⟩

theorem stable_performs {node : Node} {Holds : Registry → Prop} (stable : Stable node Holds)
    {before after : Registry} {op : Op} (performed : Performs node.env before op after)
    (held : Holds before) : Holds after := by
  cases op with
  | register address peerID conn dialed =>
      obtain ⟨⟨returned, next⟩, called, same⟩ := Outcome.bind_eq_done.mp performed
      cases same
      exact stable.registered _ _ _ _ _ _ _ held called
  | close ref => exact stable.closed _ _ _ held performed
  | setID ref sender => cases performed; exact stable.named _ _ _ held
  | updateConnState peerID state => cases performed; exact stable.updated _ _ _ held
  | enableAckReply ref => cases performed; exact stable.switched _ _ held

/-! Entries are whole on the side of the connection. -/

section Enter

variable (reg : Registry) (info : AddressInfo) (address key : String) (link : Conn)

theorem enter_connections : (enter reg info address key link).connections =
    if info.protocol ∈ supported then store reg.connections key link else reg.connections := by
  unfold enter initConnection
  split
  · rename_i known
    exact (if_pos known).symm
  · rename_i unknown
    exact (if_neg unknown).symm

theorem enter_connStates :
    (enter reg info address key link).connStates = store reg.connStates key .reachable := by
  unfold enter initConnection
  split <;> rfl

theorem enter_streams :
    (enter reg info address key link).streams = store reg.streams key reg.clients.length := by
  unfold enter initConnection
  split <;> rfl

theorem enter_other {other : String} (away : other ≠ key) : SameAt reg (enter reg info address key link) other := by
  rw [SameAt, enter_peers, enter_connStates, enter_streams, enter_connections]
  refine ⟨by simp [store, away], ?_, by simp [store, away], by simp [store, away]⟩
  split
  · simp [store, away]
  · rfl

end Enter

theorem Linked.unconnected {reg : Registry} {key : String} (linked : Linked reg) (free : reg.peers key = none) :
    reg.connections key = none := by
  by_contra connected
  exact (linked key connected).1 free

theorem Linked.of_same {reg next : Registry} {key : String} (linked : Linked reg) (same : SameAt reg next key)
    (connected : next.connections key ≠ none) :
    next.peers key ≠ none ∧ next.connStates key ≠ none ∧ next.streams key ≠ none := by
  obtain ⟨peers, connections, connStates, streams⟩ := same
  rw [peers, connStates, streams]
  exact linked key (connections ▸ connected)

theorem moveEntry_other (reg : Registry) {old new key : String} (notOld : key ≠ old) (notNew : key ≠ new) :
    SameAt reg (moveEntry reg old new) key :=
  ⟨move_other _ notOld notNew, move_other _ notOld notNew, move_other _ notOld notNew,
    move_other _ notOld notNew⟩

theorem Linked.change {env : Env} {reg next : Registry} {address peerID : String} {conn dialed : Option Conn}
    (linked : Linked reg) (change : Change env reg address peerID conn dialed next) : Linked next := by
  cases change with
  | unchanged => exact linked
  | @half unified info moves missing =>
      intro key connected
      obtain ⟨peers, connStates, streams⟩ := linked key connected
      refine ⟨?_, connStates, streams⟩
      by_cases here : key = keyOf address peerID
      · rw [here]
        simp [move_new _ moves.apart, moves.present]
      · by_cases there : key = unified
        · exact absurd missing (there ▸ connected)
        · simpa only [move_other _ there here] using peers
  | @moved unified info moves present =>
      intro key connected
      by_cases there : key = unified
      · rw [there] at connected
        exact absurd (move_old _) connected
      · by_cases here : key = keyOf address peerID
        · obtain ⟨peers, connStates, streams⟩ := linked unified present
          simp [here, moveEntry, move_new _ moves.apart, peers, connStates, streams]
        · exact linked.of_same (moveEntry_other reg there here) connected
  | @created unified info link creates =>
      intro key connected
      by_cases here : key = keyOf address peerID
      · simp [here, enter_peers, enter_connStates, enter_streams, store]
      · exact linked.of_same (enter_other reg info unified _ link here) connected

theorem setID_same_at (reg : Registry) (ref : ClientRef) (sender : ID) (key : String) :
    SameAt reg (setID reg ref sender) key := by
  unfold setID
  split <;> exact ⟨rfl, rfl, rfl, rfl⟩

theorem linked_stable (node : Node) : Stable node Linked where
  registered _ _ _ _ _ _ _ linked called := linked.change (linked.registered called)
  named reg ref sender linked key connected := linked.of_same (setID_same_at reg ref sender key) connected
  closed _ _ _ linked closed key connected := by
    rcases close_at closed key with ⟨_, deleted⟩ | ⟨_, same⟩
    · exact absurd deleted.2.1 connected
    · exact linked.of_same same connected
  updated reg peerID state linked key connected := by
    obtain ⟨peers, connStates, streams⟩ := linked key connected
    refine ⟨peers, ?_, streams⟩
    by_cases here : key = peerID
    · simp [updateConnState, store, here]
    · simpa [updateConnState, store, here] using connStates
  switched _ _ linked := linked

theorem Linked.performs {env : Env} {reg next : Registry} {op : Op} (linked : Linked reg)
    (performed : Performs env reg op next) : Linked next :=
  stable_performs (linked_stable ⟨env, false, fun _ _ _ => false⟩) performed linked

theorem linked_empty : Linked emptyRegistry := by
  intro key connected
  simp [emptyRegistry] at connected

section Reached

variable {env : Env} {reg : Registry}

theorem Reachable.holds {Holds : Registry → Prop} (reachable : Reachable env reg)
    (stable : Stable ⟨env, false, fun _ _ _ => false⟩ Holds) (empty : Holds emptyRegistry) : Holds reg :=
  reachable.elim fun _ run => run.invariant Holds (fun _ _ _ performed => stable_performs stable performed) empty

theorem Reachable.linked (reachable : Reachable env reg) : Linked reg :=
  reachable.holds (linked_stable _) linked_empty

theorem Reachable.indexed (reachable : Reachable env reg) : Indexed reg :=
  reachable.holds (indexed_stable _) ⟨by simp [emptyRegistry], by simp [emptyRegistry]⟩

end Reached

/-! The four maps agree on their keys. -/

def ConsistentAt (reg : Registry) (key : String) : Prop :=
  (reg.connections key ≠ none ↔ reg.peers key ≠ none) ∧ (reg.streams key ≠ none ↔ reg.peers key ≠ none) ∧
    (reg.connStates key = some .reachable ↔ reg.peers key ≠ none)

/-- The clients, the connections and the streams have the same keys, and these are
the ones whose state is reachable. -/
def Consistent (reg : Registry) : Prop := ∀ key, ConsistentAt reg key

theorem ConsistentAt.of_same {reg next : Registry} {key : String} (consistent : ConsistentAt reg key)
    (same : SameAt reg next key) : ConsistentAt next key := by
  obtain ⟨peers, connections, connStates, streams⟩ := same
  rwa [ConsistentAt, peers, connections, connStates, streams]

theorem Consistent.linked {reg : Registry} (consistent : Consistent reg) : Linked reg := by
  intro key connected
  obtain ⟨connections, streams, connStates⟩ := consistent key
  have present := connections.mp connected
  refine ⟨present, ?_, streams.mpr present⟩
  rw [connStates.mpr present]
  simp

/-- No half entry is added: a client is only made for a protocol `initConnection`
knows, and a state reported from outside is that of the entry. -/
def Supports (env : Env) (reg : Registry) : Op → Prop
  | .register address peerID conn dialed => ∀ unified info link,
      Creates env reg address peerID conn dialed unified info link → info.protocol ∈ supported
  | .updateConnState peerID state => (state = .reachable ↔ reg.peers peerID ≠ none)
  | _ => True

theorem enter_consistent_iff {reg : Registry} {key : String} (consistent : Consistent reg)
    (free : reg.peers key = none) (info : AddressInfo) (address : String) (link : Conn) :
    Consistent (enter reg info address key link) ↔ info.protocol ∈ supported := by
  have unconnected : reg.connections key = none := by
    have agree := (consistent key).1
    simpa [free] using agree
  have atKey : ConsistentAt (enter reg info address key link) key ↔ info.protocol ∈ supported := by
    rw [ConsistentAt, enter_peers, enter_connStates, enter_streams, enter_connections]
    by_cases known : info.protocol ∈ supported
    · simp [known, store]
    · simp [known, store, unconnected]
  constructor
  · intro entered
    exact atKey.mp (entered key)
  · intro known other
    by_cases here : other = key
    · rw [here]
      exact atKey.mpr known
    · exact (consistent other).of_same (enter_other reg info address key link here)

theorem moveEntry_consistent {reg : Registry} {old new : String} (consistent : Consistent reg)
    (apart : old ≠ new) (present : reg.peers old ≠ none) : Consistent (moveEntry reg old new) := by
  intro key
  obtain ⟨connections, streams, connStates⟩ := consistent old
  by_cases there : key = old
  · simp [ConsistentAt, moveEntry, there, move_old]
  · by_cases here : key = new
    · have connected := connections.mpr present
      have streamed := streams.mpr present
      have reachable := connStates.mpr present
      simp [ConsistentAt, moveEntry, here, move_new _ apart, connected, streamed, reachable, present]
    · exact (consistent key).of_same (moveEntry_other reg there here)

theorem register_consistent_iff {env : Env} {reg next : Registry} {address peerID : String}
    {conn dialed : Option Conn} (consistent : Consistent reg)
    (change : Change env reg address peerID conn dialed next) :
    Consistent next ↔ Supports env reg (.register address peerID conn dialed) := by
  cases change with
  | unchanged noCreate =>
      constructor
      · intro _ unified info link creates
        exact absurd creates (noCreate unified info link)
      · intro _
        exact consistent
  | half moves missing => exact absurd missing ((consistent _).1.mpr moves.present)
  | moved moves connected =>
      constructor
      · intro _ unified info link creates
        exact absurd moves creates.not_moves
      · intro _
        exact moveEntry_consistent consistent moves.apart moves.present
  | created creates =>
      rw [enter_consistent_iff consistent creates.free]
      constructor
      · intro known unified info link again
        rwa [(creates.unique again).2.1]
      · intro supports
        exact supports _ _ _ creates

theorem close_consistent {env : Env} {reg next : Registry} {ref : ClientRef} (consistent : Consistent reg)
    (closed : close env reg ref = .done next) : Consistent next := by
  intro key
  rcases close_at closed key with ⟨_, peers, connections, connStates, streams⟩ | ⟨_, same⟩
  · simp [ConsistentAt, peers, connections, connStates, streams]
  · exact (consistent key).of_same same

theorem updateConnState_consistent_iff {reg : Registry} (consistent : Consistent reg) (peerID : String)
    (state : PeerState) :
    Consistent (updateConnState reg peerID state) ↔ (state = .reachable ↔ reg.peers peerID ≠ none) := by
  constructor
  · intro updated
    have atKey := (updated peerID).2.2
    simpa [updateConnState, store] using atKey
  · intro told key
    by_cases here : key = peerID
    · obtain ⟨connections, streams, _⟩ := consistent key
      refine ⟨connections, streams, ?_⟩
      simpa [updateConnState, store, here] using told
    · exact (consistent key).of_same (by simp [SameAt, updateConnState, store, here])

theorem perform_consistent_iff {env : Env} {reg next : Registry} {op : Op} (consistent : Consistent reg)
    (performed : Performs env reg op next) : Consistent next ↔ Supports env reg op := by
  cases op with
  | register address peerID conn dialed =>
      obtain ⟨⟨returned, last⟩, called, same⟩ := Outcome.bind_eq_done.mp performed
      cases same
      exact register_consistent_iff consistent (consistent.linked.registered called)
  | close ref => exact iff_of_true (close_consistent consistent performed) trivial
  | setID ref sender =>
      cases performed
      exact iff_of_true (fun key => (consistent key).of_same (setID_same_at reg ref sender key)) trivial
  | updateConnState peerID state =>
      cases performed
      exact updateConnState_consistent_iff consistent peerID state
  | enableAckReply ref =>
      cases performed
      exact iff_of_true consistent trivial

/-- The four maps agree in every run whose operations add no half entry, and the
first operation that adds one makes them differ. -/
theorem keySets_equal_iff {env : Env} {ops : List Op} {reg : Registry}
    (run : Run (fun before op after => Performs env before op after ∧ Supports env before op)
      emptyRegistry ops reg) :
    Consistent reg ∧ ∀ op next, Performs env reg op next → (Consistent next ↔ Supports env reg op) := by
  have consistent : Consistent reg := by
    apply run.invariant Consistent
    · rintro before op after ⟨performed, supports⟩ held
      exact (perform_consistent_iff held performed).mpr supports
    · intro key
      simp [ConsistentAt, emptyRegistry]
  exact ⟨consistent, fun op next performed => perform_consistent_iff consistent performed⟩

theorem accepted_neighbour : Accepted localNode.env "tcp://b:1" "tcp://b:1" ⟨"tcp", "b", 1⟩ where
  unifies := by decide
  other := by decide
  parses := by decide

/-- A peer registers under its key, is named and closed. -/
theorem keySets_equal_iff_neighbour : ∃ reg, Run
    (fun before op after => Performs localNode.env before op after ∧ Supports localNode.env before op)
      emptyRegistry
      [.register "tcp://b:1" "01" (some ⟨.net, 0⟩) none, .setID 0 (neighbour [1]), .close 0] reg ∧
    Consistent reg := by
  have known : Supports localNode.env emptyRegistry (.register "tcp://b:1" "01" (some ⟨.net, 0⟩) none) := by
    intro unified info link creates
    rw [(accepted_neighbour.unique creates.accepted).2]
    decide
  obtain ⟨first, registered⟩ : ∃ first,
      Performs localNode.env emptyRegistry (.register "tcp://b:1" "01" (some ⟨.net, 0⟩) none) first := ⟨_, rfl⟩
  obtain ⟨last, closed⟩ : ∃ last, Performs localNode.env (setID first 0 (neighbour [1])) (.close 0) last := by
    cases registered
    exact ⟨_, rfl⟩
  have run : Run (fun before op after => Performs localNode.env before op after ∧
      Supports localNode.env before op) emptyRegistry
      [.register "tcp://b:1" "01" (some ⟨.net, 0⟩) none, .setID 0 (neighbour [1]), .close 0] last :=
    .cons ⟨registered, known⟩ (.cons ⟨rfl, trivial⟩ (.cons ⟨closed, trivial⟩ (.nil last)))
  exact ⟨last, run, (keySets_equal_iff run).1⟩

/-- A resolver that also knows an address with another scheme and a third host. -/
def wideResolver : Resolver :=
  { localResolver with
    urlParse := fun address =>
      if address = "http://b:1" then some ("http", "b:1")
      else if address = "tcp://c:1" then some ("tcp", "c:1")
      else localResolver.urlParse address
    splitHostPort := fun host => if host = "c:1" then some ("c", "1") else localResolver.splitHostPort host }

def wideEnv : Env := { localNode.env with resolver := wideResolver }

def wideNode : Node := { localNode with env := wideEnv }

/-- A message whose sender gives an address with an unsupported scheme is registered
without a connection. -/
theorem keySets_differ : ∃ reg, Run (Performs wideEnv) emptyRegistry
      [.register "http://b:1" "01" (some ⟨.net, 0⟩) none] reg ∧
    reg.peers "01" = some 0 ∧ reg.streams "01" = some 0 ∧ reg.connStates "01" = some .reachable ∧
    reg.connections "01" = none ∧ ¬ Consistent reg := by
  obtain ⟨reg, performed, peers, streams, connStates, connections⟩ : ∃ reg,
      Performs wideEnv emptyRegistry (.register "http://b:1" "01" (some ⟨.net, 0⟩) none) reg ∧
      reg.peers "01" = some 0 ∧ reg.streams "01" = some 0 ∧ reg.connStates "01" = some .reachable ∧
      reg.connections "01" = none := ⟨_, rfl, rfl, rfl, rfl, rfl⟩
  refine ⟨reg, .cons performed (.nil _), peers, streams, connStates, connections, fun consistent => ?_⟩
  have agree := (consistent "01").1
  simp [peers, connections] at agree

/-! What closing a client leaves alone. -/

/-- Nothing is removed but what is registered for the client, and no connection is
closed that is registered for another one. -/
structure Spares (env : Env) (reg : Registry) (ref : ClientRef) (next : Registry) : Prop where
  entries : ∀ key, reg.peers key ≠ some ref → SameAt reg next key
  connections : ∀ conn ∈ closing env reg ref, ∀ key, reg.connections key = some conn → reg.peers key = some ref

/-- The keys of the client lead to the client, and their connections are under no
other client's key. -/
def OwnsKeys (env : Env) (reg : Registry) (ref : ClientRef) : Prop :=
  ∀ key client info, Removes env reg ref key client info →
    reg.peers key = some ref ∧
    (info.protocol ∈ supported → ∀ conn other, reg.connections key = some conn →
      reg.connections other = some conn → reg.peers other = some ref)

/-- A client's `Close` is confined to the client's own entries exactly if its two keys
are its own. -/
theorem close_spares_iff {env : Env} {reg next : Registry} {ref : ClientRef}
    (closed : close env reg ref = .done next) : Spares env reg ref next ↔ OwnsKeys env reg ref := by
  constructor
  · intro spares key client info removes
    constructor
    · by_contra foreign
      -- A removed key had a connection and has none now.
      have same := (spares.entries key foreign).2.1
      rw [(removes.deleted closed).2.1] at same
      exact removes.connected same.symm
    · intro known conn other held shared
      exact spares.connections conn ((mem_closing closed).mpr ⟨key, client, info, removes, held, known⟩)
        other shared
  · intro owns
    constructor
    · intro key foreign
      apply same_of_kept closed
      intro client info removes
      exact foreign (owns key client info removes).1
    · intro conn hung other shared
      obtain ⟨key, client, info, removes, held, known⟩ := (mem_closing closed).mp hung
      exact (owns key client info removes).2 known conn other held shared

def newcomer : ID := { neighbour [2] with netKey := some [2], address := "tcp://c:1" }

/-- Two peers register, each on its own connection, and the client of one is closed. -/
theorem close_spares_iff_neighbour : ∃ world next,
    Run (fun before event after => step wideNode before event = .done after) start
      [.message accepted (inputOf (neighbour [1]) none),
        .message { accepted with incoming := ⟨.net, 1⟩ } (inputOf newcomer none)] world ∧
    close wideEnv world.reg 0 = .done next ∧ next.peers "01" = none ∧
    next.peers "02" = some 1 ∧ next.connections "02" = some ⟨.net, 1⟩ ∧
    Spares wideEnv world.reg 0 next := by
  obtain ⟨world, next, client, run, closed, gone, kept, link, found, peerID, lastAddress, peers, connections⟩ :
      ∃ world next client, Run (fun before event after => step wideNode before event = .done after) start
        [.message accepted (inputOf (neighbour [1]) none),
          .message { accepted with incoming := ⟨.net, 1⟩ } (inputOf newcomer none)] world ∧
      close wideEnv world.reg 0 = .done next ∧ next.peers "01" = none ∧ next.peers "02" = some 1 ∧
      next.connections "02" = some ⟨.net, 1⟩ ∧ world.reg.clients[0]? = some client ∧ client.peerID = "01" ∧
      client.lastAddress = "tcp://b:1" ∧ world.reg.peers "01" = some 0 ∧
      world.reg.connections = store (store (fun _ => none) "01" ⟨.net, 0⟩) "02" ⟨.net, 1⟩ :=
    ⟨_, _, _, .cons rfl (.cons rfl (.nil _)), rfl, rfl, rfl, rfl, rfl, rfl, rfl, rfl, rfl⟩
  refine ⟨world, next, run, closed, gone, kept, link, (close_spares_iff closed).mpr ?_⟩
  intro key other info removes
  obtain rfl : other = client := Option.some.inj (removes.found.symm.trans found)
  -- Of the client's keys only the public key has a connection, and it is under no other key.
  have own : key = "01" := by
    have tried := removes.own
    have connected := removes.connected
    rw [peerID, lastAddress] at tried
    rcases tried with rfl | rfl
    · rfl
    · simp [connections, store] at connected
  refine ⟨own ▸ peers, fun _ conn place held shared => ?_⟩
  obtain rfl : conn = ⟨.net, 0⟩ := by simpa [own, connections, store, eq_comm] using held
  by_cases here : place = "01"
  · exact here ▸ peers
  · rw [connections] at shared
    by_cases there : place = "02" <;> simp [store, here, there] at shared

def dialled : Session := { loop := .accept, incoming := ⟨.net, 1⟩, client := some 1 }

/-- A peer that is registered on an accepted connection is dialled as well. Its
first message on the second connection moves that one to its key, and closing the
first client then removes and closes what belongs to the second. -/
theorem close_removes_other_client : ∃ world next,
    Run (fun before event after => step localNode before event = .done after) start
      [.message accepted (inputOf (neighbour [1]) none), .client "tcp://b:1" "" (some ⟨.net, 1⟩),
        .message dialled (inputOf (neighbour [1]) none)] world ∧
    world.reg.peers "01" = some 1 ∧ world.reg.connections "01" = some dialled.incoming ∧
    close localNode.env world.reg 0 = .done next ∧
    closing localNode.env world.reg 0 = [dialled.incoming] ∧ next.peers "01" = none ∧
    next.connStates "01" = some .unreachable ∧ ¬ Spares localNode.env world.reg 0 next := by
  obtain ⟨world, next, run, peers, connections, closed, hung, gone, unreachable⟩ : ∃ world next,
      Run (fun before event after => step localNode before event = .done after) start
        [.message accepted (inputOf (neighbour [1]) none), .client "tcp://b:1" "" (some ⟨.net, 1⟩),
          .message dialled (inputOf (neighbour [1]) none)] world ∧
      world.reg.peers "01" = some 1 ∧ world.reg.connections "01" = some dialled.incoming ∧
      close localNode.env world.reg 0 = .done next ∧
      closing localNode.env world.reg 0 = [dialled.incoming] ∧ next.peers "01" = none ∧
      next.connStates "01" = some .unreachable :=
    ⟨_, _, .cons rfl (.cons rfl (.cons rfl (.nil _))), rfl, rfl, rfl, rfl, rfl, rfl⟩
  refine ⟨world, next, run, peers, connections, closed, hung, gone, unreachable, fun spares => ?_⟩
  have same := (spares.entries "01" (by simp [peers])).1
  rw [gone, peers] at same
  simp at same

end Carrier.RegistryOps
