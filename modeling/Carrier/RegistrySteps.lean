import Carrier.Interleaving
import Carrier.RegistryOps

/-! `getOrSetPeerClient` and `Close` as steps on the four maps, one step for each
operation of a `sync.Map` and for taking and releasing the mutex of the `ConnMgr`.
Run without interruption they are the functions of the registry. The `nil` that
`RemoveEntries` writes into the state of a connection is left out: a `Close` meets it
again only if another call has copied that state to its other key in between. -/
namespace Carrier.RegistrySteps

open GoRuntime Identity Address ConnMgr RegistryOps Interleaving

inductive Table where
  | peers
  | connections
  | connStates
  | streams
  deriving DecidableEq, Repr

abbrev Cell : Table → Type
  | .peers => ClientRef
  | .connections => Conn
  | .connStates => PeerState
  | .streams => ClientRef

abbrev Tables := Memory Table String Cell
abbrev Steps := Program Table String Cell

def tables (reg : Registry) : Tables
  | .peers => reg.peers
  | .connections => reg.connections
  | .connStates => reg.connStates
  | .streams => reg.streams

@[simp] theorem tables_peers (reg : Registry) : tables reg .peers = reg.peers := rfl

@[simp] theorem tables_connections (reg : Registry) : tables reg .connections = reg.connections := rfl

@[simp] theorem tables_connStates (reg : Registry) : tables reg .connStates = reg.connStates := rfl

@[simp] theorem tables_streams (reg : Registry) : tables reg .streams = reg.streams := rfl

section Write

variable (reg : Registry) (key : String)

@[simp] theorem write_peers (value : Option ClientRef) :
    write (tables reg) .peers key value = tables { reg with peers := Function.update reg.peers key value } := by
  funext table place
  cases table <;> simp [write, tables]

@[simp] theorem write_connections (value : Option Conn) :
    write (tables reg) .connections key value =
      tables { reg with connections := Function.update reg.connections key value } := by
  funext table place
  cases table <;> simp [write, tables]

@[simp] theorem write_connStates (value : Option PeerState) :
    write (tables reg) .connStates key value =
      tables { reg with connStates := Function.update reg.connStates key value } := by
  funext table place
  cases table <;> simp [write, tables]

@[simp] theorem write_streams (value : Option ClientRef) :
    write (tables reg) .streams key value =
      tables { reg with streams := Function.update reg.streams key value } := by
  funext table place
  cases table <;> simp [write, tables]

end Write

/-! The steps of the two calls. -/

/-- One map of `resetConnMgrItemByPeerID`. -/
def moveSteps (table : Table) (address peerID : String) (found missing : Steps) : Steps :=
  .load table address fun
    | none => missing
    | some value => .put table peerID (some value) (.put table address none found)

def resetConnMgrItemByPeerIDSteps (address peerID : String) (next : Steps) : Steps :=
  moveSteps .peers address peerID
    (moveSteps .connections address peerID
      (moveSteps .connStates address peerID (moveSteps .streams address peerID next next) next) next) next

def initConnectionSteps (info : AddressInfo) (peerID : String) (conn : Conn) (next : Steps) : Steps :=
  if info.protocol ∈ ["tcp", "kcp", "udp", "quic"] then .put .connections peerID (some conn) next else next

/-- The rest of `getOrSetPeerClient`, from the lookup on. -/
def lookupSteps (fresh : ClientRef) (info : AddressInfo) (key : String) (obtained : Outcome (Option Conn)) :
    Steps :=
  .load .peers key fun
    | some _ => .done
    | none => .lock (match obtained with
        | .panic => .crash
        | .done none => .put .peers key none (.unlock .done)
        | .done (some conn) => initConnectionSteps info key conn
            (.put .peers key (some fresh) (.put .streams key (some fresh)
              (.put .connStates key (some .reachable) (.unlock .done)))))

def getOrSetPeerClientSteps (env : Env) (fresh : ClientRef) (address peerID : String)
    (conn dialed : Option Conn) : Steps :=
  match toUnifiedAddress env.resolver address with
  | none => .done
  | some unified =>
      if unified = env.address then .done
      else match parseAddress env.resolver unified with
        | none => .done
        | some info =>
            let key := keyOf address peerID
            let lookup := lookupSteps fresh info key (obtainConn env unified conn dialed)
            if unified ≠ key then resetConnMgrItemByPeerIDSteps unified key lookup else lookup

/-- One half of `RemoveEntries`, which returns if the node's own address does not
parse. -/
def removeKeySteps (env : Env) (key : String) (next : Steps) : Steps :=
  .load .connections key fun
    | none => next
    | some conn =>
        match parseAddress env.resolver env.address with
        | none => .done
        | some info =>
            if closable info.protocol conn then
              .lock (.put .peers key none (.put .connections key none (.put .streams key none
                (.put .connStates key (some .unreachable) (.unlock next)))))
            else .crash

/-- Nothing but the caller of `Close` writes the mark it looks at first. -/
def closeSteps (env : Env) : Option PeerClient → Steps
  | none => .done
  | some client =>
      if client.closed then .done
      else if client.lastAddress = "" then .done
      else removeKeySteps env client.peerID (removeKeySteps env client.lastAddress .done)

/-! One after the other, the steps are the functions. -/

def leaves : Outcome Registry → Option Tables
  | .done reg => some (tables reg)
  | .panic => none

theorem leaves_eq_some {outcome : Outcome Registry} {memory : Tables} (left : leaves outcome = some memory) :
    ∃ reg, outcome = .done reg ∧ memory = tables reg := by
  cases outcome with
  | panic => cases left
  | done reg =>
      cases left
      exact ⟨reg, rfl, rfl⟩

theorem run_resetConnMgrItemByPeerIDSteps (reg : Registry) (address peerID : String) (next : Steps) :
    run (resetConnMgrItemByPeerIDSteps address peerID next) (tables reg) =
      run next (tables (resetConnMgrItemByPeerID reg address peerID)) := by
  unfold resetConnMgrItemByPeerIDSteps resetConnMgrItemByPeerID
  cases peer : reg.peers address with
  | none => simp [moveSteps, run, peer]
  | some ref =>
      cases link : reg.connections address with
      | none => simp [moveSteps, run, peer, link, store, delete]
      | some conn =>
          cases state : reg.connStates address with
          | none => simp [moveSteps, run, peer, link, state, store, delete]
          | some status =>
              cases stream : reg.streams address <;>
                simp [moveSteps, run, peer, link, state, stream, store, delete]

theorem run_lookupSteps (reg : Registry) (info : AddressInfo) (address key : String)
    (obtained : Outcome (Option Conn)) :
    run (lookupSteps reg.clients.length info key obtained) (tables reg) =
      match reg.peers key with
      | some _ => some (tables reg)
      | none => leaves (obtained.map fun
          | none => { reg with peers := delete reg.peers key }
          | some conn => enter reg info address key conn) := by
  unfold lookupSteps
  cases held : reg.peers key with
  | some ref => simp [run, held]
  | none =>
      cases obtained with
      | panic => simp [run, held, leaves]
      | done link =>
          cases link with
          | none => simp [run, held, leaves, delete]
          | some conn =>
              by_cases known : info.protocol ∈ ["tcp", "kcp", "udp", "quic"]
              · simp only [run, tables_peers, held, initConnectionSteps, known, if_true, write_connections,
                  write_peers, write_streams, write_connStates, enter, initConnection, Outcome.done_map, leaves]
                rfl
              · simp only [run, tables_peers, held, initConnectionSteps, known, if_false, write_peers,
                  write_streams, write_connStates, enter, initConnection, Outcome.done_map, leaves]
                rfl

theorem run_getOrSetPeerClientSteps (env : Env) (reg : Registry) (address peerID : String)
    (conn dialed : Option Conn) :
    run (getOrSetPeerClientSteps env reg.clients.length address peerID conn dialed) (tables reg) =
      leaves ((getOrSetPeerClient env reg address peerID conn dialed).map (·.2)) := by
  unfold getOrSetPeerClientSteps getOrSetPeerClient
  cases toUnifiedAddress env.resolver address with
  | none => rfl
  | some unified =>
      dsimp only
      by_cases own : unified = env.address
      · simp only [own, if_true]
        rfl
      · simp only [own, if_false]
        cases parseAddress env.resolver unified with
        | none => rfl
        | some info =>
            -- The moved entries are those of `rename`, and it adds no client.
            have moved : ∀ next : Steps, run (if unified ≠ keyOf address peerID then
                resetConnMgrItemByPeerIDSteps unified (keyOf address peerID) next else next) (tables reg) =
                run next (tables (rename reg unified (keyOf address peerID))) := by
              intro next
              unfold rename
              split
              · exact run_resetConnMgrItemByPeerIDSteps ..
              · rfl
            dsimp only
            rw [moved, ← rename_clients reg unified (keyOf address peerID), run_lookupSteps _ _ unified]
            cases (rename reg unified (keyOf address peerID)).peers (keyOf address peerID) with
            | some ref =>
                dsimp only
                split <;> rfl
            | none =>
                cases obtainConn env unified conn dialed with
                | panic => rfl
                | done link => cases link <;> rfl

section Remove

variable {env : Env} {info : AddressInfo}

theorem run_removeKeySteps (parses : parseAddress env.resolver env.address = some info) (reg : Registry)
    (key : String) (next : Steps) :
    run (removeKeySteps env key next) (tables reg) =
      match removeKey env reg key with
      | .done after => run next (tables after)
      | .panic => none := by
  unfold removeKeySteps removeKey
  cases link : reg.connections key with
  | none => simp [run, link]
  | some conn =>
      by_cases closes : closable info.protocol conn
      · simp [run, link, parses, closes, deleteKey, store, delete]
      · simp [run, link, parses, closes]

theorem removeKeySteps_idle (broken : parseAddress env.resolver env.address = none) (key : String) {next : Steps}
    (idle : Idle next) : Idle (removeKeySteps env key next) := by
  intro value
  cases value with
  | none => exact idle
  | some conn => simp [broken, Idle]

theorem removeKey_broken (broken : parseAddress env.resolver env.address = none) (reg : Registry) (key : String) :
    removeKey env reg key = .done reg := by
  unfold removeKey
  cases reg.connections key with
  | none => rfl
  | some conn => simp [broken]

end Remove

theorem closeSteps_idle {env : Env} (broken : parseAddress env.resolver env.address = none)
    (client : Option PeerClient) : Idle (closeSteps env client) := by
  unfold closeSteps
  split
  · trivial
  · split
    · trivial
    · split
      · trivial
      · exact removeKeySteps_idle broken _ (removeKeySteps_idle broken _ trivial)

theorem run_closeSteps (env : Env) (reg : Registry) (ref : ClientRef) :
    run (closeSteps env reg.clients[ref]?) (tables reg) = leaves (close env reg ref) := by
  unfold close
  cases found : reg.clients[ref]? with
  | none => rfl
  | some client =>
      simp only [closeSteps]
      by_cases ended : client.closed = true
      · simp [ended, run, leaves]
      · simp only [ended, Bool.false_eq_true, if_false, removeEntries]
        by_cases nowhere : client.lastAddress = ""
        · simp only [nowhere, if_true]
          rfl
        · simp only [nowhere, if_false]
          change run _ (tables { reg with clients := reg.clients.set ref { client with closed := true } }) = _
          cases parses : parseAddress env.resolver env.address with
          | none =>
              have last : Idle (removeKeySteps env client.lastAddress .done) :=
                removeKeySteps_idle parses _ trivial
              rw [(removeKeySteps_idle parses _ last).run, removeKey_broken parses, Outcome.done_bind,
                removeKey_broken parses]
              rfl
          | some info =>
              rw [run_removeKeySteps parses]
              cases removeKey env { reg with clients := reg.clients.set ref { client with closed := true } }
                  client.peerID with
              | panic => rfl
              | done middle =>
                  rw [Outcome.done_bind]
                  dsimp only
                  rw [run_removeKeySteps parses]
                  cases removeKey env middle client.lastAddress <;> rfl

/-! The mutex is released on every way out. -/

theorem moveSteps_bracketed {table : Table} {address peerID : String} {found missing : Steps}
    (foundBracketed : Bracketed false found) (missingBracketed : Bracketed false missing) :
    Bracketed false (moveSteps table address peerID found missing) := by
  intro value
  cases value with
  | none => exact missingBracketed
  | some value => exact foundBracketed

theorem resetConnMgrItemByPeerIDSteps_bracketed {address peerID : String} {next : Steps}
    (bracketed : Bracketed false next) : Bracketed false (resetConnMgrItemByPeerIDSteps address peerID next) :=
  moveSteps_bracketed (moveSteps_bracketed (moveSteps_bracketed
    (moveSteps_bracketed bracketed bracketed) bracketed) bracketed) bracketed

theorem lookupSteps_bracketed (fresh : ClientRef) (info : AddressInfo) (key : String)
    (obtained : Outcome (Option Conn)) : Bracketed false (lookupSteps fresh info key obtained) := by
  intro value
  cases value with
  | some ref => rfl
  | none =>
      refine ⟨rfl, ?_⟩
      cases obtained with
      | panic => trivial
      | done link =>
          cases link with
          | none => exact ⟨rfl, rfl⟩
          | some conn =>
              dsimp only
              unfold initConnectionSteps
              split <;> exact ⟨rfl, rfl⟩

theorem getOrSetPeerClientSteps_bracketed (env : Env) (fresh : ClientRef) (address peerID : String)
    (conn dialed : Option Conn) : Bracketed false (getOrSetPeerClientSteps env fresh address peerID conn dialed) := by
  unfold getOrSetPeerClientSteps
  cases toUnifiedAddress env.resolver address with
  | none => rfl
  | some unified =>
      dsimp only
      split
      · rfl
      · cases parseAddress env.resolver unified with
        | none => rfl
        | some info =>
            have lookup := lookupSteps_bracketed fresh info (keyOf address peerID)
              (obtainConn env unified conn dialed)
            dsimp only
            split
            · exact resetConnMgrItemByPeerIDSteps_bracketed lookup
            · exact lookup

theorem removeKeySteps_bracketed (env : Env) (key : String) {next : Steps} (bracketed : Bracketed false next) :
    Bracketed false (removeKeySteps env key next) := by
  intro value
  cases value with
  | none => exact bracketed
  | some conn =>
      dsimp only
      cases parseAddress env.resolver env.address with
      | none => rfl
      | some info =>
          dsimp only
          split
          · exact ⟨rfl, rfl, bracketed⟩
          · trivial

theorem closeSteps_bracketed (env : Env) (client : Option PeerClient) :
    Bracketed false (closeSteps env client) := by
  unfold closeSteps
  split
  · rfl
  · split
    · rfl
    · split
      · rfl
      · exact removeKeySteps_bracketed env _ (removeKeySteps_bracketed env _ rfl)

end Carrier.RegistrySteps
