import Carrier.RegistrySteps

/-! A `getOrSetPeerClient` that moves an entry from an address to a key, and a `Close`
of the client in that entry, at the same time. The first holds `createClientMutex`,
which the second does not take; both take the mutex of the `ConnMgr`, the first only
to make a new client and the second only to delete. -/
namespace Carrier.ConcurrentClose

open GoRuntime Identity Address ConnMgr TransitionSystem AcceptLoops RegistryOps SignatureCheck Interleaving
  RegistrySteps

/-! What the calls can end with. -/

section Calls

variable (env : Env) (reg : Registry) (address peerID : String) (conn dialed : Option Conn) (ref : ClientRef)

inductive Sequential : Tables → Prop where
  | moveFirst {returned : Option ClientRef} {middle last : Registry} :
      getOrSetPeerClient env reg address peerID conn dialed = .done (returned, middle) →
      close env middle ref = .done last → Sequential (tables last)
  | closeFirst {middle last : Registry} {returned : Option ClientRef} :
      close env reg ref = .done middle →
      getOrSetPeerClient env middle address peerID conn dialed = .done (returned, last) →
      Sequential (tables last)

def together : Config Table String Cell :=
  ⟨pair (getOrSetPeerClientSteps env reg.clients.length address peerID conn dialed)
    (closeSteps env reg.clients[ref]?), tables reg, none⟩

/-- Whatever a dial answers and however the steps are interleaved, both calls return
and the maps are as after the calls one after the other. -/
def Serializable : Prop :=
  ∀ dialed, Ends (Sequential env reg address peerID conn dialed ref) (together env reg address peerID conn dialed ref)

end Calls

structure Tries (env : Env) (reg : Registry) (ref : ClientRef) (key : String) (client : PeerClient)
    (own : AddressInfo) : Prop where
  found : reg.clients[ref]? = some client
  opened : client.closed = false
  somewhere : client.lastAddress ≠ ""
  parses : parseAddress env.resolver env.address = some own
  tried : key = client.peerID ∨ key = client.lastAddress

/-- Before, during or after the move this connection is under the key. -/
def Meets (reg : Registry) (unified key place : String) (link : Conn) : Prop :=
  reg.connections place = some link ∨ (place = key ∧ reg.connections unified = some link)

/-- `Close` finds no connection under the two keys of the move, and those it finds
under others can be closed. -/
def Apart (env : Env) (reg : Registry) (ref : ClientRef) (unified key : String) : Prop :=
  ∀ place client own link, Tries env reg ref place client own → Meets reg unified key place link →
    place ≠ unified ∧ place ≠ key ∧ closable own.protocol link = true

section Tries

variable {env : Env} {reg now : Registry} {ref : ClientRef} {key : String} {client : PeerClient}
  {own : AddressInfo}

theorem Tries.removes (tries : Tries env reg ref key client own) (connected : reg.connections key ≠ none) :
    Removes env reg ref key client own :=
  ⟨tries.found, tries.opened, tries.somewhere, tries.parses, tries.tried, connected⟩

theorem tries_of_removes (removes : Removes env reg ref key client own) : Tries env reg ref key client own :=
  ⟨removes.found, removes.opened, removes.somewhere, removes.parses, removes.own⟩

theorem Tries.later (tries : Tries env reg ref key client own) (clients : now.clients = reg.clients) :
    Tries env now ref key client own :=
  ⟨clients ▸ tries.found, tries.opened, tries.somewhere, tries.parses, tries.tried⟩

theorem Tries.deleted {after : Registry} (tries : Tries env reg ref key client own)
    (closed : close env now ref = .done after) (clients : now.clients = reg.clients)
    (connected : now.connections key ≠ none) : DeletedAt after key :=
  ((tries.later clients).removes connected).deleted closed

end Tries

section Moving

variable {env : Env} {reg : Registry} {address peerID unified : String} {info : AddressInfo} {ref : ClientRef}

theorem call_of_moves (moves : Moves env reg address peerID unified info) (stored : reg.peers unified = some ref)
    (conn dialed : Option Conn) : ∃ returned, getOrSetPeerClient env reg address peerID conn dialed =
      .done (returned, rename reg unified (keyOf address peerID)) := by
  have held : (rename reg unified (keyOf address peerID)).peers (keyOf address peerID) = some ref := by
    rw [rename_peers_key, stored, Option.some_or]
  simp only [getOrSetPeerClient, moves.accepted.unifies, moves.accepted.other, moves.accepted.parses,
    if_false, held]
  split
  · exact ⟨_, rfl⟩
  · exact ⟨_, rfl⟩

theorem steps_of_moves (moves : Moves env reg address peerID unified info) (fresh : ClientRef)
    (conn dialed : Option Conn) :
    getOrSetPeerClientSteps env fresh address peerID conn dialed =
      resetConnMgrItemByPeerIDSteps unified (keyOf address peerID)
        (lookupSteps fresh info (keyOf address peerID) (obtainConn env unified conn dialed)) := by
  simp [getOrSetPeerClientSteps, moves.accepted.unifies, moves.accepted.other, moves.accepted.parses, moves.apart]

end Moving

theorem rename_meets {reg : Registry} (linked : Linked reg) {unified key place : String} {link : Conn}
    (held : (rename reg unified key).connections place = some link) : Meets reg unified key place link := by
  rcases linked.rename_cases unified key with ⟨same, _⟩ | ⟨_, _, _, half⟩ | ⟨apart, _, connected, whole⟩
  · rw [same] at held
    exact Or.inl held
  · rw [half] at held
    exact Or.inl held
  · rw [whole] at held
    rcases (move_eq_some _ apart connected).mp held with moved | ⟨_, _, kept⟩
    · exact Or.inr moved
    · exact Or.inl kept

section Closing

variable {env : Env} {reg next : Registry} {ref : ClientRef}

theorem removeKey_done {key : String}
    (closes : ∀ own link, parseAddress env.resolver env.address = some own → reg.connections key = some link →
      closable own.protocol link = true) : ∃ next, removeKey env reg key = .done next := by
  unfold removeKey
  cases held : reg.connections key with
  | none => exact ⟨reg, rfl⟩
  | some link =>
      cases parses : parseAddress env.resolver env.address with
      | none => exact ⟨reg, rfl⟩
      | some own => exact ⟨deleteKey reg key, by simp [closes own link parses held]⟩

theorem closable_of_removeKey {key : String} {own : AddressInfo} {link : Conn}
    (removed : removeKey env reg key = .done next) (parses : parseAddress env.resolver env.address = some own)
    (held : reg.connections key = some link) : closable own.protocol link = true := by
  simp only [removeKey, held, parses] at removed
  split at removed
  · assumption
  · cases removed

theorem close_done (closes : ∀ place client own link, Tries env reg ref place client own →
      reg.connections place = some link → closable own.protocol link = true) :
    ∃ last, close env reg ref = .done last := by
  unfold close
  cases found : reg.clients[ref]? with
  | none => exact ⟨reg, rfl⟩
  | some client =>
      cases ended : client.closed with
      | true => exact ⟨reg, by simp [ended]⟩
      | false =>
          simp only [ended, Bool.false_eq_true, if_false, removeEntries]
          split
          · exact ⟨_, rfl⟩
          · rename_i somewhere
            have tries : ∀ {place own}, parseAddress env.resolver env.address = some own →
                (place = client.peerID ∨ place = client.lastAddress) → Tries env reg ref place client own :=
              fun parses tried => ⟨found, ended, somewhere, parses, tried⟩
            generalize marked : ({ reg with clients := _ } : Registry) = opened
            have connections : opened.connections = reg.connections := by rw [← marked]
            obtain ⟨middle, first⟩ : ∃ middle, removeKey env opened client.peerID = .done middle :=
              removeKey_done fun own link parses held =>
                closes _ client own link (tries parses (Or.inl rfl)) (connections ▸ held)
            obtain ⟨last, second⟩ : ∃ last, removeKey env middle client.lastAddress = .done last := by
              apply removeKey_done
              intro own link parses held
              rcases removeKey_at first client.lastAddress with ⟨_, _, _, deleted⟩ | ⟨_, same⟩
              · rw [deleted.2.1] at held
                cases held
              · rw [same.2.1, connections] at held
                exact closes _ client own link (tries parses (Or.inr rfl)) held
            exact ⟨last, by rw [first, Outcome.done_bind, second]⟩

theorem Tries.closable {place : String} {client : PeerClient} {own : AddressInfo} {link : Conn}
    (tries : Tries env reg ref place client own) (held : reg.connections place = some link)
    (closed : close env reg ref = .done next) : ConnMgr.closable own.protocol link = true := by
  rcases close_cases closed with ⟨none, _, _⟩ |
      ⟨other, opened, middle, found, _, _, marked, first, second, _⟩
  · exact absurd (tries.removes (by simp [held])) (none place client own)
  · obtain rfl : client = other := Option.some.inj (tries.found.symm.trans found)
    have before : opened.connections place = some link := (marked place).2.1.trans held
    rcases tries.tried with rfl | rfl
    · exact closable_of_removeKey first tries.parses before
    · rcases removeKey_at first client.lastAddress with ⟨same, _, _, _⟩ | ⟨_, same⟩
      · exact closable_of_removeKey first tries.parses (same ▸ before)
      · exact closable_of_removeKey second tries.parses (same.2.1.trans before)

end Closing

/-! Where the steps load and store. -/

theorem moveSteps_confined {Loads Stores : Table → String → Prop} {table : Table} {address peerID : String}
    {found missing : Steps} (loads : Loads table address) (new : Stores table peerID) (old : Stores table address)
    (foundConfined : Confined Loads Stores found) (missingConfined : Confined Loads Stores missing) :
    Confined Loads Stores (moveSteps table address peerID found missing) := by
  refine ⟨loads, fun value => ?_⟩
  cases value with
  | none => exact missingConfined
  | some value => exact ⟨new, old, foundConfined⟩

theorem lookupSteps_confined {Loads Stores : Table → String → Prop} (fresh : ClientRef) (info : AddressInfo)
    {key : String} (obtained : Outcome (Option Conn)) (loads : Loads .peers key)
    (stores : ∀ table, Stores table key) : Confined Loads Stores (lookupSteps fresh info key obtained) := by
  refine ⟨loads, fun value => ?_⟩
  cases value with
  | some ref => trivial
  | none =>
      cases obtained with
      | panic => trivial
      | done link =>
          cases link with
          | none => exact ⟨stores _, trivial⟩
          | some conn =>
              dsimp only [Confined]
              unfold initConnectionSteps
              split
              · exact ⟨stores _, stores _, stores _, stores _, trivial⟩
              · exact ⟨stores _, stores _, stores _, trivial⟩

theorem move_confined (fresh : ClientRef) (info : AddressInfo) (unified key : String)
    (obtained : Outcome (Option Conn)) :
    Confined (fun _ place => place = unified ∨ place = key) (fun _ place => place = unified ∨ place = key)
      (resetConnMgrItemByPeerIDSteps unified key (lookupSteps fresh info key obtained)) := by
  generalize within : (fun (_ : Table) place => place = unified ∨ place = key) = Within
  have old : ∀ table, Within table unified := fun table => within ▸ Or.inl rfl
  have new : ∀ table, Within table key := fun table => within ▸ Or.inr rfl
  have lookup : Confined Within Within (lookupSteps fresh info key obtained) :=
    lookupSteps_confined fresh info obtained (new _) new
  have moved : ∀ table {found missing : Steps}, Confined Within Within found → Confined Within Within missing →
      Confined Within Within (moveSteps table unified key found missing) :=
    fun table _ _ => moveSteps_confined (old table) (new table) (old table)
  exact moved _ (moved _ (moved _ (moved _ lookup lookup) lookup) lookup) lookup

theorem move_writes_connections {reg : Registry} {unified key place : String} {ref fresh : ClientRef}
    {info : AddressInfo} {obtained : Outcome (Option Conn)} (apart : unified ≠ key)
    (stored : reg.peers unified = some ref)
    (written : Writes (resetConnMgrItemByPeerIDSteps unified key (lookupSteps fresh info key obtained))
      (tables reg) .connections place) : reg.connections unified ≠ none := by
  intro missing
  simp [resetConnMgrItemByPeerIDSteps, moveSteps, Writes, stored, missing, lookupSteps,
    Function.update_of_ne (Ne.symm apart)] at written

theorem removeKeySteps_writes {env : Env} {key place : String} {next : Steps} {memory : Tables} {table : Table}
    (written : Writes (removeKeySteps env key next) memory table place) :
    (place = key ∧ memory .connections key ≠ none) ∨
    ∃ after : Tables, (∀ other, after .connections other ≠ none → memory .connections other ≠ none) ∧
      Writes next after table place := by
  simp only [removeKeySteps, Writes] at written
  cases held : memory .connections key with
  | none =>
      simp only [held] at written
      exact Or.inr ⟨memory, fun _ connected => connected, written⟩
  | some link =>
      simp only [held] at written
      cases parses : parseAddress env.resolver env.address with
      | none => simp [parses, Writes] at written
      | some own =>
          simp only [parses] at written
          split at written
          · simp only [Writes] at written
            rcases written with ⟨_, here⟩ | ⟨_, here⟩ | ⟨_, here⟩ | ⟨_, here⟩ | later
            · exact Or.inl ⟨here, by simp⟩
            · exact Or.inl ⟨here, by simp⟩
            · exact Or.inl ⟨here, by simp⟩
            · exact Or.inl ⟨here, by simp⟩
            · refine Or.inr ⟨_, fun other connected => ?_, later⟩
              by_cases here : other = key
              · simp [here, write] at connected
              · simpa [here, write] using connected
          · exact written.elim

theorem closeSteps_cases {env : Env} {own : AddressInfo} (parses : parseAddress env.resolver env.address = some own)
    (reg : Registry) (ref : ClientRef) :
    closeSteps env reg.clients[ref]? = .done ∨
    ∃ client,
      (∀ place, (place = client.peerID ∨ place = client.lastAddress) → Tries env reg ref place client own) ∧
      closeSteps env reg.clients[ref]? =
        removeKeySteps env client.peerID (removeKeySteps env client.lastAddress .done) := by
  cases found : reg.clients[ref]? with
  | none => exact Or.inl rfl
  | some client =>
      cases opened : client.closed with
      | true => exact Or.inl (by simp [closeSteps, opened])
      | false =>
          by_cases somewhere : client.lastAddress = ""
          · exact Or.inl (by simp [closeSteps, somewhere])
          · exact Or.inr ⟨client, fun place tried => ⟨found, opened, somewhere, parses, tried⟩,
              by simp [closeSteps, opened, somewhere]⟩

theorem closeSteps_writes {env : Env} {reg : Registry} {ref : ClientRef} {own : AddressInfo} {table : Table}
    {place : String} (parses : parseAddress env.resolver env.address = some own)
    (written : Writes (closeSteps env reg.clients[ref]?) (tables reg) table place) :
    ∃ client, Tries env reg ref place client own ∧ reg.connections place ≠ none := by
  rcases closeSteps_cases parses reg ref with nothing | ⟨client, tries, steps⟩
  · rw [nothing] at written
    exact written.elim
  · rw [steps] at written
    rcases removeKeySteps_writes written with ⟨rfl, connected⟩ | ⟨after, fewer, later⟩
    · exact ⟨client, tries _ (Or.inl rfl), connected⟩
    · rcases removeKeySteps_writes later with ⟨rfl, connected⟩ | ⟨_, _, impossible⟩
      · exact ⟨client, tries _ (Or.inr rfl), fewer _ connected⟩
      · exact impossible.elim

theorem removeKeySteps_confined {Loads : Table → String → Prop} (env : Env) {key : String} {next : Steps}
    (loads : Loads .connections key) (confined : Confined Loads (fun _ _ => True) next) :
    Confined Loads (fun _ _ => True) (removeKeySteps env key next) := by
  refine ⟨loads, fun value => ?_⟩
  cases value with
  | none => exact confined
  | some link =>
      dsimp only
      cases parseAddress env.resolver env.address with
      | none => trivial
      | some own =>
          dsimp only
          split
          · exact ⟨trivial, trivial, trivial, trivial, confined⟩
          · trivial

theorem closeSteps_reads {env : Env} {reg : Registry} {ref : ClientRef} {own : AddressInfo} {table : Table}
    {place : String} {memory : Tables} (parses : parseAddress env.resolver env.address = some own)
    (read : Reads (closeSteps env reg.clients[ref]?) memory table place) :
    table = .connections ∧ ∃ client, Tries env reg ref place client own := by
  rcases closeSteps_cases parses reg ref with nothing | ⟨client, tries, steps⟩
  · rw [nothing] at read
    exact read.elim
  · rw [steps] at read
    have confined : Confined
        (fun table place => table = .connections ∧ ∃ client, Tries env reg ref place client own)
        (fun _ _ => True) (removeKeySteps env client.peerID (removeKeySteps env client.lastAddress .done)) :=
      removeKeySteps_confined env ⟨rfl, client, tries _ (Or.inl rfl)⟩
        (removeKeySteps_confined env ⟨rfl, client, tries _ (Or.inr rfl)⟩ trivial)
    exact confined.reads read

/-! Apart, the calls do not notice each other. -/

section Apart

variable {env : Env} {reg : Registry} {address peerID unified : String} {info : AddressInfo}
  {conn : Option Conn} {ref : ClientRef}

theorem Apart.independent (apart : Apart env reg ref unified (keyOf address peerID))
    (moves : Moves env reg address peerID unified info) (stored : reg.peers unified = some ref)
    {own : AddressInfo} (parses : parseAddress env.resolver env.address = some own) (dialed : Option Conn) :
    Independent (getOrSetPeerClientSteps env reg.clients.length address peerID conn dialed)
      (closeSteps env reg.clients[ref]?) (tables reg) := by
  rw [steps_of_moves moves]
  have confined := move_confined reg.clients.length info unified (keyOf address peerID)
    (obtainConn env unified conn dialed)
  -- A key that `Close` deletes under is none of the two.
  have elsewhere : ∀ {table place}, Writes (closeSteps env reg.clients[ref]?) (tables reg) table place →
      ¬ (place = unified ∨ place = keyOf address peerID) := by
    intro table place written
    obtain ⟨client, tries, connected⟩ := closeSteps_writes parses written
    obtain ⟨link, held⟩ := Option.ne_none_iff_exists'.mp connected
    obtain ⟨notOld, notNew, _⟩ := apart place client own link tries (Or.inl held)
    exact fun here => here.elim notOld notNew
  constructor
  · intro table place written
    refine ⟨fun read => ?_, fun deleted => elsewhere deleted (confined.writes written)⟩
    obtain ⟨rfl, client, tries⟩ := closeSteps_reads parses read
    obtain ⟨link, held⟩ := Option.ne_none_iff_exists'.mp (move_writes_connections moves.apart stored written)
    rcases confined.writes written with rfl | rfl
    · exact (apart _ client own link tries (Or.inl held)).1 rfl
    · exact (apart _ client own link tries (Or.inr ⟨rfl, held⟩)).2.1 rfl
  · intro table place deleted
    exact ⟨fun read => elsewhere deleted (confined.reads read),
      fun written => elsewhere deleted (confined.writes written)⟩

theorem Apart.serializable (apart : Apart env reg ref unified (keyOf address peerID)) (linked : Linked reg)
    (moves : Moves env reg address peerID unified info) (stored : reg.peers unified = some ref) :
    Serializable env reg address peerID conn ref := by
  intro dialed
  obtain ⟨returned, called⟩ := call_of_moves moves stored conn dialed
  have clients := rename_clients reg unified (keyOf address peerID)
  obtain ⟨last, closed⟩ : ∃ last, close env (rename reg unified (keyOf address peerID)) ref = .done last := by
    apply close_done
    intro place client own link tries held
    exact (apart place client own link (tries.later clients.symm) (rename_meets linked held)).2.2
  have initial : Serial (tables last) (together env reg address peerID conn dialed ref) := by
    refine ⟨fun side => ?_, ?_, ?_⟩
    · cases side with
      | first => exact getOrSetPeerClientSteps_bracketed ..
      | second => exact closeSteps_bracketed ..
    · cases parses : parseAddress env.resolver env.address with
      | none => exact Or.inl (closeSteps_idle parses _)
      | some own => exact Or.inr (apart.independent moves stored parses dialed)
    · change (run (getOrSetPeerClientSteps env reg.clients.length address peerID conn dialed) (tables reg)).bind
        (run (closeSteps env reg.clients[ref]?)) = some (tables last)
      rw [run_getOrSetPeerClientSteps, called, Outcome.done_map, leaves, Option.bind_some, ← clients,
        run_closeSteps, closed, leaves]
  exact initial.ends.mono fun memory same => same ▸ .moveFirst called closed

end Apart

/-! Not apart, `Close` can come between two steps of the move. -/

section Between

variable {env : Env} {reg : Registry} {address peerID unified : String} {info own : AddressInfo}
  {conn : Option Conn} {ref : ClientRef} {client : PeerClient}

/-- The steps of `Close` are all taken at one point, and the move then goes on. -/
theorem close_between {Allowed : Tables → Prop} {rest : Steps} {now : Registry}
    (ends : Ends Allowed ⟨pair rest (closeSteps env reg.clients[ref]?), tables now, none⟩)
    (clients : now.clients = reg.clients) (bracketed : Bracketed false rest) :
    ∃ after final, close env now ref = .done after ∧ run rest (tables after) = some final ∧ Allowed final := by
  obtain ⟨memory, ran, remaining⟩ := ends.run_second (closeSteps_bracketed ..)
  rw [← clients, run_closeSteps] at ran
  obtain ⟨after, closed, rfl⟩ := leaves_eq_some ran
  obtain ⟨final, ranOn, allowed⟩ := remaining.run_first bracketed
  exact ⟨after, final, closed, ranOn, allowed⟩

theorem start_of_moves (serializable : Serializable env reg address peerID conn ref)
    (moves : Moves env reg address peerID unified info) (dialed : Option Conn) :
    Ends (Sequential env reg address peerID conn dialed ref)
      ⟨pair (resetConnMgrItemByPeerIDSteps unified (keyOf address peerID)
        (lookupSteps reg.clients.length info (keyOf address peerID) (obtainConn env unified conn dialed)))
        (closeSteps env reg.clients[ref]?), tables reg, none⟩ := by
  rw [← steps_of_moves moves]
  exact serializable dialed

theorem closed_length {after : Registry} (closed : close env reg ref = .done after) :
    after.clients.length = reg.clients.length := by
  simpa using congrArg List.length (close_ids closed)

theorem rename_of_called {returned : Option ClientRef} {next : Registry} {dialed : Option Conn}
    (moves : Moves env reg address peerID unified info) (stored : reg.peers unified = some ref)
    (called : getOrSetPeerClient env reg address peerID conn dialed = .done (returned, next)) :
    next = rename reg unified (keyOf address peerID) := by
  obtain ⟨again, expected⟩ := call_of_moves moves stored conn dialed
  rw [called] at expected
  exact (Prod.mk.inj (Outcome.done.inj expected)).2

/-- A `Close` that deletes the address before the move leaves the client nowhere. -/
theorem closed_first_forgets {middle last : Registry} {returned : Option ClientRef} {dialed : Option Conn}
    (reachable : Reachable env reg) (moves : Moves env reg address peerID unified info)
    (stored : reg.peers unified = some ref) (closed : close env reg ref = .done middle)
    (deleted : middle.peers unified = none)
    (called : getOrSetPeerClient env middle address peerID conn dialed = .done (returned, last)) :
    last.peers (keyOf address peerID) ≠ some ref := by
  have absent : middle.peers (keyOf address peerID) ≠ some ref := by
    intro held
    rcases close_at closed (keyOf address peerID) with ⟨_, gone⟩ | ⟨_, same⟩
    · rw [gone.1] at held
      cases held
    · rw [same.1] at held
      exact moves.apart (reachable.indexed.injective _ _ ref stored held)
  have linked : Linked middle := (reachable.perform (.close ref) closed).linked
  cases linked.registered called with
  | unchanged => exact absent
  | half again => exact absurd deleted ((moves.accepted.unique again.accepted).1 ▸ again.present)
  | moved again => exact absurd deleted ((moves.accepted.unique again.accepted).1 ▸ again.present)
  | created creates =>
      have inside := reachable.indexed.inside unified ref stored
      rw [enter_peers]
      simp only [store, Function.update_self, closed_length closed]
      intro same
      exact absurd (Option.some.inj same) (Nat.ne_of_gt inside)

/-- With the address deleted in between, the client goes to the key and the state of
the address stays. -/
theorem address_unconnected (serializable : Serializable env reg address peerID conn ref)
    (reachable : Reachable env reg) (moves : Moves env reg address peerID unified info)
    (stored : reg.peers unified = some ref) (tries : Tries env reg ref unified client own) :
    reg.connections unified = none := by
  by_contra connected
  have notKey : keyOf address peerID ≠ unified := Ne.symm moves.apart
  have lookup := lookupSteps_bracketed reg.clients.length info (keyOf address peerID)
    (obtainConn env unified conn none)
  -- The client has been loaded from under the address.
  have loaded := (start_of_moves serializable moves none).load
  simp only [tables_peers, stored] at loaded
  obtain ⟨after, final, closed, ranOn, sequential⟩ := close_between loaded rfl
    (moveSteps_bracketed (moveSteps_bracketed (moveSteps_bracketed lookup lookup) lookup) lookup)
  have deleted : DeletedAt after unified := tries.deleted closed rfl connected
  -- It is now stored under the key, where the lookup finds it.
  have mixed : final .peers (keyOf address peerID) = some ref ∧
      final .connStates unified = some .unreachable := by
    simp [run, moveSteps, deleted.2.1, lookupSteps, notKey] at ranOn
    rw [← ranOn]
    exact ⟨by simp [notKey], deleted.2.2.1⟩
  cases sequential with
  | @moveFirst returned middle last called closedThen =>
      have moved : middle = moveEntry reg unified (keyOf address peerID) := by
        rw [rename_of_called moves stored called, reachable.linked.rename_connected moves.apart connected]
      have kept : SameAt middle last unified := by
        apply same_of_kept closedThen
        rw [moved]
        exact fun _ _ removes => removes.connected (move_old _)
      have state : last.connStates unified = none := by
        rw [kept.2.2.1, moved]
        exact move_old _
      rw [tables_connStates, state] at mixed
      cases mixed.2
  | @closeFirst middle last returned closedFirst called =>
      obtain rfl : after = middle := Outcome.done.inj (closed.symm.trans closedFirst)
      exact closed_first_forgets reachable moves stored closed deleted.1 called mixed.1

theorem lookup_free {fresh : ClientRef} {key : String} {obtained : Outcome (Option Conn)} {now : Registry}
    {final : Tables} (ran : run (lookupSteps fresh info key obtained) (tables now) = some final)
    (free : now.peers key = none) :
    (obtained = .done none ∧ final .peers key = none ∧ final .streams key = now.streams key) ∨
    (final .peers key = some fresh ∧ final .streams key = some fresh) := by
  simp only [lookupSteps, run, tables_peers, free] at ran
  cases obtained with
  | panic => cases ran
  | done link =>
      cases link with
      | none =>
          simp only [run, write_peers, Option.some.injEq] at ran
          subst ran
          exact Or.inl ⟨rfl, by simp, rfl⟩
      | some link =>
          simp only [initConnectionSteps] at ran
          split at ran
          · simp only [run, write_connections, write_peers, write_streams, write_connStates,
              Option.some.injEq] at ran
            subst ran
            exact Or.inr ⟨by simp, by simp⟩
          · simp only [run, write_peers, write_streams, write_connStates, Option.some.injEq] at ran
            subst ran
            exact Or.inr ⟨by simp, by simp⟩

theorem sequential_key {dialed : Option Conn} {final : Tables}
    (sequential : Sequential env reg address peerID conn dialed ref final)
    (moves : Moves env reg address peerID unified info) (stored : reg.peers unified = some ref)
    (tries : Tries env reg ref (keyOf address peerID) client own)
    (connected : (rename reg unified (keyOf address peerID)).connections (keyOf address peerID) ≠ none)
    (kept : ∀ client own, ¬ Removes env reg ref unified client own) :
    (final .peers (keyOf address peerID) = none ∧ final .streams (keyOf address peerID) = none) ∨
    final .peers (keyOf address peerID) = some ref := by
  cases sequential with
  | @moveFirst returned middle last called closed =>
      obtain rfl := rename_of_called moves stored called
      have deleted := tries.deleted closed (rename_clients ..) connected
      exact Or.inl ⟨deleted.1, deleted.2.2.2⟩
  | @closeFirst middle last returned closed called =>
      have present : middle.peers unified = some ref := (same_of_kept closed kept).1.trans stored
      have again : Moves env middle address peerID unified info :=
        ⟨moves.accepted, moves.apart, by simp [present]⟩
      rw [rename_of_called again present called, tables_peers, rename_peers_key, present, Option.some_or]
      exact Or.inr rfl

/-- With the key deleted after the connection has come there, the stream comes to an
empty key. -/
theorem address_unconnected_of_key (serializable : Serializable env reg address peerID conn ref)
    (reachable : Reachable env reg) (moves : Moves env reg address peerID unified info)
    (stored : reg.peers unified = some ref) (tries : Tries env reg ref (keyOf address peerID) client own) :
    reg.connections unified = none := by
  by_contra connected
  have notKey : keyOf address peerID ≠ unified := Ne.symm moves.apart
  obtain ⟨link, held⟩ := Option.ne_none_iff_exists'.mp connected
  obtain ⟨_, stated, streamed⟩ := reachable.linked unified connected
  obtain ⟨state, stateHeld⟩ := Option.ne_none_iff_exists'.mp stated
  obtain ⟨stream, streamHeld⟩ := Option.ne_none_iff_exists'.mp streamed
  have untried : ∀ other own, ¬ Tries env reg ref unified other own := fun other own tried =>
    connected (address_unconnected serializable reachable moves stored tried)
  have lookup := lookupSteps_bracketed reg.clients.length info (keyOf address peerID)
    (obtainConn env unified conn none)
  -- The client is under the key, and the connection is under both.
  have copied := (start_of_moves serializable moves none).load
  simp only [tables_peers, stored] at copied
  have loaded := copied.put.put.load
  simp only [write_peers, tables_connections, held] at loaded
  have both := loaded.put
  simp only [write_connections] at both
  obtain ⟨after, final, closed, ranOn, sequential⟩ := close_between both rfl
    (moveSteps_bracketed (moveSteps_bracketed lookup lookup) lookup)
  have deleted : DeletedAt after (keyOf address peerID) := tries.deleted closed rfl (by simp)
  have same : after.connStates unified = some state ∧ after.streams unified = some stream := by
    have kept := same_of_kept closed fun other own removes =>
      untried other own ((tries_of_removes removes).later rfl)
    exact ⟨kept.2.2.1.trans stateHeld, kept.2.2.2.trans streamHeld⟩
  -- The state and the stream follow, and the lookup finds no client.
  simp only [run, moveSteps, write_connections, tables_connStates, same.1, write_connStates, tables_streams,
    same.2, write_streams] at ranOn
  have mixed : final .peers (keyOf address peerID) ≠ some ref ∧ final .streams (keyOf address peerID) ≠ none := by
    rcases lookup_free ranOn deleted.1 with ⟨_, gone, kept⟩ | ⟨peers, streams⟩
    · simp [gone, kept, notKey]
    · have inside := reachable.indexed.inside unified ref stored
      simp [peers, streams, Nat.ne_of_gt inside]
  have moved : (rename reg unified (keyOf address peerID)).connections (keyOf address peerID) ≠ none := by
    rw [reachable.linked.rename_connected moves.apart connected]
    simp [moveEntry, move_new _ moves.apart, held]
  have kept : ∀ other own, ¬ Removes env reg ref unified other own := fun other own removes =>
    untried other own (tries_of_removes removes)
  rcases sequential_key sequential moves stored tries moved kept with ⟨_, streams⟩ | peers
  · exact mixed.2 streams
  · exact mixed.1 peers

theorem obtained_of_dialled (moves : Moves env reg address peerID unified info)
    (parses : parseAddress env.resolver env.address = some own) (link : Conn) :
    obtainConn env unified conn (some link) ≠ .done none := by
  unfold obtainConn
  cases conn.filter fun conn => conn.kind ≠ .udp with
  | some given => simp
  | none =>
      simp only [dial, moves.accepted.parses, parses]
      by_cases carried : info.protocol ∉ env.transports ∨ info.protocol = "quic"
      · simp [carried]
      · simp [carried]

/-- With the key deleted after the client has come there, the key gets a new client. -/
theorem key_unconnected (serializable : Serializable env reg address peerID conn ref)
    (reachable : Reachable env reg) (moves : Moves env reg address peerID unified info)
    (stored : reg.peers unified = some ref) (tries : Tries env reg ref (keyOf address peerID) client own) :
    reg.connections (keyOf address peerID) = none := by
  by_contra connected
  have missing := address_unconnected_of_key serializable reachable moves stored tries
  have kept : ∀ other own, ¬ Removes env reg ref unified other own := fun other own removes =>
    removes.connected missing
  have notKey : keyOf address peerID ≠ unified := Ne.symm moves.apart
  have lookup := lookupSteps_bracketed reg.clients.length info (keyOf address peerID)
    (obtainConn env unified conn (some ⟨.net, 0⟩))
  -- The client is under both keys.
  have copied := (start_of_moves serializable moves (some ⟨.net, 0⟩)).load
  simp only [tables_peers, stored] at copied
  have both := copied.put
  simp only [write_peers] at both
  obtain ⟨after, final, closed, ranOn, sequential⟩ := close_between both rfl
    (moveSteps_bracketed (moveSteps_bracketed (moveSteps_bracketed lookup lookup) lookup) lookup)
  have deleted : DeletedAt after (keyOf address peerID) := tries.deleted closed rfl connected
  have same : after.connections unified = none :=
    (same_of_kept closed fun _ _ removes => removes.connected missing).2.1.trans missing
  simp only [run, moveSteps, write_peers, tables_connections, same] at ranOn
  have fresh : final .peers (keyOf address peerID) = some reg.clients.length := by
    have free : Function.update after.peers unified none (keyOf address peerID) = none := by
      rw [Function.update_of_ne notKey, deleted.1]
    rcases lookup_free ranOn free with ⟨undialled, _⟩ | ⟨peers, _⟩
    · exact absurd undialled (obtained_of_dialled moves tries.parses ⟨.net, 0⟩)
    · exact peers
  have half : (rename reg unified (keyOf address peerID)).connections (keyOf address peerID) ≠ none := by
    rwa [reachable.linked.rename_unconnected missing]
  rcases sequential_key sequential moves stored tries half kept with ⟨peers, _⟩ | peers
  · rw [fresh] at peers
    cases peers
  · rw [fresh] at peers
    exact absurd (reachable.indexed.inside unified ref stored) (by simp [Option.some.inj peers])

/-- However the two calls are interleaved they end like one after the other, exactly
if `Close` has nothing to do under the keys of the move. -/
theorem interleavings_sequential_iff (reachable : Reachable env reg)
    (moves : Moves env reg address peerID unified info) (stored : reg.peers unified = some ref) :
    Serializable env reg address peerID conn ref ↔ Apart env reg ref unified (keyOf address peerID) := by
  constructor
  · intro serializable place client own link tries meets
    have away : place ≠ unified ∧ place ≠ keyOf address peerID := by
      constructor
      · rintro rfl
        have missing := address_unconnected serializable reachable moves stored tries
        rcases meets with held | ⟨same, _⟩
        · rw [missing] at held
          cases held
        · exact moves.apart same
      · rintro rfl
        rcases meets with held | ⟨_, held⟩
        · rw [key_unconnected serializable reachable moves stored tries] at held
          cases held
        · rw [address_unconnected_of_key serializable reachable moves stored tries] at held
          cases held
    have held : reg.connections place = some link := meets.resolve_right fun here => away.2 here.1
    -- Run from the start, `Close` does not fail.
    obtain ⟨after, _, closed, _⟩ := close_between (serializable none) rfl (getOrSetPeerClientSteps_bracketed ..)
    exact ⟨away.1, away.2, tries.closable held closed⟩
  · intro apart
    exact apart.serializable reachable.linked moves stored

end Between

/-- A peer without a key, at an address with another scheme. -/
def keyless : ID := { neighbour [2] with netKey := some [], address := "http://b:1" }

/-- Beside a neighbour, a peer without a key is registered under its address and gets no
connection there. Its next message has a key, and its client is closed meanwhile. -/
theorem interleavings_sequential_iff_keyless : ∃ world,
    Run (fun before event after => step wideNode before event = .done after) start
      [.message accepted (inputOf (neighbour [1]) none),
        .message { accepted with incoming := ⟨.net, 1⟩ } (inputOf keyless none)] world ∧
    world.reg.peers "http://b:1" = some 1 ∧ world.reg.connections "01" = some ⟨.net, 0⟩ ∧
    Serializable wideEnv world.reg "http://b:1" "02" (some ⟨.net, 1⟩) 1 := by
  obtain ⟨world, client, run, stored, found, peerID, lastAddress, connections⟩ : ∃ world client,
      Run (fun before event after => step wideNode before event = .done after) start
        [.message accepted (inputOf (neighbour [1]) none),
          .message { accepted with incoming := ⟨.net, 1⟩ } (inputOf keyless none)] world ∧
      world.reg.peers "http://b:1" = some 1 ∧ world.reg.clients[1]? = some client ∧ client.peerID = "" ∧
      client.lastAddress = "http://b:1" ∧ world.reg.connections = store (fun _ => none) "01" ⟨.net, 0⟩ :=
    ⟨_, _, .cons rfl (.cons rfl (.nil _)), rfl, rfl, rfl, rfl, rfl⟩
  have moves : Moves wideEnv world.reg "http://b:1" "02" "http://b:1" ⟨"http", "b", 1⟩ :=
    ⟨⟨by decide, by decide, by decide⟩, by decide, by simp [stored]⟩
  refine ⟨world, run, stored, by simp [connections, store], ?_⟩
  have reachable : Reachable wideEnv world.reg := reachable_of_run run
  rw [interleavings_sequential_iff reachable moves stored]
  -- Neither key of the client has a connection, nor will the key of the move have one.
  intro place other own link tries meets
  obtain rfl : other = client := Option.some.inj (tries.found.symm.trans found)
  have key : keyOf "http://b:1" "02" = "02" := by decide
  have tried := tries.tried
  rw [peerID, lastAddress] at tried
  rw [key] at meets
  rcases tried with rfl | rfl <;> simp [Meets, connections, store] at meets

/-- The entry is loaded, the client is closed, and the client is then stored under
the key, with no connection there. -/
theorem interleaving_not_sequential : ∃ reg reached, Run (Performs localNode.env) emptyRegistry
      [.register "tcp://b:1" "" (some ⟨.net, 0⟩) none] reg ∧
    Moves localNode.env reg "tcp://b:1" "01" "tcp://b:1" ⟨"tcp", "b", 1⟩ ∧ reg.peers "tcp://b:1" = some 0 ∧
    play (.first :: (List.replicate 8 .second ++ List.replicate 4 .first))
      (together localNode.env reg "tcp://b:1" "01" none none 0) = some reached ∧ Finished reached ∧
    reached.memory .peers "01" = some (0 : Nat) ∧ reached.memory .connections "01" = none ∧
    ¬ Sequential localNode.env reg "tcp://b:1" "01" none none 0 reached.memory := by
  obtain ⟨reg, reached, run, stored, played, first, second, peers, connections, connStates, moveFirst, closeFirst⟩ :
      ∃ reg reached, Run (Performs localNode.env) emptyRegistry
        [.register "tcp://b:1" "" (some ⟨.net, 0⟩) none] reg ∧ reg.peers "tcp://b:1" = some 0 ∧
      play (.first :: (List.replicate 8 .second ++ List.replicate 4 .first))
        (together localNode.env reg "tcp://b:1" "01" none none 0) = some reached ∧
      reached.programs .first = .done ∧ reached.programs .second = .done ∧
      reached.memory .peers "01" = some (0 : Nat) ∧ reached.memory .connections "01" = none ∧
      reached.memory .connStates "tcp://b:1" = some PeerState.unreachable ∧
      (∃ returned middle last, getOrSetPeerClient localNode.env reg "tcp://b:1" "01" none none =
        .done (returned, middle) ∧ close localNode.env middle 0 = .done last ∧
        last.connStates "tcp://b:1" = none) ∧
      ∃ middle returned last, close localNode.env reg 0 = .done middle ∧
        getOrSetPeerClient localNode.env middle "tcp://b:1" "01" none none = .done (returned, last) ∧
        last.peers "01" = none :=
    ⟨_, _, .cons rfl (.nil _), rfl, rfl, rfl, rfl, rfl, rfl, rfl, ⟨_, _, _, rfl, rfl, rfl⟩, _, _, _, rfl, rfl, rfl⟩
  have moves : Moves localNode.env reg "tcp://b:1" "01" "tcp://b:1" ⟨"tcp", "b", 1⟩ :=
    ⟨accepted_neighbour, by decide, by simp [stored]⟩
  have finished : Finished reached := by
    intro side
    cases side with
    | first => exact first
    | second => exact second
  refine ⟨reg, reached, run, moves, stored, played, finished, peers, connections, fun sequential => ?_⟩
  generalize reached.memory = memory at sequential peers connStates
  cases sequential with
  | moveFirst called closed =>
      obtain ⟨_, _, last, again, closedAgain, state⟩ := moveFirst
      obtain ⟨-, rfl⟩ := Prod.mk.inj (Outcome.done.inj (called.symm.trans again))
      obtain rfl := Outcome.done.inj (closed.symm.trans closedAgain)
      rw [tables_connStates, state] at connStates
      cases connStates
  | closeFirst closed called =>
      obtain ⟨_, _, last, closedAgain, again, gone⟩ := closeFirst
      obtain rfl := Outcome.done.inj (closed.symm.trans closedAgain)
      obtain ⟨-, rfl⟩ := Prod.mk.inj (Outcome.done.inj (called.symm.trans again))
      rw [tables_peers, gone] at peers
      cases peers

end Carrier.ConcurrentClose
