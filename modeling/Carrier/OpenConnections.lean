import Carrier.RegistryOps

/-! Connections and the entries they are stored under. An entry that is moved to a
key replaces the one already there, a connection may be registered under several
keys, and a loop that ends without a client of its own leaves its entries behind. -/
namespace Carrier.OpenConnections

open GoRuntime Identity Address ConnMgr Framing TransitionSystem AcceptLoops SignatureCheck RegistryOps

def Held (reg : Registry) (conn : Conn) : Prop := ∃ key, reg.connections key = some conn

theorem held_congr {reg next : Registry} {conn : Conn} (same : next.connections = reg.connections) :
    Held next conn ↔ Held reg conn := by
  rw [Held, Held, same]

theorem held_moveEntry {reg : Registry} {old new : String} {conn : Conn} (apart : old ≠ new)
    (connected : reg.connections old ≠ none) :
    Held (moveEntry reg old new) conn ↔ ∃ key, key ≠ new ∧ reg.connections key = some conn := by
  constructor
  · rintro ⟨key, held⟩
    rcases (move_eq_some _ apart connected).mp held with ⟨_, before⟩ | ⟨away, _, before⟩
    · exact ⟨old, apart, before⟩
    · exact ⟨key, away, before⟩
  · rintro ⟨key, away, held⟩
    by_cases there : key = old
    · exact ⟨new, (move_eq_some _ apart connected).mpr (Or.inl ⟨rfl, there ▸ held⟩)⟩
    · exact ⟨key, (move_eq_some _ apart connected).mpr (Or.inr ⟨away, there, held⟩)⟩

theorem held_enter {reg : Registry} {info : AddressInfo} {address key : String} {link conn : Conn}
    (unconnected : reg.connections key = none) :
    Held (enter reg info address key link) conn ↔
      Held reg conn ∨ (info.protocol ∈ supported ∧ conn = link) := by
  unfold Held
  rw [enter_connections]
  by_cases known : info.protocol ∈ supported
  · simp only [if_pos known, store_eq_some]
    constructor
    · rintro ⟨other, ⟨_, value⟩ | ⟨_, held⟩⟩
      · exact Or.inr ⟨known, value.symm⟩
      · exact Or.inl ⟨other, held⟩
    · rintro (⟨other, held⟩ | ⟨_, value⟩)
      · have away : other ≠ key := by
          rintro rfl
          rw [unconnected] at held
          cases held
        exact ⟨other, Or.inr ⟨away, held⟩⟩
      · exact ⟨key, Or.inl ⟨rfl, value.symm⟩⟩
  · simp [known]

theorem held_close {env : Env} {reg next : Registry} {ref : ClientRef} {conn : Conn}
    (closed : close env reg ref = .done next) :
    Held next conn ↔ ∃ key, (∀ client info, ¬ Removes env reg ref key client info) ∧
      reg.connections key = some conn := by
  simp only [Held, close_connections closed]

/-! What was ever stored and what was closed. -/

structure Ledger where
  reg : Registry
  stored : Conn → Prop
  closed : Conn → Prop

def opening : Ledger := { reg := emptyRegistry, stored := fun _ => False, closed := fun _ => False }

/-- Beside the operations on the registry, a receive loop closes its connection when
it ends. -/
inductive Act where
  | op (op : Op)
  | hangUp (conn : Conn)
  deriving DecidableEq, Repr

def closes (env : Env) (reg : Registry) : Op → List Conn
  | .close ref => closing env reg ref
  | _ => []

def record (env : Env) (ledger : Ledger) : Act → Outcome Ledger
  | .op op => (perform env ledger.reg op).map fun reg =>
      { reg := reg
        stored := fun conn => ledger.stored conn ∨ Held reg conn
        closed := fun conn => ledger.closed conn ∨ conn ∈ closes env ledger.reg op }
  | .hangUp hung => .done { ledger with closed := fun conn => ledger.closed conn ∨ conn = hung }

def Kept (ledger : Ledger) : Prop :=
  ∀ conn, ledger.stored conn → ¬ ledger.closed conn → Held ledger.reg conn

/-- No open connection loses its last entry. A move replaces only what is closed or
registered elsewhere too. A `Close` closes what it removes, unless the node's own
protocol is an unknown one. -/
def Retains (env : Env) (ledger : Ledger) : Act → Prop
  | .op (.register address peerID _ _) => ∀ unified info,
      Moves env ledger.reg address peerID unified info → ledger.reg.connections unified ≠ none →
      ∀ conn, ledger.reg.connections (keyOf address peerID) = some conn →
        ledger.closed conn ∨ ∃ key, key ≠ keyOf address peerID ∧ ledger.reg.connections key = some conn
  | .op (.close ref) => ∀ key client info, Removes env ledger.reg ref key client info →
      info.protocol ∉ supported → ∀ conn, ledger.reg.connections key = some conn →
        ledger.closed conn ∨ ∃ other, (∀ client info, ¬ Removes env ledger.reg ref other client info) ∧
          ledger.reg.connections other = some conn
  | _ => True

structure Faithful (ledger : Ledger) : Prop where
  linked : Linked ledger.reg
  noted : ∀ conn, Held ledger.reg conn → ledger.stored conn

theorem Faithful.record {env : Env} {ledger next : Ledger} {act : Act} (faithful : Faithful ledger)
    (recorded : record env ledger act = .done next) : Faithful next := by
  cases act with
  | op op =>
      obtain ⟨reg, performed, same⟩ := Outcome.bind_eq_done.mp recorded
      cases same
      refine ⟨?_, fun conn held => Or.inr held⟩
      exact faithful.linked.performs performed
  | hangUp hung =>
      cases recorded
      exact ⟨faithful.linked, faithful.noted⟩

section Operation

variable {env : Env} {ledger : Ledger} {reg : Registry} {op : Op}

/-- An operation keeps what matters if each connection held before is closed or held
afterwards. -/
theorem kept_iff {next : Ledger} (kept : Kept ledger) (faithful : Faithful ledger)
    (recorded : record env ledger (.op op) = .done next) :
    Kept next ↔ ∀ conn, Held ledger.reg conn →
      ledger.closed conn ∨ conn ∈ closes env ledger.reg op ∨ Held next.reg conn := by
  obtain ⟨reg, performed, same⟩ := Outcome.bind_eq_done.mp recorded
  cases same
  constructor
  · intro after conn held
    by_cases ended : ledger.closed conn ∨ conn ∈ closes env ledger.reg op
    · rcases ended with before | now
      · exact Or.inl before
      · exact Or.inr (Or.inl now)
    · exact Or.inr (Or.inr (after conn (Or.inl (faithful.noted conn held)) ended))
  · rintro remains conn (stored | now) ended
    · obtain ⟨before, after⟩ := not_or.mp ended
      rcases remains conn (kept conn stored before) with impossible | impossible | held
      · exact absurd impossible before
      · exact absurd impossible after
      · exact held
    · exact now

theorem register_kept_iff {address peerID : String} {conn dialed : Option Conn} (linked : Linked ledger.reg)
    (change : Change env ledger.reg address peerID conn dialed reg) :
    (∀ link, Held ledger.reg link → ledger.closed link ∨ Held reg link) ↔
      Retains env ledger (.op (.register address peerID conn dialed)) := by
  cases change with
  | unchanged _ noMove =>
      refine iff_of_true (fun link held => Or.inr held) fun unified info moves => ?_
      exact absurd moves (noMove unified info)
  | half moves missing =>
      refine iff_of_true (fun link held => Or.inr held) fun unified info again connected => ?_
      rw [moves.unique again] at connected
      exact absurd missing connected
  | created creates =>
      refine iff_of_true (fun link held => Or.inr ?_) fun unified info moves => ?_
      · exact (held_enter (linked.unconnected creates.free)).mpr (Or.inl held)
      · exact absurd moves creates.not_moves
  | moved moves connected =>
      constructor
      · intro remains unified info again _ link replaced
        rcases remains link ⟨_, replaced⟩ with ended | held
        · exact Or.inl ended
        · exact Or.inr ((held_moveEntry moves.apart connected).mp held)
      · rintro retains link ⟨key, held⟩
        rw [held_moveEntry moves.apart connected]
        by_cases here : key = keyOf address peerID
        · exact retains _ _ moves connected link (here ▸ held)
        · exact Or.inr ⟨key, here, held⟩

theorem close_kept_iff {ref : ClientRef} (closed : close env ledger.reg ref = .done reg) :
    (∀ conn, Held ledger.reg conn →
      ledger.closed conn ∨ conn ∈ closing env ledger.reg ref ∨ Held reg conn) ↔
      Retains env ledger (.op (.close ref)) := by
  constructor
  · intro remains key client info removes unknown conn held
    rcases remains conn ⟨key, held⟩ with ended | hung | still
    · exact Or.inl ended
    · -- Nothing is closed under an unknown protocol.
      obtain ⟨_, _, another, again, _, known⟩ := (mem_closing closed).mp hung
      have same : info = another := Option.some.inj (removes.parses.symm.trans again.parses)
      exact absurd (same ▸ known) unknown
    · exact Or.inr ((held_close closed).mp still)
  · rintro retains conn ⟨key, held⟩
    by_cases removed : ∃ client info, Removes env ledger.reg ref key client info
    · obtain ⟨client, info, removes⟩ := removed
      by_cases known : info.protocol ∈ supported
      · exact Or.inr (Or.inl ((mem_closing closed).mpr ⟨key, client, info, removes, held, known⟩))
      · rcases retains key client info removes known conn held with ended | still
        · exact Or.inl ended
        · exact Or.inr (Or.inr ((held_close closed).mpr still))
    · refine Or.inr (Or.inr ((held_close closed).mpr ⟨key, fun client info removes => ?_, held⟩))
      exact removed ⟨client, info, removes⟩

end Operation

theorem record_kept_iff {env : Env} {ledger next : Ledger} {act : Act} (kept : Kept ledger)
    (faithful : Faithful ledger) (recorded : record env ledger act = .done next) :
    Kept next ↔ Retains env ledger act := by
  cases act with
  | hangUp hung =>
      cases recorded
      refine iff_of_true (fun conn stored opened => kept conn stored fun ended => opened (Or.inl ended)) trivial
  | op op =>
      rw [kept_iff kept faithful recorded]
      obtain ⟨reg, performed, same⟩ := Outcome.bind_eq_done.mp recorded
      cases same
      cases op with
      | register address peerID conn dialed =>
          obtain ⟨⟨returned, last⟩, called, same⟩ := Outcome.bind_eq_done.mp performed
          cases same
          simpa [closes] using register_kept_iff faithful.linked (faithful.linked.registered called)
      | close ref => exact close_kept_iff performed
      | setID ref sender =>
          cases performed
          refine iff_of_true (fun conn held => Or.inr (Or.inr ?_)) trivial
          exact (held_congr (setID_connections ledger.reg ref sender)).mpr held
      | updateConnState peerID state =>
          cases performed
          exact iff_of_true (fun conn held => Or.inr (Or.inr held)) trivial
      | enableAckReply ref =>
          cases performed
          exact iff_of_true (fun conn held => Or.inr (Or.inr held)) trivial

/-- Every stored connection that is open stays stored in every run whose steps
retain them, and the first step that does not loses one. -/
theorem openConnections_kept_iff {env : Env} {acts : List Act} {ledger : Ledger}
    (run : Run (fun before act after => record env before act = .done after ∧ Retains env before act)
      opening acts ledger) :
    Kept ledger ∧ ∀ act next, record env ledger act = .done next → (Kept next ↔ Retains env ledger act) := by
  have both : Kept ledger ∧ Faithful ledger := by
    apply run.invariant fun ledger => Kept ledger ∧ Faithful ledger
    · rintro before act after ⟨recorded, retains⟩ ⟨kept, faithful⟩
      exact ⟨(record_kept_iff kept faithful recorded).mpr retains, faithful.record recorded⟩
    · constructor
      · intro conn stored
        exact absurd stored (by simp [opening])
      · exact ⟨linked_empty, by simp [opening, Held, emptyRegistry]⟩
  exact ⟨both.1, fun act next recorded => record_kept_iff both.1 both.2 recorded⟩

/-- A dialled peer is moved from its address to its key, which is free. -/
theorem openConnections_kept_iff_dialled : ∃ ledger, Run
    (fun before act after => record localNode.env before act = .done after ∧ Retains localNode.env before act)
      opening [.op (.register "tcp://b:1" "" none (some ⟨.net, 1⟩)),
        .op (.register "tcp://b:1" "01" (some ⟨.net, 1⟩) none)] ledger ∧
    ledger.stored ⟨.net, 1⟩ ∧ ledger.reg.connections "01" = some ⟨.net, 1⟩ ∧ Kept ledger := by
  obtain ⟨middle, ledger, first, second, free, moved⟩ : ∃ middle ledger,
      record localNode.env opening (.op (.register "tcp://b:1" "" none (some ⟨.net, 1⟩))) = .done middle ∧
      record localNode.env middle (.op (.register "tcp://b:1" "01" (some ⟨.net, 1⟩) none)) = .done ledger ∧
      middle.reg.connections "01" = none ∧ ledger.reg.connections "01" = some ⟨.net, 1⟩ :=
    ⟨_, _, rfl, rfl, rfl, rfl⟩
  have nothing : Retains localNode.env opening (.op (.register "tcp://b:1" "" none (some ⟨.net, 1⟩))) := by
    intro unified info moves
    exact absurd rfl moves.present
  have unoccupied : Retains localNode.env middle (.op (.register "tcp://b:1" "01" (some ⟨.net, 1⟩) none)) := by
    intro unified info moves _ conn held
    have key : keyOf "tcp://b:1" "01" = "01" := rfl
    rw [key, free] at held
    simp at held
  have run : Run (fun before act after => record localNode.env before act = .done after ∧
      Retains localNode.env before act) opening
      [.op (.register "tcp://b:1" "" none (some ⟨.net, 1⟩)),
        .op (.register "tcp://b:1" "01" (some ⟨.net, 1⟩) none)] ledger :=
    .cons ⟨first, nothing⟩ (.cons ⟨second, unoccupied⟩ (.nil _))
  have kept := (openConnections_kept_iff run).1
  have stored : ledger.stored ⟨.net, 1⟩ := by
    obtain ⟨reg, _, same⟩ := Outcome.bind_eq_done.mp second
    cases same
    exact Or.inr ⟨"01", moved⟩
  exact ⟨ledger, run, stored, moved, kept⟩

/-- A peer known on an accepted connection is dialled as well. Its first message on
the new connection moves that one to its key, and the accepted connection is open
and in no entry. -/
theorem openConnection_dropped : ∃ world ledger,
    Run (fun before event after => step localNode before event = .done after) start
      [.message accepted (inputOf (neighbour [1]) none), .client "tcp://b:1" "" (some ⟨.net, 1⟩),
        .message dialled (inputOf (neighbour [1]) none)] world ∧
    Run (fun before act after => record localNode.env before act = .done after) opening
      [.op (.register "tcp://b:1" "01" (some accepted.incoming) none), .op (.setID 0 (neighbour [1])),
        .op (.register "tcp://b:1" "" none (some ⟨.net, 1⟩)),
        .op (.register "tcp://b:1" "01" (some dialled.incoming) none), .op (.setID 1 (neighbour [1]))] ledger ∧
    ledger.reg.connections = world.reg.connections ∧ ledger.stored accepted.incoming ∧
    ¬ ledger.closed accepted.incoming ∧ ¬ Held ledger.reg accepted.incoming := by
  refine ⟨_, _, .cons rfl (.cons rfl (.cons rfl (.nil _))),
    .cons rfl (.cons rfl (.cons rfl (.cons rfl (.cons rfl (.nil _))))), rfl, ?_, ?_, ?_⟩
  · exact Or.inl (Or.inl (Or.inl (Or.inl (Or.inr ⟨"01", rfl⟩))))
  · simp [closes, opening]
  · rintro ⟨key, held⟩
    have value : delete (store (store (store (fun _ => none) "01" accepted.incoming) "tcp://b:1"
        dialled.incoming) "01" dialled.incoming) "tcp://b:1" key = some accepted.incoming := held
    by_cases there : key = "tcp://b:1"
    · simp [delete, there] at value
    · by_cases here : key = "01"
      · simp [delete, store, here, dialled, accepted] at value
      · simp [delete, store, here, there] at value

/-! One connection, one key. -/

def Distinct (reg : Registry) : Prop :=
  ∀ key other conn, reg.connections key = some conn → reg.connections other = some conn → key = other

def Fresh (env : Env) (reg : Registry) : Op → Prop
  | .register address peerID conn dialed => ∀ unified info link,
      Creates env reg address peerID conn dialed unified info link → info.protocol ∈ supported →
        ¬ Held reg link
  | _ => True

theorem Distinct.of_fewer {reg next : Registry} (distinct : Distinct reg)
    (fewer : ∀ key conn, next.connections key = some conn → reg.connections key = some conn) :
    Distinct next := by
  intro key other conn first second
  exact distinct key other conn (fewer key conn first) (fewer other conn second)

theorem Distinct.moveEntry {reg : Registry} {old new : String} (distinct : Distinct reg) (apart : old ≠ new)
    (connected : reg.connections old ≠ none) : Distinct (moveEntry reg old new) := by
  intro key other conn first second
  rcases (move_eq_some _ apart connected).mp first with ⟨rfl, before⟩ | ⟨_, notOld, before⟩
  · rcases (move_eq_some _ apart connected).mp second with ⟨rfl, _⟩ | ⟨_, notOld, again⟩
    · rfl
    · exact absurd (distinct other old conn again before) notOld
  · rcases (move_eq_some _ apart connected).mp second with ⟨rfl, again⟩ | ⟨_, _, again⟩
    · exact absurd (distinct key old conn before again) notOld
    · exact distinct key other conn before again

theorem enter_distinct_iff {reg : Registry} {info : AddressInfo} {address key : String} {link : Conn}
    (distinct : Distinct reg) (unconnected : reg.connections key = none) :
    Distinct (enter reg info address key link) ↔ (info.protocol ∈ supported → ¬ Held reg link) := by
  by_cases known : info.protocol ∈ supported
  · have entered : (enter reg info address key link).connections = store reg.connections key link := by
      rw [enter_connections, if_pos known]
    constructor
    · rintro after _ ⟨other, held⟩
      have away : other ≠ key := by
        rintro rfl
        rw [unconnected] at held
        cases held
      apply away
      apply after other key link
      · rw [entered, store_eq_some]
        exact Or.inr ⟨away, held⟩
      · rw [entered, store_eq_some]
        exact Or.inl ⟨rfl, rfl⟩
    · intro fresh one other conn first second
      rw [entered, store_eq_some] at first second
      rcases first with ⟨here, value⟩ | ⟨_, first⟩
      · rcases second with ⟨there, _⟩ | ⟨_, second⟩
        · rw [here, there]
        · exact absurd ⟨other, value ▸ second⟩ (fresh known)
      · rcases second with ⟨_, value⟩ | ⟨_, second⟩
        · exact absurd ⟨one, value ▸ first⟩ (fresh known)
        · exact distinct one other conn first second
  · refine iff_of_true (distinct.of_fewer fun other conn held => ?_) fun impossible => absurd impossible known
    rwa [enter_connections, if_neg known] at held

theorem perform_distinct_iff {env : Env} {reg next : Registry} {op : Op} (linked : Linked reg)
    (distinct : Distinct reg) (performed : Performs env reg op next) : Distinct next ↔ Fresh env reg op := by
  cases op with
  | register address peerID conn dialed =>
      obtain ⟨⟨returned, last⟩, called, same⟩ := Outcome.bind_eq_done.mp performed
      cases same
      cases linked.registered called with
      | unchanged noCreate =>
          refine iff_of_true distinct fun unified info link creates => ?_
          exact absurd creates (noCreate unified info link)
      | half moves missing =>
          refine iff_of_true (distinct.of_fewer fun _ _ held => held) fun unified info link creates => ?_
          exact absurd moves creates.not_moves
      | moved moves connected =>
          refine iff_of_true (distinct.moveEntry moves.apart connected) fun unified info link creates => ?_
          exact absurd moves creates.not_moves
      | created creates =>
          rw [enter_distinct_iff distinct (linked.unconnected creates.free)]
          constructor
          · intro fresh unified info link again known
            obtain ⟨rfl, rfl, rfl⟩ := creates.unique again
            exact fresh known
          · intro fresh known
            exact fresh _ _ _ creates known
  | close ref =>
      exact iff_of_true (distinct.of_fewer fun _ _ held => ((close_connections performed).mp held).2) trivial
  | setID ref sender =>
      cases performed
      refine iff_of_true (distinct.of_fewer fun key conn held => ?_) trivial
      rwa [setID_connections] at held
  | updateConnState peerID state =>
      cases performed
      exact iff_of_true (distinct.of_fewer fun _ _ held => held) trivial
  | enableAckReply ref =>
      cases performed
      exact iff_of_true (distinct.of_fewer fun _ _ held => held) trivial

/-- No two keys share a connection in every run that registers each connection once,
and the first operation that registers one again makes them share it. -/
theorem connections_distinct_iff {env : Env} {ops : List Op} {reg : Registry}
    (run : Run (fun before op after => Performs env before op after ∧ Fresh env before op) emptyRegistry ops reg) :
    Distinct reg ∧ ∀ op next, Performs env reg op next → (Distinct next ↔ Fresh env reg op) := by
  have both : Linked reg ∧ Distinct reg := by
    apply run.invariant fun reg => Linked reg ∧ Distinct reg
    · rintro before op after ⟨performed, fresh⟩ ⟨linked, distinct⟩
      exact ⟨linked.performs performed, (perform_distinct_iff linked distinct performed).mpr fresh⟩
    · exact ⟨linked_empty, by simp [Distinct, emptyRegistry]⟩
  exact ⟨both.2, fun op next performed => perform_distinct_iff both.1 both.2 performed⟩

/-- A dialled peer answers with the address it was dialled at. -/
theorem connections_distinct_iff_dialled : ∃ reg, Run
    (fun before op after => Performs localNode.env before op after ∧ Fresh localNode.env before op)
      emptyRegistry [.register "tcp://b:1" "" none (some ⟨.net, 0⟩),
        .register "tcp://b:1" "01" (some ⟨.net, 0⟩) none] reg ∧
    reg.connections "01" = some ⟨.net, 0⟩ ∧ Distinct reg := by
  obtain ⟨middle, reg, first, second, present, moved⟩ : ∃ middle reg,
      Performs localNode.env emptyRegistry (.register "tcp://b:1" "" none (some ⟨.net, 0⟩)) middle ∧
      Performs localNode.env middle (.register "tcp://b:1" "01" (some ⟨.net, 0⟩) none) reg ∧
      middle.peers "tcp://b:1" = some 0 ∧ reg.connections "01" = some ⟨.net, 0⟩ :=
    ⟨_, _, rfl, rfl, rfl, rfl⟩
  have empty : Fresh localNode.env emptyRegistry (.register "tcp://b:1" "" none (some ⟨.net, 0⟩)) := by
    intro unified info link _ _
    simp [Held, emptyRegistry]
  have known : Fresh localNode.env middle (.register "tcp://b:1" "01" (some ⟨.net, 0⟩) none) := by
    intro unified info link creates
    have free := creates.freeAddress
    rw [(accepted_neighbour.unique creates.accepted).1, present] at free
    simp at free
  have run : Run (fun before op after => Performs localNode.env before op after ∧
      Fresh localNode.env before op) emptyRegistry [.register "tcp://b:1" "" none (some ⟨.net, 0⟩),
        .register "tcp://b:1" "01" (some ⟨.net, 0⟩) none] reg :=
    .cons ⟨first, empty⟩ (.cons ⟨second, known⟩ (.nil _))
  exact ⟨reg, run, moved, (connections_distinct_iff run).1⟩

/-- A dialled peer answers with another address than it was dialled at, and its
connection is registered a second time. -/
theorem connection_shared : ∃ world,
    Run (fun before event after => step wideNode before event = .done after) start
      [.client "tcp://b:1" "" (some ⟨.net, 0⟩),
        .message { accepted with client := some 0 }
          (inputOf { neighbour [1] with address := "tcp://c:1" } none)] world ∧
    world.reg.connections "tcp://b:1" = some ⟨.net, 0⟩ ∧ world.reg.connections "01" = some ⟨.net, 0⟩ ∧
    ¬ Distinct world.reg := by
  obtain ⟨world, run, first, second⟩ : ∃ world,
      Run (fun before event after => step wideNode before event = .done after) start
        [.client "tcp://b:1" "" (some ⟨.net, 0⟩),
          .message { accepted with client := some 0 }
            (inputOf { neighbour [1] with address := "tcp://c:1" } none)] world ∧
      world.reg.connections "tcp://b:1" = some ⟨.net, 0⟩ ∧ world.reg.connections "01" = some ⟨.net, 0⟩ :=
    ⟨_, .cons rfl (.cons rfl (.nil _)), rfl, rfl⟩
  refine ⟨world, run, first, second, fun distinct => ?_⟩
  exact absurd (distinct _ _ _ first second) (by decide)

/-! The end of a receive loop on an accepted connection. -/

def getAddrByPeerID (reg : Registry) (peerID : String) : String :=
  match (reg.peers peerID).bind (reg.clients[·]?) with
  | some client => client.address
  | none => "NO_EXIST_ADDR"

/-- `GetRealConnState` with the text of its error. -/
def getRealConnState (reg : Registry) (peerID : String) : PeerState × Option String :=
  let address := getAddrByPeerID reg peerID
  match reg.connStates peerID with
  | none =>
      (.unreachable, some ("Network.GetRealConnState connStates does not exist, client addr:" ++ address))
  | some state =>
      if reg.peers peerID = none then
        (.unreachable, some ("Network.GetRealConnState peer does not exist, client addr:" ++ address))
      else if reg.connections peerID = none then
        (.unreachable, some ("Network.GetRealConnState connection does not exist, client addr:" ++ address))
      else if state = .reachable then (.reachable, none)
      else (.unreachable, some
        ("in Network.GetRealConnState, conn&peer exist but state is UNREACHABLE ,client addr:" ++ address))

structure Released (reg : Registry) (conn : Conn) : Prop where
  unheld : ¬ Held reg conn
  unreported : ∀ key, reg.connections key = some conn → (getRealConnState reg key).1 ≠ .reachable

theorem released_iff {reg : Registry} {conn : Conn} : Released reg conn ↔ ¬ Held reg conn := by
  constructor
  · intro released
    exact released.unheld
  · intro unheld
    exact ⟨unheld, fun key held => absurd ⟨key, held⟩ unheld⟩

/-- The last turn of a loop: nothing could be read, or a message is the last one. -/
inductive Ending where
  | unreadable
  | message (input : Input)
  deriving DecidableEq, Repr

def finish (node : Node) (session : Session) (reg : Registry) : Ending → Outcome Processed
  | .unreadable => quit node session reg
  | .message input => handle node session reg input

def Leaves (env : Env) (conn : Conn) (reg : Registry) (address peerID : String) (given dialed : Option Conn) :
    Prop :=
  ∀ unified info link, Creates env reg address peerID given dialed unified info link →
    info.protocol ∈ supported → link ≠ conn

def LeavesMessage (node : Node) (conn : Conn) (reg : Registry) (session : Session) (input : Input) : Prop :=
  ∀ sender, input.msg.sender = some sender → Leaves node.env conn reg sender.address sender.publicKeyHex
    (if node.proxyMode then none else some session.incoming) input.dialed

def Declines (node : Node) (conn : Conn) (reg : Registry) : Event → Prop
  | .message session input => LeavesMessage node conn reg session input
  | .client address peerID dialed => Leaves node.env conn reg address peerID none dialed
  | _ => True

def DeclinesLast (node : Node) (session : Session) (reg : Registry) : Ending → Prop
  | .unreadable => True
  | .message input => LeavesMessage node session.incoming reg session input

theorem register_unheld_iff {env : Env} {reg next : Registry} {address peerID : String}
    {given dialed : Option Conn} {returned : Option ClientRef} {conn : Conn} (linked : Linked reg)
    (unheld : ¬ Held reg conn)
    (called : getOrSetPeerClient env reg address peerID given dialed = .done (returned, next)) :
    ¬ Held next conn ↔ Leaves env conn reg address peerID given dialed := by
  cases linked.registered called with
  | unchanged noCreate =>
      refine iff_of_true unheld fun unified info link creates => ?_
      exact absurd creates (noCreate unified info link)
  | half moves missing =>
      refine iff_of_true unheld fun unified info link creates => ?_
      exact absurd moves creates.not_moves
  | moved moves connected =>
      refine iff_of_true (fun held => ?_) fun unified info link creates => ?_
      · obtain ⟨key, _, before⟩ := (held_moveEntry moves.apart connected).mp held
        exact unheld ⟨key, before⟩
      · exact absurd moves creates.not_moves
  | created creates =>
      rw [held_enter (linked.unconnected creates.free)]
      constructor
      · intro after unified info link again known same
        obtain ⟨rfl, rfl, rfl⟩ := creates.unique again
        exact after (Or.inr ⟨known, same.symm⟩)
      · rintro leaves (held | ⟨known, same⟩)
        · exact unheld held
        · exact leaves _ _ _ creates known same.symm

theorem unheld_persists (node : Node) (conn : Conn) : Persists node fun reg => ¬ Held reg conn where
  named reg ref sender unheld := by rwa [held_congr (setID_connections reg ref sender)]
  closed reg ref next unheld closed held := by
    obtain ⟨key, _, before⟩ := (held_close closed).mp held
    exact unheld ⟨key, before⟩

theorem step_unheld {node : Node} {before after : World} {event : Event} {conn : Conn}
    (linked : Linked before.reg) (unheld : ¬ Held before.reg conn)
    (stepped : step node before event = .done after) (declines : Declines node conn before.reg event) :
    ¬ Held after.reg conn := by
  cases event with
  | message session input =>
      obtain ⟨result, handled, same⟩ := Outcome.bind_eq_done.mp stepped
      cases same
      refine (unheld_persists node conn).handle unheld (fun sender returned next named called => ?_) handled
      exact (register_unheld_iff linked unheld called).mpr (declines sender named)
  | client address peerID dialed =>
      obtain ⟨⟨returned, next⟩, called, same⟩ := Outcome.bind_eq_done.mp stepped
      cases same
      exact (register_unheld_iff linked unheld called).mpr declines
  | close ref =>
      obtain ⟨next, closed, same⟩ := Outcome.bind_eq_done.mp stepped
      cases same
      exact (unheld_persists node conn).closed _ _ _ unheld closed
  | updateConnState peerID state =>
      cases stepped
      exact unheld
  | enableAckReply ref =>
      cases stepped
      exact unheld

theorem handle_last {node : Node} {session : Session} {reg : Registry} {input : Input} {result : Processed}
    (opened : session.client = none) (stream : session.loop ≠ .acceptUdp)
    (handled : handle node session reg input = .done result) (last : result.alive = false) :
    ∃ sender returned next, input.msg.sender = some sender ∧
      register node session reg sender input.dialed = .done (returned, next) ∧
      result.reg.connections = next.connections := by
  have left : ∀ {reg}, quit node session reg = .done result → result.reg = reg := by
    intro reg ended
    simp only [quit, opened, Outcome.done_map] at ended
    cases ended
    rfl
  rw [handle_of_stream stream] at handled
  unfold handleStream at handled
  split at handled
  · simp at handled
  · rename_i sender named
    obtain ⟨⟨returned, next⟩, called, rest⟩ := Outcome.bind_eq_done.mp handled
    refine ⟨sender, returned, next, named, called, ?_⟩
    cases returned with
    | none => rw [left rest]
    | some ref =>
        have noted := setID_connections next ref sender
        dsimp only at rest
        unfold admitStream at rest
        dsimp only at rest
        split at rest
        · simp at rest
        · split at rest
          · rw [left rest, noted]
          · split at rest
            · rw [left rest, noted]
            · split at rest
              · rw [left rest, noted]
              · obtain ⟨_, _, same⟩ := Outcome.bind_eq_done.mp rest
                cases same
                simp at last

/-- From any point at which no entry has the accepted connection: as long as no step
makes an entry with it, none has it when its loop ends, and if the last message is
the first to make one, the entry stays. -/
theorem loopEnd_releases_iff {node : Node} {session : Session} {earlier events : List Event}
    {first world : World} {ending : Ending} {result : Processed}
    (reached : Run (fun before event after => step node before event = .done after) start earlier first)
    (unheld : ¬ Held first.reg session.incoming)
    (run : Run (fun before event after => step node before event = .done after ∧
      Declines node session.incoming before.reg event) first events world)
    (opened : session.client = none) (stream : session.loop ≠ .acceptUdp)
    (ended : finish node session world.reg ending = .done result) (last : result.alive = false) :
    Released result.reg session.incoming ↔ DeclinesLast node session world.reg ending := by
  have both : Linked world.reg ∧ ¬ Held world.reg session.incoming := by
    apply run.invariant fun world => Linked world.reg ∧ ¬ Held world.reg session.incoming
    · rintro before event after ⟨stepped, declines⟩ ⟨linked, before⟩
      exact ⟨(linked_stable node).step stepped linked, step_unheld linked before stepped declines⟩
    · exact ⟨(linked_stable node).run reached linked_empty, unheld⟩
  obtain ⟨linked, before⟩ := both
  rw [released_iff]
  cases ending with
  | unreadable =>
      simp only [finish, quit, opened, Outcome.done_map] at ended
      cases ended
      exact iff_of_true before trivial
  | message input =>
      obtain ⟨sender, returned, next, named, called, same⟩ := handle_last opened stream ended last
      rw [held_congr same, register_unheld_iff linked before called]
      constructor
      · intro leaves other again
        rw [Option.some.inj (again.symm.trans named)]
        exact leaves
      · intro leaves
        exact leaves sender named

def second : Session := { accepted with incoming := ⟨.net, 1⟩ }

/-- A peer that is registered opens a second connection, on which it is known. -/
theorem loopEnd_releases_iff_second : ∃ world result,
    Run (fun before event after => step localNode before event = .done after ∧
      Declines localNode second.incoming before.reg event) start
      [.message accepted (inputOf (neighbour [1]) none), .message second (inputOf (neighbour [1]) none)] world ∧
    finish localNode second world.reg .unreadable = .done result ∧ result.alive = false ∧
    Released result.reg second.incoming := by
  obtain ⟨middle, world, result, first, again, held, ended, stopped⟩ : ∃ middle world result,
      step localNode start (.message accepted (inputOf (neighbour [1]) none)) = .done middle ∧
      step localNode middle (.message second (inputOf (neighbour [1]) none)) = .done world ∧
      middle.reg.peers "01" = some 0 ∧ finish localNode second world.reg .unreadable = .done result ∧
      result.alive = false := ⟨_, _, _, rfl, rfl, rfl, rfl, rfl⟩
  have other : Declines localNode second.incoming start.reg
      (.message accepted (inputOf (neighbour [1]) none)) := by
    rintro sender named unified info link ⟨_, _, _, obtained⟩ _ rfl
    have given : Outcome.done (some accepted.incoming) = .done (some second.incoming) := obtained
    exact absurd given (by decide)
  have known : Declines localNode second.incoming middle.reg
      (.message second (inputOf (neighbour [1]) none)) := by
    rintro sender named unified info link ⟨_, _, free, _⟩
    cases named
    exact absurd (held.symm.trans free) (by simp)
  have run : Run (fun before event after => step localNode before event = .done after ∧
      Declines localNode second.incoming before.reg event) start
      [.message accepted (inputOf (neighbour [1]) none), .message second (inputOf (neighbour [1]) none)] world :=
    .cons ⟨first, other⟩ (.cons ⟨again, known⟩ (.nil _))
  have unheld : ¬ Held start.reg second.incoming := by simp [Held, start, emptyRegistry]
  have released := loopEnd_releases_iff (.nil _) unheld run rfl (by decide) ended stopped
  exact ⟨world, result, run, ended, stopped, released.mpr trivial⟩

/-- The loop of the first connection of a peer ends, and the peer stays registered
on it and reachable. -/
theorem loopEnd_leaves_entry : ∃ world result,
    Run (fun before event after => step localNode before event = .done after) start
      [.message accepted (inputOf (neighbour [1]) none)] world ∧
    finish localNode accepted world.reg .unreadable = .done result ∧ result.alive = false ∧
    result.reg.connections "01" = some accepted.incoming ∧
    (getRealConnState result.reg "01").1 = .reachable ∧ ¬ Released result.reg accepted.incoming := by
  obtain ⟨world, result, stepped, ended, stopped, held, reported⟩ : ∃ world result,
      step localNode start (.message accepted (inputOf (neighbour [1]) none)) = .done world ∧
      finish localNode accepted world.reg .unreadable = .done result ∧ result.alive = false ∧
      result.reg.connections "01" = some accepted.incoming ∧
      (getRealConnState result.reg "01").1 = .reachable := ⟨_, _, rfl, rfl, rfl, rfl, rfl⟩
  exact ⟨world, result, .cons stepped (.nil _), ended, stopped, held, reported,
    fun released => released.unheld ⟨"01", held⟩⟩

end Carrier.OpenConnections
