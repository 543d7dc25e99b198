import Carrier.RegistryOps

/-! What a client keeps from its creation on, whatever is done to the registry: the
address it was dialled or registered with, and that it is ready for sending. A call
of `getOrSetPeerClient` therefore never meets a client that is not ready, and an
error leaves the registry as it was. -/
namespace Carrier.RegistryClients

open GoRuntime Identity Address ConnMgr AcceptLoops RegistryOps TransitionSystem

def traits (reg : Registry) : List (String × Bool) :=
  reg.clients.map fun client => (client.address, client.outgoingReady)

theorem traits_getElem? (reg : Registry) (ref : ClientRef) :
    (traits reg)[ref]? = reg.clients[ref]?.map fun client => (client.address, client.outgoingReady) :=
  List.getElem?_map ..

def Grows (before after : Registry) : Prop :=
  traits after = traits before ∨ ∃ address, traits after = traits before ++ [(address, true)]

section Operations

variable {env : Env} {reg next : Registry}

theorem getOrSetPeerClient_grows {address peerID : String} {conn dialed : Option Conn}
    {returned : Option ClientRef}
    (called : getOrSetPeerClient env reg address peerID conn dialed = .done (returned, next)) :
    Grows reg next := by
  cases returns_of_called called with
  | rejected => exact Or.inl rfl
  | present => exact Or.inl (by rw [traits, rename_clients, traits])
  | undialed => exact Or.inl rfl
  | @created unified info link => exact Or.inr ⟨unified, by simp [traits, enter_clients, newClient]⟩

theorem traits_setID (reg : Registry) (ref : ClientRef) (sender : ID) :
    traits (setID reg ref sender) = traits reg := by
  unfold setID
  split
  · rfl
  · rename_i client found
    exact set_map found rfl

theorem performs_grows {op : Op} (performed : Performs env reg op next) : Grows reg next := by
  cases op with
  | register address peerID conn dialed =>
      obtain ⟨⟨returned, after⟩, called, same⟩ := Outcome.bind_eq_done.mp performed
      cases same
      exact getOrSetPeerClient_grows called
  | close ref => exact Or.inl (close_map performed fun _ => rfl)
  | setID ref sender => cases performed; exact Or.inl (traits_setID reg ref sender)
  | updateConnState peerID state => cases performed; exact Or.inl rfl
  | enableAckReply ref => cases performed; exact Or.inl (enableAckReply_map reg ref fun _ => rfl)

theorem performs_address {op : Op} {ref : ClientRef} {client : PeerClient}
    (performed : Performs env reg op next) (found : reg.clients[ref]? = some client) :
    ∃ after, next.clients[ref]? = some after ∧ after.address = client.address := by
  have before : (traits reg)[ref]? = some (client.address, client.outgoingReady) := by
    rw [traits_getElem?, found]
    rfl
  have kept : (traits next)[ref]? = some (client.address, client.outgoingReady) := by
    rcases performs_grows performed with same | ⟨address, joined⟩
    · rw [same, before]
    · rw [joined, List.getElem?_append_left (List.getElem?_eq_some_iff.mp before).1, before]
  rw [traits_getElem?] at kept
  obtain ⟨after, present, same⟩ := Option.map_eq_some_iff.mp kept
  exact ⟨after, present, congrArg Prod.fst same⟩

end Operations

section Reached

variable {env : Env} {reg : Registry}

theorem ready_of_reachable (reachable : Reachable env reg) {ref : ClientRef} {client : PeerClient}
    (found : reg.clients[ref]? = some client) : client.outgoingReady = true := by
  obtain ⟨ops, run⟩ := reachable
  have all : ∀ trait ∈ traits reg, trait.2 = true := by
    apply run.invariant fun reg => ∀ trait ∈ traits reg, trait.2 = true
    · intro before op after performed ready trait member
      rcases performs_grows performed with same | ⟨address, joined⟩
      · exact ready trait (same ▸ member)
      · rw [joined, List.mem_append, List.mem_singleton] at member
        rcases member with old | rfl
        · exact ready trait old
        · rfl
    · intro trait member
      simp [traits, emptyRegistry] at member
  exact all (client.address, client.outgoingReady)
    (List.mem_map.mpr ⟨client, List.mem_of_getElem? found, rfl⟩)

/-- An error of `getOrSetPeerClient` leaves no trace. A rename takes effect only where
the renamed client is returned, and the entry deleted after a failed dial is one that
was not there. -/
theorem failed_registration_keeps {next : Registry} {address peerID : String} {conn dialed : Option Conn}
    (reachable : Reachable env reg)
    (failed : getOrSetPeerClient env reg address peerID conn dialed = .done (none, next)) : next = reg := by
  cases returns_of_called failed with
  | rejected => rfl
  | @present unified info ref _ accepted held result =>
      -- The entry leads to a client, and that client is ready.
      have inside : ref < reg.clients.length := by
        have bound := (reachable.indexed.rename unified (keyOf address peerID)).inside _ _ held
        rwa [rename_clients] at bound
      have ready : reg.clients[ref]?.any (·.outgoingReady) = true := by
        rw [List.getElem?_eq_getElem inside]
        exact ready_of_reachable reachable (List.getElem?_eq_getElem inside)
      rw [if_pos ready] at result
      cases result
  | undialed => rfl

/-- A dial fails while another peer is registered. -/
theorem failed_registration_keeps_neighbour : ∃ reg next,
    Reachable wideEnv reg ∧ reg.peers "01" = some 0 ∧
    getOrSetPeerClient wideEnv reg "tcp://c:1" "02" none none = .done (none, next) ∧ next = reg := by
  obtain ⟨reg, performed, peers⟩ : ∃ reg,
      Performs wideEnv emptyRegistry (.register "tcp://b:1" "01" (some ⟨.net, 0⟩) none) reg ∧
      reg.peers "01" = some 0 := ⟨_, rfl, rfl⟩
  have reachable : Reachable wideEnv reg := ⟨_, .cons performed (.nil _)⟩
  obtain ⟨next, failed⟩ : ∃ next,
      getOrSetPeerClient wideEnv reg "tcp://c:1" "02" none none = .done (none, next) := by
    cases performed
    exact ⟨_, rfl⟩
  exact ⟨reg, next, reachable, peers, failed, failed_registration_keeps reachable failed⟩

end Reached

end Carrier.RegistryClients
