import Carrier.AcceptLoops

/-! Who a client is. The receive loops write the sender of every message into the
client before they compare the two, so the comparison never fails and a client
takes on whatever identity the last message named. What the comparison is there
for holds as long as no message names a new identity for a client. -/
namespace Carrier.SenderIdentity

open GoRuntime Identity Address ConnMgr Framing TransitionSystem AcceptLoops

def Connected (node : Node) (reg : Registry) (sender : ID) : Prop :=
  reg.connections sender.publicKeyHex ≠ none ∨
    ∃ unified info, Accepted node.env sender.address unified info ∧
      reg.peers unified ≠ none ∧ reg.connections unified ≠ none

theorem rename_connections_key (reg : Registry) (unified key : String) :
    (rename reg unified key).connections key ≠ none ↔
      reg.connections key ≠ none ∨ (reg.peers unified ≠ none ∧ reg.connections unified ≠ none) := by
  unfold rename
  by_cases same : unified = key
  · subst same
    simp only [ne_eq, not_true_eq_false, if_false]
    exact ⟨Or.inl, fun either => either.elim id And.right⟩
  · rw [if_pos same]
    unfold resetConnMgrItemByPeerID
    cases reg.peers unified with
    | none => simp
    | some ref =>
        dsimp only
        cases link : reg.connections unified with
        | none => simp
        | some conn =>
            have moved : delete (store reg.connections key conn) unified key = some conn := by
              simp [delete, store, Function.update_of_ne (Ne.symm same)]
            dsimp only
            cases reg.connStates unified with
            | none => simp [moved]
            | some status => cases reg.streams unified <;> simp [moved]

theorem takes_unique {env : Env} {reg : Registry} {address peerID : String} {ref other : ClientRef}
    (first : Takes env reg address peerID ref) (second : Takes env reg address peerID other) :
    other = ref := by
  obtain ⟨unified, info, accepted, held, _⟩ := first
  obtain ⟨otherAddress, otherInfo, again, otherHeld, _⟩ := second
  rw [(accepted.unique again).1, held] at otherHeld
  exact (Option.some.inj otherHeld).symm

/-- Three things can happen to the identities: nothing, the sender is written into
a client that was there, or into a new one. Only then is the message handed on,
and to that client. -/
inductive Turn (node : Node) (session : Session) (reg : Registry) (sender : ID) (msg : Message)
    (result : Processed) : Prop where
  | dropped : ids result.reg = ids reg → result.dispatched = none →
      (Ignores node session sender msg ∨ ∀ ref, ¬ Resolves node reg sender ref) → Turn ..
  | taken {ref : ClientRef} : Resolves node reg sender ref → ¬ Ignores node session sender msg →
      ids result.reg = (ids reg).set ref (some sender) →
      (∀ other, result.dispatched = some other → other = ref) →
      (sender.publicKeyHex ≠ "" → (result.dispatched = some ref ↔
        malformedSignature node sender msg = false ∧ Connected node reg sender)) → Turn ..
  | created : ids result.reg = ids reg ++ [some sender] → (∀ ref, ¬ Resolves node reg sender ref) →
      reg.peers (keyOf sender.address sender.publicKeyHex) = none →
      (∀ other, result.dispatched = some other → other = reg.clients.length) → Turn ..

theorem handle_turn {node : Node} {session : Session} {reg : Registry} {input : Input} {sender : ID}
    {result : Processed} (named : input.msg.sender = some sender)
    (handled : handle node session reg input = .done result) :
    Turn node session reg sender input.msg result := by
  rcases (handle_cases named handled).2 with
    ⟨ignored, same, nobody⟩ | ⟨heeded, returned, next, registered, turn⟩
  · exact .dropped (by rw [same]) nobody (Or.inl ignored)
  · rcases getOrSetPeerClient_ids registered with ⟨rfl, kept, unresolved⟩ |
        ⟨ref, unified, info, rfl, resolves, accepted, rfl⟩ | ⟨rfl, kept, free, unresolved⟩
    · rcases turn with ⟨_, same, nobody⟩ | ⟨ref, impossible, _⟩
      · exact .dropped (same.trans kept) nobody (Or.inr unresolved)
      · simp at impossible
    · rcases turn with ⟨impossible, _⟩ | ⟨other, same, admits⟩
      · simp at impossible
      · cases same
        refine .taken resolves heeded (by rw [admits.written, ids_rename])
          (fun other handed => ((admits.dispatched other).mp handed).1) fun keyed => ?_
        have key : keyOf sender.address sender.publicKeyHex = sender.publicKeyHex := if_neg keyed
        rw [admits.dispatched, key, rename_connections_key]
        have connected : Connected node reg sender ↔ reg.connections sender.publicKeyHex ≠ none ∨
            (reg.peers unified ≠ none ∧ reg.connections unified ≠ none) := by
          refine or_congr_right ⟨?_, fun held => ⟨unified, info, accepted, held⟩⟩
          rintro ⟨other, another, again, held⟩
          rwa [(accepted.unique again).1] at held
        rw [connected]
        simp
    · rcases turn with ⟨impossible, _⟩ | ⟨other, same, admits⟩
      · simp at impossible
      · cases same
        refine .created ?_ unresolved free fun other handed => ((admits.dispatched other).mp handed).1
        rw [admits.written, kept, ← ids_length, List.set_append_right _ _ (Nat.le_refl _)]
        simp

/-! The identity of a client and the messages it gets. -/

def Shares (reg : Registry) (sender : ID) (ref : ClientRef) (prior : ID) : Prop :=
  sender.publicKeyHex ≠ "" ∧ reg.peers sender.publicKeyHex = some ref ∧
    (ids reg)[ref]? = some (some prior) ∧ prior.publicKeyHex = sender.publicKeyHex

/-- What the comparison is for. A client that has an ID gets no message of another
one and keeps its own. A message with the key of a client but another ID is handed
to no one, and a stream loop ends over it. -/
structure Faithful (session : Session) (reg : Registry) (sender : ID) (result : Processed) : Prop where
  dispatched : ∀ (ref : ClientRef) (prior : ID), (ids reg)[ref]? = some (some prior) → result.dispatched = some ref →
    prior.equals sender = true
  kept : ∀ (ref : ClientRef) (prior : ID), (ids reg)[ref]? = some (some prior) → prior.equals sender = false →
    (ids result.reg)[ref]? = some (some prior)
  refused : ∀ (ref : ClientRef) (prior : ID), Shares reg sender ref prior → prior.equals sender = false →
    result.dispatched = none ∧ (session.loop ≠ .acceptUdp → result.alive = false)

/-- The message names no new ID for a client: neither for the one it leads to nor,
when it would go through, for the one of its key. -/
structure Consistent (node : Node) (session : Session) (reg : Registry) (sender : ID) (msg : Message) :
    Prop where
  resolved : ∀ (ref : ClientRef) (prior : ID), Resolves node reg sender ref → ¬ Ignores node session sender msg →
    (ids reg)[ref]? = some (some prior) → prior.equals sender = true
  shared : ∀ (ref other : ClientRef) (prior : ID), Resolves node reg sender ref → malformedSignature node sender msg = false →
    Connected node reg sender → Shares reg sender other prior → prior.equals sender = true

section Turns

variable {node : Node} {session : Session} {reg : Registry} {sender : ID} {msg : Message}
  {result : Processed}

theorem resolves_held {ref : ClientRef} (resolves : Resolves node reg sender ref) :
    ref < (ids reg).length := by
  obtain ⟨_, _, _, _, ready⟩ := resolves
  cases found : reg.clients[ref]? with
  | none => simp [found] at ready
  | some client => simpa using (List.getElem?_eq_some_iff.mp found).1

theorem Shares.not_free {ref : ClientRef} {prior : ID} (shares : Shares reg sender ref prior) :
    reg.peers (keyOf sender.address sender.publicKeyHex) ≠ none := by
  obtain ⟨keyed, registered, _⟩ := shares
  simp [keyOf, keyed, registered]

theorem faithful_of_consistent (turn : Turn node session reg sender msg result)
    (ends : session.loop ≠ .acceptUdp → result.alive = result.dispatched.isSome)
    (consistent : Consistent node session reg sender msg) : Faithful session reg sender result := by
  have refuse : result.dispatched = none →
      result.dispatched = none ∧ (session.loop ≠ .acceptUdp → result.alive = false) := by
    intro nobody
    exact ⟨nobody, fun stream => by simp [ends stream, nobody]⟩
  cases turn with
  | dropped same nobody _ =>
      refine ⟨?_, ?_, fun _ _ _ _ => refuse nobody⟩
      · simp [nobody]
      · intro ref prior named _
        rwa [same]
  | @taken taken resolves heeded written only through =>
      refine ⟨?_, ?_, ?_⟩
      · intro ref prior named handed
        rw [only ref handed] at named
        exact consistent.resolved taken prior resolves heeded named
      · intro ref prior named differs
        -- The only ID written is that of the client taken, and it agrees.
        have apart : taken ≠ ref := by
          rintro rfl
          simp [consistent.resolved taken prior resolves heeded named] at differs
        rwa [written, List.getElem?_set_ne apart]
      · intro ref prior shares differs
        refine refuse (Option.eq_none_iff_forall_ne_some.mpr fun other handed => ?_)
        obtain rfl := only other handed
        obtain ⟨signed, connected⟩ := (through shares.1).mp handed
        simp [consistent.shared other ref prior resolves signed connected shares] at differs
  | created written _ free only =>
      refine ⟨?_, ?_, fun ref prior shares => absurd free shares.not_free⟩
      · intro ref prior named handed
        have inside := (List.getElem?_eq_some_iff.mp named).1
        rw [only ref handed, ids_length] at inside
        exact absurd inside (Nat.lt_irrefl _)
      · intro ref prior named _
        have inside := (List.getElem?_eq_some_iff.mp named).1
        rwa [written, List.getElem?_append_left inside]

theorem consistent_of_faithful (turn : Turn node session reg sender msg result)
    (faithful : Faithful session reg sender result) : Consistent node session reg sender msg := by
  cases turn with
  | dropped _ _ reason =>
      refine ⟨fun ref prior resolves heeded => ?_, fun ref other prior resolves signed => ?_⟩
      · rcases reason with ignored | unresolved
        · exact absurd ignored heeded
        · exact absurd resolves (unresolved ref)
      · rcases reason with ignored | unresolved
        · simp [ignored.2] at signed
        · exact absurd resolves (unresolved ref)
  | @taken taken resolves heeded written only through =>
      refine ⟨fun ref prior again _ named => ?_, fun ref other prior _ signed connected shares => ?_⟩
      · obtain rfl := takes_unique resolves again
        by_contra differs
        have kept := faithful.kept ref prior named (by simpa using differs)
        rw [written, List.getElem?_set_self (resolves_held resolves)] at kept
        obtain rfl := Option.some.inj (Option.some.inj kept)
        exact differs ((equals_iff _ _).mpr rfl)
      · by_contra differs
        have nobody := (faithful.refused other prior shares (by simpa using differs)).1
        rw [(through shares.1).mpr ⟨signed, connected⟩] at nobody
        simp at nobody
  | created _ unresolved _ _ =>
      exact ⟨fun ref _ resolves => absurd resolves (unresolved ref),
        fun ref _ _ resolves => absurd resolves (unresolved ref)⟩

end Turns

/-! Whole runs. -/

def Where (node : Node) (Meets : Session → Registry → Input → ID → Prop) (before : World) (event : Event)
    (after : World) : Prop :=
  step node before event = .done after ∧
    ∀ session input sender, event = .message session input → input.msg.sender = some sender →
      Meets session before.reg input sender

def Keeps (node : Node) (session : Session) (reg : Registry) (input : Input) (sender : ID) : Prop :=
  ∀ result, handle node session reg input = .done result → Faithful session reg sender result

def Agrees (node : Node) (session : Session) (reg : Registry) (input : Input) (sender : ID) : Prop :=
  Consistent node session reg sender input.msg

theorem where_keeps_iff (node : Node) (before : World) (event : Event) (after : World) :
    Where node (Keeps node) before event after ↔ Where node (Agrees node) before event after := by
  refine and_congr_right fun stepped => ?_
  refine forall_congr' fun session => forall_congr' fun input => forall_congr' fun sender =>
    forall_congr' fun received => forall_congr' fun named => ?_
  subst received
  obtain ⟨result, handled, _⟩ := Outcome.bind_eq_done.mp stepped
  constructor
  · intro keeps
    exact consistent_of_faithful (handle_turn named handled) (keeps result handled)
  · intro consistent other again
    exact faithful_of_consistent (handle_turn named again) (handle_cases named again).1 consistent

def Settled (world : World) : Prop :=
  ∀ ref sent, (ref, sent) ∈ world.log →
    ∃ current, (ids world.reg)[ref]? = some (some current) ∧ current.equals sent = true

theorem Settled.of_ids {world : World} {reg : Registry} (settled : Settled world)
    (kept : ∀ ref : ClientRef, ref < (ids world.reg).length → (ids reg)[ref]? = (ids world.reg)[ref]?) :
    Settled { world with reg := reg } := by
  intro ref sent logged
  obtain ⟨current, named, same⟩ := settled ref sent logged
  exact ⟨current, by rw [kept ref (List.getElem?_eq_some_iff.mp named).1, named], same⟩

theorem turn_dispatched {node : Node} {session : Session} {reg : Registry} {sender : ID} {msg : Message}
    {result : Processed} {ref : ClientRef} (turn : Turn node session reg sender msg result)
    (handed : result.dispatched = some ref) : (ids result.reg)[ref]? = some (some sender) := by
  cases turn with
  | dropped _ nobody _ => simp [nobody] at handed
  | taken resolves _ written only _ =>
      obtain rfl := only ref handed
      rw [written, List.getElem?_set_self (resolves_held resolves)]
  | created written _ _ only =>
      have size : ref = (ids reg).length := by simp [only ref handed]
      simp [written, size]

theorem settled_message {node : Node} {session : Session} {world : World} {sender : ID} {msg : Message}
    {result : Processed} (turn : Turn node session world.reg sender msg result)
    (consistent : Consistent node session world.reg sender msg) (settled : Settled world) :
    Settled { reg := result.reg, log := note world.log (some sender) result.dispatched } := by
  -- The messages of before: only the client that was taken may have a new ID.
  have earlier : Settled { world with reg := result.reg } := by
    cases turn with
    | dropped same _ _ => exact settled.of_ids fun ref _ => by rw [same]
    | created written _ _ _ =>
        refine settled.of_ids fun ref inside => ?_
        rw [written, List.getElem?_append_left inside]
    | @taken taken resolves heeded written _ _ =>
        intro ref sent logged
        obtain ⟨prior, named, same⟩ := settled ref sent logged
        by_cases here : taken = ref
        · subst here
          have agrees := consistent.resolved taken prior resolves heeded named
          refine ⟨sender, by rw [written, List.getElem?_set_self (resolves_held resolves)], ?_⟩
          rw [equals_iff] at agrees same ⊢
          exact agrees.symm.trans same
        · exact ⟨prior, by rwa [written, List.getElem?_set_ne here], same⟩
  cases handed : result.dispatched with
  | none => exact earlier
  | some ref =>
      intro other sent logged
      rcases List.mem_cons.mp logged with new | old
      · cases new
        exact ⟨sender, turn_dispatched turn handed, (equals_iff _ _).mpr rfl⟩
      · exact earlier other sent old

theorem settled_step {node : Node} {before after : World} {event : Event}
    (stepped : Where node (Agrees node) before event after) (settled : Settled before) :
    Settled after := by
  obtain ⟨done, meets⟩ := stepped
  cases event with
  | message session input =>
      obtain ⟨result, handled, same⟩ := Outcome.bind_eq_done.mp done
      cases same
      cases named : input.msg.sender with
      | none =>
          -- Every loop dereferences the sender.
          exfalso
          unfold handle at handled
          split at handled <;> simp [handleUdp, handleStream, named] at handled
      | some sender =>
          exact settled_message (handle_turn named handled) (meets session input sender rfl named) settled
  | client address peerID dialed =>
      obtain ⟨⟨returned, next⟩, called, same⟩ := Outcome.bind_eq_done.mp done
      cases same
      refine settled.of_ids fun ref inside => ?_
      rcases getOrSetPeerClient_ids called with ⟨_, kept, _⟩ | ⟨_, _, _, _, _, _, rfl⟩ | ⟨_, kept, _⟩
      · rw [kept]
      · rw [ids_rename]
      · rw [kept, List.getElem?_append_left inside]
  | close ref =>
      obtain ⟨next, closed, same⟩ := Outcome.bind_eq_done.mp done
      cases same
      exact settled.of_ids fun ref _ => by rw [close_ids closed]
  | updateConnState peerID state =>
      cases done
      exact settled.of_ids fun ref _ => rfl
  | enableAckReply ref =>
      cases done
      exact settled.of_ids fun other _ => by rw [ids_enableAckReply]

/-- A run keeps every client to its identity exactly when no message of it names a
new one. Then all messages a client was ever given have the same ID. -/
theorem identity_kept_iff (node : Node) (first last : World) (events : List Event) :
    (Run (Where node (Keeps node)) first events last ↔ Run (Where node (Agrees node)) first events last) ∧
    (first = start → Run (Where node (Agrees node)) first events last →
      ∀ ref one other, (ref, one) ∈ last.log → (ref, other) ∈ last.log → one.equals other = true) := by
  constructor
  · constructor
    · exact Run.mono fun before event after => (where_keeps_iff node before event after).mp
    · exact Run.mono fun before event after => (where_keeps_iff node before event after).mpr
  · rintro rfl run ref one other oneLogged otherLogged
    have settled : Settled last :=
      run.invariant Settled (fun _ _ _ stepped => settled_step stepped) (by simp [Settled, start])
    obtain ⟨current, named, oneSame⟩ := settled ref one oneLogged
    obtain ⟨again, renamed, otherSame⟩ := settled ref other otherLogged
    rw [named] at renamed
    obtain rfl := Option.some.inj (Option.some.inj renamed)
    rw [equals_iff] at oneSame otherSame ⊢
    exact oneSame.symm.trans otherSame

theorem consistent_of_known {node : Node} {session : Session} {reg : Registry} {sender : ID} {msg : Message}
    (known : ∀ prior, some prior ∈ ids reg → prior.equals sender = true) :
    Consistent node session reg sender msg where
  resolved _ prior _ _ named := known prior (List.mem_of_getElem? named)
  shared _ _ prior _ _ _ shares := known prior (List.mem_of_getElem? shares.2.2.1)

/-- Two messages of one peer. -/
theorem identity_kept_iff_two :
    ∃ last, Run (Where localNode (Keeps localNode)) start
        [.message accepted (inputOf (neighbour [1]) none), .message accepted (inputOf (neighbour [1]) none)]
        last ∧
      last.log = [(0, neighbour [1]), (0, neighbour [1])] ∧
      ∀ ref one other, (ref, one) ∈ last.log → (ref, other) ∈ last.log → one.equals other = true := by
  obtain ⟨middle, last, firstStep, known, secondStep, logged⟩ : ∃ middle last,
      step localNode start (.message accepted (inputOf (neighbour [1]) none)) = .done middle ∧
      ids middle.reg = [some (neighbour [1])] ∧
      step localNode middle (.message accepted (inputOf (neighbour [1]) none)) = .done last ∧
      last.log = [(0, neighbour [1]), (0, neighbour [1])] := ⟨_, _, rfl, rfl, rfl, rfl⟩
  have run : Run (Where localNode (Agrees localNode)) start
      [.message accepted (inputOf (neighbour [1]) none), .message accepted (inputOf (neighbour [1]) none)]
      last := by
    refine .cons ⟨firstStep, ?_⟩ (.cons ⟨secondStep, ?_⟩ (.nil _))
    · rintro _ _ sender ⟨⟩ ⟨⟩
      exact consistent_of_known (by simp [start, ids, emptyRegistry])
    · rintro _ _ sender ⟨⟩ ⟨⟩
      exact consistent_of_known (by simp [known, ID.equals])
  have kept := identity_kept_iff localNode start last
    [.message accepted (inputOf (neighbour [1]) none), .message accepted (inputOf (neighbour [1]) none)]
  exact ⟨last, kept.1.mpr run, logged, kept.2 rfl run⟩

/-- `Accept` gives a client the messages of two IDs, and the second one replaces
the first. The key is the same. -/
theorem identity_replaced :
    ∃ last, Run (fun before event after => step localNode before event = .done after) start
        [.message accepted (inputOf (neighbour [1]) none), .message accepted (inputOf (neighbour [2]) none)]
        last ∧
      last.log = [(0, neighbour [2]), (0, neighbour [1])] ∧ ids last.reg = [some (neighbour [2])] ∧
      (neighbour [1]).netKey = (neighbour [2]).netKey ∧ (neighbour [1]).equals (neighbour [2]) = false :=
  ⟨_, .cons rfl (.cons rfl (.nil _)), rfl, rfl, rfl, rfl⟩

end Carrier.SenderIdentity
