import Carrier.SenderIdentity
import Carrier.Threads
import Carrier.Opcodes

/-! How a node that dials an address gets the key of the peer behind it. `Bootstrap` and
`ConnectPeer` take a client for the address, send a `Ping` and wait for the channel of
the client's `stopNotify`. The `Pong` comes in by a receive loop, which finds the client
by the sender of the message. Its components write the key into the client and close
the channel; each `Pong` does so in a goroutine of its own.

A step is one access to what the goroutines share; a turn of a receive loop and a call of
`getOrSetPeerClient` or `Close` are one step. -/
namespace Carrier.Handshake

open GoRuntime Identity Address ConnMgr Threads TransitionSystem
open AcceptLoops hiding World step start

/-! The model. -/

/-- `FilterPeers`, with what it has visited so far. -/
def filterPeers (resolver : Resolver) (visited : List String) : List String → List String
  | [] => []
  | peerAddress :: peers =>
      if peerAddress = "" then filterPeers resolver visited peers
      else match toUnifiedAddress resolver peerAddress with
        | none => filterPeers resolver visited peers
        | some resolved =>
            if resolved ∈ visited then filterPeers resolver visited peers
            else resolved :: filterPeers resolver (resolved :: visited) peers

inductive Component where
  | keepalive
  | discovery
  deriving DecidableEq, Repr

/-- The `stopNotify` of a client, with `stopCh` for whether the channel is closed, and
the mark that the discovery component swaps. -/
structure Notice where
  locked : Bool
  isStop : Bool
  stopCh : Bool
  recvChannelClosed : Bool
  deriving DecidableEq, Repr

def createNotice : Notice := ⟨false, false, false, false⟩

/-- The clients, what they wait with, and the clients of the `Pong`s that were handed on
and that no component has seen yet. -/
structure Shared where
  reg : Registry
  notices : ClientRef → Notice
  pongs : List ClientRef

def Shared.setPubKey (shared : Shared) (ref : ClientRef) (pubKey : String) : Shared :=
  { shared with reg := { shared.reg with
      clients := shared.reg.clients.modify ref fun client => { client with pubKey := pubKey } } }

def Shared.setNotice (shared : Shared) (ref : ClientRef) (notice : Notice) : Shared :=
  { shared with notices := Function.update shared.notices ref notice }

def isPong : Event → Bool
  | .message _ input => input.msg.opcode = Opcodes.pongCode
  | _ => false

def Shared.happen (node : Node) (shared : Shared) (event : Event) : Outcome Shared :=
  (AcceptLoops.step node { reg := shared.reg, log := [] } event).map fun world =>
    { shared with
      reg := world.reg
      pongs := shared.pongs ++ if isPong event then world.log.map (·.1) else [] }

/-- What a component does next for a `Pong`: write the key, swap the mark, and the lines
of `stopNotify.Close`. -/
inductive Stage where
  | name
  | swap
  | lock
  | check
  | mark
  | close
  | unlock
  deriving DecidableEq, Repr

/-- One address: `Client`, `TellByAddr`, `waitBootstrapSuccess`, `ClientID`. -/
inductive Attempt where
  | client
  | ping (ref : ClientRef)
  | wait (ref : ClientRef)
  | read (ref : ClientRef)
  | expire (ref : ClientRef)
  | ended (clientID : Option String)
  deriving DecidableEq, Repr

inductive Code where
  | idle
  | loop
  | pong (ref : ClientRef) (component : Component) (rest : List Component) (stage : Stage)
  | connectPeer (address : String)
  | clientExist (address : String)
  | connecting (address : String) (attempt : Attempt)
  | connected (address : String) (result : Option String)
  | bootstrap (addresses : List String)
  | bootstrapping (addresses : List String) (address : String) (attempt : Attempt) (rest clientID : List String)
  | bootstrapped (addresses clientID : List String)
  | panicked
  deriving DecidableEq, Repr

inductive Choice where
  | go
  | event (event : Event)
  | take (place : Nat)
  | dial (dialed : Option Conn)
  | write (written : Bool)
  | tick
  deriving DecidableEq, Repr

def nextComponent (ref : ClientRef) : List Component → Code
  | [] => .idle
  | component :: rest => .pong ref component rest .name

/-- `Receive` of a component for a `Pong`, up to the end of `stopNotify.Close`. The
discovery component looks at its mark before it calls `Close`; the sender is the ID that
the client has now. Its update of the routing table before and its `FindNode` after these
lines touch nothing here and are left out. -/
def receive (shared : Shared) (ref : ClientRef) (component : Component) (rest : List Component) :
    Stage → Option (Shared × Code)
  | .name =>
      match (ids shared.reg)[ref]? with
      | some (some sender) => some (shared.setPubKey ref sender.publicKeyHex,
          .pong ref component rest (if component = .discovery then .swap else .lock))
      | _ => some (shared, .panicked)
  | .swap => some (shared.setNotice ref { shared.notices ref with recvChannelClosed := true },
      if (shared.notices ref).recvChannelClosed then nextComponent ref rest else .pong ref component rest .lock)
  | .lock =>
      if (shared.notices ref).locked then none
      else some (shared.setNotice ref { shared.notices ref with locked := true }, .pong ref component rest .check)
  | .check => some (shared, .pong ref component rest (if (shared.notices ref).isStop then .unlock else .mark))
  | .mark => some (shared.setNotice ref { shared.notices ref with isStop := true }, .pong ref component rest .close)
  | .close =>
      if (shared.notices ref).stopCh then some (shared, .panicked)
      else some (shared.setNotice ref { shared.notices ref with stopCh := true }, .pong ref component rest .unlock)
  | .unlock => some (shared.setNotice ref { shared.notices ref with locked := false }, nextComponent ref rest)

/-- A `Ping` that could not be written ends the attempt; the `Close` that `Write` makes
then is one of the events of the node. -/
def attempt (node : Node) (shared : Shared) (address : String) : Choice → Attempt → Option (Shared × Attempt)
  | .dial dialed, .client =>
      match getOrSetPeerClient node.env shared.reg address "" none dialed with
      | .panic => none
      | .done (none, reg) => some ({ shared with reg := reg }, .ended none)
      | .done (some ref, reg) => some ({ shared with reg := reg }, .ping ref)
  | .write written, .ping ref => some (shared, if written then .wait ref else .ended none)
  | .go, .wait ref => if (shared.notices ref).stopCh then some (shared, .read ref) else none
  | .tick, .wait ref => some (shared, .expire ref)
  | .go, .read ref => some (shared, .ended (shared.reg.clients[ref]?.map (·.pubKey)))
  | .go, .expire ref =>
      match ConnMgr.close node.env shared.reg ref with
      | .panic => none
      | .done reg => some ({ shared with reg := reg }, .ended none)
  | _, _ => none

def nextAddress (addresses clientID : List String) : List String → Code
  | [] => .bootstrapped addresses clientID
  | address :: rest => .bootstrapping addresses address .client rest clientID

def program (node : Node) (components : List Component) : Program Shared Code Choice
  | _, shared, .loop, .event event =>
      match shared.happen node event with
      | .panic => none
      | .done next => some (next, .loop)
  | _, shared, .idle, .take place =>
      match shared.pongs[place]?, components with
      | some ref, component :: rest =>
          some ({ shared with pongs := shared.pongs.eraseIdx place }, .pong ref component rest .name)
      | _, _ => none
  | _, shared, .pong ref component rest stage, .go => receive shared ref component rest stage
  | _, shared, .connectPeer address, .go =>
      some (shared, if (shared.reg.connections address).isSome then .connected address (some "")
        else .clientExist address)
  | _, shared, .clientExist address, .go =>
      some (shared, if (shared.reg.peers address).isSome then .connected address (some "")
        else .connecting address .client)
  | _, shared, .connecting address (.ended result), .go => some (shared, .connected address result)
  | _, shared, .connecting address stage, choice =>
      (attempt node shared address choice stage).map fun (next, stage) => (next, .connecting address stage)
  | _, shared, .bootstrap addresses, .go =>
      some (shared, nextAddress addresses [] (filterPeers node.env.resolver [node.env.address] addresses))
  | _, shared, .bootstrapping addresses _ (.ended result) rest clientID, .go =>
      some (shared, nextAddress addresses (clientID ++ result.toList) rest)
  | _, shared, .bootstrapping addresses address stage rest clientID, choice =>
      (attempt node shared address choice stage).map fun (next, stage) =>
        (next, .bootstrapping addresses address stage rest clientID)
  | _, _, _, _ => none

inductive Stepped (node : Node) (components : List Component) (shared : Shared) :
    Code → Choice → Shared → Code → Prop where
  | event {event : Event} {next : Shared} : shared.happen node event = .done next →
      Stepped node components shared .loop (.event event) next .loop
  | taken {place : Nat} {ref : ClientRef} {component : Component} {rest : List Component} :
      shared.pongs[place]? = some ref → components = component :: rest →
      Stepped node components shared .idle (.take place) { shared with pongs := shared.pongs.eraseIdx place }
        (.pong ref component rest .name)
  | received {ref : ClientRef} {component : Component} {rest : List Component} {stage : Stage} {next : Shared}
      {now : Code} : receive shared ref component rest stage = some (next, now) →
      Stepped node components shared (.pong ref component rest stage) .go next now
  | found {address : String} {code : Code} :
      code = .connectPeer address ∧ (shared.reg.connections address).isSome ∨
        code = .clientExist address ∧ (shared.reg.peers address).isSome →
      Stepped node components shared code .go shared (.connected address (some ""))
  | looked {address : String} {code now : Code} :
      code = .connectPeer address ∨ code = .clientExist address →
      now = .clientExist address ∨ now = .connecting address .client →
      Stepped node components shared code .go shared now
  | connected {address : String} {result : Option String} :
      Stepped node components shared (.connecting address (.ended result)) .go shared (.connected address result)
  | connecting {address : String} {choice : Choice} {stage later : Attempt} {next : Shared} :
      attempt node shared address choice stage = some (next, later) →
      Stepped node components shared (.connecting address stage) choice next (.connecting address later)
  | bootstrap {addresses : List String} :
      Stepped node components shared (.bootstrap addresses) .go shared
        (nextAddress addresses [] (filterPeers node.env.resolver [node.env.address] addresses))
  | advanced {addresses rest clientID : List String} {address : String} {result : Option String} :
      Stepped node components shared (.bootstrapping addresses address (.ended result) rest clientID) .go shared
        (nextAddress addresses (clientID ++ result.toList) rest)
  | bootstrapping {addresses rest clientID : List String} {address : String} {choice : Choice}
      {stage later : Attempt} {next : Shared} : attempt node shared address choice stage = some (next, later) →
      Stepped node components shared (.bootstrapping addresses address stage rest clientID) choice next
        (.bootstrapping addresses address later rest clientID)

theorem program_stepped {node : Node} {components : List Component} {thread : Nat} {shared next : Shared}
    {code now : Code} {choice : Choice}
    (moved : program node components thread shared code choice = some (next, now)) :
    Stepped node components shared code choice next now := by
  unfold program at moved
  split at moved
  · split at moved
    · cases moved
    · rename_i happened
      cases moved
      exact .event happened
  · split at moved
    · rename_i found
      cases moved
      exact .taken found rfl
    · cases moved
  · exact .received moved
  · cases moved
    split
    · rename_i present
      exact .found (Or.inl ⟨rfl, present⟩)
    · exact .looked (Or.inl rfl) (Or.inl rfl)
  · cases moved
    split
    · rename_i present
      exact .found (Or.inr ⟨rfl, present⟩)
    · exact .looked (Or.inr rfl) (Or.inr rfl)
  · cases moved
    exact .connected
  · obtain ⟨⟨after, later⟩, tried, same⟩ := Option.map_eq_some_iff.mp moved
    cases same
    exact .connecting tried
  · cases moved
    exact .bootstrap
  · cases moved
    exact .advanced
  · obtain ⟨⟨after, later⟩, tried, same⟩ := Option.map_eq_some_iff.mp moved
    cases same
    exact .bootstrapping tried
  · cases moved

/-! What a step does to one client's notice and to the goroutine that makes it. -/

def stageOf (ref : ClientRef) : Code → Option Stage
  | .pong other _ _ stage => if other = ref then some stage else none
  | _ => none

inductive Moves (notice : Notice) : Option Stage → Notice → Option Stage → Prop where
  | away : Moves notice none notice none
  | begun : Moves notice none notice (some .name)
  | panicked {stage : Stage} : stage = .name ∨ stage = .close ∧ notice.stopCh = true →
      Moves notice (some stage) notice none
  | named {stage : Stage} : stage = .swap ∨ stage = .lock → Moves notice (some .name) notice (some stage)
  | swapped : notice.recvChannelClosed = false →
      Moves notice (some .swap) { notice with recvChannelClosed := true } (some .lock)
  | skipped {now : Option Stage} : notice.recvChannelClosed = true → now = none ∨ now = some .name →
      Moves notice (some .swap) notice now
  | locked : notice.locked = false → Moves notice (some .lock) { notice with locked := true } (some .check)
  | stopped : notice.isStop = true → Moves notice (some .check) notice (some .unlock)
  | running : notice.isStop = false → Moves notice (some .check) notice (some .mark)
  | marked : Moves notice (some .mark) { notice with isStop := true } (some .close)
  | closed : notice.stopCh = false → Moves notice (some .close) { notice with stopCh := true } (some .unlock)
  | unlocked {now : Option Stage} : now = none ∨ now = some .name →
      Moves notice (some .unlock) { notice with locked := false } now

@[simp] theorem setNotice_self (shared : Shared) (ref : ClientRef) (notice : Notice) :
    (shared.setNotice ref notice).notices ref = notice := by
  simp [Shared.setNotice]

theorem setNotice_other (shared : Shared) {ref other : ClientRef} (notice : Notice) (different : other ≠ ref) :
    (shared.setNotice ref notice).notices other = shared.notices other := by
  simp [Shared.setNotice, different]

theorem stageOf_nextComponent (ref : ClientRef) (rest : List Component) :
    stageOf ref (nextComponent ref rest) = none ∨ stageOf ref (nextComponent ref rest) = some .name := by
  cases rest with
  | nil => exact Or.inl rfl
  | cons component rest => exact Or.inr (by simp [nextComponent, stageOf])

theorem stageOf_nextComponent_other {ref other : ClientRef} (different : other ≠ ref) (rest : List Component) :
    stageOf ref (nextComponent other rest) = none := by
  cases rest with
  | nil => rfl
  | cons component rest => simp [nextComponent, stageOf, different]

theorem stageOf_nextAddress (ref : ClientRef) (addresses clientID rest : List String) :
    stageOf ref (nextAddress addresses clientID rest) = none := by
  cases rest <;> rfl

theorem receive_other {shared next : Shared} {ref other : ClientRef} {component : Component}
    {rest : List Component} {stage : Stage} {now : Code} (different : other ≠ ref)
    (received : receive shared other component rest stage = some (next, now)) :
    next.notices ref = shared.notices ref ∧ stageOf ref now = none := by
  have apart := Ne.symm different
  cases stage with
  | name =>
      simp only [receive] at received
      split at received <;> cases received
      · exact ⟨rfl, by simp [stageOf, different]⟩
      · exact ⟨rfl, rfl⟩
  | swap =>
      simp only [receive] at received
      cases received
      refine ⟨setNotice_other _ _ apart, ?_⟩
      split
      · exact stageOf_nextComponent_other different rest
      · simp [stageOf, different]
  | lock =>
      obtain ⟨_, same⟩ := Option.ite_none_left_eq_some.mp received
      cases same
      exact ⟨setNotice_other _ _ apart, by simp [stageOf, different]⟩
  | check =>
      cases received
      exact ⟨rfl, by simp [stageOf, different]⟩
  | mark =>
      cases received
      exact ⟨setNotice_other _ _ apart, by simp [stageOf, different]⟩
  | close =>
      simp only [receive] at received
      split at received <;> cases received
      · exact ⟨rfl, rfl⟩
      · exact ⟨setNotice_other _ _ apart, by simp [stageOf, different]⟩
  | unlock =>
      cases received
      exact ⟨setNotice_other _ _ apart, stageOf_nextComponent_other different rest⟩

theorem receive_moves {shared next : Shared} {ref : ClientRef} {component : Component} {rest : List Component}
    {stage : Stage} {now : Code} (received : receive shared ref component rest stage = some (next, now)) :
    Moves (shared.notices ref) (some stage) (next.notices ref) (stageOf ref now) := by
  have here : ∀ stage, stageOf ref (.pong ref component rest stage) = some stage := by simp [stageOf]
  cases stage with
  | name =>
      simp only [receive] at received
      split at received <;> cases received
      · rw [here]
        exact .named (by split <;> simp)
      · exact .panicked (Or.inl rfl)
  | swap =>
      simp only [receive] at received
      cases received
      rw [setNotice_self]
      cases swapped : (shared.notices ref).recvChannelClosed with
      | false =>
          rw [if_neg (by simp), here]
          exact .swapped swapped
      | true =>
          rw [if_pos rfl, ← swapped]
          exact .skipped swapped (stageOf_nextComponent ref rest)
  | lock =>
      obtain ⟨free, same⟩ := Option.ite_none_left_eq_some.mp received
      cases same
      rw [setNotice_self, here]
      exact .locked (by simpa using free)
  | check =>
      cases received
      rw [here]
      cases stop : (shared.notices ref).isStop with
      | false => exact .running stop
      | true => exact .stopped stop
  | mark =>
      cases received
      rw [setNotice_self, here]
      exact .marked
  | close =>
      simp only [receive] at received
      split at received <;> cases received
      · rename_i closed
        exact .panicked (Or.inr ⟨rfl, closed⟩)
      · rename_i opened
        rw [setNotice_self, here]
        exact .closed (by simpa using opened)
  | unlock =>
      cases received
      rw [setNotice_self]
      exact .unlocked (stageOf_nextComponent ref rest)

theorem attempt_notices {node : Node} {shared next : Shared} {address : String} {choice : Choice}
    {stage later : Attempt} (tried : attempt node shared address choice stage = some (next, later)) :
    next.notices = shared.notices ∧ next.pongs = shared.pongs := by
  unfold attempt at tried
  split at tried
  · split at tried <;> cases tried <;> exact ⟨rfl, rfl⟩
  · cases tried
    exact ⟨rfl, rfl⟩
  · obtain ⟨_, same⟩ := Option.ite_none_right_eq_some.mp tried
    cases same
    exact ⟨rfl, rfl⟩
  · cases tried
    exact ⟨rfl, rfl⟩
  · cases tried
    exact ⟨rfl, rfl⟩
  · split at tried <;> cases tried
    exact ⟨rfl, rfl⟩
  · cases tried

theorem Stepped.moves {node : Node} {components : List Component} {shared next : Shared} {code now : Code}
    {choice : Choice} (stepped : Stepped node components shared code choice next now) (ref : ClientRef) :
    Moves (shared.notices ref) (stageOf ref code) (next.notices ref) (stageOf ref now) := by
  cases stepped with
  | event happened =>
      obtain ⟨world, _, rfl⟩ := Outcome.map_eq_done.mp happened
      exact .away
  | @taken place other component rest found same =>
      by_cases own : other = ref
      · simp only [stageOf, own, if_true]
        exact .begun
      · simp only [stageOf, own, if_false]
        exact .away
  | @received other component rest stage next now received =>
      by_cases own : other = ref
      · subst own
        simpa [stageOf] using receive_moves received
      · obtain ⟨same, left⟩ := receive_other own received
        rw [same, left]
        simp only [stageOf, own, if_false]
        exact .away
  | found place =>
      rcases place with ⟨rfl, _⟩ | ⟨rfl, _⟩ <;> exact .away
  | looked before after =>
      rcases before with rfl | rfl <;> rcases after with rfl | rfl <;> exact .away
  | connected => exact .away
  | connecting tried =>
      rw [(attempt_notices tried).1]
      exact .away
  | bootstrap =>
      rw [stageOf_nextAddress]
      exact .away
  | advanced =>
      rw [stageOf_nextAddress]
      exact .away
  | bootstrapping tried =>
      rw [(attempt_notices tried).1]
      exact .away
def inside : Option Stage → Bool
  | some .check | some .mark | some .close | some .unlock => true
  | _ => false

theorem inside_iff {stage : Option Stage} : inside stage = true ↔
    stage = some .check ∨ stage = some .mark ∨ stage = some .close ∨ stage = some .unlock := by
  cases stage with
  | none => simp [inside]
  | some stage => cases stage <;> simp [inside]

def Heading (stage : Option Stage) : Prop :=
  stage = some .lock ∨ stage = some .check ∨ stage = some .mark ∨ stage = some .close

structure Held (locked : Bool) (stages : Nat → Option Stage) : Prop where
  holds : ∀ thread, inside (stages thread) = true → locked = true
  alone : ∀ thread other, inside (stages thread) = true → inside (stages other) = true → thread = other
  held : locked = true → ∃ thread, inside (stages thread) = true

structure Orderly (notice : Notice) (stages : Nat → Option Stage) : Prop extends Held notice.locked stages where
  unmarked : ∀ thread, stages thread = some .mark → notice.isStop = false
  unclosed : ∀ thread, stages thread = some .close → notice.isStop = true ∧ notice.stopCh = false
  closed : ∀ thread, stages thread = some .unlock → notice.stopCh = true
  stopping : notice.isStop = true → notice.stopCh = true ∨ ∃ thread, stages thread = some .close
  running : notice.isStop = false → notice.stopCh = false
  swapped : notice.recvChannelClosed = true → notice.stopCh = true ∨ ∃ thread, Heading (stages thread)

/-- The mutex is taken on entering, released on leaving and left alone elsewhere. -/
theorem Moves.guarded {notice next : Notice} {before now : Option Stage} (moves : Moves notice before next now)
    (unclosed : before = some .close → notice.stopCh = false) :
    (inside before = false ∧ inside now = true ∧ notice.locked = false ∧ next.locked = true) ∨
      (inside before = true ∧ inside now = false ∧ next.locked = false) ∨
      (inside now = inside before ∧ next.locked = notice.locked) := by
  cases moves with
  | away => exact Or.inr (Or.inr ⟨rfl, rfl⟩)
  | begun => exact Or.inr (Or.inr ⟨rfl, rfl⟩)
  | panicked reason =>
      rcases reason with rfl | ⟨rfl, closed⟩
      · exact Or.inr (Or.inr ⟨rfl, rfl⟩)
      · rw [unclosed rfl] at closed
        cases closed
  | named stage => rcases stage with rfl | rfl <;> exact Or.inr (Or.inr ⟨rfl, rfl⟩)
  | swapped _ => exact Or.inr (Or.inr ⟨rfl, rfl⟩)
  | skipped _ later => rcases later with rfl | rfl <;> exact Or.inr (Or.inr ⟨rfl, rfl⟩)
  | locked free => exact Or.inl ⟨rfl, rfl, free, rfl⟩
  | stopped _ => exact Or.inr (Or.inr ⟨rfl, rfl⟩)
  | running _ => exact Or.inr (Or.inr ⟨rfl, rfl⟩)
  | marked => exact Or.inr (Or.inr ⟨rfl, rfl⟩)
  | closed _ => exact Or.inr (Or.inr ⟨rfl, rfl⟩)
  | unlocked later => rcases later with rfl | rfl <;> exact Or.inr (Or.inl ⟨rfl, rfl, rfl⟩)

section Order

variable {notice next : Notice} {stages after : Nat → Option Stage} {thread : Nat} {now : Option Stage}

theorem Held.step {locked free : Bool} (held : Held locked stages)
    (guarded : (inside (stages thread) = false ∧ inside now = true ∧ locked = false ∧ free = true) ∨
      (inside (stages thread) = true ∧ inside now = false ∧ free = false) ∨
      (inside now = inside (stages thread) ∧ free = locked))
    (own : after thread = now) (others : ∀ other, other ≠ thread → after other = stages other) : Held free after := by
  rcases guarded with ⟨_, enters, opened, rfl⟩ | ⟨was, leaves, rfl⟩ | ⟨same, rfl⟩
  · -- Nobody else is inside.
    have only : ∀ other, inside (after other) = true → other = thread := by
      intro other within
      by_contra different
      rw [others other different] at within
      simp [held.holds other within] at opened
    exact ⟨fun _ _ => rfl, fun one two first second => (only one first).trans (only two second).symm,
      fun _ => ⟨thread, by rw [own, enters]⟩⟩
  · have nobody : ∀ other, inside (after other) = false := by
      intro other
      by_cases mover : other = thread
      · rw [mover, own, leaves]
      · rw [others other mover]
        by_contra within
        exact mover (held.alone other thread (by simpa using within) was)
    exact ⟨fun other within => by simp [nobody] at within, fun one _ within => by simp [nobody] at within, fun taken => by
      cases taken⟩
  · have kept : ∀ other, inside (after other) = inside (stages other) := by
      intro other
      by_cases mover : other = thread
      · rw [mover, own, same]
      · rw [others other mover]
    exact ⟨fun other within => held.holds other (kept other ▸ within),
      fun one two first second => held.alone one two (kept one ▸ first) (kept two ▸ second),
      fun taken => (held.held taken).imp fun other within => by rw [kept, within]⟩

theorem heading_after (own : after thread = now) (others : ∀ other, other ≠ thread → after other = stages other)
    (onward : Heading (stages thread) → Heading now) (heading : ∃ other, Heading (stages other)) :
    ∃ other, Heading (after other) := by
  obtain ⟨other, heads⟩ := heading
  refine ⟨other, ?_⟩
  by_cases mover : other = thread
  · subst mover
    rw [own]
    exact onward heads
  · rwa [others other mover]

theorem Orderly.quiet (orderly : Orderly notice stages) (held : Held next.locked after) (own : after thread = now)
    (others : ∀ other, other ≠ thread → after other = stages other)
    (same : next.isStop = notice.isStop ∧ next.stopCh = notice.stopCh) (was : stages thread ≠ some .close)
    (place : now ≠ some .mark ∧ now ≠ some .close ∧ now ≠ some .unlock)
    (swaps : next.recvChannelClosed = true → Heading now ∨
      notice.recvChannelClosed = true ∧ (Heading (stages thread) → Heading now)) : Orderly next after := by
  have elsewhere : ∀ {other stage}, after other = some stage → now ≠ some stage → stages other = some stage := by
    intro other stage stands different
    by_cases mover : other = thread
    · rw [mover, own] at stands
      exact absurd stands different
    · rwa [others other mover] at stands
  refine { toHeld := held, unmarked := ?_, unclosed := ?_, closed := ?_, stopping := ?_, running := ?_, swapped := ?_ }
  · intro other stands
    rw [same.1]
    exact orderly.unmarked other (elsewhere stands place.1)
  · intro other stands
    rw [same.1, same.2]
    exact orderly.unclosed other (elsewhere stands place.2.1)
  · intro other stands
    rw [same.2]
    exact orderly.closed other (elsewhere stands place.2.2)
  · rw [same.1, same.2]
    refine fun stops => (orderly.stopping stops).imp_right ?_
    rintro ⟨other, closing⟩
    have apart : other ≠ thread := fun mover => was (mover ▸ closing)
    exact ⟨other, by rw [others other apart, closing]⟩
  · rw [same.1, same.2]
    exact orderly.running
  · intro swapped
    rcases swaps swapped with heads | ⟨before, onward⟩
    · exact Or.inr ⟨thread, own ▸ heads⟩
    · rw [same.2]
      exact (orderly.swapped before).imp_right (heading_after own others onward)

/-- A step between `mark` and `close`. Nobody else is inside then, so that the claims
about these lines are about the mover alone. -/
theorem Orderly.busy (orderly : Orderly notice stages) (held : Held next.locked after) (own : after thread = now)
    (others : ∀ other, other ≠ thread → after other = stages other) (within : inside (stages thread) = true)
    (unmarked : now = some .mark → next.isStop = false)
    (unclosed : now = some .close → next.isStop = true ∧ next.stopCh = false)
    (closed : now = some .unlock → next.stopCh = true)
    (stopping : next.isStop = true → next.stopCh = true ∨ now = some .close)
    (running : next.isStop = false → next.stopCh = false)
    (swapped : next.stopCh = true ∨ Heading now) : Orderly next after := by
  have only : ∀ {other stage}, after other = some stage → inside (some stage) = true → now = some stage := by
    intro other stage stands inner
    by_cases mover : other = thread
    · rwa [mover, own] at stands
    · rw [others other mover] at stands
      exact absurd (orderly.alone other thread (by rw [stands, inner]) within) mover
  exact {
    toHeld := held
    unmarked := fun other stands => unmarked (only stands rfl)
    unclosed := fun other stands => unclosed (only stands rfl)
    closed := fun other stands => closed (only stands rfl)
    stopping := fun stops => (stopping stops).imp_right fun closing => ⟨thread, own.trans closing⟩
    running := running
    swapped := fun _ => swapped.imp_right fun heads => ⟨thread, own ▸ heads⟩ }

theorem Orderly.step (orderly : Orderly notice stages) (moves : Moves notice (stages thread) next now)
    (own : after thread = now) (others : ∀ other, other ≠ thread → after other = stages other) :
    Orderly next after := by
  have held := orderly.toHeld.step (moves.guarded fun closing => (orderly.unclosed thread closing).2) own others
  generalize before : stages thread = stage at moves
  have outside : stage ≠ some .close → ¬ Heading stage →
      ∀ {later : Notice}, later.isStop = notice.isStop ∧ later.stopCh = notice.stopCh →
      later.recvChannelClosed = notice.recvChannelClosed → now ≠ some .mark ∧ now ≠ some .close ∧ now ≠ some .unlock →
      Held later.locked after → Orderly later after := by
    intro was aside later same mark place held
    exact orderly.quiet held own others same (before ▸ was) place fun swapped =>
      Or.inr ⟨mark ▸ swapped, fun heads => absurd (before ▸ heads) aside⟩
  have within : inside stage = true → inside (stages thread) = true := fun inner => before ▸ inner
  cases moves with
  | away => exact outside nofun (by simp [Heading]) ⟨rfl, rfl⟩ rfl ⟨nofun, nofun, nofun⟩ held
  | begun => exact outside nofun (by simp [Heading]) ⟨rfl, rfl⟩ rfl ⟨nofun, nofun, nofun⟩ held
  | panicked reason =>
      rcases reason with rfl | ⟨rfl, closed⟩
      · exact outside nofun (by simp [Heading]) ⟨rfl, rfl⟩ rfl ⟨nofun, nofun, nofun⟩ held
      · rw [(orderly.unclosed thread before).2] at closed
        cases closed
  | named onward =>
      exact outside nofun (by simp [Heading]) ⟨rfl, rfl⟩ rfl
        (by rcases onward with rfl | rfl <;> exact ⟨nofun, nofun, nofun⟩) held
  | swapped _ =>
      exact orderly.quiet held own others ⟨rfl, rfl⟩ (before ▸ nofun) ⟨nofun, nofun, nofun⟩ fun _ => Or.inl (Or.inl rfl)
  | skipped _ later =>
      exact outside nofun (by simp [Heading]) ⟨rfl, rfl⟩ rfl
        (by rcases later with rfl | rfl <;> exact ⟨nofun, nofun, nofun⟩) held
  | locked _ =>
      exact orderly.quiet held own others ⟨rfl, rfl⟩ (before ▸ nofun) ⟨nofun, nofun, nofun⟩ fun _ =>
        Or.inl (Or.inr (Or.inl rfl))
  | stopped stops =>
      have closed : notice.stopCh = true := by
        rcases orderly.stopping stops with closed | ⟨other, closing⟩
        · exact closed
        · have same := orderly.alone other thread (by rw [closing]; rfl) (within rfl)
          rw [same, before] at closing
          cases closing
      exact orderly.busy held own others (within rfl) nofun nofun (fun _ => closed) (fun _ => Or.inl closed)
        (fun runs => by rw [stops] at runs; cases runs) (Or.inl closed)
  | running runs =>
      exact orderly.busy held own others (within rfl) (fun _ => runs) nofun nofun
        (fun stops => by rw [runs] at stops; cases stops) orderly.running (Or.inr (Or.inr (Or.inr (Or.inl rfl))))
  | marked =>
      have unclosed := orderly.running (orderly.unmarked thread before)
      exact orderly.busy held own others (within rfl) nofun (fun _ => ⟨rfl, unclosed⟩) nofun (fun _ => Or.inr rfl) nofun
        (Or.inr (Or.inr (Or.inr (Or.inr rfl))))
  | closed _ =>
      have stops := (orderly.unclosed thread before).1
      exact orderly.busy held own others (within rfl) nofun nofun (fun _ => rfl) (fun _ => Or.inl rfl)
        (fun runs => by rw [stops] at runs; cases runs) (Or.inl rfl)
  | unlocked later =>
      exact outside nofun (by simp [Heading]) ⟨rfl, rfl⟩ rfl
        (by rcases later with rfl | rfl <;> exact ⟨nofun, nofun, nofun⟩) held

end Order

def stages (ref : ClientRef) (world : World Shared Code) (thread : Nat) : Option Stage :=
  stageOf ref (world.locals thread)

theorem orderly_step {node : Node} {components : List Component} {before after : World Shared Code}
    {move : Nat × Choice} (step : Steps (program node components) before move after) (ref : ClientRef)
    (orderly : Orderly (before.shared.notices ref) (stages ref before)) :
    Orderly (after.shared.notices ref) (stages ref after) := by
  cases step with
  | @move thread choice shared now moved =>
      refine orderly.step ((program_stepped moved).moves ref) ?_ ?_
      · simp [stages]
      · intro other different
        simp only [stages, World.set_other before shared now different]

/-! The keys and the identities of the clients. -/

def pubKeys (reg : Registry) : List String := reg.clients.map (·.pubKey)

theorem pubKeys_setPubKey (shared : Shared) (ref : ClientRef) (pubKey : String) :
    pubKeys (shared.setPubKey ref pubKey).reg = (pubKeys shared.reg).set ref pubKey := by
  apply List.ext_getElem?
  intro index
  simp only [pubKeys, Shared.setPubKey, List.getElem?_map, List.getElem?_modify, List.getElem?_set,
    List.length_map]
  by_cases own : ref = index
  · subst own
    cases found : shared.reg.clients[ref]? with
    | none => simp [List.getElem?_eq_none_iff.mp found]
    | some client => simp [(List.getElem?_eq_some_iff.mp found).1]
  · simp [own]

theorem ids_setPubKey (shared : Shared) (ref : ClientRef) (pubKey : String) :
    ids (shared.setPubKey ref pubKey).reg = ids shared.reg := by
  apply List.ext_getElem?
  intro index
  simp only [ids, Shared.setPubKey, List.getElem?_map, List.getElem?_modify]
  split
  · cases shared.reg.clients[index]? <;> rfl
  · cases shared.reg.clients[index]? <;> rfl

theorem getOrSetPeerClient_pubKeys {env : Env} {reg next : Registry} {address peerID : String}
    {conn dialed : Option Conn} {returned : Option ClientRef}
    (called : getOrSetPeerClient env reg address peerID conn dialed = .done (returned, next)) :
    pubKeys reg <+: pubKeys next := by
  cases returns_of_called called with
  | rejected _ => exact List.prefix_rfl
  | present _ _ _ =>
      have same : ∀ unified key, pubKeys (rename reg unified key) = pubKeys reg := by
        intro unified key
        rw [pubKeys, rename_clients, pubKeys]
      exact (same _ _).symm ▸ List.prefix_rfl
  | undialed _ _ _ _ => exact List.prefix_rfl
  | created _ _ _ _ =>
      rw [pubKeys, pubKeys, enter_clients, List.map_append]
      exact List.prefix_append _ _

theorem pubKeys_stable (node : Node) (keys : List String) : Stable node fun reg => keys <+: pubKeys reg where
  registered _ _ _ _ _ _ _ held called := held.trans (getOrSetPeerClient_pubKeys called)
  named reg ref sender held := by
    unfold setID
    split
    · exact held
    · rename_i client found
      have kept : (reg.clients.set ref { client with id := some sender }).map (·.pubKey) = pubKeys reg :=
        set_map found rfl
      change keys <+: (reg.clients.set ref { client with id := some sender }).map (·.pubKey)
      rwa [kept]
  closed _ _ _ held closed := by
    rwa [pubKeys, close_map closed fun _ => rfl]
  updated _ _ _ held := held
  switched _ _ held := by
    rwa [pubKeys, enableAckReply_map _ _ fun _ => rfl]

/-- A call gives no client an identity and takes none away. -/
theorem getOrSetPeerClient_identities {env : Env} {reg next : Registry} {address peerID : String}
    {conn dialed : Option Conn} {returned : Option ClientRef}
    (called : getOrSetPeerClient env reg address peerID conn dialed = .done (returned, next)) (ref : ClientRef)
    (id : ID) : (ids next)[ref]? = some (some id) ↔ (ids reg)[ref]? = some (some id) := by
  rcases getOrSetPeerClient_ids called with ⟨_, same, _⟩ | ⟨_, unified, _, _, _, _, rfl⟩ | ⟨_, added, _⟩
  · rw [same]
  · rw [ids_rename]
  · rw [added, List.getElem?_append]
    split
    · rfl
    · rename_i outside
      rw [List.getElem?_eq_none (Nat.not_lt.mp outside)]
      cases ref - (ids reg).length <;> simp

theorem getOrSetPeerClient_inside {env : Env} {reg next : Registry} {address peerID : String}
    {conn dialed : Option Conn} {ref : ClientRef}
    (called : getOrSetPeerClient env reg address peerID conn dialed = .done (some ref, next)) :
    ref < (ids next).length := by
  rcases getOrSetPeerClient_ids called with ⟨nobody, _⟩ | ⟨other, unified, _, same, takes, _, rfl⟩ | ⟨same, added, _⟩
  · cases nobody
  · cases same
    obtain ⟨_, _, _, _, ready⟩ := takes
    cases found : reg.clients[ref]? with
    | none => simp [found] at ready
    | some client => simpa [ids_rename] using (List.getElem?_eq_some_iff.mp found).1
  · cases same
    simp [added]

theorem getOrSetPeerClient_held {env : Env} {reg next : Registry} {address peerID : String}
    {conn dialed : Option Conn} {ref : ClientRef}
    (called : getOrSetPeerClient env reg address peerID conn dialed = .done (some ref, next)) :
    next.peers (keyOf address peerID) = some ref := by
  generalize result : some ref = returned at called
  rw [← result]
  cases returns_of_called called with
  | rejected _ => cases result
  | @present unified info other _ _ held same =>
      rw [← result] at same
      split at same <;> cases same
      exact held
  | undialed _ _ _ _ => cases result
  | created _ _ _ _ =>
      rw [enter_peers, result]
      simp [store]

/-- A message gives at most one client an identity: the one that the registry returns
for its sender. -/
theorem handle_identities {node : Node} {session : Session} {reg : Registry} {input : Input} {result : Processed}
    (handled : handle node session reg input = .done result) :
    ids result.reg = ids reg ∧ result.dispatched = none ∨
      ∃ sender returned next, input.msg.sender = some sender ∧
        register node session reg sender input.dialed = .done (returned, next) ∧
        (ids result.reg = ids next ∧ result.dispatched = none ∨ ∃ ref, returned = some ref ∧
          ids result.reg = (ids next).set ref (some sender) ∧ ∀ other, result.dispatched = some other → other = ref) := by
  cases named : input.msg.sender with
  | none =>
      unfold handle at handled
      split at handled
      · simp [handleUdp, named] at handled
      · simp [handleStream, named] at handled
  | some sender =>
      rcases (handle_cases named handled).2 with ⟨_, same, nobody⟩ | ⟨_, returned, next, registered, turn⟩
      · exact Or.inl ⟨by rw [same], nobody⟩
      · refine Or.inr ⟨sender, returned, next, rfl, registered, ?_⟩
        rcases turn with ⟨_, same, nobody⟩ | ⟨ref, given, admits⟩
        · exact Or.inl ⟨same, nobody⟩
        · exact Or.inr ⟨ref, given, admits.written, fun other handed => ((admits.dispatched other).mp handed).1⟩

def Identified (shared : Shared) (ref : ClientRef) : Prop := ∃ sender, (ids shared.reg)[ref]? = some (some sender)

/-- The event is a message of the sender, for whom the registry returns the client and
keeps it under the sender's key. -/
def Registers (node : Node) (reg : Registry) (event : Event) (ref : ClientRef) (sender : ID) : Prop :=
  ∃ session input next, event = .message session input ∧ input.msg.sender = some sender ∧
    register node session reg sender input.dialed = .done (some ref, next) ∧
    next.peers (keyOf sender.address sender.publicKeyHex) = some ref

/-- Where the identity of a client comes from, and that it has one before it gets a `Pong`. -/
structure Identities (node : Node) (shared : Shared) (event : Event) (next : Shared) (ref : ClientRef) : Prop where
  source : ∀ sender, (ids next.reg)[ref]? = some (some sender) →
    (ids shared.reg)[ref]? = some (some sender) ∨ Registers node shared.reg event ref sender
  kept : Identified shared ref → Identified next ref
  posted : ref ∈ next.pongs → ref ∈ shared.pongs ∨ Identified next ref

section Events

variable {node : Node} {shared next : Shared} {event : Event}

theorem happen_pubKeys (happened : shared.happen node event = .done next) :
    pubKeys shared.reg <+: pubKeys next.reg ∧ next.notices = shared.notices := by
  obtain ⟨world, stepped, rfl⟩ := Outcome.map_eq_done.mp happened
  exact ⟨(pubKeys_stable node (pubKeys shared.reg)).step stepped List.prefix_rfl, rfl⟩

theorem Identities.of_same {ref : ClientRef} (pongs : next.pongs = shared.pongs)
    (same : ∀ sender, (ids next.reg)[ref]? = some (some sender) ↔ (ids shared.reg)[ref]? = some (some sender)) :
    Identities node shared event next ref where
  source sender held := Or.inl ((same sender).mp held)
  kept := fun ⟨sender, held⟩ => ⟨sender, (same sender).mpr held⟩
  posted member := Or.inl (pongs ▸ member)

theorem message_identities {session : Session} {input : Input} {result : Processed}
    (handled : handle node session shared.reg input = .done result)
    (reg : next.reg = result.reg)
    (pongs : ∀ ref ∈ next.pongs, ref ∈ shared.pongs ∨ result.dispatched = some ref) (ref : ClientRef) :
    Identities node shared (.message session input) next ref := by
  rcases handle_identities handled with ⟨same, nobody⟩ | ⟨sender, returned, after, named, registered, turn⟩
  · refine ⟨fun other held => Or.inl ?_, fun ⟨other, held⟩ => ⟨other, ?_⟩, fun member => ?_⟩
    · rwa [reg, same] at held
    · rwa [reg, same]
    · exact Or.inl (by simpa [nobody] using pongs ref member)
  · have before := getOrSetPeerClient_identities registered ref
    rcases turn with ⟨same, nobody⟩ | ⟨taken, rfl, written, only⟩
    · refine ⟨fun other held => Or.inl ?_, fun ⟨other, held⟩ => ⟨other, ?_⟩, fun member => ?_⟩
      · rwa [reg, same, before other] at held
      · rwa [reg, same, before other]
      · exact Or.inl (by simpa [nobody] using pongs ref member)
    · -- The client of the message has the sender's identity now, every other one its own.
      have inside := getOrSetPeerClient_inside registered
      by_cases own : taken = ref
      · subst own
        have now : (ids next.reg)[taken]? = some (some sender) := by
          rw [reg, written, List.getElem?_set_self inside]
        refine ⟨fun other held => Or.inr ?_, fun _ => ⟨sender, now⟩, fun _ => Or.inr ⟨sender, now⟩⟩
        rw [now] at held
        cases held
        exact ⟨session, input, after, rfl, named, registered, getOrSetPeerClient_held registered⟩
      · have kept : (ids next.reg)[ref]? = (ids after)[ref]? := by
          rw [reg, written, List.getElem?_set_ne own]
        refine ⟨fun other held => Or.inl ?_, fun ⟨other, held⟩ => ⟨other, ?_⟩, fun member => ?_⟩
        · rwa [kept, before other] at held
        · rwa [kept, before other]
        · rcases pongs ref member with old | handed
          · exact Or.inl old
          · exact absurd (only ref handed).symm own

theorem happen_identities (happened : shared.happen node event = .done next) (ref : ClientRef) :
    Identities node shared event next ref := by
  obtain ⟨world, stepped, rfl⟩ := Outcome.map_eq_done.mp happened
  cases event with
  | message session input =>
      obtain ⟨result, handled, rfl⟩ := Outcome.map_eq_done.mp stepped
      refine message_identities handled rfl (fun other member => ?_) ref
      rcases List.mem_append.mp member with old | new
      · exact Or.inl old
      · refine Or.inr ?_
        split at new
        · obtain ⟨entry, noted, rfl⟩ := List.mem_map.mp new
          unfold note at noted
          split at noted
          · simp_all
          · cases noted
        · cases new
  | client address peerID dialed =>
      obtain ⟨⟨returned, reg⟩, called, rfl⟩ := Outcome.map_eq_done.mp stepped
      exact .of_same (by simp [isPong]) (getOrSetPeerClient_identities called ref)
  | close other =>
      obtain ⟨reg, closed, rfl⟩ := Outcome.map_eq_done.mp stepped
      exact .of_same (by simp [isPong]) fun sender => by rw [close_ids closed]
  | updateConnState peerID state =>
      cases stepped
      exact .of_same (by simp [isPong]) fun sender => Iff.rfl
  | enableAckReply other =>
      cases stepped
      exact .of_same (by simp [isPong]) fun sender => by rw [ids_enableAckReply]

end Events

/-! What has happened so far, and what it says about the keys that are handed out. -/

/-- Whether a move that meets a condition has been made. -/
abbrev Record := (World Shared Code → Nat × Choice → Prop) → Prop

def Names (node : Node) (ref : ClientRef) (sender : ID) (world : World Shared Code) (move : Nat × Choice) : Prop :=
  ∃ event, move.2 = .event event ∧ Registers node world.shared.reg event ref sender

def Obtains (node : Node) (caller : Nat) (address : String) (ref : ClientRef) (world : World Shared Code)
    (move : Nat × Choice) : Prop :=
  ∃ dialed next, move = (caller, .dial dialed) ∧
    getOrSetPeerClient node.env world.shared.reg address "" none dialed = .done (some ref, next) ∧
    next.peers address = some ref

/-- The caller dialled the address, and a message of the sender came in for the client it got. -/
def Answers (node : Node) (did : Record) (caller : Nat) (address : String) (sender : ID) : Prop :=
  ∃ ref, did (Obtains node caller address ref) ∧ did (Names node ref sender)

def Finds (caller : Nat) (address : String) (world : World Shared Code) (move : Nat × Choice) : Prop :=
  move = (caller, .go) ∧
    (world.locals caller = .connectPeer address ∧ (world.shared.reg.connections address).isSome ∨
      world.locals caller = .clientExist address ∧ (world.shared.reg.peers address).isSome)

def Known (node : Node) (did : Record) (shared : Shared) (ref : ClientRef) : Prop :=
  ∃ sender, did (Names node ref sender) ∧ (pubKeys shared.reg)[ref]? = some sender.publicKeyHex

def Trying (node : Node) (did : Record) (caller : Nat) (shared : Shared) (address : String) : Attempt → Prop
  | .client => True
  | .ping ref | .wait ref | .expire ref => did (Obtains node caller address ref)
  | .read ref => did (Obtains node caller address ref) ∧ Known node did shared ref
  | .ended none => True
  | .ended (some clientID) => ∃ sender, sender.publicKeyHex = clientID ∧ Answers node did caller address sender

/-- The keys collected, each with the address it was got for. -/
structure Collected (node : Node) (did : Record) (caller : Nat) (addresses left clientID : List String)
    (answered : List (String × ID)) : Prop where
  keys : answered.map (·.2.publicKeyHex) = clientID
  order : (answered.map (·.1) ++ left).Sublist (filterPeers node.env.resolver [node.env.address] addresses)
  answers : ∀ address sender, (address, sender) ∈ answered → Answers node did caller address sender

def Own (node : Node) (did : Record) (thread : Nat) (shared : Shared) : Code → Prop
  | .pong ref _ _ stage => Identified shared ref ∧ (stage ≠ .name → Known node did shared ref)
  | .connecting address stage => Trying node did thread shared address stage
  | .connected address (some clientID) => clientID = "" ∧ did (Finds thread address) ∨
      ∃ sender, sender.publicKeyHex = clientID ∧ Answers node did thread address sender
  | .bootstrapping addresses address stage rest clientID => Trying node did thread shared address stage ∧
      ∃ answered, Collected node did thread addresses (address :: rest) clientID answered
  | .bootstrapped addresses clientID => ∃ answered, Collected node did thread addresses [] clientID answered
  | .panicked => False
  | _ => True

structure Grows (node : Node) (did later : Record) (before after : Shared) : Prop where
  record : ∀ Meets, did Meets → later Meets
  known : ∀ ref, Known node did before ref → Known node later after ref
  identified : ∀ ref, Identified before ref → Identified after ref

section Growing

variable {node : Node} {did later : Record} {before after : Shared} (grows : Grows node did later before after)
include grows

theorem Grows.answers {caller : Nat} {address : String} {sender : ID}
    (answers : Answers node did caller address sender) : Answers node later caller address sender := by
  obtain ⟨ref, obtained, named⟩ := answers
  exact ⟨ref, grows.record _ obtained, grows.record _ named⟩

theorem Grows.trying {caller : Nat} {address : String} {stage : Attempt}
    (trying : Trying node did caller before address stage) : Trying node later caller after address stage := by
  cases stage with
  | client => trivial
  | ping ref => exact grows.record _ trying
  | wait ref => exact grows.record _ trying
  | expire ref => exact grows.record _ trying
  | read ref => exact ⟨grows.record _ trying.1, grows.known _ trying.2⟩
  | ended result =>
      cases result with
      | none => trivial
      | some clientID =>
          obtain ⟨sender, key, answers⟩ := trying
          exact ⟨sender, key, grows.answers answers⟩

theorem Grows.collected {caller : Nat} {addresses left clientID : List String} {answered : List (String × ID)}
    (collected : Collected node did caller addresses left clientID answered) :
    Collected node later caller addresses left clientID answered :=
  { collected with answers := fun address sender member => grows.answers (collected.answers address sender member) }

theorem Grows.own {thread : Nat} {code : Code} (own : Own node did thread before code) :
    Own node later thread after code := by
  cases code with
  | pong ref component rest stage =>
      exact ⟨grows.identified _ own.1, fun passed => grows.known _ (own.2 passed)⟩
  | connecting address stage => exact grows.trying own
  | connected address result =>
      cases result with
      | none => trivial
      | some clientID =>
          refine own.imp (And.imp_right (grows.record _)) ?_
          rintro ⟨sender, key, answers⟩
          exact ⟨sender, key, grows.answers answers⟩
  | bootstrapping addresses address stage rest clientID =>
      obtain ⟨trying, answered, collected⟩ := own
      exact ⟨grows.trying trying, answered, grows.collected collected⟩
  | bootstrapped addresses clientID =>
      obtain ⟨answered, collected⟩ := own
      exact ⟨answered, grows.collected collected⟩
  | panicked => exact own
  | idle => trivial
  | loop => trivial
  | connectPeer address => trivial
  | clientExist address => trivial
  | bootstrap addresses => trivial

end Growing

structure Inv (node : Node) (did : Record) (world : World Shared Code) : Prop where
  named : ∀ ref sender, (ids world.shared.reg)[ref]? = some (some sender) → did (Names node ref sender)
  posted : ∀ ref ∈ world.shared.pongs, Identified world.shared ref
  noticed : ∀ ref, (world.shared.notices ref).recvChannelClosed = true ∨ (world.shared.notices ref).isStop = true ∨
    (world.shared.notices ref).stopCh = true → Known node did world.shared ref
  own : ∀ thread, Own node did thread world.shared (world.locals thread)

structure Recorded (did later : Record) (world : World Shared Code) (move : Nat × Choice) : Prop where
  kept : ∀ Meets, did Meets → later Meets
  added : ∀ Meets, Meets world move → later Meets

/-- A move whose mover finds its own part right, if the clients only gain and the notices
only change for a client with a key. -/
theorem Inv.set {node : Node} {did later : Record} {world : World Shared Code} {thread : Nat} {next : Shared}
    {now : Code} (inv : Inv node did world) (grows : Grows node did later world.shared next)
    (named : ∀ ref sender, (ids next.reg)[ref]? = some (some sender) → later (Names node ref sender))
    (posted : ∀ ref ∈ next.pongs, ref ∈ world.shared.pongs ∨ Identified next ref)
    (notices : ∀ ref, next.notices ref = world.shared.notices ref ∨ Known node later next ref)
    (own : Own node later thread next now) : Inv node later (world.set thread next now) where
  named := named
  posted ref member := by
    rcases posted ref member with old | new
    · exact grows.identified ref (inv.posted ref old)
    · exact new
  noticed ref closed := by
    rcases notices ref with same | known
    · rw [World.set_shared, same] at closed
      exact grows.known ref (inv.noticed ref closed)
    · exact known
  own other := by
    by_cases mover : other = thread
    · subst mover
      rwa [World.set_self]
    · rw [World.set_other world next now mover]
      exact grows.own (inv.own other)

section Steps

variable {node : Node} {components : List Component} {did later : Record} {world : World Shared Code}
  {thread : Nat} {choice : Choice} {next : Shared} {now : Code}

theorem Grows.of_pubKeys {before after : Shared} (record : ∀ Meets, did Meets → later Meets)
    (keys : pubKeys before.reg <+: pubKeys after.reg) (identified : ∀ ref, Identified before ref → Identified after ref) :
    Grows node did later before after where
  record := record
  known := by
    rintro ref ⟨sender, named, key⟩
    obtain ⟨inside, value⟩ := List.getElem?_eq_some_iff.mp key
    exact ⟨sender, record _ named, by rw [List.prefix_iff_getElem?.mp keys ref inside, value]⟩
  identified := identified

theorem Grows.of_reg {before after : Shared} (record : ∀ Meets, did Meets → later Meets)
    (same : after.reg = before.reg) : Grows node did later before after := by
  refine .of_pubKeys record (same ▸ List.prefix_rfl) fun ref identified => ?_
  unfold Identified at identified ⊢
  rwa [same]

theorem Inv.move (inv : Inv node did world) (record : ∀ Meets, did Meets → later Meets)
    (own : Own node later thread world.shared now) : Inv node later (world.set thread world.shared now) :=
  inv.set (.of_reg record rfl) (fun ref sender held => record _ (inv.named ref sender held))
    (fun _ member => Or.inl member) (fun _ => Or.inl rfl) own

theorem Inv.notice (inv : Inv node did world) (record : ∀ Meets, did Meets → later Meets) {ref : ClientRef}
    (known : Known node did world.shared ref) (notice : Notice)
    (own : Own node later thread (world.shared.setNotice ref notice) now) :
    Inv node later (world.set thread (world.shared.setNotice ref notice) now) := by
  have grows : Grows node did later world.shared (world.shared.setNotice ref notice) := .of_reg record rfl
  refine inv.set grows (fun other sender held => record _ (inv.named other sender held))
    (fun _ member => Or.inl member) (fun other => ?_) own
  by_cases same : other = ref
  · exact Or.inr (same ▸ grows.known ref known)
  · exact Or.inl (setNotice_other _ _ same)

theorem Inv.event {event : Event} (inv : Inv node did world) (recorded : Recorded did later world (thread, .event event))
    (happened : world.shared.happen node event = .done next) : Inv node later (world.set thread next .loop) := by
  obtain ⟨keys, notices⟩ := happen_pubKeys happened
  have identities := happen_identities happened
  refine inv.set (.of_pubKeys recorded.kept keys fun ref => (identities ref).kept) (fun ref sender held => ?_)
    (fun ref => (identities ref).posted) (fun ref => Or.inl (by rw [notices])) trivial
  rcases (identities ref).source sender held with old | new
  · exact recorded.kept _ (inv.named ref sender old)
  · exact recorded.added _ ⟨event, rfl, new⟩

theorem Inv.registry {reg : Registry} (inv : Inv node did world) (record : ∀ Meets, did Meets → later Meets)
    (keys : pubKeys world.shared.reg <+: pubKeys reg)
    (same : ∀ (ref : ClientRef) (sender : ID),
      (ids reg)[ref]? = some (some sender) ↔ (ids world.shared.reg)[ref]? = some (some sender))
    (own : Own node later thread { world.shared with reg := reg } now) :
    Inv node later (world.set thread { world.shared with reg := reg } now) := by
  refine inv.set (.of_pubKeys record keys ?_) (fun ref sender held => ?_) (fun _ member => Or.inl member)
    (fun _ => Or.inl rfl) own
  · rintro ref ⟨sender, held⟩
    exact ⟨sender, (same ref sender).mpr held⟩
  · exact record _ (inv.named ref sender ((same ref sender).mp held))

theorem Inv.attempt {address : String} {stage after : Attempt} (code : Attempt → Code)
    (inv : Inv node did world) (recorded : Recorded did later world (thread, choice))
    (trying : Trying node did thread world.shared address stage)
    (own : ∀ shared, Grows node did later world.shared shared → Trying node later thread shared address after →
      Own node later thread shared (code after))
    (tried : Handshake.attempt node world.shared address choice stage = some (next, after)) :
    Inv node later (world.set thread next (code after)) := by
  have still : Grows node did later world.shared world.shared := .of_reg recorded.kept rfl
  have changed : ∀ {reg : Registry}, pubKeys world.shared.reg <+: pubKeys reg →
      (∀ (ref : ClientRef) (sender : ID),
        (ids reg)[ref]? = some (some sender) ↔ (ids world.shared.reg)[ref]? = some (some sender)) →
      Trying node later thread { world.shared with reg := reg } address after →
      Inv node later (world.set thread { world.shared with reg := reg } (code after)) := by
    intro reg keys same trying
    refine inv.registry recorded.kept keys same (own _ (.of_pubKeys recorded.kept keys ?_) trying)
    rintro ref ⟨sender, held⟩
    exact ⟨sender, (same ref sender).mpr held⟩
  unfold Handshake.attempt at tried
  split at tried
  · split at tried
    · cases tried
    · rename_i answer
      cases tried
      exact changed (getOrSetPeerClient_pubKeys answer) (getOrSetPeerClient_identities answer) trivial
    · rename_i answer
      cases tried
      exact changed (getOrSetPeerClient_pubKeys answer) (getOrSetPeerClient_identities answer)
        (recorded.added _ ⟨_, _, rfl, answer, getOrSetPeerClient_held answer⟩)
  · cases tried
    refine inv.move recorded.kept (own _ still ?_)
    split
    · exact recorded.kept _ trying
    · trivial
  · obtain ⟨closed, same⟩ := Option.ite_none_right_eq_some.mp tried
    cases same
    have known := inv.noticed _ (Or.inr (Or.inr closed))
    exact inv.move recorded.kept (own _ still ⟨recorded.kept _ trying, still.known _ known⟩)
  · cases tried
    exact inv.move recorded.kept (own _ still (recorded.kept _ trying))
  · rename_i ref
    cases tried
    refine inv.move recorded.kept (own _ still ?_)
    obtain ⟨obtained, sender, named, key⟩ := trying
    have read : world.shared.reg.clients[ref]?.map (·.pubKey) = some sender.publicKeyHex := by
      rw [← key, pubKeys, List.getElem?_map]
    rw [read]
    exact ⟨sender, rfl, ref, recorded.kept _ obtained, recorded.kept _ named⟩
  · split at tried
    · cases tried
    · rename_i closed
      cases tried
      have keys : pubKeys _ = pubKeys world.shared.reg := close_map closed fun _ => rfl
      exact changed (keys ▸ List.prefix_rfl) (fun ref sender => by rw [close_ids closed]) trivial
  · cases tried

theorem Own.nextComponent {shared : Shared} {ref : ClientRef} (identified : Identified shared ref)
    (rest : List Component) : Own node did thread shared (nextComponent ref rest) := by
  cases rest with
  | nil => trivial
  | cons component rest => exact ⟨identified, fun passed => absurd rfl passed⟩

theorem Inv.name {ref : ClientRef} {sender : ID} (inv : Inv node did world)
    (record : ∀ Meets, did Meets → later Meets) (held : (ids world.shared.reg)[ref]? = some (some sender))
    (own : Known node later (world.shared.setPubKey ref sender.publicKeyHex) ref →
      Own node later thread (world.shared.setPubKey ref sender.publicKeyHex) now) :
    Inv node later (world.set thread (world.shared.setPubKey ref sender.publicKeyHex) now) := by
  have named := inv.named ref sender held
  have inside : ref < (pubKeys world.shared.reg).length := by
    obtain ⟨bound, _⟩ := List.getElem?_eq_some_iff.mp held
    simpa [pubKeys] using bound
  have written : Known node later (world.shared.setPubKey ref sender.publicKeyHex) ref :=
    ⟨sender, record _ named, by rw [pubKeys_setPubKey, List.getElem?_set_self inside]⟩
  have grows : Grows node did later world.shared (world.shared.setPubKey ref sender.publicKeyHex) := by
    refine ⟨record, ?_, fun other identified => ?_⟩
    · rintro other ⟨one, before, key⟩
      by_cases same : ref = other
      · exact same ▸ written
      · exact ⟨one, record _ before, by rwa [pubKeys_setPubKey, List.getElem?_set_ne same]⟩
    · unfold Identified at identified ⊢
      rwa [ids_setPubKey]
  refine inv.set grows (fun other one stored => ?_) (fun _ member => Or.inl member) (fun _ => Or.inl rfl) (own written)
  rw [ids_setPubKey] at stored
  exact record _ (inv.named other one stored)

theorem Inv.receive {ref : ClientRef} {component : Component} {rest : List Component} {stage : Stage}
    (inv : Inv node did world) (record : ∀ Meets, did Meets → later Meets)
    (orderly : Orderly (world.shared.notices ref) (stages ref world))
    (place : world.locals thread = .pong ref component rest stage)
    (received : receive world.shared ref component rest stage = some (next, now)) :
    Inv node later (world.set thread next now) := by
  have part : Own node did thread world.shared (.pong ref component rest stage) := place ▸ inv.own thread
  obtain ⟨identified, passed⟩ := part
  -- Beyond the first stage the key is written, and stays so.
  have beyond : ∀ {notice : Notice} {stage : Stage}, Known node did world.shared ref →
      Own node later thread (world.shared.setNotice ref notice) (.pong ref component rest stage) :=
    fun known => ⟨identified, fun _ => (Grows.of_reg record rfl).known ref known⟩
  cases stage with
  | name =>
      obtain ⟨sender, held⟩ := identified
      simp only [Handshake.receive, held] at received
      cases received
      refine inv.name record held fun known => ⟨⟨sender, ?_⟩, fun _ => known⟩
      rwa [ids_setPubKey]
  | swap =>
      have known := passed (by decide)
      cases received
      refine inv.notice record known _ ?_
      split
      · exact Own.nextComponent identified rest
      · exact beyond known
  | lock =>
      have known := passed (by decide)
      obtain ⟨_, same⟩ := Option.ite_none_left_eq_some.mp received
      cases same
      exact inv.notice record known _ (beyond known)
  | check =>
      have known := passed (by decide)
      cases received
      exact inv.move record ⟨identified, fun _ => (Grows.of_reg record rfl).known ref known⟩
  | mark =>
      have known := passed (by decide)
      cases received
      exact inv.notice record known _ (beyond known)
  | close =>
      have known := passed (by decide)
      have unclosed := (orderly.unclosed thread (by simp [stages, place, stageOf])).2
      simp only [Handshake.receive, unclosed, Bool.false_eq_true, if_false] at received
      cases received
      exact inv.notice record known _ (beyond known)
  | unlock =>
      have known := passed (by decide)
      cases received
      exact inv.notice record known _ (Own.nextComponent identified rest)

theorem Collected.nextAddress {addresses rest clientID : List String} {answered : List (String × ID)} {shared : Shared}
    (collected : Collected node did thread addresses rest clientID answered) :
    Own node did thread shared (nextAddress addresses clientID rest) := by
  cases rest with
  | nil => exact ⟨answered, collected⟩
  | cons address rest => exact ⟨trivial, answered, collected⟩

theorem Collected.advance {addresses rest clientID : List String} {address : String} {answered : List (String × ID)}
    {shared : Shared} {result : Option String}
    (collected : Collected node did thread addresses (address :: rest) clientID answered)
    (trying : Trying node did thread shared address (.ended result)) :
    ∃ more, Collected node did thread addresses rest (clientID ++ result.toList) more := by
  cases result with
  | none =>
      refine ⟨answered, by simpa using collected.keys, ?_, collected.answers⟩
      exact (List.sublist_append_right [address] rest |>.append_left (answered.map (·.1))).trans collected.order
  | some key =>
      obtain ⟨sender, rfl, answers⟩ := trying
      refine ⟨answered ++ [(address, sender)], by simp [collected.keys], by simpa using collected.order, ?_⟩
      intro other one member
      rcases List.mem_append.mp member with old | new
      · exact collected.answers other one old
      · cases List.mem_singleton.mp new
        exact answers

theorem Inv.step {after : World Shared Code} {move : Nat × Choice}
    (step : Steps (program node components) world move after) (recorded : Recorded did later world move)
    (orderly : ∀ ref, Orderly (world.shared.notices ref) (stages ref world)) (inv : Inv node did world) :
    Inv node later after := by
  cases step with
  | @move thread choice next now moved =>
      have own := inv.own thread
      have still : Grows node did later world.shared world.shared := .of_reg recorded.kept rfl
      generalize place : world.locals thread = code at moved own
      cases program_stepped moved with
      | event happened => exact inv.event recorded happened
      | @taken spot ref component rest found same =>
          have identified := inv.posted ref (List.mem_of_getElem? found)
          refine inv.set (.of_reg recorded.kept rfl) (fun other sender held => recorded.kept _ (inv.named other sender held))
            (fun other member => Or.inl (List.mem_of_mem_eraseIdx member)) (fun _ => Or.inl rfl) ?_
          exact ⟨identified, fun passed => absurd rfl passed⟩
      | received received => exact inv.receive recorded.kept (orderly _) place received
      | found present =>
          exact inv.move recorded.kept (Or.inl ⟨rfl, recorded.added _ ⟨rfl, by rwa [place]⟩⟩)
      | looked before after =>
          refine inv.move recorded.kept ?_
          rcases after with rfl | rfl
          · trivial
          · trivial
      | @connected address result =>
          refine inv.move recorded.kept ?_
          cases result with
          | none => trivial
          | some key =>
              have trying : Trying node did thread world.shared address (.ended (some key)) := own
              exact Or.inr (still.trying trying)
      | @connecting address choice stage after next tried =>
          exact inv.attempt (.connecting address) recorded own (fun _ _ trying => trying) tried
      | @bootstrap addresses =>
          have nothing : Collected node later thread addresses
              (filterPeers node.env.resolver [node.env.address] addresses) [] [] :=
            ⟨rfl, List.Sublist.refl _, fun address sender member => nomatch member⟩
          exact inv.move recorded.kept nothing.nextAddress
      | advanced =>
          obtain ⟨trying, answered, collected⟩ := own
          obtain ⟨more, next⟩ := (still.collected collected).advance (still.trying trying)
          exact inv.move recorded.kept next.nextAddress
      | @bootstrapping addresses rest clientID address choice stage after next tried =>
          obtain ⟨trying, answered, collected⟩ := own
          exact inv.attempt (fun stage => .bootstrapping addresses address stage rest clientID) recorded trying
            (fun _ grows trying => ⟨trying, answered, grows.collected collected⟩) tried

end Steps

/-! Runs. -/

/-- A node that has met nobody, with any number of goroutines about to dial. -/
structure Fresh (world : World Shared Code) : Prop where
  reg : world.shared.reg = emptyRegistry
  notices : ∀ ref, world.shared.notices ref = createNotice
  pongs : world.shared.pongs = []
  locals : ∀ thread, world.locals thread = .idle ∨ world.locals thread = .loop ∨
    (∃ address, world.locals thread = .connectPeer address) ∨ ∃ addresses, world.locals thread = .bootstrap addresses
  bounded : ∃ bound, ∀ thread, bound ≤ thread → world.locals thread = .idle

section Runs

variable {node : Node} {components : List Component} {start world : World Shared Code} {moves : List (Nat × Choice)}

theorem Fresh.orderly (fresh : Fresh start) (ref : ClientRef) :
    Orderly (start.shared.notices ref) (stages ref start) := by
  have nowhere : ∀ thread, stages ref start thread = none := by
    intro thread
    rcases fresh.locals thread with place | place | ⟨_, place⟩ | ⟨_, place⟩ <;> simp [stages, place, stageOf]
  rw [fresh.notices ref]
  refine { holds := ?_, alone := ?_, held := ?_, unmarked := ?_, unclosed := ?_, closed := ?_, stopping := ?_, running := ?_, swapped := ?_ } <;>
    simp [createNotice, nowhere, inside]

theorem Fresh.inv (fresh : Fresh start) (did : Record) : Inv node did start where
  named ref sender held := by simp [fresh.reg, emptyRegistry, ids] at held
  posted ref member := by simp [fresh.pongs] at member
  noticed ref closed := by simp [fresh.notices ref, createNotice] at closed
  own thread := by
    rcases fresh.locals thread with place | place | ⟨_, place⟩ | ⟨_, place⟩ <;> rw [place] <;> trivial

theorem run_orderly (fresh : Fresh start) (run : Run (Steps (program node components)) start moves world) (ref : ClientRef) :
    Orderly (world.shared.notices ref) (stages ref world) :=
  run.invariant (fun world => Orderly (world.shared.notices ref) (stages ref world))
    (fun _ _ _ step => orderly_step step ref) (fresh.orderly ref)

abbrev Did (node : Node) (components : List Component) (start : World Shared Code) (moves : List (Nat × Choice)) :
    Record :=
  Happened (Steps (program node components)) start moves

theorem run_inv (fresh : Fresh start) (run : Run (Steps (program node components)) start moves world) :
    Inv node (Did node components start moves) world := by
  have kept : Run (Steps (program node components)) start ([] ++ moves) world ∧
      Inv node (Did node components start ([] ++ moves)) world := by
    refine run.history (fun past world => Run (Steps (program node components)) start past world ∧
      Inv node (Did node components start past) world) ?_ ⟨.nil _, fresh.inv _⟩
    rintro past before move after step ⟨reached, inv⟩
    refine ⟨reached.snoc step, inv.step step ⟨fun _ happened => happened.later _, ?_⟩ (run_orderly fresh reached)⟩
    exact fun _ meets => .now reached meets
  exact kept.2

/-! A node that dials another, which answers twice. -/

def smallStart : World Shared Code where
  shared := { reg := emptyRegistry, notices := fun _ => createNotice, pongs := [] }
  locals
    | 0 => .loop
    | 1 => .bootstrap ["tcp://b:1", "tcp://a:1"]
    | 2 => .connectPeer "tcp://b:1"
    | _ => .idle

theorem smallStart_fresh : Fresh smallStart where
  reg := rfl
  notices _ := rfl
  pongs := rfl
  locals
    | 0 => Or.inr (Or.inl rfl)
    | 1 => Or.inr (Or.inr (Or.inr ⟨_, rfl⟩))
    | 2 => Or.inr (Or.inr (Or.inl ⟨_, rfl⟩))
    | _ + 3 => Or.inl rfl
  bounded := by
    refine ⟨3, fun thread beyond => ?_⟩
    obtain ⟨rest, rfl⟩ := Nat.exists_eq_add_of_le' beyond
    rfl

def smallPong : Choice :=
  .event (.message { accepted with client := some 0 }
    { inputOf (neighbour [1]) none with msg := { (inputOf (neighbour [1]) none).msg with opcode := Opcodes.pongCode } })

/-- The caller waits, and two messages are there. -/
def smallDialled : List (Nat × Choice) :=
  [(1, .go), (1, .dial (some ⟨.net, 0⟩)), (1, .write true), (0, smallPong), (0, smallPong)]

/-- Both are handled at the same time; the caller is through before they are. -/
def smallHandled : List (Nat × Choice) :=
  smallDialled ++ [(3, .take 0), (4, .take 0), (3, .go), (4, .go), (3, .go), (4, .go), (3, .go), (4, .go), (3, .go),
    (3, .go), (3, .go), (1, .go), (1, .go), (3, .go), (4, .go), (1, .go)]

theorem smallHandled_run : ∃ last,
    Run (Steps (program localNode [.discovery, .keepalive])) smallStart smallHandled last ∧
      last.locals 1 = .bootstrapped ["tcp://b:1", "tcp://a:1"] ["01"] := by
  obtain ⟨last, played, returned⟩ : ∃ last,
      smallStart.play (program localNode [.discovery, .keepalive]) smallHandled = some last ∧
      last.locals 1 = .bootstrapped ["tcp://b:1", "tcp://a:1"] ["01"] := ⟨_, rfl, rfl⟩
  exact ⟨last, World.run_of_play played, returned⟩

theorem smallDialled_run : ∃ last,
    Run (Steps (program localNode [.discovery, .keepalive])) smallStart smallDialled last ∧
      last.locals 1 = .bootstrapping ["tcp://b:1", "tcp://a:1"] "tcp://b:1" (.wait 0) [] [] ∧
      last.shared.pongs = [0, 0] := by
  obtain ⟨last, played, waits, pongs⟩ : ∃ last,
      smallStart.play (program localNode [.discovery, .keepalive]) smallDialled = some last ∧
      last.locals 1 = .bootstrapping ["tcp://b:1", "tcp://a:1"] "tcp://b:1" (.wait 0) [] [] ∧
      last.shared.pongs = [0, 0] := ⟨_, rfl, rfl, rfl⟩
  exact ⟨last, World.run_of_play played, waits, pongs⟩

def smallConnected : List (Nat × Choice) :=
  [(2, .go), (2, .go), (2, .dial (some ⟨.net, 0⟩)), (2, .write true), (0, smallPong), (3, .take 0), (3, .go), (3, .go),
    (3, .go), (3, .go), (3, .go), (3, .go), (2, .go), (2, .go), (2, .go)]

theorem smallConnected_run : ∃ last,
    Run (Steps (program localNode [.discovery, .keepalive])) smallStart smallConnected last ∧
      last.locals 2 = .connected "tcp://b:1" (some "01") := by
  obtain ⟨last, played, returned⟩ : ∃ last,
      smallStart.play (program localNode [.discovery, .keepalive]) smallConnected = some last ∧
      last.locals 2 = .connected "tcp://b:1" (some "01") := ⟨_, rfl, rfl⟩
  exact ⟨last, World.run_of_play played, returned⟩

/-- However the components of any number of `Pong`s are interleaved, none of them finds
its client without an identity or closes a channel that is closed, up to the end of
`Close`. -/
theorem pong_close_never_panics (fresh : Fresh start) (run : Run (Steps (program node components)) start moves world)
    (thread : Nat) : world.locals thread ≠ .panicked := by
  intro panicked
  have own := (run_inv fresh run).own thread
  rwa [panicked] at own

theorem pong_close_never_panics_twice : ∃ last,
    Run (Steps (program localNode [.discovery, .keepalive])) smallStart smallHandled last ∧
      ∀ thread, last.locals thread ≠ .panicked := by
  obtain ⟨last, run, _⟩ := smallHandled_run
  exact ⟨last, run, pong_close_never_panics smallStart_fresh run⟩

theorem filterPeers_spec (resolver : Resolver) (visited addresses : List String) :
    (filterPeers resolver visited addresses).Nodup ∧ ∀ unified ∈ filterPeers resolver visited addresses,
      unified ∉ visited ∧ ∃ address ∈ addresses, toUnifiedAddress resolver address = some unified := by
  induction addresses generalizing visited with
  | nil => exact ⟨List.nodup_nil, fun unified member => nomatch member⟩
  | cons address rest ih =>
      have skipped : (filterPeers resolver visited rest).Nodup ∧ ∀ unified ∈ filterPeers resolver visited rest,
          unified ∉ visited ∧ ∃ other ∈ address :: rest, toUnifiedAddress resolver other = some unified := by
        refine ⟨(ih visited).1, fun unified member => ?_⟩
        obtain ⟨new, other, listed, resolves⟩ := (ih visited).2 unified member
        exact ⟨new, other, List.mem_cons_of_mem _ listed, resolves⟩
      unfold filterPeers
      split
      · exact skipped
      · split
        · exact skipped
        · rename_i resolved resolves
          split
          · exact skipped
          · rename_i unseen
            obtain ⟨distinct, each⟩ := ih (resolved :: visited)
            refine ⟨List.nodup_cons.mpr ⟨fun again => (each resolved again).1 List.mem_cons_self, distinct⟩, ?_⟩
            intro unified member
            rcases List.mem_cons.mp member with rfl | later
            · exact ⟨unseen, address, List.mem_cons_self, resolves⟩
            · obtain ⟨new, other, listed, otherResolves⟩ := each unified later
              exact ⟨fun old => new (List.mem_cons_of_mem _ old), other, List.mem_cons_of_mem _ listed, otherResolves⟩

/-- What `Bootstrap` returns are keys of senders, each got for another of the unified
addresses and in their order, never for the node's own: for each of them the caller had
got a client by the address, and a message of that sender had come in for this client.
`ConnectPeer` without an error returns such a key for its address, or none where it has
found a connection or a client under the address. -/
theorem dialled_keys_answered (fresh : Fresh start)
    (run : Run (Steps (program node components)) start moves world) (thread : Nat) :
    (∀ addresses clientID, world.locals thread = .bootstrapped addresses clientID →
      ∃ answered : List (String × ID), answered.map (·.2.publicKeyHex) = clientID ∧
        (answered.map (·.1)).Sublist (filterPeers node.env.resolver [node.env.address] addresses) ∧
        (answered.map (·.1)).Nodup ∧ node.env.address ∉ answered.map (·.1) ∧
        ∀ address sender, (address, sender) ∈ answered →
          Answers node (Did node components start moves) thread address sender) ∧
      ∀ address clientID, world.locals thread = .connected address (some clientID) →
        clientID = "" ∧ Did node components start moves (Finds thread address) ∨
        ∃ sender, sender.publicKeyHex = clientID ∧
          Answers node (Did node components start moves) thread address sender := by
  have own := (run_inv fresh run).own thread
  constructor
  · intro addresses clientID returned
    rw [returned] at own
    obtain ⟨answered, keys, order, answers⟩ := own
    rw [List.append_nil] at order
    obtain ⟨distinct, each⟩ := filterPeers_spec node.env.resolver [node.env.address] addresses
    refine ⟨answered, keys, order, distinct.sublist order, fun own => ?_, answers⟩
    exact (each _ (order.subset own)).1 (List.mem_singleton.mpr rfl)
  · intro address clientID returned
    rwa [returned] at own

theorem dialled_keys_answered_neighbour : (∃ last,
    Run (Steps (program localNode [.discovery, .keepalive])) smallStart smallHandled last ∧
      last.locals 1 = .bootstrapped ["tcp://b:1", "tcp://a:1"] ["01"] ∧
      ∃ answered : List (String × ID), answered.map (·.2.publicKeyHex) = ["01"] ∧
        localNode.env.address ∉ answered.map (·.1) ∧ ∀ address sender, (address, sender) ∈ answered →
          Answers localNode (Did localNode [.discovery, .keepalive] smallStart smallHandled) 1 address sender) ∧
    ∃ last, Run (Steps (program localNode [.discovery, .keepalive])) smallStart smallConnected last ∧
      last.locals 2 = .connected "tcp://b:1" (some "01") ∧ ∃ sender, sender.publicKeyHex = "01" ∧
        Answers localNode (Did localNode [.discovery, .keepalive] smallStart smallConnected) 2 "tcp://b:1" sender := by
  constructor
  · obtain ⟨last, run, returned⟩ := smallHandled_run
    obtain ⟨answered, keys, _, _, own, answers⟩ := (dialled_keys_answered smallStart_fresh run 1).1 _ _ returned
    exact ⟨last, run, returned, answered, keys, own, answers⟩
  · obtain ⟨last, run, returned⟩ := smallConnected_run
    have answered := (dialled_keys_answered smallStart_fresh run 2).2 _ _ returned
    exact ⟨last, run, returned, answered.resolve_left fun found => absurd found.1 (by decide)⟩

/-! The channel is closed in the end. -/

def Code.dials : Code → Bool
  | .connecting _ _ | .bootstrapping _ _ _ _ _ => true
  | _ => false

/-- Without a timeout or anything else from outside, the components alone can come to
close the channel of the client. -/
def Closes (node : Node) (components : List Component) (ref : ClientRef) (world : World Shared Code) : Prop :=
  ∃ moves last, Run (Steps (program node components)) world moves last ∧
    (last.shared.notices ref).stopCh = true ∧
    (∀ move ∈ moves, move.2 = .go ∨ ∃ place, move.2 = .take place) ∧
    ∀ thread, (world.locals thread).dials = true → last.locals thread = world.locals thread

theorem Closes.now {ref : ClientRef} (closed : (world.shared.notices ref).stopCh = true) :
    Closes node components ref world :=
  ⟨[], world, .nil _, closed, fun _ member => (nomatch member), fun _ _ => rfl⟩

theorem Closes.step {ref : ClientRef} {thread : Nat} {choice : Choice} {next : Shared} {now : Code}
    (moved : program node components thread world.shared (world.locals thread) choice = some (next, now))
    (quiet : choice = .go ∨ ∃ place, choice = .take place) (other : (world.locals thread).dials = false)
    (closes : Closes node components ref (world.set thread next now)) : Closes node components ref world := by
  obtain ⟨moves, last, run, closed, quietly, kept⟩ := closes
  refine ⟨(thread, choice) :: moves, last, .cons (.move moved) run, closed, ?_, fun caller dials => ?_⟩
  · intro move member
    rcases List.mem_cons.mp member with rfl | later
    · exact quiet
    · exact quietly move later
  · have apart : caller ≠ thread := by
      rintro rfl
      rw [other] at dials
      cases dials
    rw [kept caller (by rwa [World.set_other world next now apart]), World.set_other world next now apart]

theorem stages_eq_some {ref : ClientRef} {thread : Nat} {stage : Stage} (stands : stages ref world thread = some stage) :
    ∃ component rest, world.locals thread = .pong ref component rest stage := by
  unfold stages stageOf at stands
  split at stands
  · rename_i other component rest last place
    obtain ⟨same, value⟩ := Option.ite_none_right_eq_some.mp stands
    cases value
    exact ⟨component, rest, by rw [place, same]⟩
  · cases stands

section Closing

variable {ref : ClientRef} {thread : Nat} {shared : Shared} {component : Component} {rest : List Component}

theorem receive_name {sender : ID} (held : (ids shared.reg)[ref]? = some (some sender)) :
    receive shared ref component rest .name = some (shared.setPubKey ref sender.publicKeyHex,
      .pong ref component rest (if component = .discovery then .swap else .lock)) := by
  simp only [receive, held]

theorem receive_swap (first : (shared.notices ref).recvChannelClosed = false) :
    receive shared ref component rest .swap =
      some (shared.setNotice ref { shared.notices ref with recvChannelClosed := true }, .pong ref component rest .lock) := by
  simp only [receive, first, Bool.false_eq_true, if_false]

theorem receive_lock (free : (shared.notices ref).locked = false) : receive shared ref component rest .lock =
    some (shared.setNotice ref { shared.notices ref with locked := true }, .pong ref component rest .check) := by
  simp only [receive, free, Bool.false_eq_true, if_false]

theorem receive_check (running : (shared.notices ref).isStop = false) :
    receive shared ref component rest .check = some (shared, .pong ref component rest .mark) := by
  simp only [receive, running, Bool.false_eq_true, if_false]

theorem receive_close (unclosed : (shared.notices ref).stopCh = false) : receive shared ref component rest .close =
    some (shared.setNotice ref { shared.notices ref with stopCh := true }, .pong ref component rest .unlock) := by
  simp only [receive, unclosed, Bool.false_eq_true, if_false]

theorem Closes.received {stage : Stage} {next : Shared} {after : Stage}
    (orderly : Orderly (world.shared.notices ref) (stages ref world)) (stands : stages ref world thread = some stage)
    (received : ∀ component rest,
      receive world.shared ref component rest stage = some (next, .pong ref component rest after))
    (closes : ∀ later : World Shared Code, later.shared = next → Orderly (next.notices ref) (stages ref later) →
      stages ref later thread = some after → Closes node components ref later) : Closes node components ref world := by
  obtain ⟨component, rest, place⟩ := stages_eq_some stands
  have moved : program node components thread world.shared (world.locals thread) .go =
      some (next, .pong ref component rest after) := by
    rw [place]
    exact received component rest
  refine Closes.step moved (Or.inl rfl) (by rw [place]; rfl) (closes _ rfl (orderly_step (.move moved) ref orderly) ?_)
  simp [stages, stageOf]

theorem closes_of_close (orderly : Orderly (world.shared.notices ref) (stages ref world))
    (stands : stages ref world thread = some .close) : Closes node components ref world := by
  have unclosed := (orderly.unclosed thread stands).2
  refine Closes.received orderly stands (fun _ _ => receive_close unclosed) fun later same _ _ => .now ?_
  rw [same, setNotice_self]

theorem closes_of_mark (orderly : Orderly (world.shared.notices ref) (stages ref world))
    (stands : stages ref world thread = some .mark) : Closes node components ref world :=
  Closes.received orderly stands (fun _ _ => rfl) fun _ same ordered at_close => closes_of_close (same ▸ ordered) at_close

theorem closes_of_check (orderly : Orderly (world.shared.notices ref) (stages ref world))
    (stands : stages ref world thread = some .check) : Closes node components ref world := by
  cases stop : (world.shared.notices ref).isStop with
  | false =>
      refine Closes.received orderly stands (fun _ _ => receive_check stop) fun _ same ordered marks => ?_
      exact closes_of_mark (same ▸ ordered) marks
  | true =>
      rcases orderly.stopping stop with closed | ⟨other, closing⟩
      · exact .now closed
      · exact closes_of_close orderly closing

/-- A goroutine that waits for the mutex can go on, or the one that has it comes first. -/
theorem closes_of_heading (orderly : Orderly (world.shared.notices ref) (stages ref world))
    (heading : Heading (stages ref world thread)) : Closes node components ref world := by
  rcases heading with stands | stands | stands | stands
  · cases taken : (world.shared.notices ref).locked with
    | false =>
        refine Closes.received orderly stands (fun _ _ => receive_lock taken) fun _ same ordered checks => ?_
        exact closes_of_check (same ▸ ordered) checks
    | true =>
        obtain ⟨holder, within⟩ := orderly.held taken
        rcases inside_iff.mp within with holds | holds | holds | holds
        · exact closes_of_check orderly holds
        · exact closes_of_mark orderly holds
        · exact closes_of_close orderly holds
        · exact .now (orderly.closed holder holds)
  · exact closes_of_check orderly stands
  · exact closes_of_mark orderly stands
  · exact closes_of_close orderly stands

theorem closes_of_swap (orderly : Orderly (world.shared.notices ref) (stages ref world))
    (stands : stages ref world thread = some .swap) : Closes node components ref world := by
  cases swapped : (world.shared.notices ref).recvChannelClosed with
  | false =>
      refine Closes.received orderly stands (fun _ _ => receive_swap swapped) fun _ same ordered locks => ?_
      exact closes_of_heading (same ▸ ordered) (Or.inl locks)
  | true =>
      rcases orderly.swapped swapped with closed | ⟨other, heading⟩
      · exact .now closed
      · exact closes_of_heading orderly heading

theorem closes_of_name (orderly : Orderly (world.shared.notices ref) (stages ref world))
    (identified : Identified world.shared ref) (stands : stages ref world thread = some .name) :
    Closes node components ref world := by
  obtain ⟨sender, held⟩ := identified
  obtain ⟨component, rest, place⟩ := stages_eq_some stands
  have moved : program node components thread world.shared (world.locals thread) .go =
      some (world.shared.setPubKey ref sender.publicKeyHex,
        .pong ref component rest (if component = .discovery then .swap else .lock)) := by
    rw [place]
    exact receive_name held
  have ordered := orderly_step (.move moved) ref orderly
  refine Closes.step moved (Or.inl rfl) (by rw [place]; rfl) ?_
  have stage : stages ref (world.set thread (world.shared.setPubKey ref sender.publicKeyHex)
      (.pong ref component rest (if component = .discovery then .swap else .lock))) thread =
      some (if component = .discovery then .swap else .lock) := by
    simp [stages, stageOf]
  cases component with
  | keepalive => exact closes_of_heading ordered (Or.inl stage)
  | discovery => exact closes_of_swap ordered stage

end Closing

theorem run_bounded (fresh : Fresh start) (run : Run (Steps (program node components)) start moves world) :
    ∃ bound, ∀ thread, bound ≤ thread → world.locals thread = .idle := by
  refine run.invariant (fun world => ∃ bound, ∀ thread, bound ≤ thread → world.locals thread = .idle) ?_ fresh.bounded
  rintro before move after step ⟨bound, idle⟩
  cases step with
  | @move mover choice shared now _ =>
      refine ⟨max bound (mover + 1), fun thread beyond => ?_⟩
      rw [World.set_other before shared now (by omega)]
      exact idle thread (by omega)

/-- A `Pong` has been handed on, and its components are not through with it. -/
def Pending (ref : ClientRef) (world : World Shared Code) : Prop :=
  ref ∈ world.shared.pongs ∨ ∃ thread stage, stages ref world thread = some stage

theorem closes_of_pending (fresh : Fresh start) (some : components ≠ [])
    (run : Run (Steps (program node components)) start moves world) {ref : ClientRef} (pending : Pending ref world) :
    Closes node components ref world := by
  have orderly := run_orderly fresh run ref
  have inv := run_inv fresh run
  rcases pending with posted | ⟨thread, stage, stands⟩
  · -- A new goroutine begins with the message.
    obtain ⟨spare, idle⟩ := run_bounded fresh run
    obtain ⟨place, found⟩ := List.mem_iff_getElem?.mp posted
    obtain ⟨component, rest, rfl⟩ := List.exists_cons_of_ne_nil some
    have free := idle spare (Nat.le_refl _)
    have moved : program node (component :: rest) spare world.shared (world.locals spare) (.take place) =
        Option.some ({ world.shared with pongs := world.shared.pongs.eraseIdx place },
          .pong ref component rest .name) := by
      rw [free]
      simp only [program, found]
    refine Closes.step moved (Or.inr ⟨place, rfl⟩) (by rw [free]; rfl) ?_
    have stands : stages ref (world.set spare { world.shared with pongs := world.shared.pongs.eraseIdx place }
        (.pong ref component rest .name)) spare = Option.some .name := by
      simp [stages, stageOf]
    have identified : Identified { world.shared with pongs := world.shared.pongs.eraseIdx place } ref :=
      inv.posted ref posted
    exact closes_of_name (orderly_step (.move moved) ref orderly) identified stands
  · obtain ⟨component, rest, place⟩ := stages_eq_some stands
    have own : Own node (Did node components start moves) thread world.shared (.pong ref component rest stage) :=
      place ▸ inv.own thread
    cases stage with
    | name => exact closes_of_name orderly own.1 stands
    | swap => exact closes_of_swap orderly stands
    | lock => exact closes_of_heading orderly (Or.inl stands)
    | check => exact closes_of_check orderly stands
    | mark => exact closes_of_mark orderly stands
    | close => exact closes_of_close orderly stands
    | unlock => exact .now (orderly.closed thread stands)

/-- A caller that waits for the client, and where it is once it has a key. -/
inductive Waits (ref : ClientRef) : Code → (String → Code) → Prop where
  | connecting {address : String} :
      Waits ref (.connecting address (.wait ref)) fun key => .connected address (some key)
  | bootstrapping {addresses rest clientID : List String} {address : String} :
      Waits ref (.bootstrapping addresses address (.wait ref) rest clientID)
        fun key => nextAddress addresses (clientID ++ [key]) rest

theorem Waits.dials {ref : ClientRef} {code : Code} {goal : String → Code} (waits : Waits ref code goal) :
    code.dials = true := by
  cases waits <;> rfl

theorem three_steps {thread : Nat} {first fourth : Code} (second third : Code) (place : world.locals thread = first)
    (one : program node components thread world.shared first .go = some (world.shared, second))
    (two : program node components thread world.shared second .go = some (world.shared, third))
    (three : program node components thread world.shared third .go = some (world.shared, fourth)) :
    ∃ last, Run (Steps (program node components)) world [(thread, .go), (thread, .go), (thread, .go)] last ∧
      last.locals thread = fourth := by
  have begins : Steps (program node components) world (thread, .go) (world.set thread world.shared second) :=
    .move (place ▸ one)
  have goesOn : Steps (program node components) (world.set thread world.shared second) (thread, .go)
      ((world.set thread world.shared second).set thread world.shared third) := .move (by simpa using two)
  have ends : Steps (program node components) ((world.set thread world.shared second).set thread world.shared third)
      (thread, .go) (((world.set thread world.shared second).set thread world.shared third).set thread world.shared fourth) :=
    .move (by simpa using three)
  exact ⟨_, .cons begins (.cons goesOn (.cons ends (.nil _))), by simp⟩

theorem Waits.goes {ref : ClientRef} {thread : Nat} {goal : String → Code} {key : String}
    (waits : Waits ref (world.locals thread) goal) (closed : (world.shared.notices ref).stopCh = true)
    (held : (pubKeys world.shared.reg)[ref]? = some key) :
    ∃ last, Run (Steps (program node components)) world [(thread, .go), (thread, .go), (thread, .go)] last ∧
      last.locals thread = goal key := by
  have read : world.shared.reg.clients[ref]?.map (·.pubKey) = some key := by
    rw [← held, pubKeys, List.getElem?_map]
  generalize place : world.locals thread = code at waits
  cases waits with
  | @connecting address =>
      refine three_steps (.connecting address (.read ref)) (.connecting address (.ended (some key))) place ?_ ?_ rfl
      · simp [program, attempt, closed]
      · simp [program, attempt, read]
  | @bootstrapping addresses rest clientID address =>
      refine three_steps (.bootstrapping addresses address (.read ref) rest clientID)
        (.bootstrapping addresses address (.ended (some key)) rest clientID) place ?_ ?_ rfl
      · simp [program, attempt, closed]
      · simp [program, attempt, read]

/-- No `Pong` is missed: a caller that waits for a client with a `Pong` under way comes
to its key without a timeout, and that is the key of a sender that has answered. -/
theorem pong_wakes_dialler (fresh : Fresh start) (some : components ≠ [])
    (run : Run (Steps (program node components)) start moves world) {ref : ClientRef} {thread : Nat}
    {goal : String → Code} (waits : Waits ref (world.locals thread) goal) (pending : Pending ref world) :
    ∃ more last sender, Run (Steps (program node components)) world more last ∧
      (∀ move ∈ more, move.2 = .go ∨ ∃ place, move.2 = .take place) ∧
      last.locals thread = goal sender.publicKeyHex ∧ Did node components start (moves ++ more) (Names node ref sender) := by
  obtain ⟨more, middle, closing, closed, quiet, kept⟩ := closes_of_pending fresh some run pending
  obtain ⟨sender, named, held⟩ := (run_inv fresh (run.append closing)).noticed ref (Or.inr (Or.inr closed))
  have waiting : Waits ref (middle.locals thread) goal := by rwa [kept thread waits.dials]
  obtain ⟨last, reading, arrived⟩ := waiting.goes closed held
  refine ⟨more ++ [(thread, .go), (thread, .go), (thread, .go)], last, sender, closing.append reading, ?_, arrived, ?_⟩
  · intro move member
    rcases List.mem_append.mp member with earlier | later
    · exact quiet move earlier
    · simp at later
      exact Or.inl (by rw [later])
  · rw [← List.append_assoc]
    exact named.later _

theorem pong_wakes_dialler_neighbour : ∃ world more last sender,
    Run (Steps (program localNode [.discovery, .keepalive])) smallStart smallDialled world ∧
      Run (Steps (program localNode [.discovery, .keepalive])) world more last ∧
      last.locals 1 = .bootstrapped ["tcp://b:1", "tcp://a:1"] [ID.publicKeyHex sender] := by
  obtain ⟨world, run, waits, pongs⟩ := smallDialled_run
  have waiting : Waits 0 (world.locals 1) fun key => nextAddress ["tcp://b:1", "tcp://a:1"] [key] [] :=
    waits ▸ .bootstrapping
  have pending : Pending 0 world := Or.inl (by simp [pongs])
  obtain ⟨more, last, sender, onward, _, arrived, _⟩ :=
    pong_wakes_dialler smallStart_fresh (by simp) run waiting pending
  exact ⟨world, more, last, sender, run, onward, arrived⟩

end Runs

end Carrier.Handshake
