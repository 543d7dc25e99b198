import Carrier.Framing
import Carrier.Threads

/-! Requests and their replies: `PeerClient.Request` and the reply part of
`Network.dispatchMessage`. A call takes a number, puts itself into `Requests` and
waits for its channel, for its timer or for its context; on the way out it takes
itself out of the map and closes its signal. A message that answers a number is put
into the channel of the call it finds in the map, unless the signal of the call is
closed before there is room. -/
namespace Carrier.Requests

open Framing Threads TransitionSystem

/-- A message in a channel, with the dispatch that put it there. -/
structure Letter where
  origin : Nat
  message : Message
  deriving DecidableEq, Repr

/-- The counter and the map of a client; the channel and the signal of every call. Two
records go along: which calls have taken a number, and what became of the messages. -/
structure Shared where
  requestNonce : UInt64
  requests : UInt64 → Option Nat
  data : Nat → Option Letter
  closed : Nat → Bool
  issued : List Nat
  delivered : Nat → Option (Nat × Message)

/-- A result without a letter is an error. -/
inductive CallStage where
  | start
  | refused
  | numbered (nonce : UInt64)
  | tracked (nonce : UInt64)
  | waiting (nonce : UInt64)
  | leaving (nonce : UInt64) (result : Option Letter)
  | deleted (nonce : UInt64) (result : Option Letter)
  | returned (nonce : UInt64) (result : Option Letter)
  deriving DecidableEq, Repr

inductive DispatchStage where
  | start
  | passed
  | sending (call : Nat)
  | delivered (call : Nat)
  | dropped (call : Nat)
  deriving DecidableEq, Repr

inductive Code where
  | idle
  | request (stage : CallStage)
  | dispatch (message : Message) (stage : DispatchStage)
  deriving DecidableEq, Repr

/-- `Request`. `other` chooses the way out where there is one: a context or a message
that is no good, a failed `Write`, the timer or the context. -/
def runRequest (thread : Nat) (shared : Shared) (other : Bool) : CallStage → Option (Shared × CallStage)
  | .start =>
      if other then some (shared, .refused)
      else some ({ shared with
        requestNonce := shared.requestNonce + 1
        issued := shared.issued ++ [thread] }, .numbered (shared.requestNonce + 1))
  | .numbered nonce =>
      some ({ shared with requests := Function.update shared.requests nonce (some thread) }, .tracked nonce)
  | .tracked nonce => some (shared, if other then .leaving nonce none else .waiting nonce)
  | .waiting nonce =>
      if other then some (shared, .leaving nonce none)
      else (shared.data thread).map fun letter =>
        ({ shared with data := Function.update shared.data thread none }, .leaving nonce (some letter))
  | .leaving nonce result =>
      some ({ shared with requests := Function.update shared.requests nonce none }, .deleted nonce result)
  | .deleted nonce result =>
      some ({ shared with closed := Function.update shared.closed thread true }, .returned nonce result)
  | .returned _ _ => none
  | .refused => none

/-- The part of `dispatchMessage` that concerns requests; everything else is passed on
to the components. `other` chooses a message that cannot be decoded, and the closed
signal in the select. -/
def runDispatch (thread : Nat) (shared : Shared) (message : Message) (other : Bool) :
    DispatchStage → Option (Shared × DispatchStage)
  | .start =>
      if other = false ∧ message.requestNonce > 0 ∧ message.replyFlag = true then
        some (shared, ((shared.requests message.requestNonce).map .sending).getD .passed)
      else some (shared, .passed)
  | .sending call =>
      if other then if shared.closed call then some (shared, .dropped call) else none
      else match shared.data call with
        | none => some ({ shared with
            data := Function.update shared.data call (some ⟨thread, message⟩)
            delivered := Function.update shared.delivered thread (some (call, message)) }, .delivered call)
        | some _ => none
  | _ => none

def program : Program Shared Code Bool
  | thread, shared, .request stage, other =>
      (runRequest thread shared other stage).map fun (shared, stage) => (shared, .request stage)
  | thread, shared, .dispatch message stage, other =>
      (runDispatch thread shared message other stage).map fun (shared, stage) =>
        (shared, .dispatch message stage)
  | _, _, .idle, _ => none

/-! Numbers. -/

def Numbered (shared : Shared) (call : Nat) (nonce : UInt64) : Prop :=
  ∃ index : Nat, shared.issued[index]? = some call ∧ nonce = UInt64.ofNat (index + 1)

theorem numbered_unique {shared : Shared} (once : shared.issued.Nodup) {call : Nat} {left right : UInt64}
    (first : Numbered shared call left) (second : Numbered shared call right) : left = right := by
  obtain ⟨i, found, rfl⟩ := first
  obtain ⟨j, again, rfl⟩ := second
  have bound := (List.getElem?_eq_some_iff.mp found).1
  rw [(List.getElem?_inj bound once).mp (found.trans again.symm)]

theorem numbered_apart {shared : Shared} (few : shared.issued.length < 2 ^ 64) {left right : Nat}
    {nonce : UInt64} (first : Numbered shared left nonce) (second : Numbered shared right nonce) :
    left = right := by
  obtain ⟨i, found, rfl⟩ := first
  obtain ⟨j, again, same⟩ := second
  have leftBound := (List.getElem?_eq_some_iff.mp found).1
  have rightBound := (List.getElem?_eq_some_iff.mp again).1
  have equal := congrArg UInt64.toNat same
  rw [UInt64.toNat_ofNat', UInt64.toNat_ofNat', Nat.mod_eq_of_lt (by omega), Nat.mod_eq_of_lt (by omega)]
    at equal
  obtain rfl : i = j := by omega
  exact Option.some.inj (found.symm.trans again)

/-! The invariant. -/

/-- The letter answers the number and was put into the channel of this call. -/
structure Answers (delivered : Nat → Option (Nat × Message)) (call : Nat) (nonce : UInt64) (letter : Letter) :
    Prop where
  reply : letter.message.replyFlag = true
  nonce : letter.message.requestNonce = nonce
  delivered : delivered letter.origin = some (call, letter.message)

structure SharedInv (shared : Shared) : Prop where
  counter : shared.requestNonce = UInt64.ofNat shared.issued.length
  once : shared.issued.Nodup
  requests : ∀ nonce call, shared.requests nonce = some call → Numbered shared call nonce
  data : ∀ call letter, shared.data call = some letter →
    ∃ nonce, Numbered shared call nonce ∧ Answers shared.delivered call nonce letter

def CallInv (shared : Shared) (thread : Nat) : CallStage → Prop
  | .start => thread ∉ shared.issued
  | .refused => thread ∉ shared.issued
  | .numbered nonce => Numbered shared thread nonce
  | .tracked nonce => Numbered shared thread nonce ∧ shared.requests nonce = some thread
  | .waiting nonce => Numbered shared thread nonce ∧ shared.requests nonce = some thread
  | .leaving nonce result => Numbered shared thread nonce ∧ ∀ letter ∈ result, Answers shared.delivered thread nonce letter
  | .deleted nonce result => Numbered shared thread nonce ∧ shared.requests nonce = none ∧
      ∀ letter ∈ result, Answers shared.delivered thread nonce letter
  | .returned nonce result => Numbered shared thread nonce ∧ shared.requests nonce = none ∧
      shared.closed thread = true ∧ ∀ letter ∈ result, Answers shared.delivered thread nonce letter

def DispatchInv (shared : Shared) (thread : Nat) (message : Message) : DispatchStage → Prop
  | .sending call => shared.delivered thread = none ∧ message.replyFlag = true ∧
      Numbered shared call message.requestNonce
  | .delivered call => shared.delivered thread = some (call, message)
  | _ => shared.delivered thread = none

def Inv (shared : Shared) (thread : Nat) : Code → Prop
  | .idle => shared.delivered thread = none
  | .request stage => shared.delivered thread = none ∧ CallInv shared thread stage
  | .dispatch message stage => DispatchInv shared thread message stage

structure Grows (thread : Nat) (shared next : Shared) : Prop where
  issued : next.issued = shared.issued ∨ next.issued = shared.issued ++ [thread]
  others : ∀ other, other ≠ thread → next.delivered other = shared.delivered other
  delivered : ∀ other letter, shared.delivered other = some letter → next.delivered other = some letter
  closed : ∀ other, shared.closed other = true → next.closed other = true
  requests : ∀ other nonce, other ≠ thread → Numbered shared other nonce →
    next.requests nonce = shared.requests nonce

theorem Numbered.grows {thread : Nat} {shared next : Shared}
    (issued : next.issued = shared.issued ∨ next.issued = shared.issued ++ [thread]) {call : Nat}
    {nonce : UInt64} (numbered : Numbered shared call nonce) : Numbered next call nonce := by
  obtain ⟨index, found, same⟩ := numbered
  refine ⟨index, ?_, same⟩
  rcases issued with equal | longer
  · rw [equal, found]
  · rw [longer, List.getElem?_append_left (List.getElem?_eq_some_iff.mp found).1, found]

theorem not_issued_grows {thread other : Nat} {shared next : Shared}
    (issued : next.issued = shared.issued ∨ next.issued = shared.issued ++ [thread]) (different : other ≠ thread)
    (absent : other ∉ shared.issued) : other ∉ next.issued := by
  rcases issued with equal | longer
  · rwa [equal]
  · rw [longer, List.mem_append, List.mem_singleton]
    exact fun member => member.elim absent different

theorem Answers.kept {before after : Nat → Option (Nat × Message)}
    (delivered : ∀ dispatch letter, before dispatch = some letter → after dispatch = some letter) {call : Nat}
    {nonce : UInt64} {letter : Letter} (answers : Answers before call nonce letter) :
    Answers after call nonce letter :=
  ⟨answers.reply, answers.nonce, delivered _ _ answers.delivered⟩

section Others

variable {thread other : Nat} {shared next : Shared} (grows : Grows thread shared next)
  (different : other ≠ thread)
include grows different

theorem callInv_grows {stage : CallStage} (inv : CallInv shared other stage) : CallInv next other stage := by
  cases stage with
  | start => exact not_issued_grows grows.issued different inv
  | refused => exact not_issued_grows grows.issued different inv
  | numbered nonce => exact inv.grows grows.issued
  | tracked nonce =>
      exact ⟨inv.1.grows grows.issued, (grows.requests other nonce different inv.1).trans inv.2⟩
  | waiting nonce =>
      exact ⟨inv.1.grows grows.issued, (grows.requests other nonce different inv.1).trans inv.2⟩
  | leaving nonce result =>
      exact ⟨inv.1.grows grows.issued, fun letter member => (inv.2 letter member).kept grows.delivered⟩
  | deleted nonce result =>
      exact ⟨inv.1.grows grows.issued, (grows.requests other nonce different inv.1).trans inv.2.1,
        fun letter member => (inv.2.2 letter member).kept grows.delivered⟩
  | returned nonce result =>
      exact ⟨inv.1.grows grows.issued, (grows.requests other nonce different inv.1).trans inv.2.1,
        grows.closed other inv.2.2.1, fun letter member => (inv.2.2.2 letter member).kept grows.delivered⟩

theorem inv_grows {code : Code} (inv : Inv shared other code) : Inv next other code := by
  have same := grows.others other different
  cases code with
  | idle => exact same.trans inv
  | request stage => exact ⟨same.trans inv.1, callInv_grows grows different inv.2⟩
  | dispatch message stage =>
      cases stage with
      | sending call => exact ⟨same.trans inv.1, inv.2.1, inv.2.2.grows grows.issued⟩
      | delivered call => exact same.trans inv
      | start => exact same.trans inv
      | passed => exact same.trans inv
      | dropped call => exact same.trans inv

end Others

theorem Grows.of_same {thread : Nat} {shared next : Shared} (issued : next.issued = shared.issued)
    (delivered : next.delivered = shared.delivered) (requests : next.requests = shared.requests)
    (closed : ∀ other, shared.closed other = true → next.closed other = true) : Grows thread shared next :=
  ⟨Or.inl issued, fun _ _ => by rw [delivered], fun _ _ found => by rw [delivered, found], closed,
    fun _ _ _ _ => by rw [requests]⟩

theorem Grows.of_entry {thread : Nat} {shared : Shared} (few : shared.issued.length < 2 ^ 64) {nonce : UInt64}
    (mine : Numbered shared thread nonce) (entry : Option Nat) :
    Grows thread shared { shared with requests := Function.update shared.requests nonce entry } := by
  refine ⟨Or.inl rfl, fun _ _ => rfl, fun _ _ found => found, fun _ closed => closed, ?_⟩
  intro other theirs different numbered
  have apart : theirs ≠ nonce := by
    rintro rfl
    exact different (numbered_apart few numbered mine)
  simp [apart]

theorem SharedInv.entry {shared : Shared} (inv : SharedInv shared) {nonce : UInt64} {entry : Option Nat}
    (fits : ∀ call, entry = some call → Numbered shared call nonce) :
    SharedInv { shared with requests := Function.update shared.requests nonce entry } := by
  refine ⟨inv.counter, inv.once, ?_, inv.data⟩
  intro other call found
  by_cases same : other = nonce
  · subst same
    exact fits call (by simpa using found)
  · exact inv.requests other call (by simpa [same] using found)

theorem SharedInv.issue {shared : Shared} (inv : SharedInv shared) {thread : Nat}
    (absent : thread ∉ shared.issued) :
    SharedInv { shared with requestNonce := shared.requestNonce + 1, issued := shared.issued ++ [thread] } := by
  have longer : ∀ {call nonce}, Numbered shared call nonce →
      Numbered { shared with requestNonce := shared.requestNonce + 1, issued := shared.issued ++ [thread] }
        call nonce := fun numbered => numbered.grows (Or.inr rfl)
  refine ⟨?_, ?_, fun nonce call found => longer (inv.requests nonce call found), ?_⟩
  · rw [inv.counter]
    simp
  · refine List.nodup_append.mpr ⟨inv.once, by simp, ?_⟩
    rintro left member right single rfl
    exact absent (List.mem_singleton.mp single ▸ member)
  · intro call letter found
    obtain ⟨nonce, numbered, answers⟩ := inv.data call letter found
    exact ⟨nonce, longer numbered, answers⟩

theorem numbered_issue {shared : Shared} (inv : SharedInv shared) (thread : Nat) :
    Numbered { shared with requestNonce := shared.requestNonce + 1, issued := shared.issued ++ [thread] } thread
      (shared.requestNonce + 1) := by
  refine ⟨shared.issued.length, by simp, ?_⟩
  rw [inv.counter]
  simp

/-- What holds of a call even after the counter has wrapped around: it has one number,
and the letter it got answers that number. -/
def Served (shared : Shared) (thread : Nat) : CallStage → Prop
  | .start | .refused => thread ∉ shared.issued
  | .numbered nonce | .tracked nonce | .waiting nonce => Numbered shared thread nonce
  | .leaving nonce result | .deleted nonce result | .returned nonce result =>
      Numbered shared thread nonce ∧ ∀ letter ∈ result, Answers shared.delivered thread nonce letter

theorem CallInv.served {shared : Shared} {thread : Nat} {stage : CallStage} (inv : CallInv shared thread stage) :
    Served shared thread stage := by
  cases stage with
  | start | refused | numbered nonce | leaving nonce result => exact inv
  | tracked nonce | waiting nonce => exact inv.1
  | deleted nonce result => exact ⟨inv.1, inv.2.2⟩
  | returned nonce result => exact ⟨inv.1, inv.2.2.2⟩

def Known (shared : Shared) (thread : Nat) : Code → Prop
  | .idle => shared.delivered thread = none
  | .request stage => shared.delivered thread = none ∧ Served shared thread stage
  | .dispatch message stage => DispatchInv shared thread message stage

theorem known_of_inv {shared : Shared} {thread : Nat} {code : Code} (inv : Inv shared thread code) :
    Known shared thread code := by
  cases code with
  | idle | dispatch message stage => exact inv
  | request stage => exact ⟨inv.1, inv.2.served⟩

theorem runRequest_served {thread : Nat} {shared next : Shared} {other : Bool} {stage now : CallStage}
    (inv : SharedInv shared) (mine : Served shared thread stage)
    (stepped : runRequest thread shared other stage = some (next, now)) :
    SharedInv next ∧ Served next thread now ∧
      (next.issued = shared.issued ∨ next.issued = shared.issued ++ [thread]) ∧
      next.delivered = shared.delivered := by
  cases stage with
  | start =>
      cases other with
      | true =>
          cases stepped
          exact ⟨inv, mine, Or.inl rfl, rfl⟩
      | false =>
          cases stepped
          -- the call joins the log of those that took a nonce; its nonce is its place there
          exact ⟨inv.issue mine, numbered_issue inv thread, Or.inr rfl, rfl⟩
  | refused => simp [runRequest] at stepped
  | numbered nonce =>
      cases stepped
      refine ⟨inv.entry ?_, mine, Or.inl rfl, rfl⟩
      rintro call ⟨⟩
      exact mine
  | tracked nonce =>
      cases other with
      | true =>
          cases stepped
          exact ⟨inv, ⟨mine, by simp⟩, Or.inl rfl, rfl⟩
      | false =>
          cases stepped
          exact ⟨inv, mine, Or.inl rfl, rfl⟩
  | waiting nonce =>
      cases other with
      | true =>
          cases stepped
          exact ⟨inv, ⟨mine, by simp⟩, Or.inl rfl, rfl⟩
      | false =>
          simp only [runRequest, Bool.false_eq_true, if_false] at stepped
          obtain ⟨letter, found, same⟩ := Option.map_eq_some_iff.mp stepped
          cases same
          -- what lies in the channel was put there for the nonce of this call
          obtain ⟨own, numbered, answers⟩ := inv.data thread letter found
          cases numbered_unique inv.once mine numbered
          refine ⟨⟨inv.counter, inv.once, inv.requests, ?_⟩, ⟨mine, ?_⟩, Or.inl rfl, rfl⟩
          · intro call kept found
            by_cases here : call = thread
            · subst here
              simp at found
            · exact inv.data call kept (by simpa [here] using found)
          · rintro taken ⟨⟩
            exact answers
  | leaving nonce result =>
      cases stepped
      exact ⟨inv.entry (by simp), mine, Or.inl rfl, rfl⟩
  | deleted nonce result =>
      cases stepped
      exact ⟨⟨inv.counter, inv.once, inv.requests, inv.data⟩, mine, Or.inl rfl, rfl⟩
  | returned nonce result => simp [runRequest] at stepped

theorem runRequest_step {thread : Nat} {shared next : Shared} {other : Bool} {stage now : CallStage}
    (inv : SharedInv shared) (few : shared.issued.length < 2 ^ 64) (mine : CallInv shared thread stage)
    (stepped : runRequest thread shared other stage = some (next, now)) :
    SharedInv next ∧ CallInv next thread now ∧ Grows thread shared next ∧
      next.delivered = shared.delivered := by
  obtain ⟨kept, served, _, records⟩ := runRequest_served inv mine.served stepped
  have both : CallInv next thread now ∧ Grows thread shared next := by
    cases stage with
    | start =>
        cases other with
        | true =>
            cases stepped
            exact ⟨served, .of_same rfl rfl rfl (fun _ closed => closed)⟩
        | false =>
            cases stepped
            exact ⟨served, Or.inr rfl, fun _ _ => rfl, fun _ _ found => found, fun _ closed => closed,
              fun _ _ _ _ => rfl⟩
    | refused => simp [runRequest] at stepped
    | numbered nonce =>
        cases stepped
        exact ⟨⟨served, by simp⟩, .of_entry few mine _⟩
    | tracked nonce =>
        cases other with
        | true =>
            cases stepped
            exact ⟨served, .of_same rfl rfl rfl (fun _ closed => closed)⟩
        | false =>
            cases stepped
            exact ⟨mine, .of_same rfl rfl rfl (fun _ closed => closed)⟩
    | waiting nonce =>
        cases other with
        | true =>
            cases stepped
            exact ⟨served, .of_same rfl rfl rfl (fun _ closed => closed)⟩
        | false =>
            obtain ⟨letter, found, same⟩ := Option.map_eq_some_iff.mp stepped
            cases same
            exact ⟨served, .of_same rfl rfl rfl (fun _ closed => closed)⟩
    | leaving nonce result =>
        cases stepped
        exact ⟨⟨served.1, by simp, served.2⟩, .of_entry few mine.1 _⟩
    | deleted nonce result =>
        cases stepped
        refine ⟨⟨served.1, mine.2.1, by simp, served.2⟩, .of_same rfl rfl rfl ?_⟩
        intro call closed
        by_cases here : call = thread
        · simp [here]
        · simpa [here] using closed
    | returned nonce result => simp [runRequest] at stepped
  exact ⟨kept, both.1, both.2, records⟩

theorem runDispatch_step {thread : Nat} {shared next : Shared} {message : Message} {other : Bool}
    {stage now : DispatchStage} (inv : SharedInv shared) (mine : DispatchInv shared thread message stage)
    (stepped : runDispatch thread shared message other stage = some (next, now)) :
    SharedInv next ∧ DispatchInv next thread message now ∧ Grows thread shared next := by
  have same : Grows thread shared shared := .of_same rfl rfl rfl (fun _ closed => closed)
  cases stage with
  | start =>
      simp only [runDispatch] at stepped
      split at stepped
      · rename_i answers
        cases found : shared.requests message.requestNonce with
        | none =>
            simp only [found, Option.map_none, Option.getD_none] at stepped
            cases stepped
            exact ⟨inv, mine, same⟩
        | some call =>
            simp only [found, Option.map_some, Option.getD_some] at stepped
            cases stepped
            exact ⟨inv, ⟨mine, answers.2.2, inv.requests _ _ found⟩, same⟩
      · cases stepped
        exact ⟨inv, mine, same⟩
  | passed => simp [runDispatch] at stepped
  | delivered call => simp [runDispatch] at stepped
  | dropped call => simp [runDispatch] at stepped
  | sending call =>
      obtain ⟨free, reply, numbered⟩ := mine
      cases other with
      | true =>
          simp only [runDispatch, if_true] at stepped
          split at stepped
          · cases stepped
            exact ⟨inv, free, same⟩
          · simp at stepped
      | false =>
          simp only [runDispatch, Bool.false_eq_true, if_false] at stepped
          split at stepped
          · cases stepped
            -- a dispatch delivers once, so that the note of another one is not overwritten
            have kept : ∀ dispatch letter, shared.delivered dispatch = some letter →
                Function.update shared.delivered thread (some (call, message)) dispatch = some letter := by
              intro dispatch letter found
              have apart : dispatch ≠ thread := by
                rintro rfl
                simp [free] at found
              simpa [apart] using found
            refine ⟨⟨inv.counter, inv.once, inv.requests, ?_⟩, by simp [DispatchInv],
              ⟨Or.inl rfl, fun _ different => by simp [different], kept, fun _ closed => closed,
                fun _ _ _ _ => rfl⟩⟩
            intro called letter found
            by_cases here : called = call
            · subst here
              obtain rfl : ⟨thread, message⟩ = letter := by simpa using found
              exact ⟨_, numbered, ⟨reply, rfl, by simp⟩⟩
            · obtain ⟨nonce, known, answers⟩ := inv.data called letter (by simpa [here] using found)
              exact ⟨nonce, known, ⟨answers.reply, answers.nonce, kept _ _ answers.delivered⟩⟩
          · simp at stepped

/-! Whole runs. -/

structure WorldInv (world : World Shared Code) : Prop where
  shared : SharedInv world.shared
  everywhere : Everywhere Inv world

def Fresh (world : World Shared Code) : Prop :=
  world.shared.requestNonce = 0 ∧ world.shared.issued = [] ∧ (∀ nonce, world.shared.requests nonce = none) ∧
    (∀ call, world.shared.data call = none) ∧ (∀ thread, world.shared.delivered thread = none) ∧
    ∀ thread, world.locals thread = .idle ∨ world.locals thread = .request .start ∨
      ∃ message, world.locals thread = .dispatch message .start

theorem fresh_inv {world : World Shared Code} (fresh : Fresh world) : WorldInv world := by
  obtain ⟨counter, issued, requests, data, delivered, begins⟩ := fresh
  refine ⟨⟨by simp [counter, issued], by simp [issued], ?_, ?_⟩, fun thread => ?_⟩
  · intro nonce call found
    simp [requests] at found
  · intro call letter found
    simp [data] at found
  · rcases begins thread with idle | request | ⟨message, dispatch⟩
    · rw [idle]
      exact delivered thread
    · rw [request]
      exact ⟨delivered thread, by simp [CallInv, issued]⟩
    · rw [dispatch]
      exact delivered thread

theorem WorldInv.step {world next : World Shared Code} {move : Nat × Bool} (inv : WorldInv world)
    (few : world.shared.issued.length < 2 ^ 64) (step : Steps program world move next) : WorldInv next := by
  cases step with
  | @move thread choice shared now moved =>
      have mine := inv.everywhere thread
      cases code : world.locals thread with
      | idle => simp [program, code] at moved
      | request stage =>
          rw [code] at mine moved
          obtain ⟨⟨after, later⟩, ran, same⟩ := Option.map_eq_some_iff.mp moved
          cases same
          obtain ⟨kept, own, grows, records⟩ := runRequest_step inv.shared few mine.2 ran
          refine ⟨kept, Everywhere.set ⟨?_, own⟩ ?_⟩
          · rw [records]
            exact mine.1
          · intro other different
            exact inv_grows grows different (inv.everywhere other)
      | dispatch message stage =>
          rw [code] at mine moved
          obtain ⟨⟨after, later⟩, ran, same⟩ := Option.map_eq_some_iff.mp moved
          cases same
          obtain ⟨kept, own, grows⟩ := runDispatch_step inv.shared mine ran
          refine ⟨kept, Everywhere.set own ?_⟩
          intro other different
          exact inv_grows grows different (inv.everywhere other)

theorem runRequest_issued {thread : Nat} {shared next : Shared} {other : Bool} {stage now : CallStage}
    (stepped : runRequest thread shared other stage = some (next, now)) :
    shared.issued.length ≤ next.issued.length := by
  cases stage with
  | start =>
      cases other with
      | true =>
          cases stepped
          exact le_refl _
      | false =>
          cases stepped
          simp
  | waiting nonce =>
      cases other with
      | true =>
          cases stepped
          exact le_refl _
      | false =>
          obtain ⟨letter, _, same⟩ := Option.map_eq_some_iff.mp stepped
          cases same
          exact le_refl _
  | refused => simp [runRequest] at stepped
  | returned nonce result => simp [runRequest] at stepped
  | numbered nonce | tracked nonce | leaving nonce result | deleted nonce result =>
      cases stepped
      exact le_refl _

theorem runDispatch_issued {thread : Nat} {shared next : Shared} {message : Message} {other : Bool}
    {stage now : DispatchStage} (stepped : runDispatch thread shared message other stage = some (next, now)) :
    next.issued = shared.issued := by
  unfold runDispatch at stepped
  split at stepped
  · split at stepped <;> cases stepped <;> rfl
  · split at stepped
    · split at stepped
      · cases stepped
        rfl
      · simp at stepped
    · split at stepped
      · cases stepped
        rfl
      · simp at stepped
  · simp at stepped

theorem issued_grows {world next : World Shared Code} {move : Nat × Bool} (step : Steps program world move next) :
    world.shared.issued.length ≤ next.shared.issued.length := by
  cases step with
  | @move thread choice shared now moved =>
      cases code : world.locals thread with
      | idle => simp [program, code] at moved
      | request stage =>
          rw [code] at moved
          obtain ⟨⟨after, later⟩, ran, same⟩ := Option.map_eq_some_iff.mp moved
          cases same
          exact runRequest_issued ran
      | dispatch message stage =>
          rw [code] at moved
          obtain ⟨⟨after, later⟩, ran, same⟩ := Option.map_eq_some_iff.mp moved
          cases same
          exact (congrArg List.length (runDispatch_issued ran)).ge

theorem delivered_code {shared : Shared} {thread call : Nat} {message : Message} {code : Code}
    (known : Known shared thread code) (delivered : shared.delivered thread = some (call, message)) :
    code = .dispatch message (.delivered call) := by
  cases code with
  | idle => simp [show shared.delivered thread = none from known] at delivered
  | request stage => simp [known.1] at delivered
  | dispatch sent stage =>
      cases stage with
      | delivered target =>
          have noted : shared.delivered thread = some (target, sent) := known
          rw [noted] at delivered
          cases delivered
          rfl
      | sending target => simp [known.1] at delivered
      | start | passed | dropped target =>
          simp [show shared.delivered thread = none from known] at delivered

/-- For any number of calls below the range of the counter, and for any messages in any
order: a call that returns without an error returns a message that answers its number
and was dispatched; no message is returned by two calls; a call that has returned is
out of the map; and a dispatch that waits for such a call can go on. -/
theorem requests_answered {start world : World Shared Code} {moves : List (Nat × Bool)} (fresh : Fresh start)
    (run : Run (Steps program) start moves world) (few : world.shared.issued.length < 2 ^ 64) :
    (∀ call nonce letter, world.locals call = .request (.returned nonce (some letter)) →
      letter.message.replyFlag = true ∧ letter.message.requestNonce = nonce ∧
        world.locals letter.origin = .dispatch letter.message (.delivered call)) ∧
    (∀ call other nonce number letter reply, world.locals call = .request (.returned nonce (some letter)) →
      world.locals other = .request (.returned number (some reply)) → letter.origin = reply.origin →
      call = other) ∧
    (∀ call nonce result, world.locals call = .request (.returned nonce result) →
      world.shared.requests nonce = none) ∧
    ∀ thread message call nonce result, world.locals thread = .dispatch message (.sending call) →
      world.locals call = .request (.returned nonce result) →
      ∃ next, Steps program world (thread, true) next ∧
        next.locals thread = .dispatch message (.dropped call) := by
  have inv : WorldInv world := run.invariant
    (fun world => world.shared.issued.length < 2 ^ 64 → WorldInv world)
    (fun before move after step kept small => by
      have bound := issued_grows step
      exact (kept (by omega)).step (by omega) step)
    (fun _ => fresh_inv fresh) few
  have returned : ∀ call nonce result, world.locals call = .request (.returned nonce result) →
      CallInv world.shared call (.returned nonce result) := by
    intro call nonce result code
    have mine := inv.everywhere call
    rw [code] at mine
    exact mine.2
  have delivered : ∀ call nonce letter, world.locals call = .request (.returned nonce (some letter)) →
      world.locals letter.origin = .dispatch letter.message (.delivered call) := by
    intro call nonce letter code
    have answers := (returned call nonce _ code).2.2.2 letter rfl
    exact delivered_code (known_of_inv (inv.everywhere letter.origin)) answers.delivered
  refine ⟨?_, ?_, ?_, ?_⟩
  · intro call nonce letter code
    have answers := (returned call nonce _ code).2.2.2 letter rfl
    exact ⟨answers.reply, answers.nonce, delivered call nonce letter code⟩
  · intro call other nonce number letter reply first second same
    have left := delivered call nonce letter first
    have right := delivered other number reply second
    rw [same, right] at left
    simp only [Code.dispatch.injEq, DispatchStage.delivered.injEq] at left
    exact left.2.symm
  · intro call nonce result code
    exact (returned call nonce result code).2.1
  · intro thread message call nonce result waits code
    have closed := (returned call nonce result code).2.2.1
    have moved : program thread world.shared (world.locals thread) true =
        some (world.shared, .dispatch message (.dropped call)) := by
      simp [program, waits, runDispatch, closed]
    exact ⟨_, .move moved, by simp⟩

/-- Two calls, a reply to each, and a copy of the first reply. -/
def smallReply (nonce : UInt64) : Message := { pingMessage with requestNonce := nonce, replyFlag := true }

def smallWorld : World Shared Code where
  shared :=
    { requestNonce := 0, requests := fun _ => none, data := fun _ => none, closed := fun _ => false
      issued := [], delivered := fun _ => none }
  locals := fun thread =>
    if thread < 2 then .request .start
    else if thread = 2 then .dispatch (smallReply 2) .start
    else if thread < 5 then .dispatch (smallReply 1) .start
    else .idle

/-- The replies overtake each other and the copy waits for a call that then returns. -/
theorem requests_answered_crosswise :
    ∃ last, Run (Steps program) smallWorld [(0, false), (1, false), (1, false), (0, false), (0, false),
        (1, false), (2, false), (2, false), (3, false), (4, false), (3, false), (0, false), (4, false), (0, false),
        (0, false), (1, false), (1, false), (1, false)] last ∧
      last.locals 0 = .request (.returned 1 (some ⟨3, smallReply 1⟩)) ∧
      last.locals 3 = .dispatch (smallReply 1) (.delivered 0) ∧
      last.shared.requests 1 = none := by
  obtain ⟨last, played, returned, few⟩ : ∃ last, smallWorld.play program [(0, false), (1, false), (1, false),
        (0, false), (0, false), (1, false), (2, false), (2, false), (3, false), (4, false), (3, false), (0, false),
        (4, false), (0, false), (0, false), (1, false), (1, false), (1, false)] = some last ∧
      last.locals 0 = .request (.returned 1 (some ⟨3, smallReply 1⟩)) ∧
      last.shared.issued.length = 2 := ⟨_, rfl, rfl, rfl⟩
  have fresh : Fresh smallWorld := by
    refine ⟨rfl, rfl, fun _ => rfl, fun _ => rfl, fun _ => rfl, fun thread => ?_⟩
    simp only [smallWorld]
    split
    · exact Or.inr (Or.inl rfl)
    · split
      · exact Or.inr (Or.inr ⟨_, rfl⟩)
      · split
        · exact Or.inr (Or.inr ⟨_, rfl⟩)
        · exact Or.inl rfl
  obtain ⟨answered, _, removed, _⟩ := requests_answered fresh (World.run_of_play played) (by omega)
  exact ⟨last, World.run_of_play played, returned, (answered 0 1 _ returned).2.2, removed 0 1 _ returned⟩

end Carrier.Requests
