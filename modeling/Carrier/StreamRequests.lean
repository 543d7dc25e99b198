import Carrier.Requests

/-! `PeerClient.StreamRequest`. It takes a number and waits for its channel as `Request`
does, on the same client, but its select has a default case: where neither the reply nor
the timer nor the context is ready it returns at once, without a message and without an
error. -/
namespace Carrier.StreamRequests

open Framing Requests Threads TransitionSystem

/-- The ticker of a call is made after its message has been written. -/
inductive Ticker where
  | unset
  | running
  | fired
  deriving DecidableEq, Repr

/-- The client of `Request`, and for every call its ticker and whether its context is
done. -/
structure Shared where
  client : Requests.Shared
  ticker : Nat → Ticker
  done : Nat → Bool

inductive Failure where
  | context
  | message
  | write
  | timeout
  deriving DecidableEq, Repr

structure Outcome where
  response : Option Letter
  error : Option Failure
  deriving DecidableEq, Repr

inductive Stage where
  | start
  | refused (error : Failure)
  | numbered (nonce : UInt64)
  | tracked (nonce : UInt64)
  | waiting (nonce : UInt64)
  | leaving (nonce : UInt64) (outcome : Outcome)
  | deleted (nonce : UInt64) (outcome : Outcome)
  | returned (nonce : UInt64) (outcome : Outcome)
  deriving DecidableEq, Repr

/-- What a step goes by: on to the next line, a call that fails, or a case of the select.
A step of `Request` goes on or takes the other way out. -/
inductive Pick where
  | on
  | other
  | reply
  | timer
  | context
  | default
  deriving DecidableEq, Repr

/-- The calls of `Request` and the messages of a client, its calls of `StreamRequest`, and
what fires the ticker of a call and what ends its context. -/
inductive Code where
  | plain (code : Requests.Code)
  | streamRequest (stage : Stage)
  | clock (call : Nat)
  | cancel (call : Nat)
  deriving DecidableEq, Repr

def Shared.ready (shared : Shared) (call : Nat) : Bool :=
  (shared.client.data call).isSome || shared.ticker call = .fired || shared.done call

def runStreamRequest (thread : Nat) (shared : Shared) : Stage → Pick → Option (Shared × Stage)
  | .start, .on =>
      if shared.done thread then none
      else some ({ shared with client := { shared.client with
        requestNonce := shared.client.requestNonce + 1
        issued := shared.client.issued ++ [thread] } }, .numbered (shared.client.requestNonce + 1))
  | .start, .context => if shared.done thread then some (shared, .refused .context) else none
  -- no context at all, or `PrepareMessage` fails
  | .start, .other => some (shared, .refused .message)
  | .numbered nonce, .on =>
      some ({ shared with client := { shared.client with
        requests := Function.update shared.client.requests nonce (some thread) } }, .tracked nonce)
  | .tracked nonce, .on =>
      some ({ shared with ticker := Function.update shared.ticker thread .running }, .waiting nonce)
  | .tracked nonce, .other => some (shared, .leaving nonce ⟨none, some .write⟩)
  | .waiting nonce, .reply => (shared.client.data thread).map fun letter =>
      ({ shared with client := { shared.client with data := Function.update shared.client.data thread none } },
        .leaving nonce ⟨some letter, none⟩)
  | .waiting nonce, .timer =>
      if shared.ticker thread = .fired then some (shared, .leaving nonce ⟨none, some .timeout⟩) else none
  | .waiting nonce, .context =>
      if shared.done thread then some (shared, .leaving nonce ⟨none, some .context⟩) else none
  -- `err` is the nil that `StreamWrite` returned
  | .waiting nonce, .default =>
      if shared.ready thread then none else some (shared, .leaving nonce ⟨none, none⟩)
  | .leaving nonce outcome, .on =>
      some ({ shared with client := { shared.client with
        requests := Function.update shared.client.requests nonce none } }, .deleted nonce outcome)
  | .deleted nonce outcome, .on =>
      some ({ shared with client := { shared.client with
        closed := Function.update shared.client.closed thread true } }, .returned nonce outcome)
  | _, _ => none

def runPlain (thread : Nat) (shared : Shared) (code : Requests.Code) (other : Bool) : Option (Shared × Code) :=
  (Requests.program thread shared.client code other).map fun after =>
    ({ shared with client := after.1 }, .plain after.2)

def program : Program Shared Code Pick
  | thread, shared, .streamRequest stage, pick =>
      (runStreamRequest thread shared stage pick).map fun after => (after.1, .streamRequest after.2)
  | thread, shared, .plain code, .on => runPlain thread shared code false
  | thread, shared, .plain code, .other => runPlain thread shared code true
  | _, shared, .clock call, .on =>
      if shared.ticker call = .running then
        some ({ shared with ticker := Function.update shared.ticker call .fired }, .clock call)
      else none
  | _, shared, .cancel call, .on =>
      some ({ shared with done := Function.update shared.done call true }, .cancel call)
  | _, _, _, _ => none

/-! The same run, seen as one of `Request` calls. The default case does what the timer
does there. -/

def Stage.forget : Stage → CallStage
  | .start => .start
  | .refused _ => .refused
  | .numbered nonce => .numbered nonce
  | .tracked nonce => .tracked nonce
  | .waiting nonce => .waiting nonce
  | .leaving nonce outcome => .leaving nonce outcome.response
  | .deleted nonce outcome => .deleted nonce outcome.response
  | .returned nonce outcome => .returned nonce outcome.response

def Code.forget : Code → Requests.Code
  | .plain code => code
  | .streamRequest stage => .request stage.forget
  | .clock _ | .cancel _ => .idle

def forget (world : World Shared Code) : World Requests.Shared Requests.Code :=
  ⟨world.shared.client, fun thread => (world.locals thread).forget⟩

theorem forget_set (world : World Shared Code) (thread : Nat) (shared : Shared) (now : Code) :
    forget (world.set thread shared now) = (forget world).set thread shared.client now.forget := by
  simp only [forget, World.set, World.mk.injEq, true_and]
  funext other
  by_cases same : other = thread
  · subst same
    simp
  · simp [same]

theorem forget_runStreamRequest {thread : Nat} {shared next : Shared} {stage now : Stage} {pick : Pick}
    (moved : runStreamRequest thread shared stage pick = some (next, now)) :
    ∃ other, runRequest thread shared.client other stage.forget = some (next.client, now.forget) := by
  revert moved
  fun_cases runStreamRequest thread shared stage pick
  case case9 nonce =>
      intro moved
      obtain ⟨letter, found, same⟩ := Option.map_eq_some_iff.mp moved
      cases same
      exact ⟨false, by simp [runRequest, Stage.forget, found]⟩
  all_goals
    intro moved
    cases moved
  all_goals first
    | exact ⟨false, rfl⟩
    | exact ⟨true, rfl⟩

theorem forget_program {thread : Nat} {shared next : Shared} {code now : Code} {pick : Pick}
    (moved : program thread shared code pick = some (next, now)) :
    (∃ other, Requests.program thread shared.client code.forget other = some (next.client, now.forget)) ∨
      next.client = shared.client ∧ now.forget = code.forget := by
  revert moved
  fun_cases program thread shared code pick
  all_goals intro moved
  case case1 stage =>
      obtain ⟨⟨after, later⟩, ran, same⟩ := Option.map_eq_some_iff.mp moved
      cases same
      obtain ⟨other, request⟩ := forget_runStreamRequest ran
      exact Or.inl ⟨other, Option.map_eq_some_iff.mpr ⟨(after.client, later.forget), request, rfl⟩⟩
  case case2 plain =>
      obtain ⟨after, ran, same⟩ := Option.map_eq_some_iff.mp moved
      cases same
      exact Or.inl ⟨false, ran⟩
  case case3 plain =>
      obtain ⟨after, ran, same⟩ := Option.map_eq_some_iff.mp moved
      cases same
      exact Or.inl ⟨true, ran⟩
  all_goals
    cases moved
  all_goals exact Or.inr ⟨rfl, rfl⟩

/-- A step of the world is one of the `Request` world, or nothing there moves. -/
theorem forget_step {world next : World Shared Code} {move : Nat × Pick} (step : Steps program world move next) :
    (∃ other, Steps Requests.program (forget world) (move.1, other) (forget next)) ∨ forget next = forget world := by
  cases step with
  | @move thread pick shared now moved =>
      rw [forget_set]
      rcases forget_program moved with ⟨other, ran⟩ | ⟨client, code⟩
      · exact Or.inl ⟨other, .move ran⟩
      · right
        rw [client, code]
        simp only [forget, World.set, World.mk.injEq, true_and]
        exact Function.update_eq_self thread fun other => (world.locals other).forget

/-! What holds however many numbers were taken. -/

structure WorldKnown (world : World Requests.Shared Requests.Code) : Prop where
  shared : SharedInv world.shared
  everywhere : Everywhere Known world

theorem served_grows {thread other : Nat} {shared next : Requests.Shared}
    (issued : next.issued = shared.issued ∨ next.issued = shared.issued ++ [thread])
    (delivered : ∀ dispatch letter, shared.delivered dispatch = some letter → next.delivered dispatch = some letter)
    (different : other ≠ thread) {stage : CallStage} (served : Served shared other stage) :
    Served next other stage := by
  cases stage with
  | start | refused => exact not_issued_grows issued different served
  | numbered nonce | tracked nonce | waiting nonce => exact Numbered.grows issued served
  | leaving nonce result | deleted nonce result | returned nonce result =>
      exact ⟨served.1.grows issued, fun letter member => (served.2 letter member).kept delivered⟩

theorem known_grows {thread other : Nat} {shared next : Requests.Shared}
    (issued : next.issued = shared.issued ∨ next.issued = shared.issued ++ [thread])
    (others : ∀ other, other ≠ thread → next.delivered other = shared.delivered other)
    (delivered : ∀ dispatch letter, shared.delivered dispatch = some letter → next.delivered dispatch = some letter)
    (different : other ≠ thread) {code : Requests.Code} (known : Known shared other code) :
    Known next other code := by
  have same := others other different
  cases code with
  | idle => exact same.trans known
  | request stage => exact ⟨same.trans known.1, served_grows issued delivered different known.2⟩
  | dispatch message stage =>
      cases stage with
      | sending call => exact ⟨same.trans known.1, known.2.1, known.2.2.grows issued⟩
      | delivered call | start | passed | dropped call => exact same.trans known

theorem WorldKnown.step {world next : World Requests.Shared Requests.Code} {move : Nat × Bool} (inv : WorldKnown world)
    (step : Steps Requests.program world move next) : WorldKnown next := by
  cases step with
  | @move thread choice shared now moved =>
      have mine := inv.everywhere thread
      cases code : world.locals thread with
      | idle => simp [Requests.program, code] at moved
      | request stage =>
          rw [code] at mine moved
          obtain ⟨⟨after, later⟩, ran, same⟩ := Option.map_eq_some_iff.mp moved
          cases same
          obtain ⟨kept, served, issued, records⟩ := runRequest_served inv.shared mine.2 ran
          refine ⟨kept, Everywhere.set ⟨by rw [records]; exact mine.1, served⟩ fun other different => ?_⟩
          exact known_grows issued (fun _ _ => by rw [records]) (fun _ _ found => by rw [records, found])
            different (inv.everywhere other)
      | dispatch message stage =>
          rw [code] at mine moved
          obtain ⟨⟨after, later⟩, ran, same⟩ := Option.map_eq_some_iff.mp moved
          cases same
          obtain ⟨kept, own, grows⟩ := runDispatch_step inv.shared mine ran
          refine ⟨kept, Everywhere.set own fun other different => ?_⟩
          exact known_grows grows.issued grows.others grows.delivered different (inv.everywhere other)

/-! The guarantee. -/

def Stage.outcome : Stage → Option Outcome
  | .leaving _ outcome | .deleted _ outcome | .returned _ outcome => some outcome
  | .start | .refused _ | .numbered _ | .tracked _ | .waiting _ => none

structure Fresh (world : World Shared Code) : Prop where
  forgotten : Requests.Fresh (forget world)
  tickers : ∀ call, world.shared.ticker call = .unset

def Answered (world : World Shared Code) : Prop :=
  ∀ call stage, world.locals call = .streamRequest stage → stage.outcome ≠ some ⟨none, none⟩

theorem answered_of_fresh {world : World Shared Code} (fresh : Fresh world) : Answered world := by
  intro call stage code
  have begins := fresh.forgotten.2.2.2.2.2 call
  simp only [forget, code, Code.forget] at begins
  cases stage <;> simp_all [Stage.forget, Stage.outcome]

/-- A call that makes its select finds its reply, its ticker or its context ready. -/
def Prompt (world : World Shared Code) (move : Nat × Pick) : Prop :=
  match world.locals move.1 with
  | .streamRequest (.waiting _) => world.shared.ready move.1 = true
  | _ => True

instance (world : World Shared Code) (move : Nat × Pick) : Decidable (Prompt world move) := by
  unfold Prompt
  split <;> infer_instance

theorem runStreamRequest_answered {thread : Nat} {shared next : Shared} {stage now : Stage} {pick : Pick}
    (before : stage.outcome ≠ some ⟨none, none⟩)
    (moved : runStreamRequest thread shared stage pick = some (next, now)) :
    now.outcome ≠ some ⟨none, none⟩ ↔ ∀ nonce, stage = .waiting nonce → shared.ready thread = true := by
  revert moved
  fun_cases runStreamRequest thread shared stage pick
  case case9 nonce =>
      intro moved
      obtain ⟨letter, found, same⟩ := Option.map_eq_some_iff.mp moved
      cases same
      simp [Stage.outcome, Shared.ready, found]
  all_goals
    intro moved
    cases moved
  all_goals simp_all [Stage.outcome, Shared.ready]

theorem answered_step {world next : World Shared Code} {move : Nat × Pick} (answered : Answered world)
    (step : Steps program world move next) : Answered next ↔ Prompt world move := by
  cases step with
  | @move thread pick shared now moved =>
      have own : Answered (world.set thread shared now) ↔
          ∀ stage, now = .streamRequest stage → stage.outcome ≠ some ⟨none, none⟩ := by
        constructor
        · intro all stage same
          exact all thread stage (by rw [World.set_self, same])
        · intro own call stage code
          by_cases here : call = thread
          · subst here
            exact own stage (by rwa [World.set_self] at code)
          · rw [World.set_other world shared now here] at code
            exact answered call stage code
      rw [own, Prompt]
      cases code : world.locals thread with
      | streamRequest stage =>
          rw [code] at moved
          obtain ⟨⟨after, later⟩, ran, same⟩ := Option.map_eq_some_iff.mp moved
          cases same
          have spoken := runStreamRequest_answered (answered thread stage code) ran
          cases stage <;> simpa using spoken
      | plain | clock | cancel =>
          simp only [iff_true]
          rintro stage rfl
          rw [code] at moved
          cases pick <;> simp [program, runPlain] at moved

/-- Runs in which every select finds its reply, its ticker or its context ready: a
`StreamRequest` that returns without an error returns a message that answers its number
and was dispatched to it. The next step keeps to that exactly if its select finds one of
them ready. -/
theorem streamRequests_answered {start world : World Shared Code} {moves : List (Nat × Pick)} (fresh : Fresh start)
    (run : Run (fun before move after => Steps program before move after ∧ Prompt before move) start moves world) :
    (∀ call nonce outcome, world.locals call = .streamRequest (.returned nonce outcome) → outcome.error = none →
      ∃ letter, outcome.response = some letter ∧ letter.message.replyFlag = true ∧
        letter.message.requestNonce = nonce ∧
        world.locals letter.origin = .plain (.dispatch letter.message (.delivered call))) ∧
    ∀ move next, Steps program world move next → (Answered next ↔ Prompt world move) := by
  have initial : WorldKnown (forget start) :=
    ⟨(fresh_inv fresh.forgotten).shared, fun thread => known_of_inv ((fresh_inv fresh.forgotten).everywhere thread)⟩
  have known : WorldKnown (forget world) := run.invariant (fun world => WorldKnown (forget world))
    (fun _ _ _ step kept => by
      rcases forget_step step.1 with ⟨_, request⟩ | same
      · exact kept.step request
      · rwa [same]) initial
  have answered : Answered world := run.invariant Answered
    (fun _ _ _ step kept => (answered_step kept step.1).mpr step.2) (answered_of_fresh fresh)
  refine ⟨?_, fun move next step => answered_step answered step⟩
  intro call nonce outcome code noError
  have own := known.everywhere call
  simp only [forget, code, Code.forget, Stage.forget] at own
  obtain ⟨letter, response⟩ : ∃ letter, outcome.response = some letter := by
    refine Option.ne_none_iff_exists'.mp fun nothing => answered call _ code ?_
    obtain ⟨response, error⟩ := outcome
    simp only [Stage.outcome, show response = none from nothing, show error = none from noError]
  have answers := own.2.2 letter response
  refine ⟨letter, response, answers.reply, answers.nonce, ?_⟩
  have origin := delivered_code (known.everywhere letter.origin) answers.delivered
  cases sender : world.locals letter.origin with
  | plain sent =>
      simp only [forget, sender, Code.forget] at origin
      rw [origin]
  | streamRequest | clock | cancel =>
      simp only [forget, sender, Code.forget] at origin
      cases origin

/-- Two calls, a reply to the first, and the clock of the second. -/
def streamWorld : World Shared Code where
  shared := ⟨smallWorld.shared, fun _ => .unset, fun _ => false⟩
  locals := fun thread =>
    if thread < 2 then .streamRequest .start
    else if thread = 2 then .plain (.dispatch (smallReply 1) .start)
    else if thread = 3 then .clock 1
    else .plain .idle

theorem streamWorld_fresh : Fresh streamWorld := by
  refine ⟨⟨rfl, rfl, fun _ => rfl, fun _ => rfl, fun _ => rfl, fun thread => ?_⟩, fun _ => rfl⟩
  simp only [forget, streamWorld]
  split
  · exact Or.inr (Or.inl rfl)
  · split
    · exact Or.inr (Or.inr ⟨_, rfl⟩)
    · split
      · exact Or.inl rfl
      · exact Or.inl rfl

/-- The reply is in the channel of the first call and the ticker of the second has fired
before they come to their selects. -/
theorem streamRequests_answered_early :
    ∃ last, Run (fun before move after => Steps program before move after ∧ Prompt before move) streamWorld
        [(0, .on), (1, .on), (0, .on), (0, .on), (2, .on), (1, .on), (2, .on), (1, .on), (3, .on), (0, .reply),
          (1, .timer), (1, .on), (0, .on), (0, .on), (1, .on)] last ∧
      last.locals 0 = .streamRequest (.returned 1 ⟨some ⟨2, smallReply 1⟩, none⟩) ∧
      last.locals 1 = .streamRequest (.returned 2 ⟨none, some .timeout⟩) ∧
      last.locals 2 = .plain (.dispatch (smallReply 1) (.delivered 0)) := by
  obtain ⟨last, played, returned, late⟩ : ∃ last, streamWorld.playWhile program Prompt
        [(0, .on), (1, .on), (0, .on), (0, .on), (2, .on), (1, .on), (2, .on), (1, .on), (3, .on), (0, .reply),
          (1, .timer), (1, .on), (0, .on), (0, .on), (1, .on)] = some last ∧
      last.locals 0 = .streamRequest (.returned 1 ⟨some ⟨2, smallReply 1⟩, none⟩) ∧
      last.locals 1 = .streamRequest (.returned 2 ⟨none, some .timeout⟩) := ⟨_, rfl, rfl, rfl⟩
  refine ⟨last, World.run_of_playWhile played, returned, late, ?_⟩
  obtain ⟨letter, same, _, _, delivered⟩ :=
    (streamRequests_answered streamWorld_fresh (World.run_of_playWhile played)).1 0 1 _ returned rfl
  cases same
  exact delivered

/-- The call comes to its select first and returns nothing, without an error. The reply
then finds nobody. -/
theorem streamRequest_unanswered :
    Fresh streamWorld ∧ ∃ last, Run (Steps program) streamWorld
        [(0, .on), (0, .on), (0, .on), (0, .default), (0, .on), (0, .on), (2, .on)] last ∧
      last.locals 0 = .streamRequest (.returned 1 ⟨none, none⟩) ∧
      last.locals 2 = .plain (.dispatch (smallReply 1) .passed) := by
  obtain ⟨last, played, returned, passed⟩ : ∃ last, streamWorld.play program
        [(0, .on), (0, .on), (0, .on), (0, .default), (0, .on), (0, .on), (2, .on)] = some last ∧
      last.locals 0 = .streamRequest (.returned 1 ⟨none, none⟩) ∧
      last.locals 2 = .plain (.dispatch (smallReply 1) .passed) := ⟨_, rfl, rfl, rfl⟩
  exact ⟨streamWorld_fresh, last, World.run_of_play played, returned, passed⟩

end Carrier.StreamRequests
