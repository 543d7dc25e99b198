import Carrier.AckReply

/-! The life of one message: it is sent, stored, examined by the checker, sent again,
answered and reported. An answer settles the message if it comes while the message is
stored and neither the checker nor one of its goroutines holds it. -/
namespace Carrier.AckLifecycle

open AckReply

inductive Happening where
  | sent (copy : Copy)
  | report (state : AckState)
  deriving DecidableEq, Repr

inductive Watch where
  | away
  | weighing
  | expired
  | failing
  deriving DecidableEq, Repr

structure Life where
  stage : SendStage
  answer : AnswerStage
  queued : Bool
  sleeping : Nat
  watch : Watch
  tracked : Bool
  trace : List Happening
  deriving DecidableEq, Repr

inductive Moves (life : Life) : Life → Prop where
  | advances (later : SendStage) :
      Early life.stage → later ≠ .accepted → Moves life { life with stage := later }
  | enqueues : life.stage = .checked → Moves life { life with stage := .sent, queued := true }
  | writes :
      life.stage = .checked →
      Moves life { life with stage := .sent, trace := life.trace ++ [.sent .first] }
  | stores : life.stage = .sent → Moves life { life with stage := .accepted, tracked := true }
  | delivers (tracked : Bool) :
      life.queued = true → tracked = life.tracked ∨ tracked = false →
      Moves life { life with queued := false, tracked := tracked, trace := life.trace ++ [.sent .first] }
  | loses (tracked : Bool) :
      life.queued = true → tracked = life.tracked ∨ tracked = false →
      Moves life { life with queued := false, tracked := tracked }
  | deletes (msgID : String) :
      life.answer = .waiting → .sent .first ∈ life.trace →
      Moves life { life with answer := .deleted msgID, tracked := false }
  | succeeds (msgID : String) :
      life.answer = .deleted msgID →
      Moves life { life with answer := .reported, trace := life.trace ++ [.report .success] }
  | visits : life.watch = .away → life.tracked = true → Moves life { life with watch := .weighing }
  | judges (later : Watch) :
      life.watch = .weighing → later ≠ .failing → Moves life { life with watch := later }
  | schedules :
      life.watch = .weighing → Moves life { life with watch := .away, sleeping := life.sleeping + 1 }
  | expires : life.watch = .expired → Moves life { life with watch := .failing, tracked := false }
  | fails :
      life.watch = .failing →
      Moves life { life with watch := .away, trace := life.trace ++ [.report .failed] }
  | resends :
      0 < life.sleeping →
      Moves life { life with sleeping := life.sleeping - 1, trace := life.trace ++ [.sent .again] }
  | gives :
      0 < life.sleeping → Moves life { life with sleeping := life.sleeping - 1 }

/-- A later event agrees with an earlier one: nothing is reported twice and nothing is
sent after a success. -/
def Agrees : Happening → Happening → Prop
  | .report _, .report _ => False
  | .report .success, .sent _ => False
  | _, _ => True

def Clean (trace : List Happening) : Prop := trace.Pairwise Agrees

def Unreported (trace : List Happening) : Prop := ∀ state, .report state ∉ trace

structure Settled (life : Life) : Prop where
  stage : life.stage = .accepted
  queued : life.queued = false
  sleeping : life.sleeping = 0
  watch : life.watch = .away
  tracked : life.tracked = false
  failed : .report .failed ∉ life.trace

/-- The answer finds the message stored, and neither held by the checker or one of its
goroutines nor reported as failed. -/
structure Ready (life : Life) : Prop where
  stage : life.stage = .accepted
  sleeping : life.sleeping = 0
  watch : life.watch = .away
  failed : .report .failed ∉ life.trace

structure Good (life : Life) : Prop where
  tracked : life.tracked = true → life.stage = .accepted ∧ Unreported life.trace
  watched : life.watch ≠ .away → life.stage = .accepted ∧ Unreported life.trace
  failing : life.watch = .failing → life.tracked = false
  sleeping : 0 < life.sleeping → life.stage = .accepted
  queued : life.queued = true →
    (life.stage = .sent ∨ life.stage = .accepted) ∧ .sent .first ∉ life.trace
  traced : life.trace ≠ [] → life.stage = .sent ∨ life.stage = .accepted
  reported : life.stage ≠ .accepted → Unreported life.trace
  answered : life.answer ≠ .waiting → Settled life
  deleted : ∀ msgID, life.answer = .deleted msgID → Unreported life.trace
  success : .report .success ∈ life.trace → life.answer = .reported
  clean : Clean life.trace

section automaton
variable {life next : Life}

theorem Unreported.sent {trace : List Happening} (unreported : Unreported trace) (copy : Copy) :
    Unreported (trace ++ [.sent copy]) := by
  intro state member
  rcases List.mem_append.mp member with earlier | last
  · exact unreported state earlier
  · cases List.mem_singleton.mp last

theorem mem_of_mem_sent {trace : List Happening} {state : AckState} {copy : Copy}
    (member : .report state ∈ trace ++ [.sent copy]) : .report state ∈ trace := by
  rcases List.mem_append.mp member with earlier | last
  · exact earlier
  · cases List.mem_singleton.mp last

theorem Clean.append {trace : List Happening} {event : Happening} (clean : Clean trace)
    (agrees : ∀ earlier ∈ trace, Agrees earlier event) : Clean (trace ++ [event]) := by
  apply List.pairwise_append.mpr
  refine ⟨clean, List.pairwise_singleton _ _, fun earlier member last same => ?_⟩
  obtain rfl := List.mem_singleton.mp same
  exact agrees earlier member

theorem Clean.sent {trace : List Happening} (clean : Clean trace) (copy : Copy)
    (unsuccessful : .report .success ∉ trace) : Clean (trace ++ [.sent copy]) := by
  apply clean.append
  intro earlier member
  cases earlier with
  | sent => trivial
  | report state =>
      cases state with
      | success => exact absurd member unsuccessful
      | failed => trivial

theorem Clean.report {trace : List Happening} (clean : Clean trace) (state : AckState)
    (unreported : Unreported trace) : Clean (trace ++ [.report state]) := by
  apply clean.append
  intro earlier member
  cases earlier with
  | sent => trivial
  | report before => exact absurd member (unreported before)

theorem not_sent_of_early {stage : SendStage} (early : Early stage) : stage ≠ .sent := by
  rcases early with rfl | rfl | rfl <;> decide

theorem not_accepted_of_early {stage : SendStage} (early : Early stage) : stage ≠ .accepted := by
  rcases early with rfl | rfl | rfl <;> decide

namespace Good

theorem start : Good ⟨.start, .waiting, false, 0, .away, false, []⟩ where
  tracked := fun tracked => by cases tracked
  watched := fun watched => absurd rfl watched
  failing := fun failing => by cases failing
  sleeping := fun sleeps => by cases sleeps
  queued := fun waits => by cases waits
  traced := fun traced => absurd rfl traced
  reported := fun _ _ member => by cases member
  answered := fun answered => absurd rfl answered
  deleted := fun _ deleted => by cases deleted
  success := fun member => by cases member
  clean := List.Pairwise.nil

theorem trace_eq_nil (good : Good life) (early : Early life.stage) : life.trace = [] := by
  by_contra traced
  exact (good.traced traced).elim (not_sent_of_early early) (not_accepted_of_early early)

/-! A message that still has something to do is not answered yet. -/

theorem waiting_of_queued (good : Good life) (waits : life.queued = true) : life.answer = .waiting := by
  by_contra answered
  rw [(good.answered answered).queued] at waits
  cases waits

theorem waiting_of_sleeping (good : Good life) (sleeps : 0 < life.sleeping) : life.answer = .waiting := by
  by_contra answered
  rw [(good.answered answered).sleeping] at sleeps
  cases sleeps

theorem waiting_of_watched (good : Good life) (watched : life.watch ≠ .away) : life.answer = .waiting := by
  by_contra answered
  exact watched (good.answered answered).watch

theorem waiting_of_tracked (good : Good life) (tracked : life.tracked = true) : life.answer = .waiting := by
  by_contra answered
  rw [(good.answered answered).tracked] at tracked
  cases tracked

theorem unsuccessful (good : Good life) (waiting : life.answer = .waiting) :
    .report .success ∉ life.trace := by
  intro success
  have reported := good.success success
  rw [waiting] at reported
  cases reported

theorem of_stage (good : Good life) {later : SendStage} {queued : Bool} {trace : List Happening}
    (unaccepted : life.stage ≠ .accepted) (pending : queued = true → later = .sent ∧ .sent .first ∉ trace)
    (traced : trace ≠ [] → later = .sent) (unreported : Unreported trace) (clean : Clean trace) :
    Good { life with stage := later, queued := queued, trace := trace } where
  tracked := fun tracked => absurd (good.tracked tracked).1 unaccepted
  watched := fun watched => absurd (good.watched watched).1 unaccepted
  failing := good.failing
  sleeping := fun sleeping => absurd (good.sleeping sleeping) unaccepted
  queued := fun waits => ⟨.inl (pending waits).1, (pending waits).2⟩
  traced := fun some => .inl (traced some)
  reported := fun _ => unreported
  answered := fun answered => absurd (good.answered answered).stage unaccepted
  deleted := fun _ _ => unreported
  success := fun success => absurd success (unreported .success)
  clean := clean

theorem advances (good : Good life) {later : SendStage} (early : Early life.stage) :
    Good { life with stage := later } := by
  have empty := good.trace_eq_nil early
  have unqueued : life.queued = true → later = .sent ∧ .sent .first ∉ life.trace := fun waits =>
    ((good.queued waits).1.elim (not_sent_of_early early) (not_accepted_of_early early)).elim
  exact good.of_stage (not_accepted_of_early early) unqueued (fun some => absurd empty some)
    (good.reported (not_accepted_of_early early)) good.clean

theorem enqueues (good : Good life) (checked : life.stage = .checked) :
    Good { life with stage := .sent, queued := true } := by
  have early : Early life.stage := .inr (.inr checked)
  have empty := good.trace_eq_nil early
  exact good.of_stage (not_accepted_of_early early) (fun _ => ⟨rfl, by simp [empty]⟩) (fun _ => rfl)
    (good.reported (not_accepted_of_early early)) good.clean

theorem writes (good : Good life) (checked : life.stage = .checked) :
    Good { life with stage := .sent, trace := life.trace ++ [.sent .first] } := by
  have early : Early life.stage := .inr (.inr checked)
  have unreported := good.reported (not_accepted_of_early early)
  exact good.of_stage (not_accepted_of_early early)
    (fun waits => ((good.queued waits).1.elim (not_sent_of_early early) (not_accepted_of_early early)).elim) (fun _ => rfl)
    (unreported.sent .first) (good.clean.sent .first (unreported .success))

theorem stores (good : Good life) (sent : life.stage = .sent) :
    Good { life with stage := .accepted, tracked := true } := by
  have unaccepted : life.stage ≠ .accepted := by rw [sent]; decide
  have unreported := good.reported unaccepted
  exact { good with
    tracked := fun _ => ⟨rfl, unreported⟩
    watched := fun watched => absurd (good.watched watched).1 unaccepted
    failing := fun failing => absurd (good.watched (by rw [failing]; decide)).1 unaccepted
    sleeping := fun _ => rfl
    queued := fun waits => ⟨.inr rfl, (good.queued waits).2⟩
    traced := fun _ => .inr rfl
    reported := fun not => absurd rfl not
    answered := fun answered => absurd (good.answered answered).stage unaccepted }

theorem unqueues (good : Good life) {tracked : Bool} (waits : life.queued = true)
    (fewer : tracked = life.tracked ∨ tracked = false) :
    Good { life with queued := false, tracked := tracked } :=
  { good with
    tracked := fun still => fewer.elim (fun same => good.tracked (same ▸ still)) fun none => by
      rw [none] at still; cases still
    failing := fun failing => fewer.elim (fun same => same.trans (good.failing failing)) id
    queued := fun again => by cases again
    answered := fun answered => absurd (good.waiting_of_queued waits) answered }

theorem sends (good : Good life) (copy : Copy) (waiting : life.answer = .waiting)
    (stage : life.stage = .sent ∨ life.stage = .accepted) (unqueued : copy = .first → life.queued = false) :
    Good { life with trace := life.trace ++ [.sent copy] } where
  tracked := fun tracked => ⟨(good.tracked tracked).1, (good.tracked tracked).2.sent copy⟩
  watched := fun watched => ⟨(good.watched watched).1, (good.watched watched).2.sent copy⟩
  failing := good.failing
  sleeping := good.sleeping
  queued := fun waits => by
    refine ⟨stage, fun member => ?_⟩
    rcases List.mem_append.mp member with earlier | last
    · exact (good.queued waits).2 earlier
    · cases List.mem_singleton.mp last
      have idle := unqueued rfl
      rw [waits] at idle
      cases idle
  traced := fun _ => stage
  reported := fun unaccepted => (good.reported unaccepted).sent copy
  answered := fun answered => absurd waiting answered
  deleted := fun msgID deleted => (good.deleted msgID deleted).sent copy
  success := fun member => good.success (mem_of_mem_sent member)
  clean := good.clean.sent copy (good.unsuccessful waiting)

theorem deletes (good : Good life) (ready : Ready life) (waiting : life.answer = .waiting)
    (sent : .sent .first ∈ life.trace) (msgID : String) :
    Good { life with answer := .deleted msgID, tracked := false } := by
  -- the answered frame is the first one, so that it has left the queue
  have unqueued : life.queued = false := by
    by_contra waits
    exact (good.queued (Bool.eq_true_of_not_eq_false waits)).2 sent
  have unreported : Unreported life.trace := by
    intro state member
    cases state with
    | failed => exact ready.failed member
    | success => exact good.unsuccessful waiting member
  exact { good with
    tracked := fun tracked => by cases tracked
    failing := fun _ => rfl
    answered := fun _ => ⟨ready.stage, unqueued, ready.sleeping, ready.watch, rfl, ready.failed⟩
    deleted := fun _ _ => unreported
    success := fun member => absurd member (unreported .success) }

theorem succeeds (good : Good life) {msgID : String} (deleted : life.answer = .deleted msgID) :
    Good { life with answer := .reported, trace := life.trace ++ [.report .success] } := by
  have settled : Settled life := good.answered (by rw [deleted]; intro waiting; cases waiting)
  have unreported := good.deleted msgID deleted
  have unfailed : .report .failed ∉ life.trace ++ [.report .success] := by
    intro member
    rcases List.mem_append.mp member with earlier | last
    · exact settled.failed earlier
    · cases List.mem_singleton.mp last
  exact { good with
    tracked := fun tracked => by rw [settled.tracked] at tracked; cases tracked
    watched := fun watched => absurd settled.watch watched
    queued := fun waits => by rw [settled.queued] at waits; cases waits
    traced := fun _ => .inr settled.stage
    reported := fun unaccepted => absurd settled.stage unaccepted
    answered := fun _ => { settled with failed := unfailed }
    deleted := fun _ again => by cases again
    success := fun _ => rfl
    clean := good.clean.report .success unreported }

theorem visits (good : Good life) (tracked : life.tracked = true) :
    Good { life with watch := .weighing } :=
  { good with
    watched := fun _ => good.tracked tracked
    failing := fun failing => by cases failing
    answered := fun answered => absurd (good.waiting_of_tracked tracked) answered }

theorem judges (good : Good life) {later : Watch} {sleeping : Nat} (weighing : life.watch = .weighing)
    (moving : later ≠ .failing) : Good { life with watch := later, sleeping := sleeping } := by
  have watching : life.watch ≠ .away := by rw [weighing]; decide
  have watched := good.watched watching
  exact { good with
    watched := fun _ => watched
    failing := fun failing => absurd failing moving
    sleeping := fun _ => watched.1
    answered := fun answered => absurd (good.waiting_of_watched watching) answered }

theorem expires (good : Good life) (expired : life.watch = .expired) :
    Good { life with watch := .failing, tracked := false } := by
  have watching : life.watch ≠ .away := by rw [expired]; decide
  have watched := good.watched watching
  exact { good with
    tracked := fun tracked => by cases tracked
    watched := fun _ => watched
    failing := fun _ => rfl
    answered := fun answered => absurd (good.waiting_of_watched watching) answered }

theorem fails (good : Good life) (failing : life.watch = .failing) :
    Good { life with watch := .away, trace := life.trace ++ [.report .failed] } := by
  have watching : life.watch ≠ .away := by rw [failing]; decide
  obtain ⟨stage, unreported⟩ := good.watched watching
  have waiting := good.waiting_of_watched watching
  exact { good with
    tracked := fun tracked => by rw [good.failing failing] at tracked; cases tracked
    watched := fun watched => absurd rfl watched
    failing := fun again => by cases again
    queued := fun waits => by
      refine ⟨.inr stage, fun member => ?_⟩
      rcases List.mem_append.mp member with earlier | last
      · exact (good.queued waits).2 earlier
      · cases List.mem_singleton.mp last
    traced := fun _ => .inr stage
    reported := fun unaccepted => absurd stage unaccepted
    answered := fun answered => absurd waiting answered
    deleted := fun msgID deleted => by rw [waiting] at deleted; cases deleted
    success := fun member => by
      rcases List.mem_append.mp member with earlier | last
      · exact good.success earlier
      · cases List.mem_singleton.mp last
    clean := good.clean.report .failed unreported }

theorem wakes (good : Good life) (sleeps : 0 < life.sleeping) :
    Good { life with sleeping := life.sleeping - 1 } :=
  { good with
    sleeping := fun _ => good.sleeping sleeps
    answered := fun answered => absurd (good.waiting_of_sleeping sleeps) answered }

/-- A move keeps a life good, if an answer comes when the message is ready for it. -/
theorem moves (good : Good life) (moves : Moves life next)
    (ready : life.answer = .waiting → next.answer ≠ .waiting → Ready life) : Good next := by
  cases moves with
  | advances later early => exact good.advances early
  | enqueues checked => exact good.enqueues checked
  | writes checked => exact good.writes checked
  | stores sent => exact good.stores sent
  | delivers tracked waits fewer =>
      have waiting := good.waiting_of_queued waits
      exact (good.unqueues waits fewer).sends .first waiting (good.queued waits).1 fun _ => rfl
  | loses tracked waits fewer => exact good.unqueues waits fewer
  | deletes msgID waiting sent =>
      exact good.deletes (ready waiting fun same => by cases same) waiting sent msgID
  | succeeds msgID deleted => exact good.succeeds deleted
  | visits away tracked => exact good.visits tracked
  | judges later weighing moving => exact good.judges weighing moving
  | schedules weighing => exact good.judges weighing (by decide)
  | expires expired => exact good.expires expired
  | fails failing => exact good.fails failing
  | resends sleeps =>
      have waiting := good.waiting_of_sleeping sleeps
      exact (good.wakes sleeps).sends .again waiting (.inr (good.sleeping sleeps)) fun same => by cases same
  | gives sleeps => exact good.wakes sleeps

end Good

end automaton

end Carrier.AckLifecycle
