import Carrier.ReceiveWindow

/-! The nonces a `RecvWindow` tells: `LocalNonce`, and the nonce that `Range` passes to
its callback beside a value. Both are `lastNonce`, which a `Pop` sets to a place in the
buffer, or not at all if it has emptied the whole buffer. -/
namespace Carrier.WindowNonces

open ReceiveWindow CyclicCells TransitionSystem

variable {Value : Type}

def localNonce (window : RecvWindow Value) : UInt64 := window.lastNonce

/-- What the callback is called with in the loop of `Range`, one turn after the other. -/
def loopCalls (fn : UInt64 → Option Value → Bool) : Nat → UInt64 → RecvWindow Value → List (UInt64 × Option Value)
  | 0, _, _ => []
  | left + 1, id, window =>
      (id, window.load id) ::
        if fn id (window.load id) then loopCalls fn left (id + 1) (window.store id none) else []

def rangeCalls (window : RecvWindow Value) (fn : UInt64 → Option Value → Bool) : List (UInt64 × Option Value) :=
  loopCalls fn window.size window.lastNonce window

theorem range_eq_calls (window : RecvWindow Value) (fn : UInt64 → Option Value → Bool) :
    (window.range fn).2 = ((rangeCalls window fn).filter fun call => fn call.1 call.2).map Prod.snd := by
  have loop : ∀ (left : Nat) (id : UInt64) (window : RecvWindow Value), (RecvWindow.rangeLoop fn left id window).2 =
      ((loopCalls fn left id window).filter fun call => fn call.1 call.2).map Prod.snd := by
    intro left
    induction left with
    | zero => exact fun _ _ => rfl
    | succ left ih =>
        intro id window
        by_cases taken : fn id (window.load id) = true
        · simp [RecvWindow.rangeLoop, loopCalls, taken, ih]
        · simp [RecvWindow.rangeLoop, loopCalls, taken]
  exact loop _ _ _

/-! The callback. -/

theorem load_store_blank {window : RecvWindow Value} (blank : ∀ id, window.load id = none) (id other : UInt64) :
    (window.store id none).load other = none := by
  have inside : window.idx id < window.buf.length := by
    rw [window.full]
    exact Nat.mod_lt _ window.positive
  have kept := blank other
  simp only [RecvWindow.load, RecvWindow.store, RecvWindow.idx] at kept inside ⊢
  rw [getD_set _ _ _ _ inside, kept]
  split <;> rfl

theorem loopCalls_blank (fn : UInt64 → Option Value → Bool) (left : Nat) (id : UInt64) (window : RecvWindow Value)
    (blank : ∀ id, window.load id = none) : ∀ call ∈ loopCalls fn left id window, call.2 = none := by
  induction left generalizing id window with
  | zero => simp [loopCalls]
  | succ left ih =>
      intro call member
      rcases List.mem_cons.mp member with rfl | later
      · exact blank id
      · split at later
        · exact ih (id + 1) (window.store id none) (load_store_blank blank id) call later
        · cases later

theorem loopCalls_spec (fn : UInt64 → Option Value → Bool) (left : Nat) (window : RecvWindow Value)
    (stream : Nat → Option Value) (next : Nat) (id : UInt64) (holds : Holds window stream next)
    (right : next < 2 ^ 64 → id.toNat = next) (i : Nat) (nonce : UInt64) (value : Value)
    (called : (loopCalls fn left id window)[i]? = some (nonce, some value)) :
    nonce.toNat = next + i ∧ stream nonce.toNat = some value := by
  induction left generalizing window next id i with
  | zero => cases called
  | succ left ih =>
      rcases Nat.lt_or_ge next (2 ^ 64) with below | ended
      · have aligned : Aligned window next id := by
          rw [Aligned, right below]
          exact ⟨rfl, Nat.le_refl _⟩
        cases i with
        | zero =>
            simp only [loopCalls, List.getElem?_cons_zero, Option.some.injEq, Prod.mk.injEq] at called
            obtain ⟨rfl, loaded⟩ := called
            rw [right below]
            exact ⟨rfl, (holds.load_eq fun _ => aligned).symm.trans loaded⟩
        | succ i =>
            simp only [loopCalls, List.getElem?_cons_succ] at called
            split at called
            · obtain ⟨same, found⟩ := ih (window.store id none) (next + 1) (id + 1) (holds.take aligned below)
                (fun room => by
                  rw [UInt64.toNat_add, UInt64.toNat_one, right below, Nat.mod_eq_of_lt room]) i called
              exact ⟨by omega, found⟩
            · cases called
      · -- past the last nonce there is nothing left to pass on
        have blank : ∀ id, window.load id = none := fun id => by
          rw [holds.load_eq fun below => absurd below (by omega), holds.bounded next ended]
        cases loopCalls_blank fn (left + 1) id window blank _ (List.mem_of_getElem? called)

/-! `LocalNonce` after a `Pop`. -/

/-- A nonce below the size of the window is still to come, from the next one on. Before
the first `Push` the window does not know the first nonce. -/
structure Early (first : UInt64) (session : Session Value) : Prop where
  missing : ∃ n, session.next first ≤ n ∧ n < session.window.size ∧ session.pushed n = none
  begun : (∀ n, session.pushed n = none) → first = 0

/-- `once` tells whether something has been pushed, and `lastNonce` is zero until then. -/
structure Begins (session : Session Value) : Prop where
  untouched : session.window.once = false → session.window.lastNonce = 0
  pushed : session.window.once = true → ∃ n, session.pushed n ≠ none

theorem pop_once {first : UInt64} {session : Session Value} (inv : Inv first session) :
    (session.apply .pop).window.once = session.window.once := by
  cases made : session.window.once with
  | false =>
      have holds := inv.holds
      rw [funext (inv.unopened made).2] at holds
      simpa [Session.apply, (pop_unopened holds).1, RecvWindow.stopAt] using made
  | true =>
      obtain ⟨after, res, popped, _, once, _⟩ :=
        pop_spec session.window session.pushed (session.next first) inv.holds (inv.aligned made)
      simpa [Session.apply, popped, made] using once

theorem push_once (window : RecvWindow Value) (nonce : UInt64) (value : Option Value) :
    (window.push nonce value).once = true ∧
      (window.push nonce value).lastNonce = if window.once then window.lastNonce else nonce := by
  rw [RecvWindow.push]
  cases made : window.once with
  | true => exact ⟨made, rfl⟩
  | false => exact ⟨rfl, rfl⟩

theorem pop_unopened_lastNonce {first : UInt64} {session : Session Value} (inv : Inv first session)
    (made : session.window.once = false) (zero : session.window.lastNonce = 0) :
    session.window.pop.2 = [] ∧ session.window.pop.1.lastNonce.toNat = 0 := by
  have holds := inv.holds
  rw [funext (inv.unopened made).2] at holds
  rw [(pop_unopened holds).1]
  refine ⟨rfl, ?_⟩
  rw [RecvWindow.stopAt_lastNonce, zero, UInt64.toNat_zero, Nat.zero_mod]

theorem Begins.step {first : UInt64} {session after : Session Value} {op : Op Value}
    (step : Step first session op after) (inv : Inv first session) (begins : Begins session) : Begins after := by
  cases step with
  | apply admitted =>
      cases op with
      | push nonce value =>
          have once := (push_once session.window nonce value).1
          refine ⟨fun not => absurd (not.symm.trans once) (by simp), fun _ => ⟨nonce.toNat, ?_⟩⟩
          simpa [Session.apply] using admitted.1
      | pop =>
          refine ⟨fun not => ?_, fun made => begins.pushed (by rwa [pop_once inv] at made)⟩
          rw [pop_once inv] at not
          exact UInt64.toNat_inj.mp (pop_unopened_lastNonce inv not (begins.untouched not)).2

theorem missing_iff {first : UInt64} {session : Session Value} (inv : Inv first session) :
    (∃ n, session.next first ≤ n ∧ n < session.window.size ∧ session.pushed n = none) ↔
      (session.apply .pop).next first < session.window.size := by
  obtain ⟨_, taken, missing⟩ := pop_inv inv
  have after : (session.apply .pop).next first = session.next first + session.window.pop.2.length := by
    simp only [Session.next, Session.apply, List.length_append]
    omega
  rw [after]
  constructor
  · rintro ⟨n, low, high, absent⟩
    refine Nat.lt_of_not_le fun far => ?_
    have present := taken.present (n - session.next first) (by omega)
    rw [show session.next first + (n - session.next first) = n by omega] at present
    exact present absent
  · exact fun inside => ⟨_, Nat.le_add_right _ _, inside, missing⟩

theorem pop_localNonce_iff {first : UInt64} {session : Session Value} (inv : Inv first session)
    (begins : Begins session) :
    (localNonce (session.apply .pop).window).toNat = (session.apply .pop).next first ↔ Early first session := by
  have early : Early first session ↔
      (session.apply .pop).next first < session.window.size ∧ ((∀ n, session.pushed n = none) → first = 0) :=
    ⟨fun early => ⟨(missing_iff inv).mp early.missing, early.begun⟩,
      fun both => ⟨(missing_iff inv).mpr both.1, both.2⟩⟩
  rw [early]
  cases made : session.window.once with
  | false =>
      obtain ⟨nothing, none⟩ := inv.unopened made
      obtain ⟨empty, nonce⟩ := pop_unopened_lastNonce inv made (begins.untouched made)
      have next : (session.apply .pop).next first = first.toNat := by
        simp [Session.next, Session.apply, empty, nothing]
      rw [next, show (localNonce (session.apply .pop).window).toNat = 0 from nonce]
      constructor
      · intro zero
        exact ⟨zero ▸ session.window.positive, fun _ => UInt64.toNat_inj.mp zero.symm⟩
      · rintro ⟨_, zero⟩
        rw [zero none, UInt64.toNat_zero]
  | true =>
      obtain ⟨after, res, popped, size, _, _, _, _, aligned, ends⟩ :=
        pop_spec session.window session.pushed (session.next first) inv.holds (inv.aligned made)
      have next : (session.apply .pop).next first = session.next first + res.length := by
        simp only [Session.next, Session.apply, popped, List.length_append]
        omega
      have nonce : localNonce (session.apply .pop).window = after.lastNonce := by
        simp only [localNonce, Session.apply, popped]
      rw [next, nonce]
      have small := session.window.small
      constructor
      · intro same
        rcases ends with ⟨all, kept⟩ | low
        · -- an emptied buffer leaves the nonce of before, which is behind
          have bound := after.lastNonce.toNat_lt
          have behind := (inv.aligned made (by omega)).2
          rw [kept] at same
          have positive := session.window.positive
          omega
        · obtain ⟨n, pushed⟩ := begins.pushed made
          exact ⟨by omega, fun none => absurd (none n) pushed⟩
      · rintro ⟨inside, _⟩
        obtain ⟨mod, low⟩ := aligned (by omega)
        rw [size, Nat.mod_eq_of_lt inside, Nat.mod_eq_of_lt (by omega)] at mod
        exact mod

/-! Runs. -/

def Told (first : UInt64) (session : Session Value) : Prop :=
  session.window.once = true ∨ first = 0 → session.window.lastNonce.toNat = session.next first

theorem told_step {first : UInt64} {session after : Session Value} {op : Op Value}
    (step : Step first session op after) (inv : Inv first session) (begins : Begins session)
    (told : Told first session) (early : op = .pop → Early first session) : Told first after := by
  cases step with
  | apply admitted =>
      cases op with
      | push nonce value =>
          intro _
          simp only [Session.apply, (push_once session.window nonce value).2, Session.next]
          cases made : session.window.once with
          | true => exact told (Or.inl made)
          | false =>
              obtain ⟨nothing, none⟩ := inv.unopened made
              rw [nothing, admitted.2.2.1 none]
              rfl
      | pop => exact fun _ => (pop_localNonce_iff inv begins).mpr (early rfl)

/-- Runs in which every `Pop` finds a nonce below the size of the window missing: the
callback of `Range` gets each value with its own nonce, and the next `Pop` leaves
`LocalNonce` at the next nonce exactly if it finds such a nonce. -/
theorem nonces_told_while_early {size : Nat} (positive : 0 < size) (small : size < 2 ^ 63) (first : UInt64)
    {ops : List (Op Value)} {session : Session Value}
    (run : Run (fun before op after => Step first before op after ∧ (op = .pop → Early first before))
      (opened size positive small) ops session) :
    (∀ fn i nonce value, (rangeCalls session.window fn)[i]? = some (nonce, some value) →
      nonce.toNat = session.next first + i ∧ session.pushed nonce.toNat = some value) ∧
    ((localNonce (session.apply .pop).window).toNat = (session.apply .pop).next first ↔ Early first session) := by
  obtain ⟨inv, begins, told⟩ : Inv first session ∧ Begins session ∧ Told first session := by
    refine run.invariant (fun session => Inv first session ∧ Begins session ∧ Told first session) ?_ ?_
    · rintro before op after ⟨step, early⟩ ⟨inv, begins, told⟩
      exact ⟨step_inv step inv, begins.step step inv, told_step step inv begins told early⟩
    · refine ⟨opened_inv first size positive small, ⟨fun _ => rfl, fun made => by cases made⟩, ?_⟩
      rintro (made | rfl)
      · cases made
      · rfl
  refine ⟨fun fn i nonce value called => ?_, pop_localNonce_iff inv begins⟩
  cases made : session.window.once with
  | true => exact loopCalls_spec fn _ _ _ _ _ inv.holds (fun _ => told (Or.inl made)) i nonce value called
  | false =>
      -- nothing has been pushed, so no value is passed on
      have blank : ∀ id, session.window.load id = none := by
        have holds := inv.holds
        rw [funext (inv.unopened made).2] at holds
        intro id
        exact holds.mirrors.blank (by rw [session.window.full]; exact session.window.positive) (fun _ _ => rfl) _
          (by rw [session.window.full]; exact Nat.mod_lt _ session.window.positive)
      cases loopCalls_blank fn _ _ _ blank _ (List.mem_of_getElem? called)

/-- The second message of a stream from nonce zero, in a window of four. -/
theorem nonces_told_while_early_second :
    ∃ session : Session Nat, Run (fun before op after => Step 0 before op after ∧ (op = .pop → Early 0 before))
        (opened 4 (by decide) (by decide)) [.push 0 (some 50), .pop, .push 1 (some 60)] session ∧
      (rangeCalls session.window fun _ value => value.isSome)[0]? = some (1, some 60) ∧
      session.pushed (UInt64.toNat 1) = some 60 ∧
      (localNonce (session.apply .pop).window).toNat = (session.apply .pop).next 0 := by
  obtain ⟨session, run, called, missing⟩ : ∃ session : Session Nat,
      Run (fun before op after => Step 0 before op after ∧ (op = .pop → Early 0 before))
        (opened 4 (by decide) (by decide)) [.push 0 (some 50), .pop, .push 1 (some 60)] session ∧
      (rangeCalls session.window fun _ value => value.isSome)[0]? = some (1, some 60) ∧
      session.next 0 ≤ 2 ∧ 2 < session.window.size ∧ session.pushed 2 = none := by
    refine ⟨_, .cons ⟨.apply ⟨by decide, rfl, fun _ => rfl, by decide, by decide⟩, fun same => by cases same⟩
      (.cons ⟨.apply trivial, fun _ => ⟨⟨1, by decide, by decide, rfl⟩, fun _ => rfl⟩⟩
      (.cons ⟨.apply ⟨by decide, rfl, fun none => absurd (none 0) (by decide), by decide, by decide⟩,
        fun same => by cases same⟩ (.nil _))), rfl, by decide, by decide, rfl⟩
  obtain ⟨calls, after⟩ := nonces_told_while_early _ _ 0 run
  exact ⟨session, run, called, (calls _ 0 1 60 called).2, after.mpr ⟨⟨2, missing⟩, fun _ => rfl⟩⟩

/-- A window of two from nonce five: after the first message `LocalNonce` is 0, and the
second one, pushed with nonce 6, is passed on with nonce 0. -/
theorem nonces_not_told :
    ∃ popped session : Session Nat, Run (Step 5) (opened 2 (by decide) (by decide)) [.push 5 (some 50), .pop] popped ∧
      popped.next 5 = 6 ∧ localNonce popped.window = 0 ∧
      Run (Step 5) popped [.push 6 (some 60)] session ∧
      rangeCalls session.window (fun _ value => value.isSome) = [(0, some 60), (1, none)] ∧
      session.pushed 6 = some 60 := by
  refine ⟨_, _, .cons (.apply ⟨by decide, rfl, fun _ => rfl, by decide, by decide⟩)
    (.cons (.apply trivial) (.nil _)), by decide, by decide,
    .cons (.apply ⟨by decide, rfl, fun none => absurd (none 5) (by decide), by decide, by decide⟩) (.nil _), ?_⟩
  exact ⟨by decide, rfl⟩

end Carrier.WindowNonces
