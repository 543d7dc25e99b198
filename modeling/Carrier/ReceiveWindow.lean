import Carrier.CyclicCells
import Carrier.TransitionSystem

/-! `RecvWindow` of `network/recv_window.go`: messages are put at their nonce modulo
the size of the window and taken out in the order of their nonces. `lastNonce` is the
first nonce until a `Pop` stops at a missing message; from then on it is the place of
that message in the buffer. -/
namespace Carrier.ReceiveWindow

open CyclicCells TransitionSystem

/-- `once` says that the first `Push` has been made. -/
structure RecvWindow (Value : Type) where
  lastNonce : UInt64
  size : Nat
  buf : List (Option Value)
  once : Bool
  positive : 0 < size
  small : size < 2 ^ 63
  full : buf.length = size

variable {Value : Type}

def newRecvWindow (size : Nat) (positive : 0 < size) (small : size < 2 ^ 63) : RecvWindow Value where
  lastNonce := 0
  size := size
  buf := List.replicate size none
  once := false
  positive := positive
  small := small
  full := List.length_replicate

namespace RecvWindow

def idx (window : RecvWindow Value) (id : UInt64) : Nat := id.toNat % window.size

def load (window : RecvWindow Value) (id : UInt64) : Option Value := window.buf.getD (window.idx id) none

def store (window : RecvWindow Value) (id : UInt64) (value : Option Value) : RecvWindow Value :=
  { window with
    buf := window.buf.set (window.idx id) value
    full := by rw [List.length_set, window.full] }

def push (window : RecvWindow Value) (nonce : UInt64) (value : Option Value) : RecvWindow Value :=
  (if window.once then window else { window with lastNonce := nonce, once := true }).store nonce value

/-- `fn` does not take the value at `id`, and `Range` notes its place. -/
def stopAt (window : RecvWindow Value) (id : UInt64) : RecvWindow Value :=
  { window with lastNonce := UInt64.ofNat (window.idx id) }

def rangeLoop (fn : UInt64 → Option Value → Bool) :
    Nat → UInt64 → RecvWindow Value → RecvWindow Value × List (Option Value)
  | 0, _, window => (window, [])
  | left + 1, id, window =>
      if fn id (window.load id) then
        let after := rangeLoop fn left (id + 1) (window.store id none)
        (after.1, window.load id :: after.2)
      else (window.stopAt id, [])

def range (window : RecvWindow Value) (fn : UInt64 → Option Value → Bool) :
    RecvWindow Value × List (Option Value) :=
  rangeLoop fn window.size window.lastNonce window

def pop (window : RecvWindow Value) : RecvWindow Value × List (Option Value) :=
  window.range fun _ value => value.isSome

@[simp] theorem store_size (window : RecvWindow Value) (id : UInt64) (value : Option Value) :
    (window.store id value).size = window.size := rfl

@[simp] theorem push_size (window : RecvWindow Value) (nonce : UInt64) (value : Option Value) :
    (window.push nonce value).size = window.size := by
  rw [push, store_size]
  split <;> rfl

theorem rangeLoop_missing {window : RecvWindow Value} {id : UInt64} (missing : window.load id = none)
    (left : Nat) : rangeLoop (fun _ value => value.isSome) (left + 1) id window = (window.stopAt id, []) := by
  rw [rangeLoop, missing]
  rfl

theorem stopAt_lastNonce (window : RecvWindow Value) (id : UInt64) :
    (window.stopAt id).lastNonce.toNat = id.toNat % window.size := by
  have inside := Nat.mod_lt id.toNat window.positive
  have small := window.small
  rw [stopAt, idx, UInt64.toNat_ofNat', Nat.mod_eq_of_lt (by omega)]

theorem push_buf (window : RecvWindow Value) (nonce : UInt64) (value : Option Value) :
    (window.push nonce value).buf = window.buf.set (nonce.toNat % window.size) value := by
  rw [push]
  split <;> rfl

end RecvWindow

/-! What is in the window of a stream. -/

/-- The buffer holds the stream from `next` on. No nonce lies beyond the range of the
counter, so that the stream ends there and alignment is of no concern at that point. -/
structure Holds (window : RecvWindow Value) (stream : Nat → Option Value) (next : Nat) : Prop where
  mirrors : Mirrors window.buf stream next
  bounded : ∀ n, 2 ^ 64 ≤ n → stream n = none
  next_le : next ≤ 2 ^ 64

/-- A nonce that points at the next message: it may lie whole turns behind. -/
def Aligned (window : RecvWindow Value) (next : Nat) (id : UInt64) : Prop :=
  id.toNat % window.size = next % window.size ∧ id.toNat ≤ next

theorem Aligned.succ {window : RecvWindow Value} {next : Nat} {id : UInt64} (aligned : Aligned window next id)
    (room : next + 1 < 2 ^ 64) : Aligned window (next + 1) (id + 1) := by
  obtain ⟨same, low⟩ := aligned
  have sum : (id + 1).toNat = id.toNat + 1 := by
    rw [UInt64.toNat_add, UInt64.toNat_one, Nat.mod_eq_of_lt (by omega)]
  exact ⟨by rw [sum, Nat.add_mod, same, ← Nat.add_mod], by omega⟩

namespace Holds

variable {window : RecvWindow Value} {stream : Nat → Option Value} {next : Nat}
  (holds : Holds window stream next)
include holds

/-- A turn of the loop reads the next message. At the end of the counter every cell is
empty, so that it does not matter that the nonce has wrapped around. -/
theorem load_eq {id : UInt64} (aligned : next < 2 ^ 64 → Aligned window next id) :
    window.load id = stream next := by
  have positive : 0 < window.buf.length := by rw [window.full]; exact window.positive
  rcases Nat.lt_or_ge next (2 ^ 64) with below | ended
  · have cell := holds.mirrors.cell next (Nat.le_refl _) (by omega)
    rw [RecvWindow.load, RecvWindow.idx, (aligned below).1, ← cell, window.full]
  · have blank := holds.mirrors.blank positive (fun n later => holds.bounded n (by omega)) (window.idx id)
      (by rw [window.full]; exact Nat.mod_lt _ window.positive)
    rw [RecvWindow.load, blank, holds.bounded next ended]

theorem take {id : UInt64} (aligned : Aligned window next id) (below : next < 2 ^ 64) :
    Holds (window.store id none) stream (next + 1) := by
  refine ⟨?_, holds.bounded, by omega⟩
  have moved := holds.mirrors.advance (by rw [window.full]; exact window.positive)
  rwa [window.full, ← aligned.1] at moved

theorem push {nonce : UInt64} (low : next ≤ nonce.toNat) (high : nonce.toNat < next + window.size)
    (value : Option Value) :
    Holds (window.push nonce value) (Function.update stream nonce.toNat value) next := by
  refine ⟨?_, fun n far => ?_, holds.next_le⟩
  · have stored := holds.mirrors.store low (by rwa [window.full]) value
    rwa [window.full, ← RecvWindow.push_buf] at stored
  · have apart : n ≠ nonce.toNat := by
      have bound := nonce.toNat_lt
      omega
    rw [Function.update_of_ne apart, holds.bounded n far]

end Holds

structure Taken (stream : Nat → Option Value) (next : Nat) (res : List (Option Value)) : Prop where
  values : ∀ i, i < res.length → res[i]? = some (stream (next + i))
  present : ∀ i, i < res.length → stream (next + i) ≠ none

theorem Taken.nil (stream : Nat → Option Value) (next : Nat) : Taken stream next [] :=
  ⟨fun i inside => by simp at inside, fun i inside => by simp at inside⟩

theorem Taken.cons {stream : Nat → Option Value} {next : Nat} {res : List (Option Value)}
    (present : stream next ≠ none) (taken : Taken stream (next + 1) res) :
    Taken stream next (stream next :: res) := by
  refine ⟨fun i inside => ?_, fun i inside => ?_⟩
  · cases i with
    | zero => rfl
    | succ i =>
        rw [List.getElem?_cons_succ, taken.values i (by simpa using inside), Nat.add_right_comm,
          Nat.add_assoc]
  · cases i with
    | zero => exact present
    | succ i =>
        have later := taken.present i (by simpa using inside)
        rwa [Nat.add_right_comm, Nat.add_assoc] at later

theorem Taken.append {stream : Nat → Option Value} {next : Nat} {left right : List (Option Value)}
    (first : Taken stream next left) (second : Taken stream (next + left.length) right) :
    Taken stream next (left ++ right) := by
  refine ⟨fun i inside => ?_, fun i inside => ?_⟩
  · rcases Nat.lt_or_ge i left.length with early | late
    · rw [List.getElem?_append_left early, first.values i early]
    · rw [List.length_append] at inside
      rw [List.getElem?_append_right late, second.values _ (by omega)]
      congr 2
      omega
  · rcases Nat.lt_or_ge i left.length with early | late
    · exact first.present i early
    · rw [List.length_append] at inside
      have later := second.present (i - left.length) (by omega)
      rwa [show next + left.length + (i - left.length) = next + i by omega] at later

/-- Where the loop of `Pop` ends: after all its turns, with `lastNonce` untouched, or
before the first missing message, with `lastNonce` at its place. -/
theorem rangeLoop_spec (left : Nat) (window : RecvWindow Value) (stream : Nat → Option Value) (next : Nat)
    (id : UInt64) (holds : Holds window stream next) (aligned : next < 2 ^ 64 → Aligned window next id) :
    ∃ after res, RecvWindow.rangeLoop (fun _ value => value.isSome) left id window = (after, res) ∧
      after.size = window.size ∧ after.once = window.once ∧ Taken stream next res ∧
      Holds after stream (next + res.length) ∧
      ((res.length = left ∧ after.lastNonce = window.lastNonce) ∨
        (stream (next + res.length) = none ∧ after.lastNonce.toNat < window.size ∧
          (next + res.length < 2 ^ 64 → Aligned window (next + res.length) after.lastNonce))) := by
  induction left generalizing window next id with
  | zero => exact ⟨window, [], rfl, rfl, rfl, .nil _ _, holds, Or.inl ⟨rfl, rfl⟩⟩
  | succ left ih =>
      have read := holds.load_eq aligned
      cases found : stream next with
      | none =>
          have place := window.stopAt_lastNonce id
          refine ⟨_, [], RecvWindow.rangeLoop_missing (read.trans found) left, rfl, rfl, .nil _ _,
            ⟨holds.mirrors, holds.bounded, holds.next_le⟩, Or.inr ⟨found, ?_, fun below => ?_⟩⟩
          · rw [place]
            exact Nat.mod_lt _ window.positive
          · rw [(aligned below).1] at place
            simp only [Aligned, place, List.length_nil, Nat.add_zero, Nat.mod_mod, true_and]
            exact Nat.mod_le _ _
      | some value =>
          have below : next < 2 ^ 64 := by
            refine Nat.lt_of_not_le fun far => ?_
            rw [holds.bounded next far] at found
            cases found
          obtain ⟨after, res, looped, size, once, taken, kept, ends⟩ :=
            ih (window.store id none) (next + 1) (id + 1) (holds.take (aligned below) below)
              (fun room => (aligned below).succ room)
          have sum : next + 1 + res.length = next + (res.length + 1) := by omega
          rw [sum] at kept ends
          refine ⟨after, stream next :: res, ?_, size, once, .cons (by simp [found]) taken, kept, ?_⟩
          · simp only [RecvWindow.rangeLoop, read, found, Option.isSome_some, if_true]
            simp only [looped]
          · rcases ends with ⟨all, same⟩ | stopped
            · exact Or.inl ⟨by simp [all], same⟩
            · exact Or.inr stopped

theorem pop_spec (window : RecvWindow Value) (stream : Nat → Option Value) (next : Nat)
    (holds : Holds window stream next) (aligned : next < 2 ^ 64 → Aligned window next window.lastNonce) :
    ∃ after res, window.pop = (after, res) ∧ after.size = window.size ∧ after.once = window.once ∧
      Taken stream next res ∧ stream (next + res.length) = none ∧ Holds after stream (next + res.length) ∧
      (next + res.length < 2 ^ 64 → Aligned after (next + res.length) after.lastNonce) ∧
      ((res.length = window.size ∧ after.lastNonce = window.lastNonce) ∨
        after.lastNonce.toNat < window.size) := by
  obtain ⟨after, res, looped, size, once, taken, kept, ends⟩ :=
    rangeLoop_spec window.size window stream next window.lastNonce holds aligned
  refine ⟨after, res, looped, size, once, taken, ?_, kept, ?_, ends.imp_right fun stopped => stopped.2.1⟩
  · rcases ends with ⟨all, _⟩ | stopped
    · exact holds.mirrors.beyond _ (by rw [window.full]; omega)
    · exact stopped.1
  · intro below
    rw [Aligned, size]
    rcases ends with ⟨all, same⟩ | stopped
    · -- a whole turn leads back to the place it started from
      obtain ⟨mod, low⟩ := aligned (by omega)
      rw [same, all, Nat.add_mod_right]
      exact ⟨mod, by omega⟩
    · exact stopped.2.2 below

/-! Runs of `Push` and `Pop`. -/

inductive Op (Value : Type) where
  | push (nonce : UInt64) (value : Option Value)
  | pop

/-- A window with the messages pushed so far, by nonce, and all that `Pop` has
returned, one result after the other. -/
structure Session (Value : Type) where
  window : RecvWindow Value
  pushed : Nat → Option Value
  popped : List (Option Value)

def Session.next (session : Session Value) (first : UInt64) : Nat := first.toNat + session.popped.length

def Session.apply (session : Session Value) : Op Value → Session Value
  | .push nonce value =>
      { session with
        window := session.window.push nonce value
        pushed := Function.update session.pushed nonce.toNat value }
  | .pop =>
      { session with
        window := session.window.pop.1
        popped := session.popped ++ session.window.pop.2 }

/-- A message is pushed once, into the window as it is then, and the first one is the
first of the stream. -/
def Admitted (first : UInt64) (session : Session Value) : Op Value → Prop
  | .push nonce value => value ≠ none ∧ session.pushed nonce.toNat = none ∧
      ((∀ n, session.pushed n = none) → nonce = first) ∧ session.next first ≤ nonce.toNat ∧
      nonce.toNat < session.next first + session.window.size
  | .pop => True

inductive Step (first : UInt64) : Session Value → Op Value → Session Value → Prop where
  | apply {session : Session Value} {op : Op Value} :
      Admitted first session op → Step first session op (session.apply op)

def opened (size : Nat) (positive : 0 < size) (small : size < 2 ^ 63) : Session Value where
  window := newRecvWindow size positive small
  pushed := fun _ => none
  popped := []

structure Inv (first : UInt64) (session : Session Value) : Prop where
  holds : Holds session.window session.pushed (session.next first)
  taken : Taken session.pushed first.toNat session.popped
  unopened : session.window.once = false → session.popped = [] ∧ ∀ n, session.pushed n = none
  aligned : session.window.once = true → session.next first < 2 ^ 64 →
    Aligned session.window (session.next first) session.window.lastNonce

theorem opened_inv (first : UInt64) (size : Nat) (positive : 0 < size) (small : size < 2 ^ 63) :
    Inv first (opened size positive small : Session Value) := by
  refine ⟨⟨mirrors_replicate size _, fun _ _ => rfl, ?_⟩, .nil _ _, fun _ => ⟨rfl, fun _ => rfl⟩, ?_⟩
  · exact Nat.le_of_lt first.toNat_lt
  · intro made
    cases made

/-- Before the first `Push` nothing is in the window, wherever `lastNonce` points. -/
theorem pop_unopened {window : RecvWindow Value} {next : Nat} (holds : Holds window (fun _ => none) next) :
    window.pop = (window.stopAt window.lastNonce, []) ∧ Holds window.pop.1 (fun _ => none) next := by
  have empty : window.load window.lastNonce = none :=
    holds.mirrors.blank (by rw [window.full]; exact window.positive) (fun _ _ => rfl) _
      (by rw [window.full]; exact Nat.mod_lt _ window.positive)
  have stopped : window.pop = (window.stopAt window.lastNonce, []) := by
    obtain ⟨turns, more⟩ := Nat.exists_eq_add_one.mpr window.positive
    rw [RecvWindow.pop, RecvWindow.range, more]
    exact RecvWindow.rangeLoop_missing empty turns
  rw [stopped]
  exact ⟨rfl, holds.mirrors, holds.bounded, holds.next_le⟩

theorem push_inv {first nonce : UInt64} {value : Option Value} {session : Session Value} (inv : Inv first session)
    (admitted : Admitted first session (.push nonce value)) : Inv first (session.apply (.push nonce value)) := by
  obtain ⟨_, absent, begins, low, high⟩ := admitted
  have once : (session.window.push nonce value).once = true := by
    rw [RecvWindow.push]
    cases made : session.window.once with
    | true => simpa [RecvWindow.store] using made
    | false => rfl
  refine ⟨inv.holds.push low high value, ?_, ?_, ?_⟩
  · -- what has been returned has been pushed before, under other nonces
    have apart : ∀ i, i < session.popped.length → first.toNat + i ≠ nonce.toNat := fun i inside same =>
      inv.taken.present i inside (same ▸ absent)
    refine ⟨fun i inside => ?_, fun i inside => ?_⟩
    · simp only [Session.apply] at inside ⊢
      rw [Function.update_of_ne (apart i inside), inv.taken.values i inside]
    · simp only [Session.apply] at inside ⊢
      rw [Function.update_of_ne (apart i inside)]
      exact inv.taken.present i inside
  · intro not
    exact absurd (not.symm.trans once) (by simp)
  · intro _ below
    change Aligned (session.window.push nonce value) (session.next first) (session.window.push nonce value).lastNonce
    rw [Aligned, RecvWindow.push_size]
    cases made : session.window.once with
    | true =>
        have same : (session.window.push nonce value).lastNonce = session.window.lastNonce := by
          simp [RecvWindow.push, made, RecvWindow.store]
        rw [same]
        exact inv.aligned made below
    | false =>
        obtain ⟨nothing, none⟩ := inv.unopened made
        have same : (session.window.push nonce value).lastNonce = nonce := by
          simp [RecvWindow.push, made, RecvWindow.store]
        rw [same, begins none, Session.next, nothing]
        exact ⟨rfl, Nat.le_refl _⟩

theorem pop_inv {first : UInt64} {session : Session Value} (inv : Inv first session) :
    Inv first (session.apply .pop) ∧ Taken session.pushed (session.next first) session.window.pop.2 ∧
      session.pushed (session.next first + session.window.pop.2.length) = none := by
  cases made : session.window.once with
  | false =>
      obtain ⟨nothing, none⟩ := inv.unopened made
      have blank : session.pushed = fun _ => Option.none := funext none
      have holds := inv.holds
      rw [blank] at holds
      obtain ⟨popped, kept⟩ := pop_unopened holds
      have empty : session.window.pop.2 = [] := by rw [popped]
      rw [← blank] at kept
      have notMade : (session.apply .pop).window.once = false := by
        simp only [Session.apply, popped]
        exact made
      refine ⟨⟨?_, ?_, fun _ => ⟨?_, none⟩, ?_⟩, ?_, none _⟩
      · simpa [Session.apply, Session.next, empty] using kept
      · simpa [Session.apply, empty] using inv.taken
      · simp [Session.apply, empty, nothing]
      · intro opened
        exact absurd (notMade.symm.trans opened) (by simp)
      · rw [empty]
        exact .nil _ _
  | true =>
      obtain ⟨after, res, popped, size, once, taken, missing, kept, aligned, _⟩ :=
        pop_spec session.window session.pushed (session.next first) inv.holds (inv.aligned made)
      have next : (session.apply .pop).next first = session.next first + res.length := by
        simp only [Session.next, Session.apply, popped, List.length_append]
        omega
      refine ⟨⟨?_, ?_, ?_, ?_⟩, ?_, ?_⟩
      · rw [next]
        simpa [Session.apply, popped] using kept
      · have joined := inv.taken.append taken
        simpa [Session.apply, popped] using joined
      · intro not
        have still : (session.apply .pop).window.once = true := by
          simp [Session.apply, popped, once, made]
        exact absurd (not.symm.trans still) (by simp)
      · intro _ below
        rw [next] at below ⊢
        simpa [Session.apply, popped] using aligned below
      · rw [popped]
        exact taken
      · rw [popped]
        exact missing

theorem step_inv {first : UInt64} {session after : Session Value} {op : Op Value}
    (step : Step first session op after) (inv : Inv first session) : Inv first after := by
  cases step with
  | apply admitted =>
      cases op with
      | push nonce value => exact push_inv inv admitted
      | pop => exact (pop_inv inv).1

/-- All that `Pop` has returned is the stream from its first nonce on, and the next
`Pop` returns the messages that follow, up to the first missing one. -/
theorem pops_in_order {size : Nat} (positive : 0 < size) (small : size < 2 ^ 63) (first : UInt64)
    {ops : List (Op Value)} {session : Session Value}
    (run : Run (Step first) (opened size positive small) ops session) :
    (∀ i, i < session.popped.length → ∃ value,
      session.popped[i]? = some (some value) ∧ session.pushed (first.toNat + i) = some value) ∧
    (∀ i, i < session.window.pop.2.length → ∃ value,
      session.window.pop.2[i]? = some (some value) ∧ session.pushed (session.next first + i) = some value) ∧
    session.pushed (session.next first + session.window.pop.2.length) = none := by
  have inv := run.invariant (Inv first) (fun _ _ _ step kept => step_inv step kept)
    (opened_inv first size positive small)
  obtain ⟨_, taken, missing⟩ := pop_inv inv
  have entries : ∀ {start : Nat} {res : List (Option Value)}, Taken session.pushed start res → ∀ i,
      i < res.length → ∃ value, res[i]? = some (some value) ∧ session.pushed (start + i) = some value := by
    intro start res taken i inside
    obtain ⟨value, found⟩ := Option.ne_none_iff_exists'.mp (taken.present i inside)
    exact ⟨value, by rw [taken.values i inside, found], found⟩
  exact ⟨entries inv.taken, entries taken, missing⟩

/-- The second message comes after the third and holds it up. -/
theorem pops_in_order_late :
    ∃ session : Session Nat, Run (Step 5) (opened 2 (by decide) (by decide))
        [.pop, .push 5 (some 50), .pop, .push 7 (some 70), .pop, .push 6 (some 60)] session ∧
      session.popped = [some 50] ∧ session.window.pop.2 = [some 60, some 70] ∧
      session.pushed (session.next 5 + session.window.pop.2.length) = none := by
  obtain ⟨session, run, popped, next⟩ : ∃ session : Session Nat,
      Run (Step 5) (opened 2 (by decide) (by decide))
        [.pop, .push 5 (some 50), .pop, .push 7 (some 70), .pop, .push 6 (some 60)] session ∧
      session.popped = [some 50] ∧ session.window.pop.2 = [some 60, some 70] := by
    refine ⟨_, .cons (.apply trivial) (.cons (.apply ⟨?_, rfl, fun _ => rfl, ?_, ?_⟩)
      (.cons (.apply trivial) (.cons (.apply ⟨?_, rfl, fun none => ?_, ?_, ?_⟩)
      (.cons (.apply trivial) (.cons (.apply ⟨?_, rfl, fun none => ?_, ?_, ?_⟩) (.nil _)))))), rfl, rfl⟩
    · decide
    · decide
    · decide
    · decide
    · exact absurd (none 5) (by decide)
    · decide
    · decide
    · decide
    · exact absurd (none 5) (by decide)
    · decide
    · decide
  exact ⟨session, run, popped, next, (pops_in_order _ _ 5 run).2.2⟩

end Carrier.ReceiveWindow
