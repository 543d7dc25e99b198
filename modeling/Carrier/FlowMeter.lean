import Carrier.TransitionSystem
import Mathlib.Data.UInt
import Mathlib.Data.List.Perm.Basic
import Mathlib.Logic.Function.Basic

/-! The flow meters behind the bandwidth reports: `Meter.Mark` and the sweeper. Marks
are added to an accumulator without a lock, by any number of goroutines. The one that
finds it at zero registers the meter with the sweeper, which takes a snapshot of every
registered meter at each tick and drops the idle ones by setting their accumulator
back to zero; a mark that comes in between is noticed and put back.

A step is one atomic operation on an accumulator or one channel operation, with the
local work up to the next one. The rates are floating point numbers that decide only
whether a meter is idle, so that any rates will do here. -/
namespace Carrier.FlowMeter

open TransitionSystem

/-! The model. -/

structure Rates where
  Rate : Type
  zero : Rate
  isZero : Rate → Bool
  ofCount : UInt64 → Rate
  blend : Rate → UInt64 → Rate
  /-- `Rate > IdleRate` -/
  active : Rate → Bool

structure Snapshot (Rate : Type) where
  rate : Rate
  total : UInt64

structure Meter (Rate : Type) where
  accumulator : UInt64
  snapshot : Snapshot Rate

def registerCapacity : Nat := 16

/-- Where the sweeper's goroutine is: in the loop of `run`, in the select of
`runActive`, or between two operations of `update`, which has the index of the meter it
looks at and what it has read of it. -/
inductive Sweeper (Key : Type) where
  | idle
  | selecting
  | registering (meter : Key)
  | sweeping (index : Nat)
  | swapping (index : Nat) (meter : Key) (total : UInt64)
  | restoring (index : Nat) (meter : Key) (swapped : UInt64)
  | deducting (index : Nat) (meter : Key)
  deriving DecidableEq

/-- `callers` are the calls of `Register` that have not sent their meter yet, and
`listed` are the sweeper's meters. -/
structure State (rates : Rates) (Key : Type) where
  meters : Key → Meter rates.Rate
  callers : List Key
  channel : List Key
  listed : List Key
  sweeper : Sweeper Key

inductive Label (Key : Type) where
  | mark (meter : Key) (count : UInt64)
  | send (call : Nat)
  | receive
  | tick
  | sweep
  deriving DecidableEq

/-- `sw.meters[i] = sw.meters[len-1]; sw.meters = sw.meters[:len-1]` -/
def swapRemove {α : Type} (items : List α) (index : Nat) : List α :=
  match items.getLast? with
  | some last => (items.set index last).dropLast
  | none => items

section Model

variable {rates : Rates} {Key : Type} [DecidableEq Key]

def Meter.observed (meter : Meter rates.Rate) (total : UInt64) : Snapshot rates.Rate where
  rate :=
    if rates.isZero meter.snapshot.rate then rates.ofCount (total - meter.snapshot.total)
    else rates.blend meter.snapshot.rate (total - meter.snapshot.total)
  total := total

@[simp] theorem Meter.observed_total (meter : Meter rates.Rate) (total : UInt64) :
    (meter.observed total).total = total := rfl

namespace State

def put (state : State rates Key) (key : Key) (meter : Meter rates.Rate) : State rates Key :=
  { state with meters := Function.update state.meters key meter }

def add (state : State rates Key) (key : Key) (count : UInt64) : State rates Key :=
  state.put key { state.meters key with accumulator := (state.meters key).accumulator + count }

/-- The idle meter is removed: its rate is reset and its total is kept. -/
def drop (state : State rates Key) (key : Key) (index : Nat) : State rates Key :=
  { state.put key { state.meters key with snapshot := { (state.meters key).snapshot with rate := rates.zero } } with
    listed := swapRemove state.listed index
    sweeper := .sweeping index }

/-- `Meter.Mark` up to the channel. -/
def mark (state : State rates Key) (key : Key) (count : UInt64) : State rates Key :=
  if count > 0 then
    let marked := state.add key count
    if (marked.meters key).accumulator = count then { marked with callers := marked.callers ++ [key] }
    else marked
  else state

/-- The loop of `runActive`, and back in `run` when no meter is left. -/
def again (state : State rates Key) : Sweeper Key :=
  if state.listed = [] then .idle else .selecting

/-- The next operation of the sweeper in `register` and in `update`. -/
def sweep (state : State rates Key) : Option (State rates Key) :=
  match state.sweeper with
  | .idle => none
  | .selecting => none
  | .registering key =>
      some { state.add key (state.meters key).snapshot.total with
        listed := state.listed ++ [key], sweeper := .selecting }
  | .sweeping index =>
      match state.listed[index]? with
      | none => some { state with sweeper := state.again }
      | some key =>
          let total := (state.meters key).accumulator
          let snapshot := (state.meters key).observed total
          some { state.put key { state.meters key with snapshot := snapshot } with
            sweeper := if rates.active snapshot.rate then .sweeping (index + 1) else .swapping index key total }
  | .swapping index key total =>
      let swapped := (state.meters key).accumulator
      let zeroed := state.put key { state.meters key with accumulator := 0 }
      some (if swapped > total then { zeroed with sweeper := .restoring index key swapped }
        else zeroed.drop key index)
  | .restoring index key swapped =>
      let restored := state.add key swapped
      some { restored with
        sweeper := if (restored.meters key).accumulator = swapped then .sweeping (index + 1)
          else .deducting index key }
  | .deducting index key =>
      some ((state.add key (~~~((state.meters key).snapshot.total - 1))).drop key index)

def step (state : State rates Key) : Label Key → Option (State rates Key)
  | .mark key count => some (state.mark key count)
  | .send call =>
      if state.channel.length < registerCapacity then
        state.callers[call]?.map fun key =>
          { state with callers := state.callers.eraseIdx call, channel := state.channel ++ [key] }
      else none
  | .receive =>
      if state.sweeper = .idle ∨ state.sweeper = .selecting then
        match state.channel with
        | key :: rest => some { state with channel := rest, sweeper := .registering key }
        | [] => none
      else none
  | .tick => if state.sweeper = .selecting then some { state with sweeper := .sweeping 0 } else none
  | .sweep => state.sweep

def Fresh (state : State rates Key) : Prop :=
  (∀ key, (state.meters key).accumulator = 0 ∧ (state.meters key).snapshot.total = 0) ∧
    state.callers = [] ∧ state.channel = [] ∧ state.listed = [] ∧ state.sweeper = .idle

/-- `Snapshot` can take the lock, which `update` holds. -/
def Readable (state : State rates Key) : Prop :=
  state.sweeper = .idle ∨ state.sweeper = .selecting ∨ ∃ key, state.sweeper = .registering key

end State

abbrev Steps (before : State rates Key) (label : Label Key) (after : State rates Key) : Prop :=
  before.step label = some after

end Model

def marked {Key : Type} [DecidableEq Key] (labels : List (Label Key)) (key : Key) : Nat :=
  (labels.map fun
    | .mark meter count => if meter = key then count.toNat else 0
    | _ => 0).sum

/-! The list operations. -/

/-- Which meter is taken out is decided by the index; the others only change places. -/
theorem swapRemove_perm {α : Type} {items : List α} {index : Nat} {item : α} (found : items[index]? = some item) :
    items.Perm (item :: swapRemove items index) := by
  obtain ⟨bound, rfl⟩ := List.getElem?_eq_some_iff.mp found
  have filled : items ≠ [] := by
    rintro rfl
    simp at bound
  obtain ⟨front, last, rfl⟩ := List.eq_nil_or_concat items |>.resolve_left filled
  simp only [swapRemove, List.concat_eq_append, List.getLast?_append, List.getLast?_singleton, Option.some_or]
  by_cases within : index < front.length
  · -- the last item moves into the gap
    rw [List.set_append_left _ _ within, List.dropLast_concat, List.getElem_append_left within]
    have gap : (front.set index last).Perm (last :: front.eraseIdx index) := List.set_perm_cons_eraseIdx within last
    have whole : front.Perm (front[index] :: front.eraseIdx index) :=
      (List.getElem_cons_eraseIdx_perm within).symm
    refine (whole.append_right [last]).trans (.cons _ ?_)
    exact (List.perm_append_singleton last _).trans gap.symm
  · -- it is the last item itself
    have last : index = front.length := by
      simp only [List.concat_eq_append, List.length_append, List.length_singleton] at bound
      omega
    subst last
    simp

theorem count_swapRemove {Key : Type} [DecidableEq Key] {items : List Key} {index : Nat} {item : Key}
    (found : items[index]? = some item) (key : Key) :
    items.count key = (swapRemove items index).count key + if item = key then 1 else 0 := by
  rw [(swapRemove_perm found).count_eq, List.count_cons]
  simp

theorem swapRemove_length {α : Type} {items : List α} {index : Nat} {item : α} (found : items[index]? = some item) :
    (swapRemove items index).length + 1 = items.length := by
  rw [(swapRemove_perm found).length_eq, List.length_cons]

theorem swapRemove_before {α : Type} {items : List α} {index earlier : Nat} {item : α}
    (found : items[index]? = some item) (less : earlier < index) :
    (swapRemove items index)[earlier]? = items[earlier]? := by
  have bound := (List.getElem?_eq_some_iff.mp found).1
  unfold swapRemove
  split
  · rw [List.getElem?_dropLast, List.length_set, if_pos (by omega), List.getElem?_set_ne (by omega)]
  · rfl

theorem count_eraseIdx {Key : Type} [DecidableEq Key] {items : List Key} {index : Nat} {item : Key}
    (found : items[index]? = some item) (key : Key) :
    items.count key = (items.eraseIdx index).count key + if item = key then 1 else 0 := by
  obtain ⟨bound, rfl⟩ := List.getElem?_eq_some_iff.mp found
  rw [(List.getElem_cons_eraseIdx_perm bound).symm.count_eq, List.count_cons]
  simp

/-! What is marked. -/

section Marked

variable {Key : Type} [DecidableEq Key]

theorem marked_append (before after : List (Label Key)) (key : Key) :
    marked (before ++ after) key = marked before key + marked after key := by
  simp [marked]

theorem marked_mark (meter key : Key) (count : UInt64) :
    marked [.mark meter count] key = if meter = key then count.toNat else 0 := by
  simp [marked]

theorem marked_quiet (past : List (Label Key)) (label : Label Key) (quiet : marked [label] = fun _ => 0) :
    marked past = marked (past ++ [label]) := by
  funext key
  rw [marked_append, quiet, Nat.add_zero]

end Marked

/-! How a meter stands: what the machine has about one key. -/

inductive Phase where
  | swapping (total : Nat)
  | restoring (swapped : Nat)
  | deducting

/-- How often a meter is listed and how often it is on its way to the sweeper, its
counters, and what the sweeper is doing with it. -/
structure Standing where
  listed : Nat
  pending : Nat
  accumulator : Nat
  total : Nat
  phase : Option Phase

section Standing

variable {rates : Rates} {Key : Type} [DecidableEq Key]

def Sweeper.hand : Sweeper Key → List Key
  | .registering key => [key]
  | _ => []

def Sweeper.phase (sweeper : Sweeper Key) (key : Key) : Option Phase :=
  match sweeper with
  | .swapping _ meter total => if meter = key then some (.swapping total.toNat) else none
  | .restoring _ meter swapped => if meter = key then some (.restoring swapped.toNat) else none
  | .deducting _ meter => if meter = key then some .deducting else none
  | _ => none

def Sweeper.place : Sweeper Key → Option (Nat × Key)
  | .swapping index meter _ => some (index, meter)
  | .restoring index meter _ => some (index, meter)
  | .deducting index meter => some (index, meter)
  | _ => none

def State.pending (state : State rates Key) : List Key :=
  state.callers ++ state.channel ++ state.sweeper.hand

def State.standing (state : State rates Key) (key : Key) : Standing where
  listed := state.listed.count key
  pending := state.pending.count key
  accumulator := (state.meters key).accumulator.toNat
  total := (state.meters key).snapshot.total.toNat
  phase := state.sweeper.phase key

end Standing

/-- A meter rests with all of its marks in the total, or it is on its way and what is
in the accumulator is missing from the total, or it is listed and everything is in the
accumulator. While the sweeper drops it, what was swapped out belongs to it as well,
and it is on its way again as soon as something is marked. -/
def Standing.Balanced (standing : Standing) (sum : Nat) : Prop :=
  match standing.phase with
  | none =>
      (standing.listed = 0 ∧ standing.pending = 0 ∧ standing.accumulator = 0 ∧ standing.total = sum) ∨
      (standing.listed = 0 ∧ standing.pending = 1 ∧ 0 < standing.accumulator ∧
        standing.accumulator + standing.total = sum) ∨
      (standing.listed = 1 ∧ standing.pending = 0 ∧ 0 < standing.accumulator ∧ standing.accumulator = sum ∧
        standing.total ≤ sum)
  | some (.swapping total) =>
      standing.listed = 1 ∧ standing.pending = 0 ∧ 0 < standing.accumulator ∧ standing.accumulator = sum ∧
        standing.total = total ∧ total ≤ sum
  | some (.restoring swapped) =>
      standing.listed = 1 ∧ standing.accumulator + swapped = sum ∧ standing.total < swapped ∧
        (standing.accumulator = 0 ∧ standing.pending = 0 ∨ 0 < standing.accumulator ∧ standing.pending = 1)
  | some .deducting =>
      standing.listed = 1 ∧ standing.pending = 1 ∧ standing.accumulator = sum ∧ standing.total < sum

/-! What one operation does to the standing of its meter. -/

namespace Standing

variable {standing : Standing} {sum : Nat}

theorem Balanced.bounds (balanced : standing.Balanced sum) :
    standing.accumulator ≤ sum ∧ standing.total ≤ sum ∧ standing.listed ≤ 1 ∧ standing.pending ≤ 1 := by
  unfold Balanced at balanced
  split at balanced
  · omega
  · omega
  · omega
  · omega

/-- The meter is registered by the mark that finds the accumulator at zero. -/
def mark (standing : Standing) (count : Nat) : Standing :=
  { standing with
    accumulator := standing.accumulator + count
    pending := standing.pending + if standing.accumulator = 0 then 1 else 0 }

theorem Balanced.mark (balanced : standing.Balanced sum) {count : Nat} (positive : 0 < count) :
    (standing.mark count).Balanced (sum + count) := by
  obtain ⟨listed, pending, accumulator, total, phase⟩ := standing
  cases phase with
  | none =>
      simp only [Balanced, Standing.mark] at balanced ⊢
      split <;> omega
  | some phase =>
      cases phase with
      | swapping swapped =>
          simp only [Balanced, Standing.mark] at balanced ⊢
          split <;> omega
      | restoring swapped =>
          simp only [Balanced, Standing.mark] at balanced ⊢
          split <;> omega
      | deducting =>
          simp only [Balanced, Standing.mark] at balanced ⊢
          split <;> omega

/-- Nothing else is on its way to the sweeper as long as it is between two meters. -/
theorem Balanced.register (balanced : standing.Balanced sum) (idle : standing.phase = none)
    (pending : 0 < standing.pending) :
    ({ standing with
      listed := standing.listed + 1
      pending := standing.pending - 1
      accumulator := standing.accumulator + standing.total } : Standing).Balanced sum := by
  simp only [Balanced, idle] at balanced ⊢
  omega

theorem Balanced.observe (balanced : standing.Balanced sum) (idle : standing.phase = none)
    (listed : 0 < standing.listed) (swaps : Bool) :
    ({ standing with
      total := standing.accumulator
      phase := if swaps then some (.swapping standing.accumulator) else none } : Standing).Balanced sum := by
  simp only [Balanced, idle] at balanced
  cases swaps with
  | true =>
      simp only [Balanced, if_true, true_and]
      omega
  | false =>
      simp only [Balanced, Bool.false_eq_true, if_false]
      omega

/-- Something came in since the snapshot: it is kept aside. -/
theorem Balanced.swap {total : Nat} (balanced : standing.Balanced sum)
    (swapping : standing.phase = some (.swapping total)) (more : total < standing.accumulator) :
    ({ standing with accumulator := 0, phase := some (.restoring standing.accumulator) } : Standing).Balanced sum := by
  simp only [Balanced, swapping] at balanced
  simp only [Balanced, true_and]
  omega

/-- Nothing came in: everything is in the total. -/
theorem Balanced.rest {total : Nat} (balanced : standing.Balanced sum)
    (swapping : standing.phase = some (.swapping total)) (same : standing.accumulator ≤ total) :
    ({ standing with listed := standing.listed - 1, accumulator := 0, phase := none } : Standing).Balanced sum := by
  simp only [Balanced, swapping] at balanced
  simp only [Balanced, true_and]
  omega

/-- What was swapped out is put back; it went unnoticed if the accumulator was still
at zero. -/
theorem Balanced.restore {swapped : Nat} (balanced : standing.Balanced sum)
    (restoring : standing.phase = some (.restoring swapped)) :
    ({ standing with
      accumulator := standing.accumulator + swapped
      phase := if standing.accumulator = 0 then none else some .deducting } : Standing).Balanced sum := by
  simp only [Balanced, restoring] at balanced
  by_cases unnoticed : standing.accumulator = 0
  · simp only [Balanced, unnoticed, if_true]
    omega
  · simp only [Balanced, unnoticed, if_false]
    omega

theorem Balanced.deduct (balanced : standing.Balanced sum) (deducting : standing.phase = some .deducting) :
    ({ standing with
      listed := standing.listed - 1
      accumulator := standing.accumulator - standing.total
      phase := none } : Standing).Balanced sum := by
  simp only [Balanced, deducting] at balanced
  simp only [Balanced]
  omega

end Standing

/-! The steps. -/

theorem toNat_add {left right : UInt64} (room : left.toNat + right.toNat < 2 ^ 64) :
    (left + right).toNat = left.toNat + right.toNat := by
  rw [UInt64.toNat_add, Nat.mod_eq_of_lt room]

/-- Adding the complement of one less takes away. -/
theorem toNat_deduct {left right : UInt64} (less : right.toNat ≤ left.toNat) :
    (left + ~~~(right - 1)).toNat = left.toNat - right.toNat := by
  have same : left + ~~~(right - 1) = left - right := by
    rw [UInt64.not_eq_neg_sub]
    grind
  rw [same, UInt64.toNat_sub_of_le _ _ (UInt64.le_iff_toNat_le.mpr less)]

section Steps

variable {rates : Rates} {Key : Type} [DecidableEq Key] {state next : State rates Key} {sums : Key → Nat}

structure Inv (sums : Key → Nat) (state : State rates Key) : Prop where
  small : ∀ key, sums key < 2 ^ 64
  balanced : ∀ key, (state.standing key).Balanced (sums key)
  placed : ∀ index key, state.sweeper.place = some (index, key) → state.listed[index]? = some key

theorem Inv.of_one {key : Key} (inv : Inv sums state)
    (others : ∀ other, other ≠ key → next.standing other = state.standing other)
    (own : (next.standing key).Balanced (sums key))
    (placed : ∀ index meter, next.sweeper.place = some (index, meter) → next.listed[index]? = some meter) :
    Inv sums next := by
  refine ⟨inv.small, fun other => ?_, placed⟩
  by_cases same : other = key
  · rw [same]
    exact own
  · rw [others other same]
    exact inv.balanced other

theorem Inv.of_none (inv : Inv sums state) (all : ∀ key, next.standing key = state.standing key)
    (placed : next.sweeper.place = none) : Inv sums next := by
  refine ⟨inv.small, fun key => ?_, fun index key found => ?_⟩
  · rw [all key]
    exact inv.balanced key
  · rw [placed] at found
    cases found

theorem mark_frame (state : State rates Key) (key : Key) (count : UInt64) :
    (state.mark key count).sweeper = state.sweeper ∧ (state.mark key count).listed = state.listed := by
  simp only [State.mark]
  split
  · split <;> exact ⟨rfl, rfl⟩
  · exact ⟨rfl, rfl⟩

theorem mark_standing (inv : Inv sums state) {key : Key} {count : UInt64} (positive : count > 0)
    (room : sums key + count.toNat < 2 ^ 64) (other : Key) :
    (state.mark key count).standing other =
      if other = key then (state.standing other).mark count.toNat else state.standing other := by
  have bound : (state.meters key).accumulator.toNat ≤ sums key := (inv.balanced key).bounds.1
  have added : ((state.meters key).accumulator + count).toNat = (state.meters key).accumulator.toNat + count.toNat :=
    toNat_add (by omega)
  have first : (state.meters key).accumulator + count = count ↔ (state.meters key).accumulator.toNat = 0 := by
    rw [← UInt64.toNat_inj, added]
    omega
  by_cases zero : (state.meters key).accumulator.toNat = 0
  · have registered : state.mark key count = { state.add key count with callers := state.callers ++ [key] } := by
      simp [State.mark, positive, State.add, State.put, first.mpr zero]
    rw [registered]
    by_cases own : other = key
    · subst own
      simp [State.standing, State.pending, State.add, State.put, Standing.mark, added, zero, List.count_append]
      omega
    · simp [State.standing, State.pending, State.add, State.put, own, Ne.symm own, List.count_append]
  · have unnoticed : state.mark key count = state.add key count := by
      simp [State.mark, positive, State.add, State.put, mt first.mp zero]
    rw [unnoticed]
    by_cases own : other = key
    · subst own
      simp [State.standing, State.pending, State.add, State.put, Standing.mark, added, zero]
    · simp [State.standing, State.pending, State.add, State.put, own]

theorem Inv.mark (inv : Inv sums state) {key : Key} {count : UInt64} (room : sums key + count.toNat < 2 ^ 64) :
    Inv (fun other => sums other + if key = other then count.toNat else 0) (state.mark key count) := by
  by_cases positive : count > 0
  · have some : 0 < count.toNat := by simpa using UInt64.lt_iff_toNat_lt.mp positive
    refine ⟨fun other => ?_, fun other => ?_, fun index meter found => ?_⟩
    · have small := inv.small other
      by_cases own : key = other
      · rw [if_pos own, ← own]
        exact room
      · rw [if_neg own, Nat.add_zero]
        exact small
    · rw [mark_standing inv positive room]
      by_cases own : other = key
      · rw [if_pos own, if_pos own.symm]
        exact (inv.balanced other).mark some
      · rw [if_neg own, if_neg (Ne.symm own), Nat.add_zero]
        exact inv.balanced other
    · rw [(mark_frame state key count).1] at found
      rw [(mark_frame state key count).2]
      exact inv.placed index meter found
  · have none : count.toNat = 0 := by
      rw [gt_iff_lt, UInt64.lt_iff_toNat_lt] at positive
      simpa using positive
    simp only [none, ite_self, Nat.add_zero, State.mark, if_neg positive]
    exact inv

theorem Inv.send (inv : Inv sums state) {call : Nat} (stepped : state.step (.send call) = some next) :
    Inv sums next := by
  simp only [State.step] at stepped
  split at stepped
  · obtain ⟨key, found, rfl⟩ := Option.map_eq_some_iff.mp stepped
    refine ⟨inv.small, fun other => ?_, inv.placed⟩
    have moved := count_eraseIdx found other
    have same : ({ state with callers := state.callers.eraseIdx call, channel := state.channel ++ [key] } :
        State rates Key).standing other = state.standing other := by
      simp only [State.standing, State.pending, List.count_append, List.count_singleton, beq_iff_eq, Standing.mk.injEq,
        true_and, and_true]
      omega
    rw [same]
    exact inv.balanced other
  · cases stepped

theorem Inv.receive (inv : Inv sums state) (stepped : state.step .receive = some next) : Inv sums next := by
  simp only [State.step] at stepped
  split at stepped
  · rename_i free
    split at stepped
    · rename_i key rest waiting
      cases stepped
      refine inv.of_none (fun other => ?_) rfl
      rcases free with idle | selecting
      · simp [State.standing, State.pending, waiting, idle, Sweeper.hand, Sweeper.phase, List.count_cons]
      · simp [State.standing, State.pending, waiting, selecting, Sweeper.hand, Sweeper.phase, List.count_cons]
    · cases stepped
  · cases stepped

theorem Inv.tick (inv : Inv sums state) (stepped : state.step .tick = some next) : Inv sums next := by
  simp only [State.step] at stepped
  split at stepped
  · rename_i selecting
    cases stepped
    refine inv.of_none (fun other => ?_) rfl
    simp [State.standing, State.pending, selecting, Sweeper.hand, Sweeper.phase]
  · cases stepped

theorem Inv.register (inv : Inv sums state) {key : Key} (registering : state.sweeper = .registering key)
    (stepped : state.sweep = some next) : Inv sums next := by
  simp only [State.sweep, registering] at stepped
  cases stepped
  have idle : (state.standing key).phase = none := by simp [State.standing, registering, Sweeper.phase]
  have pending : (state.standing key).pending = state.callers.count key + (state.channel.count key + 1) := by
    simp [State.standing, State.pending, registering, Sweeper.hand]
  have listed := (inv.balanced key).register idle (by omega)
  have added : ((state.meters key).accumulator + (state.meters key).snapshot.total).toNat =
      (state.meters key).accumulator.toNat + (state.meters key).snapshot.total.toNat :=
    toNat_add (lt_of_le_of_lt listed.bounds.1 (inv.small key))
  refine inv.of_one (fun other (different : other ≠ key) => ?_) ?_ (fun index meter found => by cases found)
  · simp [State.standing, State.pending, State.add, State.put, different, different.symm, registering, Sweeper.hand,
      Sweeper.phase]
  · rw [pending] at listed
    simpa [State.standing, State.pending, State.add, State.put, registering, Sweeper.hand, Sweeper.phase, added,
      ← Nat.add_assoc] using listed

theorem Inv.observe (inv : Inv sums state) {index : Nat} (sweeping : state.sweeper = .sweeping index)
    (stepped : state.sweep = some next) : Inv sums next := by
  simp only [State.sweep, sweeping] at stepped
  cases found : state.listed[index]? with
  | none =>
      simp only [found] at stepped
      cases stepped
      refine inv.of_none (fun key => ?_) ?_
      · simp only [State.standing, State.pending, State.again, sweeping]
        split <;> rfl
      · simp only [State.again]
        split <;> rfl
  | some key =>
      simp only [found] at stepped
      cases stepped
      have idle : (state.standing key).phase = none := by simp [State.standing, sweeping, Sweeper.phase]
      have member : 0 < (state.standing key).listed := List.count_pos_iff.mpr (List.mem_of_getElem? found)
      by_cases active : rates.active ((state.meters key).observed (state.meters key).accumulator).rate
      · refine inv.of_one (fun other (different : other ≠ key) => ?_) ?_ ?_
        · simp [State.standing, State.pending, State.put, different, sweeping, active, Sweeper.hand, Sweeper.phase]
        · have listed := (inv.balanced key).observe idle member false
          simpa [State.standing, State.pending, State.put, sweeping, active, Sweeper.hand, Sweeper.phase]
            using listed
        · simp [State.put, active, Sweeper.place]
      · refine inv.of_one (fun other (different : other ≠ key) => ?_) ?_ ?_
        · simp [State.standing, State.pending, State.put, different, different.symm, sweeping, active, Sweeper.hand,
            Sweeper.phase]
        · have listed := (inv.balanced key).observe idle member true
          simpa [State.standing, State.pending, State.put, sweeping, active, Sweeper.hand, Sweeper.phase]
            using listed
        · simpa [State.put, active, Sweeper.place] using found

theorem Inv.swap (inv : Inv sums state) {index : Nat} {key : Key} {total : UInt64}
    (swapping : state.sweeper = .swapping index key total) (stepped : state.sweep = some next) : Inv sums next := by
  simp only [State.sweep, swapping] at stepped
  cases stepped
  have found : state.listed[index]? = some key := inv.placed index key (by rw [swapping]; rfl)
  have phase : (state.standing key).phase = some (.swapping total.toNat) := by
    simp [State.standing, swapping, Sweeper.phase]
  by_cases more : (state.meters key).accumulator > total
  · have kept := (inv.balanced key).swap phase (UInt64.lt_iff_toNat_lt.mp more)
    rw [if_pos more]
    refine inv.of_one (fun other (different : other ≠ key) => ?_) ?_ ?_
    · simp [State.standing, State.pending, State.put, different, different.symm, swapping, Sweeper.hand, Sweeper.phase]
    · simpa [State.standing, State.pending, State.put, swapping, Sweeper.hand, Sweeper.phase] using kept
    · simpa [State.put, Sweeper.place] using found
  · have rests := (inv.balanced key).rest phase (not_lt.mp fun less => more (UInt64.lt_iff_toNat_lt.mpr less))
    rw [if_neg more]
    refine inv.of_one (fun other (different : other ≠ key) => ?_) ?_ ?_
    · have fewer := count_swapRemove found other
      rw [if_neg different.symm] at fewer
      simp [State.standing, State.pending, State.put, State.drop, different, different.symm, swapping, Sweeper.hand,
        Sweeper.phase, fewer]
    · have fewer := count_swapRemove found key
      rw [if_pos rfl] at fewer
      simpa [State.standing, State.pending, State.put, State.drop, swapping, Sweeper.hand, Sweeper.phase, fewer]
        using rests
    · simp [State.drop, Sweeper.place]

theorem Inv.restore (inv : Inv sums state) {index : Nat} {key : Key} {swapped : UInt64}
    (restoring : state.sweeper = .restoring index key swapped) (stepped : state.sweep = some next) :
    Inv sums next := by
  simp only [State.sweep, restoring] at stepped
  cases stepped
  have found : state.listed[index]? = some key := inv.placed index key (by rw [restoring]; rfl)
  have phase : (state.standing key).phase = some (.restoring swapped.toNat) := by
    simp [State.standing, restoring, Sweeper.phase]
  have restored := (inv.balanced key).restore phase
  have added : ((state.meters key).accumulator + swapped).toNat =
      (state.meters key).accumulator.toNat + swapped.toNat :=
    toNat_add (lt_of_le_of_lt restored.bounds.1 (inv.small key))
  have unnoticed : (state.meters key).accumulator + swapped = swapped ↔
      (state.standing key).accumulator = 0 := by
    rw [← UInt64.toNat_inj, added]
    simp only [State.standing]
    omega
  by_cases zero : (state.standing key).accumulator = 0
  · have empty : (state.meters key).accumulator.toNat = 0 := zero
    rw [if_pos zero] at restored
    refine inv.of_one (fun other (different : other ≠ key) => ?_) ?_ ?_
    · simp [State.standing, State.pending, State.add, State.put, different, different.symm, restoring, Sweeper.hand,
        Sweeper.phase, unnoticed.mpr zero]
    · simpa [State.standing, State.pending, State.add, State.put, restoring, Sweeper.hand, Sweeper.phase,
        unnoticed.mpr zero, empty] using restored
    · simp [State.add, State.put, unnoticed.mpr zero, Sweeper.place]
  · rw [if_neg zero] at restored
    refine inv.of_one (fun other (different : other ≠ key) => ?_) ?_ ?_
    · simp [State.standing, State.pending, State.add, State.put, different, different.symm, restoring, Sweeper.hand,
        Sweeper.phase, mt unnoticed.mp zero]
    · simpa [State.standing, State.pending, State.add, State.put, restoring, Sweeper.hand, Sweeper.phase,
        mt unnoticed.mp zero, added] using restored
    · simpa [State.add, State.put, mt unnoticed.mp zero, Sweeper.place] using found

theorem Inv.deduct (inv : Inv sums state) {index : Nat} {key : Key}
    (deducting : state.sweeper = .deducting index key) (stepped : state.sweep = some next) : Inv sums next := by
  simp only [State.sweep, deducting] at stepped
  cases stepped
  have found : state.listed[index]? = some key := inv.placed index key (by rw [deducting]; rfl)
  have phase : (state.standing key).phase = some .deducting := by
    simp [State.standing, deducting, Sweeper.phase]
  have waits := (inv.balanced key).deduct phase
  have less : (state.meters key).snapshot.total.toNat ≤ (state.meters key).accumulator.toNat := by
    have balanced := inv.balanced key
    simp only [Standing.Balanced, phase] at balanced
    simp only [State.standing] at balanced
    omega
  refine inv.of_one (fun other (different : other ≠ key) => ?_) ?_ ?_
  · have fewer := count_swapRemove found other
    rw [if_neg different.symm] at fewer
    simp [State.standing, State.pending, State.add, State.put, State.drop, different, different.symm, deducting,
      Sweeper.hand, Sweeper.phase, fewer]
  · have fewer := count_swapRemove found key
    rw [if_pos rfl] at fewer
    simpa [State.standing, State.pending, State.add, State.put, State.drop, deducting, Sweeper.hand, Sweeper.phase,
      fewer, toNat_deduct less] using waits
  · simp [State.drop, Sweeper.place]

theorem Inv.sweep (inv : Inv sums state) (stepped : state.sweep = some next) : Inv sums next := by
  cases sweeper : state.sweeper with
  | idle => simp [State.sweep, sweeper] at stepped
  | selecting => simp [State.sweep, sweeper] at stepped
  | registering key => exact inv.register sweeper stepped
  | sweeping index => exact inv.observe sweeper stepped
  | swapping index key total => exact inv.swap sweeper stepped
  | restoring index key swapped => exact inv.restore sweeper stepped
  | deducting index key => exact inv.deduct sweeper stepped

theorem Inv.step {past : List (Label Key)} {label : Label Key} (inv : Inv (marked past) state)
    (small : ∀ key, marked (past ++ [label]) key < 2 ^ 64) (stepped : Steps state label next) :
    Inv (marked (past ++ [label])) next := by
  cases label with
  | mark key count =>
      have sums : marked (past ++ [.mark key count]) =
          fun other => marked past other + if key = other then count.toNat else 0 := by
        funext other
        rw [marked_append, marked_mark]
      cases stepped
      rw [sums]
      exact inv.mark (by simpa [sums] using small key)
  | send call => exact marked_quiet past (.send call) rfl ▸ inv.send stepped
  | receive => exact marked_quiet past .receive rfl ▸ inv.receive stepped
  | tick => exact marked_quiet past .tick rfl ▸ inv.tick stepped
  | sweep => exact marked_quiet past .sweep rfl ▸ inv.sweep stepped

theorem Inv.fresh (fresh : state.Fresh) : Inv (marked []) state := by
  obtain ⟨meters, callers, channel, listed, sweeper⟩ := fresh
  refine ⟨fun key => by simp [marked], fun key => ?_, fun index key found => ?_⟩
  · simp [State.standing, State.pending, callers, channel, listed, sweeper, meters key, Sweeper.hand, Sweeper.phase,
      Standing.Balanced, marked]
  · rw [sweeper] at found
    cases found

theorem Inv.of_run {start : State rates Key} {labels : List (Label Key)} (fresh : start.Fresh)
    (run : Run Steps start labels state) (small : ∀ key, marked labels key < 2 ^ 64) : Inv (marked labels) state := by
  refine run.history (fun past state => (∀ key, marked past key < 2 ^ 64) → Inv (marked past) state) ?_
    (fun _ => Inv.fresh fresh) small
  intro past before label after stepped kept bound
  refine (kept fun key => ?_).step bound stepped
  exact lt_of_le_of_lt (by rw [marked_append]; exact Nat.le_add_right _ _) (bound key)

end Steps

/-! Whole runs. -/

section Runs

variable {rates : Rates} {Key : Type} [DecidableEq Key] {start state next : State rates Key}
  {labels : List (Label Key)} {sums : Key → Nat}

theorem Readable.phase (readable : state.Readable) (key : Key) : (state.standing key).phase = none := by
  simp only [State.standing]
  rcases readable with idle | selecting | ⟨meter, registering⟩
  · rw [idle]
    rfl
  · rw [selecting]
    rfl
  · rw [registering]
    rfl

/-- For any number of goroutines that mark, against the sweeper: a meter is registered
and listed at most once, and none of its marks is lost. A meter that is not listed has
them in its total and its accumulator together, and all of them in the total once it is
not on its way to the sweeper either; a listed one has them all in the accumulator
whenever the sweeper is not at work. -/
theorem marks_conserved (fresh : start.Fresh) (run : Run Steps start labels state)
    (small : ∀ key, marked labels key < 2 ^ 64) (key : Key) :
    state.listed.count key ≤ 1 ∧ state.pending.count key ≤ 1 ∧
      (key ∉ state.listed → (state.meters key).accumulator.toNat + (state.meters key).snapshot.total.toNat =
        marked labels key) ∧
      (key ∉ state.listed → key ∉ state.pending → (state.meters key).accumulator.toNat = 0) ∧
      (key ∈ state.listed → state.Readable → key ∉ state.pending ∧
        (state.meters key).accumulator.toNat = marked labels key) := by
  have balanced := (Inv.of_run fresh run small).balanced key
  have listed : key ∈ state.listed ↔ 0 < (state.standing key).listed := List.count_pos_iff.symm
  have pending : key ∈ state.pending ↔ 0 < (state.standing key).pending := List.count_pos_iff.symm
  have bounds := balanced.bounds
  refine ⟨bounds.2.2.1, bounds.2.2.2, fun absent => ?_, fun absent away => ?_, fun present readable => ?_⟩
  · rw [listed] at absent
    change (state.standing key).accumulator + (state.standing key).total = _
    unfold Standing.Balanced at balanced
    split at balanced <;> omega
  · rw [listed] at absent
    rw [pending] at away
    change (state.standing key).accumulator = 0
    unfold Standing.Balanced at balanced
    split at balanced <;> omega
  · rw [listed] at present
    rw [pending]
    change _ ∧ (state.standing key).accumulator = _
    simp only [Standing.Balanced, Readable.phase readable key] at balanced
    omega

/-- Rates that follow the last difference, one meter, and marks that come in while the
sweeper is dropping it. -/
def smallRates : Rates where
  Rate := UInt64
  zero := 0
  isZero rate := rate == 0
  ofCount count := count
  blend _ count := count
  active rate := 0 < rate

def smallStart : State smallRates Unit where
  meters _ := ⟨0, smallRates.zero, 0⟩
  callers := []
  channel := []
  listed := []
  sweeper := .idle

def smallRegister : List (Label Unit) :=
  [.mark () 5, .send 0, .receive, .sweep, .tick, .sweep, .sweep]

def smallNotice : List (Label Unit) :=
  [.tick, .sweep, .mark () 3, .sweep, .mark () 2, .sweep, .sweep]

theorem smallStart_fresh : smallStart.Fresh :=
  ⟨fun _ => ⟨rfl, rfl⟩, rfl, rfl, rfl, rfl⟩

theorem smallNotice_run : ∃ middle last, Run Steps smallStart smallRegister middle ∧
    Run Steps middle smallNotice last ∧ last.listed = [] ∧ (middle.meters ()).snapshot.total = 5 :=
  ⟨_, _, Run.of_follow (fun _ _ _ stepped => stepped) (rfl : follow State.step smallRegister smallStart = some _),
    Run.of_follow (fun _ _ _ stepped => stepped) rfl, rfl, rfl⟩

theorem smallNotice_small (key : Unit) : marked (smallRegister ++ smallNotice) key < 2 ^ 64 := by
  cases key
  decide

/-- The meter is dropped while ten are marked and five of them shown. -/
theorem marks_conserved_noticed : ∃ last, Run Steps smallStart (smallRegister ++ smallNotice) last ∧
    (last.meters ()).accumulator.toNat + (last.meters ()).snapshot.total.toNat = 10 := by
  obtain ⟨middle, last, first, second, unlisted, _⟩ := smallNotice_run
  have run := first.append second
  have conserved := marks_conserved smallStart_fresh run smallNotice_small ()
  exact ⟨last, run, conserved.2.2.1 (by simp [unlisted])⟩

theorem put_total (state : State rates Key) (key other : Key) (accumulator : UInt64) (rate : rates.Rate) :
    ((state.put key ⟨accumulator, rate, (state.meters key).snapshot.total⟩).meters other).snapshot.total =
      (state.meters other).snapshot.total := by
  by_cases same : other = key
  · subst same
    simp [State.put]
  · simp [State.put, same]

@[simp] theorem add_total (state : State rates Key) (key other : Key) (count : UInt64) :
    ((state.add key count).meters other).snapshot.total = (state.meters other).snapshot.total :=
  put_total state key other _ _

@[simp] theorem drop_total (state : State rates Key) (key other : Key) (index : Nat) :
    ((state.drop key index).meters other).snapshot.total = (state.meters other).snapshot.total :=
  put_total state key other _ _

theorem mark_total (state : State rates Key) (key other : Key) (count : UInt64) :
    ((state.mark key count).meters other).snapshot.total = (state.meters other).snapshot.total := by
  simp only [State.mark]
  split
  · split <;> exact add_total state key other count
  · rfl

/-- A total only changes to what is marked at that moment. -/
theorem sweep_total (inv : Inv sums state) (stepped : state.sweep = some next) (key : Key) :
    (next.meters key).snapshot.total = (state.meters key).snapshot.total ∨
      (next.meters key).snapshot.total.toNat = sums key := by
  cases sweeper : state.sweeper with
  | idle => simp [State.sweep, sweeper] at stepped
  | selecting => simp [State.sweep, sweeper] at stepped
  | registering meter =>
      simp only [State.sweep, sweeper] at stepped
      cases stepped
      exact Or.inl (add_total state meter key _)
  | sweeping index =>
      simp only [State.sweep, sweeper] at stepped
      cases found : state.listed[index]? with
      | none =>
          simp only [found] at stepped
          cases stepped
          exact Or.inl rfl
      | some meter =>
          simp only [found] at stepped
          cases stepped
          by_cases own : key = meter
          · subst own
            have idle : (state.standing key).phase = none := by simp [State.standing, sweeper, Sweeper.phase]
            have listed : 0 < (state.standing key).listed := List.count_pos_iff.mpr (List.mem_of_getElem? found)
            have balanced := inv.balanced key
            simp only [Standing.Balanced, idle] at balanced
            have all : (state.meters key).accumulator.toNat = sums key := by
              change (state.standing key).accumulator = sums key
              omega
            exact Or.inr (by simpa [State.put] using all)
          · exact Or.inl (by simp [State.put, own])
  | swapping index meter total =>
      simp only [State.sweep, sweeper] at stepped
      cases stepped
      left
      split
      · exact put_total state meter key _ _
      · rw [drop_total]
        exact put_total state meter key _ _
  | restoring index meter swapped =>
      simp only [State.sweep, sweeper] at stepped
      cases stepped
      exact Or.inl (add_total state meter key swapped)
  | deducting index meter =>
      simp only [State.sweep, sweeper] at stepped
      cases stepped
      exact Or.inl (by simp)

theorem total_step (inv : Inv sums state) {label : Label Key} (stepped : Steps state label next) (key : Key) :
    (next.meters key).snapshot.total = (state.meters key).snapshot.total ∨
      (next.meters key).snapshot.total.toNat = sums key := by
  cases label with
  | mark meter count =>
      cases stepped
      exact Or.inl (mark_total state meter key count)
  | send call =>
      simp only [Steps, State.step, Option.ite_none_right_eq_some] at stepped
      obtain ⟨meter, _, rfl⟩ := Option.map_eq_some_iff.mp stepped.2
      exact Or.inl rfl
  | receive =>
      simp only [Steps, State.step, Option.ite_none_right_eq_some] at stepped
      obtain ⟨_, moved⟩ := stepped
      split at moved
      · cases moved
        exact Or.inl rfl
      · cases moved
  | tick =>
      simp only [Steps, State.step, Option.ite_none_right_eq_some] at stepped
      cases stepped.2
      exact Or.inl rfl
  | sweep => exact sweep_total inv stepped key

/-- Every total a snapshot shows is what had been marked at some moment before, and a
later snapshot shows no less. -/
theorem snapshots_exact {later : State rates Key} {more : List (Label Key)} (fresh : start.Fresh)
    (run : Run Steps start labels state) (rest : Run Steps state more later)
    (small : ∀ key, marked (labels ++ more) key < 2 ^ 64) (key : Key) :
    (state.meters key).snapshot.total.toNat ≤ (later.meters key).snapshot.total.toNat ∧
      ∃ past since, labels ++ more = past ++ since ∧
        (later.meters key).snapshot.total.toNat = marked past key := by
  have shorter : ∀ {past : List (Label Key)} {label : Label Key},
      (∀ key, marked (past ++ [label]) key < 2 ^ 64) → ∀ key, marked past key < 2 ^ 64 := fun bound key =>
    lt_of_le_of_lt (by rw [marked_append]; exact Nat.le_add_right _ _) (bound key)
  -- Along the whole run the invariant holds and the total is that of an earlier moment.
  have moment : ∀ {labels : List (Label Key)} {state : State rates Key}, Run Steps start labels state →
      (∀ key, marked labels key < 2 ^ 64) →
      ∃ past since, labels = past ++ since ∧ (state.meters key).snapshot.total.toNat = marked past key := by
    intro labels state run small
    refine (run.history (fun past state => (∀ key, marked past key < 2 ^ 64) → Inv (marked past) state ∧
      ∃ before since, past = before ++ since ∧ (state.meters key).snapshot.total.toNat = marked before key) ?_
      (fun _ => ⟨Inv.fresh fresh, [], [], rfl, by simp [(fresh.1 key).2, marked]⟩) small).2
    intro past state label next stepped kept bound
    obtain ⟨inv, before, since, split, shown⟩ := kept (shorter bound)
    refine ⟨inv.step bound stepped, ?_⟩
    rcases total_step inv stepped key with same | now
    · exact ⟨before, since ++ [label], by rw [split, List.append_assoc], by rw [same, shown]⟩
    · exact ⟨past, [label], rfl, now⟩
  refine ⟨?_, moment (run.append rest) small⟩
  have bound : ∀ key, marked labels key < 2 ^ 64 := fun key =>
    lt_of_le_of_lt (by rw [marked_append]; exact Nat.le_add_right _ _) (small key)
  refine (rest.history (fun past later => (∀ key, marked past key < 2 ^ 64) → Inv (marked past) later ∧
    (state.meters key).snapshot.total.toNat ≤ (later.meters key).snapshot.total.toNat) ?_
    (fun _ => ⟨Inv.of_run fresh run bound, le_refl _⟩) small).2
  intro past middle label next stepped kept bound
  obtain ⟨inv, less⟩ := kept (shorter bound)
  refine ⟨inv.step bound stepped, ?_⟩
  rcases total_step inv stepped key with same | now
  · rw [same]
    exact less
  · rw [now]
    exact le_trans less (inv.balanced key).bounds.2.1

theorem snapshots_exact_noticed : ∃ middle last, Run Steps smallStart smallRegister middle ∧
    Run Steps middle smallNotice last ∧ 5 ≤ (last.meters ()).snapshot.total.toNat := by
  obtain ⟨middle, last, first, second, _, shown⟩ := smallNotice_run
  have shownAgain := snapshots_exact smallStart_fresh first second smallNotice_small ()
  refine ⟨middle, last, first, second, ?_⟩
  simpa [shown] using shownAgain.1

/-! Everything is shown in the end. -/

def Label.Quiet : Label Key → Prop
  | .mark _ _ => False
  | _ => True

abbrev QuietSteps (before : State rates Key) (label : Label Key) (after : State rates Key) : Prop :=
  Steps before label after ∧ label.Quiet

def Sweeper.distance (listed : Nat) : Sweeper Key → Nat
  | .idle | .selecting => 0
  | .registering _ => 1
  | .sweeping index => 4 * (listed - index) + 1
  | .swapping index _ _ => 4 * (listed - index)
  | .restoring index _ _ => 4 * (listed - index) - 1
  | .deducting index _ => 4 * (listed - index) - 2

def State.Free (state : State rates Key) : Prop :=
  state.sweeper = .idle ∨ state.sweeper = .selecting

omit [DecidableEq Key] in
theorem again_free (state : State rates Key) : state.again = .idle ∨ state.again = .selecting := by
  unfold State.again
  split
  · exact Or.inl rfl
  · exact Or.inr rfl

/-- The sweeper waits for nothing else while it registers a meter or sweeps. -/
theorem sweep_nearer (inv : Inv sums state) (busy : ¬state.Free) :
    ∃ next, state.sweep = some next ∧ next.callers = state.callers ∧ next.channel = state.channel ∧
      next.sweeper.distance next.listed.length < state.sweeper.distance state.listed.length := by
  cases sweeper : state.sweeper with
  | idle => exact absurd (Or.inl sweeper) busy
  | selecting => exact absurd (Or.inr sweeper) busy
  | registering key =>
      simp only [State.sweep, sweeper]
      exact ⟨_, rfl, rfl, rfl, by simp [Sweeper.distance]⟩
  | sweeping index =>
      simp only [State.sweep, sweeper]
      cases found : state.listed[index]? with
      | none =>
          refine ⟨_, rfl, rfl, rfl, ?_⟩
          rcases again_free state with idle | selecting
          · simp [idle, Sweeper.distance]
          · simp [selecting, Sweeper.distance]
      | some key =>
          have bound := (List.getElem?_eq_some_iff.mp found).1
          refine ⟨_, rfl, rfl, rfl, ?_⟩
          split
          · simp only [Sweeper.distance, State.put]
            omega
          · simp only [Sweeper.distance, State.put]
            omega
  | swapping index key total =>
      have found : state.listed[index]? = some key := inv.placed index key (by rw [sweeper]; rfl)
      have bound := (List.getElem?_eq_some_iff.mp found).1
      have shorter := swapRemove_length found
      simp only [State.sweep, sweeper]
      split
      · refine ⟨_, rfl, rfl, rfl, ?_⟩
        simp only [Sweeper.distance, State.put]
        omega
      · refine ⟨_, rfl, rfl, rfl, ?_⟩
        simp only [Sweeper.distance, State.put, State.drop]
        omega
  | restoring index key swapped =>
      have bound := (List.getElem?_eq_some_iff.mp (inv.placed index key (by rw [sweeper]; rfl))).1
      simp only [State.sweep, sweeper]
      refine ⟨_, rfl, rfl, rfl, ?_⟩
      split
      · simp only [Sweeper.distance, State.add, State.put]
        omega
      · simp only [Sweeper.distance, State.add, State.put]
        omega
  | deducting index key =>
      have found : state.listed[index]? = some key := inv.placed index key (by rw [sweeper]; rfl)
      have bound := (List.getElem?_eq_some_iff.mp found).1
      have shorter := swapRemove_length found
      simp only [State.sweep, sweeper]
      refine ⟨_, rfl, rfl, rfl, ?_⟩
      simp only [Sweeper.distance, State.add, State.put, State.drop]
      omega

/-- The sweeper only goes back to waiting for a meter when it has none. -/
def State.Waits (state : State rates Key) : Prop :=
  state.sweeper = .idle → state.listed = []

theorem sweep_waits (stepped : state.sweep = some next) : next.Waits := by
  intro idle
  cases sweeper : state.sweeper with
  | idle => simp [State.sweep, sweeper] at stepped
  | selecting => simp [State.sweep, sweeper] at stepped
  | registering key =>
      simp only [State.sweep, sweeper] at stepped
      cases stepped
      cases idle
  | sweeping index =>
      simp only [State.sweep, sweeper] at stepped
      split at stepped
      · cases stepped
        simpa [State.again] using idle
      · cases stepped
        simp only at idle
        split at idle <;> cases idle
  | swapping index key total =>
      simp only [State.sweep, sweeper] at stepped
      cases stepped
      split at idle <;> cases idle
  | restoring index key swapped =>
      simp only [State.sweep, sweeper] at stepped
      cases stepped
      simp only at idle
      split at idle <;> cases idle
  | deducting index key =>
      simp only [State.sweep, sweeper] at stepped
      cases stepped
      cases idle

theorem waits_step {label : Label Key} (waits : state.Waits) (stepped : Steps state label next) : next.Waits := by
  cases label with
  | mark key count =>
      cases stepped
      rw [State.Waits, (mark_frame state key count).1, (mark_frame state key count).2]
      exact waits
  | send call =>
      simp only [Steps, State.step, Option.ite_none_right_eq_some] at stepped
      obtain ⟨meter, _, rfl⟩ := Option.map_eq_some_iff.mp stepped.2
      exact waits
  | receive =>
      simp only [Steps, State.step, Option.ite_none_right_eq_some] at stepped
      obtain ⟨_, moved⟩ := stepped
      split at moved
      · cases moved
        intro idle
        cases idle
      · cases moved
  | tick =>
      simp only [Steps, State.step, Option.ite_none_right_eq_some] at stepped
      cases stepped.2
      intro idle
      cases idle
  | sweep => exact sweep_waits stepped

theorem drains (inv : Inv sums state) (waits : state.Waits) :
    ∃ more last, Run QuietSteps state more last ∧
      (Inv sums last ∧ last.Waits) ∧ last.Free ∧ last.pending = [] := by
  refine Run.reaches (fun state => Inv sums state ∧ state.Waits) (fun state => state.Free ∧ state.pending = [])
    (fun state => 3 * state.callers.length + 2 * state.channel.length + state.sweeper.distance state.listed.length)
    ?_ ⟨inv, waits⟩
  rintro state ⟨inv, waits⟩ unfinished
  by_cases free : state.Free
  · have still : state.sweeper.distance state.listed.length = 0 ∧ state.sweeper.hand = [] := by
      rcases free with idle | selecting
      · simp [idle, Sweeper.distance, Sweeper.hand]
      · simp [selecting, Sweeper.distance, Sweeper.hand]
    cases channel : state.channel with
    | cons key rest =>
        have stepped : Steps state .receive { state with channel := rest, sweeper := .registering key } := by
          simp only [Steps, State.step, channel]
          exact if_pos free
        refine ⟨_, _, ⟨stepped, trivial⟩, ⟨inv.receive stepped, waits_step waits stepped⟩, ?_⟩
        rw [still.1]
        simp only [Sweeper.distance, List.length_cons]
        omega
    | nil =>
        cases callers : state.callers with
        | nil => exact absurd ⟨free, by simp [State.pending, callers, channel, still.2]⟩ unfinished
        | cons key rest =>
            have stepped : Steps state (.send 0)
                { state with callers := state.callers.eraseIdx 0, channel := state.channel ++ [key] } := by
              simp [Steps, State.step, channel, callers, registerCapacity]
            refine ⟨_, _, ⟨stepped, trivial⟩, ⟨inv.send stepped, waits_step waits stepped⟩, ?_⟩
            simp [channel, callers]
            omega
  · obtain ⟨next, stepped, callers, channel, less⟩ := sweep_nearer inv free
    refine ⟨.sweep, next, ⟨stepped, trivial⟩, ⟨inv.sweep stepped, sweep_waits stepped⟩, ?_⟩
    rw [callers, channel]
    omega

/-- A sweep that nothing is marked in: the meters before the one it looks at are shown,
and the one that it is about to drop is. -/
def Shown (sums : Key → Nat) (state : State rates Key) : Prop :=
  state.pending = [] ∧
    match state.sweeper with
    | .sweeping index => ∀ earlier key, earlier < index → state.listed[earlier]? = some key →
        (state.meters key).snapshot.total.toNat = sums key
    | .swapping index key total => total.toNat = sums key ∧ ∀ earlier meter, earlier < index →
        state.listed[earlier]? = some meter → (state.meters meter).snapshot.total.toNat = sums meter
    | _ => state.Free ∧ ∀ key, (state.meters key).snapshot.total.toNat = sums key

theorem Inv.listed_all (inv : Inv sums state) {index : Nat} (sweeping : state.sweeper = .sweeping index) {key : Key}
    (listed : key ∈ state.listed) : (state.meters key).accumulator.toNat = sums key := by
  have idle : (state.standing key).phase = none := by simp [State.standing, sweeping, Sweeper.phase]
  have present : 0 < (state.standing key).listed := List.count_pos_iff.mpr listed
  have balanced := inv.balanced key
  simp only [Standing.Balanced, idle] at balanced
  change (state.standing key).accumulator = sums key
  omega

theorem Inv.resting_all (inv : Inv sums state) {key : Key} (unlisted : key ∉ state.listed)
    (away : key ∉ state.pending) : (state.meters key).snapshot.total.toNat = sums key := by
  have absent : (state.standing key).listed = 0 := List.count_eq_zero.mpr unlisted
  have nowhere : (state.standing key).pending = 0 := List.count_eq_zero.mpr away
  have balanced := inv.balanced key
  change (state.standing key).total = sums key
  unfold Standing.Balanced at balanced
  split at balanced <;> omega

theorem shown_sweep (inv : Inv sums state) (shown : Shown sums state) (stepped : state.sweep = some next) :
    Shown sums next := by
  obtain ⟨empty, shown⟩ := shown
  cases sweeper : state.sweeper with
  | idle => simp [State.sweep, sweeper] at stepped
  | selecting => simp [State.sweep, sweeper] at stepped
  | registering key => simp [sweeper, State.Free] at shown
  | restoring index key swapped => simp [sweeper, State.Free] at shown
  | deducting index key => simp [sweeper, State.Free] at shown
  | sweeping index =>
      simp only [sweeper] at shown
      have nothing : state.callers = [] ∧ state.channel = [] := by simpa [State.pending, sweeper, Sweeper.hand] using empty
      simp only [State.sweep, sweeper] at stepped
      cases found : state.listed[index]? with
      | none =>
          simp only [found] at stepped
          cases stepped
          -- every listed meter was looked at, and the others rest
          have all : ∀ key, (state.meters key).snapshot.total.toNat = sums key := by
            intro key
            by_cases listed : key ∈ state.listed
            · obtain ⟨earlier, place⟩ := List.mem_iff_getElem?.mp listed
              have bound := (List.getElem?_eq_some_iff.mp place).1
              exact shown earlier key (lt_of_lt_of_le bound (List.getElem?_eq_none_iff.mp found)) place
            · exact inv.resting_all listed (by simp [empty])
          rcases again_free state with idle | selecting
          · refine ⟨by simp [State.pending, nothing, idle, Sweeper.hand], ?_⟩
            simp only [idle]
            exact ⟨Or.inl rfl, all⟩
          · refine ⟨by simp [State.pending, nothing, selecting, Sweeper.hand], ?_⟩
            simp only [selecting]
            exact ⟨Or.inr rfl, all⟩
      | some key =>
          simp only [found] at stepped
          cases stepped
          have own := inv.listed_all sweeper (List.mem_of_getElem? found)
          have kept : ∀ earlier meter, earlier < index → state.listed[earlier]? = some meter →
              (((state.put key { state.meters key with
                snapshot := (state.meters key).observed (state.meters key).accumulator }).meters
                meter).snapshot.total).toNat = sums meter := by
            intro earlier meter less place
            by_cases same : meter = key
            · subst same
              simpa [State.put] using own
            · simpa [State.put, same] using shown earlier meter less place
          split
          · refine ⟨by simp [State.pending, State.put, nothing, Sweeper.hand], ?_⟩
            intro earlier meter less place
            rcases Nat.lt_succ_iff_lt_or_eq.mp less with before | rfl
            · exact kept earlier meter before place
            · obtain rfl : key = meter := Option.some.inj (found.symm.trans place)
              simpa [State.put] using own
          · exact ⟨by simp [State.pending, State.put, nothing, Sweeper.hand], own, kept⟩
  | swapping index key total =>
      simp only [sweeper] at shown
      have nothing : state.callers = [] ∧ state.channel = [] := by simpa [State.pending, sweeper, Sweeper.hand] using empty
      have found : state.listed[index]? = some key := inv.placed index key (by rw [sweeper]; rfl)
      -- nothing was marked since the snapshot
      have same : (state.meters key).accumulator = total := by
        have balanced := inv.balanced key
        simp only [Standing.Balanced, State.standing, sweeper, Sweeper.phase, if_true] at balanced
        rw [← UInt64.toNat_inj]
        omega
      simp only [State.sweep, sweeper, same, gt_iff_lt, UInt64.lt_irrefl, if_false] at stepped
      cases stepped
      refine ⟨by simp [State.pending, State.put, State.drop, nothing, Sweeper.hand], ?_⟩
      intro earlier meter less place
      rw [drop_total, put_total state key meter]
      exact shown.2 earlier meter less ((swapRemove_before found less).symm.trans place)

theorem sweep_shows (inv : Inv sums state) (waits : state.Waits) (free : state.Free) (empty : state.pending = []) :
    ∃ more last, Run QuietSteps state more last ∧
      last.Free ∧ last.pending = [] ∧ ∀ key, (last.meters key).snapshot.total.toNat = sums key := by
  rcases free with idle | selecting
  · have rests : ∀ key, (state.meters key).snapshot.total.toNat = sums key := fun key =>
      inv.resting_all (by simp [waits idle]) (by simp [empty])
    exact ⟨[], state, .nil _, Or.inl idle, empty, rests⟩
  · have ticked : Steps state .tick { state with sweeper := .sweeping 0 } := by
      simp [Steps, State.step, selecting]
    have begins : Shown sums { state with sweeper := .sweeping 0 } := by
      refine ⟨by simpa [State.pending, selecting, Sweeper.hand] using empty, ?_⟩
      intro earlier key less
      exact absurd less (Nat.not_lt_zero _)
    have nearer : ∀ state : State rates Key, Inv sums state ∧ Shown sums state → ¬state.Free →
        ∃ label next, QuietSteps state label next ∧ (Inv sums next ∧ Shown sums next) ∧
          next.sweeper.distance next.listed.length < state.sweeper.distance state.listed.length := by
      intro state kept busy
      obtain ⟨next, stepped, _, _, less⟩ := sweep_nearer kept.1 busy
      exact ⟨.sweep, next, ⟨stepped, trivial⟩, ⟨kept.1.sweep stepped, shown_sweep kept.1 kept.2 stepped⟩, less⟩
    obtain ⟨more, last, run, ⟨_, none, shown⟩, free⟩ := Run.reaches
      (fun state => Inv sums state ∧ Shown sums state) State.Free
      (fun state => state.sweeper.distance state.listed.length) nearer ⟨inv.tick ticked, begins⟩
    refine ⟨.tick :: more, last, .cons ⟨ticked, trivial⟩ run, free, none, ?_⟩
    rcases free with idle | selecting
    · rw [idle] at shown
      exact shown.2
    · rw [selecting] at shown
      exact shown.2

/-- From every state that can be reached, and without another mark, the sweeper gets to
a point where nothing is on its way and every meter shows all of its marks. -/
theorem sweeper_settles (fresh : start.Fresh) (run : Run Steps start labels state)
    (small : ∀ key, marked labels key < 2 ^ 64) :
    ∃ more last, Run Steps state more last ∧ (∀ label ∈ more, label.Quiet) ∧ last.Readable ∧ last.pending = [] ∧
      ∀ key, (last.meters key).snapshot.total.toNat = marked labels key := by
  have waits : state.Waits := run.invariant State.Waits (fun _ _ _ stepped kept => waits_step kept stepped)
    (fun _ => fresh.2.2.2.1)
  obtain ⟨first, middle, drained, ⟨inv, still⟩, free, empty⟩ := drains (Inv.of_run fresh run small) waits
  obtain ⟨second, last, swept, settled, none, shown⟩ := sweep_shows inv still free empty
  obtain ⟨whole, quiet⟩ := (drained.append swept).unrestrict
  exact ⟨first ++ second, last, whole, quiet, settled.imp_right Or.inl, none, shown⟩

theorem sweeper_settles_noticed : ∃ state last, ∃ more : List (Label Unit),
    Run Steps smallStart (smallRegister ++ smallNotice) state ∧ Run Steps state more last ∧
      (last.meters ()).snapshot.total.toNat = 10 := by
  obtain ⟨middle, state, first, second, _, _⟩ := smallNotice_run
  have run := first.append second
  obtain ⟨more, last, rest, _, _, _, shown⟩ := sweeper_settles smallStart_fresh run smallNotice_small
  exact ⟨state, last, more, run, rest, shown ()⟩

end Runs

end Carrier.FlowMeter
