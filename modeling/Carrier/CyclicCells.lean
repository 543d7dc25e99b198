import Mathlib.Data.List.Nodup
import Mathlib.Data.List.Perm.Subperm
import Mathlib.Data.Nat.ModEq
import Mathlib.Logic.Function.Basic

/-! A stream of numbered entries kept in a fixed number of cells, entry `n` in the
cell `n` modulo their number. The cells hold the stream between a position and the
same position one turn later; nothing is known of the stream beyond that. -/
namespace Carrier.CyclicCells

variable {α : Type}

structure Mirrors (cells : List (Option α)) (stream : Nat → Option α) (next : Nat) : Prop where
  cell : ∀ n, next ≤ n → n < next + cells.length → cells.getD (n % cells.length) none = stream n
  beyond : ∀ n, next + cells.length ≤ n → stream n = none

/-- Within one turn a cell belongs to one number. -/
theorem eq_of_mod_eq {size next n m : Nat} (nLow : next ≤ n) (nHigh : n < next + size) (mLow : next ≤ m)
    (mHigh : m < next + size) (same : n % size = m % size) : n = m := by
  rcases Nat.le_total n m with le | le
  · have divides := (Nat.modEq_iff_dvd' le).mp same
    have zero := Nat.eq_zero_of_dvd_of_lt divides (by omega)
    omega
  · have divides := (Nat.modEq_iff_dvd' le).mp same.symm
    have zero := Nat.eq_zero_of_dvd_of_lt divides (by omega)
    omega

/-- The cells met from a start on, going round. -/
def turn (size start count : Nat) : List Nat := (List.range count).map fun i => (start + i) % size

theorem turn_succ (size start count : Nat) :
    turn size start (count + 1) = turn size start count ++ [(start + count) % size] := by
  simp [turn, List.range_succ]

theorem turn_nodup {size start count : Nat} (within : count ≤ size) : (turn size start count).Nodup := by
  refine List.Nodup.map_on (fun i iLess j jLess same => ?_) List.nodup_range
  rw [List.mem_range] at iLess jLess
  have equal := eq_of_mod_eq (Nat.le_add_right start i) (by omega) (Nat.le_add_right start j) (by omega) same
  exact Nat.add_left_cancel equal

theorem turn_perm (size start : Nat) : (turn size start size).Perm (List.range size) := by
  refine (List.subperm_of_subset (turn_nodup (Nat.le_refl size)) fun cell member => ?_).perm_of_length_le ?_
  · obtain ⟨i, less, rfl⟩ := List.mem_map.mp member
    rw [List.mem_range] at less ⊢
    exact Nat.mod_lt _ (Nat.zero_lt_of_lt less)
  · simp [turn]

theorem getD_set (cells : List (Option α)) (i j : Nat) (value : Option α) (inside : i < cells.length) :
    (cells.set i value).getD j none = if i = j then value else cells.getD j none := by
  by_cases same : i = j
  · subst same
    simp [List.getD_eq_getElem?_getD, inside]
  · simp [List.getD_eq_getElem?_getD, List.getElem?_set_ne same, same]

theorem mirrors_replicate (size next : Nat) :
    Mirrors (List.replicate size (none : Option α)) (fun _ => none) next := by
  refine ⟨fun n _ _ => ?_, fun _ _ => rfl⟩
  rw [List.getD_eq_getElem?_getD, List.getElem?_replicate]
  split <;> rfl

section Updates

variable {cells : List (Option α)} {stream : Nat → Option α} {next : Nat}
  (mirrors : Mirrors cells stream next)
include mirrors

theorem Mirrors.store {n : Nat} (low : next ≤ n) (high : n < next + cells.length) (value : Option α) :
    Mirrors (cells.set (n % cells.length) value) (Function.update stream n value) next := by
  have inside : n % cells.length < cells.length := Nat.mod_lt n (by omega)
  refine ⟨fun m mLow mHigh => ?_, fun m far => ?_⟩
  · rw [List.length_set] at mHigh ⊢
    rw [getD_set _ _ _ _ inside]
    by_cases here : m = n
    · simp [here]
    · have apart : n % cells.length ≠ m % cells.length := fun same =>
        here (eq_of_mod_eq mLow mHigh low high same.symm)
      rw [if_neg apart, Function.update_of_ne here, mirrors.cell m mLow mHigh]
  · rw [List.length_set] at far
    have here : m ≠ n := by omega
    simp [here, mirrors.beyond m far]

/-- Emptying the first cell moves on by one: it is the last cell of the next turn. -/
theorem Mirrors.advance (positive : 0 < cells.length) :
    Mirrors (cells.set (next % cells.length) none) stream (next + 1) := by
  have inside : next % cells.length < cells.length := Nat.mod_lt next positive
  refine ⟨fun m mLow mHigh => ?_, fun m far => ?_⟩
  · rw [List.length_set] at mHigh ⊢
    rw [getD_set _ _ _ _ inside]
    by_cases last : m = next + cells.length
    · simp [last, mirrors.beyond (next + cells.length) (Nat.le_refl _)]
    · have apart : next % cells.length ≠ m % cells.length := fun same => by
        have equal := eq_of_mod_eq (Nat.le_refl next) (by omega) (by omega) (by omega) same
        omega
      rw [if_neg apart, mirrors.cell m (by omega) (by omega)]
  · rw [List.length_set] at far
    exact mirrors.beyond m (by omega)

/-- Where the stream has ended no cell holds anything. -/
theorem Mirrors.blank (positive : 0 < cells.length) (ended : ∀ n, next ≤ n → stream n = none) (i : Nat)
    (inside : i < cells.length) : cells.getD i none = none := by
  -- the number of this cell in the current turn
  obtain ⟨n, low, high, mod⟩ : ∃ n, next ≤ n ∧ n < next + cells.length ∧ n % cells.length = i := by
    by_cases before : next % cells.length ≤ i
    · refine ⟨next + (i - next % cells.length), by omega, by omega, ?_⟩
      rw [Nat.add_mod, Nat.mod_eq_of_lt (show i - next % cells.length < cells.length by omega),
        Nat.mod_eq_of_lt (show next % cells.length + (i - next % cells.length) < cells.length by omega)]
      omega
    · have start := Nat.mod_lt next positive
      refine ⟨next + (cells.length - next % cells.length + i), by omega, by omega, ?_⟩
      rw [Nat.add_mod, Nat.mod_eq_of_lt (show cells.length - next % cells.length + i < cells.length by omega),
        show next % cells.length + (cells.length - next % cells.length + i) = i + cells.length by omega,
        Nat.add_mod_right, Nat.mod_eq_of_lt inside]
  rw [← mod, mirrors.cell n low high, ended n low]

end Updates

end Carrier.CyclicCells
