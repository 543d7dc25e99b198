import Mathlib.Data.List.Perm.Basic
import Mathlib.Data.List.Nodup
import Mathlib.Data.List.Induction

/-! The contract of `sort.Slice`. The comparison is a function of two positions
of a slice, the result is a permutation, and it is ordered when the comparison
reads its elements through a strict weak order. Ties may come out in any order,
and nothing more is known of a comparison that does not depend on the elements
being moved. `insertionSort` is the routine the library runs on short slices. -/
namespace Carrier.SortSlice

variable {α : Type}

structure StrictWeak (lt : α → α → Bool) : Prop where
  irrefl : ∀ a, lt a a = false
  trans : ∀ a b c, lt a b = true → lt b c = true → lt a c = true
  negTrans : ∀ a b c, lt a b = false → lt b c = false → lt a c = false

abbrev Ordered (lt : α → α → Bool) (xs : List α) : Prop :=
  xs.Pairwise fun a b => lt b a = false

/-- A comparison that reads the two positions from the slice being sorted. -/
def byElement (lt : α → α → Bool) (current : List α) (i j : Nat) : Bool :=
  match current[i]?, current[j]? with
  | some a, some b => lt a b
  | _, _ => false

structure Sorter (α : Type) where
  sort : (List α → Nat → Nat → Bool) → List α → List α
  perm : ∀ less xs, (sort less xs).Perm xs
  ordered : ∀ lt, StrictWeak lt → ∀ xs, Ordered lt (sort (byElement lt) xs)

theorem StrictWeak.asymm {lt : α → α → Bool} (weak : StrictWeak lt) {a b : α}
    (below : lt a b = true) : lt b a = false := by
  cases above : lt b a with
  | false => rfl
  | true =>
      have loop := weak.trans a b a below above
      rw [weak.irrefl a] at loop
      exact loop.symm

/-! Cutting an ordered list. -/

theorem ordered_cut {lt : α → α → Bool} (xs : List α) (ordered : Ordered lt xs) (k : Nat)
    (kept out : α) (inside : kept ∈ xs.take k) (outside : out ∈ xs.drop k) :
    lt out kept = false := by
  have split := ordered
  rw [← List.take_append_drop k xs] at split
  exact (List.pairwise_append.mp split).2.2 kept inside out outside

theorem countP_lt_of_mem_take {lt : α → α → Bool} (weak : StrictWeak lt) (xs : List α)
    (ordered : Ordered lt xs) (k : Nat) (kept : α) (inside : kept ∈ xs.take k) :
    xs.countP (fun x => lt x kept) < k := by
  have rest : (xs.drop k).countP (fun x => lt x kept) = 0 := by
    apply List.countP_eq_zero.mpr
    intro out outside
    simp [ordered_cut xs ordered k kept out inside outside]
  have front : (xs.take k).countP (fun x => lt x kept) < (xs.take k).length := by
    refine Nat.lt_of_le_of_ne List.countP_le_length fun all => ?_
    have below := List.countP_eq_length.mp all kept inside
    simp [weak.irrefl kept] at below
  have total : xs.countP (fun x => lt x kept) =
      (xs.take k).countP (fun x => lt x kept) + (xs.drop k).countP (fun x => lt x kept) := by
    rw [← List.countP_append, List.take_append_drop]
  have bound := List.length_take_le k xs
  omega

/-! `insertionSort`: each position in turn is sunk by swaps of neighbours. -/

def swap (current : List α) (i j : Nat) : List α :=
  match current[i]?, current[j]? with
  | some a, some b => (current.set i b).set j a
  | _, _ => current

def sink (less : List α → Nat → Nat → Bool) : Nat → List α → List α
  | 0, current => current
  | j + 1, current =>
      if less current (j + 1) j then sink less j (swap current (j + 1) j) else current

def insertionSort (less : List α → Nat → Nat → Bool) (xs : List α) : List α :=
  (List.range xs.length).foldl (fun current i => sink less i current) xs

theorem swap_perm (current : List α) (j : Nat) : (swap current (j + 1) j).Perm current := by
  unfold swap
  split
  · rename_i a b upper lower
    obtain ⟨bound, rfl⟩ := List.getElem?_eq_some_iff.mp upper
    obtain ⟨_, rfl⟩ := List.getElem?_eq_some_iff.mp lower
    rw [List.set_comm _ _ (by omega)]
    exact List.set_set_perm (by omega) bound
  · exact List.Perm.refl _

theorem sink_perm (less : List α → Nat → Nat → Bool) (i : Nat) (current : List α) :
    (sink less i current).Perm current := by
  induction i generalizing current with
  | zero => exact List.Perm.refl _
  | succ j ih =>
      simp only [sink]
      split
      · exact (ih _).trans (swap_perm current j)
      · exact List.Perm.refl _

theorem insertionSort_perm (less : List α → Nat → Nat → Bool) (xs : List α) :
    (insertionSort less xs).Perm xs := by
  have rounds : ∀ (positions : List Nat) (current : List α),
      (positions.foldl (fun current i => sink less i current) current).Perm current := by
    intro positions
    induction positions with
    | nil => exact fun current => List.Perm.refl _
    | cons i rest ih => exact fun current => (ih _).trans (sink_perm less i current)
  exact rounds _ xs

theorem swap_neighbours (front rest : List α) (x y : α) :
    swap (front ++ y :: x :: rest) (front.length + 1) front.length =
      front ++ x :: y :: rest := by
  simp [swap]

/-- One round inserts the next element into the ordered prefix before it. The
induction removes the last prefix element, which is the one it is compared with. -/
theorem sink_ordered {lt : α → α → Bool} (weak : StrictWeak lt) (front : List α) (x : α)
    (rest : List α) (ordered : Ordered lt front) :
    ∃ inserted, sink (byElement lt) front.length (front ++ x :: rest) = inserted ++ rest ∧
      inserted.Perm (x :: front) ∧ Ordered lt inserted := by
  induction front using List.reverseRecOn generalizing rest with
  | nil => exact ⟨[x], by simp [sink], List.Perm.refl _, by simp⟩
  | append_singleton init y ih =>
      obtain ⟨initOrdered, _, below⟩ := List.pairwise_append.mp ordered
      have compared : byElement lt (init ++ y :: x :: rest) (init.length + 1) init.length = lt x y := by
        simp [byElement]
      simp only [List.length_append, List.length_singleton, List.append_assoc,
        List.singleton_append, sink, compared]
      cases smaller : lt x y with
      | true =>
          obtain ⟨inserted, sunk, perm, insertedOrdered⟩ := ih (y :: rest) initOrdered
          refine ⟨inserted ++ [y], ?_, ?_, ?_⟩
          · simp [swap_neighbours, sunk]
          · exact perm.append_right [y]
          · refine List.pairwise_append.mpr ⟨insertedOrdered, by simp, ?_⟩
            intro z member last isLast
            rw [List.mem_singleton.mp isLast]
            rcases List.mem_cons.mp (perm.mem_iff.mp member) with same | old
            · exact same ▸ weak.asymm smaller
            · exact below z old y (by simp)
      | false =>
          refine ⟨init ++ [y, x], by simp, ?_, ?_⟩
          · have moved : (init ++ [y] ++ [x]).Perm (x :: (init ++ [y])) := List.perm_append_singleton _ _
            simpa using moved
          · refine List.pairwise_append.mpr ⟨initOrdered, by simp [smaller], ?_⟩
            intro z member last isLast
            have beforeY := below z member y (by simp)
            rcases List.mem_cons.mp isLast with same | isX
            · exact same ▸ beforeY
            · rw [List.mem_singleton.mp isX]
              exact weak.negTrans x y z smaller beforeY

theorem rounds_ordered {lt : α → α → Bool} (weak : StrictWeak lt) (xs : List α) (i : Nat)
    (bound : i ≤ xs.length) :
    ∃ front, (List.range i).foldl (fun current j => sink (byElement lt) j current) xs =
      front ++ xs.drop i ∧ front.length = i ∧ Ordered lt front := by
  induction i with
  | zero => exact ⟨[], by simp⟩
  | succ i ih =>
      obtain ⟨front, folded, size, ordered⟩ := ih (by omega)
      obtain ⟨inserted, sunk, perm, insertedOrdered⟩ :=
        sink_ordered weak front (xs.get ⟨i, by omega⟩) (xs.drop (i + 1)) ordered
      refine ⟨inserted, ?_, by simp [perm.length_eq, size], insertedOrdered⟩
      rw [List.range_succ, List.foldl_append, folded, List.drop_eq_getElem_cons (by omega)]
      simpa [size] using sunk

theorem insertionSort_ordered {lt : α → α → Bool} (weak : StrictWeak lt) (xs : List α) :
    Ordered lt (insertionSort (byElement lt) xs) := by
  obtain ⟨front, folded, _, ordered⟩ := rounds_ordered weak xs xs.length (Nat.le_refl _)
  simpa [insertionSort, folded] using ordered

/-- The library's own routine on short slices meets the contract. -/
def insertionSorter : Sorter α where
  sort := insertionSort
  perm := insertionSort_perm
  ordered := fun _ weak xs => insertionSort_ordered weak xs

/-! A comparison that is never true constrains nothing. -/

theorem byElement_pair (lt : α → α → Bool) (a b : α) : byElement lt [a, b] 0 1 = lt a b := rfl

open Classical in
/-- A sorter that returns `out` wherever the contract leaves it that choice. -/
noncomputable def choosing (out : List α) : Sorter α where
  sort := fun less xs =>
    if out.Perm xs ∧ ∀ lt, StrictWeak lt → byElement lt = less → Ordered lt out then out
    else insertionSort less xs
  perm := fun less xs => by
    split
    · rename_i allowed; exact allowed.1
    · exact insertionSort_perm less xs
  ordered := fun lt weak xs => by
    split
    · rename_i allowed; exact allowed.2 lt weak rfl
    · exact insertionSort_ordered weak xs

/-- Every permutation is a possible result of sorting by a comparison that does not
read the slice. -/
theorem choosing_sort_static (out xs : List α) (less : Nat → Nat → Bool) (perm : out.Perm xs) :
    (choosing out).sort (fun _ => less) xs = out := by
  refine if_pos ⟨perm, fun lt _ same => ?_⟩
  have blind : ∀ a b, lt a b = false := fun a b => by
    rw [← byElement_pair lt a b, same, ← congrFun same []]; rfl
  exact List.pairwise_of_forall fun a b => blind b a

/-! Comparisons that find nothing to move. -/

def InOrder (less : List α → Nat → Nat → Bool) (xs : List α) : Prop :=
  ∀ current i j, i < j → j < xs.length → less current j i = false

/-- Up to twelve elements are sorted by insertion, in older versions of the library
after a pass over positions six apart. Neither moves anything in such a slice. -/
def Steady (sorter : Sorter α) : Prop :=
  ∀ less xs, xs.length ≤ 12 → InOrder less xs → sorter.sort less xs = xs

theorem sink_inOrder {less : List α → Nat → Nat → Bool} {xs : List α} (inOrder : InOrder less xs) (i : Nat)
    (inside : i < xs.length) : sink less i xs = xs := by
  cases i with
  | zero => rfl
  | succ j =>
      rw [sink, inOrder xs j (j + 1) (by omega) inside]
      rfl

theorem insertionSorter_steady : Steady (insertionSorter : Sorter α) := by
  intro less xs _ inOrder
  have rounds : ∀ positions : List Nat, (∀ i ∈ positions, i < xs.length) →
      positions.foldl (fun current i => sink less i current) xs = xs := by
    intro positions inside
    induction positions with
    | nil => rfl
    | cons i rest ih =>
        rw [List.foldl_cons, sink_inOrder inOrder i (inside i List.mem_cons_self)]
        exact ih fun j member => inside j (List.mem_cons_of_mem _ member)
  exact rounds _ fun i member => List.mem_range.mp member

theorem inOrder_iff (lt : α → α → Bool) (read xs : List α) (short : xs.length ≤ read.length) :
    InOrder (fun _ => byElement lt read) xs ↔ Ordered lt (read.take xs.length) := by
  rw [Ordered, List.pairwise_iff_getElem]
  constructor
  · intro inOrder i j left right below
    rw [List.length_take] at left right
    have compared := inOrder [] i j below (by omega)
    simpa [byElement, show i < read.length by omega, show j < read.length by omega] using compared
  · intro ordered current i j below inside
    have compared := ordered i j (by rw [List.length_take]; omega) (by rw [List.length_take]; omega) below
    simpa [byElement, show i < read.length by omega, show j < read.length by omega] using compared

theorem ordered_of_inOrder {lt : α → α → Bool} {xs : List α} (inOrder : InOrder (byElement lt) xs) :
    Ordered lt xs := by
  have positions := (inOrder_iff lt xs xs (Nat.le_refl _)).mp fun _ i j below inside =>
    inOrder xs i j below inside
  rwa [List.take_length] at positions

open Classical in
/-- A sorter that leaves short slices in order alone and returns `out` wherever else
it may. -/
noncomputable def wilful (out : List α) : Sorter α where
  sort := fun less xs =>
    if xs.length ≤ 12 ∧ InOrder less xs then xs else (choosing out).sort less xs
  perm := fun less xs => by
    split
    · exact List.Perm.refl _
    · exact (choosing out).perm less xs
  ordered := fun lt weak xs => by
    split
    · rename_i still; exact ordered_of_inOrder still.2
    · exact (choosing out).ordered lt weak xs

theorem wilful_steady (out : List α) : Steady (wilful out) :=
  fun _ _ short inOrder => if_pos ⟨short, inOrder⟩

theorem wilful_sort (out xs : List α) (less : Nat → Nat → Bool) (perm : out.Perm xs)
    (moves : ¬ (xs.length ≤ 12 ∧ InOrder (fun _ => less) xs)) : (wilful out).sort (fun _ => less) xs = out :=
  (if_neg moves).trans (choosing_sort_static out xs less perm)

end Carrier.SortSlice
