import Mathlib.Data.List.Sort
import Mathlib.Data.List.Induction

/-! A log of values that are added and of keys that are removed. What survives it are
the added values whose key was not removed later, each with its place in the log.
Sorting the survivors by a rank, with a sort that keeps the order of equal ranks,
orders them by rank and then by place. -/
namespace Carrier.KeyedLog

variable {Value Key : Type}

inductive Event (Value Key : Type) where
  | added (value : Value)
  | removed (key : Key)
  | refused
  deriving DecidableEq, Repr

structure Entry (Value : Type) where
  number : Nat
  value : Value
  deriving DecidableEq, Repr

section Survival

variable {keyOf : Value → Key}

/-- The value was added at its number and its key not removed since. -/
def Survives (keyOf : Value → Key) (log : List (Event Value Key)) (entry : Entry Value) : Prop :=
  log[entry.number]? = some (.added entry.value) ∧
    ∀ later, entry.number < later → log[later]? ≠ some (.removed (keyOf entry.value))

theorem Survives.number_lt {log : List (Event Value Key)} {entry : Entry Value}
    (survives : Survives keyOf log entry) : entry.number < log.length :=
  (List.getElem?_eq_some_iff.mp survives.1).1

theorem getElem?_snoc (log : List (Event Value Key)) (event : Event Value Key) (number : Nat) :
    (log ++ [event])[number]? = if number = log.length then some event else log[number]? := by
  rcases Nat.lt_trichotomy number log.length with below | same | above
  · rw [List.getElem?_append_left below, if_neg (by omega)]
  · simp [same]
  · rw [List.getElem?_append_right (by omega), if_neg (by omega), List.getElem?_eq_none (by simp; omega),
      List.getElem?_eq_none (by omega)]

/-- An older value survives one more event exactly if that does not remove its key;
the only new one is the value the event adds. -/
theorem survives_snoc_iff {log : List (Event Value Key)} {event : Event Value Key} {entry : Entry Value} :
    Survives keyOf (log ++ [event]) entry ↔
      Survives keyOf log entry ∧ event ≠ .removed (keyOf entry.value) ∨
        entry.number = log.length ∧ event = .added entry.value := by
  constructor
  · rintro ⟨added, kept⟩
    rw [getElem?_snoc] at added
    split at added
    · rename_i last
      exact Or.inr ⟨last, Option.some.inj added⟩
    · have bound := (List.getElem?_eq_some_iff.mp added).1
      refine Or.inl ⟨⟨added, fun later after => ?_⟩, fun removed => ?_⟩
      · have other := kept later after
        rw [getElem?_snoc] at other
        split at other
        · rename_i last
          simp [last]
        · exact other
      · apply kept log.length bound
        rw [getElem?_snoc, if_pos rfl, removed]
  · rintro (⟨survives, spared⟩ | ⟨last, rfl⟩)
    · have bound := survives.number_lt
      refine ⟨by rw [getElem?_snoc, if_neg (by omega)]; exact survives.1, fun later after => ?_⟩
      rw [getElem?_snoc]
      split
      · exact fun same => spared (Option.some.inj same)
      · exact survives.2 later after
    · refine ⟨by rw [getElem?_snoc, if_pos last], fun later after => ?_⟩
      simp [List.getElem?_eq_none (show (log ++ [Event.added entry.value]).length ≤ later by simp; omega)]

end Survival

section Survivors

variable [DecidableEq Key] (keyOf : Value → Key)

def settle (number : Nat) (entries : List (Entry Value)) : Event Value Key → List (Entry Value)
  | .added value => entries ++ [⟨number, value⟩]
  | .removed key => entries.filter fun entry => keyOf entry.value ≠ key
  | .refused => entries

def survivors (log : List (Event Value Key)) : List (Entry Value) :=
  log.zipIdx.foldl (fun entries item => settle keyOf item.2 entries item.1) []

@[simp] theorem survivors_nil : survivors keyOf [] = [] := rfl

theorem survivors_snoc (log : List (Event Value Key)) (event : Event Value Key) :
    survivors keyOf (log ++ [event]) = settle keyOf log.length (survivors keyOf log) event := by
  simp [survivors, List.zipIdx_append]

variable {keyOf}

theorem mem_survivors_iff (log : List (Event Value Key)) (entry : Entry Value) :
    entry ∈ survivors keyOf log ↔ Survives keyOf log entry := by
  induction log using List.reverseRecOn with
  | nil => simp [Survives]
  | append_singleton log event ih =>
      rw [survivors_snoc, survives_snoc_iff, ← ih]
      obtain ⟨number, value⟩ := entry
      cases event with
      | added other => simp [settle, @eq_comm _ other value]
      | removed key => simp [settle, @eq_comm _ key (keyOf value)]
      | refused => simp [settle]

theorem survivors_increasing (log : List (Event Value Key)) :
    (survivors keyOf log).Pairwise fun left right => left.number < right.number := by
  induction log using List.reverseRecOn with
  | nil => exact List.Pairwise.nil
  | append_singleton log event ih =>
      rw [survivors_snoc]
      cases event with
      | added value =>
          refine List.pairwise_append.mpr ⟨ih, List.pairwise_singleton _ _, ?_⟩
          intro old member new last
          rw [List.mem_singleton.mp last]
          exact ((mem_survivors_iff log old).mp member).number_lt
      | removed key => exact ih.filter _
      | refused => exact ih

end Survivors

/-! Order by rank, then by place in the log. -/

section Order

variable (rank : Value → Int)

def Before (left right : Entry Value) : Prop :=
  rank left.value < rank right.value ∨
    rank left.value = rank right.value ∧ left.number < right.number

variable {rank}

/-- An entry older than all others goes in front of those of its own rank. -/
theorem orderedInsert_before (entry : Entry Value) (entries : List (Entry Value))
    (older : ∀ other ∈ entries, entry.number < other.number)
    (ordered : entries.Pairwise (Before rank)) :
    (entries.orderedInsert (fun left right => rank left.value ≤ rank right.value) entry).Pairwise
      (Before rank) := by
  induction entries with
  | nil => exact List.pairwise_singleton _ _
  | cons first rest ih =>
      obtain ⟨firstBefore, restOrdered⟩ := List.pairwise_cons.mp ordered
      rw [List.orderedInsert_cons]
      split
      · rename_i low
        refine List.pairwise_cons.mpr ⟨fun other member => ?_, ordered⟩
        have lowest : rank entry.value ≤ rank other.value := by
          rcases List.mem_cons.mp member with same | later
          · exact same ▸ low
          · rcases firstBefore other later with below | ⟨equal, _⟩ <;> omega
        rcases Int.lt_or_eq_of_le lowest with below | equal
        · exact Or.inl below
        · exact Or.inr ⟨equal, older other member⟩
      · rename_i high
        refine List.pairwise_cons.mpr ⟨fun other member => ?_,
          ih (fun other member => older other (List.mem_cons_of_mem first member)) restOrdered⟩
        rcases List.mem_orderedInsert _ |>.mp member with same | later
        · rw [same]
          exact Or.inl (by omega)
        · exact firstBefore other later

theorem insertionSort_before (entries : List (Entry Value))
    (increasing : entries.Pairwise fun left right => left.number < right.number) :
    (entries.insertionSort fun left right => rank left.value ≤ rank right.value).Pairwise
      (Before rank) := by
  induction entries with
  | nil => exact List.Pairwise.nil
  | cons entry rest ih =>
      obtain ⟨older, restIncreasing⟩ := List.pairwise_cons.mp increasing
      rw [List.insertionSort_cons]
      refine orderedInsert_before entry _ (fun other member => ?_) (ih restIncreasing)
      exact older other ((List.mem_insertionSort _).mp member)

end Order

end Carrier.KeyedLog
