import Carrier.TransitionSystem
import Mathlib.Data.Set.Card

/-! Maps of bounded size that forget what has not been used for the longest time. A map
knows when each of its keys was used last; a list of its entries with the latest use
first represents it, so that the entry to forget is the last of the list. -/
namespace Carrier.LastUse

universe u v
variable {Key : Type u} {Value : Type v}

/-- `usedAt` is the time of the last use of a key, on a clock of uses. -/
structure RecencyMap (Key : Type u) (Value : Type v) where
  entries : Key → Option Value
  usedAt : Key → Nat
  now : Nat

structure Lookup (Key : Type u) (Value : Type v) where
  key : Key
  offer : Value
  value : Value
  ran : Bool

namespace RecencyMap

def empty : RecencyMap Key Value := ⟨fun _ => none, fun _ => 0, 0⟩

def cached (map : RecencyMap Key Value) : Set Key := { key | map.entries key ≠ none }

structure Least (map : RecencyMap Key Value) (key : Key) : Prop where
  cached : key ∈ map.cached
  oldest : ∀ other ∈ map.cached, map.usedAt key ≤ map.usedAt other

variable [DecidableEq Key]

def use (map : RecencyMap Key Value) (key : Key) : RecencyMap Key Value :=
  { map with usedAt := Function.update map.usedAt key map.now, now := map.now + 1 }

def put (map : RecencyMap Key Value) (key : Key) (value : Value) : RecencyMap Key Value :=
  { map.use key with entries := Function.update map.entries key (some value) }

def evict (map : RecencyMap Key Value) (key : Key) : RecencyMap Key Value :=
  { map with entries := Function.update map.entries key none }

/-- A key that is there gives its value. Another one is put in, in a full map instead of
the key that has gone unused for longest. -/
inductive Gets (limit : Nat) (map : RecencyMap Key Value) : Lookup Key Value → RecencyMap Key Value → Prop where
  | hit {key : Key} {offer value : Value} : map.entries key = some value →
      Gets limit map ⟨key, offer, value, false⟩ (map.use key)
  | miss {key : Key} {offer : Value} : map.entries key = none → map.cached.ncard < limit →
      Gets limit map ⟨key, offer, offer, true⟩ (map.put key offer)
  | evicts {key victim : Key} {offer : Value} : map.entries key = none → limit ≤ map.cached.ncard →
      Least map victim → Gets limit map ⟨key, offer, offer, true⟩ ((map.evict victim).put key offer)

end RecencyMap

/-! The list of a map. -/

/-- The entries of the map, the latest use first. -/
structure Represents (map : RecencyMap Key Value) (list : List (Key × Value)) : Prop where
  nodup : (list.map Prod.fst).Nodup
  entries : ∀ key value, map.entries key = some value ↔ (key, value) ∈ list
  ordered : list.Pairwise fun left right => map.usedAt right.1 < map.usedAt left.1
  past : ∀ entry ∈ list, map.usedAt entry.1 < map.now

theorem represents_empty : Represents (RecencyMap.empty : RecencyMap Key Value) [] :=
  ⟨List.nodup_nil, by simp [RecencyMap.empty], .nil, by simp⟩

namespace Represents

variable {map : RecencyMap Key Value} {list : List (Key × Value)}

theorem mem_cached (represents : Represents map list) (key : Key) :
    key ∈ map.cached ↔ key ∈ list.map Prod.fst := by
  simp only [RecencyMap.cached, Set.mem_ofPred_eq, Option.ne_none_iff_exists', represents.entries, List.mem_map,
    Prod.exists, exists_and_right, exists_eq_right]

theorem absent_iff (represents : Represents map list) (key : Key) :
    map.entries key = none ↔ key ∉ list.map Prod.fst := by
  rw [← represents.mem_cached]
  simp [RecencyMap.cached]

theorem card (represents : Represents map list) : map.cached.ncard = list.length := by
  classical
  have same : map.cached = ((list.map Prod.fst).toFinset : Set Key) := by
    ext key
    rw [represents.mem_cached, List.coe_toFinset]
    rfl
  rw [same, Set.ncard_coe_finset, List.toFinset_card_of_nodup represents.nodup, List.length_map]

theorem least {before : List (Key × Value)} {last : Key × Value}
    (represents : Represents map (before ++ [last])) : map.Least last.1 := by
  refine ⟨(represents.mem_cached _).mpr (by simp), fun other cached => ?_⟩
  obtain ⟨entry, member, rfl⟩ := List.mem_map.mp ((represents.mem_cached other).mp cached)
  rcases List.mem_append.mp member with early | same
  · exact Nat.le_of_lt ((List.pairwise_append.mp represents.ordered).2.2 entry early last (by simp))
  · rw [List.mem_singleton.mp same]

variable [DecidableEq Key]

theorem evict {before : List (Key × Value)} {last : Key × Value}
    (represents : Represents map (before ++ [last])) : Represents (map.evict last.1) before := by
  obtain ⟨nodup, entries, ordered, past⟩ := represents
  rw [List.map_append, List.map_singleton] at nodup
  have apart : last.1 ∉ before.map Prod.fst := fun member =>
    (List.nodup_append.mp nodup).2.2 last.1 member last.1 (by simp) rfl
  refine ⟨(List.nodup_append.mp nodup).1, fun key value => ?_, (List.pairwise_append.mp ordered).1, ?_⟩
  · by_cases same : key = last.1
    · subst same
      simp only [RecencyMap.evict, Function.update_self, reduceCtorEq, false_iff]
      exact fun member => apart (List.mem_map.mpr ⟨_, member, rfl⟩)
    · simp only [RecencyMap.evict, Function.update_of_ne same, entries]
      have other : (key, value) ≠ last := fun equal => same (congrArg Prod.fst equal)
      simp [other]
  · exact fun entry member => past entry (List.mem_append_left _ member)

theorem put (represents : Represents map list) {key : Key} (absent : map.entries key = none) (value : Value) :
    Represents (map.put key value) ((key, value) :: list) := by
  have new := (represents.absent_iff key).mp absent
  have apart : ∀ entry ∈ list, entry.1 ≠ key := fun entry member same =>
    new (same ▸ List.mem_map_of_mem member)
  refine ⟨List.nodup_cons.mpr ⟨new, represents.nodup⟩, fun other entry => ?_, ?_, ?_⟩
  · by_cases same : other = key
    · subst same
      simp only [RecencyMap.put, Function.update_self, Option.some.injEq, List.mem_cons, Prod.mk.injEq, true_and]
      constructor
      · exact fun equal => Or.inl equal.symm
      · rintro (equal | member)
        · exact equal.symm
        · exact absurd rfl (apart _ member)
    · simp [RecencyMap.put, same, represents.entries]
  · refine .cons (fun entry member => ?_) (represents.ordered.imp_of_mem fun {left right} first second before => ?_)
    · simpa [RecencyMap.put, RecencyMap.use, apart entry member] using represents.past entry member
    · simpa [RecencyMap.put, RecencyMap.use, apart left first, apart right second] using before
  · intro entry member
    rcases List.mem_cons.mp member with rfl | later
    · simp [RecencyMap.put, RecencyMap.use]
    · have before := represents.past entry later
      simp only [RecencyMap.put, RecencyMap.use, Function.update_of_ne (apart entry later)]
      omega

theorem use {before after : List (Key × Value)} {entry : Key × Value}
    (represents : Represents map (before ++ entry :: after)) :
    Represents (map.use entry.1) (entry :: (before ++ after)) := by
  have perm : (before ++ entry :: after).Perm (entry :: (before ++ after)) := List.perm_middle
  have nodup := (perm.map Prod.fst).nodup_iff.mp represents.nodup
  have apart : ∀ other ∈ before ++ after, other.1 ≠ entry.1 := fun other member same =>
    (List.nodup_cons.mp nodup).1 (same ▸ List.mem_map_of_mem member)
  have older : ∀ other ∈ before ++ after, map.usedAt other.1 < map.now := fun other member =>
    represents.past other (perm.mem_iff.mpr (List.mem_cons_of_mem _ member))
  refine ⟨nodup, fun key value => ?_, ?_, ?_⟩
  · rw [← perm.mem_iff, ← represents.entries]
    rfl
  · have kept : (before ++ after).Sublist (before ++ entry :: after) :=
      (List.sublist_cons_self entry after).append_left before
    refine .cons (fun other member => ?_)
      ((represents.ordered.sublist kept).imp_of_mem fun {left right} first second order => ?_)
    · simpa [RecencyMap.use, apart other member] using older other member
    · simpa [RecencyMap.use, apart left first, apart right second] using order
  · intro other member
    rcases List.mem_cons.mp member with rfl | later
    · simp [RecencyMap.use]
    · have past := older other later
      simp only [RecencyMap.use, Function.update_of_ne (apart other later)]
      omega

end Represents

end Carrier.LastUse
