import Carrier.GoRuntime
import Carrier.LastUse

/-! The cache of `types/lru/cache.go`: a `container/list` of items, the latest used first,
and a map from the keys to the items. An item points to its element in the list. `Get`
evicts before it calls the initialiser. -/
namespace Carrier.LruCache

open GoRuntime TransitionSystem LastUse

structure CacheItem (Value : Type) where
  key : String
  value : Value
  element : Nat
  deriving DecidableEq, Repr

/-- A `list.Element`, named by the order in which they are made. -/
structure Element (Value : Type) where
  pointer : Nat
  item : CacheItem Value
  deriving DecidableEq, Repr

structure Cache (Value : Type) where
  order : List (Element Value)
  items : String → Option (CacheItem Value)
  limit : Int
  made : Nat

variable {Value : Type}

def newCache (limit : Int) : Cache Value :=
  { order := [], items := fun _ => none, limit := limit, made := 0 }

/-- An element that is not in the list is left alone. -/
def moveToFront (order : List (Element Value)) (pointer : Nat) : List (Element Value) :=
  match order.find? (·.pointer = pointer) with
  | none => order
  | some element => element :: order.eraseP (·.pointer = pointer)

namespace Cache

/-- An empty list has no last element to remove. -/
def evict (cache : Cache Value) : Outcome (Cache Value) :=
  match cache.order.getLast? with
  | none => .panic
  | some back =>
      .done { cache with
        order := cache.order.dropLast
        items := Function.update cache.items back.item.key none }

def pushFront (cache : Cache Value) (key : String) (value : Value) : Cache Value :=
  { cache with
    order := ⟨cache.made, ⟨key, value, cache.made⟩⟩ :: cache.order
    items := Function.update cache.items key (some ⟨key, value, cache.made⟩)
    made := cache.made + 1 }

/-- `init` is what the initialiser returns if it is called. The result says whether it
was. -/
def get (cache : Cache Value) (key : String) (init : Except String Value) :
    Outcome ((Except String Value × Bool) × Cache Value) :=
  match cache.items key with
  | some item =>
      .done ((.ok item.value, false), { cache with order := moveToFront cache.order item.element })
  | none =>
      (if cache.limit ≤ cache.order.length then cache.evict else .done cache).map fun cache =>
        match init with
        | .error err => ((.error err, true), cache)
        | .ok value => ((.ok value, true), cache.pushFront key value)

def contents (cache : Cache Value) : List (String × Value) :=
  cache.order.map fun element => (element.item.key, element.item.value)

end Cache

/-! Map, list and pointers. -/

structure Inv (cache : Cache Value) : Prop where
  pointers : (cache.order.map (·.pointer)).Nodup
  keys : (cache.contents.map Prod.fst).Nodup
  items : ∀ key item, cache.items key = some item ↔ item.key = key ∧ ⟨item.element, item⟩ ∈ cache.order
  linked : ∀ element ∈ cache.order, element.item.element = element.pointer
  made : ∀ element ∈ cache.order, element.pointer < cache.made
  bounded : cache.order.length ≤ cache.limit

theorem newCache_inv {limit : Int} (positive : 1 ≤ limit) : Inv (newCache limit : Cache Value) :=
  ⟨List.nodup_nil, List.nodup_nil, by simp [newCache], by simp [newCache], by simp [newCache],
    by simp only [newCache, List.length_nil]; omega⟩

theorem moveToFront_split {before after : List (Element Value)} {element : Element Value}
    (pointers : ((before ++ element :: after).map (·.pointer)).Nodup) :
    moveToFront (before ++ element :: after) element.pointer = element :: (before ++ after) := by
  have apart : ∀ other ∈ before, ¬ other.pointer = element.pointer := by
    intro other member same
    rw [List.map_append] at pointers
    exact (List.nodup_append.mp pointers).2.2 _ (List.mem_map_of_mem member) element.pointer (by simp) same
  have found : (before ++ element :: after).find? (·.pointer = element.pointer) = some element := by
    rw [List.find?_append, List.find?_eq_none.mpr (by simpa using apart)]
    simp
  have erased : (before ++ element :: after).eraseP (·.pointer = element.pointer) = before ++ after := by
    rw [List.eraseP_append_right _ (by simpa using apart), List.eraseP_cons_of_pos (by simp)]
  rw [moveToFront, found, erased]

namespace Inv

variable {cache : Cache Value}

theorem perm (inv : Inv cache) {order : List (Element Value)} (same : cache.order.Perm order) :
    Inv { cache with order := order } where
  pointers := (same.map _).nodup_iff.mp inv.pointers
  keys := ((same.map _).map _).nodup_iff.mp inv.keys
  items key item := by rw [inv.items, same.mem_iff]
  linked element member := inv.linked element (same.mem_iff.mpr member)
  made element member := inv.made element (same.mem_iff.mpr member)
  bounded := by rw [← same.length_eq]; exact inv.bounded

theorem cached_iff (inv : Inv cache) (key : String) :
    cache.items key ≠ none ↔ key ∈ cache.contents.map Prod.fst := by
  simp only [Option.ne_none_iff_exists', inv.items, Cache.contents, List.map_map, List.mem_map, Function.comp]
  constructor
  · rintro ⟨item, same, member⟩
    exact ⟨_, member, same⟩
  · rintro ⟨element, member, same⟩
    refine ⟨element.item, same, ?_⟩
    rw [inv.linked element member]
    exact member

theorem absent_iff (inv : Inv cache) (key : String) :
    cache.items key = none ↔ key ∉ cache.contents.map Prod.fst := by
  rw [← inv.cached_iff, not_not]

theorem split (inv : Inv cache) {key : String} {item : CacheItem Value} (found : cache.items key = some item) :
    item.key = key ∧ ∃ before after, cache.order = before ++ ⟨item.element, item⟩ :: after ∧
      moveToFront cache.order item.element = ⟨item.element, item⟩ :: (before ++ after) := by
  obtain ⟨same, member⟩ := (inv.items key item).mp found
  obtain ⟨before, after, order⟩ := List.append_of_mem member
  refine ⟨same, before, after, order, ?_⟩
  have pointers := inv.pointers
  rw [order] at pointers ⊢
  exact moveToFront_split pointers

theorem evict (inv : Inv cache) {before : List (Element Value)} {back : Element Value}
    (order : cache.order = before ++ [back]) :
    Inv { cache with order := before, items := Function.update cache.items back.item.key none } := by
  obtain ⟨pointers, keys, items, linked, made, bounded⟩ := inv
  simp only [Cache.contents, order, List.map_append, List.map_singleton] at pointers keys
  have kept : ∀ element ∈ before, element ∈ cache.order := fun element member => by
    rw [order]
    exact List.mem_append_left _ member
  have apart : ∀ element ∈ before, element.item.key ≠ back.item.key := fun element member same =>
    (List.nodup_append.mp keys).2.2 element.item.key (by simpa using ⟨element, member, rfl⟩) back.item.key
      (by simp) same
  refine ⟨(List.nodup_append.mp pointers).1, (List.nodup_append.mp keys).1, fun key item => ?_,
    fun element member => linked element (kept element member),
    fun element member => made element (kept element member), ?_⟩
  · by_cases same : key = back.item.key
    · subst same
      simp only [Function.update_self, reduceCtorEq, false_iff, not_and]
      exact fun key member => apart _ member key
    · simp only [Function.update_of_ne same, items, order, List.mem_append, List.mem_singleton]
      constructor
      · rintro ⟨key, member | last⟩
        · exact ⟨key, member⟩
        · exact absurd (by rw [← key, ← last]) same
      · exact fun ⟨key, member⟩ => ⟨key, Or.inl member⟩
  · rw [order, List.length_append] at bounded
    simp only [List.length_singleton] at bounded
    change (before.length : Int) ≤ cache.limit
    omega

theorem pushFront (inv : Inv cache) {key : String} (absent : cache.items key = none) (value : Value)
    (room : cache.order.length < cache.limit) : Inv (cache.pushFront key value) where
  pointers := by
    refine List.nodup_cons.mpr ⟨fun member => ?_, inv.pointers⟩
    obtain ⟨element, there, same⟩ := List.mem_map.mp member
    exact Nat.ne_of_lt (inv.made element there) same
  keys := List.nodup_cons.mpr ⟨(inv.absent_iff key).mp absent, inv.keys⟩
  items other item := by
    by_cases same : other = key
    · subst same
      simp only [Cache.pushFront, Function.update_self, Option.some.injEq, List.mem_cons, Element.mk.injEq]
      constructor
      · rintro rfl
        exact ⟨rfl, Or.inl ⟨rfl, rfl⟩⟩
      · rintro ⟨key, ⟨_, equal⟩ | member⟩
        · exact equal.symm
        · rw [(inv.items other item).mpr ⟨key, member⟩] at absent
          cases absent
    · simp only [Cache.pushFront, Function.update_of_ne same, inv.items, List.mem_cons, Element.mk.injEq]
      constructor
      · exact fun ⟨key, member⟩ => ⟨key, Or.inr member⟩
      · rintro ⟨named, ⟨_, equal⟩ | member⟩
        · rw [equal] at named
          exact absurd named.symm same
        · exact ⟨named, member⟩
  linked element member := by
    rcases List.mem_cons.mp member with rfl | later
    · rfl
    · exact inv.linked element later
  made element member := by
    rcases List.mem_cons.mp member with rfl | later
    · exact Nat.lt_succ_self _
    · exact Nat.lt_succ_of_lt (inv.made element later)
  bounded := by
    simp only [Cache.pushFront, List.length_cons]
    omega

end Inv

inductive Roomy (cache : Cache Value) : Cache Value → Prop where
  | asIs : cache.order.length < cache.limit → Roomy cache cache
  | evicted {before : List (Element Value)} {back : Element Value} : cache.limit ≤ cache.order.length →
      cache.order = before ++ [back] →
      Roomy cache { cache with order := before, items := Function.update cache.items back.item.key none }

theorem Roomy.kept {cache roomy : Cache Value} (room : Roomy cache roomy) (inv : Inv cache) :
    Inv roomy ∧ roomy.order.length < roomy.limit ∧ roomy.limit = cache.limit := by
  cases room with
  | asIs short => exact ⟨inv, short, rfl⟩
  | evicted full order =>
      have bounded := inv.bounded
      refine ⟨inv.evict order, ?_, rfl⟩
      rw [order, List.length_append, List.length_singleton] at bounded
      dsimp only
      omega

theorem Roomy.absent {cache roomy : Cache Value} (room : Roomy cache roomy) {key : String}
    (absent : cache.items key = none) : roomy.items key = none := by
  cases room with
  | asIs _ => exact absent
  | evicted _ _ => simp [Function.update_apply, absent]

section Get

variable {cache : Cache Value}

theorem get_absent (positive : 1 ≤ cache.limit) {key : String} (absent : cache.items key = none)
    (init : Except String Value) :
    ∃ roomy, Roomy cache roomy ∧ cache.get key init = .done (match init with
      | .error err => ((.error err, true), roomy)
      | .ok value => ((.ok value, true), roomy.pushFront key value)) := by
  by_cases full : cache.limit ≤ cache.order.length
  · obtain ⟨back, last⟩ : ∃ back, cache.order.getLast? = some back := by
      cases empty : cache.order with
      | nil =>
          rw [empty, List.length_nil] at full
          omega
      | cons first rest => exact ⟨_, List.getLast?_eq_some_getLast (List.cons_ne_nil first rest)⟩
    obtain ⟨before, order⟩ := List.getLast?_eq_some_iff.mp last
    refine ⟨_, .evicted full order, ?_⟩
    rw [Cache.get, absent]
    simp only [if_pos full, Cache.evict, last]
    rw [order, List.dropLast_concat]
    cases init <;> rfl
  · refine ⟨cache, .asIs (by omega), ?_⟩
    rw [Cache.get, absent]
    simp only [if_neg full]
    cases init <;> rfl

variable (inv : Inv cache)
include inv

theorem get_hit {key : String} {item : CacheItem Value} (found : cache.items key = some item)
    (init : Except String Value) :
    item.key = key ∧ ∃ before after, cache.order = before ++ ⟨item.element, item⟩ :: after ∧
      cache.get key init = .done ((.ok item.value, false),
        { cache with order := ⟨item.element, item⟩ :: (before ++ after) }) := by
  obtain ⟨same, before, after, order, moved⟩ := inv.split found
  exact ⟨same, before, after, order, by rw [Cache.get, found]; dsimp only; rw [moved]⟩

theorem get_inv (positive : 1 ≤ cache.limit) (key : String) (init : Except String Value) :
    ∃ result next, cache.get key init = .done (result, next) ∧ Inv next ∧ next.limit = cache.limit := by
  cases found : cache.items key with
  | some item =>
      obtain ⟨_, before, after, order, got⟩ := get_hit inv found init
      refine ⟨_, _, got, inv.perm ?_, rfl⟩
      rw [order]
      exact List.perm_middle
  | none =>
      obtain ⟨roomy, room, got⟩ := get_absent positive found init
      obtain ⟨kept, short, limit⟩ := room.kept inv
      cases init with
      | error err => exact ⟨_, _, got, kept, limit⟩
      | ok value => exact ⟨_, _, got, kept.pushFront (room.absent found) value short, limit⟩

theorem get_refines (positive : 1 ≤ cache.limit) {map : RecencyMap String Value}
    (represents : Represents map cache.contents) (key : String) (offer : Value) :
    ∃ value ran next after, cache.get key (.ok offer) = .done ((.ok value, ran), next) ∧
      RecencyMap.Gets cache.limit.toNat map ⟨key, offer, value, ran⟩ after ∧
      Represents after next.contents := by
  have size : cache.contents.length = cache.order.length := List.length_map _
  cases found : cache.items key with
  | some item =>
      obtain ⟨rfl, before, after, order, got⟩ := get_hit inv found (.ok offer)
      simp only [Cache.contents, order, List.map_append, List.map_cons] at represents
      have held : map.entries item.key = some item.value := by simp [represents.entries]
      refine ⟨_, _, _, _, got, .hit held, ?_⟩
      simp only [Cache.contents, List.map_cons, List.map_append]
      exact represents.use
  | none =>
      obtain ⟨roomy, room, got⟩ := get_absent positive found (.ok offer)
      have free : map.entries key = none := (represents.absent_iff key).mpr ((inv.absent_iff key).mp found)
      cases room with
      | asIs short =>
          refine ⟨_, _, _, _, got, .miss free ?_, represents.put free offer⟩
          rw [represents.card, size]
          omega
      | @evicted before back full order =>
          have card : cache.limit.toNat ≤ map.cached.ncard := by
            rw [represents.card, size]
            omega
          simp only [Cache.contents, order, List.map_append, List.map_singleton] at represents
          refine ⟨_, _, _, _, got, .evicts free card represents.least, represents.evict.put ?_ offer⟩
          simp [RecencyMap.evict, Function.update_apply, free]

end Get

/-! Runs of `Get`. -/

def Answers (cache : Cache Value) (lookup : Lookup String Value) (next : Cache Value) : Prop :=
  cache.get lookup.key (.ok lookup.offer) = .done ((.ok lookup.value, lookup.ran), next)

theorem refines_run {limit : Int} (positive : 1 ≤ limit) (calls : List (String × Value)) (cache : Cache Value)
    (map : RecencyMap String Value) (inv : Inv cache) (sized : cache.limit = limit)
    (represents : Represents map cache.contents) :
    ∃ trace last after, trace.map (fun lookup => (lookup.key, lookup.offer)) = calls ∧
      Run Answers cache trace last ∧ Run (RecencyMap.Gets limit.toNat) map trace after ∧
      Inv last ∧ last.limit = limit ∧ Represents after last.contents := by
  induction calls generalizing cache map with
  | nil => exact ⟨[], cache, map, rfl, .nil _, .nil _, inv, sized, represents⟩
  | cons call rest ih =>
      obtain ⟨key, offer⟩ := call
      subst sized
      obtain ⟨value, ran, next, now, got, gets, represented⟩ := get_refines inv positive represents key offer
      obtain ⟨_, _, again, kept, limit⟩ := get_inv inv positive key (.ok offer)
      cases got.symm.trans again
      obtain ⟨trace, last, after, same, run, reference, ended⟩ := ih next now kept limit represented
      exact ⟨⟨key, offer, value, ran⟩ :: trace, last, after, by rw [List.map_cons, same],
        .cons got run, .cons gets reference, ended⟩

/-- Every sequence of calls is answered as the reference map answers it, and leaves the
same entries in the same order of use. -/
theorem cache_refines_lru {limit : Int} (positive : 1 ≤ limit) (calls : List (String × Value)) :
    ∃ (trace : List (Lookup String Value)) (last : Cache Value) (map : RecencyMap String Value),
      trace.map (fun lookup => (lookup.key, lookup.offer)) = calls ∧
      Run Answers (newCache limit) trace last ∧
      Run (RecencyMap.Gets limit.toNat) RecencyMap.empty trace map ∧
      Represents map last.contents ∧ (∀ key, (last.items key).map (·.value) = map.entries key) ∧
      (∀ key, last.items key ≠ none ↔ key ∈ last.contents.map Prod.fst) ∧
      (last.contents.map Prod.fst).Nodup ∧ last.order.length ≤ limit := by
  obtain ⟨trace, last, map, same, run, reference, inv, sized, represents⟩ :=
    refines_run positive calls (newCache limit) .empty (newCache_inv positive) rfl represents_empty
  refine ⟨trace, last, map, same, run, reference, represents, fun key => ?_, inv.cached_iff, inv.keys,
    sized ▸ inv.bounded⟩
  cases found : last.items key with
  | none => exact ((represents.absent_iff key).mpr ((inv.absent_iff key).mp found)).symm
  | some item =>
      obtain ⟨named, member⟩ := (inv.items key item).mp found
      refine ((represents.entries key item.value).mpr ?_).symm
      exact List.mem_map.mpr ⟨_, member, by rw [← named]⟩

/-- Four calls with three keys, in a cache for two. -/
theorem cache_refines_lru_two :
    ∃ (trace : List (Lookup String Nat)) (last : Cache Nat) (map : RecencyMap String Nat),
      trace.map (fun lookup => (lookup.key, lookup.offer)) = [("a", 1), ("b", 2), ("a", 3), ("c", 4)] ∧
      Run Answers (newCache 2) trace last ∧ Run (RecencyMap.Gets 2) RecencyMap.empty trace map ∧
      Represents map last.contents := by
  obtain ⟨trace, last, map, same, run, reference, represents, _⟩ :=
    cache_refines_lru (by decide : (1 : Int) ≤ 2) [("a", 1), ("b", 2), ("a", 3), ("c", 4)]
  exact ⟨trace, last, map, same, run, reference, represents⟩

/-! Initialisers that fail. -/

def Calls (cache : Cache Value) (call : String × Except String Value) (next : Cache Value) : Prop :=
  ∃ result, cache.get call.1 call.2 = .done (result, next)

theorem calls_inv {limit : Int} (positive : 1 ≤ limit) {calls : List (String × Except String Value)}
    {cache : Cache Value} (run : Run Calls (newCache limit) calls cache) : Inv cache ∧ cache.limit = limit := by
  refine run.invariant (fun cache => Inv cache ∧ cache.limit = limit) ?_ ⟨newCache_inv positive, rfl⟩
  rintro before call after ⟨result, got⟩ ⟨inv, rfl⟩
  obtain ⟨_, _, again, kept, limit⟩ := get_inv inv positive call.1 call.2
  cases got.symm.trans again
  exact ⟨kept, limit⟩

def Cache.front (cache : Cache Value) : Option String := cache.contents.head?.map Prod.fst

/-- In every cache that was reached: a `Get` with a failing initialiser leaves it as it
was exactly if there was room for the key, or no need of the initialiser because the key
is the one used last. -/
theorem failed_get_keeps_iff {limit : Int} (positive : 1 ≤ limit) {calls : List (String × Except String Value)}
    {cache : Cache Value} (run : Run Calls (newCache limit) calls cache) (key err : String) :
    ∃ result next, cache.get key (.error err) = .done (result, next) ∧
      (result = (.error err, true) ↔ cache.items key = none) ∧
      ((next.contents = cache.contents ∧ next.items = cache.items) ↔
        (cache.items key = none ∧ cache.order.length < limit) ∨ cache.front = some key) := by
  obtain ⟨inv, sized⟩ := calls_inv positive run
  subst sized
  cases found : cache.items key with
  | some item =>
      obtain ⟨rfl, before, after, order, got⟩ := get_hit inv found (.error err)
      refine ⟨_, _, got, by simp, ?_⟩
      simp only [Cache.contents, Cache.front, order, reduceCtorEq, false_and, false_or, and_true]
      cases before with
      | nil => simp
      | cons first rest =>
          have apart : first.item.key ≠ item.key := by
            have keys := inv.keys
            simp only [Cache.contents, order, List.cons_append, List.map_cons, List.nodup_cons] at keys
            exact fun same => keys.1 (by rw [same]; simp)
          simp [apart, apart.symm]
  | none =>
      obtain ⟨roomy, room, got⟩ := get_absent positive found (.error err)
      refine ⟨_, _, got, by simp, ?_⟩
      have elsewhere : cache.front ≠ some key := by
        intro front
        obtain ⟨entry, first, rfl⟩ := Option.map_eq_some_iff.mp front
        exact (inv.absent_iff _).mp found (List.mem_map_of_mem (List.mem_of_mem_head? first))
      simp only [true_and, elsewhere, or_false]
      cases room with
      | asIs short => simp [short]
      | evicted full order =>
          constructor
          · rintro ⟨same, _⟩
            have lengths := congrArg List.length same
            simp [Cache.contents, order] at lengths
          · intro short
            omega

/-- With room left, a failing `Get` changes nothing. -/
theorem failed_get_keeps_roomy :
    ∃ (cache next : Cache Nat) (result : Except String Nat × Bool), Run Calls (newCache 2) [("a", .ok 1)] cache ∧
      cache.get "b" (.error "no such host") = .done (result, next) ∧ next.contents = cache.contents := by
  obtain ⟨cache, run, free, short⟩ : ∃ cache : Cache Nat, Run Calls (newCache 2) [("a", .ok 1)] cache ∧
      cache.items "b" = none ∧ (cache.order.length : Int) < 2 :=
    ⟨_, .cons ⟨_, rfl⟩ (.nil _), rfl, by decide⟩
  obtain ⟨result, next, got, _, kept⟩ := failed_get_keeps_iff (by decide) run "b" "no such host"
  exact ⟨cache, next, result, run, got, (kept.mpr (Or.inl ⟨free, short⟩)).1⟩

/-- A full cache loses its last entry to a key that it does not get. -/
theorem failed_get_evicts :
    ∃ cache next : Cache Nat, Run Calls (newCache 1) [("a", .ok 1)] cache ∧ cache.contents = [("a", 1)] ∧
      cache.get "b" (.error "no such host") = .done ((.error "no such host", true), next) ∧
      next.contents = [] :=
  ⟨_, _, .cons ⟨_, rfl⟩ (.nil _), rfl, rfl, rfl⟩

end Carrier.LruCache
