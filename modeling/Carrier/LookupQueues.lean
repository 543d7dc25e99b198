import Carrier.NodeLookup

/-! The queues of a node lookup, `components/discovery/rpc.go`: how `FindNode` deals the
closest peers out to them, and what the sort in `performLookupClosest` makes of a queue
after each answer. The sort swaps entries of the queue but compares entries of
`results`, at the same positions. -/
namespace Carrier.LookupQueues

open GoRuntime Identity Routes SortSlice ClosestPeers TransitionSystem NodeLookup

/-! Dealing. -/

/-- Every returned peer other than the node is in one queue, once for each time it was
returned, and as often in the results. -/
structure Dealt (node : ID) (disjointPaths : Nat) (closest : List ID) (lookups : List LookupBucket)
    (results : List ID) : Prop where
  few : lookups.length ≤ disjointPaths
  queued : ∀ peer, node.equals peer = false → (lookups.flatMap (·.queue)).count peer = closest.count peer
  listed : ∀ peer, node.equals peer = false → results.count peer = closest.count peer

theorem queues_set (lookups : List LookupBucket) (i : Nat) (lookup : LookupBucket)
    (opened : lookups[i]? = some lookup) (peer : ID) :
    ((lookups.set i { lookup with queue := lookup.queue ++ [peer] }).flatMap (·.queue)).Perm
      (lookups.flatMap (·.queue) ++ [peer]) := by
  induction lookups generalizing i with
  | nil => cases opened
  | cons first rest ih =>
      cases i with
      | zero =>
          obtain rfl : first = lookup := by simpa using opened
          simp only [List.set_cons_zero, List.flatMap_cons, List.append_assoc]
          exact List.Perm.append_left _ List.perm_append_comm
      | succ i =>
          have tail := ih i (by simpa using opened)
          simp only [List.set_cons_succ, List.flatMap_cons, List.append_assoc]
          exact tail.append_left _

theorem queues_openLookup (disjointPaths : Nat) (lookups : List LookupBucket) :
    (openLookup disjointPaths lookups).flatMap (·.queue) = lookups.flatMap (·.queue) := by
  unfold openLookup
  split <;> simp

theorem openLookup_length_le (disjointPaths : Nat) {lookups : List LookupBucket}
    (few : lookups.length ≤ disjointPaths) : (openLookup disjointPaths lookups).length ≤ disjointPaths := by
  unfold openLookup
  split
  · rw [List.length_append, List.length_singleton]
    omega
  · exact few

theorem distribute_queues {node : ID} {disjointPaths start : Nat} {rest : List ID} {dealt final : Distribution}
    (done : distribute node disjointPaths start rest dealt = .done final)
    (few : dealt.lookups.length ≤ disjointPaths) :
    (final.lookups.flatMap (·.queue)).Perm
        (dealt.lookups.flatMap (·.queue) ++ rest.filter (·.address ≠ node.address)) ∧
      final.lookups.length ≤ disjointPaths := by
  induction rest generalizing start dealt with
  | nil =>
      simp only [distribute, Outcome.done.injEq] at done
      subst done
      simpa using few
  | cons peer rest ih =>
      by_cases own : peer.address = node.address
      · rw [distribute, if_pos own] at done
        simpa [own] using ih done few
      · rw [distribute, if_neg own] at done
        have opened := openLookup_length_le disjointPaths few
        have same := queues_openLookup disjointPaths dealt.lookups
        generalize openLookup disjointPaths dealt.lookups = lookups at done opened same
        dsimp only at done
        split at done
        · cases done
        · rename_i lookup found
          obtain ⟨queues, bound⟩ := ih done (by simpa using opened)
          refine ⟨queues.trans ?_, bound⟩
          have added := (queues_set lookups _ lookup found peer).append_right
            (rest.filter (·.address ≠ node.address))
          rw [same] at added
          simpa [own] using added

/-- The dealing loop of `FindNode`, on whatever list the table gives it. It deals right
exactly where every index hits and no other peer has the node's address. The peers of a
reached table are pairwise different, so that each of them is then in one queue. -/
theorem findNode_deals_iff (config : Config) (routes : RoutingTable) (closest : List ID)
    (found : findClosestPeers config.sorter routes config.target config.alpha = .done closest)
    (disjointPaths : Nat) (positive : 0 < disjointPaths) :
    ((∃ start, findNode config routes disjointPaths = .done start ∧
        Dealt config.node disjointPaths closest start.waiting start.results) ↔
      Dealable config.node disjointPaths closest ∧
        ∀ peer ∈ closest, config.node.equals peer = false → peer.address ≠ config.node.address) ∧
    ∀ self ops, history self ops = .done routes → closest.Nodup := by
  obtain ⟨gets, shape⟩ := findNode_eq found disjointPaths positive
  refine ⟨⟨?_, ?_⟩, ?_⟩
  · rintro ⟨start, started, dealt⟩
    refine ⟨gets.mp ⟨start, started⟩, fun peer member other address => ?_⟩
    obtain ⟨final, ended, rfl⟩ := shape start started
    -- a skipped peer is not in the results
    have results := (distribute_spec ended (by simp)).2.1
    have missing : final.results.count peer = 0 := by
      rw [results, List.count_eq_zero]
      simp [address]
    have listed := dealt.listed peer other
    rw [missing] at listed
    exact List.count_eq_zero.mp listed.symm member
  · rintro ⟨dealable, others⟩
    obtain ⟨start, started⟩ := gets.mpr dealable
    obtain ⟨final, ended, rfl⟩ := shape start started
    obtain ⟨queues, few⟩ := distribute_queues ended (Nat.zero_le _)
    have results := (distribute_spec ended (by simp)).2.1
    have kept : ∀ peer, config.node.equals peer = false →
        (closest.filter (·.address ≠ config.node.address)).count peer = closest.count peer := by
      intro peer other
      by_cases member : peer ∈ closest
      · exact List.count_filter (by simpa using others peer member other)
      · rw [List.count_eq_zero.mpr member, List.count_eq_zero]
        exact fun inside => member (List.mem_filter.mp inside).1
    refine ⟨_, started, few, fun peer other => ?_, fun peer other => ?_⟩
    · rw [queues.count_eq]
      simpa using kept peer other
    · rw [results]
      simpa using kept peer other
  · intro self ops reached
    obtain ⟨owner, valid⟩ := history_valid reached
    by_cases same : config.target.id.length = routes.self.id.length
    · rcases Int.lt_or_le config.alpha 0 with negative | natural
      · rcases findClosestPeers_length found with rfl | cut
        · exact List.nodup_nil
        · omega
      · obtain ⟨last, gathered, returned, window, _⟩ :=
          findClosestPeers_spec valid config.target config.sorter same config.alpha natural
        rw [found] at returned
        cases returned
        exact (List.take_sublist _ _).nodup window.nodup
    · rw [findClosestPeers, if_pos fun equal => same equal.symm] at found
      cases found
      exact List.nodup_nil

/-- The owner looks for its contact, and is itself the last of the closest. -/
theorem findNode_deals_iff_last :
    findClosestPeers insertionSorter smallTable smallContact 2 = .done [smallContact, smallOwner] ∧
    ∃ start, findNode { smallConfig with target := smallContact } smallTable 2 = .done start ∧
      Dealt smallOwner 2 [smallContact, smallOwner] start.waiting start.results := by
  have found : findClosestPeers insertionSorter smallTable smallContact 2 =
      .done [smallContact, smallOwner] := by decide
  refine ⟨found, (findNode_deals_iff { smallConfig with target := smallContact } smallTable
    [smallContact, smallOwner] found 2 (by decide)).1.mpr ⟨?_, by decide⟩⟩
  intro i peer there other
  match i with
  | 0 =>
      decide
  | 1 =>
      obtain rfl : smallOwner = peer := by simpa using there
      exact absurd rfl other
  | i + 2 => simp at there

def twinContact : ID := { smallContact with address := smallOwner.address }

/-- The owner looks for itself and comes first: the second peer is to go into a second
queue, but only one has been opened. With one queue, a contact that shares the owner's
address is in no queue. -/
theorem findNode_deals_wrong :
    (history smallOwner [.update smallContact] = .done smallTable ∧
      findClosestPeers insertionSorter smallTable smallOwner 2 = .done [smallOwner, smallContact] ∧
      findNode { smallConfig with target := smallOwner } smallTable 2 = .panic) ∧
    ∃ routes start, history smallOwner [.update twinContact] = .done routes ∧
      findClosestPeers insertionSorter routes twinContact 2 = .done [twinContact, smallOwner] ∧
      findNode { smallConfig with target := twinContact } routes 1 = .done start ∧
      start.waiting = [] ∧ start.results = [] ∧ smallOwner.equals twinContact = false :=
  ⟨by decide, _, _, rfl, by decide, rfl, rfl, rfl, rfl⟩

/-! Sorting a queue and scheduling from it. -/

/-- The nearest of a pool in increasing distance, at most a bucket of them. What is
left out is not nearer than what is kept. -/
structure Closest (target : ID) (pool queue : List ID) : Prop where
  size : queue.length = min bucketSize pool.length
  ordered : Ordered (closer target) queue
  rest : ∃ rest, (queue ++ rest).Perm pool ∧ ∀ out ∈ rest, ∀ kept ∈ queue, closer target out kept = false

theorem closest_of_ordered {target : ID} {pool sorted : List ID} (perm : sorted.Perm pool)
    (ordered : Ordered (closer target) sorted) : Closest target pool (sorted.take bucketSize) := by
  refine ⟨by rw [List.length_take, perm.length_eq], ordered.sublist (List.take_sublist _ _),
    sorted.drop bucketSize, by rwa [List.take_append_drop], fun out outside kept inside => ?_⟩
  exact ordered_cut sorted ordered bucketSize kept out inside outside

/-- The queries a turn has started went to the nearest peers of the queue that were not
visited, and as many as may be pending. -/
structure Scheduled (config : Config) (search next : Search) (active : Active) : Prop where
  sent : ∃ extra, next.sent = search.sent ++ extra ∧ extra ⊆ active.queue ∧
    (∀ peer ∈ extra, peer.publicKeyHex ∉ search.visited) ∧
    ∀ peer ∈ extra, ∀ other ∈ active.queue, other.publicKeyHex ∉ next.visited →
      closer config.target other peer = false
  full : ∀ other ∈ active.queue, other.publicKeyHex ∉ next.visited → config.alpha ≤ active.pending

theorem schedule_visited (alpha : Int) (queue : List ID) (plan : Schedule) {key : String}
    (seen : key ∈ plan.visited) : key ∈ (schedule alpha queue plan).visited := by
  obtain ⟨extra, scheduled, _⟩ := schedule_spec alpha queue plan
  rw [scheduled]
  exact List.mem_append_left _ seen

theorem schedule_nearest {lt : ID → ID → Bool} (alpha : Int) (queue : List ID) (plan : Schedule)
    (ordered : Ordered lt queue) :
    ∃ extra, (schedule alpha queue plan).sent = plan.sent ++ extra ∧ extra ⊆ queue ∧
      (∀ peer ∈ extra, peer.publicKeyHex ∉ plan.visited) ∧
      ∀ peer ∈ extra, ∀ other ∈ queue, other.publicKeyHex ∉ (schedule alpha queue plan).visited →
        lt other peer = false := by
  induction queue generalizing plan with
  | nil => exact ⟨[], by simp [schedule]⟩
  | cons first rest ih =>
      obtain ⟨head, tail⟩ := List.pairwise_cons.mp ordered
      by_cases room : plan.active.pending < alpha
      · by_cases seen : first.publicKeyHex ∈ plan.visited
        · have step : schedule alpha (first :: rest) plan = schedule alpha rest plan := by
            simp [schedule, room, seen]
          obtain ⟨extra, sent, subset, unseen, nearest⟩ := ih plan tail
          rw [step]
          refine ⟨extra, sent, fun peer member => List.mem_cons_of_mem _ (subset member), unseen, ?_⟩
          intro peer chosen other member unvisited
          rcases List.mem_cons.mp member with rfl | later
          · exact absurd (schedule_visited alpha rest plan seen) unvisited
          · exact nearest peer chosen other later unvisited
        · -- the first peer is asked; every later one is no nearer
          have step : schedule alpha (first :: rest) plan = schedule alpha rest
              { visited := plan.visited ++ [first.publicKeyHex]
                active := { plan.active with
                  flying := plan.active.flying ++ [first]
                  pending := plan.active.pending + 1 }
                sent := plan.sent ++ [first] } := by
            simp [schedule, room, seen]
          obtain ⟨extra, sent, subset, unseen, nearest⟩ := ih _ tail
          rw [step]
          refine ⟨first :: extra, by rw [sent]; simp, List.cons_subset_cons first subset, ?_, ?_⟩
          · intro peer chosen
            rcases List.mem_cons.mp chosen with rfl | later
            · exact seen
            · exact fun old => unseen peer later (List.mem_append_left _ old)
          · intro peer chosen other member unvisited
            rcases List.mem_cons.mp member with rfl | later
            · exact absurd (schedule_visited alpha rest _ (by simp)) unvisited
            · rcases List.mem_cons.mp chosen with rfl | other'
              · exact head other later
              · exact nearest peer other' other later unvisited
      · exact ⟨[], by simp [schedule, room], by simp, by simp, by simp⟩

theorem schedule_full (alpha : Int) (queue : List ID) (plan : Schedule) (other : ID) (member : other ∈ queue)
    (unvisited : other.publicKeyHex ∉ (schedule alpha queue plan).visited) :
    alpha ≤ (schedule alpha queue plan).active.pending := by
  induction queue generalizing plan with
  | nil => cases member
  | cons first rest ih =>
      rw [schedule] at unvisited ⊢
      split
      · rename_i room
        rw [if_pos room] at unvisited
        split
        · rename_i seen
          rw [if_pos seen] at unvisited
          rcases List.mem_cons.mp member with rfl | later
          · exact absurd (schedule_visited alpha rest plan seen) unvisited
          · exact ih plan later unvisited
        · rename_i new
          rw [if_neg new] at unvisited
          rcases List.mem_cons.mp member with rfl | later
          · exact absurd (schedule_visited alpha rest _ (by simp)) unvisited
          · exact ih _ later unvisited
      · omega

theorem schedule_queue (alpha : Int) (queue : List ID) (plan : Schedule) :
    (schedule alpha queue plan).active.queue = plan.active.queue := by
  obtain ⟨extra, scheduled, _⟩ := schedule_spec alpha queue plan
  rw [scheduled]

/-- What is promised of the answer to a query: afterwards the queue is the nearest part
of what was in it and what was reported, and the next queries go to the nearest peers. -/
def Right (config : Config) (active : Active) (reply : Reply) (search next : Search) : Prop :=
  ∃ after, next.active = some after ∧ Closest config.target (pool active reply) after.queue ∧
    Scheduled config search next after

/-- Where the sort cannot go wrong: all peers of the queue are equally far, or there is
nothing to move, because the few peers of the queue and those read in their place are
in order as they stand. -/
def Settled (target : ID) (pool compared : List ID) : Prop :=
  (∀ left ∈ pool, ∀ right ∈ pool, closer target left right = false) ∨
    (pool.length ≤ 12 ∧ Ordered (closer target) pool ∧ Ordered (closer target) (compared.take pool.length))

theorem sort_ordered {target : ID} {pool compared : List ID} (settled : Settled target pool compared)
    (short : pool.length ≤ compared.length) (sorter : Sorter ID) (steady : Steady sorter) :
    Ordered (closer target) (sorter.sort (fun _ => byElement (closer target) compared) pool) := by
  rcases settled with alike | ⟨few, ordered, still⟩
  · have perm := sorter.perm (fun _ => byElement (closer target) compared) pool
    refine List.pairwise_of_forall_mem_list fun left leftMember right rightMember => ?_
    exact alike right (perm.mem_iff.mp rightMember) left (perm.mem_iff.mp leftMember)
  · rwa [steady _ _ few ((inOrder_iff _ _ _ short).mpr still)]

theorem settled_of_closest {target : ID} {pool compared : List ID} (short : pool.length ≤ compared.length)
    (always : ∀ sorter : Sorter ID, Steady sorter → Closest target pool
      ((sorter.sort (fun _ => byElement (closer target) compared) pool).take bucketSize)) :
    Settled target pool compared := by
  by_cases alike : ∀ left ∈ pool, ∀ right ∈ pool, closer target left right = false
  · exact Or.inl alike
  right
  by_cases still : pool.length ≤ 12 ∧ Ordered (closer target) (compared.take pool.length)
  · have sorted := (always insertionSorter insertionSorter_steady).ordered
    rw [insertionSorter_steady _ _ still.1 ((inOrder_iff _ _ _ short).mpr still.2),
      List.take_of_length_le (Nat.le_trans still.1 (by decide))] at sorted
    exact ⟨still.1, sorted, still.2⟩
  · -- put the farther of two peers first
    exfalso
    obtain ⟨near, far, nearMember, farMember, below⟩ :
        ∃ near far, near ∈ pool ∧ far ∈ pool ∧ closer target near far = true := by
      simpa using alike
    have different : near ≠ far := by
      rintro rfl
      rw [(closer_strictWeak target).irrefl near] at below
      cases below
    have inside : near ∈ pool.erase far := (List.mem_erase_of_ne different).mpr nearMember
    have perm : (far :: near :: (pool.erase far).erase near).Perm pool :=
      ((List.perm_cons_erase inside).symm.cons far).trans (List.perm_cons_erase farMember).symm
    have ordered := (always (wilful (far :: near :: (pool.erase far).erase near)) (wilful_steady _)).ordered
    rw [wilful_sort _ _ _ perm fun moves => still ⟨moves.1, (inOrder_iff _ _ _ short).mp moves.2⟩] at ordered
    have first := (List.pairwise_cons.mp ordered).1 near (by simp)
    rw [below] at first
    cases first

/-! Whole runs. -/

structure Ready (config : Config) (search : Search) : Prop where
  valid : Valid search.routes
  idle : ∀ lookup ∈ search.waiting, lookup.pending = 0
  short : ∀ lookup ∈ search.waiting, lookup.queue.length ≤ config.alpha
  indexed : ∀ active, search.active = some active → active.queue.length ≤ active.results.length

theorem harmless_of_received {config : Config} {search next : Search} {active : Active} {index : Nat} {peer : ID}
    {reply : Reply} (valid : Valid search.routes)
    (received : receive config search active index peer reply = .done next) :
    Harmless config.env search.routes.self peer reply := by
  by_contra harmful
  rw [receive_panic config index valid harmful] at received
  cases received

theorem Ready.step {config : Config} {search next : Search} {event : Event} (ready : Ready config search)
    (step : Step config search event (.done next)) : Ready config next := by
  generalize ended : Outcome.done next = outcome at step
  cases step with
  | begin free found =>
      cases ended
      have member := List.mem_of_getElem? found
      rw [performLookupClosest_eq config.alpha _ (ready.idle _ member) (ready.short _ member)]
      refine ⟨ready.valid, ?_, ?_, ?_⟩
      · exact fun other kept => ready.idle other (List.mem_of_mem_eraseIdx kept)
      · exact fun other kept => ready.short other (List.mem_of_mem_eraseIdx kept)
      · rintro active ⟨rfl⟩
        exact Nat.le_refl _
  | finish running drained =>
      cases ended
      exact ⟨ready.valid, ready.idle, ready.short, by simp⟩
  | @answer active index peer reply running waiting found =>
      obtain ⟨routes, queue, extra, received, _, valid, _, length, _⟩ := receive_spec config index ready.valid
        (ready.indexed _ running) (harmless_of_received ready.valid ended.symm)
      rw [received] at ended
      cases ended
      refine ⟨valid, ready.idle, ready.short, ?_⟩
      rintro active ⟨rfl⟩
      exact length

theorem ready_start {config : Config} {self : ID} {ops : List Op} {routes : RoutingTable}
    (reached : history self ops = .done routes) {disjointPaths : Nat} (positive : 0 < disjointPaths)
    {start : Search} (started : findNode config routes disjointPaths = .done start) : Ready config start := by
  obtain ⟨closest, found, _⟩ := Outcome.bind_eq_done.mp started
  obtain ⟨inv, _⟩ := start_invariant positive (history_valid reached).2 found started []
  exact ⟨inv.valid, inv.idle, inv.short, inv.indexed⟩

/-- In every search, the next answer that is processed leaves the right queue, whatever
sort the library has, exactly when the sort cannot go wrong. -/
theorem queue_closest_iff (config : Config) (self : ID) (ops : List Op) (routes : RoutingTable)
    (reached : history self ops = .done routes) (disjointPaths : Nat) (positive : 0 < disjointPaths)
    (start : Search) (started : findNode config routes disjointPaths = .done start) (events : List Event)
    (search : Search)
    (run : Run (fun before event after => Step config before event (.done after)) start events search)
    (active : Active) (running : search.active = some active) (index : Nat) (peer : ID) (reply : Reply)
    (processed : ∃ next, receive config search active index peer reply = .done next) :
    (∀ sorter, Steady sorter → ∀ next,
        receive { config with sorter := sorter } search active index peer reply = .done next →
        Right config active reply search next) ↔
      Settled config.target (pool active reply) (compared active reply) := by
  have ready := run.invariant (Ready config) (fun _ _ _ step kept => kept.step step)
    (ready_start reached positive started)
  have indexed := ready.indexed active running
  obtain ⟨_, done⟩ := processed
  have harmless := harmless_of_received ready.valid done
  have short : (pool active reply).length ≤ (compared active reply).length := by
    simp only [pool, compared, List.length_append]
    omega
  constructor
  · intro always
    refine settled_of_closest short fun sorter steady => ?_
    obtain ⟨_, plan, planned, received, _⟩ := receive_eq { config with sorter := sorter } index ready.valid
      indexed harmless
    obtain ⟨after, same, closest, _⟩ := always sorter steady _ received
    cases same
    rwa [planned, schedule_queue] at closest
  · intro settled sorter steady next received
    obtain ⟨_, plan, planned, turned, _⟩ := receive_eq { config with sorter := sorter } index ready.valid
      indexed harmless
    rw [turned] at received
    cases received
    have ordered := sort_ordered settled short sorter steady
    have closest := closest_of_ordered (sorter.perm _ _) ordered
    have queue := schedule_queue config.alpha (sorted { config with sorter := sorter } active index reply).queue
      ⟨search.visited, sorted { config with sorter := sorter } active index reply, search.sent⟩
    obtain ⟨extra, sent, subset, unseen, nearest⟩ := schedule_nearest config.alpha _
      ⟨search.visited, sorted { config with sorter := sorter } active index reply, search.sent⟩ closest.ordered
    subst planned
    refine ⟨_, rfl, by rw [queue]; exact closest, ⟨extra, sent, ?_, unseen, ?_⟩, ?_⟩
    · rw [queue]
      exact subset
    · rw [queue]
      exact nearest
    · rw [queue]
      exact fun other member unvisited => schedule_full config.alpha _ _ other member unvisited

/-! One query at a time from the small table. Contacts are named after their distance
from the target. -/

def narrowConfig : Config := { smallConfig with alpha := 1 }

def contactAt (distance : UInt8) : ID := plainID "tcp://10.0.0.6:1" [0x80 ^^^ distance]

def narrowStart : Search :=
  { routes := smallTable, visited := ["40", "00"], waiting := [⟨0, [smallContact]⟩], active := none
    results := [smallContact], sent := [], answered := 0, stranded := [], log := [] }

def narrowLookup : Active := performLookupClosest 1 ⟨0, [smallContact]⟩

def narrowBegun : Search := { narrowStart with waiting := [], active := some narrowLookup }

/-- Two contacts reported in order are left in order. -/
theorem queue_closest_iff_in_order :
    findNode narrowConfig smallTable 1 = .done narrowStart ∧
    Run (fun before event after => Step narrowConfig before event (.done after)) narrowStart [.begin 0]
      narrowBegun ∧
    ∀ sorter, Steady sorter → ∀ next,
      receive { narrowConfig with sorter := sorter } narrowBegun narrowLookup 0 smallContact
        (.peers .cached [(contactAt 1, .connected), (contactAt 2, .connected)]) = .done next →
      Right narrowConfig narrowLookup (.peers .cached [(contactAt 1, .connected), (contactAt 2, .connected)])
        narrowBegun next := by
  have started : findNode narrowConfig smallTable 1 = .done narrowStart := by decide
  have run : Run (fun before event after => Step narrowConfig before event (.done after)) narrowStart [.begin 0]
      narrowBegun := .cons (.begin rfl rfl) (.nil _)
  refine ⟨started, run, (queue_closest_iff narrowConfig smallOwner [.update smallContact] smallTable (by decide)
    1 (by decide) narrowStart started [.begin 0] narrowBegun run narrowLookup rfl 0 smallContact
    (.peers .cached [(contactAt 1, .connected), (contactAt 2, .connected)]) ⟨_, rfl⟩).mpr (Or.inr ?_)⟩
  exact ⟨by decide, by decide, by decide⟩

/-- Reported in the order 2, 3, 1, the contacts end up as 2, 1, 3: the nearest one is
not the first and the query goes to another. -/
theorem queue_not_closest :
    findNode narrowConfig smallTable 1 = .done narrowStart ∧
    ∃ search active, Run (fun before event after => Step narrowConfig before event (.done after)) narrowStart
        [.begin 0, .answer 0 (.peers .cached [(contactAt 2, .connected), (contactAt 3, .connected),
          (contactAt 1, .connected)])] search ∧
      search.active = some active ∧ active.queue = [contactAt 2, contactAt 1, contactAt 3] ∧
      closer narrowConfig.target (contactAt 1) (contactAt 2) = true ∧ search.sent = [contactAt 2] ∧
      (contactAt 1).publicKeyHex ∉ search.visited := by
  refine ⟨by decide, _, _, .cons (.begin rfl rfl) (.cons
    (.of_receive (rfl : narrowBegun.active = some narrowLookup) (by decide) rfl rfl) (.nil _)), rfl, ?_⟩
  exact ⟨by decide, by decide, by decide, by decide⟩

end Carrier.LookupQueues
