import Carrier.ClosestPeers
import Carrier.ConnMgr
import Carrier.TransitionSystem

/-! The iterative node lookup of `components/discovery/rpc.go`. `FindNode` deals
the closest known peers out to at most `disjointPaths` lookups; each lookup runs
`performLookupClosest` under one mutex and shares the visited map with the others.
A step of the search is a lookup taking the mutex, the delivery of one answer to
the lookup holding it, or that lookup returning. Which query answers next, and
with what, is left to the step's label.

Every lookup sends and receives on a channel of its own, so a query is either in
flight for the lookup that holds the mutex or has been received by it. The node listens,
so that `Bootstrap` does not wait for that. Bandwidth reports and logging are left out. -/
namespace Carrier.NodeLookup

open GoRuntime Identity Address Routes SortSlice ClosestPeers TransitionSystem
open ConnMgr (Env dial)

structure Config where
  env : Env
  node : ID
  target : ID
  alpha : Int
  sorter : Sorter ID

structure LookupBucket where
  pending : Int
  queue : List ID
  deriving DecidableEq, Repr

/-! Dealing out the closest peers. -/

structure Distribution where
  lookups : List LookupBucket
  results : List ID
  visited : List String
  deriving DecidableEq, Repr

def openLookup (disjointPaths : Nat) (lookups : List LookupBucket) : List LookupBucket :=
  if lookups.length < disjointPaths then lookups ++ [{ pending := 0, queue := [] }] else lookups

/-- The range loop of `FindNode`. The lookup is picked by the position in the
whole list, while lookups are only opened for peers other than the node, so the
index may miss. -/
def distribute (node : ID) (disjointPaths : Nat) : Nat → List ID → Distribution → Outcome Distribution
  | _, [], dealt => .done dealt
  | i, peer :: rest, dealt =>
      let visited := dealt.visited ++ [peer.publicKeyHex]
      if peer.address = node.address then
        distribute node disjointPaths (i + 1) rest { dealt with visited := visited }
      else
        let lookups := openLookup disjointPaths dealt.lookups
        match lookups[i % disjointPaths]? with
        | none => .panic
        | some lookup =>
            distribute node disjointPaths (i + 1) rest
              { lookups := lookups.set (i % disjointPaths)
                  { lookup with queue := lookup.queue ++ [peer] }
                results := dealt.results ++ [peer]
                visited := visited }

/-! One lookup. -/

/-- How the goroutine of a query came by a client: without `Network.Dial`, be it that
there was one or that there is an error before, or with it. -/
inductive Link where
  | cached
  | dialled
  deriving DecidableEq, Repr

/-- What became of one peer reported in a `LookupNodeResponse`: it has a client
already, answered the bootstrap, or did not. -/
inductive Presence where
  | connected
  | bootstrapped (link : Link)
  | offline (link : Link)
  deriving DecidableEq, Repr

/-- `failed` stands for an error of `Client`, a timeout and a reply of another type. -/
inductive Reply where
  | failed (link : Link)
  | peers (link : Link) (reported : List (ID × Presence))
  deriving DecidableEq, Repr

/-- `Dial` of the unified address does not panic. -/
def dialable (env : Env) (address : String) : Bool :=
  match toUnifiedAddress env.resolver address with
  | none => true
  | some unified => dial env unified none ≠ .panic

def Link.safe (env : Env) (address : String) : Link → Bool
  | .cached => true
  | .dialled => dialable env address

/-- `Bootstrap` hands on the address that `FilterPeers` has unified. -/
def Presence.safe (env : Env) (address : String) : Presence → Bool
  | .connected => true
  | .bootstrapped link | .offline link => link.safe env ((toUnifiedAddress env.resolver address).getD address)

def delivered : Reply → List ID
  | .failed _ => []
  | .peers _ reported => (reported.filter fun entry => entry.2 matches .connected | .bootstrapped _).map Prod.fst

def queryPeerByIDExt (env : Env) (routes : RoutingTable) (peer : ID) : Reply → Outcome (RoutingTable × List ID)
  | .failed link => if link.safe env peer.address then .done (routes, []) else .panic
  | .peers link reported => if link.safe env peer.address then go routes [] reported else .panic
where
  go (routes : RoutingTable) (validPeers : List ID) :
      List (ID × Presence) → Outcome (RoutingTable × List ID)
    | [] => .done (routes, validPeers)
    | (peer, presence) :: rest =>
        if presence.safe env peer.address then
          match presence with
          | .connected => go routes (validPeers ++ [peer]) rest
          | .bootstrapped _ => (routes.update peer).bind fun routes => go routes (validPeers ++ [peer]) rest
          | .offline _ => go routes validPeers rest
        else .panic

/-- A lookup inside `performLookupClosest`. `batch` and `answers` only record
what it started from and what it received. -/
structure Active where
  pending : Int
  queue : List ID
  known : List String
  flying : List ID
  results : List ID
  batch : List ID
  answers : List (List ID)
  deriving DecidableEq, Repr

/-- The first loop: query the head of the queue while fewer than alpha are out. -/
def launch (alpha : Int) (active : Active) : List ID → Active
  | [] => { active with queue := [] }
  | peer :: rest =>
      if active.pending < alpha then
        launch alpha
          { active with
            pending := active.pending + 1
            flying := active.flying ++ [peer]
            known := active.known ++ [peer.publicKeyHex] } rest
      else { active with queue := peer :: rest }

def performLookupClosest (alpha : Int) (lookup : LookupBucket) : Active :=
  launch alpha
    { pending := lookup.pending, queue := lookup.queue, known := [], flying := [], results := [],
      batch := lookup.queue, answers := [] } lookup.queue

/-- Expand a response. `known` holds the first batch only and is never extended. -/
def absorb (routes : RoutingTable) (active : Active) : List ID → Outcome (RoutingTable × Active)
  | [] => .done (routes, active)
  | peer :: rest =>
      (routes.update peer).bind fun routes =>
        absorb routes
          (if peer.publicKeyHex ∈ active.known then active
           else { active with
                  results := active.results ++ [peer]
                  queue := active.queue ++ [peer] }) rest

/-- The comparison indexes `results` with positions of `queue`. With two or more
entries every position of the queue is compared, so a longer queue would index
past the end. -/
def sortQueue (config : Config) (active : Active) : Outcome Active :=
  if 2 ≤ active.queue.length ∧ active.results.length < active.queue.length then .panic
  else .done { active with
    queue := (config.sorter.sort (fun _ => byElement (closer config.target) active.results)
      active.queue).take bucketSize }

structure Schedule where
  visited : List String
  active : Active
  sent : List ID
  deriving DecidableEq, Repr

/-- The scheduling loop walks the queue without removing from it. -/
def schedule (alpha : Int) : List ID → Schedule → Schedule
  | [], plan => plan
  | peer :: rest, plan =>
      if plan.active.pending < alpha then
        if peer.publicKeyHex ∈ plan.visited then schedule alpha rest plan
        else schedule alpha rest
          { visited := plan.visited ++ [peer.publicKeyHex]
            active := { plan.active with
              flying := plan.active.flying ++ [peer]
              pending := plan.active.pending + 1 }
            sent := plan.sent ++ [peer] }
      else plan

/-! The whole search. -/

/-- `sent` records the follow-up queries, `answered` counts the answers received,
`stranded` collects queries still in flight when their lookup returned, and `log`
keeps the batch and the answers of every lookup that returned. -/
structure Search where
  routes : RoutingTable
  visited : List String
  waiting : List LookupBucket
  active : Option Active
  results : List ID
  sent : List ID
  answered : Nat
  stranded : List ID
  log : List (List ID × List (List ID))
  deriving DecidableEq, Repr

/-- `FindNode` up to the start of its lookups. -/
def findNode (config : Config) (routes : RoutingTable) (disjointPaths : Nat) : Outcome Search :=
  (findClosestPeers config.sorter routes config.target config.alpha).bind fun closest =>
  (distribute config.node disjointPaths 0 closest ⟨[], [], []⟩).map fun dealt =>
    { routes := routes
      visited := dealt.visited ++ [config.node.publicKeyHex]
      waiting := dealt.lookups
      active := none
      results := dealt.results
      sent := []
      answered := 0
      stranded := []
      log := [] }

/-- One turn of the receive loop for the answer of `peer`. -/
def receive (config : Config) (search : Search) (active : Active) (index : Nat) (peer : ID)
    (reply : Reply) : Outcome Search :=
  (queryPeerByIDExt config.env search.routes peer reply).bind fun (routes, response) =>
  (if response.length = 0 then (routes.removePeer peer).map Prod.snd else .done routes).bind
    fun routes =>
  (absorb routes
    { active with
      pending := active.pending - 1
      flying := active.flying.eraseIdx index
      answers := active.answers ++ [response] } response).bind fun (routes, active) =>
  (sortQueue config active).map fun active =>
    let plan := schedule config.alpha active.queue ⟨search.visited, active, search.sent⟩
    { search with
      routes := routes
      visited := plan.visited
      active := some plan.active
      sent := plan.sent
      answered := search.answered + 1 }

inductive Event where
  | begin (index : Nat)
  | answer (index : Nat) (reply : Reply)
  | finish
  deriving DecidableEq, Repr

inductive Step (config : Config) : Search → Event → Outcome Search → Prop where
  | begin {search : Search} {index : Nat} {lookup : LookupBucket} :
      search.active = none → search.waiting[index]? = some lookup →
      Step config search (.begin index)
        (.done { search with
          waiting := search.waiting.eraseIdx index
          active := some (performLookupClosest config.alpha lookup) })
  | answer {search : Search} {active : Active} {index : Nat} {peer : ID} {reply : Reply} :
      search.active = some active → 0 < active.pending → active.flying[index]? = some peer →
      Step config search (.answer index reply) (receive config search active index peer reply)
  | finish {search : Search} {active : Active} :
      search.active = some active → ¬ 0 < active.pending →
      Step config search .finish
        (.done { search with
          active := none
          results := search.results ++ active.results
          stranded := search.stranded ++ active.flying
          log := search.log ++ [(active.batch, active.answers)] })

theorem Step.of_receive {config : Config} {search : Search} {active : Active} {index : Nat} {peer : ID}
    {reply : Reply} {outcome : Outcome Search} (running : search.active = some active)
    (waiting : 0 < active.pending) (found : active.flying[index]? = some peer)
    (received : receive config search active index peer reply = outcome) :
    Step config search (.answer index reply) outcome :=
  received ▸ .answer running waiting found

/-- The last statements of `FindNode`, after every lookup has returned. `Xor`
fills in the key and leaves the hash empty, and `Less` compares hashes. -/
def returned (sorter : Sorter ID) (target : ID) (results : List ID) : List ID :=
  (sorter.sort (byElement fun left right => (left.xor target).less (right.xor target)) results).take
    bucketSize

/-! What each part of a turn does, on a valid table. -/

abbrev keys (peers : List ID) : List String := peers.map ID.publicKeyHex

def fresh (known : List String) (response : List ID) : List ID :=
  response.filter fun peer => peer.publicKeyHex ∉ known

def Reply.safe (env : Env) (peer : ID) : Reply → Bool
  | .failed link => link.safe env peer.address
  | .peers link reported =>
      link.safe env peer.address && reported.all fun entry => entry.2.safe env entry.1.address

theorem query_go_spec {env : Env} {routes : RoutingTable} (valid : Valid routes) (validPeers : List ID)
    (link : Link) {reported : List (ID × Presence)}
    (safe : reported.all fun entry => entry.2.safe env entry.1.address) :
    ∃ next, queryPeerByIDExt.go env routes validPeers reported =
        .done (next, validPeers ++ delivered (.peers link reported)) ∧
      next.self = routes.self ∧ Valid next := by
  induction reported generalizing routes validPeers with
  | nil => exact ⟨routes, by simp [queryPeerByIDExt.go, delivered], rfl, valid⟩
  | cons entry rest ih =>
      obtain ⟨peer, presence⟩ := entry
      obtain ⟨first, others⟩ : presence.safe env peer.address = true ∧
          (rest.all fun entry => entry.2.safe env entry.1.address) = true := by
        simpa only [List.all_cons, Bool.and_eq_true] using safe
      cases presence with
      | connected =>
          obtain ⟨next, queried, owner, kept⟩ := ih valid (validPeers ++ [peer]) others
          exact ⟨next, by simp [queryPeerByIDExt.go, first, queried, delivered], owner, kept⟩
      | bootstrapped link =>
          obtain ⟨middle, updated, middleOwner, middleValid⟩ := update_valid valid peer
          obtain ⟨next, queried, owner, kept⟩ := ih middleValid (validPeers ++ [peer]) others
          exact ⟨next, by simp [queryPeerByIDExt.go, first, updated, queried, delivered],
            owner.trans middleOwner, kept⟩
      | offline link =>
          obtain ⟨next, queried, owner, kept⟩ := ih valid validPeers others
          exact ⟨next, by simp [queryPeerByIDExt.go, first, queried, delivered], owner, kept⟩

theorem query_go_panic {env : Env} {routes : RoutingTable} (valid : Valid routes) (validPeers : List ID)
    {reported : List (ID × Presence)}
    (harmful : (reported.all fun entry => entry.2.safe env entry.1.address) = false) :
    queryPeerByIDExt.go env routes validPeers reported = .panic := by
  induction reported generalizing routes validPeers with
  | nil => cases harmful
  | cons entry rest ih =>
      obtain ⟨peer, presence⟩ := entry
      cases first : presence.safe env peer.address with
      | false => cases presence <;> simp [queryPeerByIDExt.go, first]
      | true =>
          have others : (rest.all fun entry => entry.2.safe env entry.1.address) = false := by
            simpa only [List.all_cons, first, Bool.true_and] using harmful
          cases presence with
          | connected => simpa [queryPeerByIDExt.go, first] using ih valid _ others
          | bootstrapped link =>
              obtain ⟨middle, updated, _, middleValid⟩ := update_valid valid peer
              simpa [queryPeerByIDExt.go, first, updated] using ih middleValid _ others
          | offline link => simpa [queryPeerByIDExt.go, first] using ih valid _ others

theorem query_spec {env : Env} {routes : RoutingTable} (valid : Valid routes) {peer : ID} {reply : Reply}
    (safe : reply.safe env peer = true) :
    ∃ next, queryPeerByIDExt env routes peer reply = .done (next, delivered reply) ∧
      next.self = routes.self ∧ Valid next := by
  cases reply with
  | failed link => exact ⟨routes, if_pos safe, rfl, valid⟩
  | peers link reported =>
      obtain ⟨own, others⟩ := (Bool.and_eq_true _ _).mp safe
      obtain ⟨next, queried, owner, kept⟩ := query_go_spec valid [] link others
      exact ⟨next, by simp [queryPeerByIDExt, own, queried], owner, kept⟩

theorem query_panic {env : Env} {routes : RoutingTable} (valid : Valid routes) {peer : ID} {reply : Reply}
    (harmful : reply.safe env peer = false) : queryPeerByIDExt env routes peer reply = .panic := by
  cases reply with
  | failed link => exact if_neg (by simpa [Reply.safe] using harmful)
  | peers link reported =>
      rw [queryPeerByIDExt]
      split
      · rename_i own
        exact query_go_panic valid [] (by simpa only [Reply.safe, own, Bool.true_and] using harmful)
      · rfl

/-- What a query may end with: no `Dial` panics, and a peer that is found wanting selects a
bucket to be removed from. -/
def Harmless (env : Env) (self peer : ID) (reply : Reply) : Prop :=
  reply.safe env peer = true ∧ (delivered reply = [] → Placed self peer)

theorem absorb_spec {routes : RoutingTable} (valid : Valid routes) (active : Active)
    (response : List ID) :
    ∃ next, absorb routes active response =
        .done (next, { active with
          results := active.results ++ fresh active.known response
          queue := active.queue ++ fresh active.known response }) ∧
      next.self = routes.self ∧ Valid next := by
  induction response generalizing routes active with
  | nil => exact ⟨routes, by simp [absorb, fresh], rfl, valid⟩
  | cons peer rest ih =>
      obtain ⟨middle, updated, middleOwner, middleValid⟩ := update_valid valid peer
      by_cases seen : peer.publicKeyHex ∈ active.known
      · obtain ⟨next, absorbed, owner, kept⟩ := ih middleValid active
        exact ⟨next, by simp [absorb, updated, seen, absorbed, fresh], owner.trans middleOwner, kept⟩
      · obtain ⟨next, absorbed, owner, kept⟩ := ih middleValid
          { active with results := active.results ++ [peer], queue := active.queue ++ [peer] }
        exact ⟨next, by simp [absorb, updated, seen, absorbed, fresh], owner.trans middleOwner, kept⟩

theorem sortQueue_eq (config : Config) (active : Active)
    (short : active.queue.length ≤ active.results.length) :
    sortQueue config active = .done { active with
      queue := (config.sorter.sort (fun _ => byElement (closer config.target) active.results)
        active.queue).take bucketSize } := by
  have inRange : ¬ (2 ≤ active.queue.length ∧ active.results.length < active.queue.length) := by omega
  rw [sortQueue, if_neg inRange]

/-- The scheduling loop sends new queries to keys not visited before, each key
once, and never lets more than alpha be pending. -/
theorem schedule_spec (alpha : Int) (queue : List ID) (plan : Schedule) :
    ∃ extra, schedule alpha queue plan =
        { visited := plan.visited ++ keys extra
          active := { plan.active with
            flying := plan.active.flying ++ extra
            pending := plan.active.pending + extra.length }
          sent := plan.sent ++ extra } ∧
      extra ⊆ queue ∧ (keys extra).Nodup ∧ (∀ key ∈ keys extra, key ∉ plan.visited) ∧
      (plan.active.pending ≤ alpha → plan.active.pending + extra.length ≤ alpha) := by
  induction queue generalizing plan with
  | nil => exact ⟨[], by simp [schedule]⟩
  | cons peer rest ih =>
      by_cases room : plan.active.pending < alpha
      · by_cases seen : peer.publicKeyHex ∈ plan.visited
        · obtain ⟨extra, scheduled, subset, nodup, unseen, bound⟩ := ih plan
          exact ⟨extra, by simp [schedule, room, seen, scheduled],
            fun other member => List.mem_cons_of_mem _ (subset member), nodup, unseen, bound⟩
        · obtain ⟨extra, scheduled, subset, nodup, unseen, bound⟩ := ih
            { visited := plan.visited ++ [peer.publicKeyHex]
              active := { plan.active with
                flying := plan.active.flying ++ [peer]
                pending := plan.active.pending + 1 }
              sent := plan.sent ++ [peer] }
          refine ⟨peer :: extra, ?_, ?_, ?_, ?_, ?_⟩
          · simp [schedule, room, seen, scheduled]
            omega
          · exact List.cons_subset_cons peer subset
          · refine List.nodup_cons.mpr ⟨fun again => ?_, nodup⟩
            exact unseen _ again (by simp)
          · intro key member
            rcases List.mem_cons.mp member with same | later
            · exact same ▸ seen
            · exact fun old => unseen key later (by simp [old])
          · intro _
            have total := bound (by simp only; omega)
            simp only [List.length_cons] at total ⊢
            omega
      · exact ⟨[], by simp [schedule, room], by simp, by simp, by simp, by simp⟩

theorem launch_spec (alpha : Int) (queue : List ID) (active : Active)
    (room : active.pending + queue.length ≤ alpha) :
    launch alpha active queue =
      { active with
        pending := active.pending + queue.length
        flying := active.flying ++ queue
        known := active.known ++ keys queue
        queue := [] } := by
  induction queue generalizing active with
  | nil => simp [launch]
  | cons peer rest ih =>
      have below : active.pending < alpha := by simp only [List.length_cons] at room; omega
      rw [launch, if_pos below, ih]
      · simp
        omega
      · simp only [List.length_cons] at room ⊢; omega

/-- A batch of at most alpha peers is asked as a whole; nothing stays in the queue. -/
theorem performLookupClosest_eq (alpha : Int) (lookup : LookupBucket) (idle : lookup.pending = 0)
    (short : lookup.queue.length ≤ alpha) :
    performLookupClosest alpha lookup =
      { pending := lookup.queue.length, queue := [], known := keys lookup.queue,
        flying := lookup.queue, results := [], batch := lookup.queue, answers := [] } := by
  rw [performLookupClosest, launch_spec _ _ _ (by simp only [idle]; omega)]
  simp [idle]

def pool (active : Active) (reply : Reply) : List ID :=
  active.queue ++ fresh active.known (delivered reply)

def compared (active : Active) (reply : Reply) : List ID :=
  active.results ++ fresh active.known (delivered reply)

def sorted (config : Config) (active : Active) (index : Nat) (reply : Reply) : Active :=
  { active with
    pending := active.pending - 1
    flying := active.flying.eraseIdx index
    answers := active.answers ++ [delivered reply]
    results := compared active reply
    queue := (config.sorter.sort (fun _ => byElement (closer config.target) (compared active reply))
      (pool active reply)).take bucketSize }

/-- A whole turn. Its answer is absorbed, the queue is sorted and cut, and new queries
are scheduled from it. -/
theorem receive_eq (config : Config) {search : Search} {active : Active} (index : Nat) {peer : ID}
    {reply : Reply} (valid : Valid search.routes)
    (short : active.queue.length ≤ active.results.length)
    (harmless : Harmless config.env search.routes.self peer reply) :
    ∃ routes plan, plan = schedule config.alpha (sorted config active index reply).queue
        ⟨search.visited, sorted config active index reply, search.sent⟩ ∧
      receive config search active index peer reply = .done
        { search with
          routes := routes
          visited := plan.visited
          active := some plan.active
          sent := plan.sent
          answered := search.answered + 1 } ∧
      routes.self = search.routes.self ∧ Valid routes := by
  -- The table after the query, after the removal, and after the response.
  obtain ⟨queried, asked, queriedOwner, queriedValid⟩ := query_spec valid harmless.1
  obtain ⟨pruned, removal, prunedOwner, prunedValid⟩ : ∃ pruned,
      (if (delivered reply).length = 0 then (queried.removePeer peer).map Prod.snd
        else .done queried) = .done pruned ∧ pruned.self = queried.self ∧ Valid pruned := by
    by_cases empty : delivered reply = []
    · have safe : queried.removePeer peer ≠ .panic := fun failed =>
        (removePeer_panic_iff queriedValid peer).mp failed (queriedOwner ▸ harmless.2 empty)
      obtain ⟨⟨found, next⟩, removed⟩ := Outcome.ne_panic_iff.mp safe
      exact ⟨next, by simp [empty, removed], removePeer_done_valid queriedValid peer found removed⟩
    · exact ⟨queried, by simp [empty], rfl, queriedValid⟩
  obtain ⟨routes, absorbed, owner, kept⟩ := absorb_spec prunedValid
    { active with
      pending := active.pending - 1
      flying := active.flying.eraseIdx index
      answers := active.answers ++ [delivered reply] } (delivered reply)
  refine ⟨routes, _, rfl, ?_, owner.trans (prunedOwner.trans queriedOwner), kept⟩
  rw [receive, asked, Outcome.done_bind]
  simp only [removal, Outcome.done_bind]
  rw [absorbed, Outcome.done_bind, sortQueue_eq _ _ (by simp; omega), Outcome.done_map]
  rfl

theorem receive_spec (config : Config) {search : Search} {active : Active} (index : Nat) {peer : ID}
    {reply : Reply} (valid : Valid search.routes)
    (short : active.queue.length ≤ active.results.length)
    (harmless : Harmless config.env search.routes.self peer reply) :
    ∃ routes queue extra, receive config search active index peer reply = .done
        { search with
          routes := routes
          visited := search.visited ++ keys extra
          active := some { active with
            pending := active.pending - 1 + extra.length
            queue := queue
            flying := active.flying.eraseIdx index ++ extra
            results := active.results ++ fresh active.known (delivered reply)
            answers := active.answers ++ [delivered reply] }
          sent := search.sent ++ extra
          answered := search.answered + 1 } ∧
      routes.self = search.routes.self ∧ Valid routes ∧
      queue ⊆ active.queue ++ fresh active.known (delivered reply) ∧
      queue.length ≤ (active.results ++ fresh active.known (delivered reply)).length ∧
      extra ⊆ queue ∧ (keys extra).Nodup ∧ (∀ key ∈ keys extra, key ∉ search.visited) ∧
      (active.pending - 1 ≤ config.alpha → active.pending - 1 + extra.length ≤ config.alpha) := by
  obtain ⟨routes, plan, planned, received, owner, kept⟩ := receive_eq config index valid short harmless
  obtain ⟨extra, scheduled, chosen, nodup, unseen, bound⟩ := schedule_spec config.alpha
    (sorted config active index reply).queue ⟨search.visited, sorted config active index reply, search.sent⟩
  have perm := config.sorter.perm (fun _ => byElement (closer config.target) (compared active reply))
    (pool active reply)
  refine ⟨routes, (sorted config active index reply).queue, extra, ?_, owner, kept, ?_, ?_, chosen, nodup,
    unseen, bound⟩
  · rw [received, planned, scheduled]
    rfl
  · intro other member
    exact perm.mem_iff.mp (List.mem_of_mem_take member)
  · have cut := List.length_take_le' bucketSize (config.sorter.sort
      (fun _ => byElement (closer config.target) (compared active reply)) (pool active reply))
    rw [perm.length_eq, pool, List.length_append] at cut
    simp only [sorted, List.length_append]
    exact Nat.le_trans cut (by omega)

/-- An empty answer from a peer that selects no bucket dereferences nil. -/
theorem receive_panic (config : Config) {search : Search} {active : Active} (index : Nat) {peer : ID}
    {reply : Reply} (valid : Valid search.routes)
    (harmful : ¬ Harmless config.env search.routes.self peer reply) :
    receive config search active index peer reply = .panic := by
  cases safe : reply.safe config.env peer with
  | false =>
      rw [receive, query_panic valid safe]
      rfl
  | true =>
      obtain ⟨empty, misplaced⟩ : delivered reply = [] ∧ ¬ Placed search.routes.self peer :=
        Classical.not_imp.mp fun placed => harmful ⟨safe, placed⟩
      obtain ⟨queried, asked, owner, queriedValid⟩ := query_spec valid safe
      have failed := (removePeer_panic_iff queriedValid peer).mpr (owner ▸ misplaced)
      rw [receive, asked, Outcome.done_bind]
      simp [empty, failed]

/-! Dealing: when every index hits, and what has been dealt then. -/

/-- Every peer to be queried finds the lookup of its position open. The node's
own contact takes up a position without opening a lookup. -/
def Dealable (node : ID) (disjointPaths : Nat) (closest : List ID) : Prop :=
  ∀ (i : Nat) (peer : ID), closest[i]? = some peer → peer.address ≠ node.address →
    i % disjointPaths < (closest.take (i + 1)).countP (·.address ≠ node.address)

abbrev queued (lookups : List LookupBucket) : Nat := (lookups.map (·.queue.length)).sum

theorem queued_set (lookups : List LookupBucket) (i : Nat) (lookup : LookupBucket)
    (opened : lookups[i]? = some lookup) (peer : ID) :
    queued (lookups.set i { lookup with queue := lookup.queue ++ [peer] }) = queued lookups + 1 := by
  induction lookups generalizing i with
  | nil => simp at opened
  | cons first rest ih =>
      cases i with
      | zero =>
          simp only [List.getElem?_cons_zero, Option.some.injEq] at opened
          simp [queued, opened]
          omega
      | succ i =>
          simp only [List.getElem?_cons_succ] at opened
          have tail := ih i opened
          simp only [queued, List.set_cons_succ, List.map_cons, List.sum_cons] at tail ⊢
          omega

theorem openLookup_length {disjointPaths opened : Nat} {lookups : List LookupBucket}
    (size : lookups.length = min disjointPaths opened) :
    (openLookup disjointPaths lookups).length = min disjointPaths (opened + 1) := by
  unfold openLookup
  split
  · simp only [List.length_append, List.length_singleton]; omega
  · omega

theorem openLookup_idle (disjointPaths : Nat) {lookups : List LookupBucket}
    (idle : ∀ lookup ∈ lookups, lookup.pending = 0) :
    ∀ lookup ∈ openLookup disjointPaths lookups, lookup.pending = 0 := by
  unfold openLookup
  split
  · simpa [or_imp, forall_and] using idle
  · exact idle

theorem queued_openLookup (disjointPaths : Nat) (lookups : List LookupBucket) :
    queued (openLookup disjointPaths lookups) = queued lookups := by
  unfold openLookup
  split <;> simp [queued]

theorem distribute_done_iff (node : ID) (disjointPaths : Nat) (positive : 0 < disjointPaths)
    (rest : List ID) (start opened : Nat) (dealt : Distribution)
    (size : dealt.lookups.length = min disjointPaths opened) :
    (∃ final, distribute node disjointPaths start rest dealt = .done final) ↔
      ∀ (i : Nat) (peer : ID), rest[i]? = some peer → peer.address ≠ node.address →
        (start + i) % disjointPaths <
          opened + (rest.take (i + 1)).countP (·.address ≠ node.address) := by
  -- `opened` counts the peers that asked for a lookup so far; there are fewer
  -- lookups than that once the limit is reached.
  induction rest generalizing start opened dealt with
  | nil => simp [distribute]
  | cons peer rest ih =>
      have shifted : ∀ i, start + 1 + i = start + (i + 1) := by omega
      have slot := Nat.mod_lt start positive
      by_cases own : peer.address = node.address
      · rw [distribute, if_pos own, ih (start + 1) opened _ (by simpa using size)]
        constructor
        · intro hits i other
          cases i with
          | zero => intro isHead away; simp_all
          | succ i =>
              intro found away
              have hit := hits i other (by simpa using found) away
              simpa [own, shifted] using hit
        · intro hits i other found away
          have hit := hits (i + 1) other (by simpa using found) away
          simpa [own, shifted] using hit
      · rw [distribute, if_neg own]
        have grown := openLookup_length size
        generalize openLookup disjointPaths dealt.lookups = lookups at grown
        by_cases hit : start % disjointPaths < opened + 1
        · obtain ⟨lookup, found⟩ : ∃ lookup, lookups[start % disjointPaths]? = some lookup :=
            ⟨_, List.getElem?_eq_getElem (by omega)⟩
          simp only [found]
          rw [ih _ (opened + 1) _ (by simpa using grown)]
          constructor
          · intro hits i other
            cases i with
            | zero => intro _ _; simpa [own] using hit
            | succ i =>
                intro later away
                have next := hits i other (by simpa using later) away
                simpa [own, shifted, Nat.add_assoc, Nat.add_comm 1] using next
          · intro hits i other later away
            have next := hits (i + 1) other (by simpa using later) away
            simpa [own, shifted, Nat.add_assoc, Nat.add_comm 1] using next
        · have missing : lookups[start % disjointPaths]? = none :=
            List.getElem?_eq_none (by omega)
          simp only [missing, reduceCtorEq, exists_false, false_iff]
          intro hits
          have first := hits 0 peer (by simp) own
          exact hit (by simpa [own] using first)

theorem distribute_spec {node : ID} {disjointPaths start : Nat} {rest : List ID}
    {dealt final : Distribution}
    (done : distribute node disjointPaths start rest dealt = .done final)
    (idle : ∀ lookup ∈ dealt.lookups, lookup.pending = 0) :
    final.visited = dealt.visited ++ keys rest ∧
      final.results = dealt.results ++ rest.filter (·.address ≠ node.address) ∧
      (∀ lookup ∈ final.lookups, lookup.pending = 0) ∧
      queued final.lookups + dealt.results.length = queued dealt.lookups + final.results.length := by
  induction rest generalizing start dealt with
  | nil =>
      simp only [distribute, Outcome.done.injEq] at done
      subst done
      simpa using idle
  | cons peer rest ih =>
      by_cases own : peer.address = node.address
      · rw [distribute, if_pos own] at done
        obtain ⟨visited, results, pending, balance⟩ := ih done idle
        exact ⟨by simp [visited], by simp [results, own], pending, balance⟩
      · rw [distribute, if_neg own] at done
        have grown := openLookup_idle disjointPaths idle
        have sameQueued := queued_openLookup disjointPaths dealt.lookups
        generalize openLookup disjointPaths dealt.lookups = lookups at done grown sameQueued
        dsimp only at done
        split at done
        · simp at done
        · rename_i lookup opened
          have idleNext : ∀ other ∈ lookups.set (start % disjointPaths)
              { lookup with queue := lookup.queue ++ [peer] }, other.pending = 0 := by
            intro other member
            rcases List.mem_or_eq_of_mem_set member with old | new
            · exact grown other old
            · rw [new]; exact grown lookup (List.mem_of_getElem? opened)
          obtain ⟨visited, results, pending, balance⟩ := ih done idleNext
          have added := queued_set lookups _ lookup opened peer
          refine ⟨by simp [visited], by simp [results, own], pending, ?_⟩
          simp only [List.length_append, List.length_singleton] at balance
          omega

/-! Whole runs. -/

def Within (population : List String) : Event → Prop
  | .answer _ reply => ∀ peer ∈ delivered reply, peer.publicKeyHex ∈ population
  | _ => True

def Answerable (env : Env) (search : Search) : Event → Prop
  | .answer index reply => ∀ active peer, search.active = some active →
      active.flying[index]? = some peer → Harmless env search.routes.self peer reply
  | _ => True

/-- A step that starts from a state, with answers from the population that do no harm.
What it ends in is left open. -/
def Guarded (config : Config) (population : List String) (before : Outcome Search) (event : Event)
    (after : Outcome Search) : Prop :=
  ∃ search, before = .done search ∧ Step config search event after ∧ Within population event ∧
    Answerable config.env search event

def inFlight : Option Active → Nat
  | none => 0
  | some active => active.flying.length

/-- What a search promises at every moment. `base` are the keys of the closest
peers and of the node itself. -/
structure Orderly (alpha : Int) (base : List String) (search : Search) : Prop where
  pending : ∀ active, search.active = some active →
    active.pending = active.flying.length ∧ active.pending ≤ alpha
  idle : ∀ lookup ∈ search.waiting, lookup.pending = 0
  once : (keys search.sent).Nodup
  apart : ∀ key ∈ keys search.sent, key ∉ base
  received : search.stranded = []

structure Invariant (config : Config) (population base : List String) (dealt : Nat) (search : Search) :
    Prop extends Orderly config.alpha base search where
  valid : Valid search.routes
  short : ∀ lookup ∈ search.waiting, lookup.queue.length ≤ config.alpha
  indexed : ∀ active, search.active = some active → active.queue.length ≤ active.results.length
  reported : ∀ active, search.active = some active → keys active.queue ⊆ population
  visited : base ++ keys search.sent ⊆ search.visited
  universal : keys search.sent ⊆ population
  balance : search.answered + inFlight search.active + queued search.waiting =
    dealt + search.sent.length

theorem queued_eraseIdx (lookups : List LookupBucket) (index : Nat) (lookup : LookupBucket)
    (found : lookups[index]? = some lookup) :
    queued (lookups.eraseIdx index) + lookup.queue.length = queued lookups := by
  induction lookups generalizing index with
  | nil => simp at found
  | cons first rest ih =>
      cases index with
      | zero =>
          simp only [List.getElem?_cons_zero, Option.some.injEq] at found
          simp [queued, found, Nat.add_comm]
      | succ index =>
          have tail := ih index (by simpa using found)
          simp only [queued, List.eraseIdx_cons_succ, List.map_cons, List.sum_cons] at tail ⊢
          omega

section Invariance

variable {config : Config} {population base : List String} {dealt : Nat} {search : Search}
  (inv : Invariant config population base dealt search)

include inv

theorem begin_invariant {index : Nat} {lookup : LookupBucket} (free : search.active = none)
    (found : search.waiting[index]? = some lookup) :
    Invariant config population base dealt
      { search with
        waiting := search.waiting.eraseIdx index
        active := some (performLookupClosest config.alpha lookup) } := by
  have member := List.mem_of_getElem? found
  have short := inv.short lookup member
  have erased := queued_eraseIdx search.waiting index lookup found
  have balance := inv.balance
  rw [performLookupClosest_eq config.alpha lookup (inv.idle lookup member) short]
  refine { inv with pending := ?_, idle := ?_, short := ?_, indexed := ?_, reported := ?_, balance := ?_ }
  · rintro active ⟨rfl⟩; exact ⟨rfl, short⟩
  · exact fun other kept => inv.idle other (List.mem_of_mem_eraseIdx kept)
  · exact fun other kept => inv.short other (List.mem_of_mem_eraseIdx kept)
  · rintro active ⟨rfl⟩; simp
  · rintro active ⟨rfl⟩; simp
  · simp only [free, inFlight] at balance ⊢
    omega

theorem finish_invariant {active : Active} (running : search.active = some active)
    (drained : ¬ 0 < active.pending) :
    Invariant config population base dealt
      { search with
        active := none
        results := search.results ++ active.results
        stranded := search.stranded ++ active.flying
        log := search.log ++ [(active.batch, active.answers)] } := by
  have counted := (inv.pending active running).1
  have landed : active.flying = [] := List.eq_nil_of_length_eq_zero (by omega)
  have balance := inv.balance
  refine { inv with pending := ?_, received := ?_, indexed := ?_, reported := ?_, balance := ?_ }
  · simp
  · simp [inv.received, landed]
  · simp
  · simp
  · simp only [running, inFlight, landed, List.length_nil] at balance ⊢
    omega

theorem answer_invariant {active : Active} {index : Nat} {peer : ID} {reply : Reply}
    (running : search.active = some active) (waiting : 0 < active.pending)
    (found : active.flying[index]? = some peer)
    (within : ∀ other ∈ delivered reply, other.publicKeyHex ∈ population)
    (harmless : Harmless config.env search.routes.self peer reply) :
    ∃ next, receive config search active index peer reply = .done next ∧
      Invariant config population base dealt next ∧ next.waiting = search.waiting ∧
      next.active.isSome ∧ next.answered = search.answered + 1 := by
  obtain ⟨counted, bounded⟩ := inv.pending active running
  obtain ⟨routes, queue, extra, received, _, valid, queueSubset, queueLength, chosen, nodup, unseen,
    room⟩ := receive_spec config index inv.valid (inv.indexed active running) harmless
  refine ⟨_, received, ?_, rfl, rfl, rfl⟩
  have position : index < active.flying.length := (List.getElem?_eq_some_iff.mp found).1
  have landed : (active.flying.eraseIdx index).length + 1 = active.flying.length := by
    rw [List.length_eraseIdx_of_lt position]; omega
  have queueKeys : keys queue ⊆ population := by
    intro key member
    obtain ⟨other, inQueue, rfl⟩ := List.mem_map.mp member
    rcases List.mem_append.mp (queueSubset inQueue) with old | new
    · exact inv.reported active running (List.mem_map.mpr ⟨other, old, rfl⟩)
    · exact within other (List.mem_filter.mp new).1
  have extraKeys : keys extra ⊆ population := fun key member => by
    obtain ⟨other, inExtra, rfl⟩ := List.mem_map.mp member
    exact queueKeys (List.mem_map.mpr ⟨other, chosen inExtra, rfl⟩)
  -- One query has landed and `extra` have left.
  have balance := inv.balance
  refine { inv with
    pending := ?_, once := ?_, apart := ?_, valid := valid, indexed := ?_, reported := ?_,
    visited := ?_, universal := ?_, balance := ?_ }
  · rintro other ⟨rfl⟩
    refine ⟨?_, room (by omega)⟩
    simp only [List.length_append]
    omega
  · simp only [keys, List.map_append]
    refine List.nodup_append.mpr ⟨inv.once, nodup, fun key old other new same => ?_⟩
    exact unseen other new (inv.visited (List.mem_append_right _ (same ▸ old)))
  · simp only [keys, List.map_append, List.mem_append]
    rintro key (old | new) inBase
    · exact inv.apart key old inBase
    · exact unseen key new (inv.visited (List.mem_append_left _ inBase))
  · rintro other ⟨rfl⟩; exact queueLength
  · rintro other ⟨rfl⟩; exact queueKeys
  · have visited := inv.visited
    simp only [keys, List.map_append, ← List.append_assoc]
    exact List.append_subset.mpr ⟨List.subset_append_of_subset_left _ visited,
      List.subset_append_right _ _⟩
  · simp only [keys, List.map_append]
    exact List.append_subset.mpr ⟨inv.universal, extraKeys⟩
  · simp only [running, inFlight, List.length_append] at balance ⊢
    omega

theorem answers_bounded : search.answered + inFlight search.active ≤ dealt + population.length := by
  have sent : search.sent.length ≤ population.length := by
    simpa using inv.once.length_le_of_subset inv.universal
  have balance := inv.balance
  omega

end Invariance

def remaining (bound : Nat) : Outcome Search → Nat
  | .panic => 0
  | .done search =>
      2 * search.waiting.length + (if search.active.isSome then 1 else 0) + (bound - search.answered)

section GuardedRuns

variable {config : Config} {population base : List String} {dealt : Nat}
  {before after : Outcome Search} {event : Event}

/-- A guarded step ends in a state again, keeps the invariant and uses something up. -/
theorem guarded_step (step : Guarded config population before event after)
    (inv : ∃ search, before = .done search ∧ Invariant config population base dealt search) :
    (∃ search, after = .done search ∧ Invariant config population base dealt search) ∧
      remaining (dealt + population.length) after < remaining (dealt + population.length) before := by
  obtain ⟨search, rfl, step, within, answerable⟩ := step
  obtain ⟨_, ⟨rfl⟩, inv⟩ := inv
  cases step with
  | begin free found =>
      refine ⟨⟨_, rfl, begin_invariant inv free found⟩, ?_⟩
      have position := (List.getElem?_eq_some_iff.mp found).1
      simp only [remaining, free, Option.isSome_some, Option.isSome_none, if_true,
        Bool.false_eq_true, if_false, List.length_eraseIdx_of_lt position]
      omega
  | finish running drained =>
      refine ⟨⟨_, rfl, finish_invariant inv running drained⟩, ?_⟩
      simp [remaining, running]
  | answer running waiting found =>
      obtain ⟨next, received, kept, sameWaiting, stillActive, counted⟩ :=
        answer_invariant inv running waiting found within (answerable _ _ running found)
      rw [received]
      refine ⟨⟨next, rfl, kept⟩, ?_⟩
      have bounded := answers_bounded kept
      simp only [remaining, sameWaiting, stillActive, running, Option.isSome_some, if_true, counted]
      omega

end GuardedRuns

theorem findNode_eq {config : Config} {routes : RoutingTable} {closest : List ID}
    (found : findClosestPeers config.sorter routes config.target config.alpha = .done closest)
    (disjointPaths : Nat) (positive : 0 < disjointPaths) :
    ((∃ start, findNode config routes disjointPaths = .done start) ↔
      Dealable config.node disjointPaths closest) ∧
    ∀ start, findNode config routes disjointPaths = .done start →
      ∃ dealt, distribute config.node disjointPaths 0 closest ⟨[], [], []⟩ = .done dealt ∧
        start = { routes := routes, visited := dealt.visited ++ [config.node.publicKeyHex],
                  waiting := dealt.lookups, active := none, results := dealt.results, sent := [],
                  answered := 0, stranded := [], log := [] } := by
  have dealing := distribute_done_iff config.node disjointPaths positive closest 0 0 ⟨[], [], []⟩ (by simp)
  simp only [Nat.zero_add] at dealing
  simp only [findNode, found, Outcome.done_bind]
  refine ⟨?_, fun start done => ?_⟩
  · rw [Dealable, ← dealing]
    constructor
    · rintro ⟨start, done⟩
      obtain ⟨dealt, ended, _⟩ := Outcome.bind_eq_done.mp done
      exact ⟨dealt, ended⟩
    · rintro ⟨dealt, ended⟩
      exact ⟨_, by rw [ended, Outcome.done_map]⟩
  · obtain ⟨dealt, ended, same⟩ := Outcome.bind_eq_done.mp done
    exact ⟨dealt, ended, by simpa using same.symm⟩

theorem start_invariant {config : Config} {routes : RoutingTable} {closest : List ID} {start : Search}
    {disjointPaths : Nat} (positive : 0 < disjointPaths) (valid : Valid routes)
    (found : findClosestPeers config.sorter routes config.target config.alpha = .done closest)
    (started : findNode config routes disjointPaths = .done start) (population : List String) :
    Invariant config population (keys closest ++ [config.node.publicKeyHex]) start.results.length start ∧
      start.active = none ∧ start.answered = 0 ∧ start.results.length ≤ closest.length := by
  obtain ⟨dealt, ended, rfl⟩ := (findNode_eq found disjointPaths positive).2 start started
  obtain ⟨visited, results, idle, balance⟩ := distribute_spec ended (by simp)
  have dealtLength : dealt.results.length ≤ closest.length := by
    rw [results]; simpa using List.length_filter_le _ closest
  refine ⟨?_, rfl, rfl, dealtLength⟩
  refine {
    pending := by simp, idle := idle, once := by simp, apart := by simp, received := rfl,
    valid := valid, short := fun lookup member => ?_, indexed := by simp, reported := by simp,
    visited := by simp [visited], universal := by simp,
    balance := by simpa [inFlight, queued] using balance }
  -- A single queue is no longer than all of them together, and those hold at
  -- most alpha peers.
  obtain ⟨index, position⟩ := List.mem_iff_getElem?.mp member
  have inSum := queued_eraseIdx dealt.lookups index lookup position
  have total : queued dealt.lookups = dealt.results.length := by simpa [queued] using balance
  rcases findClosestPeers_length found with empty | cut
  · subst empty
    simp only [distribute, Outcome.done.injEq] at ended
    simp [← ended] at member
  · omega

def smallResolver : Resolver where
  trimSpace address := address
  urlParse address :=
    if address = "tcp://10.0.0.1:1" then some ("tcp", "10.0.0.1:1")
    else if address = "tcp://10.0.0.5:1" then some ("tcp", "10.0.0.5:1")
    else if address = "udp://10.0.0.7:1" then some ("udp", "10.0.0.7:1")
    else none
  splitHostPort host :=
    if host = "10.0.0.1:1" then some ("10.0.0.1", "1")
    else if host = "10.0.0.5:1" then some ("10.0.0.5", "1")
    else if host = "10.0.0.7:1" then some ("10.0.0.7", "1")
    else none
  joinHostPort host port := host ++ ":" ++ port
  parseUint16 port := if port = "1" then some 1 else none
  parseIP _ := true
  lookupHost _ := none

def smallConfig : Config :=
  { env := { resolver := smallResolver, address := "tcp://10.0.0.1:1", transports := ["tcp"] }
    node := smallOwner, target := smallTarget, alpha := 2, sorter := insertionSorter }

def otherContact : ID := plainID "tcp://10.0.0.5:1" [0x60]
def smallStart : Search :=
  { routes := smallTable, visited := ["00", "40", "00"], waiting := [⟨0, [smallContact]⟩],
    active := none, results := [smallContact], sent := [], answered := 0, stranded := [], log := [] }

def smallBegun : Search :=
  { smallStart with waiting := [], active := some (performLookupClosest 2 ⟨0, [smallContact]⟩) }

end Carrier.NodeLookup
