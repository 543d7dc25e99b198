import Carrier.NodeLookup
import Mathlib.Data.List.Pairwise

/-! What `FindNode` returns. The peers it gathers are the ones dealt out and the
reported ones outside the batch of the lookup that heard of them, in the order of
arrival. They are kept with their repetitions, and the final sort goes by
`Xor`, which leaves the compared field empty. -/
namespace Carrier.LookupResults

open GoRuntime Identity Routes SortSlice ClosestPeers TransitionSystem NodeLookup
open ConnMgr (Env)

def gathered (log : List (List ID × List (List ID))) : List ID :=
  log.flatMap fun lookup => fresh (keys lookup.1) lookup.2.flatten

def heard (log : List (List ID × List (List ID))) : List ID :=
  log.flatMap fun lookup => lookup.2.flatten

/-- The peers `FindNode` starts from: the closest ones without the node's address. -/
def dealtOut (node : ID) (closest : List ID) : List ID :=
  closest.filter (·.address ≠ node.address)

structure Recorded (dealt : List ID) (search : Search) : Prop where
  results : search.results = dealt ++ gathered search.log
  known : ∀ active, search.active = some active → active.known = keys active.batch
  taken : ∀ active, search.active = some active →
    active.results = fresh active.known active.answers.flatten

section Steps

variable {config : Config} {population base : List String} {queries : Nat}

theorem guarded_recorded {dealt : List ID} {before after : Outcome Search} {event : Event}
    (step : Guarded config population before event after)
    (inv : ∃ search, before = .done search ∧
      Invariant config population base queries search ∧ Recorded dealt search) :
    ∃ search, after = .done search ∧
      Invariant config population base queries search ∧ Recorded dealt search := by
  obtain ⟨search, rfl, inv, recorded⟩ := inv
  obtain ⟨next, rfl, kept⟩ := (guarded_step step ⟨search, rfl, inv⟩).1
  refine ⟨next, rfl, kept, ?_⟩
  obtain ⟨_, ⟨rfl⟩, step, -, answerable⟩ := step
  generalize ended : Outcome.done next = outcome at step
  cases step with
  | begin free found =>
      rename_i index lookup
      cases ended
      have member := List.mem_of_getElem? found
      rw [performLookupClosest_eq config.alpha lookup (inv.idle lookup member) (inv.short lookup member)]
      refine ⟨recorded.results, ?_, ?_⟩
      · rintro active ⟨rfl⟩; rfl
      · rintro active ⟨rfl⟩; simp [fresh]
  | finish running drained =>
      rename_i active
      cases ended
      refine ⟨?_, by simp, by simp⟩
      simp [recorded.results, gathered, recorded.taken active running, recorded.known active running]
  | answer running waiting found =>
      rename_i active index peer reply
      obtain ⟨routes, queue, extra, received, _⟩ := receive_spec config index inv.valid
        (inv.indexed active running) (answerable active peer running found)
      rw [received] at ended
      cases ended
      refine ⟨recorded.results, ?_, ?_⟩
      · rintro other ⟨rfl⟩; exact recorded.known active running
      · rintro other ⟨rfl⟩
        simp [recorded.taken active running, fresh]

end Steps

/-! The last sort and cut. -/

theorem xor_less (target left right : ID) : (left.xor target).less (right.xor target) = false := by
  simp [ID.xor, ID.less, bytesCompare]

theorem returned_eq (sorter : Sorter ID) (target : ID) (results : List ID) :
    returned sorter target results =
      (sorter.sort (byElement fun _ _ => false) results).take bucketSize := by
  simp only [returned, xor_less]

/-- What a caller is told of the list: distinct peers without the node itself,
nearest first, at most a bucket of them, and nothing nearer left out. -/
structure Nearest (node target : ID) (known peers : List ID) : Prop where
  distinct : peers.Pairwise fun left right => left.equals right = false
  away : ∀ peer ∈ peers, peer.equals node = false
  sorted : Ordered (closer target) peers
  size : peers.length ≤ bucketSize
  nearest : ∀ peer ∈ known, peer ∉ peers → ∀ kept ∈ peers, closer target peer kept = false

/-- A peer may stand before another: they differ, and the other is no nearer. -/
def Precedes (target left right : ID) : Prop :=
  left.equals right = false ∧ closer target right left = false

def Alike (target : ID) (peers : List ID) : Prop :=
  ∀ left ∈ peers, ∀ right ∈ peers, closer target left right = false

structure Promising (node target : ID) (results known : List ID) : Prop where
  ranked : results.Pairwise (Precedes target)
  away : ∀ peer ∈ results, peer.equals node = false
  nearest : ∀ peer ∈ known, peer ∉ results → ∀ kept ∈ results, closer target peer kept = false

section Sorting

variable {node target : ID} {results known : List ID}

/-- The comparison finds nothing to move, and up to twelve peers are left alone. -/
theorem returned_few {sorter : Sorter ID} (steady : Steady sorter) (few : results.length ≤ 12) :
    returned sorter target results = results := by
  have still : InOrder (byElement fun _ _ : ID => false) results := by
    intro current i j _ _
    unfold byElement
    split <;> rfl
  rw [returned_eq, steady _ _ few still, List.take_of_length_le (Nat.le_trans few (by decide))]

theorem nearest_of_promising (promising : Promising node target results known)
    (short : results.length ≤ bucketSize) : Nearest node target known results where
  distinct := promising.ranked.imp And.left
  away := promising.away
  sorted := promising.ranked.imp And.right
  size := short
  nearest := promising.nearest

theorem promising_of_nearest (nearest : Nearest node target known results) :
    Promising node target results known where
  ranked := (List.pairwise_and_iff.mpr ⟨nearest.distinct, nearest.sorted⟩)
  away := nearest.away
  nearest := nearest.nearest

/-- Equally far peers may be cut and moved in any way. -/
theorem nearest_of_alike (promising : Promising node target results known) (alike : Alike target results)
    (sorter : Sorter ID) : Nearest node target known (returned sorter target results) := by
  rw [returned_eq]
  have perm := sorter.perm (byElement fun _ _ => false) results
  have inside : ∀ peer ∈ (sorter.sort (byElement fun _ _ => false) results).take bucketSize,
      peer ∈ results := fun peer member => perm.mem_iff.mp (List.mem_of_mem_take member)
  have apart : (sorter.sort (byElement fun _ _ => false) results).Pairwise
      fun left right => left.equals right = false :=
    (perm.pairwise_iff fun {left right} apart => equals_comm right left ▸ apart).mpr
      (promising.ranked.imp And.left)
  refine ⟨apart.sublist (List.take_sublist _ _), fun peer member => promising.away peer (inside peer member),
    ?_, List.length_take_le _ _, ?_⟩
  · exact List.pairwise_of_forall_mem_list fun left leftMember right rightMember =>
      alike right (inside right rightMember) left (inside left leftMember)
  · intro peer named missing kept member
    by_cases gatheredToo : peer ∈ results
    · exact alike peer gatheredToo kept (inside kept member)
    · exact promising.nearest peer named gatheredToo kept (inside kept member)

theorem returned_of_perm (target : ID) {front rest : List ID} (many : 12 < results.length)
    (perm : results.Perm (front ++ rest)) (few : front.length ≤ bucketSize) :
    ∃ sorter : Sorter ID, Steady sorter ∧ ∃ more, returned sorter target results = front ++ more ∧ more ⊆ rest := by
  refine ⟨wilful (front ++ rest), wilful_steady _, rest.take (bucketSize - front.length), ?_,
    List.take_subset _ _⟩
  have plain : (byElement fun _ _ : ID => false) = fun _ _ _ => false := by
    funext current i j
    unfold byElement
    split <;> rfl
  rw [returned_eq, plain, wilful_sort _ _ _ perm.symm (fun still => absurd still.1 (by omega)), List.take_append,
    List.take_of_length_le few]

theorem promising_of_many (many : 12 < results.length)
    (always : ∀ sorter, Steady sorter → Nearest node target known (returned sorter target results)) :
    Promising node target results known ∧ Alike target results := by
  have tied : results.Pairwise fun left right => Precedes target left right ∧ closer target left right = false := by
    refine List.pairwise_iff_forall_sublist.mpr fun {left right} sub => ?_
    obtain ⟨rest, perm⟩ := sub.exists_perm_append
    obtain ⟨forth, forthSteady, more, listed, _⟩ := returned_of_perm target many perm (by simp [bucketSize])
    obtain ⟨back, backSteady, others, swapped, _⟩ := returned_of_perm target many
      (perm.trans ((List.Perm.swap right left []).append_right rest)) (by simp [bucketSize])
    have first := always forth forthSteady
    have second := always back backSteady
    rw [listed] at first
    rw [swapped] at second
    have apart := first.distinct
    have ordered := first.sorted
    have reversed := second.sorted
    simp only [List.cons_append, List.nil_append, List.pairwise_cons, List.mem_cons] at apart ordered reversed
    exact ⟨⟨apart.1 right (Or.inl rfl), ordered.1 right (Or.inl rfl)⟩, reversed.1 left (Or.inl rfl)⟩
  -- a peer put first is in the list, and the others there come from the gathered ones
  have front : ∀ peer ∈ results, ∃ peers, peer ∈ peers ∧ peers ⊆ results ∧ Nearest node target known peers := by
    intro peer member
    have perm : results.Perm ([peer] ++ results.erase peer) := List.perm_cons_erase member
    obtain ⟨sorter, steady, more, listed, fromRest⟩ := returned_of_perm target many perm
      (by simp [bucketSize])
    refine ⟨[peer] ++ more, by simp, ?_, listed ▸ always sorter steady⟩
    intro other inside
    rcases List.mem_append.mp inside with first | later
    · rw [List.mem_singleton.mp first]
      exact member
    · exact List.mem_of_mem_erase (fromRest later)
  refine ⟨⟨tied.imp And.left, fun peer member => ?_, fun peer named missing kept member => ?_⟩, ?_⟩
  · obtain ⟨peers, inside, _, nearest⟩ := front peer member
    exact nearest.away peer inside
  · obtain ⟨peers, inside, subset, nearest⟩ := front kept member
    exact nearest.nearest peer named (fun there => missing (subset there)) kept inside
  · have both := tied.imp fun {left right} pair =>
      show closer target left right = false ∧ closer target right left = false from ⟨pair.2, pair.1.2⟩
    have symmetric : Std.Symm fun left right =>
        closer target left right = false ∧ closer target right left = false := ⟨fun _ _ => And.symm⟩
    have irrefl := (closer_strictWeak target).irrefl
    intro left leftMember right rightMember
    exact (both.forall_of_forall (fun peer _ => ⟨irrefl peer, irrefl peer⟩) leftMember rightMember).1

/-- With a sort of the library's kind the list keeps its promises exactly if it keeps
them as it stands and nothing can be moved. -/
theorem nearest_iff_promising :
    (∀ sorter, Steady sorter → Nearest node target known (returned sorter target results)) ↔
      Promising node target results known ∧ (results.length ≤ 12 ∨ Alike target results) := by
  constructor
  · intro always
    by_cases few : results.length ≤ 12
    · have nearest := always insertionSorter insertionSorter_steady
      rw [returned_few insertionSorter_steady few] at nearest
      exact ⟨promising_of_nearest nearest, Or.inl few⟩
    · exact (promising_of_many (by omega) always).imp_right Or.inr
  · rintro ⟨promising, few | alike⟩ sorter steady
    · rw [returned_few steady few]
      exact nearest_of_promising promising (Nat.le_trans few (by decide))
    · exact nearest_of_alike promising alike sorter

end Sorting

/-! What arrives. -/

/-- Each peer that arrives is new, is not the node, and is no nearer than those before. -/
def Arrives (node target : ID) : List ID → List ID → Prop
  | _, [] => True
  | before, peer :: rest =>
      peer.equals node = false ∧ (∀ earlier ∈ before, Precedes target earlier peer) ∧
        Arrives node target (before ++ [peer]) rest

instance (node target : ID) (before arrivals : List ID) : Decidable (Arrives node target before arrivals) := by
  induction arrivals generalizing before with
  | nil => exact isTrue trivial
  | cons peer rest ih =>
      unfold Arrives Precedes
      infer_instance

theorem arrives_iff (node target : ID) {before : List ID} (arrivals : List ID)
    (ranked : before.Pairwise (Precedes target)) :
    Arrives node target before arrivals ↔
      (before ++ arrivals).Pairwise (Precedes target) ∧ ∀ peer ∈ arrivals, peer.equals node = false := by
  induction arrivals generalizing before with
  | nil => simpa [Arrives] using ranked
  | cons peer rest ih =>
      rw [Arrives, List.append_cons before peer rest]
      constructor
      · rintro ⟨own, behind, later⟩
        have grown : (before ++ [peer]).Pairwise (Precedes target) :=
          List.pairwise_append.mpr ⟨ranked, List.pairwise_singleton _ _, fun earlier member other same =>
            List.mem_singleton.mp same ▸ behind earlier member⟩
        obtain ⟨all, away⟩ := (ih grown).mp later
        exact ⟨all, List.forall_mem_cons.mpr ⟨own, away⟩⟩
      · rintro ⟨all, away⟩
        have grown := (List.pairwise_append.mp all).1
        obtain ⟨own, others⟩ := List.forall_mem_cons.mp away
        exact ⟨own, fun earlier member => (List.pairwise_append.mp grown).2.2 earlier member peer (by simp),
          (ih grown).mpr ⟨all, others⟩⟩

theorem findClosestPeers_ranked {sorter : Sorter ID} {table : RoutingTable} (valid : Valid table) {target : ID}
    {count : Int} {closest : List ID} (found : findClosestPeers sorter table target count = .done closest) :
    closest.Pairwise (Precedes target) := by
  by_cases same : target.id.length = table.self.id.length
  · rcases Int.lt_or_le count 0 with negative | natural
    · rcases findClosestPeers_length found with rfl | cut
      · exact List.Pairwise.nil
      · omega
    · obtain ⟨last, gathered, returned, window, ordered, _⟩ :=
        findClosestPeers_spec valid target sorter same count natural
      cases found.symm.trans returned
      have symmetric : Std.Symm fun left right : ID => left.id ≠ right.id := ⟨fun _ _ => Ne.symm⟩
      have apart : gathered.Pairwise fun left right => left.equals right = false := by
        refine window.nodup.imp_of_mem fun {left right} leftMember rightMember different => ?_
        have hashes := (stored_distinct valid).forall ((window.mem left).mp leftMember).1
          ((window.mem right).mp rightMember).1 different
        exact Bool.eq_false_iff.mpr fun equal => hashes ((equals_iff left right).mp equal)
      exact (List.pairwise_and_iff.mpr ⟨apart, ordered⟩).sublist (List.take_sublist _ _)
  · rw [findClosestPeers, if_pos fun equal => same equal.symm] at found
    cases found
    exact List.Pairwise.nil

/-- What the inputs have to be: the closest peers dealt out, the reported peers outside the
first batch of the lookup they were reported to, in the order of arrival, and all the
reported ones. -/
structure Obliging (node target : ID) (dealt arrivals named : List ID) : Prop where
  unmoved : (dealt ++ arrivals).length ≤ 12 ∨ Alike target (dealt ++ arrivals)
  own : ∀ peer ∈ dealt, peer.equals node = false
  arrive : Arrives node target dealt arrivals
  skipped : ∀ peer ∈ named, peer ∉ dealt ++ arrivals → ∀ kept ∈ dealt ++ arrivals, closer target peer kept = false

theorem obliging_iff {node target : ID} {dealt arrivals named : List ID} (ranked : dealt.Pairwise (Precedes target)) :
    (∀ sorter, Steady sorter → Nearest node target (dealt ++ named) (returned sorter target (dealt ++ arrivals))) ↔
      Obliging node target dealt arrivals named := by
  rw [nearest_iff_promising]
  constructor
  · rintro ⟨⟨all, away, nearest⟩, unmoved⟩
    refine ⟨unmoved, fun peer member => away peer (List.mem_append_left _ member), ?_, ?_⟩
    · exact (arrives_iff node target arrivals ranked).mpr
        ⟨all, fun peer member => away peer (List.mem_append_right _ member)⟩
    · exact fun peer member => nearest peer (List.mem_append_right _ member)
  · rintro ⟨unmoved, own, arrive, skipped⟩
    obtain ⟨all, others⟩ := (arrives_iff node target arrivals ranked).mp arrive
    refine ⟨⟨all, List.forall_mem_append.mpr ⟨own, others⟩, fun peer known missing => ?_⟩, unmoved⟩
    rcases List.mem_append.mp known with dealtOut | heard
    · exact absurd (List.mem_append_left _ dealtOut) missing
    · exact skipped peer heard missing

/-- At every point of a search, hence when all lookups have returned, the list to be
returned keeps its promises with every sort of the library's kind exactly if the answers
oblige: at most twelve peers come together or all are equally far, the peers outside the
first batches arrive new and in increasing distance, and no peer skipped for its key is
nearer. -/
theorem findNode_nearest_iff (config : Config) (self : ID) (ops : List Op) (routes : RoutingTable)
    (reached : history self ops = .done routes) (closest : List ID)
    (found : findClosestPeers config.sorter routes config.target config.alpha = .done closest)
    (disjointPaths : Nat) (positive : 0 < disjointPaths) (start last : Search)
    (started : findNode config routes disjointPaths = .done start) (population : List String)
    (events : List Event) (run : Run (Guarded config population) (.done start) events (.done last)) :
    last.results = dealtOut config.node closest ++ gathered last.log ∧
    ((∀ sorter : Sorter ID, Steady sorter →
        Nearest config.node config.target (dealtOut config.node closest ++ heard last.log)
          (returned sorter config.target last.results)) ↔
      Obliging config.node config.target (dealtOut config.node closest) (gathered last.log) (heard last.log)) := by
  obtain ⟨owner, valid⟩ := history_valid reached
  obtain ⟨dealt, ended, dealtSearch⟩ := (findNode_eq found disjointPaths positive).2 start started
  have dealtResults : start.results = dealtOut config.node closest := by
    rw [dealtSearch]
    simpa [dealtOut] using (distribute_spec ended (by simp)).2.1
  have initial := (start_invariant positive valid found started population).1
  have recordedStart : Recorded start.results start := by
    rw [dealtSearch]
    exact ⟨by simp [gathered], by simp, by simp⟩
  obtain ⟨_, ⟨rfl⟩, _, recorded⟩ := run.invariant
    (fun state => ∃ search, state = .done search ∧ Invariant config population
      (keys closest ++ [config.node.publicKeyHex]) start.results.length search ∧
      Recorded start.results search)
    (fun _ _ _ step inv => guarded_recorded step inv) ⟨start, rfl, initial, recordedStart⟩
  have results := recorded.results
  rw [dealtResults] at results
  rw [results]
  exact ⟨rfl, obliging_iff ((findClosestPeers_ranked valid found).sublist List.filter_sublist)⟩

/-! The small table. Peers are named after their hashes. -/

def farContact : ID := plainID "tcp://10.0.0.8:1" [0x70]
def nearContact : ID := plainID "tcp://10.0.0.9:1" [0x90]

/-- The contact reports a peer, the peer reports another, and that one reports the
contact again. -/
def onward : List Event :=
  [.begin 0, .answer 0 (.peers .cached [(otherContact, .connected)]),
    .answer 0 (.peers .cached [(farContact, .connected)]), .answer 0 (.peers .cached [(smallContact, .connected)]),
    .finish]

theorem harmless_report (env : Env) (self peer other : ID) :
    Harmless env self peer (.peers .cached [(other, .connected)]) :=
  ⟨by simp [Reply.safe, Link.safe, Presence.safe], by simp [delivered]⟩

theorem findNode_nearest_iff_onward :
    findNode smallConfig smallTable 1 = .done smallStart ∧
    ∃ last, Run (Guarded smallConfig ["40", "60", "70"]) (.done smallStart) onward (.done last) ∧
      last.active = none ∧ last.waiting = [] ∧ last.results = [smallContact, otherContact, farContact] ∧
      ∀ sorter : Sorter ID, Steady sorter →
        Nearest smallOwner smallTarget [smallContact, otherContact, farContact, smallContact]
          (returned sorter smallTarget last.results) := by
  have start : findNode smallConfig smallTable 1 = .done smallStart := by decide
  obtain ⟨last, run, free, ended, log⟩ : ∃ last,
      Run (Guarded smallConfig ["40", "60", "70"]) (.done smallStart) onward (.done last) ∧
      last.active = none ∧ last.waiting = [] ∧
      last.log = [([smallContact], [[otherContact], [farContact], [smallContact]])] := by
    refine ⟨_, .cons ⟨smallStart, rfl, .begin rfl rfl, trivial, trivial⟩ <|
      .cons ⟨smallBegun, rfl, .of_receive rfl (by decide) rfl rfl, ?_, ?_⟩ <|
      .cons ⟨_, rfl, .of_receive rfl (by decide) rfl rfl, ?_, ?_⟩ <|
      .cons ⟨_, rfl, .of_receive rfl (by decide) rfl rfl, ?_, ?_⟩ <|
      .cons ⟨_, rfl, .finish rfl (by decide), trivial, trivial⟩ (.nil _), rfl, rfl, by decide⟩
    · simp only [Within]
      decide
    · exact fun _ _ _ _ => harmless_report ..
    · simp only [Within]
      decide
    · exact fun _ _ _ _ => harmless_report ..
    · simp only [Within]
      decide
    · exact fun _ _ _ _ => harmless_report ..
  obtain ⟨results, nearest⟩ := findNode_nearest_iff smallConfig smallOwner [.update smallContact] smallTable
    (by decide) [smallOwner, smallContact] (by decide) 1 (by decide) smallStart last start _ _ run
  rw [log] at results nearest
  refine ⟨start, last, run, free, ended, results.trans (by decide), nearest.mpr ⟨Or.inl (by decide), ?_, ?_, ?_⟩⟩
  all_goals decide

/-- The contact reports one peer twice and then one that is nearer to the target than
both; neither of them answers. -/
def smallEcho : Reply :=
  .peers .cached [(otherContact, .connected), (otherContact, .connected), (nearContact, .connected)]

/-- Every sort of the library's kind returns a repetition, and the nearest peer last. -/
theorem findNode_not_nearest :
    findNode smallConfig smallTable 1 = .done smallStart ∧
    ∃ last, Run (fun before event after => Step smallConfig before event (.done after)) smallStart
        [.begin 0, .answer 0 smallEcho, .answer 0 (.failed .cached), .answer 0 (.failed .cached), .finish] last ∧
      last.active = none ∧ last.waiting = [] ∧
      (∀ sorter : Sorter ID, Steady sorter → returned sorter smallTarget last.results =
        [smallContact, otherContact, otherContact, nearContact]) ∧
      closer smallTarget nearContact smallContact = true := by
  obtain ⟨last, run, free, ended, results⟩ : ∃ last,
      Run (fun before event after => Step smallConfig before event (.done after)) smallStart
        [.begin 0, .answer 0 smallEcho, .answer 0 (.failed .cached), .answer 0 (.failed .cached), .finish] last ∧
      last.active = none ∧ last.waiting = [] ∧
      last.results = [smallContact, otherContact, otherContact, nearContact] :=
    ⟨_, .cons (.begin rfl rfl) <| .cons (.of_receive (rfl : smallBegun.active = _) (by decide) rfl rfl) <|
      .cons (.of_receive rfl (by decide) rfl rfl) <| .cons (.of_receive rfl (by decide) rfl rfl) <|
      .cons (.finish rfl (by decide)) (.nil _), rfl, rfl, by decide⟩
  refine ⟨by decide, last, run, free, ended, fun sorter steady => ?_, by decide⟩
  rw [results, returned_few steady (by decide)]

end Carrier.LookupResults
