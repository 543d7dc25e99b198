import Carrier.Routes
import Carrier.SortSlice

/-! `FindClosestPeers` of `dht/routes.go`. The search starts in the target's
bucket and takes in one lower and one higher bucket a round until it holds
enough contacts. By distance, every higher bucket comes before every lower one,
so stopping early can leave out a contact of a higher bucket that is nearer
than contacts already taken. -/
namespace Carrier.ClosestPeers

open GoRuntime Identity Routes SortSlice XorMetric

def closer (target left right : ID) : Bool := (left.xorID target).less (right.xorID target)

def appendBucket (table : RoutingTable) (id : Int) (peers : List ID) : Outcome (List ID) :=
  match table.bucket id with
  | none => .panic
  | some bucket => .done (peers ++ bucket)

def widenOnce (table : RoutingTable) (center : Int) (i : Nat) (peers : List ID) :
    Outcome (List ID) :=
  (if center - i ≥ 0 then appendBucket table (center - i) peers else .done peers).bind fun lower =>
    if center + i < table.self.id.length * 8 then appendBucket table (center + i) lower
    else .done lower

/-- The widening loop. Running out of fuel counts as a failure, so a `done`
result also says that the loop ended by its own condition. -/
def widen (table : RoutingTable) (center count : Int) : Nat → Nat → List ID → Outcome (List ID)
  | 0, _, _ => .panic
  | fuel + 1, i, peers =>
      if peers.length < count ∧ (center - i ≥ 0 ∨ center + i < table.self.id.length * 8) then
        (widenOnce table center i peers).bind (widen table center count fuel (i + 1))
      else .done peers

def findClosestPeers (sorter : Sorter ID) (table : RoutingTable) (target : ID) (count : Int) :
    Outcome (List ID) :=
  if table.self.id.length ≠ target.id.length then .done []
  else
    (appendBucket table (bucketID table.self target) []).bind fun bucket =>
    (widen table (bucketID table.self target) count (table.self.id.length * 8 + 1) 1 bucket).bind
      fun peers =>
        let sorted := sorter.sort (byElement (closer target)) peers
        if sorted.length > count then
          -- `peers[:count]` panics on a negative count.
          if count < 0 then .panic else .done (sorted.take count.toNat)
        else .done sorted

/-- A call that returns has cut its list; only an empty list escapes the cut. -/
theorem findClosestPeers_length {sorter : Sorter ID} {table : RoutingTable} {target : ID}
    {count : Int} {peers : List ID} (returned : findClosestPeers sorter table target count = .done peers) :
    peers = [] ∨ peers.length ≤ count := by
  unfold findClosestPeers at returned
  split at returned
  · simp only [Outcome.done.injEq] at returned
    exact Or.inl returned.symm
  · obtain ⟨bucket, _, widened⟩ := Outcome.bind_eq_done.mp returned
    obtain ⟨gathered, _, cut⟩ := Outcome.bind_eq_done.mp widened
    refine Or.inr ?_
    dsimp only at cut
    by_cases long : ((sorter.sort (byElement (closer target)) gathered).length : Int) > count
    · by_cases negative : count < 0
      · simp [long, negative] at cut
      · simp only [long, negative, ↓reduceIte, Outcome.done.injEq] at cut
        have bound := List.length_take_le count.toNat
          (sorter.sort (byElement (closer target)) gathered)
        rw [← cut]
        omega
    · simp only [long, ↓reduceIte, Outcome.done.injEq] at cut
      rw [← cut]
      omega

theorem closer_strictWeak (target : ID) : StrictWeak (closer target) := by
  have below : ∀ left right, closer target left right = true ↔
      xorBytes left.id target.id < xorBytes right.id target.id := by
    intro left right
    simp [closer, ID.less, ID.xorID, bytesCompare_eq_neg_one_iff]
  have notBelow : ∀ left right, closer target left right = false ↔
      ¬ xorBytes left.id target.id < xorBytes right.id target.id := by
    intro left right
    rw [← below, Bool.not_eq_true]
  refine ⟨fun a => ?_, fun a b c first second => ?_, fun a b c first second => ?_⟩
  · exact (notBelow a a).mpr (List.lt_irrefl _)
  · exact (below a c).mpr (List.lt_trans ((below a b).mp first) ((below b c).mp second))
  · have low := List.not_lt.mp ((notBelow a b).mp first)
    have high := List.not_lt.mp ((notBelow b c).mp second)
    exact (notBelow a c).mpr (List.not_lt.mpr (List.le_trans high low))

section Window

variable {table : RoutingTable} (valid : Valid table) (target : ID)

/-- How many buckets a contact lies away from the target's bucket. -/
def gap (table : RoutingTable) (target peer : ID) : Nat :=
  (bucketID table.self peer - bucketID table.self target).natAbs

/-- The contacts taken in after `width` rounds. -/
structure Window (table : RoutingTable) (target : ID) (width : Nat) (peers : List ID) : Prop where
  nodup : peers.Nodup
  mem : ∀ peer, peer ∈ peers ↔ peer ∈ table.stored ∧ gap table target peer ≤ width

include valid

theorem stored_nodup : table.stored.Nodup :=
  (stored_distinct valid).imp fun apart same => apart (congrArg ID.id same)

theorem stored_length (peer : ID) (member : peer ∈ table.stored) :
    peer.id.length = table.self.id.length := by
  obtain ⟨index, bucket, found, inside⟩ := (mem_stored_iff table peer).mp member
  exact (valid.placed index bucket found peer inside).1

theorem mem_bucket_iff (id : Int) (bucket : Bucket) (loaded : table.bucket id = some bucket)
    (peer : ID) : peer ∈ bucket ↔ peer ∈ table.stored ∧ bucketID table.self peer = id := by
  obtain ⟨low, found⟩ := (bucket_eq_some_iff table id bucket).mp loaded
  constructor
  · intro inside
    have place := (valid.placed _ bucket found peer inside).2
    exact ⟨(mem_stored_iff table peer).mpr ⟨_, bucket, found, inside⟩, by omega⟩
  · rintro ⟨member, place⟩
    obtain ⟨other, otherLoaded, inside⟩ := stored_bucket valid peer peer member rfl
    rw [place, loaded] at otherLoaded
    cases otherLoaded
    exact inside

theorem visit_spec (id : Int) (guard : Prop) [Decidable guard]
    (inRange : guard ↔ 0 ≤ id ∧ id < 8 * table.self.id.length) (peers : List ID)
    (nodup : peers.Nodup) (fresh : ∀ peer ∈ peers, bucketID table.self peer ≠ id) :
    ∃ next, (if guard then appendBucket table id peers else .done peers) = .done next ∧
      next.Nodup ∧
      ∀ peer, peer ∈ next ↔ peer ∈ peers ∨ (peer ∈ table.stored ∧ bucketID table.self peer = id) := by
  by_cases inside : guard
  · obtain ⟨low, high⟩ := inRange.mp inside
    have bound : id.toNat < table.buckets.length := by rw [valid.width]; omega
    have found := List.getElem?_eq_getElem bound
    have loaded := (bucket_eq_some_iff table id _).mpr ⟨low, found⟩
    have members := mem_bucket_iff valid id _ loaded
    have bucketNodup : (table.buckets.get ⟨id.toNat, bound⟩).Nodup :=
      (valid.distinct _ (List.mem_of_getElem? found)).imp fun apart same => apart (congrArg ID.id same)
    refine ⟨peers ++ table.buckets.get ⟨id.toNat, bound⟩, by simp [inside, appendBucket, loaded], ?_, ?_⟩
    · refine List.nodup_append.mpr ⟨nodup, bucketNodup, ?_⟩
      intro left leftMember right rightMember same
      exact fresh left leftMember (same ▸ ((members right).mp rightMember).2)
    · intro peer
      rw [List.mem_append]
      exact or_congr_right (members peer)
  · refine ⟨peers, by simp [inside], nodup, fun peer => ?_⟩
    constructor
    · exact Or.inl
    · rintro (old | ⟨member, place⟩)
      · exact old
      · have range := bucketID_range table.self peer valid.nonempty (stored_length valid peer member)
        exact absurd (inRange.mpr ⟨by omega, by omega⟩) inside

theorem start_window (same : target.id.length = table.self.id.length) :
    ∃ peers, appendBucket table (bucketID table.self target) [] = .done peers ∧
      Window table target 0 peers := by
  obtain ⟨low, high⟩ := bucketID_range table.self target valid.nonempty same
  obtain ⟨peers, visited, nodup, members⟩ := visit_spec valid (bucketID table.self target) True
    (by simp [low, high]) [] List.nodup_nil (by simp)
  refine ⟨peers, by simpa using visited, nodup, fun peer => ?_⟩
  rw [members]
  simp only [List.not_mem_nil, false_or, gap]
  constructor
  · rintro ⟨member, place⟩; exact ⟨member, by omega⟩
  · rintro ⟨member, near⟩; exact ⟨member, by omega⟩

theorem widenOnce_window (same : target.id.length = table.self.id.length) (width : Nat)
    (peers : List ID) (window : Window table target width peers) :
    ∃ next, widenOnce table (bucketID table.self target) (width + 1) peers = .done next ∧
      Window table target (width + 1) next := by
  obtain ⟨low, high⟩ := bucketID_range table.self target valid.nonempty same
  have near : ∀ peer ∈ peers, (bucketID table.self peer - bucketID table.self target).natAbs ≤ width :=
    fun peer member => ((window.mem peer).mp member).2
  obtain ⟨lower, lowerVisit, lowerNodup, lowerMem⟩ := visit_spec valid
    (bucketID table.self target - (width + 1 : Nat))
    (bucketID table.self target - (width + 1 : Nat) ≥ 0) (by omega) peers window.nodup
    (fun peer member place => by have bound := near peer member; omega)
  obtain ⟨next, upperVisit, nextNodup, nextMem⟩ := visit_spec valid
    (bucketID table.self target + (width + 1 : Nat))
    (bucketID table.self target + (width + 1 : Nat) < table.self.id.length * 8) (by omega) lower
    lowerNodup (fun peer member place => by
      rcases (lowerMem peer).mp member with old | ⟨_, other⟩
      · have bound := near peer old; omega
      · omega)
  refine ⟨next, by rw [widenOnce, lowerVisit, Outcome.done_bind, upperVisit], nextNodup, fun peer => ?_⟩
  rw [nextMem, lowerMem, window.mem]
  simp only [gap]
  constructor
  · rintro ((⟨member, bound⟩ | ⟨member, place⟩) | ⟨member, place⟩) <;>
      exact ⟨member, by omega⟩
  · rintro ⟨member, bound⟩
    by_cases inner : (bucketID table.self peer - bucketID table.self target).natAbs ≤ width
    · exact Or.inl (Or.inl ⟨member, inner⟩)
    · by_cases below : bucketID table.self peer < bucketID table.self target
      · exact Or.inl (Or.inr ⟨member, by omega⟩)
      · exact Or.inr ⟨member, by omega⟩

omit valid in
theorem window_length (width : Nat) (left right : List ID) (first : Window table target width left)
    (second : Window table target width right) : left.length = right.length := by
  refine List.Perm.length_eq ((List.perm_ext_iff_of_nodup first.nodup second.nodup).mpr fun peer => ?_)
  rw [first.mem, second.mem]

/-- The loop stops at the first width that holds enough contacts, or once it has
passed both ends of the table. -/
theorem widen_spec (same : target.id.length = table.self.id.length) (count : Int) (fuel width : Nat)
    (fueled : 0 < fuel) (enough : 8 * table.self.id.length ≤ fuel + width) (peers : List ID)
    (window : Window table target width peers) :
    ∃ last final, widen table (bucketID table.self target) count fuel (width + 1) peers = .done final ∧
      Window table target last final ∧
      (count ≤ final.length ∨ ∀ peer ∈ table.stored, gap table target peer ≤ last) ∧
      ∀ inner before, width ≤ inner → inner < last → Window table target inner before →
        before.length < count := by
  obtain ⟨low, high⟩ := bucketID_range table.self target valid.nonempty same
  induction fuel generalizing width peers with
  | zero => omega
  | succ fuel ih =>
      by_cases going : peers.length < count ∧
          (bucketID table.self target - (width + 1 : Nat) ≥ 0 ∨
            bucketID table.self target + (width + 1 : Nat) < table.self.id.length * 8)
      · obtain ⟨next, widened, nextWindow⟩ := widenOnce_window valid target same width peers window
        obtain ⟨last, final, looped, finalWindow, stopped, minimal⟩ :=
          ih (width + 1) (by omega) (by omega) next nextWindow
        refine ⟨last, final, ?_, finalWindow, stopped, ?_⟩
        · rw [widen, if_pos going, widened, Outcome.done_bind, looped]
        · intro inner before from_ below beforeWindow
          by_cases here : inner = width
          · subst here
            rw [window_length target inner before peers beforeWindow window]
            exact going.1
          · exact minimal inner before (by omega) below beforeWindow
      · refine ⟨width, peers, by rw [widen, if_neg going], window, ?_,
          fun inner before from_ below => by omega⟩
        by_cases short : peers.length < count
        · right
          intro peer member
          have range := bucketID_range table.self peer valid.nonempty (stored_length valid peer member)
          have ended : ¬ (bucketID table.self target - (width + 1 : Nat) ≥ 0 ∨
              bucketID table.self target + (width + 1 : Nat) < table.self.id.length * 8) :=
            fun more => going ⟨short, more⟩
          simp only [gap]
          omega
        · left; omega

theorem findClosestPeers_spec (sorter : Sorter ID) (same : target.id.length = table.self.id.length)
    (count : Int) (natural : 0 ≤ count) :
    ∃ last found, findClosestPeers sorter table target count = .done (found.take count.toNat) ∧
      Window table target last found ∧ Ordered (closer target) found ∧
      (count ≤ found.length ∨ ∀ peer ∈ table.stored, gap table target peer ≤ last) ∧
      ∀ inner before, inner < last → Window table target inner before → before.length < count := by
  obtain ⟨first, started, firstWindow⟩ := start_window valid target same
  obtain ⟨last, final, looped, window, stopped, minimal⟩ := widen_spec valid target same count
    (table.self.id.length * 8 + 1) 0 (by omega) (by omega) first firstWindow
  have perm := sorter.perm (byElement (closer target)) final
  refine ⟨last, sorter.sort (byElement (closer target)) final, ?_, ?_,
    sorter.ordered _ (closer_strictWeak target) final, ?_, fun inner before => minimal inner before (by omega)⟩
  · have lengths : ¬ table.self.id.length ≠ target.id.length := by simp [same]
    rw [findClosestPeers, if_neg lengths, started, Outcome.done_bind, looped, Outcome.done_bind]
    by_cases long : (sorter.sort (byElement (closer target)) final).length > count
    · simp only [long, ↓reduceIte, Int.not_lt.mpr natural]
    · simp only [long, ↓reduceIte]
      rw [List.take_of_length_le (by omega)]
  · exact ⟨perm.nodup_iff.mpr window.nodup, fun peer => by rw [perm.mem_iff, window.mem]⟩
  · rw [perm.length_eq]; exact stopped

/-- A contact in a bucket below both others is farther than the other one. -/
theorem closer_of_lower_bucket (near far : ID) (same : target.id.length = table.self.id.length)
    (nearStored : near ∈ table.stored) (farStored : far ∈ table.stored)
    (belowNear : bucketID table.self far < bucketID table.self near)
    (belowTarget : bucketID table.self far < bucketID table.self target) :
    closer target near far = true := by
  have nearLength := stored_length valid near nearStored
  have farLength := stored_length valid far farStored
  rw [bucketID_eq _ _ valid.nonempty farLength, bucketID_eq _ _ valid.nonempty nearLength] at belowNear
  rw [bucketID_eq _ _ valid.nonempty farLength, bucketID_eq _ _ valid.nonempty same] at belowTarget
  have nearLevel : levelFrom table.self near < levelFrom table.self far := by omega
  have targetLevel : levelFrom table.self target < levelFrom table.self far := by omega
  exact xorID_less_of_masked (by omega) (by omega) (xor_lt_of_level_above nearLevel targetLevel)

end Window

/-- The contacts in buckets strictly nearer to the target's bucket than `peer`'s. -/
def inner (table : RoutingTable) (target peer : ID) : List ID :=
  table.stored.filter fun other => decide (gap table target other < gap table target peer)

/-- No contact above the target's bucket is cut off too early: if the buckets
before it already hold `count` contacts, `count` of these are no farther. -/
def Covered (table : RoutingTable) (target : ID) (count : Nat) : Prop :=
  ∀ peer ∈ table.stored, bucketID table.self target < bucketID table.self peer →
    count ≤ (inner table target peer).length →
    count ≤ (inner table target peer).countP fun other => !closer target peer other

section Exactness

variable {table : RoutingTable} (valid : Valid table) (target : ID) {last count : Nat}
  {found : List ID} (window : Window table target last found)
  (ordered : Ordered (closer target) found)
  (stopped : count ≤ found.length ∨ ∀ peer ∈ table.stored, gap table target peer ≤ last)

include valid

theorem inner_nodup (peer : ID) : (inner table target peer).Nodup :=
  (stored_nodup valid).filter _

omit valid in
theorem mem_inner (peer other : ID) : other ∈ inner table target peer ↔
    other ∈ table.stored ∧ gap table target other < gap table target peer := by
  simp [inner]

include window

omit valid in
theorem window_subset_inner (peer : ID) (beyond : last < gap table target peer) :
    found ⊆ inner table target peer := by
  intro other member
  obtain ⟨present, near⟩ := (window.mem other).mp member
  exact (mem_inner target peer other).mpr ⟨present, by omega⟩

include stopped

omit valid window in
theorem window_holds_count (peer : ID) (member : peer ∈ table.stored)
    (beyond : last < gap table target peer) : count ≤ found.length := by
  rcases stopped with full | exhausted
  · exact full
  · have near := exhausted peer member; omega

include ordered

/-- Under `Covered` nothing left out is nearer. The induction is on the distance
of the left-out contact's bucket: the contacts `Covered` counts for it are in the
window, or were left out before it. -/
theorem left_out_not_closer (covered : Covered table target count)
    (same : target.id.length = table.self.id.length) (width : Nat) :
    ∀ peer ∈ table.stored, gap table target peer = width → peer ∉ found.take count →
      ∀ kept ∈ found.take count, closer target peer kept = false := by
  have weak := closer_strictWeak target
  induction width using Nat.strong_induction_on with
  | _ width ih =>
      intro peer member place missing kept keptMember
      have keptFound := List.mem_of_mem_take keptMember
      obtain ⟨keptStored, keptNear⟩ := (window.mem kept).mp keptFound
      -- Inside the window the sort decides.
      by_cases inWindow : peer ∈ found
      · have dropped : peer ∈ found.drop count := by
          rw [← List.take_append_drop count found] at inWindow
          exact (List.mem_append.mp inWindow).resolve_left missing
        exact ordered_cut found ordered count kept peer keptMember dropped
      have beyond : last < gap table target peer := by
        by_contra near
        exact inWindow ((window.mem peer).mpr ⟨member, by omega⟩)
      -- Beyond it, a contact below the target's bucket is farther than all others.
      -- One above it needs `Covered`: the contacts counted there would all have
      -- to be nearer than `kept`, which the first `count` places do not allow.
      by_cases above : bucketID table.self target < bucketID table.self peer
      · by_contra nearer
        have nearer : closer target peer kept = true := by simpa using nearer
        have enough := window_holds_count target stopped peer member beyond
        have subset := window_subset_inner target window peer beyond
        have inside := covered peer member above
          (Nat.le_trans enough (window.nodup.length_le_of_subset subset))
        have counted : ((inner table target peer).filter fun other => !closer target peer other) ⊆
            found.filter fun other => closer target other kept := by
          intro other chosen
          obtain ⟨otherInner, noFarther⟩ := List.mem_filter.mp chosen
          obtain ⟨otherStored, otherGap⟩ := (mem_inner target peer other).mp otherInner
          have noFarther : closer target peer other = false := by simpa using noFarther
          have otherNearer : closer target other kept = true := by
            by_contra farther
            have chain := weak.negTrans peer other kept noFarther (by simpa using farther)
            rw [nearer] at chain
            exact Bool.noConfusion chain
          refine List.mem_filter.mpr ⟨?_, otherNearer⟩
          by_contra outside
          have earlier := ih (gap table target other) (by omega) other otherStored rfl
            (fun taken => outside (List.mem_of_mem_take taken)) kept keptMember
          rw [otherNearer] at earlier
          exact Bool.noConfusion earlier
        have bounded := (((inner_nodup valid target peer).filter _).length_le_of_subset counted)
        have few := countP_lt_of_mem_take weak found ordered count kept keptMember
        rw [← List.countP_eq_length_filter, ← List.countP_eq_length_filter] at bounded
        omega
      · have lowerKept : bucketID table.self peer < bucketID table.self kept := by
          simp only [gap] at keptNear beyond; omega
        have lowerTarget : bucketID table.self peer < bucketID table.self target := by
          simp only [gap] at beyond; omega
        exact weak.asymm
          (closer_of_lower_bucket valid target kept peer same keptStored member lowerKept lowerTarget)

omit ordered in
theorem covered_of_left_out
    (minimal : ∀ width before, width < last → Window table target width before → before.length < count)
    (nearest : ∀ peer ∈ table.stored, peer ∉ found.take count →
      ∀ kept ∈ found.take count, closer target peer kept = false) :
    Covered table target count := by
  intro peer member above enough
  have positive : 0 < gap table target peer := by simp only [gap]; omega
  have innerWindow : Window table target (gap table target peer - 1) (inner table target peer) :=
    ⟨inner_nodup valid target peer, fun other => by rw [mem_inner]; constructor <;> rintro ⟨h, g⟩ <;>
      exact ⟨h, by omega⟩⟩
  have beyond : last < gap table target peer := by
    by_contra reached
    have short := minimal (gap table target peer - 1) _ (by omega) innerWindow
    omega
  have missing : peer ∉ found.take count := by
    intro taken
    have near := ((window.mem peer).mp (List.mem_of_mem_take taken)).2
    omega
  have subset : found.take count ⊆
      (inner table target peer).filter fun other => !closer target peer other := by
    intro kept keptMember
    refine List.mem_filter.mpr
      ⟨window_subset_inner target window peer beyond (List.mem_of_mem_take keptMember), ?_⟩
    simp [nearest peer member missing kept keptMember]
  have size : (found.take count).length = count :=
    List.length_take_of_le (window_holds_count target stopped peer member beyond)
  have bounded := ((List.take_sublist count found).nodup window.nodup).length_le_of_subset subset
  rwa [size, ← List.countP_eq_length_filter] at bounded

end Exactness

/-- Over every history, target and count, the returned list is the nearest one
exactly when no contact above the target's bucket is cut off too early. -/
theorem findClosestPeers_nearest_iff (sorter : Sorter ID) (self : ID) (ops : List Op)
    (table : RoutingTable) (reached : history self ops = .done table) (target : ID)
    (same : target.id.length = self.id.length) (count : Int) (natural : 0 ≤ count) :
    ∃ peers, findClosestPeers sorter table target count = .done peers ∧
      ((∀ peer ∈ table.stored, peer ∉ peers → ∀ kept ∈ peers, closer target peer kept = false) ↔
        Covered table target count.toNat) := by
  obtain ⟨owner, valid⟩ := history_valid reached
  have sameTable : target.id.length = table.self.id.length := owner ▸ same
  obtain ⟨last, found, returned, window, ordered, stopped, minimal⟩ :=
    findClosestPeers_spec valid target sorter sameTable count natural
  have stopped : count.toNat ≤ found.length ∨ ∀ peer ∈ table.stored, gap table target peer ≤ last :=
    stopped.imp_left fun full => by omega
  refine ⟨found.take count.toNat, returned, fun nearest => ?_, fun covered => ?_⟩
  · refine covered_of_left_out valid target window stopped ?_ nearest
    intro width before below beforeWindow
    have short := minimal width before below beforeWindow
    omega
  · intro peer member
    exact left_out_not_closer valid target window ordered stopped covered sameTable _ peer member rfl

/-! The whole answer, and the buckets read for it. -/

def roundBuckets (table : RoutingTable) (center : Int) (i : Nat) : List Int :=
  (if center - i ≥ 0 then [center - i] else []) ++
    if center + i < table.self.id.length * 8 then [center + i] else []

def widenBuckets (table : RoutingTable) (center count : Int) : Nat → Nat → List ID → List Int
  | 0, _, _ => []
  | fuel + 1, i, peers =>
      if peers.length < count ∧ (center - i ≥ 0 ∨ center + i < table.self.id.length * 8) then
        roundBuckets table center i ++
          match widenOnce table center i peers with
          | .done next => widenBuckets table center count fuel (i + 1) next
          | .panic => []
      else []

def searchedBuckets (table : RoutingTable) (target : ID) (count : Int) : List Int :=
  bucketID table.self target ::
    match appendBucket table (bucketID table.self target) [] with
    | .done bucket =>
        widenBuckets table (bucketID table.self target) count (table.self.id.length * 8 + 1) 1 bucket
    | .panic => []

def appendBuckets (table : RoutingTable) : List Int → List ID → Outcome (List ID)
  | [], peers => .done peers
  | id :: rest, peers => (appendBucket table id peers).bind (appendBuckets table rest)

theorem appendBuckets_append (table : RoutingTable) (left right : List Int) (peers : List ID) :
    appendBuckets table (left ++ right) peers =
      (appendBuckets table left peers).bind (appendBuckets table right) := by
  induction left generalizing peers with
  | nil => rfl
  | cons id rest ih =>
      rw [List.cons_append, appendBuckets, appendBuckets]
      cases appendBucket table id peers with
      | done next => exact ih next
      | panic => rfl

theorem widenOnce_eq (table : RoutingTable) (center : Int) (i : Nat) (peers : List ID) :
    widenOnce table center i peers = appendBuckets table (roundBuckets table center i) peers := by
  have single : ∀ (id : Int) (guard : Prop) [Decidable guard] (peers : List ID),
      appendBuckets table (if guard then [id] else []) peers =
        if guard then appendBucket table id peers else .done peers := by
    intro id guard _ peers
    split
    · cases read : appendBucket table id peers <;> simp [appendBuckets, read]
    · rfl
  rw [roundBuckets, appendBuckets_append, single, widenOnce]
  congr 1
  funext lower
  exact (single _ _ lower).symm

theorem widen_buckets (table : RoutingTable) (center count : Int) (fuel i : Nat) (peers final : List ID)
    (looped : widen table center count fuel i peers = .done final) :
    appendBuckets table (widenBuckets table center count fuel i peers) peers = .done final := by
  induction fuel generalizing i peers with
  | zero => cases looped
  | succ fuel ih =>
      rw [widen] at looped
      rw [widenBuckets]
      split
      · rename_i going
        rw [if_pos going] at looped
        obtain ⟨next, widened, rest⟩ := Outcome.bind_eq_done.mp looped
        rw [widened, appendBuckets_append, ← widenOnce_eq, widened]
        exact ih (i + 1) next rest
      · rename_i stopped
        rwa [if_neg stopped] at looped

theorem findClosestPeers_searched {sorter : Sorter ID} {table : RoutingTable} {target : ID} {count : Int}
    {peers : List ID} (same : target.id.length = table.self.id.length) (natural : 0 ≤ count)
    (returned : findClosestPeers sorter table target count = .done peers) :
    ∃ gathered, appendBuckets table (searchedBuckets table target count) [] = .done gathered ∧
      peers = (sorter.sort (byElement (closer target)) gathered).take count.toNat := by
  have lengths : ¬ table.self.id.length ≠ target.id.length := by simp [same]
  rw [findClosestPeers, if_neg lengths] at returned
  obtain ⟨bucket, started, widened⟩ := Outcome.bind_eq_done.mp returned
  obtain ⟨gathered, looped, cut⟩ := Outcome.bind_eq_done.mp widened
  refine ⟨gathered, ?_, ?_⟩
  · rw [searchedBuckets, appendBuckets, started, Outcome.done_bind]
    exact widen_buckets table _ count _ 1 bucket gathered looped
  · dsimp only at cut
    split at cut
    · rw [if_neg (by omega)] at cut
      exact (Outcome.done.inj cut).symm
    · rw [List.take_of_length_le (by omega)]
      exact (Outcome.done.inj cut).symm

theorem mem_roundBuckets (table : RoutingTable) {center id : Int} {i : Nat}
    (member : id ∈ roundBuckets table center i) :
    (center - i ≥ 0 ∧ id = center - i) ∨ (center + i < table.self.id.length * 8 ∧ id = center + i) := by
  simpa [roundBuckets] using member

theorem widenBuckets_spec (table : RoutingTable) (center count : Int) (low : 0 ≤ center)
    (high : center < 8 * table.self.id.length) (fuel i : Nat) (positive : 0 < i) (peers : List ID) :
    (widenBuckets table center count fuel i peers).Nodup ∧
      ∀ id ∈ widenBuckets table center count fuel i peers,
        i ≤ (id - center).natAbs ∧ 0 ≤ id ∧ id < 8 * table.self.id.length := by
  induction fuel generalizing i peers with
  | zero => simp [widenBuckets]
  | succ fuel ih =>
      rw [widenBuckets]
      split
      · have rest : ∃ later, (match widenOnce table center i peers with
            | .done next => widenBuckets table center count fuel (i + 1) next
            | .panic => []) = later ∧ later.Nodup ∧
            ∀ id ∈ later, i + 1 ≤ (id - center).natAbs ∧ 0 ≤ id ∧ id < 8 * table.self.id.length := by
          cases widenOnce table center i peers with
          | done next => exact ⟨_, rfl, ih (i + 1) (by omega) next⟩
          | panic => exact ⟨[], rfl, by simp⟩
        obtain ⟨later, same, nodup, further⟩ := rest
        rw [same]
        refine ⟨List.nodup_append.mpr ⟨?_, nodup, ?_⟩, ?_⟩
        · rw [roundBuckets]
          split <;> split <;> simp
          omega
        · rintro id member other outer rfl
          have apart := (further id outer).1
          rcases mem_roundBuckets table member with ⟨_, rfl⟩ | ⟨_, rfl⟩ <;> omega
        · intro id member
          rcases List.mem_append.mp member with here | outer
          · rcases mem_roundBuckets table here with ⟨_, rfl⟩ | ⟨_, rfl⟩ <;> omega
          · have bounds := further id outer
            omega
      · simp

theorem searchedBuckets_spec (table : RoutingTable) (target : ID) (count : Int)
    (nonempty : table.self.id ≠ []) (same : target.id.length = table.self.id.length) :
    (searchedBuckets table target count).Nodup ∧
      ∀ id ∈ searchedBuckets table target count, 0 ≤ id ∧ id < 8 * table.self.id.length := by
  obtain ⟨low, high⟩ := bucketID_range table.self target nonempty same
  rw [searchedBuckets]
  cases appendBucket table (bucketID table.self target) [] with
  | panic => simp [low, high]
  | done bucket =>
      obtain ⟨nodup, further⟩ := widenBuckets_spec table (bucketID table.self target) count low high
        (table.self.id.length * 8 + 1) 1 (by omega) bucket
      refine ⟨List.nodup_cons.mpr ⟨fun again => ?_, nodup⟩, ?_⟩
      · have apart := (further _ again).1
        omega
      · intro id member
        rcases List.mem_cons.mp member with rfl | outer
        · exact ⟨low, high⟩
        · exact (further id outer).2

theorem closer_of_not_closer {target left right : ID} (leftLength : left.id.length = target.id.length)
    (rightLength : right.id.length = target.id.length) (different : left.id ≠ right.id)
    (notBelow : closer target right left = false) : closer target left right = true := by
  have order : ¬ hash right ^^^ hash target < hash left ^^^ hash target := by
    rw [← xorID_less_iff right left target rightLength leftLength]
    simpa [closer] using notBelow
  have apart : hash left ^^^ hash target ≠ hash right ^^^ hash target := by
    intro equal
    have hashes : hash left = hash right := by simpa using equal
    exact different (BigEndian.value_injective _ _ (leftLength.trans rightLength.symm) hashes)
  exact (xorID_less_iff left right target leftLength rightLength).mpr (by omega)

theorem window_length_le {table : RoutingTable} (valid : Valid table) {target : ID} {last : Nat} {found : List ID}
    (window : Window table target last found) :
    found.length ≤ table.stored.length ∧
      ((∀ peer ∈ table.stored, gap table target peer ≤ last) → found.length = table.stored.length) := by
  refine ⟨window.nodup.length_le_of_subset fun peer member => ((window.mem peer).mp member).1, fun all => ?_⟩
  refine List.Perm.length_eq ((List.perm_ext_iff_of_nodup window.nodup (stored_nodup valid)).mpr fun peer => ?_)
  rw [window.mem]
  exact ⟨fun inside => inside.1, fun member => ⟨member, all peer member⟩⟩

/-- Over every history, target and count: as many contacts as there are, up to the
count, all of them stored, each farther than the one before it. No bucket is read
twice, and the search ends. -/
theorem findClosestPeers_complete (sorter : Sorter ID) (self : ID) (ops : List Op) (table : RoutingTable)
    (reached : history self ops = .done table) (target : ID) (same : target.id.length = self.id.length)
    (count : Int) (natural : 0 ≤ count) :
    ∃ peers, findClosestPeers sorter table target count = .done peers ∧
      peers.length = min count.toNat table.stored.length ∧ (∀ peer ∈ peers, peer ∈ table.stored) ∧
      (peers.Pairwise fun left right => left.equals right = false) ∧
      (peers.Pairwise fun left right => closer target left right = true) ∧
      (searchedBuckets table target count).Nodup ∧
      (∀ id ∈ searchedBuckets table target count, (table.bucket id).isSome) ∧
      ∃ gathered, appendBuckets table (searchedBuckets table target count) [] = .done gathered ∧
        peers = (sorter.sort (byElement (closer target)) gathered).take count.toNat := by
  obtain ⟨owner, valid⟩ := history_valid reached
  have sameTable : target.id.length = table.self.id.length := owner ▸ same
  obtain ⟨last, found, returned, window, ordered, stopped, _⟩ :=
    findClosestPeers_spec valid target sorter sameTable count natural
  obtain ⟨most, all⟩ := window_length_le valid window
  obtain ⟨once, inRange⟩ := searchedBuckets_spec table target count valid.nonempty sameTable
  have stored : ∀ peer ∈ found.take count.toNat, peer ∈ table.stored := fun peer member =>
    ((window.mem peer).mp (List.mem_of_mem_take member)).1
  have hashes : (table.stored.map ID.id).Nodup := List.pairwise_map.mpr (stored_distinct valid)
  have apart : (found.take count.toNat).Pairwise fun left right => left.id ≠ right.id :=
    (window.nodup.sublist (List.take_sublist _ _)).imp_of_mem fun left right different equal =>
      different (List.inj_on_of_nodup_map hashes (stored _ left) (stored _ right) equal)
  refine ⟨found.take count.toNat, returned, ?_, stored, ?_, ?_, once, ?_,
    findClosestPeers_searched sameTable natural returned⟩
  · rw [List.length_take]
    rcases stopped with full | exhausted
    · omega
    · rw [all exhausted]
  · exact apart.imp fun different => by simpa [ID.equals] using different
  · have kept := ordered.sublist (List.take_sublist count.toNat found)
    refine (apart.and kept).imp_of_mem fun left right both => ?_
    exact closer_of_not_closer ((stored_length valid _ (stored _ left)).trans sameTable.symm)
      ((stored_length valid _ (stored _ right)).trans sameTable.symm) both.1 both.2
  · intro id member
    obtain ⟨low, high⟩ := inRange id member
    have inside : id.toNat < table.buckets.length := by rw [valid.width]; omega
    rw [(bucket_eq_some_iff table id _).mpr ⟨low, List.getElem?_eq_getElem inside⟩]
    rfl

/-! From this target the owner is at distance 128 and the contact of bucket 1 at
distance 192. One round finds the contact and stops. -/

def smallTarget : ID := plainID "tcp://10.0.0.3:1" [0x80]

def smallTable : RoutingTable :=
  { self := smallOwner, buckets := [[], [smallContact], [], [], [], [], [], [smallOwner]] }

theorem findClosestPeers_nearest_iff_two :
    history smallOwner [.update smallContact] = .done smallTable ∧
    ∃ peers, findClosestPeers insertionSorter smallTable smallTarget 2 = .done peers ∧
      ((∀ peer ∈ smallTable.stored, peer ∉ peers →
          ∀ kept ∈ peers, closer smallTarget peer kept = false) ↔
        Covered smallTable smallTarget 2) :=
  ⟨by decide, findClosestPeers_nearest_iff insertionSorter smallOwner [.update smallContact] smallTable
    (by decide) smallTarget rfl 2 (by decide)⟩

theorem findClosestPeers_not_nearest :
    history smallOwner [.update smallContact] = .done smallTable ∧
    findClosestPeers insertionSorter smallTable smallTarget 1 = .done [smallContact] ∧
    smallOwner ∈ smallTable.stored ∧ smallOwner ∉ [smallContact] ∧
    closer smallTarget smallOwner smallContact = true := by
  decide

theorem findClosestPeers_complete_small :
    history smallOwner [.update smallContact] = .done smallTable ∧
    ∃ peers, findClosestPeers insertionSorter smallTable smallTarget 5 = .done peers ∧ peers.length = 2 ∧
      (peers.Pairwise fun left right => closer smallTarget left right = true) ∧
      (searchedBuckets smallTable smallTarget 5).Nodup := by
  refine ⟨by decide, ?_⟩
  obtain ⟨peers, returned, length, _, _, increasing, once, _, _⟩ := findClosestPeers_complete insertionSorter
    smallOwner [.update smallContact] smallTable (by decide) smallTarget rfl 5 (by decide)
  exact ⟨peers, returned, length, increasing, once⟩

end Carrier.ClosestPeers
