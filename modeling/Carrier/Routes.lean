import Carrier.Identity
import Mathlib.Data.List.Basic

/-! The bucket table of `dht/routes.go`. A bucket is the list of its contacts,
front first. `Update`, `RemovePeer` and `PeerExists` scan one bucket only, so
everything the table promises rests on the bucket number being a function of
the hash. A missing bucket is a nil pointer, and locking it panics. -/
namespace Carrier.Routes

open GoRuntime Identity

def bucketSize : Nat := 16

abbrev Bucket := List ID

structure RoutingTable where
  self : ID
  buckets : List Bucket
  deriving DecidableEq, Repr

namespace RoutingTable

def bucket (table : RoutingTable) (id : Int) : Option Bucket :=
  if 0 ≤ id ∧ id < table.buckets.length then table.buckets[id.toNat]? else none

def setBucket (table : RoutingTable) (id : Int) (bucket : Bucket) : RoutingTable :=
  { table with buckets := table.buckets.set id.toNat bucket }

/-- The bucket body of `Update`. A present contact keeps its stored value. The
test reads `Len() <= BucketSize`, so a bucket grows to seventeen contacts. -/
def refresh (bucket : Bucket) (target : ID) : Bucket :=
  match bucket.find? (·.equals target) with
  | none => if bucket.length ≤ bucketSize then target :: bucket else bucket
  | some element => element :: bucket.eraseP (·.equals target)

def update (table : RoutingTable) (target : ID) : Outcome RoutingTable :=
  if table.self.id.length ≠ target.id.length then .done table
  else match table.bucket (bucketID table.self target) with
    | none => .panic
    | some bucket => .done (table.setBucket (bucketID table.self target) (refresh bucket target))

def createRoutingTable (id : ID) : Outcome RoutingTable :=
  update { self := id, buckets := List.replicate (id.id.length * 8) [] } id

def removePeer (table : RoutingTable) (target : ID) : Outcome (Bool × RoutingTable) :=
  match table.bucket (bucketID table.self target) with
  | none => .panic
  | some bucket =>
      if bucket.any (·.equals target) then
        .done (true, table.setBucket (bucketID table.self target)
          (bucket.eraseP (·.equals target)))
      else .done (false, table)

/-- The only lookup that tests its bucket for nil. -/
def peerExists (table : RoutingTable) (target : ID) : Bool :=
  match table.bucket (bucketID table.self target) with
  | none => false
  | some bucket => bucket.any (·.equals target)

def stored (table : RoutingTable) : List ID := table.buckets.flatten

end RoutingTable

inductive Op where
  | update (target : ID)
  | removePeer (target : ID)
  deriving DecidableEq, Repr

def Op.apply (table : RoutingTable) : Op → Outcome RoutingTable
  | .update target => table.update target
  | .removePeer target => (table.removePeer target).map Prod.snd

def run (table : RoutingTable) : List Op → Outcome RoutingTable
  | [] => .done table
  | op :: rest => (op.apply table).bind fun next => run next rest

def history (self : ID) (ops : List Op) : Outcome RoutingTable :=
  (RoutingTable.createRoutingTable self).bind fun table => run table ops

/-! Bucket lists: what one scan can change. -/

theorem mem_refresh (bucket : Bucket) (target peer : ID) (member : peer ∈ RoutingTable.refresh bucket target) :
    peer ∈ bucket ∨ peer = target := by
  unfold RoutingTable.refresh at member
  split at member
  · split at member
    · rcases List.mem_cons.mp member with same | old
      · exact Or.inr same
      · exact Or.inl old
    · exact Or.inl member
  · rename_i element found
    rcases List.mem_cons.mp member with same | old
    · exact Or.inl (same ▸ List.mem_of_find?_eq_some found)
    · exact Or.inl (List.mem_of_mem_eraseP old)

abbrev Distinct (bucket : Bucket) : Prop := bucket.Pairwise fun left right => left.id ≠ right.id

theorem eraseP_eq_filter (bucket : Bucket) (target : ID) (distinct : Distinct bucket) :
    bucket.eraseP (·.equals target) = bucket.filter fun peer => !peer.equals target := by
  have equals_eq : ∀ peer : ID, peer.equals target = decide (peer.id = target.id) := by
    intro peer
    rw [Bool.eq_iff_iff, equals_iff, decide_eq_true_iff]
  simp only [equals_eq]
  exact (eraseP_key ID.id target.id bucket distinct).trans (by simp)

theorem refresh_distinct (bucket : Bucket) (target : ID) (distinct : Distinct bucket) :
    Distinct (RoutingTable.refresh bucket target) := by
  unfold RoutingTable.refresh
  split
  · rename_i missing
    split
    · refine List.pairwise_cons.mpr ⟨fun peer member same => ?_, distinct⟩
      have absent := List.find?_eq_none.mp missing peer member
      exact absent ((equals_iff peer target).mpr same.symm)
    · exact distinct
  · rename_i element found
    have hit := List.find?_some found
    rw [eraseP_eq_filter bucket target distinct]
    refine List.pairwise_cons.mpr ⟨fun peer member same => ?_, distinct.filter _⟩
    have kept := (List.mem_filter.mp member).2
    rw [equals_iff] at hit
    simp [ID.equals, ← same, hit] at kept

/-- The table invariant: one bucket a bit of the owner's hash, every contact in
the bucket its hash selects, and no two contacts of a bucket with one hash. -/
structure Valid (table : RoutingTable) : Prop where
  nonempty : table.self.id ≠ []
  width : table.buckets.length = 8 * table.self.id.length
  placed : ∀ (index : Nat) (bucket : Bucket), table.buckets[index]? = some bucket →
    ∀ peer ∈ bucket, peer.id.length = table.self.id.length ∧ bucketID table.self peer = index
  distinct : ∀ bucket ∈ table.buckets, Distinct bucket

theorem bucketID_congr (self left right : ID) (same : left.id = right.id) :
    bucketID self left = bucketID self right := by
  simp [bucketID, ID.prefixLen, ID.xorID, same]

theorem bucket_eq_some_iff (table : RoutingTable) (id : Int) (bucket : Bucket) :
    table.bucket id = some bucket ↔ 0 ≤ id ∧ table.buckets[id.toNat]? = some bucket := by
  unfold RoutingTable.bucket
  split
  · rename_i inside
    simp [inside.1]
  · rename_i outside
    constructor
    · intro impossible; simp at impossible
    · rintro ⟨positive, found⟩
      obtain ⟨bound, _⟩ := List.getElem?_eq_some_iff.mp found
      exact absurd ⟨positive, by omega⟩ outside

theorem mem_stored_iff (table : RoutingTable) (peer : ID) :
    peer ∈ table.stored ↔
      ∃ (index : Nat) (bucket : Bucket), table.buckets[index]? = some bucket ∧ peer ∈ bucket := by
  simp only [RoutingTable.stored, List.mem_flatten]
  constructor
  · rintro ⟨bucket, member, inside⟩
    obtain ⟨index, bound, found⟩ := List.getElem_of_mem member
    exact ⟨index, bucket, by simp [bound, found], inside⟩
  · rintro ⟨index, bucket, found, inside⟩
    exact ⟨bucket, List.mem_of_getElem? found, inside⟩

section ValidTable

variable {table : RoutingTable} (valid : Valid table)

include valid

theorem valid_bucket (target : ID) (same : target.id.length = table.self.id.length) :
    ∃ bucket, table.bucket (bucketID table.self target) = some bucket ∧
      table.buckets[(bucketID table.self target).toNat]? = some bucket := by
  obtain ⟨low, high⟩ := bucketID_range table.self target valid.nonempty same
  have bound : (bucketID table.self target).toNat < table.buckets.length := by
    rw [valid.width]; omega
  have found := List.getElem?_eq_getElem bound
  exact ⟨_, (bucket_eq_some_iff table _ _).mpr ⟨low, found⟩, found⟩

theorem stored_bucket (target peer : ID) (member : peer ∈ table.stored) (hit : peer.id = target.id) :
    ∃ bucket, table.bucket (bucketID table.self target) = some bucket ∧ peer ∈ bucket := by
  obtain ⟨index, bucket, found, inside⟩ := (mem_stored_iff table peer).mp member
  obtain ⟨_, place⟩ := valid.placed index bucket found peer inside
  refine ⟨bucket, (bucket_eq_some_iff table _ _).mpr ?_, inside⟩
  rw [← bucketID_congr table.self peer target hit, place]
  exact ⟨by omega, by simpa using found⟩

theorem setBucket_valid (target : ID) (bucket : Bucket)
    (members : ∀ peer ∈ bucket, peer.id.length = table.self.id.length ∧
      bucketID table.self peer = (bucketID table.self target).toNat)
    (apart : Distinct bucket) :
    Valid (table.setBucket (bucketID table.self target) bucket) where
  nonempty := valid.nonempty
  width := by simpa [RoutingTable.setBucket] using valid.width
  placed := by
    intro index other found peer inside
    simp only [RoutingTable.setBucket, List.getElem?_set] at found
    split at found
    · rename_i same
      split at found
      · cases found
        exact same ▸ members peer inside
      · simp at found
    · exact valid.placed index other found peer inside
  distinct := by
    intro other member
    rcases List.mem_or_eq_of_mem_set member with old | new
    · exact valid.distinct other old
    · exact new ▸ apart

theorem update_valid (target : ID) :
    ∃ next, table.update target = .done next ∧ next.self = table.self ∧ Valid next := by
  unfold RoutingTable.update
  split
  · exact ⟨table, rfl, rfl, valid⟩
  · rename_i lengths
    have same : target.id.length = table.self.id.length := (not_not.mp lengths).symm
    obtain ⟨bucket, loaded, found⟩ := valid_bucket valid target same
    have low := (bucketID_range table.self target valid.nonempty same).1
    rw [loaded]
    refine ⟨_, rfl, rfl, setBucket_valid valid target _ ?_
      (refresh_distinct _ _ (valid.distinct _ (List.mem_of_getElem? found)))⟩
    intro peer member
    rcases mem_refresh bucket target peer member with old | new
    · exact valid.placed _ bucket found peer old
    · subst new
      exact ⟨same, by omega⟩

theorem stored_distinct : table.stored.Pairwise fun left right => left.id ≠ right.id := by
  unfold RoutingTable.stored
  refine List.pairwise_flatten.mpr ⟨valid.distinct, ?_⟩
  refine List.pairwise_iff_getElem.mpr ?_
  intro first second firstBound secondBound below left leftMember right rightMember same
  -- Equal hashes would put both contacts into one bucket.
  have leftPlace := (valid.placed first _ (List.getElem?_eq_getElem firstBound) left leftMember).2
  have rightPlace :=
    (valid.placed second _ (List.getElem?_eq_getElem secondBound) right rightMember).2
  rw [bucketID_congr table.self left right same] at leftPlace
  omega

theorem peerExists_iff (target : ID) :
    table.peerExists target = true ↔ ∃ peer ∈ table.stored, peer.equals target = true := by
  unfold RoutingTable.peerExists
  constructor
  · intro present
    split at present
    · simp at present
    · rename_i bucket loaded
      obtain ⟨peer, inside, hit⟩ := List.any_eq_true.mp present
      have found := ((bucket_eq_some_iff table _ _).mp loaded).2
      exact ⟨peer, (mem_stored_iff table peer).mpr ⟨_, bucket, found, inside⟩, hit⟩
  · rintro ⟨peer, member, hit⟩
    obtain ⟨bucket, loaded, inside⟩ :=
      stored_bucket valid target peer member ((equals_iff peer target).mp hit)
    rw [loaded]
    exact List.any_eq_true.mpr ⟨peer, inside, hit⟩

/-- Erasing in the selected bucket is erasing everywhere: the other buckets hold
no contact that equals the target. -/
theorem setBucket_eraseP (target : ID) (bucket : Bucket)
    (loaded : table.bucket (bucketID table.self target) = some bucket) :
    (table.setBucket (bucketID table.self target) (bucket.eraseP (·.equals target))).buckets =
      table.buckets.map fun other => other.filter fun peer => !peer.equals target := by
  obtain ⟨low, found⟩ := (bucket_eq_some_iff table _ _).mp loaded
  rw [eraseP_eq_filter bucket target (valid.distinct _ (List.mem_of_getElem? found))]
  apply List.ext_getElem?
  intro index
  simp only [RoutingTable.setBucket, List.getElem?_set, List.getElem?_map]
  split
  · rename_i same
    subst same
    obtain ⟨bound, here⟩ := List.getElem?_eq_some_iff.mp found
    simp [bound, here]
  · rename_i different
    cases other : table.buckets[index]? with
    | none => rfl
    | some contacts =>
        have untouched : ∀ peer ∈ contacts, (!peer.equals target) = true := by
          intro peer inside
          have place := (valid.placed index contacts other peer inside).2
          by_contra hit
          have equal : peer.id = target.id := (equals_iff peer target).mp (by simpa using hit)
          rw [bucketID_congr table.self peer target equal] at place
          omega
        simp [List.filter_eq_self.mpr untouched]

theorem removePeer_spec (target : ID) (same : target.id.length = table.self.id.length) :
    ∃ found next, table.removePeer target = .done (found, next) ∧ next.self = table.self ∧
      Valid next ∧ found = table.peerExists target ∧
      next.buckets = table.buckets.map fun bucket => bucket.filter fun peer => !peer.equals target := by
  obtain ⟨bucket, loaded, found⟩ := valid_bucket valid target same
  have erased := setBucket_eraseP valid target bucket loaded
  have exists_eq : table.peerExists target = bucket.any (·.equals target) := by
    simp [RoutingTable.peerExists, loaded]
  unfold RoutingTable.removePeer
  rw [loaded]
  by_cases hit : bucket.any (·.equals target) = true
  · simp only [hit, ↓reduceIte]
    refine ⟨true, _, rfl, rfl, ?_, by rw [exists_eq, hit], erased⟩
    refine setBucket_valid valid target _ ?_ ?_
    · intro peer member
      have place := valid.placed _ bucket found peer (List.mem_of_mem_eraseP member)
      have low := (bucketID_range table.self target valid.nonempty same).1
      exact ⟨place.1, place.2⟩
    · exact (valid.distinct _ (List.mem_of_getElem? found)).sublist List.eraseP_sublist
  · have absent : bucket.any (·.equals target) = false := by simpa using hit
    simp only [absent, Bool.false_eq_true, ↓reduceIte]
    refine ⟨false, table, rfl, rfl, valid, by rw [exists_eq, absent], ?_⟩
    rw [← erased, List.eraseP_of_forall_not (by simpa using absent)]
    simp only [RoutingTable.setBucket]
    obtain ⟨bound, same⟩ := List.getElem?_eq_some_iff.mp found
    simp [← same]

end ValidTable

theorem createRoutingTable_valid (self : ID) (nonempty : self.id ≠ []) :
    ∃ table, RoutingTable.createRoutingTable self = .done table ∧ table.self = self ∧ Valid table := by
  have empty : ∀ (index : Nat) (bucket : Bucket),
      (List.replicate (self.id.length * 8) ([] : Bucket))[index]? = some bucket → bucket = [] :=
    fun index bucket found => List.eq_of_mem_replicate (List.mem_of_getElem? found)
  have blank : Valid { self := self, buckets := List.replicate (self.id.length * 8) [] } :=
    { nonempty := nonempty
      width := by simp [Nat.mul_comm]
      placed := fun index bucket found peer inside => by simp [empty index bucket found] at inside
      distinct := fun bucket member => by simp [List.eq_of_mem_replicate member, Distinct] }
  exact update_valid blank self

theorem apply_valid {table : RoutingTable} (valid : Valid table) (op : Op)
    (lengths : ∀ target, op = .removePeer target → target.id.length = table.self.id.length) :
    ∃ next, op.apply table = .done next ∧ next.self = table.self ∧ Valid next := by
  cases op with
  | update target => exact update_valid valid target
  | removePeer target =>
      obtain ⟨found, next, removed, owner, kept, _⟩ :=
        removePeer_spec valid target (lengths target rfl)
      exact ⟨next, by simp [Op.apply, removed], owner, kept⟩

theorem run_valid {table : RoutingTable} (valid : Valid table) (ops : List Op)
    (lengths : ∀ target, Op.removePeer target ∈ ops → target.id.length = table.self.id.length) :
    ∃ next, run table ops = .done next ∧ next.self = table.self ∧ Valid next := by
  induction ops generalizing table with
  | nil => exact ⟨table, rfl, rfl, valid⟩
  | cons op rest ih =>
      obtain ⟨middle, stepped, owner, kept⟩ := apply_valid valid op
        (fun target same => lengths target (by simp [same]))
      obtain ⟨next, finished, final, good⟩ := ih kept
        (fun target member => owner ▸ lengths target (List.mem_cons_of_mem op member))
      exact ⟨next, by simp [run, stepped, finished], final.trans owner, good⟩

/-! Which hashes have a bucket at all. Only these can be removed without a panic. -/

/-- The scan meets a set bit before the owner's hash ends, or the shorter of the
two hashes is a prefix of the longer. -/
theorem prefixScan_xorBytes (index : Nat) (peer self : Bytes) :
    (∃ bits, ID.prefixScan index (xorBytes peer self) = some bits ∧ bits < 8 * (index + self.length)) ∧
        ¬ self <+: peer ∨
      ID.prefixScan index (xorBytes peer self) = none ∧ (peer <+: self ∨ self <+: peer) := by
  induction peer generalizing index self with
  | nil => exact Or.inr ⟨rfl, Or.inl (List.nil_prefix)⟩
  | cons a as ih =>
      cases self with
      | nil =>
          right
          rcases ih (index + 1) [] with ⟨_, absurd_⟩ | ⟨scanned, _⟩
          · exact absurd List.nil_prefix absurd_
          · exact ⟨by simpa [xorBytes, ID.prefixScan] using scanned, Or.inr List.nil_prefix⟩
      | cons b bs =>
          by_cases same : a = b
          · subst same
            have skipped : ID.prefixScan index (xorBytes (a :: as) (a :: bs)) =
                ID.prefixScan (index + 1) (xorBytes as bs) := by
              simp [xorBytes, ID.prefixScan]
            rw [skipped]
            simp only [List.prefix_cons_inj, List.length_cons]
            rcases ih (index + 1) bs with ⟨⟨bits, scanned, bound⟩, apart⟩ | tail
            · exact Or.inl ⟨⟨bits, scanned, by omega⟩, apart⟩
            · exact Or.inr tail
          · left
            have differs : a ^^^ b ≠ 0 := fun zero => same (UInt8.xor_eq_zero_iff.mp zero)
            have bound : leadingZeros8 (a ^^^ b) ≤ 7 := by simp [leadingZeros8, differs]
            refine ⟨⟨index * 8 + leadingZeros8 (a ^^^ b), by simp [xorBytes, ID.prefixScan, differs],
              by simp only [List.length_cons]; omega⟩, ?_⟩
            intro isPrefix
            exact same (List.cons_prefix_cons.mp isPrefix).1.symm

/-- A hash that selects a bucket: not empty, and no proper extension of the owner's. -/
def Placed (self peer : ID) : Prop :=
  peer.id ≠ [] ∧ ¬ (self.id <+: peer.id ∧ self.id.length < peer.id.length)

theorem bucket_eq_none_iff {table : RoutingTable} (valid : Valid table) (peer : ID) :
    table.bucket (bucketID table.self peer) = none ↔ ¬ Placed table.self peer := by
  have width := valid.width
  have missing : table.bucket (bucketID table.self peer) = none ↔
      ¬ (0 ≤ bucketID table.self peer ∧ bucketID table.self peer < table.buckets.length) := by
    unfold RoutingTable.bucket
    split
    · rename_i inside
      have bound : (bucketID table.self peer).toNat < table.buckets.length := by omega
      simp [inside, bound]
    · rename_i outside; simp [outside]
  have owner : 0 < table.self.id.length := List.length_pos_iff.mpr valid.nonempty
  rw [missing, Placed, width]
  simp only [bucketID, ID.prefixLen, ID.xorID, xorBytes_length]
  -- Without a set bit in the scan `PrefixLen` falls back to the peer's own length.
  rcases prefixScan_xorBytes 0 peer.id table.self.id with ⟨⟨bits, scanned, bound⟩, apart⟩ | ⟨scanned, nested⟩
  · have nonempty : peer.id ≠ [] := by
      intro empty
      simp [empty, xorBytes, ID.prefixScan] at scanned
    rw [scanned]
    simp only [apart, false_and, not_false_eq_true, and_true, nonempty, ne_eq, not_true_eq_false,
      iff_false, not_not]
    omega
  · rw [scanned]
    by_cases empty : peer.id = []
    · simp [empty]
    · have positive : 0 < peer.id.length := List.length_pos_iff.mpr empty
      by_cases longer : table.self.id.length < peer.id.length
      · have extends_ : table.self.id <+: peer.id := by
          rcases nested with below | above
          · have short := below.length_le; omega
          · exact above
        simp only [extends_, longer, and_self, not_true_eq_false, and_false, not_false_eq_true, iff_true]
        omega
      · simp only [longer, and_false, not_false_eq_true, and_true, ne_eq, empty, not_true_eq_false,
          iff_false, not_not]
        omega

theorem removePeer_panic_iff {table : RoutingTable} (valid : Valid table) (peer : ID) :
    table.removePeer peer = .panic ↔ ¬ Placed table.self peer := by
  rw [← bucket_eq_none_iff valid]
  unfold RoutingTable.removePeer
  split
  · rename_i missing; simp [missing]
  · rename_i bucket loaded
    split <;> simp [loaded]

/-- A hash of another length equals no contact, so removing one changes nothing. -/
theorem removePeer_done_valid {table next : RoutingTable} (valid : Valid table) (target : ID)
    (found : Bool) (removed : table.removePeer target = .done (found, next)) :
    next.self = table.self ∧ Valid next := by
  by_cases same : target.id.length = table.self.id.length
  · obtain ⟨_, other, spec, owner, kept, _⟩ := removePeer_spec valid target same
    rw [removed] at spec
    cases spec
    exact ⟨owner, kept⟩
  · unfold RoutingTable.removePeer at removed
    split at removed
    · simp at removed
    · rename_i bucket loaded
      have foundAt := ((bucket_eq_some_iff table _ _).mp loaded).2
      have absent : bucket.any (·.equals target) = false := by
        refine List.any_eq_false.mpr fun peer inside hit => same ?_
        rw [← (equals_iff peer target).mp hit]
        exact (valid.placed _ bucket foundAt peer inside).1
      simp only [absent, Bool.false_eq_true, ↓reduceIte, Outcome.done.injEq, Prod.mk.injEq] at removed
      obtain ⟨-, rfl⟩ := removed
      exact ⟨rfl, valid⟩

theorem apply_done_valid {table next : RoutingTable} (valid : Valid table) (op : Op)
    (applied : op.apply table = .done next) : next.self = table.self ∧ Valid next := by
  cases op with
  | update target =>
      obtain ⟨other, updated, owner, kept⟩ := update_valid valid target
      simp only [Op.apply, updated, Outcome.done.injEq] at applied
      exact applied ▸ ⟨owner, kept⟩
  | removePeer target =>
      obtain ⟨⟨found, other⟩, removed, rfl⟩ := Outcome.map_eq_done.mp applied
      exact removePeer_done_valid valid target found removed

theorem run_done_valid {table next : RoutingTable} (valid : Valid table) (ops : List Op)
    (reached : run table ops = .done next) : next.self = table.self ∧ Valid next := by
  induction ops generalizing table with
  | nil =>
      simp only [run, Outcome.done.injEq] at reached
      exact reached ▸ ⟨rfl, valid⟩
  | cons op rest ih =>
      obtain ⟨middle, stepped, continued⟩ := Outcome.bind_eq_done.mp reached
      obtain ⟨owner, kept⟩ := apply_done_valid valid op stepped
      obtain ⟨final, good⟩ := ih kept continued
      exact ⟨final.trans owner, good⟩

/-- The empty owner hash selects bucket -1, so creating its table panics. -/
theorem createRoutingTable_nonempty (self : ID) (table : RoutingTable)
    (created : RoutingTable.createRoutingTable self = .done table) : self.id ≠ [] := by
  intro empty
  have place : bucketID self self = -1 := by
    simp [bucketID, ID.xorID, empty, xorBytes, ID.prefixLen, ID.prefixScan]
  simp [RoutingTable.createRoutingTable, RoutingTable.update, place, RoutingTable.bucket] at created

/-- Every table reached without a panic is valid, whatever was removed. -/
theorem history_valid {self : ID} {ops : List Op} {table : RoutingTable}
    (reached : history self ops = .done table) : table.self = self ∧ Valid table := by
  obtain ⟨fresh, created, ran⟩ := Outcome.bind_eq_done.mp reached
  obtain ⟨other, again, freshOwner, freshValid⟩ :=
    createRoutingTable_valid self (createRoutingTable_nonempty self fresh created)
  rw [created] at again
  cases again
  obtain ⟨owner, valid⟩ := run_done_valid freshValid ops ran
  exact ⟨owner.trans freshOwner, valid⟩

/-- The table keeps its promises through every history that removes only hashes
of the owner's length; `Update` ignores the others by itself. -/
theorem history_invariants (self : ID) (nonempty : self.id ≠ []) (ops : List Op)
    (lengths : ∀ target, Op.removePeer target ∈ ops → target.id.length = self.id.length) :
    ∃ table, history self ops = .done table ∧
      (∀ (index : Nat) (bucket : Bucket), table.buckets[index]? = some bucket → ∀ peer ∈ bucket,
        peer.id.length = self.id.length ∧ (peer.xorID self).prefixLen = index) ∧
      (table.stored.Pairwise fun left right => left.equals right = false) ∧
      (∀ target, table.peerExists target = true ↔
        ∃ peer ∈ table.stored, peer.equals target = true) ∧
      (∀ target, target.id.length = self.id.length →
        ∃ found next, table.removePeer target = .done (found, next) ∧
          (found = true ↔ ∃ peer ∈ table.stored, peer.equals target = true) ∧
          next.self = table.self ∧
          next.buckets =
            table.buckets.map fun bucket => bucket.filter fun peer => !peer.equals target) := by
  obtain ⟨fresh, created, freshOwner, freshValid⟩ := createRoutingTable_valid self nonempty
  obtain ⟨table, reached, owner, valid⟩ := run_valid freshValid ops
    (fun target member => freshOwner ▸ lengths target member)
  have ownerSelf : table.self = self := owner.trans freshOwner
  refine ⟨table, by simp [history, created, reached], ?_, ?_, peerExists_iff valid, ?_⟩
  · intro index bucket found peer inside
    exact ownerSelf ▸ valid.placed index bucket found peer inside
  · exact (stored_distinct valid).imp fun apart => by simpa [ID.equals] using apart
  · intro target same
    obtain ⟨found, next, removed, kept, _, reported, buckets⟩ :=
      removePeer_spec valid target (ownerSelf ▸ same)
    exact ⟨found, next, removed, by rw [reported, peerExists_iff valid], kept, buckets⟩

/-! A one-byte table with the owner and one contact in bucket 1. -/

def plainID (address : String) (hash : Bytes) : ID :=
  { netKey := some hash, address := address, id := hash, connectionId := [], address2 := "" }

def smallOwner : ID := plainID "tcp://10.0.0.1:1" [0x00]
def smallContact : ID := plainID "tcp://10.0.0.2:1" [0x40]

theorem history_invariants_small :
    ∃ table, history smallOwner [.update smallContact, .removePeer smallContact] = .done table ∧
      (table.stored.Pairwise fun left right => left.equals right = false) ∧
      (table.peerExists smallContact = true ↔
        ∃ peer ∈ table.stored, peer.equals smallContact = true) := by
  obtain ⟨table, reached, _, distinct, exact_, _⟩ := history_invariants smallOwner (by decide)
    [.update smallContact, .removePeer smallContact] (by simp [smallContact, smallOwner, plainID])
  exact ⟨table, reached, distinct, exact_ smallContact⟩

end Carrier.Routes
