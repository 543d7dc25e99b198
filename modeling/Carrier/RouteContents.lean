import Carrier.ClosestPeers
import Carrier.TransitionSystem
import Mathlib.Data.List.Pairwise
import Mathlib.Data.List.Perm.Subperm

/-! What the routing table of `dht/routes.go` holds over a run of `Update` and
`RemovePeer`: whether the bucket of a call is there, how full a bucket gets and
how current its contacts are. `UpdateSelf` of `network/components/discovery/rpc.go`
and `GetRandomPeers` are modelled here as well. -/
namespace Carrier.RouteContents

open GoRuntime Identity Routes ClosestPeers SortSlice TransitionSystem

def Applies (table : RoutingTable) (op : Op) (next : RoutingTable) : Prop :=
  op.apply table = .done next

theorem update_applies {table next : RoutingTable} {target : ID}
    (applied : Applies table (.update target) next) :
    target.id.length ≠ table.self.id.length ∧ next = table ∨
      target.id.length = table.self.id.length ∧
        ∃ bucket, table.bucket (bucketID table.self target) = some bucket ∧
          next = table.setBucket (bucketID table.self target) (RoutingTable.refresh bucket target) := by
  simp only [Applies, Op.apply, RoutingTable.update] at applied
  split at applied
  · rename_i differ
    exact Or.inl ⟨Ne.symm differ, (Outcome.done.inj applied).symm⟩
  · rename_i same
    split at applied
    · simp at applied
    · rename_i bucket loaded
      exact Or.inr ⟨(not_not.mp same).symm, bucket, loaded, (Outcome.done.inj applied).symm⟩

theorem removePeer_applies {table next : RoutingTable} {target : ID}
    (applied : Applies table (.removePeer target) next) :
    next = table ∨ ∃ bucket, table.bucket (bucketID table.self target) = some bucket ∧
      next = table.setBucket (bucketID table.self target) (bucket.eraseP (·.equals target)) := by
  obtain ⟨⟨found, other⟩, removed, same⟩ := Outcome.bind_eq_done.mp applied
  cases same
  simp only [RoutingTable.removePeer] at removed
  split at removed
  · simp at removed
  · rename_i bucket loaded
    split at removed
    · exact Or.inr ⟨bucket, loaded, (Prod.mk.inj (Outcome.done.inj removed)).2.symm⟩
    · exact Or.inl (Prod.mk.inj (Outcome.done.inj removed)).2.symm

theorem peerExists_loaded {table : RoutingTable} {target : ID} {bucket : Bucket}
    (loaded : table.bucket (bucketID table.self target) = some bucket) :
    table.peerExists target = bucket.any (·.equals target) := by
  simp [RoutingTable.peerExists, loaded]

/-! The bucket of a call. -/

/-- The part of `FindClosestPeers` that locks buckets, for a hash of the owner's length. -/
def gather (table : RoutingTable) (target : ID) (count : Int) : Outcome (List ID) :=
  (appendBucket table (bucketID table.self target) []).bind
    (widen table (bucketID table.self target) count (table.self.id.length * 8 + 1) 1)

def nearest (sorter : Sorter ID) (target : ID) (count : Int) (peers : List ID) : Outcome (List ID) :=
  let sorted := sorter.sort (byElement (closer target)) peers
  if sorted.length > count then
    if count < 0 then .panic else .done (sorted.take count.toNat)
  else .done sorted

theorem findClosestPeers_eq (sorter : Sorter ID) (table : RoutingTable) (target : ID) (count : Int) :
    findClosestPeers sorter table target count =
      if table.self.id.length ≠ target.id.length then .done []
      else (gather table target count).bind (nearest sorter target count) := by
  unfold findClosestPeers gather
  cases appendBucket table (bucketID table.self target) [] with
  | done bucket => rfl
  | panic => rfl

theorem gather_done {table : RoutingTable} (valid : Valid table) (target : ID)
    (same : target.id.length = table.self.id.length) (count : Int) :
    ∃ peers, gather table target count = .done peers ∧ ∀ peer ∈ peers, peer ∈ table.stored := by
  obtain ⟨first, started, firstWindow⟩ := start_window valid target same
  obtain ⟨last, peers, looped, window, _⟩ := widen_spec valid target same count
    (table.self.id.length * 8 + 1) 0 (by omega) (by omega) first firstWindow
  refine ⟨peers, ?_, fun peer member => ((window.mem peer).mp member).1⟩
  rw [gather, started, Outcome.done_bind, looped]

/-- No call with this contact runs into a missing bucket. A negative count makes
`FindClosestPeers` panic too, but only after its last bucket. -/
structure Present (table : RoutingTable) (target : ID) : Prop where
  update : table.update target ≠ .panic
  removePeer : table.removePeer target ≠ .panic
  peerExists : table.bucket (bucketID table.self target) = none → table.peerExists target = false
  gather : target.id.length = table.self.id.length → ∀ count, gather table target count ≠ .panic
  findClosestPeers : ∀ sorter count, findClosestPeers sorter table target count = .panic → count < 0

theorem nearest_panic {sorter : Sorter ID} {target : ID} {count : Int} {peers : List ID}
    (failed : nearest sorter target count peers = .panic) : count < 0 := by
  by_contra natural
  simp only [nearest, natural, ↓reduceIte] at failed
  split at failed <;> simp at failed

theorem findClosestPeers_panic {table : RoutingTable} (valid : Valid table) {sorter : Sorter ID}
    {target : ID} {count : Int} (failed : findClosestPeers sorter table target count = .panic) :
    count < 0 := by
  rw [findClosestPeers_eq] at failed
  by_cases same : target.id.length = table.self.id.length
  · obtain ⟨peers, gathered, _⟩ := gather_done valid target same count
    rw [if_neg (by simp [same]), gathered, Outcome.done_bind] at failed
    exact nearest_panic failed
  · rw [if_pos (Ne.symm same)] at failed
    simp at failed

/-- Only `RemovePeer` looks into a bucket that a strange hash may not have. -/
theorem present_iff_placed {self : ID} {ops : List Op} {table : RoutingTable}
    (reached : history self ops = .done table) (target : ID) :
    Present table target ↔ Placed self target := by
  obtain ⟨owner, valid⟩ := history_valid reached
  rw [← owner]
  constructor
  · intro present
    by_contra missing
    exact present.removePeer ((removePeer_panic_iff valid target).mpr missing)
  · intro placed
    refine ⟨?_, fun failed => (removePeer_panic_iff valid target).mp failed placed, ?_, ?_, ?_⟩
    · obtain ⟨next, updated, _⟩ := update_valid valid target
      rw [updated]
      simp
    · intro missing
      simp [RoutingTable.peerExists, missing]
    · intro same count
      obtain ⟨peers, gathered, _⟩ := gather_done valid target same count
      rw [gathered]
      simp
    · intro sorter count
      exact findClosestPeers_panic valid

def longContact : ID := plainID "tcp://10.0.0.5:1" [0x40, 0x07]

theorem present_long : ∃ table, history smallOwner [.update smallContact] = .done table ∧
    longContact.id.length ≠ table.self.id.length ∧ Present table longContact := by
  obtain ⟨table, reached, longer⟩ : ∃ table, history smallOwner [.update smallContact] = .done table ∧
      longContact.id.length ≠ table.self.id.length := ⟨_, rfl, by decide⟩
  exact ⟨table, reached, longer, (present_iff_placed reached longContact).mpr
    ⟨by decide, fun extended => absurd extended.1 (by decide)⟩⟩

/-- A contact without a hash, as a peer may send it. -/
def hashless : ID := plainID "tcp://10.0.0.3:1" []

theorem removePeer_hashless :
    ∃ table, history smallOwner [] = .done table ∧ table.update hashless = .done table ∧
      table.peerExists hashless = false ∧ table.removePeer hashless = .panic :=
  ⟨_, rfl, by decide, by decide, by decide⟩

/-! How full a bucket gets. -/

def Fits (limit : Nat) (table : RoutingTable) : Prop :=
  ∀ bucket ∈ table.buckets, bucket.length ≤ limit

instance (limit : Nat) (table : RoutingTable) : Decidable (Fits limit table) :=
  inferInstanceAs (Decidable (∀ bucket ∈ table.buckets, bucket.length ≤ limit))

/-- A new contact finds its bucket with a free place. -/
def Room (table : RoutingTable) : Op → Prop
  | .update target => target.id.length = table.self.id.length → table.peerExists target = false →
      ∀ bucket, table.bucket (bucketID table.self target) = some bucket → bucket.length < bucketSize
  | .removePeer _ => True

instance (table : RoutingTable) : (op : Op) → Decidable (Room table op)
  | .update target => inferInstanceAs (Decidable (target.id.length = table.self.id.length →
      table.peerExists target = false → ∀ bucket ∈ table.bucket (bucketID table.self target),
        bucket.length < bucketSize))
  | .removePeer _ => inferInstanceAs (Decidable True)

theorem find_of_any {bucket : Bucket} {target : ID} (hit : bucket.any (·.equals target) = true) :
    ∃ element ∈ bucket, bucket.find? (·.equals target) = some element := by
  obtain ⟨element, found⟩ := Option.isSome_iff_exists.mp (List.find?_isSome.mpr (by simpa using hit))
  exact ⟨element, List.mem_of_find?_eq_some found, found⟩

theorem find_of_not_any {bucket : Bucket} {target : ID} (missed : bucket.any (·.equals target) = false) :
    bucket.find? (·.equals target) = none :=
  List.find?_eq_none.mpr (by simpa using missed)

theorem refresh_length_present {bucket : Bucket} {target : ID}
    (hit : bucket.any (·.equals target) = true) :
    (RoutingTable.refresh bucket target).length = bucket.length := by
  obtain ⟨element, member, found⟩ := find_of_any hit
  have erased := List.length_eraseP_add_one member (List.find?_some found)
  simp only [RoutingTable.refresh, found, List.length_cons]
  exact erased

theorem refresh_length_absent {bucket : Bucket} {target : ID}
    (missed : bucket.any (·.equals target) = false) :
    (RoutingTable.refresh bucket target).length =
      if bucket.length ≤ bucketSize then bucket.length + 1 else bucket.length := by
  simp only [RoutingTable.refresh, find_of_not_any missed]
  split <;> rfl

theorem fits_setBucket {table : RoutingTable} {limit : Nat} (fits : Fits limit table) (id : Int)
    (bucket : Bucket) (inside : id.toNat < table.buckets.length) :
    Fits limit (table.setBucket id bucket) ↔ bucket.length ≤ limit := by
  constructor
  · intro after
    exact after bucket (List.mem_set inside bucket)
  · intro short other member
    rcases List.mem_or_eq_of_mem_set member with old | new
    · exact fits other old
    · exact new ▸ short

theorem loaded_inside {table : RoutingTable} {id : Int} {bucket : Bucket}
    (loaded : table.bucket id = some bucket) : bucket ∈ table.buckets ∧ id.toNat < table.buckets.length := by
  have found := ((bucket_eq_some_iff table id bucket).mp loaded).2
  exact ⟨List.mem_of_getElem? found, (List.getElem?_eq_some_iff.mp found).1⟩

theorem removePeer_fits {table next : RoutingTable} {target : ID} {limit : Nat} (fits : Fits limit table)
    (applied : Applies table (.removePeer target) next) : Fits limit next := by
  rcases removePeer_applies applied with same | ⟨bucket, loaded, same⟩
  · rw [same]
    exact fits
  · obtain ⟨member, inside⟩ := loaded_inside loaded
    rw [same, fits_setBucket fits _ _ inside]
    exact le_trans (List.length_eraseP_le) (fits bucket member)

/-- The test of `Update` lets in one contact more than the bucket is meant to hold. -/
theorem applies_fits_succ {table next : RoutingTable} {op : Op} (fits : Fits (bucketSize + 1) table)
    (applied : Applies table op next) : Fits (bucketSize + 1) next := by
  cases op with
  | removePeer target => exact removePeer_fits fits applied
  | update target =>
      rcases update_applies applied with ⟨_, same⟩ | ⟨_, bucket, loaded, same⟩
      · rw [same]
        exact fits
      · obtain ⟨member, inside⟩ := loaded_inside loaded
        rw [same, fits_setBucket fits _ _ inside]
        have bound := fits bucket member
        cases hit : bucket.any (·.equals target) with
        | true =>
            rw [refresh_length_present hit]
            exact bound
        | false =>
            rw [refresh_length_absent hit]
            split <;> omega

theorem applies_fits_iff {table next : RoutingTable} {op : Op} (fits : Fits bucketSize table)
    (applied : Applies table op next) : Fits bucketSize next ↔ Room table op := by
  cases op with
  | removePeer target =>
      simp only [Room, iff_true]
      exact removePeer_fits fits applied
  | update target =>
      rcases update_applies applied with ⟨differ, same⟩ | ⟨equal, bucket, loaded, same⟩
      · rw [same]
        simp [Room, differ, fits]
      · obtain ⟨member, inside⟩ := loaded_inside loaded
        have bound := fits bucket member
        rw [same, fits_setBucket fits _ _ inside]
        simp only [Room, equal, peerExists_loaded loaded, loaded, Option.some.injEq, forall_eq', forall_const]
        -- a stored peer is moved to the front; a new one makes the bucket longer
        cases hit : bucket.any (·.equals target) with
        | true => simpa [refresh_length_present hit] using bound
        | false =>
            rw [refresh_length_absent hit, if_pos bound]
            exact ⟨fun room _ => room, fun room => room rfl⟩

theorem createRoutingTable_fits {self : ID} {table : RoutingTable}
    (created : RoutingTable.createRoutingTable self = .done table) : Fits bucketSize table := by
  have blank : Fits 0 { self := self, buckets := List.replicate (self.id.length * 8) [] } := by
    intro bucket member
    simp [List.eq_of_mem_replicate member]
  have small : Fits bucketSize { self := self, buckets := List.replicate (self.id.length * 8) [] } :=
    fun bucket member => le_trans (blank bucket member) (by decide)
  have applied : Applies { self := self, buckets := List.replicate (self.id.length * 8) [] }
      (.update self) table := created
  refine (applies_fits_iff small applied).mpr ?_
  intro _ _ bucket loaded
  have empty := blank bucket (loaded_inside loaded).1
  exact lt_of_le_of_lt empty (by decide)

/-- No bucket ever holds more than one contact above the constant. -/
theorem buckets_at_most_one_above {self : ID} {fresh table : RoutingTable} {ops : List Op}
    (created : RoutingTable.createRoutingTable self = .done fresh) (run : Run Applies fresh ops table) :
    Fits (bucketSize + 1) table :=
  run.invariant (Fits (bucketSize + 1)) (fun _ _ _ applied fits => applies_fits_succ fits applied)
    fun bucket member => Nat.le_succ_of_le (createRoutingTable_fits created bucket member)

/-- The constant holds as long as no new contact is put into a bucket that has
reached it, and the first such contact breaks it. -/
theorem buckets_fit_while_room {self : ID} {fresh table : RoutingTable} {ops : List Op}
    (created : RoutingTable.createRoutingTable self = .done fresh)
    (run : Run (fun table op next => Applies table op next ∧ Room table op) fresh ops table) :
    Fits bucketSize table ∧
      ∀ op next, Applies table op next → (Fits bucketSize next ↔ Room table op) := by
  have fits : Fits bucketSize table := run.invariant (Fits bucketSize)
    (fun _ _ _ step fits => (applies_fits_iff fits step.1).mpr step.2) (createRoutingTable_fits created)
  exact ⟨fits, fun op next applied => applies_fits_iff fits applied⟩

/-- Seventeen contacts of one bucket: the first bit of the hash is set. -/
def crowd : List ID :=
  (List.range 17).map fun index => plainID "tcp://10.0.0.4:1" [0x80 + UInt8.ofNat index]

/-- Sixteen of them fill the bucket. One that is stored is updated again, one is removed,
and the last one takes its place. -/
def crowdOps : List Op :=
  (crowd.take 16).map .update ++ [.update (plainID "tcp://10.0.0.4:1" [0x83]),
    .removePeer (plainID "tcp://10.0.0.4:1" [0x85]), .update (plainID "tcp://10.0.0.4:1" [0x90])]

theorem buckets_fit_full :
    ∃ fresh table, RoutingTable.createRoutingTable smallOwner = .done fresh ∧
      Run (fun table op next => Applies table op next ∧ Room table op) fresh crowdOps table ∧
      (table.bucket 0).map List.length = some bucketSize ∧ Fits bucketSize table := by
  obtain ⟨fresh, table, created, followed, full⟩ : ∃ fresh table,
      RoutingTable.createRoutingTable smallOwner = .done fresh ∧
      follow (fun table op => if Room table op then (op.apply table).toOption else none) crowdOps fresh =
        some table ∧
      (table.bucket 0).map List.length = some bucketSize := ⟨_, _, rfl, rfl, rfl⟩
  have run : Run (fun table op next => Applies table op next ∧ Room table op) fresh crowdOps table :=
    (Run.of_follow_if followed).mono fun _ _ _ step => ⟨Outcome.toOption_eq_some.mp step.1, step.2⟩
  exact ⟨fresh, table, created, run, full, (buckets_fit_while_room created run).1⟩

theorem crowd_overfills :
    ∃ table, history smallOwner (crowd.map .update) = .done table ∧
      (table.bucket 0).map List.length = some 17 ∧ ¬ Fits bucketSize table :=
  ⟨_, rfl, by decide, by decide⟩

/-! How current the contacts are. -/

/-- A table, and for every hash the last contact `Update` was called with. -/
structure Record where
  table : RoutingTable
  latest : Bytes → Option ID

def note (latest : Bytes → Option ID) : Op → Bytes → Option ID
  | .update target => Function.update latest target.id (some target)
  | .removePeer _ => latest

def Record.Applies (record : Record) (op : Op) (next : Record) : Prop :=
  RouteContents.Applies record.table op next.table ∧ next.latest = note record.latest op

/-- The record of a new table: `CreateRoutingTable` calls `Update` with the owner. -/
def Created (self : ID) (record : Record) : Prop :=
  RoutingTable.createRoutingTable self = .done record.table ∧
    record.latest = note (fun _ => none) (.update self)

def Alike (left right : ID) : Prop := left.address = right.address ∧ left.netKey = right.netKey

instance (left right : ID) : Decidable (Alike left right) :=
  inferInstanceAs (Decidable (left.address = right.address ∧ left.netKey = right.netKey))

def Current (record : Record) : Prop :=
  ∀ peer ∈ record.table.stored, ∃ target, record.latest peer.id = some target ∧ Alike peer target

/-- An update of a stored contact brings nothing new. -/
def Repeats (table : RoutingTable) : Op → Prop
  | .update target => ∀ peer ∈ table.stored, peer.equals target = true → Alike peer target
  | .removePeer _ => True

instance (table : RoutingTable) : (op : Op) → Decidable (Repeats table op)
  | .update target =>
      inferInstanceAs (Decidable (∀ peer ∈ table.stored, peer.equals target = true → Alike peer target))
  | .removePeer _ => inferInstanceAs (Decidable True)

theorem mem_setBucket {table : RoutingTable} {id : Int} {bucket : Bucket} {peer : ID}
    (member : peer ∈ (table.setBucket id bucket).stored) : peer ∈ bucket ∨ peer ∈ table.stored := by
  obtain ⟨other, present, inside⟩ := List.mem_flatten.mp member
  rcases List.mem_or_eq_of_mem_set present with old | new
  · exact Or.inr (List.mem_flatten.mpr ⟨other, old, inside⟩)
  · exact Or.inl (new ▸ inside)

theorem mem_stored_of_loaded {table : RoutingTable} {id : Int} {bucket : Bucket} {peer : ID}
    (loaded : table.bucket id = some bucket) (member : peer ∈ bucket) : peer ∈ table.stored :=
  List.mem_flatten.mpr ⟨bucket, (loaded_inside loaded).1, member⟩

theorem applies_valid {table next : RoutingTable} {op : Op} (valid : Valid table)
    (applied : Applies table op next) : Valid next :=
  (apply_done_valid valid op applied).2

theorem mem_update {table next : RoutingTable} {target peer : ID}
    (applied : Applies table (.update target) next) (member : peer ∈ next.stored) :
    peer ∈ table.stored ∨ peer = target := by
  rcases update_applies applied with ⟨_, same⟩ | ⟨_, bucket, loaded, same⟩
  · exact Or.inl (same ▸ member)
  · rw [same] at member
    rcases mem_setBucket member with inside | old
    · rcases mem_refresh bucket target peer inside with old | new
      · exact Or.inl (mem_stored_of_loaded loaded old)
      · exact Or.inr new
    · exact Or.inl old

theorem mem_removePeer {table next : RoutingTable} {target peer : ID}
    (applied : Applies table (.removePeer target) next) (member : peer ∈ next.stored) :
    peer ∈ table.stored := by
  rcases removePeer_applies applied with same | ⟨bucket, loaded, same⟩
  · exact same ▸ member
  · rw [same] at member
    rcases mem_setBucket member with inside | old
    · exact mem_stored_of_loaded loaded (List.mem_of_mem_eraseP inside)
    · exact old

theorem update_keeps_stored {table next : RoutingTable} (valid : Valid table) {target peer : ID}
    (applied : Applies table (.update target) next) (member : peer ∈ table.stored)
    (hit : peer.equals target = true) : peer ∈ next.stored := by
  have hash := (equals_iff peer target).mp hit
  rcases update_applies applied with ⟨differ, _⟩ | ⟨_, bucket, loaded, same⟩
  · exact absurd (hash ▸ stored_length valid peer member) differ
  · obtain ⟨other, again, inside⟩ := stored_bucket valid target peer member hash
    cases loaded.symm.trans again
    obtain ⟨element, found, first⟩ := find_of_any (List.any_eq_true.mpr ⟨peer, inside, hit⟩)
    have apart := valid.distinct bucket (loaded_inside loaded).1
    have equal : element = peer := by
      by_contra different
      have elementHit : element.equals target = true := by simpa using List.find?_some first
      have elementHash := (equals_iff element target).mp elementHit
      have symmetric : Std.Symm fun left right : ID => left.id ≠ right.id := ⟨fun _ _ => Ne.symm⟩
      exact apart.forall found inside different (elementHash.trans hash.symm)
    rw [same]
    refine List.mem_flatten.mpr ⟨_, List.mem_set (loaded_inside loaded).2 _, ?_⟩
    simp [RoutingTable.refresh, first, equal]

theorem applies_current_iff {record next : Record} {op : Op} (valid : Valid record.table)
    (current : Current record) (applied : record.Applies op next) :
    Current next ↔ Repeats record.table op := by
  obtain ⟨changed, noted⟩ := applied
  cases op with
  | removePeer target =>
      simp only [Repeats, iff_true]
      intro peer member
      rw [noted]
      exact current peer (mem_removePeer changed member)
  | update target =>
      constructor
      · intro after peer member hit
        obtain ⟨last, known, alike⟩ := after peer (update_keeps_stored valid changed member hit)
        rw [noted, note, (equals_iff peer target).mp hit, Function.update_self] at known
        exact Option.some.inj known ▸ alike
      · intro repeats peer member
        rw [noted, note]
        by_cases hash : peer.id = target.id
        · rw [hash, Function.update_self]
          refine ⟨target, rfl, ?_⟩
          rcases mem_update changed member with old | new
          · exact repeats peer old ((equals_iff peer target).mpr hash)
          · rw [new]
            exact ⟨rfl, rfl⟩
        · rw [Function.update_of_ne hash]
          rcases mem_update changed member with old | new
          · exact current peer old
          · exact absurd (congrArg ID.id new) hash

theorem created_current {self : ID} {record : Record} (created : Created self record) :
    Valid record.table ∧ Current record := by
  obtain ⟨made, noted⟩ := created
  obtain ⟨table, again, _, valid⟩ :=
    createRoutingTable_valid self (createRoutingTable_nonempty self record.table made)
  cases made.symm.trans again
  refine ⟨valid, ?_⟩
  intro peer member
  have applied : Applies { self := self, buckets := List.replicate (self.id.length * 8) [] }
      (.update self) record.table := made
  rcases mem_update applied member with old | new
  · simp [RoutingTable.stored] at old
  · rw [noted, note, new, Function.update_self]
    exact ⟨self, rfl, rfl, rfl⟩

/-! What the table reports. -/

/-- One step of the shuffle; `draw` stands for the random numbers. -/
def swap (buckets : List Bucket) (i j : Nat) : List Bucket :=
  match buckets[i]?, buckets[j]? with
  | some left, some right => (buckets.set i right).set j left
  | _, _ => buckets

def shuffle (draw : Nat → Nat) : Nat → List Bucket → List Bucket
  | 0, buckets => buckets
  | i + 1, buckets => shuffle draw i (swap buckets (i + 1) (draw (i + 1) % (i + 1)))

/-- The collecting loop looks at the count after it has taken a contact. -/
def fronts (count : Int) : List Bucket → List ID → List ID
  | [], peers => peers
  | bucket :: rest, peers =>
      let peers := peers ++ bucket.head?.toList
      if peers.length ≥ count then peers else fronts count rest peers

def getRandomPeers (draw : Nat → Nat) (table : RoutingTable) (count : Int) : List ID :=
  let buckets := table.buckets.filter fun bucket => bucket.length > 0
  if buckets.length = 0 then []
  else fronts count (shuffle draw (buckets.length - 1) buckets) []

/-- `UpdateSelf` is an `Update` with the owner's hash and another address. -/
def updateSelf (table : RoutingTable) (newId : ID) : Outcome RoutingTable :=
  if table.self.equals newId then table.update newId else .done table

theorem swap_perm (buckets : List Bucket) (i j : Nat) : (swap buckets i j).Perm buckets := by
  unfold swap
  split
  · rename_i left right leftFound rightFound
    obtain ⟨iBound, rfl⟩ := List.getElem?_eq_some_iff.mp leftFound
    obtain ⟨jBound, rfl⟩ := List.getElem?_eq_some_iff.mp rightFound
    exact List.set_set_perm iBound jBound
  · exact List.Perm.refl buckets

theorem shuffle_perm (draw : Nat → Nat) (i : Nat) (buckets : List Bucket) :
    (shuffle draw i buckets).Perm buckets := by
  induction i generalizing buckets with
  | zero => exact List.Perm.refl buckets
  | succ i ih => exact (ih _).trans (swap_perm buckets _ _)

theorem mem_fronts {count : Int} {buckets : List Bucket} {peers : List ID} {peer : ID}
    (member : peer ∈ fronts count buckets peers) : peer ∈ peers ∨ ∃ bucket ∈ buckets, peer ∈ bucket := by
  induction buckets generalizing peers with
  | nil => exact Or.inl member
  | cons bucket rest ih =>
      have taken : peer ∈ peers ++ bucket.head?.toList →
          peer ∈ peers ∨ ∃ other ∈ bucket :: rest, peer ∈ other := by
        intro inside
        rcases List.mem_append.mp inside with old | front
        · exact Or.inl old
        · exact Or.inr ⟨bucket, by simp, List.mem_of_mem_head? (by simpa using front)⟩
      simp only [fronts] at member
      split at member
      · exact taken member
      · rcases ih member with inside | ⟨other, present, inside⟩
        · exact taken inside
        · exact Or.inr ⟨other, List.mem_cons_of_mem bucket present, inside⟩

theorem mem_getRandomPeers {draw : Nat → Nat} {table : RoutingTable} {count : Int} {peer : ID}
    (member : peer ∈ getRandomPeers draw table count) : peer ∈ table.stored := by
  simp only [getRandomPeers] at member
  split at member
  · simp at member
  · rcases mem_fronts member with none | ⟨bucket, shuffled, inside⟩
    · simp at none
    · exact List.mem_flatten.mpr ⟨bucket, List.mem_of_mem_filter ((shuffle_perm _ _ _).mem_iff.mp shuffled), inside⟩

theorem mem_nearest {sorter : Sorter ID} {target : ID} {count : Int} {peers result : List ID}
    (cut : nearest sorter target count peers = .done result) {peer : ID} (member : peer ∈ result) :
    peer ∈ peers := by
  have sorted := (sorter.perm (byElement (closer target)) peers).mem_iff (a := peer)
  simp only [nearest] at cut
  split at cut
  · split at cut
    · simp at cut
    · cases cut
      exact sorted.mp (List.mem_of_mem_take member)
  · cases cut
    exact sorted.mp member

theorem mem_findClosestPeers {sorter : Sorter ID} {table : RoutingTable} (valid : Valid table)
    {target : ID} {count : Int} {peers : List ID}
    (found : findClosestPeers sorter table target count = .done peers) {peer : ID}
    (member : peer ∈ peers) : peer ∈ table.stored := by
  rw [findClosestPeers_eq] at found
  split at found
  · cases found
    simp at member
  · rename_i same
    obtain ⟨all, gathered, stored⟩ := gather_done valid target (not_not.mp same).symm count
    rw [gathered, Outcome.done_bind] at found
    exact stored peer (mem_nearest found member)

def Reports (table : RoutingTable) (peer : ID) : Prop :=
  (∃ draw count, peer ∈ getRandomPeers draw table count) ∨
    ∃ sorter target count peers,
      findClosestPeers sorter table target count = .done peers ∧ peer ∈ peers

/-- A search for more contacts than there are reports them all. -/
theorem reports_iff_stored {table : RoutingTable} (valid : Valid table) (peer : ID) :
    Reports table peer ↔ peer ∈ table.stored := by
  constructor
  · rintro (⟨draw, count, member⟩ | ⟨sorter, target, count, peers, found, member⟩)
    · exact mem_getRandomPeers member
    · exact mem_findClosestPeers valid found member
  · intro member
    obtain ⟨last, found, searched, window, _, stopped, _⟩ := findClosestPeers_spec valid table.self
      insertionSorter rfl (table.stored.length + 1 : Nat) (by omega)
    have subset : found ⊆ table.stored := fun other inside => ((window.mem other).mp inside).1
    have bound := (window.nodup.subperm subset).length_le
    have all : ∀ other ∈ table.stored, gap table table.self other ≤ last := by
      rcases stopped with many | all
      · omega
      · exact all
    refine Or.inr ⟨insertionSorter, table.self, (table.stored.length + 1 : Nat), _, searched, ?_⟩
    rw [List.take_of_length_le (by simp; omega)]
    exact (window.mem peer).mpr ⟨member, all peer member⟩

/-- After `UpdateSelf` the table reports the new value exactly if it already held it. -/
theorem updateSelf_reported_iff {table next : RoutingTable} (valid : Valid table) {newId : ID}
    (owner : table.self.equals newId = true) (updated : updateSelf table newId = .done next) :
    (∀ peer, Reports next peer → peer.equals newId = true → Alike peer newId) ↔
      Repeats table (.update newId) := by
  rw [updateSelf, if_pos owner] at updated
  have applied : Applies table (.update newId) next := updated
  have kept := applies_valid valid applied
  constructor
  · intro reported peer member hit
    have stays := update_keeps_stored valid applied member hit
    exact reported peer ((reports_iff_stored kept peer).mpr stays) hit
  · intro repeats peer reported hit
    rcases mem_update applied ((reports_iff_stored kept peer).mp reported) with old | new
    · exact repeats peer old hit
    · rw [new]
      exact ⟨rfl, rfl⟩

/-- The contacts stay current as long as every update of a stored contact repeats
what is stored; the first one that does not is lost, `UpdateSelf` included. -/
theorem contacts_current_while_repeating {self : ID} {start record : Record} {ops : List Op}
    (created : Created self start)
    (run : Run (fun record op next => record.Applies op next ∧ Repeats record.table op) start ops record) :
    Current record ∧
      (∀ op next, record.Applies op next → (Current next ↔ Repeats record.table op)) ∧
      ∀ newId next, record.table.self.equals newId = true → updateSelf record.table newId = .done next →
        ((∀ peer, Reports next peer → peer.equals newId = true → Alike peer newId) ↔
          Repeats record.table (.update newId)) := by
  obtain ⟨valid, current⟩ : Valid record.table ∧ Current record :=
    run.invariant (fun record => Valid record.table ∧ Current record)
      (fun _ _ _ step kept => ⟨applies_valid kept.1 step.1.1,
        (applies_current_iff kept.1 kept.2 step.1).mpr step.2⟩)
      (created_current created)
  exact ⟨current, fun op next applied => applies_current_iff valid current applied,
    fun newId next owner updated => updateSelf_reported_iff valid owner updated⟩

def movedOwner : ID := { smallOwner with address := "tcp://10.0.0.9:1" }

def movedContact : ID := { smallContact with address := "tcp://10.0.0.9:2" }

/-- A contact is stored, updated again, removed, and stored at another address. -/
def contactOps : List Op :=
  [.update smallContact, .update smallContact, .removePeer smallContact, .update movedContact]

theorem contacts_current_repeated :
    ∃ start record, Created smallOwner start ∧
      Run (fun record op next => record.Applies op next ∧ Repeats record.table op) start contactOps record ∧
      movedContact ∈ record.table.stored ∧ Current record := by
  obtain ⟨start, record, created, followed, stored⟩ : ∃ start record, Created smallOwner start ∧
      follow (fun record op => if Repeats record.table op then
          (op.apply record.table).toOption.map fun table => Record.mk table (note record.latest op) else none)
        contactOps start = some record ∧ movedContact ∈ record.table.stored :=
    ⟨⟨_, _⟩, _, ⟨rfl, rfl⟩, rfl, by decide⟩
  have run : Run (fun record op next => record.Applies op next ∧ Repeats record.table op) start contactOps
      record := by
    refine (Run.of_follow_if followed).mono fun _ _ _ step => ?_
    obtain ⟨table, applied, rfl⟩ := Option.map_eq_some_iff.mp step.1
    exact ⟨⟨Outcome.toOption_eq_some.mp applied, rfl⟩, step.2⟩
  exact ⟨start, record, created, run, stored, (contacts_current_while_repeating created run).1⟩

theorem updateSelf_keeps_old_address :
    ∃ table, history smallOwner [] = .done table ∧ updateSelf table movedOwner = .done table ∧
      getRandomPeers (fun _ => 0) table 1 = [smallOwner] ∧
      findClosestPeers insertionSorter table movedOwner 1 = .done [smallOwner] ∧
      smallOwner.address ≠ movedOwner.address :=
  ⟨_, rfl, by decide, by decide, by decide, by decide⟩

end Carrier.RouteContents
