import Carrier.RouteContents

/-! What the table of `dht/routes.go` lists. `GetPeers` and `GetPeerAddresses` walk
all buckets and skip a contact whose public key they have met, while the table
tells contacts apart by their hash. `GetRandomPeers` takes the front of one bucket
after the other in a shuffled order and counts after it has taken one. -/
namespace Carrier.PeerListing

open GoRuntime Identity Routes ClosestPeers RouteContents

/-! Listing by public key. -/

section Listing

variable {Item : Type}

/-- The body of both listing loops; the state is `visited` and the result so far. -/
def visit (item : ID → Item) (state : List String × List Item) (id : ID) : List String × List Item :=
  if id.publicKeyHex ∈ state.1 then state
  else (id.publicKeyHex :: state.1, state.2 ++ [item id])

def list (item : ID → Item) (table : RoutingTable) : List Item :=
  (table.buckets.foldl (fun state bucket => bucket.foldl (visit item) state)
    ([table.self.publicKeyHex], [])).2

/-- The contacts whose key is not among the visited ones nor met before. -/
def unseen (visited : List String) : List ID → List ID
  | [] => []
  | id :: rest =>
      if id.publicKeyHex ∈ visited then unseen visited rest
      else id :: unseen (id.publicKeyHex :: visited) rest

theorem foldl_visit (item : ID → Item) (ids : List ID) (visited : List String) (found : List Item) :
    (ids.foldl (visit item) (visited, found)).2 = found ++ (unseen visited ids).map item := by
  induction ids generalizing visited found with
  | nil => simp [unseen]
  | cons id rest ih =>
      by_cases seen : id.publicKeyHex ∈ visited
      · simp [visit, unseen, seen, ih]
      · simp [visit, unseen, seen, ih]

theorem list_eq (item : ID → Item) (table : RoutingTable) :
    list item table = (unseen [table.self.publicKeyHex] table.stored).map item := by
  rw [list, RoutingTable.stored, ← List.foldl_flatten, foldl_visit, List.nil_append]

end Listing

def getPeers (table : RoutingTable) : List ID := list id table

def getPeerAddresses (table : RoutingTable) : List String := list ID.address table

theorem getPeers_eq (table : RoutingTable) :
    getPeers table = unseen [table.self.publicKeyHex] table.stored := by
  rw [getPeers, list_eq, List.map_id]

theorem getPeerAddresses_eq (table : RoutingTable) :
    getPeerAddresses table = (getPeers table).map ID.address := by
  rw [getPeerAddresses, list_eq, getPeers_eq]

theorem unseen_sublist (visited : List String) (ids : List ID) : (unseen visited ids).Sublist ids := by
  induction ids generalizing visited with
  | nil => exact List.Sublist.slnil
  | cons id rest ih =>
      unfold unseen
      split
      · exact (ih visited).cons id
      · exact (ih _).cons_cons id

/-- A contact is listed exactly if its key is new where the walk meets it. -/
theorem mem_unseen_iff (visited : List String) (before : List ID) (peer : ID) (after : List ID)
    (once : (before ++ peer :: after).Nodup) :
    peer ∈ unseen visited (before ++ peer :: after) ↔
      peer.publicKeyHex ∉ visited ∧ ∀ earlier ∈ before, earlier.publicKeyHex ≠ peer.publicKeyHex := by
  induction before generalizing visited with
  | nil =>
      have notAfter : peer ∉ after := (List.nodup_cons.mp once).1
      by_cases seen : peer.publicKeyHex ∈ visited
      · have absent : peer ∉ unseen visited after :=
          fun member => notAfter ((unseen_sublist visited after).subset member)
        simp [unseen, seen, absent]
      · simp [unseen, seen]
  | cons first before ih =>
      obtain ⟨firstOnce, restOnce⟩ := List.nodup_cons.mp once
      have different : peer ≠ first := fun same => firstOnce (by simp [same])
      rw [List.forall_mem_cons]
      by_cases seen : first.publicKeyHex ∈ visited
      · rw [List.cons_append, unseen, if_pos seen, ih visited restOnce]
        exact and_congr_right fun new => ⟨fun apart => ⟨fun same => new (same ▸ seen), apart⟩, And.right⟩
      · rw [List.cons_append, unseen, if_neg seen, List.mem_cons, or_iff_right different,
          ih _ restOnce, List.mem_cons, not_or, ne_comm, and_assoc, and_left_comm]

/-- The public keys tell the owner from the others: a contact repeats the owner's
key, or that of a contact listed before it, exactly if it has the owner's hash. -/
def KeysTell (table : RoutingTable) : Prop :=
  ∀ before peer after, table.stored = before ++ peer :: after →
    (peer.equals table.self = true ↔
      peer.publicKeyHex = table.self.publicKeyHex ∨
        ∃ earlier ∈ before, earlier.publicKeyHex = peer.publicKeyHex)

def ListsOthers (table : RoutingTable) (peers : List ID) : Prop :=
  peers.Nodup ∧ ∀ peer, peer ∈ peers ↔ peer ∈ table.stored ∧ peer.equals table.self = false

theorem getPeers_listsOthers_iff {table : RoutingTable} (valid : Valid table) :
    ListsOthers table (getPeers table) ↔ KeysTell table := by
  have once : table.stored.Nodup := stored_nodup valid
  have sublist := unseen_sublist [table.self.publicKeyHex] table.stored
  -- The listing contains the contact of a split exactly if its key is new there.
  have listed : ∀ before peer after, table.stored = before ++ peer :: after →
      (peer ∈ getPeers table ↔ ¬ (peer.publicKeyHex = table.self.publicKeyHex ∨
        ∃ earlier ∈ before, earlier.publicKeyHex = peer.publicKeyHex)) := by
    intro before peer after split
    have reached := mem_unseen_iff [table.self.publicKeyHex] before peer after (split ▸ once)
    rw [getPeers_eq, split, reached]
    simp
  rw [ListsOthers, KeysTell, getPeers_eq]
  rw [getPeers_eq] at listed
  constructor
  · rintro ⟨_, exact_⟩ before peer after split
    have member : peer ∈ table.stored := by simp [split]
    have tells := listed before peer after split
    rw [exact_ peer] at tells
    simp only [member, true_and] at tells
    rw [← not_iff_not, Bool.not_eq_true]
    exact tells
  · intro tells
    refine ⟨once.sublist sublist, fun peer => ⟨fun member => ?_, fun ⟨member, other⟩ => ?_⟩⟩
    · have stored := sublist.subset member
      obtain ⟨before, after, split⟩ := List.append_of_mem stored
      have new := (listed before peer after split).mp member
      rw [← tells before peer after split, Bool.not_eq_true] at new
      exact ⟨stored, new⟩
    · obtain ⟨before, after, split⟩ := List.append_of_mem member
      rw [listed before peer after split, ← tells before peer after split, other]
      exact Bool.false_ne_true

/-- `GetPeerAddresses` always follows `GetPeers`, and `GetPeers` lists the contacts
other than the owner exactly if the public keys tell them apart. -/
theorem getPeers_complete_iff {self : ID} {ops : List Op} {table : RoutingTable}
    (reached : history self ops = .done table) :
    getPeerAddresses table = (getPeers table).map ID.address ∧
      (ListsOthers table (getPeers table) ↔ KeysTell table) :=
  ⟨getPeerAddresses_eq table, getPeers_listsOthers_iff (history_valid reached).2⟩

theorem getPeers_complete_small :
    ∃ table, history smallOwner [.update smallContact] = .done table ∧
      ListsOthers table (getPeers table) ∧
      getPeerAddresses table = (getPeers table).map ID.address := by
  obtain ⟨table, reached, stored, owner⟩ : ∃ table, history smallOwner [.update smallContact] = .done table ∧
      table.stored = [smallContact, smallOwner] ∧ table.self = smallOwner := ⟨_, rfl, rfl, rfl⟩
  obtain ⟨addresses, exact_⟩ := getPeers_complete_iff reached
  refine ⟨table, reached, exact_.mpr ?_, addresses⟩
  intro before peer after split
  rw [stored] at split
  rw [owner]
  rcases before with _ | ⟨first, _ | ⟨second, rest⟩⟩
  · obtain ⟨rfl, -⟩ := List.cons.inj split
    decide
  · obtain ⟨rfl, tail⟩ := List.cons.inj split
    obtain ⟨rfl, -⟩ := List.cons.inj tail
    decide
  · simp at split

def keySharer : ID := { smallContact with netKey := smallOwner.netKey }

/-- The contact is stored, but not listed. -/
theorem getPeers_skips_shared_key :
    ∃ table, history smallOwner [.update keySharer] = .done table ∧ keySharer ∈ table.stored ∧
      keySharer.equals table.self = false ∧ getPeers table = [] :=
  ⟨_, rfl, by decide, by decide, by decide⟩

/-! Random contacts. -/

def occupied (table : RoutingTable) : List Bucket :=
  table.buckets.filter fun bucket => bucket.length > 0

def shuffled (draw : Nat → Nat) (table : RoutingTable) : List Bucket :=
  shuffle draw ((occupied table).length - 1) (occupied table)

theorem shuffled_perm (draw : Nat → Nat) (table : RoutingTable) :
    (shuffled draw table).Perm (occupied table) := shuffle_perm draw _ _

theorem mem_occupied {table : RoutingTable} {bucket : Bucket} :
    bucket ∈ occupied table ↔ bucket ∈ table.buckets ∧ bucket ≠ [] := by
  simp [occupied, List.length_pos_iff]

theorem shuffled_nonempty {draw : Nat → Nat} {table : RoutingTable} {bucket : Bucket}
    (member : bucket ∈ shuffled draw table) : bucket ≠ [] :=
  (mem_occupied.mp ((shuffled_perm draw table).mem_iff.mp member)).2

theorem occupied_eq_nil_iff (table : RoutingTable) : occupied table = [] ↔ table.stored = [] := by
  rw [RoutingTable.stored, List.flatten_eq_nil_iff, List.eq_nil_iff_forall_not_mem]
  simp [mem_occupied]

/-- The count is looked at after a contact is taken, so one contact is always taken. -/
theorem fronts_eq (count : Int) (buckets : List Bucket) (peers : List ID)
    (nonempty : ∀ bucket ∈ buckets, bucket ≠ []) :
    fronts count buckets peers =
      peers ++ (buckets.take (max 1 (count - peers.length)).toNat).filterMap List.head? := by
  induction buckets generalizing peers with
  | nil => simp [fronts]
  | cons bucket rest ih =>
      obtain ⟨front, others, rfl⟩ := List.exists_cons_of_ne_nil (nonempty bucket (by simp))
      have later := ih (peers ++ [front]) fun other member => nonempty other (by simp [member])
      simp only [fronts, List.head?_cons, Option.toList_some, List.length_append, List.length_singleton]
      split
      · rename_i enough
        have one : (max 1 (count - peers.length)).toNat = 1 := by omega
        simp [one]
      · rename_i missing
        have more : (max 1 (count - peers.length)).toNat =
            (max 1 (count - (peers ++ [front]).length)).toNat + 1 := by
          simp only [List.length_append, List.length_singleton]
          omega
        rw [later, more, List.take_succ_cons]
        simp

theorem getRandomPeers_eq (draw : Nat → Nat) (table : RoutingTable) (count : Int) :
    getRandomPeers draw table count =
      ((shuffled draw table).take (max 1 count).toNat).filterMap List.head? := by
  by_cases empty : occupied table = []
  · have none : (shuffled draw table) = [] := List.perm_nil.mp (empty ▸ shuffled_perm draw table)
    simp only [occupied] at empty
    simp [getRandomPeers, empty, none]
  · have some : (occupied table).length ≠ 0 := fun zero => empty (List.length_eq_zero_iff.mp zero)
    have taken := fronts_eq count (shuffled draw table) [] fun _ => shuffled_nonempty
    simp only [List.nil_append, List.length_nil, Int.natCast_zero, Int.sub_zero] at taken
    rw [← taken]
    simp only [occupied] at some
    simp only [getRandomPeers, some, ↓reduceIte]
    rfl

theorem getRandomPeers_length (draw : Nat → Nat) (table : RoutingTable) (count : Int) :
    (getRandomPeers draw table count).length = min (max 1 count).toNat (occupied table).length := by
  have fronted : ∀ bucket ∈ (shuffled draw table).take (max 1 count).toNat, bucket.head?.isSome :=
    fun bucket member => by simpa using shuffled_nonempty (List.mem_of_mem_take member)
  rw [getRandomPeers_eq, List.filterMap_length_eq_length.mpr fronted, List.length_take,
    (shuffled_perm draw table).length_eq]

def Apart (first second : Bucket) : Prop := ∀ left ∈ first, ∀ right ∈ second, left.id ≠ right.id

theorem Apart.symm {first second : Bucket} (apart : Apart first second) : Apart second first :=
  fun right rightIn left leftIn same => apart left leftIn right rightIn same.symm

theorem getRandomPeers_distinct {table : RoutingTable} (valid : Valid table) (draw : Nat → Nat)
    (count : Int) :
    (getRandomPeers draw table count).Pairwise fun left right => left.equals right = false := by
  have apart : table.buckets.Pairwise Apart := (List.pairwise_flatten.mp (stored_distinct valid)).2
  have mixed : (shuffled draw table).Pairwise Apart :=
    ((shuffled_perm draw table).pairwise_iff Apart.symm).mpr (apart.sublist List.filter_sublist)
  rw [getRandomPeers_eq]
  refine List.pairwise_filterMap.mpr ((mixed.sublist (List.take_sublist _ _)).imp ?_)
  intro first second order left leftFront right rightFront
  have different := order left (List.mem_of_mem_head? leftFront) right (List.mem_of_mem_head? rightFront)
  simpa [ID.equals] using different

/-! Some outcome of the draws brings the last bucket to the front. -/

theorem swap_getElem? {buckets : List Bucket} {i j : Nat} (iBound : i < buckets.length)
    (jBound : j < buckets.length) (k : Nat) :
    (swap buckets i j)[k]? =
      if k = j then buckets[i]? else if k = i then buckets[j]? else buckets[k]? := by
  simp only [swap, List.getElem?_eq_getElem iBound, List.getElem?_eq_getElem jBound]
  grind

/-- While every draw is 0, the bucket in the second place waits for the last swap. -/
theorem shuffle_second {draw : Nat → Nat} {i : Nat} {buckets : List Bucket}
    (still : ∀ k, 0 < k → k ≤ i → draw k % k = 0) (positive : 0 < i) (inside : i < buckets.length) :
    (shuffle draw i buckets)[0]? = buckets[1]? := by
  induction i generalizing buckets with
  | zero => omega
  | succ i ih =>
      have zero := still (i + 1) positive (Nat.le_refl _)
      have swapped := swap_getElem? inside (Nat.zero_lt_of_lt inside)
      rw [shuffle, zero]
      by_cases last : i = 0
      · subst last
        rw [shuffle, swapped, if_pos rfl]
      · have length : (swap buckets (i + 1) 0).length = buckets.length :=
          (swap_perm buckets (i + 1) 0).length_eq
        rw [ih (fun k low high => still k low (by omega)) (by omega) (by omega), swapped,
          if_neg (by decide), if_neg (by omega)]

theorem shuffle_last (buckets : List Bucket) :
    ∃ draw, (shuffle draw (buckets.length - 1) buckets)[0]? = buckets[buckets.length - 1]? := by
  rcases size : buckets.length - 1 with _ | i
  · exact ⟨fun _ => 0, rfl⟩
  · have inside : i + 1 < buckets.length := by omega
    -- The first swap takes the last bucket to the second place, or right to the front.
    refine ⟨fun k => if k = i + 1 then 1 else 0, ?_⟩
    rw [shuffle, if_pos rfl]
    by_cases two : i = 0
    · subst two
      rw [shuffle, swap_getElem? inside (by omega), if_pos (by decide)]
    · rw [Nat.mod_eq_of_lt (by omega : 1 < i + 1)]
      have length : (swap buckets (i + 1) 1).length = buckets.length :=
        (swap_perm buckets (i + 1) 1).length_eq
      rw [shuffle_second (fun k low high => by rw [if_neg (by omega), Nat.zero_mod]) (by omega)
        (by omega), swap_getElem? inside (by omega), if_pos rfl]

theorem shuffled_last {table : RoutingTable} {own : Bucket} (last : table.buckets.getLast? = some own)
    (nonempty : own ≠ []) : ∃ draw, (shuffled draw table)[0]? = some own := by
  obtain ⟨draw, first⟩ := shuffle_last (occupied table)
  refine ⟨draw, first.trans ?_⟩
  obtain ⟨front, split⟩ := List.getLast?_eq_some_iff.mp last
  simp [occupied, split, List.filter_append, List.length_pos_iff, nonempty]

theorem own_bucket_last {table : RoutingTable} (valid : Valid table) :
    table.bucket (bucketID table.self table.self) = table.buckets.getLast? := by
  have positive : 0 < table.self.id.length := List.length_pos_iff.mpr valid.nonempty
  have zero : levelFrom table.self table.self = 0 := by
    rw [levelFrom, Nat.xor_self]
    rfl
  have place : bucketID table.self table.self = (table.buckets.length - 1 : Nat) := by
    rw [bucketID_eq table.self table.self valid.nonempty rfl, zero, valid.width]
    omega
  have width := valid.width
  rw [List.getLast?_eq_getElem?, place, RoutingTable.bucket, if_pos ⟨by omega, by omega⟩,
    Int.toNat_natCast]

/-- The owner stands at the front of its own bucket, where `GetRandomPeers` takes it. -/
def OwnerInFront (table : RoutingTable) : Prop :=
  ∃ bucket front, table.bucket (bucketID table.self table.self) = some bucket ∧
    bucket.head? = some front ∧ front.equals table.self = true

theorem owner_taken_in_front {table : RoutingTable} (valid : Valid table) {draw : Nat → Nat} {count : Int}
    {peer : ID} (taken : peer ∈ getRandomPeers draw table count) (owner : peer.equals table.self = true) :
    OwnerInFront table := by
  rw [getRandomPeers_eq] at taken
  obtain ⟨bucket, member, front⟩ := List.mem_filterMap.mp taken
  have inTable := (mem_occupied.mp ((shuffled_perm draw table).mem_iff.mp (List.mem_of_mem_take member))).1
  obtain ⟨index, found⟩ := List.mem_iff_getElem?.mp inTable
  have place := (valid.placed index bucket found peer (List.mem_of_mem_head? front)).2
  rw [bucketID_congr table.self peer table.self ((equals_iff peer table.self).mp owner)] at place
  refine ⟨bucket, peer, (bucket_eq_some_iff table _ _).mpr ?_, front, owner⟩
  rw [place]
  exact ⟨by omega, by simpa using found⟩

theorem owner_in_front_taken {table : RoutingTable} (valid : Valid table) (fronted : OwnerInFront table)
    (count : Int) : ∃ draw, ∃ peer ∈ getRandomPeers draw table count, peer.equals table.self = true := by
  obtain ⟨bucket, front, own, head, owner⟩ := fronted
  rw [own_bucket_last valid] at own
  obtain ⟨draw, first⟩ := shuffled_last own (List.ne_nil_of_mem (List.mem_of_mem_head? head))
  refine ⟨draw, front, ?_, owner⟩
  rw [getRandomPeers_eq]
  refine List.mem_filterMap.mpr ⟨bucket, List.mem_iff_getElem?.mpr ⟨0, ?_⟩, head⟩
  rw [List.getElem?_take_of_lt (by omega), first]

structure Sample (table : RoutingTable) (count : Int) (peers : List ID) : Prop where
  atMost : peers.length ≤ count
  stored : ∀ peer ∈ peers, peer ∈ table.stored
  distinct : peers.Pairwise fun left right => left.equals right = false
  others : ∀ peer ∈ peers, peer.equals table.self = false

theorem sample_iff {table : RoutingTable} (valid : Valid table) (draw : Nat → Nat) (count : Int)
    (natural : 0 ≤ count) :
    Sample table count (getRandomPeers draw table count) ↔
      (0 < count ∨ table.stored = []) ∧
        ∀ peer ∈ getRandomPeers draw table count, peer.equals table.self = false := by
  have length := getRandomPeers_length draw table count
  have size : (occupied table).length = 0 ↔ table.stored = [] := by
    rw [List.length_eq_zero_iff, occupied_eq_nil_iff]
  constructor
  · intro sample
    have atMost := sample.atMost
    refine ⟨?_, sample.others⟩
    rw [← size]
    omega
  · rintro ⟨room, others⟩
    rw [← size] at room
    exact ⟨by omega, fun peer => mem_getRandomPeers, getRandomPeers_distinct valid draw count, others⟩

/-- A sample has every promised property exactly if room is asked for one contact
and the shuffle leaves the owner's bucket behind the ones taken; over all outcomes
of the draws, exactly if the owner does not stand at the front of its bucket. -/
theorem getRandomPeers_sample_iff {self : ID} {ops : List Op} {table : RoutingTable}
    (reached : history self ops = .done table) (count : Int) (natural : 0 ≤ count) :
    (∀ draw, Sample table count (getRandomPeers draw table count) ↔
      (0 < count ∨ table.stored = []) ∧
        ∀ bucket ∈ (shuffled draw table).take count.toNat, ∀ front ∈ bucket.head?,
          front.equals table.self = false) ∧
    ((∀ draw, Sample table count (getRandomPeers draw table count)) ↔
      (0 < count ∨ table.stored = []) ∧ ¬ OwnerInFront table) := by
  have valid := (history_valid reached).2
  constructor
  · intro draw
    rw [sample_iff valid draw count natural]
    refine and_congr_right fun room => ?_
    have same : (shuffled draw table).take (max 1 count).toNat = (shuffled draw table).take count.toNat := by
      rcases room with positive | empty
      · rw [max_eq_right (by omega)]
      · have none := (shuffled_perm draw table)
        rw [(occupied_eq_nil_iff table).mpr empty] at none
        rw [List.perm_nil.mp none, List.take_nil, List.take_nil]
    rw [getRandomPeers_eq, same]
    simp only [List.mem_filterMap, forall_exists_index, and_imp, Option.mem_def]
    exact ⟨fun others bucket member front head => others front bucket member head,
      fun others peer bucket member head => others bucket member peer head⟩
  · constructor
    · intro samples
      refine ⟨((sample_iff valid (fun _ => 0) count natural).mp (samples _)).1, fun fronted => ?_⟩
      obtain ⟨draw, peer, taken, owner⟩ := owner_in_front_taken valid fronted count
      have other := (samples draw).others peer taken
      rw [owner] at other
      exact Bool.noConfusion other
    · rintro ⟨room, behind⟩ draw
      refine (sample_iff valid draw count natural).mpr ⟨room, fun peer taken => ?_⟩
      exact eq_false_of_ne_true fun owner => behind (owner_taken_in_front valid taken owner)

/-- A contact at distance one shares the owner's bucket and pushes the owner back. -/
def neighbour : ID := plainID "tcp://10.0.0.4:1" [0x01]

theorem getRandomPeers_sample_small :
    ∃ table, history smallOwner [.update neighbour] = .done table ∧
      ∀ draw, Sample table 1 (getRandomPeers draw table 1) := by
  obtain ⟨table, reached, owner, own⟩ : ∃ table, history smallOwner [.update neighbour] = .done table ∧
      table.self = smallOwner ∧
      table.bucket (bucketID smallOwner smallOwner) = some [neighbour, smallOwner] := ⟨_, rfl, rfl, rfl⟩
  refine ⟨table, reached, (getRandomPeers_sample_iff reached 1 (by decide)).2.mpr ⟨Or.inl (by decide), ?_⟩⟩
  rintro ⟨bucket, front, found, head, same⟩
  rw [owner, own] at found
  cases found
  cases head
  rw [owner] at same
  exact absurd same (by decide)

/-- Asked for none it returns one, and asked for one it returns the owner. -/
theorem getRandomPeers_returns_owner :
    ∃ table, history smallOwner [] = .done table ∧
      (getRandomPeers (fun _ => 0) table 0).length = 1 ∧
      getRandomPeers (fun _ => 0) table 1 = [table.self] :=
  ⟨_, rfl, by decide, by decide⟩

end Carrier.PeerListing
