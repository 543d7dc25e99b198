import Carrier.BigEndian
import Carrier.XorMetric

/-! Peer identities of `peer/identity.go`. `Equals`, `Less`, `XorID` and
`PrefixLen` read the key hash `Id`; `Xor` reads the public key `NetKey`. The
bucket of a peer is the level of its hash difference with the table's owner. -/
namespace Carrier.Identity

open GoRuntime BigEndian XorMetric

/-- `protobuf.ID`. The receivers test `NetKey` against nil, so it is optional. -/
structure ID where
  netKey : Option Bytes
  address : String
  id : Bytes
  connectionId : Bytes
  address2 : String
  deriving DecidableEq, Repr

def hexDigit (n : Nat) : Char :=
  if n < 10 then Char.ofNat (48 + n) else Char.ofNat (87 + n)

/-- `hex.EncodeToString`: two lower-case digits a byte. -/
def hexEncode (bytes : Bytes) : String :=
  String.ofList (bytes.flatMap fun b => [hexDigit (b.toNat / 16), hexDigit (b.toNat % 16)])

def leadingZeros8 (b : UInt8) : Nat :=
  if b = 0 then 8 else 7 - b.toNat.log2

/-- The loop shared by `Xor` and `XorID`: the result has the length of the
receiver, and stays zero where the argument is shorter. -/
def xorBytes : Bytes → Bytes → Bytes
  | [], _ => []
  | _ :: as, [] => 0 :: xorBytes as []
  | a :: as, b :: bs => (a ^^^ b) :: xorBytes as bs

namespace ID

def equals (id other : ID) : Bool := id.id == other.id

def less (id other : ID) : Bool := bytesCompare id.id other.id == -1

def publicKeyHex (id : ID) : String := hexEncode (id.netKey.getD [])

def xor (id other : ID) : ID :=
  { netKey := some (xorBytes (id.netKey.getD []) (other.netKey.getD [])), address := id.address,
    id := [], connectionId := [], address2 := "" }

def xorID (id other : ID) : ID :=
  { netKey := none, address := id.address, id := xorBytes id.id other.id,
    connectionId := [], address2 := "" }

def prefixScan (index : Nat) : Bytes → Option Nat
  | [] => none
  | b :: rest => if b ≠ 0 then some (index * 8 + leadingZeros8 b) else prefixScan (index + 1) rest

/-- The all-zero identity is clamped to the last bit, and the empty one to -1. -/
def prefixLen (id : ID) : Int :=
  match prefixScan 0 id.id with
  | some bits => bits
  | none => id.id.length * 8 - 1

end ID

@[simp] theorem xorBytes_length (left right : Bytes) :
    (xorBytes left right).length = left.length := by
  induction left generalizing right with
  | nil => rfl
  | cons a as ih => cases right <;> simp [xorBytes, ih]

theorem xorBytes_eq_zipWith (left right : Bytes) (same : left.length = right.length) :
    xorBytes left right = List.zipWith (· ^^^ ·) left right := by
  induction left generalizing right with
  | nil => simp [xorBytes]
  | cons a as ih =>
      cases right with
      | nil => simp at same
      | cons b bs => simp [xorBytes, ih bs (by simpa using same)]

theorem equals_iff (left right : ID) : left.equals right = true ↔ left.id = right.id := by
  simp [ID.equals]

theorem equals_comm (left right : ID) : left.equals right = right.equals left :=
  BEq.comm

def hash (id : ID) : Nat := value id.id

/-- `XorID` followed by `Less` compares exclusive-or distances as numbers. -/
theorem xorID_less_iff (left right target : ID) (leftLength : left.id.length = target.id.length)
    (rightLength : right.id.length = target.id.length) :
    (left.xorID target).less (right.xorID target) = true ↔
      hash left ^^^ hash target < hash right ^^^ hash target := by
  have sameLength : (xorBytes left.id target.id).length = (xorBytes right.id target.id).length := by
    simp [leftLength, rightLength]
  simp only [ID.less, ID.xorID, beq_iff_eq, bytesCompare_eq_neg_one_iff]
  rw [lt_iff_value_lt _ _ sameLength, xorBytes_eq_zipWith _ _ leftLength,
    xorBytes_eq_zipWith _ _ rightLength, value_zipWith_xor _ _ leftLength,
    value_zipWith_xor _ _ rightLength]
  rfl

/-! The position of the first set bit is the level of the number. -/

theorem byte_level_le (b : UInt8) : b.toNat.log2 ≤ 7 := by
  by_cases zero : b.toNat = 0
  · simp [zero]
  · exact Nat.le_of_lt_succ ((Nat.log2_lt zero).mpr b.toNat_lt)

theorem value_cons_level (b : UInt8) (rest : Bytes) (nonzero : b ≠ 0) :
    level (value (b :: rest)) = 8 * rest.length + b.toNat.log2 := by
  have byte : b.toNat ≠ 0 := fun zero => nonzero (UInt8.toNat_inj.mp (by simpa using zero))
  have low : 2 ^ b.toNat.log2 ≤ b.toNat := Nat.log2_self_le byte
  have high : b.toNat + 1 ≤ 2 ^ (b.toNat.log2 + 1) := Nat.lt_log2_self
  have tail := value_lt rest
  have scaledLow : 2 ^ (8 * rest.length) * 2 ^ b.toNat.log2 ≤ 2 ^ (8 * rest.length) * b.toNat :=
    Nat.mul_le_mul_left _ low
  have scaledHigh : 2 ^ (8 * rest.length) * (b.toNat + 1) ≤
      2 ^ (8 * rest.length) * 2 ^ (b.toNat.log2 + 1) := Nat.mul_le_mul_left _ high
  rw [← pow_add] at scaledLow scaledHigh
  rw [Nat.mul_add] at scaledHigh
  have nonzeroValue : value (b :: rest) ≠ 0 := by
    have positive : 0 < 2 ^ (8 * rest.length + b.toNat.log2) := Nat.two_pow_pos _
    simp only [value]
    omega
  rw [level, Nat.log2_eq_iff nonzeroValue]
  simp only [value]
  rw [Nat.add_assoc (8 * rest.length)]
  omega

theorem prefixScan_eq (bytes : Bytes) (index : Nat) :
    ID.prefixScan index bytes =
      if value bytes = 0 then none
      else some (index * 8 + (8 * bytes.length - 1 - level (value bytes))) := by
  induction bytes generalizing index with
  | nil => simp [ID.prefixScan, value]
  | cons b rest ih =>
      by_cases zero : b = 0
      · have dropped : value (b :: rest) = value rest := by simp [value, zero]
        simp only [ID.prefixScan, zero, ne_eq, not_true_eq_false, ↓reduceIte]
        rw [ih, ← zero, dropped]
        by_cases none : value rest = 0
        · simp [none]
        · have bound : level (value rest) < 8 * rest.length :=
            (Nat.log2_lt none).mpr (value_lt rest)
          simp only [none, ↓reduceIte, List.length_cons, Option.some.injEq]
          omega
      · have level := value_cons_level b rest zero
        have bound := byte_level_le b
        have nonzero : value (b :: rest) ≠ 0 := by
          have byte : b.toNat ≠ 0 := fun h => zero (UInt8.toNat_inj.mp (by simpa using h))
          have positive : 0 < 2 ^ (8 * rest.length) * b.toNat :=
            Nat.mul_pos (Nat.two_pow_pos _) (Nat.pos_of_ne_zero byte)
          simp only [value]
          omega
        simp only [ID.prefixScan, zero, ne_eq, not_false_eq_true, ↓reduceIte, nonzero, level,
          leadingZeros8, List.length_cons, Option.some.injEq]
        omega

/-- On a non-empty identity the clamped zero case is level 0 as well. -/
theorem prefixLen_eq (id : ID) (nonempty : id.id ≠ []) :
    id.prefixLen = 8 * id.id.length - 1 - level (hash id) := by
  have positive : 0 < id.id.length := List.length_pos_iff.mpr nonempty
  simp only [ID.prefixLen, prefixScan_eq, hash]
  by_cases zero : value id.id = 0
  · simp [zero, level]
    omega
  · have bound : level (value id.id) < 8 * id.id.length := (Nat.log2_lt zero).mpr (value_lt id.id)
    simp only [zero, ↓reduceIte]
    omega

def bucketID (self peer : ID) : Int := (peer.xorID self).prefixLen

def levelFrom (self peer : ID) : Nat := level (hash peer ^^^ hash self)

theorem levelFrom_lt (self peer : ID) (nonempty : self.id ≠ [])
    (same : peer.id.length = self.id.length) : levelFrom self peer < 8 * self.id.length := by
  have positive : 0 < self.id.length := List.length_pos_iff.mpr nonempty
  have peerBound : hash peer < 2 ^ (8 * self.id.length) := same ▸ value_lt peer.id
  have bound : hash peer ^^^ hash self < 2 ^ (8 * self.id.length) :=
    Nat.xor_lt_two_pow peerBound (value_lt self.id)
  by_cases zero : hash peer ^^^ hash self = 0
  · simp [levelFrom, zero, level]
    omega
  · exact (Nat.log2_lt zero).mpr bound

/-- The bucket number depends on the hash alone and mirrors the level. -/
theorem bucketID_eq (self peer : ID) (nonempty : self.id ≠ [])
    (same : peer.id.length = self.id.length) :
    bucketID self peer = 8 * self.id.length - 1 - levelFrom self peer := by
  have peerNonempty : (peer.xorID self).id ≠ [] := by
    intro empty
    have zero := congrArg List.length empty
    simp only [ID.xorID, xorBytes_length, same, List.length_nil] at zero
    exact nonempty (List.length_eq_zero_iff.mp zero)
  have difference : hash (peer.xorID self) = hash peer ^^^ hash self := by
    simp only [hash, ID.xorID]
    rw [xorBytes_eq_zipWith _ _ same, value_zipWith_xor _ _ same]
  rw [bucketID, prefixLen_eq _ peerNonempty, difference, levelFrom]
  simp [ID.xorID, same]

theorem bucketID_range (self peer : ID) (nonempty : self.id ≠ [])
    (same : peer.id.length = self.id.length) :
    0 ≤ bucketID self peer ∧ bucketID self peer < 8 * self.id.length := by
  have bound := levelFrom_lt self peer nonempty same
  rw [bucketID_eq self peer nonempty same]
  omega

/-- An order of the distances seen from the owner is the order seen from the target. -/
theorem xorID_less_of_masked {self target near far : ID}
    (nearLength : near.id.length = target.id.length) (farLength : far.id.length = target.id.length)
    (order : (hash near ^^^ hash self) ^^^ (hash target ^^^ hash self) <
      (hash far ^^^ hash self) ^^^ (hash target ^^^ hash self)) :
    (near.xorID target).less (far.xorID target) = true := by
  rw [xor_xor_mask, xor_xor_mask] at order
  exact (xorID_less_iff near far target nearLength farLength).mpr order

/-- The geometry of the buckets: the target's own bucket is nearer to it than every
other bucket, and a bucket above the target's is nearer than one below. -/
theorem bucket_geometry (self target p q : ID) (nonempty : self.id ≠ [])
    (targetLength : target.id.length = self.id.length) (pLength : p.id.length = self.id.length)
    (qLength : q.id.length = self.id.length) :
    (bucketID self p = bucketID self target → bucketID self q ≠ bucketID self target →
      (p.xorID target).less (q.xorID target) = true) ∧
    (bucketID self p > bucketID self target → bucketID self target > bucketID self q →
      (p.xorID target).less (q.xorID target) = true) := by
  rw [bucketID_eq self p nonempty pLength, bucketID_eq self q nonempty qLength,
    bucketID_eq self target nonempty targetLength]
  have pTarget : p.id.length = target.id.length := pLength.trans targetLength.symm
  have qTarget : q.id.length = target.id.length := qLength.trans targetLength.symm
  constructor
  · intro same apart
    have sameLevel : levelFrom self p = levelFrom self target := by omega
    have apartLevel : levelFrom self q ≠ levelFrom self target := by omega
    exact xorID_less_of_masked pTarget qTarget (xor_lt_of_same_level sameLevel apartLevel)
  · intro above below
    have pLevel : levelFrom self p < levelFrom self q := by omega
    have targetLevel : levelFrom self target < levelFrom self q := by omega
    exact xorID_less_of_masked pTarget qTarget (xor_lt_of_level_above pLevel targetLevel)

def byteID (hash : UInt8) : ID :=
  { netKey := none, address := "", id := [hash], connectionId := [], address2 := "" }

/-- Both cases, the first with the clamped distance zero. -/
theorem bucket_geometry_bytes :
    ((byteID 0).xorID (byteID 1)).less ((byteID 4).xorID (byteID 1)) = true ∧
      ((byteID 1).xorID (byteID 2)).less ((byteID 4).xorID (byteID 2)) = true :=
  ⟨(bucket_geometry (byteID 0) (byteID 1) (byteID 0) (byteID 4) (by decide) rfl rfl rfl).1
      (by decide) (by decide),
    (bucket_geometry (byteID 0) (byteID 2) (byteID 1) (byteID 4) (by decide) rfl rfl rfl).2
      (by decide) (by decide)⟩

end Carrier.Identity
