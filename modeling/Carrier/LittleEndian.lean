import Carrier.GoRuntime
import Carrier.LimbProgram
import Mathlib.Algebra.Order.Group.Nat
import Mathlib.Data.Nat.Bitwise

/-! Byte strings that write a number from its lowest byte on, and the two ways between them and
limbs: reading a few bytes at an offset, and writing bytes that lie in one limb or across two. -/
namespace Carrier.LittleEndian

open GoRuntime LimbProgram

def number : Bytes → Nat
  | [] => 0
  | byte :: rest => byte.toNat + 256 * number rest

def bytesOf : (size n : Nat) → Bytes
  | 0, _ => []
  | size + 1, n => UInt8.ofNat n :: bytesOf size (n / 256)

@[simp] theorem bytesOf_length (size n : Nat) : (bytesOf size n).length = size := by
  induction size generalizing n with
  | zero => rfl
  | succ size ih => rw [bytesOf, List.length_cons, ih]

theorem number_lt (bytes : Bytes) : number bytes < 256 ^ bytes.length := by
  induction bytes with
  | nil => exact Nat.one_pos
  | cons byte rest ih =>
      have small := byte.toNat_lt
      rw [number, List.length_cons, pow_succ]
      omega

theorem number_bytesOf (size n : Nat) : number (bytesOf size n) = n % 256 ^ size := by
  induction size generalizing n with
  | zero => rw [bytesOf, number, pow_zero, Nat.mod_one]
  | succ size ih =>
      rw [bytesOf, number, ih, pow_succ', Nat.mod_mul]
      exact congrArg (· + _) (UInt8.toNat_ofNat')

theorem bytesOf_number (bytes : Bytes) : bytesOf bytes.length (number bytes) = bytes := by
  induction bytes with
  | nil => rfl
  | cons byte rest ih =>
      have small := byte.toNat_lt
      have low : UInt8.ofNat (byte.toNat + 256 * number rest) = byte := by
        apply UInt8.toNat.inj
        rw [UInt8.toNat_ofNat']
        omega
      have high : (byte.toNat + 256 * number rest) / 256 = number rest := by omega
      rw [List.length_cons, number, bytesOf, low, high, ih]

theorem number_injective {left right : Bytes} (size : left.length = right.length)
    (same : number left = number right) : left = right := by
  rw [← bytesOf_number left, ← bytesOf_number right, size, same]

theorem number_drop (bytes : Bytes) (k : Nat) : number (bytes.drop k) = number bytes / 256 ^ k := by
  induction k generalizing bytes with
  | zero => simp
  | succ k ih =>
      cases bytes with
      | nil => simp [number]
      | cons byte rest =>
          have small := byte.toNat_lt
          have high : (byte.toNat + 256 * number rest) / 256 = number rest := by omega
          rw [List.drop_succ_cons, ih, number, pow_succ', ← Nat.div_div_eq_div_mul, high]

theorem number_take (bytes : Bytes) (k : Nat) : number (bytes.take k) = number bytes % 256 ^ k := by
  induction k generalizing bytes with
  | zero => simp [number, Nat.mod_one]
  | succ k ih =>
      cases bytes with
      | nil => simp [number]
      | cons byte rest =>
          have small := byte.toNat_lt
          have low : (byte.toNat + 256 * number rest) % 256 = byte.toNat := by omega
          have high : (byte.toNat + 256 * number rest) / 256 = number rest := by omega
          rw [List.take_succ_cons, number, ih, number, pow_succ', Nat.mod_mul, low, high]

theorem number_split (bytes : Bytes) (k : Nat) :
    number bytes = number (bytes.take k) + 256 ^ k * number (bytes.drop k) := by
  rw [number_take, number_drop, Nat.mod_add_div]

theorem bytesOf_succ (size n : Nat) :
    bytesOf (size + 1) n = bytesOf size n ++ [UInt8.ofNat (n / 256 ^ size)] := by
  induction size generalizing n with
  | zero => rw [bytesOf, bytesOf, bytesOf, pow_zero, Nat.div_one, List.nil_append]
  | succ size ih =>
      rw [bytesOf, ih, Nat.div_div_eq_div_mul, ← pow_succ', bytesOf, List.cons_append]

theorem foldl_or_eq_zero (bytes : Bytes) : ∀ start : UInt8,
    bytes.foldl (fun x b => x ||| b) start = 0 ↔ start = 0 ∧ number bytes = 0 := by
  induction bytes with
  | nil => simp [number]
  | cons byte rest ih =>
      intro start
      have zero : byte = 0 ↔ byte.toNat = 0 := by
        rw [← UInt8.toNat_inj]
        rfl
      rw [List.foldl_cons, ih, UInt8.or_eq_zero_iff, number, zero, and_assoc]
      refine and_congr_right fun _ => ?_
      omega

/-- `widths` are the numbers of bits the limbs have room for. -/
def packed : (widths : List Nat) → (limbs : List Int) → Nat
  | width :: widths, limb :: limbs => limb.toNat + 2 ^ width * packed widths limbs
  | _, _ => 0

def weightsOf : (first : Int) → (widths : List Nat) → List Int
  | _, [] => []
  | first, width :: widths => first :: weightsOf (first * 2 ^ width) widths

theorem value_weightsOf (scale first : Int) (widths : List Nat) : ∀ limbs : List Int,
    value (weightsOf (scale * first) widths) limbs = scale * value (weightsOf first widths) limbs := by
  induction widths generalizing first with
  | nil => simp [weightsOf, value]
  | cons width widths ih =>
      intro limbs
      cases limbs with
      | nil => simp [weightsOf, value]
      | cons n limbs =>
          rw [weightsOf, weightsOf, value, value, mul_assoc scale first (2 ^ width), ih]
          ring

inductive Fills : (widths : List Nat) → (limbs : List Int) → Prop
  | nil : Fills [] []
  | cons {width : Nat} {widths : List Nat} {n : Int} {limbs : List Int} :
      0 ≤ n → n < 2 ^ width → Fills widths limbs → Fills (width :: widths) (n :: limbs)

theorem fills_of_within {limbs : List Int} : ∀ {widths : List Nat},
    Within (widths.map fun width => (0, 2 ^ width - 1)) limbs → Fills widths limbs := by
  induction limbs with
  | nil =>
      intro widths within
      cases widths with
      | nil => exact .nil
      | cons width widths => exact absurd within.1 (Nat.succ_ne_zero _)
  | cons n limbs ih =>
      intro widths within
      cases widths with
      | nil => exact absurd within.1.symm (Nat.succ_ne_zero _)
      | cons width widths =>
          obtain ⟨length, mem⟩ := within
          obtain ⟨low, high⟩ := mem 0
          exact .cons low (Int.lt_of_le_sub_one high) (ih ⟨Nat.succ.inj length, fun i => mem (i + 1)⟩)

theorem value_packed {widths : List Nat} {limbs : List Int} (fills : Fills widths limbs) (first : Int) :
    value (weightsOf first widths) limbs = first * packed widths limbs := by
  induction fills generalizing first with
  | nil => simp [weightsOf, value, packed]
  | cons low high rest ih =>
      rw [weightsOf, value, ih, packed]
      push_cast
      rw [Int.toNat_of_nonneg low]
      ring

theorem toNat_lt_two_pow {n : Int} {width : Nat} (low : 0 ≤ n) (high : n < 2 ^ width) : n.toNat < 2 ^ width := by
  rw [Int.toNat_lt low]
  exact_mod_cast high

theorem packed_lt {widths : List Nat} {limbs : List Int} (fills : Fills widths limbs) :
    packed widths limbs < 2 ^ widths.sum := by
  induction fills with
  | nil => exact Nat.one_pos
  | @cons width widths n limbs low high rest ih =>
      have small := toNat_lt_two_pow low high
      rw [packed, List.sum_cons, pow_add]
      calc n.toNat + 2 ^ width * packed widths limbs < 2 ^ width * (packed widths limbs + 1) := by linarith
        _ ≤ 2 ^ width * 2 ^ widths.sum := Nat.mul_le_mul_left _ ih

theorem packed_drop {widths : List Nat} {limbs : List Int} (fills : Fills widths limbs) (i : Nat) :
    packed (widths.drop i) (limbs.drop i) = packed widths limbs / 2 ^ (widths.take i).sum := by
  induction fills generalizing i with
  | nil => simp [packed]
  | cons low high rest ih =>
      cases i with
      | zero => simp
      | succ i =>
          rw [List.drop_succ_cons, List.drop_succ_cons, ih, List.take_succ_cons, List.sum_cons, pow_add,
            ← Nat.div_div_eq_div_mul, packed, Nat.add_mul_div_left _ _ (by positivity),
            Nat.div_eq_of_lt (toNat_lt_two_pow low high), Nat.zero_add]

theorem shifted_eq {i : Nat} {widths : List Nat} {limbs : List Int} (fills : Fills widths limbs)
    (inside : i < widths.length) :
    ∃ n : Nat, limb limbs i = n ∧ n < 2 ^ widths.getD i 0 ∧
      packed widths limbs / 2 ^ (widths.take i).sum =
        n + 2 ^ widths.getD i 0 * (packed widths limbs / 2 ^ (widths.take (i + 1)).sum) := by
  rw [← packed_drop fills i, ← packed_drop fills (i + 1)]
  induction fills generalizing i with
  | nil => exact absurd inside (Nat.not_lt_zero _)
  | @cons width widths n limbs low high rest ih =>
      cases i with
      | zero => exact ⟨n.toNat, (Int.toNat_of_nonneg low).symm, toNat_lt_two_pow low high, rfl⟩
      | succ i => exact ih (Nat.lt_of_succ_lt_succ inside)

inductive Piece where
  /-- `byte(h[i] >> down)` -/
  | inside (i down : Nat)
  /-- `byte((h[i] >> down) | (h[i+1] << up))` -/
  | across (i down up : Nat)

def lowByte {width : Nat} (n : BitVec width) : UInt8 := .ofBitVec (n.setWidth 8)

def Piece.byte (width : Nat) (limbs : List Int) : Piece → UInt8
  | inside i down => lowByte (BitVec.ofInt width (limb limbs i / 2 ^ down))
  | across i down up =>
      lowByte (BitVec.ofInt width (limb limbs i / 2 ^ down) ||| BitVec.ofInt width (limb limbs (i + 1) * 2 ^ up))

def Piece.Lies (widths : List Nat) (k : Nat) : Piece → Prop
  | inside i down => i < widths.length ∧ (widths.take i).sum + down = 8 * k ∧ down + 8 ≤ widths.getD i 0
  | across i down up =>
      i + 1 < widths.length ∧ (widths.take i).sum + down = 8 * k ∧ down + up = widths.getD i 0 ∧
        8 ≤ up + widths.getD (i + 1) 0

instance (widths : List Nat) (k : Nat) : (piece : Piece) → Decidable (piece.Lies widths k)
  | .inside _ _ => by unfold Piece.Lies; infer_instance
  | .across _ _ _ => by unfold Piece.Lies; infer_instance

theorem lowByte_ofNat {width : Nat} (wide : 8 ≤ width) (n : Nat) :
    lowByte (BitVec.ofNat width n) = UInt8.ofNat n := by
  apply UInt8.toNat.inj
  rw [lowByte, UInt8.toNat_ofBitVec, BitVec.toNat_setWidth, BitVec.toNat_ofNat, UInt8.toNat_ofNat']
  exact Nat.mod_mod_of_dvd n (Nat.pow_dvd_pow 2 wide)

theorem ofNat_add_mul_256 (n m : Nat) : UInt8.ofNat (n + 256 * m) = UInt8.ofNat n := by
  apply UInt8.toNat.inj
  rw [UInt8.toNat_ofNat', UInt8.toNat_ofNat']
  exact Nat.add_mul_mod_self_left n 256 m

theorem Piece.byte_inside {width down size n above : Nat} (wide : 8 ≤ width) (room : down + 8 ≤ size) :
    lowByte (BitVec.ofInt width ((n : Int) / 2 ^ down)) = UInt8.ofNat ((n + 2 ^ size * above) / 2 ^ down) := by
  obtain ⟨rest, rfl⟩ := Nat.exists_eq_add_of_le room
  have split : n + 2 ^ (down + 8 + rest) * above = n + 2 ^ down * (256 * (2 ^ rest * above)) := by ring
  have quotient : ((n : Int) / 2 ^ down) = ((n / 2 ^ down : Nat) : Int) := by push_cast; rfl
  rw [split, Nat.add_mul_div_left _ _ (by positivity), ofNat_add_mul_256, quotient, BitVec.ofInt_natCast,
    lowByte_ofNat wide]

theorem Piece.byte_across {width down up size n m above : Nat} (wide : 8 ≤ width) (small : n < 2 ^ (down + up))
    (room : 8 ≤ up + size) :
    lowByte (BitVec.ofInt width ((n : Int) / 2 ^ down) ||| BitVec.ofInt width ((m : Int) * 2 ^ up)) =
      UInt8.ofNat ((n + 2 ^ (down + up) * (m + 2 ^ size * above)) / 2 ^ down) := by
  obtain ⟨rest, exactly⟩ := Nat.exists_eq_add_of_le room
  have split : n + 2 ^ (down + up) * (m + 2 ^ size * above) =
      n + 2 ^ down * (2 ^ up * m + 256 * (2 ^ rest * above)) := by
    have power : 2 ^ up * 2 ^ size = 256 * 2 ^ rest := by rw [← pow_add, exactly, pow_add]; rfl
    calc n + 2 ^ (down + up) * (m + 2 ^ size * above)
        = n + 2 ^ down * (2 ^ up * m + 2 ^ up * 2 ^ size * above) := by ring
      _ = n + 2 ^ down * (2 ^ up * m + 256 * (2 ^ rest * above)) := by rw [power]; ring
  have low : n / 2 ^ down < 2 ^ up := by
    rw [Nat.div_lt_iff_lt_mul (by positivity), ← pow_add, Nat.add_comm up]
    exact small
  have quotient : ((n : Int) / 2 ^ down) = ((n / 2 ^ down : Nat) : Int) := by push_cast; rfl
  have product : ((m : Int) * 2 ^ up) = ((2 ^ up * m : Nat) : Int) := by push_cast; ring
  -- the two parts have no bit in common
  have disjoint : n / 2 ^ down ||| 2 ^ up * m = n / 2 ^ down + 2 ^ up * m := by
    rw [Nat.or_comm, ← Nat.two_pow_add_eq_or_of_lt low, Nat.add_comm]
  rw [split, Nat.add_mul_div_left _ _ (by positivity), ← Nat.add_assoc, ofNat_add_mul_256, quotient, product,
    BitVec.ofInt_natCast, BitVec.ofInt_natCast, ← BitVec.ofNat_or, lowByte_ofNat wide, disjoint]

theorem Piece.byte_eq {width k : Nat} (wide : 8 ≤ width) {widths : List Nat} {limbs : List Int}
    (fills : Fills widths limbs) {piece : Piece} (lies : piece.Lies widths k) :
    piece.byte width limbs = UInt8.ofNat (packed widths limbs / 256 ^ k) := by
  have power (i down : Nat) (place : (widths.take i).sum + down = 8 * k) :
      packed widths limbs / 256 ^ k = packed widths limbs / 2 ^ (widths.take i).sum / 2 ^ down := by
    rw [Nat.div_div_eq_div_mul, ← pow_add, place, pow_mul]
    rfl
  cases piece with
  | inside i down =>
      obtain ⟨bound, place, room⟩ := lies
      obtain ⟨n, read, _, whole⟩ := shifted_eq fills bound
      rw [power i down place, whole, byte, read]
      exact byte_inside wide room
  | across i down up =>
      obtain ⟨bound, place, size, room⟩ := lies
      obtain ⟨n, read, small, whole⟩ := shifted_eq fills (Nat.lt_of_succ_lt bound)
      obtain ⟨m, read', _, whole'⟩ := shifted_eq fills bound
      rw [← size] at small whole
      rw [power i down place, whole, whole', byte, read, read']
      exact byte_across wide small room

def Packs (widths : List Nat) : Nat → List Piece → Prop
  | _, [] => True
  | k, piece :: rest => piece.Lies widths k ∧ Packs widths (k + 1) rest

instance decidablePacks (widths : List Nat) : (k : Nat) → (pieces : List Piece) → Decidable (Packs widths k pieces)
  | _, [] => isTrue trivial
  | k, _ :: rest => @instDecidableAnd _ _ _ (decidablePacks widths (k + 1) rest)

theorem Packs.bytes {width k : Nat} (wide : 8 ≤ width) {widths : List Nat} {limbs : List Int}
    (fills : Fills widths limbs) {pieces : List Piece} (packs : Packs widths k pieces) :
    pieces.map (Piece.byte width limbs) = bytesOf pieces.length (packed widths limbs / 256 ^ k) := by
  induction pieces generalizing k with
  | nil => rfl
  | cons piece rest ih =>
      obtain ⟨first, later⟩ := packs
      rw [List.map_cons, List.length_cons, bytesOf, Piece.byte_eq wide fills first, ih later,
        Nat.div_div_eq_div_mul, ← pow_succ]

end Carrier.LittleEndian
