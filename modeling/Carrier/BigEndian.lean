import Carrier.GoRuntime
import Mathlib.Tactic.Ring
import Mathlib.Data.Nat.Bitwise

/-! Big-endian byte strings read as numbers. On strings of one length the
lexicographic order is the order of the numbers, bytewise exclusive-or is the
exclusive-or of the numbers, and the fixed-width writers are inverse to reading
up to their width. -/
namespace Carrier.BigEndian

open GoRuntime

def value : Bytes → Nat
  | [] => 0
  | b :: rest => 2 ^ (8 * rest.length) * b.toNat + value rest

/-- `binary.BigEndian.PutUintN`: the low `8 * width` bits, high byte first. -/
def put : Nat → Nat → Bytes
  | 0, _ => []
  | width + 1, n => UInt8.ofNat (n / 2 ^ (8 * width)) :: put width n

@[simp] theorem put_length (width n : Nat) : (put width n).length = width := by
  induction width with
  | zero => rfl
  | succ width ih => simp [put, ih]

theorem value_lt (bytes : Bytes) : value bytes < 2 ^ (8 * bytes.length) := by
  induction bytes with
  | nil => simp [value]
  | cons b rest ih =>
      have byte : b.toNat + 1 ≤ 2 ^ 8 := b.toNat_lt
      have scaled : 2 ^ (8 * rest.length) * (b.toNat + 1) ≤ 2 ^ (8 * rest.length) * 2 ^ 8 :=
        Nat.mul_le_mul_left _ byte
      simp only [value, List.length_cons]
      calc 2 ^ (8 * rest.length) * b.toNat + value rest
          < 2 ^ (8 * rest.length) * (b.toNat + 1) := by rw [Nat.mul_add]; omega
        _ ≤ 2 ^ (8 * rest.length) * 2 ^ 8 := scaled
        _ = 2 ^ (8 * (rest.length + 1)) := by rw [← pow_add]; ring_nf

/-- Reading back a fixed-width write keeps the low bits of the number. -/
theorem value_put (width n : Nat) : value (put width n) = n % 2 ^ (8 * width) := by
  induction width with
  | zero => simp [put, value, Nat.mod_one]
  | succ width ih =>
      have byte : (UInt8.ofNat (n / 2 ^ (8 * width))).toNat = n / 2 ^ (8 * width) % 2 ^ 8 := by
        simp [UInt8.toNat_ofNat']
      have width_succ : 2 ^ (8 * (width + 1)) = 2 ^ (8 * width) * 2 ^ 8 := by
        rw [← pow_add]; ring_nf
      rw [put, value, put_length, byte, ih, width_succ, Nat.mod_mul]
      ring

theorem value_put_of_lt (width n : Nat) (fits : n < 2 ^ (8 * width)) :
    value (put width n) = n := by
  rw [value_put, Nat.mod_eq_of_lt fits]

theorem lt_iff_value_lt (left right : Bytes) (same : left.length = right.length) :
    left < right ↔ value left < value right := by
  induction left generalizing right with
  | nil =>
      cases right with
      | nil => simp
      | cons b bs => simp at same
  | cons a as ih =>
      cases right with
      | nil => simp at same
      | cons b bs =>
          have tails : as.length = bs.length := by simpa using same
          have low := value_lt as
          have high := value_lt bs
          rw [List.cons_lt_cons_iff, ih bs tails, UInt8.lt_iff_toNat_lt,
            ← UInt8.toNat_inj]
          simp only [value]
          rw [tails] at low ⊢
          generalize 2 ^ (8 * bs.length) = scale at low high
          rcases Nat.lt_trichotomy a.toNat b.toNat with below | equal | above
          · have step : scale * (a.toNat + 1) ≤ scale * b.toNat := Nat.mul_le_mul_left _ below
            rw [Nat.mul_add] at step
            constructor
            · intro _; omega
            · intro _; exact Or.inl below
          · simp [equal]
          · have step : scale * (b.toNat + 1) ≤ scale * a.toNat := Nat.mul_le_mul_left _ above
            rw [Nat.mul_add] at step
            constructor
            · rintro (below | ⟨equal, _⟩) <;> omega
            · intro less; omega

theorem value_injective (left right : Bytes) (same : left.length = right.length)
    (equal : value left = value right) : left = right := by
  induction left generalizing right with
  | nil => exact (List.length_eq_zero_iff.mp same.symm).symm
  | cons a as ih =>
      cases right with
      | nil => simp at same
      | cons b bs =>
          have tails : as.length = bs.length := by simpa using same
          have low := value_lt as
          have high := value_lt bs
          simp only [value] at equal
          rw [tails] at low equal
          have heads : a.toNat = b.toNat := by
            have divided := congrArg (· / 2 ^ (8 * bs.length)) equal
            simpa [Nat.mul_add_div, Nat.div_eq_of_lt low, Nat.div_eq_of_lt high] using divided
          have rests : value as = value bs := by rw [heads] at equal; omega
          rw [UInt8.toNat_inj.mp heads, ih bs tails rests]

theorem put_value (width : Nat) (bytes : Bytes) (size : bytes.length = width) :
    put width (value bytes) = bytes := by
  refine value_injective _ _ (by rw [put_length, size]) ?_
  exact value_put_of_lt width _ (size ▸ value_lt bytes)

/-- Exclusive-or acts separately above and below a bit position. -/
theorem xor_split (scale a b x y : Nat) (low : x < 2 ^ scale) (high : y < 2 ^ scale) :
    (2 ^ scale * a + x) ^^^ (2 ^ scale * b + y) = 2 ^ scale * (a ^^^ b) + (x ^^^ y) := by
  apply Nat.eq_of_testBit_eq
  intro position
  rw [Nat.testBit_xor, Nat.testBit_two_pow_mul_add _ low, Nat.testBit_two_pow_mul_add _ high,
    Nat.testBit_two_pow_mul_add _ (Nat.xor_lt_two_pow low high)]
  split <;> simp [Nat.testBit_xor]

theorem value_zipWith_xor (left right : Bytes) (same : left.length = right.length) :
    value (List.zipWith (· ^^^ ·) left right) = value left ^^^ value right := by
  induction left generalizing right with
  | nil =>
      cases right with
      | nil => rfl
      | cons b bs => simp at same
  | cons a as ih =>
      cases right with
      | nil => simp at same
      | cons b bs =>
          have tails : as.length = bs.length := by simpa using same
          have low : value as < 2 ^ (8 * bs.length) := tails ▸ value_lt as
          have zipped : (List.zipWith (· ^^^ ·) as bs).length = bs.length := by simp [tails]
          simp only [List.zipWith_cons_cons, value, zipped, ih bs tails, tails,
            UInt8.toNat_xor]
          exact (xor_split _ _ _ _ _ low (value_lt bs)).symm

end Carrier.BigEndian
