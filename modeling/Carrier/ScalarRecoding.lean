import Carrier.SignedDigits
import Carrier.GoRuntime
import Mathlib.Tactic.IntervalCases

/-! How `edwards25519` writes a scalar of 32 bytes as signed digits before it multiplies a
point by it: `slide` for the double multiplication of the verifier, digits to the base 16
for the multiplication of the base point. -/
namespace Carrier.ScalarRecoding

open GoRuntime SignedDigits

/-- `a[0]+256*a[1]+...+256^31*a[31]`. -/
def scalarValue (a : Bytes) : Int := value 256 (a.map fun v => (v.toNat : Int))

def int8 (n : Int) : Int := n.bmod 256

theorem int8_eq {n : Int} (low : -128 ≤ n) (high : n ≤ 127) : int8 n = n :=
  Int.bmod_eq_of_le (by omega) (by omega)

/-- `1 & (a[i>>3] >> uint(i&7))` for the eight positions of one byte. -/
def byteBits (v : UInt8) : List Int := (List.range 8).map fun i => ((v.toNat >>> i &&& 1 : Nat) : Int)

def bitsOf (a : Bytes) : List Int := a.flatMap byteBits

/-- The inner loop of `slide` at one position: the digit `r[i]` is `x`, and `digits` are
those from `r[i+b]` on. The loop has `rounds` rounds left. -/
def window : (rounds b : Nat) → (x : Int) → (digits : List Int) → Int × List Int
  | 0, _, x, digits => (x, digits)
  | _ + 1, _, x, [] => (x, [])
  | rounds + 1, b, x, digit :: rest =>
      if digit = 0 then
        let (y, later) := window rounds (b + 1) x rest
        (y, digit :: later)
      else if int8 (x + int8 (digit * 2 ^ b)) ≤ 15 then
        let (y, later) := window rounds (b + 1) (int8 (x + int8 (digit * 2 ^ b))) rest
        (y, 0 :: later)
      else if -15 ≤ int8 (x - int8 (digit * 2 ^ b)) then
        -- the carry loop starts at `r[i+b]`, which is not zero
        let (y, later) := window rounds (b + 1) (int8 (x - int8 (digit * 2 ^ b))) (increment rest)
        (y, 0 :: later)
      else (x, digit :: rest)

/-- The outer loop of `slide`, on the digits from `r[i]` on. -/
def slideFrom : (positions : Nat) → (digits : List Int) → List Int
  | 0, digits => digits
  | _ + 1, [] => []
  | positions + 1, x :: rest =>
      if x = 0 then x :: slideFrom positions rest
      else
        let (y, later) := window 6 1 x rest
        y :: slideFrom positions later

def slide (a : Bytes) : List Int := slideFrom 256 (bitsOf a)

theorem byteBits_bits (v : UInt8) : Bits (byteBits v) := by
  intro digit member
  obtain ⟨i, _, rfl⟩ := List.mem_map.mp member
  have small : v.toNat >>> i &&& 1 < 2 := Nat.and_lt_two_pow _ (n := 1) (by norm_num)
  omega

set_option maxRecDepth 2000 in
theorem value_byteBits (v : UInt8) : value 2 (byteBits v) = v.toNat := by
  have all : ∀ n : Fin 256,
      value 2 ((List.range 8).map fun i => ((n.val >>> i &&& 1 : Nat) : Int)) = n.val := by
    decide
  exact all ⟨v.toNat, v.toNat_lt⟩

theorem bitsOf_bits (a : Bytes) : Bits (bitsOf a) := by
  intro digit member
  obtain ⟨v, _, inByte⟩ := List.mem_flatMap.mp member
  exact byteBits_bits v digit inByte

theorem bitsOf_length (a : Bytes) : (bitsOf a).length = 8 * a.length := by
  induction a with
  | nil => rfl
  | cons v rest ih =>
      have eight : (byteBits v).length = 8 := rfl
      rw [bitsOf, List.flatMap_cons, List.length_append, eight, ← bitsOf, ih, List.length_cons]
      ring

theorem value_bitsOf (a : Bytes) : value 2 (bitsOf a) = scalarValue a := by
  induction a with
  | nil => rfl
  | cons v rest ih =>
      have eight : (byteBits v).length = 8 := rfl
      rw [bitsOf, List.flatMap_cons, value_append, value_byteBits, eight, ← bitsOf, ih]
      rfl

/-- Where the inner loop of `slide` stands at `r[i+b]`. Up to the one subtraction it can make
the digit `x` is positive and below `2^b`; behind it the digit is negative. -/
structure Opened (b : Nat) (x : Int) (digits : List Int) : Prop where
  bits : Bits digits
  odd : x % 2 = 1
  digit : 0 < x ∧ x < 2 ^ b ∧ x ≤ 15 ∧ 2 * value 2 digits < 2 ^ digits.length ∨
    5 ≤ b ∧ -15 ≤ x ∧ x < 0 ∧ 2 * value 2 digits ≤ 2 ^ digits.length

/-- What the inner loop leaves of `x` and `digits`, to be read from position `b` on. -/
structure Taken (b : Nat) (x : Int) (digits : List Int) (y : Int) (later : List Int) : Prop where
  bits : Bits later
  length : later.length = digits.length
  room : 2 * value 2 later ≤ 2 ^ later.length
  odd : y % 2 = 1
  low : -15 ≤ y
  high : y ≤ 15
  value : y + 2 ^ b * value 2 later = x + 2 ^ b * value 2 digits

theorem Opened.stop {b : Nat} {x : Int} {digits : List Int} (opened : Opened b x digits) :
    Taken b x digits x digits := by
  have digit := opened.digit
  exact
    { bits := opened.bits, length := rfl, room := by omega, odd := opened.odd
      low := by omega, high := by omega, value := rfl }

theorem Taken.cons_zero {b : Nat} {x x' y bit : Int} {digits digits' later : List Int}
    (taken : Taken (b + 1) x' digits' y later) (same : digits'.length = digits.length)
    (kept : x' + 2 ^ (b + 1) * SignedDigits.value 2 digits' =
      x + 2 ^ b * SignedDigits.value 2 (bit :: digits)) :
    Taken b x (bit :: digits) y (0 :: later) := by
  refine
    { bits := taken.bits.cons (Or.inl rfl), odd := taken.odd, low := taken.low
      high := taken.high, length := ?_, room := ?_, value := ?_ }
  · rw [List.length_cons, taken.length, same, List.length_cons]
  · have room := taken.room
    rw [SignedDigits.value, List.length_cons, pow_succ]
    omega
  · rw [← kept, ← taken.value, SignedDigits.value, pow_succ]
    ring

theorem window_taken (rounds : Nat) : ∀ {b : Nat} {x : Int} {digits : List Int},
    1 ≤ b → b + rounds ≤ 7 → Opened b x digits →
    Taken b x digits (window rounds b x digits).1 (window rounds b x digits).2 := by
  induction rounds with
  | zero => exact fun _ _ opened => opened.stop
  | succ rounds ih =>
      intro b x digits low high opened
      cases digits with
      | nil => exact opened.stop
      | cons bit rest =>
          have odd := opened.odd
          have digit := opened.digit
          rw [SignedDigits.value, List.length_cons, pow_succ] at digit
          have step : (2 : Int) ^ (b + 1) = 2 * 2 ^ b := by ring
          rcases opened.bits.head with rfl | rfl
          · -- nothing to take in at this position
            have next : Opened (b + 1) x rest :=
              { bits := opened.bits.tail, odd, digit := by rw [step]; omega }
            unfold window
            rw [if_pos rfl]
            refine (ih (by omega) (by omega) next).cons_zero rfl ?_
            rw [SignedDigits.value, step]
            ring
          · have power : (2 : Int) ^ b % 2 = 0 ∧ 2 ≤ (2 : Int) ^ b ∧ (2 : Int) ^ b ≤ 64 ∧
                (b ≤ 3 → (2 : Int) ^ b ≤ 8) ∧ (b = 4 → (2 : Int) ^ b = 16) ∧
                (5 ≤ b → 32 ≤ (2 : Int) ^ b) := by
              have range : b ≤ 6 := by omega
              interval_cases b <;> decide
            obtain ⟨even, least, most, small, middle, large⟩ := power
            have shifted : int8 (1 * 2 ^ b) = 2 ^ b := by
              rw [one_mul]
              exact int8_eq (by omega) (by omega)
            unfold window
            rw [if_neg one_ne_zero, shifted, int8_eq (by omega) (by omega),
              int8_eq (n := x - 2 ^ b) (by omega) (by omega)]
            split
            · -- the bit is added to the digit
              have next : Opened (b + 1) (x + 2 ^ b) rest :=
                { bits := opened.bits.tail, odd := by omega, digit := by rw [step]; omega }
              refine (ih (by omega) (by omega) next).cons_zero rfl ?_
              rw [SignedDigits.value, step]
              ring
            · split
              · -- the bit is taken off the digit, with a carry; this is position 4
                have bounds := opened.bits.tail.value_bounds
                have carried := opened.bits.tail.value_increment (by omega)
                have next : Opened (b + 1) (x - 2 ^ b) (increment rest) :=
                  { bits := opened.bits.tail.increment, odd := by omega
                    digit := by rw [increment_length, carried]; omega }
                refine (ih (by omega) (by omega) next).cons_zero (increment_length rest) ?_
                rw [carried, SignedDigits.value, step]
                ring
              · exact opened.stop

/-- A digit `GeDoubleScalarMultVartime` has a multiple of the point for. -/
def Sliding (digit : Int) : Prop := digit = 0 ∨ digit % 2 = 1 ∧ -15 ≤ digit ∧ digit ≤ 15

theorem Opened.start {x : Int} {rest : List Int} (bits : Bits (x :: rest)) (one : x ≠ 0)
    (room : 2 * value 2 (x :: rest) ≤ 2 ^ (x :: rest).length) : Opened 1 x rest := by
  have bit : x = 1 := bits.head.resolve_left one
  rw [value, List.length_cons] at room
  refine { bits := bits.tail, odd := by omega, digit := Or.inl ⟨by omega, by omega, by omega, ?_⟩ }
  cases rest with
  | nil => simp [value]
  | cons other rest =>
      rw [List.length_cons, pow_succ, pow_succ] at room
      rw [List.length_cons, pow_succ]
      omega

theorem slideFrom_spec (positions : Nat) : ∀ {digits : List Int}, digits.length = positions →
    Bits digits → 2 * value 2 digits ≤ 2 ^ digits.length →
    (slideFrom positions digits).length = positions ∧
      (∀ digit ∈ slideFrom positions digits, Sliding digit) ∧
      value 2 (slideFrom positions digits) = value 2 digits := by
  induction positions with
  | zero =>
      intro digits length _ _
      have none := List.eq_nil_of_length_eq_zero length
      subst none
      exact ⟨rfl, fun _ member => (nomatch member), rfl⟩
  | succ positions ih =>
      intro digits length bits room
      cases digits with
      | nil => cases length
      | cons x rest =>
          have rest_length : rest.length = positions := Nat.succ.inj length
          unfold slideFrom
          split
          · next zero =>
            subst zero
            rw [value, List.length_cons, pow_succ] at room
            obtain ⟨same_length, sliding, same⟩ := ih rest_length bits.tail (by omega)
            refine ⟨by rw [List.length_cons, same_length], ?_, by rw [value, same, value]⟩
            exact List.forall_mem_cons.mpr ⟨Or.inl rfl, sliding⟩
          · next one =>
            have taken := window_taken 6 le_rfl le_rfl (Opened.start bits one room)
            obtain ⟨same_length, sliding, same⟩ :=
              ih (taken.length.trans rest_length) taken.bits taken.room
            have kept := taken.value
            rw [pow_one] at kept
            refine ⟨by rw [List.length_cons, same_length], ?_, by rw [value, same, value, kept]⟩
            exact List.forall_mem_cons.mpr ⟨Or.inr ⟨taken.odd, taken.low, taken.high⟩, sliding⟩

theorem slide_spec {a : Bytes} (size : a.length = 32) (small : scalarValue a < 2 ^ 255) :
    (slide a).length = 256 ∧ (∀ digit ∈ slide a, Sliding digit) ∧
      value 2 (slide a) = scalarValue a := by
  have length : (bitsOf a).length = 256 := by rw [bitsOf_length, size]
  rw [← value_bitsOf] at small ⊢
  exact slideFrom_spec 256 length (bitsOf_bits a) (by rw [length]; omega)

/-- The two digits of each byte: `v & 15` and `(v >> 4) & 15`. -/
def nibbles (a : Bytes) : List Int :=
  a.flatMap fun v => [int8 (v.toNat &&& 15 : Nat), int8 (v.toNat >>> 4 &&& 15 : Nat)]

/-- The loop of `GeScalarMultBase` that moves each digit but the last into `[-8, 8)`. -/
def carries : (carry : Int) → (digits : List Int) → List Int
  | _, [] => []
  | carry, [e] => [int8 (e + carry)]
  | carry, e :: next :: rest =>
      let e := int8 (e + carry)
      let carry := int8 (e + 8) / 2 ^ 4
      int8 (e - int8 (carry * 2 ^ 4)) :: carries carry (next :: rest)

def radix16 (a : Bytes) : List Int := carries 0 (nibbles a)

theorem nibble_bounds (v : UInt8) :
    int8 (v.toNat &&& 15 : Nat) = v.toNat % 16 ∧ int8 (v.toNat >>> 4 &&& 15 : Nat) = v.toNat / 16 := by
  have byte := v.toNat_lt
  have low : v.toNat &&& 15 = v.toNat % 16 := Nat.and_two_pow_sub_one_eq_mod _ 4
  have high : v.toNat >>> 4 &&& 15 = v.toNat / 16 := by
    rw [Nat.shiftRight_eq_div_pow]
    exact (Nat.and_two_pow_sub_one_eq_mod _ 4).trans (Nat.mod_eq_of_lt (by omega))
  rw [low, high]
  exact ⟨int8_eq (by omega) (by omega), int8_eq (by omega) (by omega)⟩

theorem nibbles_length (a : Bytes) : (nibbles a).length = 2 * a.length := by
  induction a with
  | nil => rfl
  | cons v rest ih =>
      rw [nibbles, List.flatMap_cons, List.length_append, ← nibbles, ih, List.length_cons]
      simp only [List.length_cons, List.length_nil]
      ring

theorem nibbles_digits (a : Bytes) : ∀ digit ∈ nibbles a, 0 ≤ digit ∧ digit ≤ 15 := by
  intro digit member
  obtain ⟨v, _, inByte⟩ := List.mem_flatMap.mp member
  have byte := v.toNat_lt
  rw [(nibble_bounds v).1, (nibble_bounds v).2] at inByte
  rcases List.mem_cons.mp inByte with rfl | second
  · omega
  · rcases List.mem_singleton.mp second with rfl
    omega

theorem value_nibbles (a : Bytes) : value 16 (nibbles a) = scalarValue a := by
  have paired : (fun v : UInt8 => int8 (v.toNat &&& 15 : Nat) + (16 : Int) * int8 (v.toNat >>> 4 &&& 15 : Nat)) =
      fun v : UInt8 => (v.toNat : Int) := by
    funext v
    rw [(nibble_bounds v).1, (nibble_bounds v).2]
    omega
  rw [nibbles, value_pairs, paired]
  rfl

theorem carries_spec (digits : List Int) : ∀ carry : Int, carry = 0 ∨ carry = 1 →
    (∀ digit ∈ digits, 0 ≤ digit ∧ digit ≤ 15) → 2 * value 16 digits < 16 ^ digits.length →
    (carries carry digits).length = digits.length ∧
      (∀ digit ∈ carries carry digits, -8 ≤ digit ∧ digit ≤ 8) ∧
      (digits ≠ [] → value 16 (carries carry digits) = carry + value 16 digits) := by
  induction digits with
  | nil => exact fun _ _ _ _ => ⟨rfl, fun _ member => (nomatch member), fun nonempty => (nonempty rfl).elim⟩
  | cons e rest ih =>
      intro carry bit bounds small
      have first := bounds e List.mem_cons_self
      cases rest with
      | nil =>
          simp only [value, List.length_cons, List.length_nil, zero_add, pow_one] at small
          have exact_sum := int8_eq (n := e + carry) (by omega) (by omega)
          refine ⟨rfl, ?_, fun _ => ?_⟩
          · intro digit member
            rcases List.mem_singleton.mp member with rfl
            omega
          · simp only [carries, value, exact_sum]
            ring
      | cons next rest =>
          rw [value, List.length_cons, pow_succ] at small
          have sum := int8_eq (n := e + carry) (by omega) (by omega)
          have moved := int8_eq (n := e + carry + 8) (by omega) (by omega)
          have shifted := int8_eq (n := (e + carry + 8) / 2 ^ 4 * 2 ^ 4) (by omega) (by omega)
          have digit := int8_eq (n := e + carry - (e + carry + 8) / 2 ^ 4 * 2 ^ 4) (by omega) (by omega)
          have step : carries carry (e :: next :: rest) =
              (e + carry - (e + carry + 8) / 2 ^ 4 * 2 ^ 4) ::
                carries ((e + carry + 8) / 2 ^ 4) (next :: rest) := by
            simp only [carries, sum, moved, shifted, digit]
          obtain ⟨length, centred, kept⟩ := ih ((e + carry + 8) / 2 ^ 4) (by omega)
            (fun other member => bounds other (List.mem_cons_of_mem _ member)) (by omega)
          rw [step]
          refine ⟨by rw [List.length_cons, length, List.length_cons (a := e)], ?_, fun _ => ?_⟩
          · exact List.forall_mem_cons.mpr ⟨by omega, centred⟩
          · rw [value, kept (List.cons_ne_nil _ _)]
            simp only [value]
            ring

theorem radix16_spec {a : Bytes} (size : a.length = 32) (small : scalarValue a < 2 ^ 255) :
    (radix16 a).length = 64 ∧ (∀ digit ∈ radix16 a, -8 ≤ digit ∧ digit ≤ 8) ∧
      value 16 (radix16 a) = scalarValue a := by
  have length : (nibbles a).length = 64 := by rw [nibbles_length, size]
  rw [← value_nibbles] at small
  obtain ⟨same_length, centred, kept⟩ :=
    carries_spec (nibbles a) 0 (Or.inl rfl) (nibbles_digits a) (by rw [length]; omega)
  have nonempty : nibbles a ≠ [] := List.ne_nil_of_length_eq_add_one length
  exact ⟨same_length.trans length, centred, by
    rw [radix16, kept nonempty, value_nibbles, zero_add]⟩

end Carrier.ScalarRecoding
