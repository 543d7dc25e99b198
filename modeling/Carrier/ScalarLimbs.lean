import Carrier.FieldOps
import Mathlib.Algebra.Order.BigOperators.Group.List

/-! Scalars modulo the order of the base point, as `scalar.go` computes with them: limbs of 21 bits in
`int64`. A limb from the twelfth on is worth `2^252` times one of the lower twelve, and `2^252` is a small
number modulo `l`, so it is written off against six lower limbs. -/
namespace Carrier.ScalarLimbs

open GoRuntime FieldOps LittleEndian LimbProgram

def l : Nat := 2 ^ 252 + 27742317777372353535851937790883648493

/-- `s[i-12] += s[i] * 666643`, .. , `s[i-7] -= s[i] * 683901`, `s[i] = 0` -/
def writeOff (i : Nat) : Step :=
  .fold i [(i - 12, 666643), (i - 11, 470296), (i - 10, 654183), (i - 9, -997805), (i - 8, 136657),
    (i - 7, -683901)]

/-- `carry[i] = (s[i] + (1 << 20)) >> 21` -/
def roundCarry (i : Nat) : Step := .carry i (i + 1) 21 (2 ^ 20) 1

/-- `carry[i] = s[i] >> 21` -/
def floorCarry (i : Nat) : Step := .carry i (i + 1) 21 0 1

def mulAddSteps : List Step :=
  [0, 2, 4, 6, 8, 10, 12, 14, 16, 18, 20, 22].map roundCarry ++
    [1, 3, 5, 7, 9, 11, 13, 15, 17, 19, 21].map roundCarry

/-- What `ScMulAdd` and `ScReduce` both do, up to the last carry into `s12`. -/
def reduceSteps : List Step :=
  [23, 22, 21, 20, 19, 18].map writeOff ++ [6, 8, 10, 12, 14, 16].map roundCarry ++
    [7, 9, 11, 13, 15].map roundCarry ++ [17, 16, 15, 14, 13, 12].map writeOff ++
    [0, 2, 4, 6, 8, 10].map roundCarry ++ [1, 3, 5, 7, 9, 11].map roundCarry ++ [writeOff 12] ++
    [0, 1, 2, 3, 4, 5, 6, 7, 8, 9, 10, 11].map floorCarry

def finalSteps : List Step := writeOff 12 :: [0, 1, 2, 3, 4, 5, 6, 7, 8, 9, 10].map floorCarry

def pieces : List Piece :=
  [.inside 0 0, .inside 0 8, .across 0 16 5, .inside 1 3, .inside 1 11, .across 1 19 2, .inside 2 6,
    .across 2 14 7, .inside 3 1, .inside 3 9, .across 3 17 4, .inside 4 4, .inside 4 12, .across 4 20 1,
    .inside 5 7, .across 5 15 6, .inside 6 2, .inside 6 10, .across 6 18 3, .inside 7 5, .inside 7 13,
    .inside 8 0, .inside 8 8, .across 8 16 5, .inside 9 3, .inside 9 11, .across 9 19 2, .inside 10 6,
    .across 10 14 7, .inside 11 1, .inside 11 9, .inside 11 17]

def reduced (s : List Int) : Bytes :=
  pieces.map (Piece.byte 64 (run 64 finalSteps (run 64 reduceSteps s)))

def limbs12 (a : Bytes) : List Int :=
  [(2097151 &&& load3 a : Nat), (2097151 &&& load4 (a.drop 2) >>> 5 : Nat),
    (2097151 &&& load3 (a.drop 5) >>> 2 : Nat), (2097151 &&& load4 (a.drop 7) >>> 7 : Nat),
    (2097151 &&& load4 (a.drop 10) >>> 4 : Nat), (2097151 &&& load3 (a.drop 13) >>> 1 : Nat),
    (2097151 &&& load4 (a.drop 15) >>> 6 : Nat), (2097151 &&& load3 (a.drop 18) >>> 3 : Nat),
    (2097151 &&& load3 (a.drop 21) : Nat), (2097151 &&& load4 (a.drop 23) >>> 5 : Nat),
    (2097151 &&& load3 (a.drop 26) >>> 2 : Nat), (load4 (a.drop 28) >>> 7 : Nat)]

def limbs24 (s : Bytes) : List Int :=
  [(2097151 &&& load3 s : Nat), (2097151 &&& load4 (s.drop 2) >>> 5 : Nat),
    (2097151 &&& load3 (s.drop 5) >>> 2 : Nat), (2097151 &&& load4 (s.drop 7) >>> 7 : Nat),
    (2097151 &&& load4 (s.drop 10) >>> 4 : Nat), (2097151 &&& load3 (s.drop 13) >>> 1 : Nat),
    (2097151 &&& load4 (s.drop 15) >>> 6 : Nat), (2097151 &&& load3 (s.drop 18) >>> 3 : Nat),
    (2097151 &&& load3 (s.drop 21) : Nat), (2097151 &&& load4 (s.drop 23) >>> 5 : Nat),
    (2097151 &&& load3 (s.drop 26) >>> 2 : Nat), (2097151 &&& load4 (s.drop 28) >>> 7 : Nat),
    (2097151 &&& load4 (s.drop 31) >>> 4 : Nat), (2097151 &&& load3 (s.drop 34) >>> 1 : Nat),
    (2097151 &&& load4 (s.drop 36) >>> 6 : Nat), (2097151 &&& load3 (s.drop 39) >>> 3 : Nat),
    (2097151 &&& load3 (s.drop 42) : Nat), (2097151 &&& load4 (s.drop 44) >>> 5 : Nat),
    (2097151 &&& load3 (s.drop 47) >>> 2 : Nat), (2097151 &&& load4 (s.drop 49) >>> 7 : Nat),
    (2097151 &&& load4 (s.drop 52) >>> 4 : Nat), (2097151 &&& load3 (s.drop 55) >>> 1 : Nat),
    (2097151 &&& load4 (s.drop 57) >>> 6 : Nat), (load4 (s.drop 60) >>> 3 : Nat)]

/-- `s0` to `s23` of `ScMulAdd`: `s[k]` is `c[k] + a[0]*b[k] + a[1]*b[k-1] + ..`, over the limbs there
are. -/
def products (a b c : List Int) : List Int :=
  (List.range 23).map (fun k => wrap 64 (limb c k + coefficient a b k)) ++ [0]

def scMulAdd (a b c : Bytes) : Bytes :=
  reduced (run 64 mulAddSteps (products (limbs12 a) (limbs12 b) (limbs12 c)))

def scReduce (s : Bytes) : Bytes := reduced (limbs24 s)

def weights : List Int := powers 1 (2 ^ 21) 24

def middle : List Range :=
  List.replicate 12 (0, 2 ^ 21 - 1) ++ [(-1, 0)] ++ List.replicate 11 (0, 0)

theorem mulAdd_passes :
    Passes 64 l weights (mulAddSteps ++ reduceSteps) (List.replicate 23 (-2 ^ 55, 2 ^ 55) ++ [(0, 0)]) middle := by
  decide

theorem reduce_passes :
    Passes 64 l weights reduceSteps (List.replicate 23 (0, 2 ^ 21 - 1) ++ [(0, 2 ^ 29 - 1)]) middle := by
  decide

/-- `2^252` modulo `l`, which is what a unit of `s12` is written off as. -/
def finalWeights : List Int := weights.set 12 (-27742317777372353535851937790883648493)

def last : List Range := List.replicate 11 (0, 2 ^ 21 - 1) ++ [(-1, 2 ^ 21)] ++ List.replicate 12 (0, 0)

theorem final_passes : Passes 64 0 finalWeights finalSteps middle last := by decide

def byteWidths : List Nat := List.replicate 11 21 ++ [25] ++ List.replicate 12 0

/-- Where the first part leaves `s12` zero or minus one, the second gives the number below `l`. -/
theorem reduced_eq {s : List Int} {n : Nat} (within : Within middle (run 64 reduceSteps s))
    (same : value weights (run 64 reduceSteps s) ≡ n [ZMOD l]) : reduced s = bytesOf 32 (n % l) := by
  unfold reduced
  generalize run 64 reduceSteps s = before at *
  obtain ⟨ranged, kept⟩ := final_passes.sound within
  generalize run 64 finalSteps before = after at *
  rw [Int.ModEq, Int.emod_zero, Int.emod_zero] at kept
  -- a unit of `s12` counts `l` less in the second part
  have written : value finalWeights before = value weights before - l * limb before 12 := by
    rw [finalWeights, value_set_weight weights before _ (by decide)]
    have unit : limb weights 12 = 2 ^ 252 := by decide
    have order : (l : Int) = 2 ^ 252 + 27742317777372353535851937790883648493 := by norm_num [l]
    rw [unit, order]
    ring
  have bounded := within.value_mem finalWeights
  have span : total finalWeights middle = (0, (l : Int) - 1) := by decide
  rw [span, ← kept] at bounded
  obtain ⟨low, high⟩ := bounded
  have rest := ranged.value_mem (finalWeights.set 11 0)
  have span' : total (finalWeights.set 11 0) last = (0, 2 ^ 231 - 1) := by decide
  have unit : limb finalWeights 11 = 2 ^ 231 := by decide
  rw [span', value_set_weight finalWeights after _ (by decide), unit] at rest
  obtain ⟨rest_low, rest_high⟩ := rest
  obtain ⟨top_low, top_high⟩ := ranged.2 11
  have top : Range.Mem (0, 2 ^ 25 - 1) (limb after 11) := by
    dsimp only at low high rest_low rest_high
    have limit : (range last 11).2 = 2 ^ 21 := by decide
    rw [limit] at top_high
    constructor <;> dsimp only <;> omega
  have narrow := ranged.narrow (by decide) top
  have fills : Fills byteWidths after := fills_of_within (narrow.mono (by decide))
  have plain := value_packed fills 1
  have agree : value (weightsOf 1 byteWidths) after = value finalWeights after :=
    ranged.value_eq (by decide) (by decide)
  rw [agree, one_mul] at plain
  rw [plain] at low high kept
  have number : packed byteWidths after = n % l := by
    rw [written] at kept
    have residue : (packed byteWidths after : Int) ≡ n [ZMOD l] := by
      rw [kept]
      refine Int.ModEq.trans (Int.modEq_iff_dvd.mpr ⟨limb before 12, ?_⟩) same
      ring
    have small : packed byteWidths after < l := by
      dsimp only at high
      omega
    rw [← Int.natCast_modEq_iff.mp residue, Nat.mod_eq_of_lt small]
  have packs : Packs byteWidths 0 pieces := by decide
  have bytes := packs.bytes (by decide : 8 ≤ 64) fills
  rw [pow_zero, Nat.div_one, number] at bytes
  exact bytes

def digits (n : Nat) : (i count : Nat) → List Int
  | i, 0 => [((n / 2 ^ (21 * i) : Nat) : Int)]
  | i, count + 1 => ((n / 2 ^ (21 * i) % 2 ^ 21 : Nat) : Int) :: digits n (i + 1) count

theorem value_digits (n count : Nat) : ∀ (first : Int) (i : Nat),
    value (powers first (2 ^ 21) (count + 1)) (digits n i count) = first * (n / 2 ^ (21 * i) : Nat) := by
  induction count with
  | zero => simp [powers, digits, value]
  | succ count ih =>
      intro first i
      rw [powers, digits, value, ih]
      have next : n / 2 ^ (21 * (i + 1)) = n / 2 ^ (21 * i) / 2 ^ 21 := by
        rw [Nat.div_div_eq_div_mul, ← pow_add, mul_add, mul_one]
      have split : ((n / 2 ^ (21 * i) : Nat) : Int) =
          (n / 2 ^ (21 * i) % 2 ^ 21 : Nat) + 2 ^ 21 * (n / 2 ^ (21 * i) / 2 ^ 21 : Nat) := by
        exact_mod_cast (Nat.mod_add_div (n / 2 ^ (21 * i)) (2 ^ 21)).symm
      rw [next]
      linear_combination -first * split

theorem mod_div_mod (n low middle high : Nat) (room : low + middle ≤ high) :
    n % 2 ^ high / 2 ^ low % 2 ^ middle = n / 2 ^ low % 2 ^ middle := by
  obtain ⟨rest, rfl⟩ := Nat.exists_eq_add_of_le room
  rw [Nat.add_assoc, pow_add, Nat.mod_mul_right_div_self, pow_add, Nat.mod_mod_of_dvd _ (Nat.dvd_mul_right _ _)]

theorem masked (n : Nat) : 2097151 &&& n = n % 2 ^ 21 := by
  rw [Nat.and_comm]
  exact Nat.and_two_pow_sub_one_eq_mod n 21

theorem masked_load3 (bytes : Bytes) (k down : Nat) (room : down + 21 ≤ 24) :
    2097151 &&& load3 (bytes.drop k) >>> down = number bytes / 2 ^ (8 * k + down) % 2 ^ 21 := by
  rw [masked, load3_eq, number_take, number_drop, Nat.shiftRight_eq_div_pow, show 256 ^ 3 = 2 ^ 24 by norm_num,
    mod_div_mod _ _ _ _ room, Nat.div_div_eq_div_mul, show 256 = 2 ^ 8 by norm_num, ← pow_mul, ← pow_add]

theorem masked_load4 (bytes : Bytes) (k down : Nat) (room : down + 21 ≤ 32) :
    2097151 &&& load4 (bytes.drop k) >>> down = number bytes / 2 ^ (8 * k + down) % 2 ^ 21 := by
  rw [masked, load4_eq, number_take, number_drop, Nat.shiftRight_eq_div_pow, show 256 ^ 4 = 2 ^ 32 by norm_num,
    mod_div_mod _ _ _ _ room, Nat.div_div_eq_div_mul, show 256 = 2 ^ 8 by norm_num, ← pow_mul, ← pow_add]

theorem whole_load4 {bytes : Bytes} {k : Nat} (size : bytes.length = k + 4) (down : Nat) :
    load4 (bytes.drop k) >>> down = number bytes / 2 ^ (8 * k + down) := by
  rw [load4_eq, List.take_of_length_le (by rw [List.length_drop]; omega), number_drop,
    Nat.shiftRight_eq_div_pow, Nat.div_div_eq_div_mul, show 256 = 2 ^ 8 by norm_num, ← pow_mul, ← pow_add]

theorem limbs12_eq {a : Bytes} (size : a.length = 32) : limbs12 a = digits (number a) 0 11 := by
  have first := masked_load3 a 0 0 (by decide)
  have ninth := masked_load3 a 21 0 (by decide)
  rw [List.drop_zero, Nat.shiftRight_zero] at first
  rw [Nat.shiftRight_zero] at ninth
  simp only [limbs12, first, ninth, masked_load3, masked_load4, whole_load4 size, digits, Nat.reduceAdd,
    Nat.reduceMul, Nat.reduceLeDiff]

theorem limbs24_eq {s : Bytes} (size : s.length = 64) : limbs24 s = digits (number s) 0 23 := by
  have first := masked_load3 s 0 0 (by decide)
  have ninth := masked_load3 s 21 0 (by decide)
  have seventeenth := masked_load3 s 42 0 (by decide)
  rw [List.drop_zero, Nat.shiftRight_zero] at first
  rw [Nat.shiftRight_zero] at ninth seventeenth
  simp only [limbs24, first, ninth, seventeenth, masked_load3, masked_load4, whole_load4 size, digits,
    Nat.reduceAdd, Nat.reduceMul, Nat.reduceLeDiff]

theorem digits_length (n count : Nat) : ∀ i, (digits n i count).length = count + 1 := by
  induction count with
  | zero => exact fun _ => rfl
  | succ count ih => exact fun i => congrArg (· + 1) (ih (i + 1))

theorem digits_within {n width bits : Nat} (small : n < 2 ^ width) (count : Nat) : ∀ {i : Nat},
    width = 21 * (i + count) + bits →
    Within (List.replicate count (0, 2 ^ 21 - 1) ++ [(0, 2 ^ bits - 1)]) (digits n i count) := by
  induction count with
  | zero =>
      intro i split
      have high : n / 2 ^ (21 * i) < 2 ^ bits := by
        rw [Nat.div_lt_iff_lt_mul (by positivity), ← pow_add, Nat.add_comm bits]
        rwa [split] at small
      refine Within.cons ⟨Int.natCast_nonneg _, Int.le_sub_one_of_lt ?_⟩ ⟨rfl, fun _ => ⟨le_refl _, le_refl _⟩⟩
      exact_mod_cast high
  | succ count ih =>
      intro i split
      rw [List.replicate_succ, List.cons_append, digits]
      refine Within.cons ⟨Int.natCast_nonneg _, Int.le_sub_one_of_lt ?_⟩ (ih ?_)
      · exact_mod_cast Nat.mod_lt _ (by norm_num)
      · rwa [Nat.add_right_comm, Nat.add_assoc]

theorem number_lt_two_pow {bytes : Bytes} {size : Nat} (length : bytes.length = size) :
    number bytes < 2 ^ (8 * size) := by
  rw [pow_mul, ← length]
  exact number_lt bytes

/-- `ScReduce` gives the remainder by `l`. -/
theorem scReduce_eq {s : Bytes} (size : s.length = 64) : scReduce s = bytesOf 32 (number s % l) := by
  have within : Within (List.replicate 23 (0, 2 ^ 21 - 1) ++ [(0, 2 ^ 29 - 1)]) (digits (number s) 0 23) :=
    digits_within (number_lt_two_pow size) 23 rfl
  obtain ⟨ranged, same⟩ := reduce_passes.sound within
  rw [weights, value_digits, one_mul, Nat.mul_zero, pow_zero, Nat.div_one] at same
  unfold scReduce
  rw [limbs24_eq size]
  exact reduced_eq ranged same

theorem limb_small {n : Nat} (small : n < 2 ^ 256) (k : Nat) : |limb (digits n 0 11) k| ≤ 2 ^ 25 := by
  have within : Within (List.replicate 11 (0, 2 ^ 21 - 1) ++ [(0, 2 ^ 25 - 1)]) (digits n 0 11) :=
    digits_within small 11 rfl
  by_cases inside : k < 12
  · obtain ⟨low, high⟩ := within.2 k
    have limits : ∀ k < 12, 0 ≤ (range (List.replicate 11 (0, 2 ^ 21 - 1) ++ [(0, 2 ^ 25 - 1)]) k).1 ∧
        (range (List.replicate 11 (0, 2 ^ 21 - 1) ++ [(0, 2 ^ 25 - 1)]) k).2 ≤ 2 ^ 25 := by decide
    obtain ⟨first, second⟩ := limits k inside
    rw [abs_le]
    omega
  · have outside : limb (digits n 0 11) k = 0 := List.getD_eq_default _ _ (by rw [digits_length]; omega)
    rw [outside]
    norm_num

theorem coefficient_small {a b : List Int} (left : ∀ k, |limb a k| ≤ 2 ^ 25) (right : ∀ k, |limb b k| ≤ 2 ^ 25)
    (k : Nat) : |coefficient a b k| ≤ (k + 1) * 2 ^ 50 := by
  have each : ∀ n ∈ (List.range (k + 1)).map fun i => limb a i * limb b (k - i), |n| ≤ 2 ^ 50 := by
    intro n member
    obtain ⟨i, _, rfl⟩ := List.mem_map.mp member
    rw [abs_mul]
    calc |limb a i| * |limb b (k - i)| ≤ 2 ^ 25 * 2 ^ 25 := mul_le_mul (left i) (right _) (abs_nonneg _) (by norm_num)
      _ = 2 ^ 50 := by norm_num
  have low := List.card_nsmul_le_sum _ (-2 ^ 50) fun n member => (abs_le.mp (each n member)).1
  have high := List.sum_le_card_nsmul _ (2 ^ 50) fun n member => (abs_le.mp (each n member)).2
  rw [List.length_map, List.length_range, nsmul_eq_mul, Nat.cast_succ] at low high
  rw [coefficient, abs_le]
  constructor <;> linarith

theorem productSum_small {a b c : Nat} (left : a < 2 ^ 256) (right : b < 2 ^ 256) (last : c < 2 ^ 256) {k : Nat}
    (inside : k < 23) :
    |limb (digits c 0 11) k + coefficient (digits a 0 11) (digits b 0 11) k| ≤ 2 ^ 55 := by
  have sum := coefficient_small (limb_small left) (limb_small right) k
  have more := limb_small last k
  have count : ((k : Int) + 1) * 2 ^ 50 ≤ 23 * 2 ^ 50 := mul_le_mul_of_nonneg_right (by omega) (by norm_num)
  rw [abs_le] at sum more ⊢
  omega

/-- The limbs of `ScMulAdd` stand for `a*b + c`, and none of them overflows. -/
theorem products_spec {a b c : Nat} (left : a < 2 ^ 256) (right : b < 2 ^ 256) (last : c < 2 ^ 256) :
    Within (List.replicate 23 (-2 ^ 55, 2 ^ 55) ++ [(0, 0)])
        (products (digits a 0 11) (digits b 0 11) (digits c 0 11)) ∧
      value weights (products (digits a 0 11) (digits b 0 11) (digits c 0 11)) = (a * b + c : Nat) := by
  have fits : (List.range 23).map (fun k => wrap 64 (limb (digits c 0 11) k +
      coefficient (digits a 0 11) (digits b 0 11) k)) = (List.range 23).map fun k =>
        limb (digits c 0 11) k + coefficient (digits a 0 11) (digits b 0 11) k := by
    refine List.map_congr_left fun k member => ?_
    have small := abs_le.mp (productSum_small left right last (List.mem_range.mp member))
    exact wrap_eq (by omega) (by omega)
  unfold products
  rw [fits]
  constructor
  · refine within_append (within_replicate (by simp) fun n member => ?_) ⟨rfl, fun i => ?_⟩
    · obtain ⟨k, inside, rfl⟩ := List.mem_map.mp member
      exact productSum_small left right last (List.mem_range.mp inside)
    · cases i <;> exact ⟨le_refl _, le_refl _⟩
  · have size (n : Nat) : (digits n 0 11).length = 12 := digits_length n 11 0
    have none : limb (digits c 0 11) 23 + coefficient (digits a 0 11) (digits b 0 11) 23 = 0 := by
      rw [coefficient_eq_zero (by rw [size, size]), limb, List.getD_eq_default _ _ (by rw [size]; decide), add_zero]
    have all : (List.range 23).map (fun k => limb (digits c 0 11) k +
        coefficient (digits a 0 11) (digits b 0 11) k) ++ [0] = (List.range 24).map fun k =>
          limb (digits c 0 11) k + coefficient (digits a 0 11) (digits b 0 11) k := by
      rw [List.range_succ (n := 23), List.map_append, List.map_singleton, none]
    have product := value_coefficients (2 ^ 21) (digits a 0 11) (digits b 0 11) 1
    have summand := value_pad (2 ^ 21) (digits c 0 11) (n := 24) 1 (by rw [size]; decide)
    rw [size, size, value_digits, value_digits] at product
    rw [size, value_digits] at summand
    rw [all, weights, value_map_add, summand, product]
    simp only [Nat.mul_zero, pow_zero, Nat.div_one, one_mul]
    push_cast
    ring

/-- `ScMulAdd` gives `a*b + c` modulo `l`. -/
theorem scMulAdd_eq {a b c : Bytes} (a_size : a.length = 32) (b_size : b.length = 32) (c_size : c.length = 32) :
    scMulAdd a b c = bytesOf 32 ((number a * number b + number c) % l) := by
  obtain ⟨within, exactly⟩ := products_spec (number_lt_two_pow a_size) (number_lt_two_pow b_size)
    (number_lt_two_pow c_size)
  obtain ⟨ranged, same⟩ := mulAdd_passes.sound within
  rw [exactly] at same
  unfold scMulAdd
  rw [limbs12_eq a_size, limbs12_eq b_size, limbs12_eq c_size]
  have steps (limbs : List Int) :
      run 64 (mulAddSteps ++ reduceSteps) limbs = run 64 reduceSteps (run 64 mulAddSteps limbs) :=
    List.foldl_append
  rw [steps] at ranged same
  exact reduced_eq ranged same

theorem mod_l_lt (n : Nat) : n % l < 2 ^ 253 := lt_trans (Nat.mod_lt n (by decide)) (by decide)

theorem number_bytesOf_mod (n : Nat) : number (bytesOf 32 (n % l)) = n % l := by
  have small := mod_l_lt n
  rw [number_bytesOf, Nat.mod_eq_of_lt (by omega)]

theorem last_and_eq_zero {s : Bytes} (size : s.length = 32) (small : number s < 2 ^ 253) :
    s.getD 31 0 &&& 224 = 0 := by
  have last : s.drop 31 = [s.getD 31 0] := by
    rw [List.getD_eq_getElem _ _ (by omega), List.drop_eq_getElem_cons (by omega),
      List.drop_eq_nil_of_le (by omega)]
  have high := number_drop s 31
  rw [last, number, number] at high
  generalize s.getD 31 0 = byte at high
  have below : byte.toNat < 32 := by omega
  apply UInt8.toNat.inj
  rw [UInt8.toNat_and]
  generalize byte.toNat = n at below
  revert n
  decide

/-- The second half of a signature, from the digests themselves: reducing them first changes nothing, and
`Verify` never refuses it for the bits of its last byte. -/
theorem signature_scalar {h k r : Bytes} (h_size : h.length = 64) (k_size : k.length = 32)
    (r_size : r.length = 64) :
    scMulAdd (scReduce h) k (scReduce r) = bytesOf 32 ((number h * number k + number r) % l) ∧
      (scMulAdd (scReduce h) k (scReduce r)).getD 31 0 &&& 224 = 0 := by
  have scalar : scMulAdd (scReduce h) k (scReduce r) = bytesOf 32 ((number h * number k + number r) % l) := by
    rw [scReduce_eq h_size, scReduce_eq r_size, scMulAdd_eq (bytesOf_length _ _) k_size (bytesOf_length _ _),
      number_bytesOf_mod, number_bytesOf_mod]
    have same : number h % l * number k + number r % l ≡ number h * number k + number r [MOD l] :=
      ((Nat.mod_modEq _ _).mul_right _).add (Nat.mod_modEq _ _)
    exact congrArg (bytesOf 32) same
  refine ⟨scalar, ?_⟩
  rw [scalar]
  refine last_and_eq_zero (bytesOf_length _ _) ?_
  rw [number_bytesOf_mod]
  exact mod_l_lt _

theorem signature_scalar_ones :
    scMulAdd (scReduce (List.replicate 64 255)) (List.replicate 32 255) (scReduce (List.replicate 64 255)) =
        bytesOf 32 ((number (List.replicate 64 255) * number (List.replicate 32 255) +
          number (List.replicate 64 255)) % l) ∧
      (scMulAdd (scReduce (List.replicate 64 255)) (List.replicate 32 255)
        (scReduce (List.replicate 64 255))).getD 31 0 &&& 224 = 0 :=
  signature_scalar rfl rfl rfl

end Carrier.ScalarLimbs
