import Carrier.FieldOps
import Carrier.LimbProgram
import Carrier.Curve25519

/-! Field elements as `fe.go` has them: ten limbs of 26 and 25 bits in turn, in `int32`. Sums are
taken limb by limb; products go through `int64` and `FeCombine`, which brings the limbs back to
size. -/
namespace Carrier.FieldLimbs

open GoRuntime FieldOps LimbProgram Curve25519

structure FieldElement where
  limbs : List Int
  size : limbs.length = 10

def int32 (n : Int) : Int := wrap 32 n

def int64 (n : Int) : Int := wrap 64 n

def feZero : FieldElement := ⟨[0, 0, 0, 0, 0, 0, 0, 0, 0, 0], rfl⟩

def feOne : FieldElement := ⟨[1, 0, 0, 0, 0, 0, 0, 0, 0, 0], rfl⟩

def limbwise (f : Int → Int → Int) (a b : FieldElement) : FieldElement :=
  ⟨List.zipWith f a.limbs b.limbs, by rw [List.length_zipWith, a.size, b.size, Nat.min_self]⟩

def feAdd (a b : FieldElement) : FieldElement := limbwise (fun x y => int32 (x + y)) a b

def feSub (a b : FieldElement) : FieldElement := limbwise (fun x y => int32 (x - y)) a b

def feNeg (f : FieldElement) : FieldElement := ⟨f.limbs.map fun x => int32 (-x), by rw [List.length_map, f.size]⟩

def feCMove (f g : FieldElement) (b : BitVec 32) : FieldElement :=
  let b := -b
  limbwise (fun x y =>
    (BitVec.ofInt 32 x ^^^ (b &&& (BitVec.ofInt 32 x ^^^ BitVec.ofInt 32 y))).toInt) f g

/-- The carries of `FeCombine`; the one out of the highest limb comes back as 19 times as much. -/
def combineSteps : List Step :=
  let carry26 (i : Nat) := Step.carry i (i + 1) 26 (2 ^ 25) 1
  let carry25 (i : Nat) := Step.carry i (i + 1) 25 (2 ^ 24) 1
  [carry26 0, carry26 4, carry25 1, carry25 5, carry26 2, carry26 6, carry25 3, carry25 7, carry26 4,
    carry26 8, .carry 9 0 25 (2 ^ 24) 19, carry26 0]

def feCombine (h : List Int) (size : h.length = 10) : FieldElement :=
  ⟨(run 64 combineSteps h).map int32, by rw [List.length_map, run_length, size]⟩

/-- The ten sums of products of `FeMul`, from their left factors (those of `h0`, `h2`, .. and those of
`h1`, `h3`, ..) and the right ones: `h0` takes the right factors from the tenth on, and each next sum
starts one place earlier. -/
def sums (even odd right : List Int) : List Int :=
  [dot even (right.drop 9), dot odd (right.drop 8), dot even (right.drop 7), dot odd (right.drop 6),
    dot even (right.drop 5), dot odd (right.drop 4), dot even (right.drop 3), dot odd (right.drop 2),
    dot even (right.drop 1), dot odd right]

def products (f g : FieldElement) : List Int :=
  let f0 := limb f.limbs 0
  let f1 := limb f.limbs 1
  let f2 := limb f.limbs 2
  let f3 := limb f.limbs 3
  let f4 := limb f.limbs 4
  let f5 := limb f.limbs 5
  let f6 := limb f.limbs 6
  let f7 := limb f.limbs 7
  let f8 := limb f.limbs 8
  let f9 := limb f.limbs 9
  let f1_2 := int32 (2 * f1)
  let f3_2 := int32 (2 * f3)
  let f5_2 := int32 (2 * f5)
  let f7_2 := int32 (2 * f7)
  let f9_2 := int32 (2 * f9)
  let g0 := limb g.limbs 0
  let g1 := limb g.limbs 1
  let g2 := limb g.limbs 2
  let g3 := limb g.limbs 3
  let g4 := limb g.limbs 4
  let g5 := limb g.limbs 5
  let g6 := limb g.limbs 6
  let g7 := limb g.limbs 7
  let g8 := limb g.limbs 8
  let g9 := limb g.limbs 9
  let g1_19 := int32 (19 * g1)
  let g2_19 := int32 (19 * g2)
  let g3_19 := int32 (19 * g3)
  let g4_19 := int32 (19 * g4)
  let g5_19 := int32 (19 * g5)
  let g6_19 := int32 (19 * g6)
  let g7_19 := int32 (19 * g7)
  let g8_19 := int32 (19 * g8)
  let g9_19 := int32 (19 * g9)
  let even := [f0, f1_2, f2, f3_2, f4, f5_2, f6, f7_2, f8, f9_2]
  let odd := [f0, f1, f2, f3, f4, f5, f6, f7, f8, f9]
  let right := [g9, g8, g7, g6, g5, g4, g3, g2, g1, g0, g9_19, g8_19, g7_19, g6_19, g5_19, g4_19, g3_19,
    g2_19, g1_19]
  (sums even odd right).map int64

def feMul (f g : FieldElement) : FieldElement := feCombine (products f g) rfl

/-- The ten sums of `feSquare`, in which products that occur twice are taken together. -/
def squareProducts (f : FieldElement) : List Int :=
  let f0 := limb f.limbs 0
  let f1 := limb f.limbs 1
  let f2 := limb f.limbs 2
  let f3 := limb f.limbs 3
  let f4 := limb f.limbs 4
  let f5 := limb f.limbs 5
  let f6 := limb f.limbs 6
  let f7 := limb f.limbs 7
  let f8 := limb f.limbs 8
  let f9 := limb f.limbs 9
  let f0_2 := int32 (2 * f0)
  let f1_2 := int32 (2 * f1)
  let f2_2 := int32 (2 * f2)
  let f3_2 := int32 (2 * f3)
  let f4_2 := int32 (2 * f4)
  let f5_2 := int32 (2 * f5)
  let f6_2 := int32 (2 * f6)
  let f7_2 := int32 (2 * f7)
  let f5_38 := int64 (38 * f5)
  let f6_19 := int64 (19 * f6)
  let f7_38 := int64 (38 * f7)
  let f8_19 := int64 (19 * f8)
  let f9_38 := int64 (38 * f9)
  [int64 (dot [f0, f1_2, f2_2, f3_2, f4_2, f5] [f0, f9_38, f8_19, f7_38, f6_19, f5_38]),
    int64 (dot [f0_2, f2, f3_2, f4, f5_2] [f1, f9_38, f8_19, f7_38, f6_19]),
    int64 (dot [f0_2, f1_2, f3_2, f4_2, f5_2, f6] [f2, f1, f9_38, f8_19, f7_38, f6_19]),
    int64 (dot [f0_2, f1_2, f4, f5_2, f6] [f3, f2, f9_38, f8_19, f7_38]),
    int64 (dot [f0_2, f1_2, f2, f5_2, f6_2, f7] [f4, f3_2, f2, f9_38, f8_19, f7_38]),
    int64 (dot [f0_2, f1_2, f2_2, f6, f7_2] [f5, f4, f3, f9_38, f8_19]),
    int64 (dot [f0_2, f1_2, f2_2, f3_2, f7_2, f8] [f6, f5_2, f4, f3, f9_38, f8_19]),
    int64 (dot [f0_2, f1_2, f2_2, f3_2, f8] [f7, f6, f5, f4, f9_38]),
    int64 (dot [f0_2, f1_2, f2_2, f3_2, f4, f9] [f8, f7_2, f6, f5_2, f4, f9_38]),
    int64 (dot [f0_2, f1_2, f2_2, f3_2, f4_2] [f9, f8, f7, f6, f5])]

def feSquare (f : FieldElement) : FieldElement := feCombine (squareProducts f) rfl

def feSquare2 (f : FieldElement) : FieldElement :=
  feCombine ((squareProducts f).map fun h => int64 (h + h)) rfl

/-- `t[0]+2^26 t[1]+2^51 t[2]+2^77 t[3]+2^102 t[4]+...+2^230 t[9]`. -/
def weights : List Int :=
  [1, 2 ^ 26, 2 ^ 51, 2 ^ 77, 2 ^ 102, 2 ^ 128, 2 ^ 153, 2 ^ 179, 2 ^ 204, 2 ^ 230]

/-- `1.1*2^25` and `1.1*2^24` in turn. -/
def sizes : List Int :=
  [36909875, 18454937, 36909875, 18454937, 36909875, 18454937, 36909875, 18454937, 36909875, 18454937]

def bounds (k : Nat) : List Range := sizes.map fun size => (-(k * size), k * size)

/-- The limbs are at most `k` times those of a reduced element and stand for `x`. -/
def Holds (k : Nat) (f : FieldElement) (x : GF) : Prop :=
  Within (bounds k) f.limbs ∧ ((value weights f.limbs : Int) : GF) = x

theorem sizes_bounds (i : Nat) : 0 ≤ limb sizes i ∧ limb sizes i ≤ 36909875 := by
  by_cases inside : i < 10
  · interval_cases i <;> decide
  · have outside : sizes.length ≤ i := Nat.le_of_not_lt inside
    simp [limb, outside]

theorem range_bounds (k i : Nat) : range (bounds k) i = (-(k * limb sizes i), k * limb sizes i) := by
  unfold range bounds limb
  rw [List.getD_eq_getElem?_getD, List.getD_eq_getElem?_getD, List.getElem?_map]
  cases sizes[i]? with
  | none => simp
  | some n => rfl

theorem small_of_within {k : Nat} {limbs : List Int} (within : Within (bounds k) limbs) (i : Nat) :
    |limb limbs i| ≤ k * limb sizes i := by
  have mem := within.2 i
  rw [range_bounds] at mem
  exact abs_le.mpr mem

theorem Holds.small {k : Nat} {f : FieldElement} {x : GF} (holds : Holds k f x) (i : Nat) :
    |limb f.limbs i| ≤ k * limb sizes i :=
  small_of_within holds.1 i

theorem within_bounds {k : Nat} {limbs : List Int} (size : limbs.length = 10)
    (small : ∀ i, |limb limbs i| ≤ k * limb sizes i) : Within (bounds k) limbs := by
  refine ⟨size.symm, fun i => ?_⟩
  rw [range_bounds]
  exact abs_le.mp (small i)

theorem int32_eq {n : Int} (small : |n| < 2 ^ 31) : int32 n = n := by
  obtain ⟨low, high⟩ := abs_lt.mp small
  exact wrap_eq (by omega) (by omega)

theorem int64_eq {n : Int} (small : |n| ≤ 5 * 10 ^ 18) : int64 n = n := by
  obtain ⟨low, high⟩ := abs_le.mp small
  exact wrap_eq (by omega) (by omega)

theorem size_le {k : Nat} (small : k ≤ 3) (i : Nat) : (k : Int) * limb sizes i ≤ 110729625 := by
  obtain ⟨low, high⟩ := sizes_bounds i
  calc (k : Int) * limb sizes i ≤ 3 * 36909875 := mul_le_mul (by exact_mod_cast small) high low (by norm_num)
    _ = 110729625 := by norm_num

theorem int32_of_le {n : Int} {k : Nat} (fits : k ≤ 3) {i : Nat} (small : |n| ≤ k * limb sizes i) :
    int32 n = n :=
  int32_eq (lt_of_le_of_lt (small.trans (size_le fits i)) (by norm_num))

theorem Holds.combine {i j k : Nat} {a b c : FieldElement} {x y : GF} (s t : Int) (first : Holds i a x)
    (second : Holds j b y) (each : ∀ n, limb c.limbs n = s * limb a.limbs n + t * limb b.limbs n)
    (small : ∀ n, |limb c.limbs n| ≤ k * limb sizes n) : Holds k c (s * x + t * y) := by
  refine ⟨within_bounds c.size small, ?_⟩
  rw [value_linear weights s t _ _ _ (a.size.trans c.size.symm) (b.size.trans c.size.symm) each, ← first.2,
    ← second.2]
  push_cast
  rfl

theorem feAdd_holds {i j : Nat} {a b : FieldElement} {x y : GF} (fits : i + j ≤ 3) (first : Holds i a x)
    (second : Holds j b y) : Holds (i + j) (feAdd a b) (x + y) := by
  have small (n : Nat) : |limb a.limbs n + limb b.limbs n| ≤ ((i + j : Nat) : Int) * limb sizes n := by
    push_cast
    rw [add_mul]
    exact (abs_add_le _ _).trans (add_le_add (first.small n) (second.small n))
  have each (n : Nat) : limb (feAdd a b).limbs n = limb a.limbs n + limb b.limbs n := by
    rw [feAdd, limbwise, limb_zipWith _ rfl (a.size.trans b.size.symm)]
    exact int32_of_le fits (small n)
  have sum := first.combine 1 1 second (c := feAdd a b) (k := i + j) (fun n => by rw [each]; ring)
    (fun n => by rw [each]; exact small n)
  simpa using sum

theorem feSub_holds {i j : Nat} {a b : FieldElement} {x y : GF} (fits : i + j ≤ 3) (first : Holds i a x)
    (second : Holds j b y) : Holds (i + j) (feSub a b) (x - y) := by
  have small (n : Nat) : |limb a.limbs n - limb b.limbs n| ≤ ((i + j : Nat) : Int) * limb sizes n := by
    push_cast
    rw [add_mul]
    exact (abs_sub _ _).trans (add_le_add (first.small n) (second.small n))
  have each (n : Nat) : limb (feSub a b).limbs n = limb a.limbs n - limb b.limbs n := by
    rw [feSub, limbwise, limb_zipWith _ rfl (a.size.trans b.size.symm)]
    exact int32_of_le fits (small n)
  have difference := first.combine 1 (-1) second (c := feSub a b) (k := i + j) (fun n => by rw [each]; ring)
    (fun n => by rw [each]; exact small n)
  simpa [sub_eq_add_neg] using difference

theorem feNeg_holds {k : Nat} {a : FieldElement} {x : GF} (fits : k ≤ 3) (holds : Holds k a x) :
    Holds k (feNeg a) (-x) := by
  have small (n : Nat) : |-limb a.limbs n| ≤ k * limb sizes n := by
    rw [abs_neg]
    exact holds.small n
  have each (n : Nat) : limb (feNeg a).limbs n = -limb a.limbs n := by
    rw [feNeg, limb_map _ rfl]
    exact int32_of_le fits (small n)
  have opposite := holds.combine (-1) 0 holds (c := feNeg a) (k := k) (fun n => by rw [each]; ring)
    (fun n => by rw [each]; exact small n)
  simpa using opposite

theorem Holds.mono {i j : Nat} {a : FieldElement} {x : GF} (le : i ≤ j) (holds : Holds i a x) :
    Holds j a x := by
  refine ⟨within_bounds a.size fun n => (holds.small n).trans ?_, holds.2⟩
  exact mul_le_mul_of_nonneg_right (by exact_mod_cast le) (sizes_bounds n).1

theorem toInt_ofInt_limb {k : Nat} {f : FieldElement} {x : GF} (fits : k ≤ 3) (holds : Holds k f x) (n : Nat) :
    (BitVec.ofInt 32 (limb f.limbs n)).toInt = limb f.limbs n := by
  rw [BitVec.toInt_ofInt]
  exact int32_of_le fits (holds.small n)

theorem limb_feCMove (f g : FieldElement) (b : BitVec 32) (n : Nat) :
    limb (feCMove f g b).limbs n = (BitVec.ofInt 32 (limb f.limbs n) ^^^
      (-b &&& (BitVec.ofInt 32 (limb f.limbs n) ^^^ BitVec.ofInt 32 (limb g.limbs n)))).toInt := by
  rw [feCMove, limbwise, limb_zipWith _ (by simp) (f.size.trans g.size.symm)]

theorem feCMove_keep {f g : FieldElement} {x y : GF} (first : Holds 1 f x) (second : Holds 1 g y) :
    Holds 1 (feCMove f g 0) x := by
  have each (n : Nat) : limb (feCMove f g 0).limbs n = limb f.limbs n := by
    rw [limb_feCMove, ← toInt_ofInt_limb (by decide) first n]
    simp
  have kept := first.combine 1 0 second (c := feCMove f g 0) (k := 1) (fun n => by rw [each]; ring)
    (fun n => by rw [each]; exact first.small n)
  simpa using kept

theorem feCMove_move {f g : FieldElement} {x y : GF} (first : Holds 1 f x) (second : Holds 1 g y) :
    Holds 1 (feCMove f g 1) y := by
  have each (n : Nat) : limb (feCMove f g 1).limbs n = limb g.limbs n := by
    have ones : (-1 : BitVec 32) = BitVec.allOnes 32 := by decide
    rw [limb_feCMove, ones, BitVec.allOnes_and, ← BitVec.xor_assoc, BitVec.xor_self, BitVec.zero_xor]
    exact toInt_ofInt_limb (by decide) second n
  have moved := first.combine 0 1 second (c := feCMove f g 1) (k := 1) (fun n => by rw [each]; ring)
    (fun n => by rw [each]; exact second.small n)
  simpa using moved

theorem intCast_eq {m n : Int} (same : m ≡ n [ZMOD (p : Int)]) : (m : GF) = n :=
  (ZMod.intCast_eq_intCast_iff m n p).mpr same

theorem map_int32 (k : Nat) {limbs : List Int} (fits : k ≤ 3) (within : Within (bounds k) limbs) :
    limbs.map int32 = limbs :=
  map_wrap fun i => int32_of_le fits (small_of_within within i)

theorem feCombine_limbs {h : List Int} (size : h.length = 10) :
    (feCombine h size).limbs = (run 64 combineSteps h).map int32 := by
  rw [feCombine]

theorem combine_passes :
    Passes 64 p weights combineSteps (List.replicate 10 (-(5 * 10 ^ 18), 5 * 10 ^ 18)) (bounds 1) := by
  decide

/-- `FeCombine` takes any limbs that `int64` has room for and returns a reduced element. -/
theorem feCombine_holds {h : List Int} (size : h.length = 10) (small : ∀ n ∈ h, |n| ≤ 5 * 10 ^ 18) :
    Holds 1 (feCombine h size) ((value weights h : Int) : GF) := by
  obtain ⟨within, same⟩ := combine_passes.sound (within_replicate size small)
  have unchanged := (feCombine_limbs size).trans (map_int32 1 (by decide) within)
  unfold Holds
  rw [unchanged]
  exact ⟨within, intCast_eq same⟩

theorem sums_small {even odd right : List Int} (even_size : even.length = 10) (odd_size : odd.length = 10)
    (evens : ∀ x ∈ even, |x| ≤ 110729625) (odds : ∀ x ∈ odd, |x| ≤ 110729625)
    (rights : ∀ y ∈ right, |y| ≤ 2103862875) : ∀ h ∈ sums even odd right, |h| ≤ 25 * 10 ^ 17 := by
  have row {left : List Int} (size : left.length = 10) (lefts : ∀ x ∈ left, |x| ≤ 110729625) (k : Nat) :
      |dot left (right.drop k)| ≤ 25 * 10 ^ 17 := by
    refine (abs_dot_le lefts (fun y member => rights y (List.mem_of_mem_drop member)) (by norm_num)).trans ?_
    rw [size]
    norm_num
  unfold sums
  simp only [List.forall_mem_cons, List.not_mem_nil, false_implies, implies_true, and_true]
  exact ⟨row even_size evens 9, row odd_size odds 8, row even_size evens 7, row odd_size odds 6,
    row even_size evens 5, row odd_size odds 4, row even_size evens 3, row odd_size odds 2,
    row even_size evens 1, row odd_size odds 0⟩

/-- With `2^255` for 19 the sums are the product of the two numbers. -/
theorem value_sums (f0 f1 f2 f3 f4 f5 f6 f7 f8 f9 g0 g1 g2 g3 g4 g5 g6 g7 g8 g9 : Int) :
    value weights (sums [f0, 2 * f1, f2, 2 * f3, f4, 2 * f5, f6, 2 * f7, f8, 2 * f9]
        [f0, f1, f2, f3, f4, f5, f6, f7, f8, f9]
        [g9, g8, g7, g6, g5, g4, g3, g2, g1, g0, 19 * g9, 19 * g8, 19 * g7, 19 * g6, 19 * g5, 19 * g4,
          19 * g3, 19 * g2, 19 * g1]) ≡
      value weights [f0, f1, f2, f3, f4, f5, f6, f7, f8, f9] *
        value weights [g0, g1, g2, g3, g4, g5, g6, g7, g8, g9] [ZMOD p] := by
  refine Int.modEq_iff_dvd.mpr ⟨
    (2 * f1 * g9 + f2 * g8 + 2 * f3 * g7 + f4 * g6 + 2 * f5 * g5 + f6 * g4 + 2 * f7 * g3 + f8 * g2 + 2 * f9 * g1) +
    2 ^ 26 * (f2 * g9 + f3 * g8 + f4 * g7 + f5 * g6 + f6 * g5 + f7 * g4 + f8 * g3 + f9 * g2) +
    2 ^ 51 * (2 * f3 * g9 + f4 * g8 + 2 * f5 * g7 + f6 * g6 + 2 * f7 * g5 + f8 * g4 + 2 * f9 * g3) +
    2 ^ 77 * (f4 * g9 + f5 * g8 + f6 * g7 + f7 * g6 + f8 * g5 + f9 * g4) +
    2 ^ 102 * (2 * f5 * g9 + f6 * g8 + 2 * f7 * g7 + f8 * g6 + 2 * f9 * g5) +
    2 ^ 128 * (f6 * g9 + f7 * g8 + f8 * g7 + f9 * g6) +
    2 ^ 153 * (2 * f7 * g9 + f8 * g8 + 2 * f9 * g7) +
    2 ^ 179 * (f8 * g9 + f9 * g8) +
    2 ^ 204 * (2 * f9 * g9), ?_⟩
  have prime : ((p : Nat) : Int) = 2 ^ 255 - 19 := by norm_num [p]
  rw [prime]
  simp only [sums, dot, value, weights, List.drop_succ_cons, List.drop_zero, List.zipWith_cons_cons,
    List.zipWith_nil_left, List.zipWith_nil_right, List.sum_cons, List.sum_nil]
  ring

theorem map_int64 {limbs : List Int} (small : ∀ n ∈ limbs, |n| ≤ 5 * 10 ^ 18) : limbs.map int64 = limbs :=
  (List.map_congr_left fun n member => int64_eq (small n member)).trans (List.map_id limbs)

def evenFactors (f : FieldElement) : List Int :=
  [limb f.limbs 0, 2 * limb f.limbs 1, limb f.limbs 2, 2 * limb f.limbs 3, limb f.limbs 4, 2 * limb f.limbs 5,
    limb f.limbs 6, 2 * limb f.limbs 7, limb f.limbs 8, 2 * limb f.limbs 9]

def oddFactors (f : FieldElement) : List Int :=
  [limb f.limbs 0, limb f.limbs 1, limb f.limbs 2, limb f.limbs 3, limb f.limbs 4, limb f.limbs 5,
    limb f.limbs 6, limb f.limbs 7, limb f.limbs 8, limb f.limbs 9]

def rightFactors (g : FieldElement) : List Int :=
  [limb g.limbs 9, limb g.limbs 8, limb g.limbs 7, limb g.limbs 6, limb g.limbs 5, limb g.limbs 4,
    limb g.limbs 3, limb g.limbs 2, limb g.limbs 1, limb g.limbs 0, 19 * limb g.limbs 9, 19 * limb g.limbs 8,
    19 * limb g.limbs 7, 19 * limb g.limbs 6, 19 * limb g.limbs 5, 19 * limb g.limbs 4, 19 * limb g.limbs 3,
    19 * limb g.limbs 2, 19 * limb g.limbs 1]

theorem limbs_eq_oddFactors (f : FieldElement) : f.limbs = oddFactors f := by
  have listed := eq_map_limb f.limbs
  rw [f.size] at listed
  exact listed

theorem value_products (f g : FieldElement) :
    value weights (sums (evenFactors f) (oddFactors f) (rightFactors g)) ≡
      value weights f.limbs * value weights g.limbs [ZMOD p] := by
  rw [limbs_eq_oddFactors f, limbs_eq_oddFactors g]
  exact value_sums _ _ _ _ _ _ _ _ _ _ _ _ _ _ _ _ _ _ _ _

def Loose (f : FieldElement) : Prop := ∀ n, |limb f.limbs n| ≤ 3 * limb sizes n

theorem Holds.loose {k : Nat} {f : FieldElement} {x : GF} (fits : k ≤ 3) (holds : Holds k f x) : Loose f :=
  (holds.mono fits).small

theorem Loose.single {f : FieldElement} (loose : Loose f) (n : Nat) : |limb f.limbs n| ≤ 110729625 :=
  (loose n).trans (size_le le_rfl n)

/-- The odd limbs are half as large. -/
theorem Loose.double {f : FieldElement} (loose : Loose f) {n : Nat} (odd : limb sizes n = 18454937) :
    |2 * limb f.limbs n| ≤ 110729625 := by
  have bound := loose n
  rw [odd, abs_le] at bound
  rw [abs_le]
  omega

theorem Loose.nineteen {f : FieldElement} (loose : Loose f) (n : Nat) : |19 * limb f.limbs n| ≤ 2103862875 := by
  have bound := loose.single n
  rw [abs_le] at bound ⊢
  omega

theorem Loose.sums_small {f g : FieldElement} (left : Loose f) (right : Loose g) :
    ∀ h ∈ sums (evenFactors f) (oddFactors f) (rightFactors g), |h| ≤ 25 * 10 ^ 17 := by
  have plain (n : Nat) : |limb g.limbs n| ≤ 2103862875 := (right.single n).trans (by norm_num)
  refine FieldLimbs.sums_small rfl rfl ?_ ?_ ?_
  · simp only [evenFactors, List.forall_mem_cons, List.not_mem_nil, false_implies, implies_true, and_true,
      left.single, left.double (n := 1) rfl, left.double (n := 3) rfl, left.double (n := 5) rfl,
      left.double (n := 7) rfl, left.double (n := 9) rfl]
  · simp only [oddFactors, List.forall_mem_cons, List.not_mem_nil, false_implies, implies_true, and_true,
      left.single]
  · simp only [rightFactors, List.forall_mem_cons, List.not_mem_nil, false_implies, implies_true, and_true,
      plain, right.nineteen]

theorem Loose.products_eq {f g : FieldElement} (left : Loose f) (right : Loose g) :
    products f g = sums (evenFactors f) (oddFactors f) (rightFactors g) := by
  have doubled {n : Nat} (odd : limb sizes n = 18454937) : int32 (2 * limb f.limbs n) = 2 * limb f.limbs n :=
    int32_eq (lt_of_le_of_lt (left.double odd) (by norm_num))
  have scaled (n : Nat) : int32 (19 * limb g.limbs n) = 19 * limb g.limbs n :=
    int32_eq (lt_of_le_of_lt (right.nineteen n) (by norm_num))
  simp only [products, scaled, doubled (n := 1) rfl, doubled (n := 3) rfl, doubled (n := 5) rfl,
    doubled (n := 7) rfl, doubled (n := 9) rfl]
  exact map_int64 fun h member => (left.sums_small right h member).trans (by norm_num)

theorem feMul_holds {i j : Nat} {f g : FieldElement} {x y : GF} (left_fits : i ≤ 3) (right_fits : j ≤ 3)
    (first : Holds i f x) (second : Holds j g y) : Holds 1 (feMul f g) (x * y) := by
  have left := first.loose left_fits
  have right := second.loose right_fits
  have combined := feCombine_holds (h := products f g) rfl (by
    rw [left.products_eq right]
    exact fun h member => (left.sums_small right h member).trans (by norm_num))
  have product : ((value weights (products f g) : Int) : GF) = x * y := by
    rw [left.products_eq right, intCast_eq (value_products f g), Int.cast_mul, first.2, second.2]
  rw [product] at combined
  exact combined

/-- The sums of `feSquare` are those of `FeMul` with both factors the same. -/
theorem Loose.squareProducts_eq {f : FieldElement} (loose : Loose f) :
    squareProducts f = sums (evenFactors f) (oddFactors f) (rightFactors f) := by
  have doubled (n : Nat) : int32 (2 * limb f.limbs n) = 2 * limb f.limbs n := by
    have bound := loose.single n
    rw [abs_le] at bound
    exact int32_eq (abs_lt.mpr (by omega))
  have scaled (k n : Nat) (small : k ≤ 38) : int64 (k * limb f.limbs n) = k * limb f.limbs n := by
    refine int64_eq ?_
    rw [abs_mul]
    calc |(k : Int)| * |limb f.limbs n| ≤ 38 * 110729625 :=
          mul_le_mul (by rw [Nat.abs_cast]; exact_mod_cast small) (loose.single n) (abs_nonneg _) (by norm_num)
      _ ≤ 5 * 10 ^ 18 := by norm_num
  have same : squareProducts f = (sums (evenFactors f) (oddFactors f) (rightFactors f)).map int64 := by
    have nineteen (n : Nat) := scaled 19 n (by decide)
    have thirtyeight (n : Nat) := scaled 38 n (by decide)
    push_cast at nineteen thirtyeight
    simp only [squareProducts, doubled, nineteen, thirtyeight, sums, evenFactors, oddFactors, rightFactors, dot,
      List.drop_succ_cons, List.drop_zero, List.zipWith_cons_cons, List.zipWith_nil_left,
      List.zipWith_nil_right, List.sum_cons, List.sum_nil, List.map_cons, List.map_nil]
    repeat refine congrArg₂ List.cons (congrArg int64 (by ring)) ?_
    rfl
  rw [same]
  exact map_int64 fun h member => (loose.sums_small loose h member).trans (by norm_num)

theorem feSquare_holds {i : Nat} {f : FieldElement} {x : GF} (fits : i ≤ 3) (holds : Holds i f x) :
    Holds 1 (feSquare f) (x ^ 2) := by
  have loose := holds.loose fits
  have combined := feCombine_holds (h := squareProducts f) rfl (by
    rw [loose.squareProducts_eq]
    exact fun h member => (loose.sums_small loose h member).trans (by norm_num))
  have product : ((value weights (squareProducts f) : Int) : GF) = x ^ 2 := by
    rw [loose.squareProducts_eq, intCast_eq (value_products f f), Int.cast_mul, holds.2, sq]
  rw [product] at combined
  exact combined

theorem feSquare2_holds {i : Nat} {f : FieldElement} {x : GF} (fits : i ≤ 3) (holds : Holds i f x) :
    Holds 1 (feSquare2 f) (2 * x ^ 2) := by
  have loose := holds.loose fits
  have small (h : Int) (member : h ∈ squareProducts f) : |h + h| ≤ 5 * 10 ^ 18 := by
    rw [loose.squareProducts_eq] at member
    have bound := loose.sums_small loose h member
    rw [abs_le] at bound ⊢
    omega
  have twice : ((squareProducts f).map fun h => int64 (h + h)) = (squareProducts f).map fun h => h + h :=
    List.map_congr_left fun h member => int64_eq (small h member)
  have combined := feCombine_holds (h := (squareProducts f).map fun h => int64 (h + h)) rfl (by
    rw [twice]
    intro n member
    obtain ⟨h, inside, rfl⟩ := List.mem_map.mp member
    exact small h inside)
  have product : ((value weights ((squareProducts f).map fun h => int64 (h + h)) : Int) : GF) = 2 * x ^ 2 := by
    have sum := value_linear weights 2 0 (squareProducts f) (squareProducts f)
      ((squareProducts f).map fun h => h + h) rfl rfl fun i => by rw [limb_map _ rfl]; ring
    rw [twice, sum, loose.squareProducts_eq]
    push_cast
    rw [intCast_eq (value_products f f), Int.cast_mul, holds.2]
    ring
  rw [product] at combined
  exact combined

end Carrier.FieldLimbs
