import Carrier.FieldLimbs
import Carrier.PointEncoding

/-! Field elements as bytes: `FeFromBytes` takes any 32 bytes and ignores the highest bit,
`FeToBytes` writes the one number below `2^255 - 19` that the element stands for. With them
`fe.go` is an implementation of the field arithmetic. -/
namespace Carrier.FieldBytes

open GoRuntime FieldOps LittleEndian LimbProgram FieldLimbs Curve25519

/-- `h0` to `h9` of `FeFromBytes`. -/
def fromBytesLimbs (src : Bytes) : List Int :=
  [(load4 src : Nat), (load3 (src.drop 4) <<< 6 : Nat), (load3 (src.drop 7) <<< 5 : Nat),
    (load3 (src.drop 10) <<< 3 : Nat), (load3 (src.drop 13) <<< 2 : Nat), (load4 (src.drop 16) : Nat),
    (load3 (src.drop 20) <<< 7 : Nat), (load3 (src.drop 23) <<< 5 : Nat), (load3 (src.drop 26) <<< 4 : Nat),
    ((load3 (src.drop 29) &&& 8388607) <<< 2 : Nat)]

def feFromBytes (src : Bytes) : FieldElement := feCombine (fromBytesLimbs src) rfl

def widths : List Nat := [26, 25, 26, 25, 26, 25, 26, 25, 26, 25]

/-- `q = (h[i] + q) >> width` along the limbs. -/
def quotient : (q : Int) → (limbs : List Int) → (widths : List Nat) → Int
  | q, h :: limbs, width :: widths => quotient (int32 (h + q) / 2 ^ width) limbs widths
  | q, _, _ => q

def reduction (h : List Int) : Int :=
  quotient (int32 (int32 (19 * limb h 9) + 2 ^ 24) / 2 ^ 25) h widths

/-- The carries of `FeToBytes`; the one out of the highest limb goes to a limb of its own, which is
dropped. -/
def toBytesSteps : List Step :=
  [.carry 0 1 26 0 1, .carry 1 2 25 0 1, .carry 2 3 26 0 1, .carry 3 4 25 0 1, .carry 4 5 26 0 1,
    .carry 5 6 25 0 1, .carry 6 7 26 0 1, .carry 7 8 25 0 1, .carry 8 9 26 0 1, .carry 9 10 25 0 1]

def toBytesPieces : List Piece :=
  [.inside 0 0, .inside 0 8, .inside 0 16, .across 0 24 2, .inside 1 6, .inside 1 14, .across 1 22 3,
    .inside 2 5, .inside 2 13, .across 2 21 5, .inside 3 3, .inside 3 11, .across 3 19 6, .inside 4 2,
    .inside 4 10, .inside 4 18, .inside 5 0, .inside 5 8, .inside 5 16, .across 5 24 1, .inside 6 7,
    .inside 6 15, .across 6 23 3, .inside 7 5, .inside 7 13, .across 7 21 4, .inside 8 4, .inside 8 12,
    .across 8 20 6, .inside 9 2, .inside 9 10, .inside 9 18]

/-- The limbs `FeToBytes` writes out, which are also what it leaves in `h`. -/
def toBytesLimbs (h : List Int) : List Int :=
  let h := h.set 0 (int32 (limb h 0 + int32 (19 * reduction h)))
  (run 32 toBytesSteps (h ++ [0])).take 10

def feToBytes (h : FieldElement) : Bytes × FieldElement :=
  (toBytesPieces.map (Piece.byte 32 (toBytesLimbs h.limbs)),
    ⟨toBytesLimbs h.limbs, by simp [toBytesLimbs, run_length, h.size]⟩)

theorem fromBytesLimbs_spec {src : Bytes} (size : src.length = 32) :
    (∀ h ∈ fromBytesLimbs src, |h| ≤ 5 * 10 ^ 18) ∧
      value weights (fromBytesLimbs src) = ((number src % 2 ^ 255 : Nat) : Int) := by
  have ⟨l0, s0⟩ := load4_split src
  have ⟨l1, s1⟩ := load3_split (src.drop 4)
  have ⟨l2, s2⟩ := load3_split (src.drop 7)
  have ⟨l3, s3⟩ := load3_split (src.drop 10)
  have ⟨l4, s4⟩ := load3_split (src.drop 13)
  have ⟨l5, s5⟩ := load4_split (src.drop 16)
  have ⟨l6, s6⟩ := load3_split (src.drop 20)
  have ⟨l7, s7⟩ := load3_split (src.drop 23)
  have ⟨l8, s8⟩ := load3_split (src.drop 26)
  have ⟨l9, s9⟩ := load3_split (src.drop 29)
  have last : number (src.drop 32) = 0 := by rw [List.drop_of_length_le size.le, number]
  have masked : load3 (src.drop 29) &&& 8388607 = load3 (src.drop 29) % 2 ^ 23 :=
    Nat.and_two_pow_sub_one_eq_mod _ 23
  simp only [List.drop_drop, Nat.reduceAdd] at s1 s2 s3 s4 s5 s6 s7 s8 s9
  simp only [fromBytesLimbs, masked, Nat.shiftLeft_eq]
  constructor
  · simp only [List.forall_mem_cons, List.not_mem_nil, false_implies, implies_true, Nat.abs_cast, and_true]
    omega
  · let low := load4 src + 2 ^ 32 * load3 (src.drop 4) + 2 ^ 56 * load3 (src.drop 7) +
      2 ^ 80 * load3 (src.drop 10) + 2 ^ 104 * load3 (src.drop 13) + 2 ^ 128 * load4 (src.drop 16) +
      2 ^ 160 * load3 (src.drop 20) + 2 ^ 184 * load3 (src.drop 23) + 2 ^ 208 * load3 (src.drop 26)
    have whole : number src = low + 2 ^ 232 * load3 (src.drop 29) := by omega
    have small : low < 2 ^ 232 := by omega
    have reduced : number src % 2 ^ 255 = low + 2 ^ 232 * (load3 (src.drop 29) % 2 ^ 23) := by
      rw [whole, show (2 : Nat) ^ 255 = 2 ^ 232 * 2 ^ 23 by norm_num, Nat.mod_mul, Nat.add_mul_mod_self_left,
        Nat.mod_eq_of_lt small, Nat.add_mul_div_left _ _ (by norm_num), Nat.div_eq_of_lt small, Nat.zero_add]
    rw [reduced]
    simp only [value, weights, low]
    push_cast
    ring

theorem feFromBytes_holds {src : Bytes} (size : src.length = 32) :
    Holds 1 (feFromBytes src) ((number src % 2 ^ 255 : Nat) : GF) := by
  obtain ⟨small, same⟩ := fromBytesLimbs_spec size
  have combined := feCombine_holds (h := fromBytesLimbs src) rfl small
  rw [same, Int.cast_natCast] at combined
  exact combined

theorem quotient_eq (widths : List Nat) (large : ∀ width ∈ widths, 25 ≤ width) :
    ∀ {limbs : List Int} {q : Int}, limbs.length = widths.length → (∀ h ∈ limbs, |h| ≤ 2 ^ 27) → |q| ≤ 64 →
      |quotient q limbs widths| ≤ 64 ∧
      quotient q limbs widths = (value (weightsOf 1 widths) limbs + q) / 2 ^ widths.sum := by
  induction widths with
  | nil =>
      intro limbs q same small bound
      rw [List.eq_nil_of_length_eq_zero same]
      simpa [quotient, value, weightsOf] using bound
  | cons width widths ih =>
      intro limbs q same small bound
      obtain ⟨n, limbs, rfl⟩ := List.exists_cons_of_length_eq_add_one same
      obtain ⟨n_low, n_high⟩ := abs_le.mp (small n List.mem_cons_self)
      obtain ⟨q_low, q_high⟩ := abs_le.mp bound
      have power : (2 : Int) ^ 25 ≤ 2 ^ width := pow_le_pow_right₀ (by decide) (large width List.mem_cons_self)
      have positive : (0 : Int) < 2 ^ width := by positivity
      have fits : int32 (n + q) = n + q := int32_eq (abs_lt.mpr (by omega))
      have next : |(n + q) / 2 ^ width| ≤ 64 := by
        refine abs_le.mpr ⟨Int.le_ediv_of_mul_le positive ?_, Int.ediv_le_of_le_mul positive ?_⟩ <;> omega
      obtain ⟨last, exactly⟩ := ih (fun other member => large other (List.mem_cons_of_mem _ member))
        (Nat.succ.inj same) (fun other member => small other (List.mem_cons_of_mem _ member)) next
      rw [quotient, fits]
      refine ⟨last, ?_⟩
      have shifted : 1 * n + value (weightsOf (1 * 2 ^ width) widths) limbs + q =
          n + q + 2 ^ width * value (weightsOf 1 widths) limbs := by
        rw [mul_comm 1 (2 ^ width : Int), value_weightsOf]
        ring
      rw [exactly, weightsOf, value, shifted, List.sum_cons, pow_add, ← Int.ediv_ediv_of_nonneg positive.le,
        Int.add_mul_ediv_left _ _ positive.ne', add_comm]

/-- With `q` that close to `h / 2^255`, it is the quotient by `2^255 - 19`. -/
theorem estimate_exact {h rest top first q : Int} (split : h = rest + 2 ^ 230 * top) (small : |rest| ≤ 2 ^ 231)
    (start : first = (19 * top + 2 ^ 24) / 2 ^ 25) (bound : |first| ≤ 64) (exactly : q = (h + first) / 2 ^ 255) :
    0 ≤ h - (2 ^ 255 - 19) * q ∧ h - (2 ^ 255 - 19) * q < 2 ^ 255 - 19 := by
  obtain ⟨rest_low, rest_high⟩ := abs_le.mp small
  obtain ⟨first_low, first_high⟩ := abs_le.mp bound
  omega

theorem weights_eq : weights = weightsOf 1 widths := by decide

theorem value_split {f : FieldElement} (loose : Loose f) :
    |value weights f.limbs - 2 ^ 230 * limb f.limbs 9| ≤ 2 ^ 231 := by
  have single (n : Nat) := abs_le.mp (loose.single n)
  have b0 := single 0
  have b1 := single 1
  have b2 := single 2
  have b3 := single 3
  have b4 := single 4
  have b5 := single 5
  have b6 := single 6
  have b7 := single 7
  have b8 := single 8
  have listed : value weights f.limbs = value weights (oddFactors f) := congrArg _ (limbs_eq_oddFactors f)
  rw [listed, abs_le]
  simp only [value, weights, oddFactors]
  omega

theorem first_estimate {n : Int} (small : |n| ≤ 55364811) :
    int32 (int32 (19 * n) + 2 ^ 24) / 2 ^ 25 = (19 * n + 2 ^ 24) / 2 ^ 25 ∧ |(19 * n + 2 ^ 24) / 2 ^ 25| ≤ 64 := by
  obtain ⟨low, high⟩ := abs_le.mp small
  rw [int32_eq (abs_lt.mpr (by omega : _ ∧ 19 * n < 2 ^ 31)), int32_eq (abs_lt.mpr (by omega))]
  exact ⟨rfl, abs_le.mpr (by omega)⟩

theorem reduction_spec {f : FieldElement} (loose : Loose f) :
    |reduction f.limbs| ≤ 64 ∧ 0 ≤ value weights f.limbs - p * reduction f.limbs ∧
      value weights f.limbs - p * reduction f.limbs < p := by
  obtain ⟨fits, bound⟩ := first_estimate (loose 9)
  have small (n : Int) (member : n ∈ f.limbs) : |n| ≤ 2 ^ 27 := by
    obtain ⟨i, inside, rfl⟩ := List.getElem_of_mem member
    have single := loose.single i
    rw [limb, List.getD_eq_getElem _ _ inside] at single
    exact single.trans (by norm_num)
  obtain ⟨last, exactly⟩ := quotient_eq widths (by decide) f.size small bound
  have prime : (p : Int) = 2 ^ 255 - 19 := by norm_num [p]
  unfold reduction
  rw [fits, prime]
  rw [← weights_eq] at exactly
  exact ⟨last, estimate_exact (sub_add_cancel _ _).symm (value_split loose) rfl bound exactly⟩

theorem toBytes_passes :
    Passes 32 0 (weights ++ [2 ^ 255]) toBytesSteps
      ((bounds 3).set 0 (-110730841, 110730841) ++ [(0, 0)])
      (widths.map (fun width => (0, 2 ^ width - 1)) ++ [(-2 ^ 30, 2 ^ 30)]) := by
  decide

theorem toBytesLimbs_spec {f : FieldElement} (loose : Loose f) :
    Within (widths.map fun width => (0, 2 ^ width - 1)) (toBytesLimbs f.limbs) ∧
      value weights (toBytesLimbs f.limbs) = value weights f.limbs - p * reduction f.limbs := by
  obtain ⟨bound, low, high⟩ := reduction_spec loose
  have first := loose.single 0
  rw [abs_le] at bound first
  have fits : int32 (limb f.limbs 0 + int32 (19 * reduction f.limbs)) =
      limb f.limbs 0 + 19 * reduction f.limbs := by
    rw [int32_eq (abs_lt.mpr (by omega : _ ∧ 19 * reduction f.limbs < 2 ^ 31)), int32_eq (abs_lt.mpr (by omega))]
  have ranged : Within (bounds 3) f.limbs := within_bounds f.size loose
  have start : Within ((bounds 3).set 0 (-110730841, 110730841) ++ [(0, 0)])
      (f.limbs.set 0 (limb f.limbs 0 + 19 * reduction f.limbs) ++ [0]) := by
    refine within_append (ranged.set (by decide) ?_) ⟨rfl, fun i => ?_⟩
    · constructor <;> dsimp only <;> omega
    · cases i <;> exact ⟨le_refl _, le_refl _⟩
  obtain ⟨within, same⟩ := toBytes_passes.sound start
  rw [Int.ModEq, Int.emod_zero, Int.emod_zero, value_append weights _ _ (by rw [List.length_set, f.size]; rfl),
    value_set _ _ _ _ (by rw [f.size]; decide)] at same
  unfold toBytesLimbs
  dsimp only
  rw [fits]
  generalize run 32 toBytesSteps (f.limbs.set 0 (limb f.limbs 0 + 19 * reduction f.limbs) ++ [0]) = out at *
  have reduced : Within (widths.map fun width => (0, 2 ^ width - 1)) (out.take 10) := within_take within 10
  have fills := fills_of_within reduced
  have whole : value (weights ++ [2 ^ 255]) out = value weights (out.take 10) + 2 ^ 255 * limb out 10 := by
    have parts := take_append_limb out (k := 10) within.1.symm
    conv_lhs => rw [← parts]
    rw [value_append weights _ _ (by rw [List.length_take, ← within.1]; rfl)]
    simp [value]
  have small := packed_lt fills
  have plain := value_packed fills 1
  rw [← weights_eq, one_mul] at plain
  rw [whole, plain] at same
  refine ⟨reduced, ?_⟩
  rw [plain]
  have prime : (p : Int) = 2 ^ 255 - 19 := by norm_num [p]
  rw [prime] at low high ⊢
  have carried : value [2 ^ 255] [0] = 0 := rfl
  have unit : limb weights 0 = 1 := rfl
  rw [carried, unit] at same
  have total : widths.sum = 255 := rfl
  rw [total] at small
  -- both sides lie in `[0, 2^255)`, and they differ by a multiple of `2^255`
  omega

def byteWidths : List Nat := [26, 25, 26, 25, 26, 25, 26, 25, 26, 26]

/-- `FeToBytes` writes the number below `p` and leaves that number in its argument. -/
theorem feToBytes_spec {k : Nat} {f : FieldElement} {x : GF} (fits : k ≤ 3) (holds : Holds k f x) :
    (feToBytes f).1 = bytesOf 32 x.val ∧ Holds 2 (feToBytes f).2 x := by
  have loose := holds.loose fits
  obtain ⟨within, same⟩ := toBytesLimbs_spec loose
  obtain ⟨_, low, high⟩ := reduction_spec loose
  rw [← same] at low high
  have roomy : Covers (byteWidths.map fun width => (0, 2 ^ width - 1))
      (widths.map fun width => (0, 2 ^ width - 1)) := by decide
  have fills := fills_of_within (within.mono roomy)
  have plain := value_packed fills 1
  rw [show weightsOf 1 byteWidths = weights by decide, one_mul] at plain
  have stands : ((value weights (toBytesLimbs f.limbs) : Int) : GF) = x := by
    rw [same, ← holds.2]
    push_cast
    rw [ZMod.natCast_self, zero_mul, sub_zero]
  have left : Within (bounds 2) (toBytesLimbs f.limbs) := within.mono (by decide)
  have number : x.val = packed byteWidths (toBytesLimbs f.limbs) := by
    rw [← stands, plain, Int.cast_natCast, ZMod.val_natCast_of_lt]
    rw [plain] at high
    exact_mod_cast high
  have packs : Packs byteWidths 0 toBytesPieces := by decide
  have written := packs.bytes (by decide : 8 ≤ 32) fills
  rw [pow_zero, Nat.div_one, ← number, show toBytesPieces.length = 32 from rfl] at written
  rw [feToBytes]
  refine ⟨written, ?_⟩
  dsimp only [Holds]
  exact ⟨left, stands⟩

def d : FieldElement :=
  ⟨[-10913610, 13857413, -15372611, 6949391, 114729, -8787816, -6275908, -3247719, -18696448, -12055116], rfl⟩

def d2 : FieldElement :=
  ⟨[-21827239, -5839606, -30745221, 13898782, 229458, 15978800, -12551817, -6495438, 29715968, 9444199], rfl⟩

def sqrtM1 : FieldElement :=
  ⟨[-32595792, -7943725, 9377950, 3500415, 12389472, -272473, -25146209, -2005654, 326686, 11406482], rfl⟩

instance : Arithmetic FieldElement where
  feZero := feZero
  feOne := feOne
  feAdd := feAdd
  feSub := feSub
  feNeg := feNeg
  feMul := feMul
  feSquare := feSquare
  feSquare2 := feSquare2
  feCMove := feCMove
  feToBytes := feToBytes
  feFromBytes := feFromBytes
  d := d
  d2 := d2
  sqrtM1 := sqrtM1

theorem constant_holds {f : FieldElement} {n : Nat} (small : ∀ i < 10, |limb f.limbs i| ≤ limb sizes i)
    (same : value weights f.limbs % p = n % p) : Holds 1 f (n : GF) := by
  refine ⟨within_bounds f.size fun i => ?_, ?_⟩
  · by_cases inside : i < 10
    · rw [Nat.cast_one, one_mul]
      exact small i inside
    · have outside : limb f.limbs i = 0 := List.getD_eq_default _ _ (by rw [f.size]; omega)
      rw [outside, abs_zero]
      exact mul_nonneg (by decide) (sizes_bounds i).1
  · rw [intCast_eq same, Int.cast_natCast]

theorem laws : Laws curve Holds where
  mono := Holds.mono
  zero := by exact_mod_cast constant_holds (n := 0) (by decide) (by decide)
  one := by exact_mod_cast constant_holds (n := 1) (by decide) (by decide)
  add := feAdd_holds
  sub := feSub_holds
  neg := feNeg_holds
  mul := feMul_holds
  square := feSquare_holds
  square2 := feSquare2_holds
  keep := feCMove_keep
  move := feCMove_move
  d := constant_holds (n := dValue) (by decide) (by decide)
  d2 := by exact_mod_cast constant_holds (n := 2 * dValue) (by decide) (by decide)
  sqrtM1 := constant_holds (n := sqrtM1Value) (by decide) (by decide)

theorem byteLaws : PointEncoding.ByteLaws Holds where
  toBytes := feToBytes_spec
  fromBytes := feFromBytes_holds

end Carrier.FieldBytes
