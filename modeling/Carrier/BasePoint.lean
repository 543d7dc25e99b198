import Carrier.BaseTables
import Carrier.LimbArithmetic

/-! That the tables of `const.go` hold what `group.go` takes them for: multiples of the base point. Each entry
is compared with the sum of two earlier ones, and the first of a row with a multiple of the last of the row
before, with the denominators multiplied out. With these tables the two multiplications of `group.go` are
multiplications in the group of the curve, from limbs to bytes. -/
namespace Carrier.BasePoint

open GoRuntime TwistedEdwards GroupElement PointEncoding LimbProgram FieldLimbs FieldBytes Curve25519
open LimbArithmetic ScalarRecoding ScalarMult

abbrev Entry := PreComputedGroupElement FieldElement

/-! Numbers modulo `p`. -/

def residue (f : FieldElement) : Nat := (value weights f.limbs % p).toNat

def minus (m n : Nat) : Nat := m + (p - n % p)

theorem residue_cast (f : FieldElement) : ((residue f : Nat) : GF) = ((value weights f.limbs : Int) : GF) := by
  have nonneg : 0 ≤ value weights f.limbs % p := Int.emod_nonneg _ (by decide)
  rw [residue, ← Int.cast_natCast, Int.toNat_of_nonneg nonneg, ZMod.intCast_mod]

@[simp] theorem minus_cast (m n : Nat) : ((minus m n : Nat) : GF) = m - n := by
  have le : n % p ≤ p := (Nat.mod_lt n (by decide)).le
  rw [minus, Nat.cast_add, Nat.cast_sub le, ZMod.natCast_self, ZMod.natCast_mod]
  ring

/-! What is checked of an entry. -/

/-- Twice the coordinates of the point an entry stands for. -/
def twiceX (q : Entry) : Nat := minus (residue q.yPlusX) (residue q.yMinusX)

def twiceY (q : Entry) : Nat := residue q.yPlusX + residue q.yMinusX

def reduced : (sizes limbs : List Int) → Bool
  | size :: sizes, limb :: limbs => limb.natAbs ≤ size.natAbs && reduced sizes limbs
  | _, _ => true

/-- The limbs are reduced and the third element is the product of the coordinates it should be. -/
def Sound (q : Entry) : Prop :=
  (reduced sizes q.yPlusX.limbs ∧ reduced sizes q.yMinusX.limbs ∧ reduced sizes q.xy2d.limbs) ∧
    2 * residue q.xy2d % p = dValue * twiceX q * twiceY q % p

instance (q : Entry) : Decidable (Sound q) := inferInstanceAs (Decidable (_ ∧ _))

/-- The addition law, with the denominators multiplied out. -/
def Sums (left right sum : Entry) : Prop :=
  let cross := dValue * (twiceX left * twiceX right * twiceY left * twiceY right)
  twiceX sum * (16 + cross) % p = 8 * (twiceX left * twiceY right + twiceY left * twiceX right) % p ∧
    twiceY sum * minus 16 cross % p = 8 * (twiceY left * twiceY right + twiceX left * twiceX right) % p

instance (left right sum : Entry) : Decidable (Sums left right sum) := inferInstanceAs (Decidable (_ ∧ _))

/-- Each entry is the one before it and `step` more. -/
def Progression (step : Entry) : Entry → List Entry → Prop
  | _, [] => True
  | last, next :: rest => Sound next ∧ Sums last step next ∧ Progression step next rest

instance Progression.decidable (step : Entry) :
    (last : Entry) → (rest : List Entry) → Decidable (Progression step last rest)
  | _, [] => inferInstanceAs (Decidable True)
  | _, next :: rest =>
      have := Progression.decidable step next rest
      inferInstanceAs (Decidable (_ ∧ _ ∧ Progression step next rest))

/-- A point by the ratios of two numbers to a third one. -/
structure Ratio where
  X : Nat
  Y : Nat
  Z : Nat

def Ratio.double (q : Ratio) : Ratio :=
  let low := minus (q.Y * q.Y) (q.X * q.X)
  let high := minus (2 * (q.Z * q.Z)) low
  ⟨2 * q.X * q.Y * high % p, (q.Y * q.Y + q.X * q.X) * low % p, low * high % p⟩

def Ratio.doubles : Nat → Ratio → Ratio
  | 0, q => q
  | n + 1, q => doubles n q.double

/-- The next entry is 32 times the last one. -/
def Shifted (last next : Entry) : Prop :=
  let q := Ratio.doubles 5 ⟨twiceX last, twiceY last, 2⟩
  twiceX next * q.Z % p = 2 * q.X % p ∧ twiceY next * q.Z % p = 2 * q.Y % p

instance (last : Entry) : DecidablePred (Shifted last) := fun _ => inferInstanceAs (Decidable (_ ∧ _))

def Begins (first : Entry) : Prop :=
  twiceX first % p = 2 * baseX % p ∧ twiceY first % p = 2 * baseY % p

instance : DecidablePred Begins := fun _ => inferInstanceAs (Decidable (_ ∧ _))

/-- Rows of eight, of which the first one starts in the given way. -/
def Rows (Starts : Entry → Prop) : List (List Entry) → Prop
  | [] => True
  | [] :: _ => False
  | (unit :: row) :: rest =>
      (Sound unit ∧ Starts unit ∧ row.length = 7 ∧ Progression unit unit row) ∧
        Rows (Shifted (row.getLastD unit)) rest

instance Rows.decidable (Starts : Entry → Prop) [DecidablePred Starts] :
    (rows : List (List Entry)) → Decidable (Rows Starts rows)
  | [] => inferInstanceAs (Decidable True)
  | [] :: _ => inferInstanceAs (Decidable False)
  | (unit :: row) :: rest =>
      have := Rows.decidable (Shifted (row.getLastD unit)) rest
      inferInstanceAs (Decidable (_ ∧ Rows (Shifted (row.getLastD unit)) rest))

/-! What the checks say about points. -/

theorem reduced_limb : ∀ {sizes limbs : List Int}, reduced sizes limbs = true → limbs.length = sizes.length →
    ∀ i, |limb limbs i| ≤ |limb sizes i|
  | [], [], _, _, i => by simp [limb]
  | size :: sizes, first :: limbs, fits, same, i => by
      simp only [reduced, Bool.and_eq_true, decide_eq_true_eq] at fits
      cases i with
      | zero =>
          change |first| ≤ |size|
          rw [Int.abs_eq_natAbs, Int.abs_eq_natAbs]
          exact_mod_cast fits.1
      | succ i => exact reduced_limb fits.2 (Nat.succ.inj same) i

theorem holds_of_reduced {f : FieldElement} (fits : reduced sizes f.limbs = true) {x : GF}
    (same : ((residue f : Nat) : GF) = x) : Holds 1 f x := by
  refine holds_one_iff.mpr ⟨fun i => ?_, (residue_cast f).symm.trans same⟩
  have small := reduced_limb fits f.size i
  rwa [abs_of_nonneg (sizes_bounds i).1] at small

theorem two_ne : (2 : GF) ≠ 0 := curve.two_ne_zero

def Coordinates (q : Entry) (P : Point curve) : Prop :=
  (twiceX q : GF) = P.x + P.x ∧ (twiceY q : GF) = P.y + P.y

theorem Coordinates.of_stands {q : Entry} {P : Point curve} (stands : q.Stands Holds P) : Coordinates q P := by
  obtain ⟨plus, minus, _⟩ := stands
  have plusCast : ((residue q.yPlusX : Nat) : GF) = P.y + P.x := (residue_cast _).trans plus.2
  have minusCast : ((residue q.yMinusX : Nat) : GF) = P.y - P.x := (residue_cast _).trans minus.2
  constructor
  · rw [twiceX, minus_cast, plusCast, minusCast]
    ring
  · rw [twiceY, Nat.cast_add, plusCast, minusCast]
    ring

theorem Coordinates.stands {q : Entry} {P : Point curve} (coordinates : Coordinates q P) (sound : Sound q) :
    q.Stands Holds P := by
  obtain ⟨x, y⟩ := coordinates
  obtain ⟨⟨plusFits, minusFits, productFits⟩, product⟩ := sound
  have productCast := natCast_eq product
  push_cast at productCast
  rw [x, y, show (dValue : GF) = curve.d from rfl] at productCast
  rw [twiceX, minus_cast] at x
  rw [twiceY, Nat.cast_add] at y
  refine ⟨holds_of_reduced plusFits (mul_left_cancel₀ two_ne ?_),
    holds_of_reduced minusFits (mul_left_cancel₀ two_ne ?_),
    holds_of_reduced productFits (mul_left_cancel₀ two_ne ?_)⟩
  · linear_combination x + y
  · linear_combination y - x
  · linear_combination productCast

theorem sixteen_ne : (16 : GF) ≠ 0 := by
  have power : (16 : GF) = 2 ^ 4 := by norm_num
  rw [power]
  exact pow_ne_zero 4 two_ne

theorem Sums.coordinates {left right sum : Entry} {P Q : Point curve} (sums : Sums left right sum)
    (first : Coordinates left P) (second : Coordinates right Q) : Coordinates sum (P + Q) := by
  obtain ⟨sumX, sumY⟩ := sums
  have castX := natCast_eq sumX
  have castY := natCast_eq sumY
  push_cast [minus_cast, first.1, first.2, second.1, second.2] at castX castY
  have lawX := P.add_x_mul Q
  have lawY := P.add_y_mul Q
  rw [show (dValue : GF) = curve.d from rfl] at castX castY
  unfold Point.cross Point.topX at lawX
  unfold Point.cross Point.topY at lawY
  constructor
  · refine mul_right_cancel₀ (mul_ne_zero sixteen_ne (P.add_ne Q)) ?_
    unfold Point.cross
    linear_combination castX - 32 * lawX
  · refine mul_right_cancel₀ (mul_ne_zero sixteen_ne (P.sub_ne Q)) ?_
    unfold Point.cross
    linear_combination castY - 32 * lawY

def Ratio.Of (q : Ratio) (P : Point curve) : Prop :=
  (q.Z : GF) ≠ 0 ∧ (q.X : GF) = P.x * q.Z ∧ (q.Y : GF) = P.y * q.Z

theorem Ratio.Of.double {q : Ratio} {P : Point curve} (of : q.Of P) : q.double.Of (P + P) := by
  obtain ⟨nonzero, x, y⟩ := of
  have on : P.y ^ 2 - P.x ^ 2 = 1 + curve.d * P.x ^ 2 * P.y ^ 2 := P.on
  have lawX := P.add_x_mul P
  have lawY := P.add_y_mul P
  -- on the curve the two denominators are read off `X`, `Y` and `Z`
  have low : ((minus (q.Y * q.Y) (q.X * q.X) : Nat) : GF) = (1 + P.cross P) * q.Z ^ 2 := by
    rw [minus_cast, Nat.cast_mul, Nat.cast_mul, x, y, Point.cross]
    linear_combination q.Z ^ 2 * on
  have high : ((minus (2 * (q.Z * q.Z)) (minus (q.Y * q.Y) (q.X * q.X)) : Nat) : GF) =
      (1 - P.cross P) * q.Z ^ 2 := by
    rw [minus_cast, low]
    push_cast
    ring
  have Z : (q.double.Z : GF) = (1 + P.cross P) * (1 - P.cross P) * q.Z ^ 4 := by
    simp only [Ratio.double, ZMod.natCast_mod, Nat.cast_mul, low, high]
    ring
  refine ⟨?_, ?_, ?_⟩
  · rw [Z]
    exact mul_ne_zero (mul_ne_zero (P.add_ne P) (P.sub_ne P)) (pow_ne_zero 4 nonzero)
  · rw [Z]
    simp only [Ratio.double, ZMod.natCast_mod, Nat.cast_mul, high, x, y]
    unfold Point.topX at lawX
    push_cast
    linear_combination -((1 - P.cross P) * q.Z ^ 4) * lawX
  · rw [Z]
    simp only [Ratio.double, ZMod.natCast_mod, Nat.cast_mul, Nat.cast_add, low, x, y]
    unfold Point.topY at lawY
    linear_combination -((1 + P.cross P) * q.Z ^ 4) * lawY

theorem Ratio.Of.doubles (n : Nat) {q : Ratio} {P : Point curve} (of : q.Of P) :
    (Ratio.doubles n q).Of ((2 ^ n : Int) • P) := by
  induction n generalizing q P with
  | zero => simpa [Ratio.doubles] using of
  | succ n ih =>
      have next := ih of.double
      rwa [← two_zsmul, smul_smul, ← pow_succ] at next

theorem Shifted.coordinates {last next : Entry} {P : Point curve} (shifted : Shifted last next)
    (coordinates : Coordinates last P) : Coordinates next ((32 : Int) • P) := by
  obtain ⟨x, y⟩ := shifted
  have start : Ratio.Of ⟨twiceX last, twiceY last, 2⟩ P := by
    refine ⟨by exact_mod_cast two_ne, ?_, ?_⟩
    · rw [coordinates.1]
      push_cast
      ring
    · rw [coordinates.2]
      push_cast
      ring
  have ratio := start.doubles 5
  rw [show (2 ^ 5 : Int) = 32 by norm_num] at ratio
  obtain ⟨nonzero, ratioX, ratioY⟩ := ratio
  have castX := natCast_eq x
  have castY := natCast_eq y
  rw [Nat.cast_mul, Nat.cast_mul, ratioX, Nat.cast_two, ← mul_assoc, two_mul] at castX
  rw [Nat.cast_mul, Nat.cast_mul, ratioY, Nat.cast_two, ← mul_assoc, two_mul] at castY
  exact ⟨mul_right_cancel₀ nonzero castX, mul_right_cancel₀ nonzero castY⟩

theorem Begins.coordinates {first : Entry} (begins : Begins first) : Coordinates first basePoint := by
  have castX := natCast_eq begins.1
  have castY := natCast_eq begins.2
  push_cast at castX castY
  exact ⟨castX.trans (two_mul _), castY.trans (two_mul _)⟩

theorem Progression.next {step last next : Entry} {rest : List Entry} {P Q : Point curve}
    (progression : Progression step last (next :: rest)) (first : last.Stands Holds P)
    (second : step.Stands Holds Q) : next.Stands Holds (P + Q) := by
  obtain ⟨sound, sums, _⟩ := progression
  exact (sums.coordinates (.of_stands first) (.of_stands second)).stands sound

theorem Progression.row {unit : Entry} {U : Point curve} (stands : unit.Stands Holds U) {rest : List Entry} :
    ∀ {last : Entry} {i : Nat}, last.Stands Holds ((i : Int) • U) → Progression unit last rest →
      RowFrom Holds U i rest ∧ (rest.getLastD last).Stands Holds (((i + rest.length : Nat) : Int) • U) := by
  induction rest with
  | nil => exact fun final _ => ⟨trivial, final⟩
  | cons next rest ih =>
      intro last i final progression
      have sum := progression.next final stands
      have more : (i : Int) • U + U = ((i + 1 : Nat) : Int) • U := by
        rw [Nat.cast_add, Nat.cast_one, add_smul, one_smul]
      rw [more] at sum
      obtain ⟨later, end_⟩ := ih sum progression.2.2
      refine ⟨⟨by exact_mod_cast sum, later⟩, ?_⟩
      rw [List.getLastD_cons, List.length_cons, Nat.add_comm rest.length, ← Nat.add_assoc]
      exact end_

theorem Progression.odd {two : Entry} {B : Point curve} (stands : two.Stands Holds (B + B)) {rest : List Entry} :
    ∀ {last : Entry} {k : Nat}, last.Stands Holds ((2 * k + 1 : Int) • B) → Progression two last rest →
      OddFrom (PreComputedGroupElement.Stands Holds) B (k + 1) rest := by
  induction rest with
  | nil => exact fun _ _ => trivial
  | cons next rest ih =>
      intro last k final progression
      have sum := progression.next final stands
      have number : (2 * (k + 1 : Nat) + 1 : Int) = 2 * k + 1 + 2 := by omega
      have more : (2 * k + 1 : Int) • B + (B + B) = (2 * (k + 1 : Nat) + 1 : Int) • B := by
        rw [number, ← two_zsmul, ← add_smul]
      rw [more] at sum
      exact ⟨sum, ih sum progression.2.2⟩

theorem Rows.stands {rows : List (List Entry)} : ∀ {Starts : Entry → Prop} {U : Point curve},
    (∀ unit, Starts unit → Coordinates unit U) → Rows Starts rows → RowsFrom Holds U rows := by
  induction rows with
  | nil => exact fun _ _ => trivial
  | cons row rest ih =>
      intro Starts U starts rows
      cases row with
      | nil => exact rows.elim
      | cons unit row =>
          obtain ⟨⟨sound, start, size, progression⟩, later⟩ := rows
          have stands := (starts unit start).stands sound
          have one : unit.Stands Holds (((1 : Nat) : Int) • U) := by simpa using stands
          obtain ⟨multiples, final⟩ := progression.row stands one
          rw [size] at final
          refine ⟨by rw [List.length_cons, size], ⟨by simpa using stands, multiples⟩, ?_⟩
          refine ih (fun next shifted => ?_) later
          have coordinates := shifted.coordinates (.of_stands final)
          rwa [smul_smul] at coordinates

/-! The tables. -/

theorem base_checked : Rows Begins BaseTables.base := by decide +kernel

theorem bi_checked : ∃ first rest two, BaseTables.bi = first :: rest ∧ Sound first ∧ Begins first ∧
    Progression first first [two] ∧ Progression two first rest :=
  ⟨_, _, BaseTables.base0.getD 1 .zero, rfl, by decide +kernel⟩

theorem tables_lawful : Tables.Lawful (E := FieldElement) Holds basePoint where
  bi_size := rfl
  bi_odd := by
    obtain ⟨first, rest, two, table, sound, begins, double, progression⟩ := bi_checked
    have stands := begins.coordinates.stands sound
    change OddFrom _ basePoint 0 BaseTables.bi
    rw [table]
    have one : first.Stands Holds ((2 * (0 : Nat) + 1 : Int) • basePoint) := by simpa using stands
    exact ⟨one, progression.odd (double.next stands stands) one⟩
  base_size := rfl
  base_rows := base_checked.stands fun _ begins => begins.coordinates

/-! The multiplications. -/

/-- `GeScalarMultBase` with the tables of `const.go`. -/
theorem geScalarMultBase_bytes {a : Bytes} (size : a.length = 32) (small : scalarValue a < 2 ^ 255) :
    extendedToBytes (geScalarMultBase a : ExtendedGroupElement FieldElement) =
      encode (scalarValue a • basePoint) :=
  extendedToBytes_eq laws byteLaws (geScalarMultBase_stands laws tables_lawful size small)

theorem geScalarMultBase_bytes_seven :
    extendedToBytes (geScalarMultBase (List.replicate 32 0x77) : ExtendedGroupElement FieldElement) =
      encode (scalarValue (List.replicate 32 0x77) • basePoint) :=
  geScalarMultBase_bytes rfl (by decide)

/-- `GeDoubleScalarMultVartime` with the tables of `const.go`. -/
theorem geDoubleScalarMultVartime_bytes {A : ExtendedGroupElement FieldElement} {P : Point curve}
    (stands : A.Stands Holds P) {a b : Bytes} (a_size : a.length = 32) (a_small : scalarValue a < 2 ^ 255)
    (b_size : b.length = 32) (b_small : scalarValue b < 2 ^ 255) :
    ∃ r, geDoubleScalarMultVartime a A b = .done r ∧
      projectiveToBytes r = encode (scalarValue a • P + scalarValue b • basePoint) := by
  obtain ⟨r, returned, product⟩ :=
    geDoubleScalarMultVartime_stands laws tables_lawful stands a_size a_small b_size b_small
  exact ⟨r, returned, projectiveToBytes_eq laws byteLaws product⟩

theorem geDoubleScalarMultVartime_bytes_base :
    ∃ (A : ExtendedGroupElement FieldElement) (r : ProjectiveGroupElement FieldElement),
    fromBytes (encode (basePoint + basePoint)) = some A ∧
    geDoubleScalarMultVartime (List.replicate 32 0x35) A (List.replicate 32 0x77) = .done r ∧
    projectiveToBytes r = encode (scalarValue (List.replicate 32 0x35) • (basePoint + basePoint) +
      scalarValue (List.replicate 32 0x77) • basePoint) := by
  obtain ⟨_, A, _, read, stands⟩ := base_read
  obtain ⟨r, returned, product⟩ := geDoubleScalarMultVartime_bytes stands
    (show (List.replicate 32 (0x35 : UInt8)).length = 32 from rfl) (by decide)
    (show (List.replicate 32 (0x77 : UInt8)).length = 32 from rfl) (by decide)
  exact ⟨A, r, read, returned, product⟩

end Carrier.BasePoint
