import Carrier.FieldBytes

/-! What a caller of `edwards25519` sees of the limbs: products, squares and inverses as numbers modulo
`p`, bytes that do not depend on the limbs, and points that are added, written and read back. -/
namespace Carrier.LimbArithmetic

open GoRuntime TwistedEdwards GroupElement PointEncoding LittleEndian LimbProgram FieldLimbs FieldBytes
open Curve25519
open FieldOps (feInvert)

theorem holds_of_loose {f : FieldElement} (loose : Loose f) : Holds 3 f ((value weights f.limbs : Int) : GF) :=
  ⟨within_bounds f.size loose, rfl⟩

theorem modEq_of_cast {m n : Int} (same : (m : GF) = n) : m ≡ n [ZMOD p] :=
  (ZMod.intCast_eq_intCast_iff m n p).mp same

theorem holds_one_iff {f : FieldElement} {x : GF} :
    Holds 1 f x ↔ (∀ i, |limb f.limbs i| ≤ limb sizes i) ∧ ((value weights f.limbs : Int) : GF) = x := by
  constructor
  · intro holds
    refine ⟨fun i => ?_, holds.2⟩
    have small := holds.small i
    rwa [Nat.cast_one, one_mul] at small
  · rintro ⟨small, same⟩
    exact ⟨within_bounds f.size fun i => by rw [Nat.cast_one, one_mul]; exact small i, same⟩

/-- The largest limbs `FeMul` is proved for: three times those of a reduced element, in either sign. -/
def largest : FieldElement :=
  ⟨[110729625, -55364811, 110729625, -55364811, 110729625, -55364811, 110729625, -55364811, 110729625,
    -55364811], rfl⟩

theorem loose_of_lt {f : FieldElement} (small : ∀ i < 10, |limb f.limbs i| ≤ 3 * limb sizes i) : Loose f := by
  intro i
  by_cases inside : i < 10
  · exact small i inside
  · have outside : limb f.limbs i = 0 := List.getD_eq_default _ _ (by rw [f.size]; omega)
    rw [outside, abs_zero]
    exact mul_nonneg (by decide) (sizes_bounds i).1

theorem largest_loose : Loose largest := loose_of_lt (by decide)

/-- `FeMul` loses nothing to overflow and returns a reduced element. -/
theorem feMul_exact {f g : FieldElement} (left : Loose f) (right : Loose g) :
    (∀ i, |limb (feMul f g).limbs i| ≤ limb sizes i) ∧
      value weights (feMul f g).limbs ≡ value weights f.limbs * value weights g.limbs [ZMOD p] := by
  obtain ⟨small, product⟩ :=
    holds_one_iff.mp (feMul_holds le_rfl le_rfl (holds_of_loose left) (holds_of_loose right))
  refine ⟨small, modEq_of_cast ?_⟩
  rw [product, Int.cast_mul]

theorem feMul_exact_largest :
    (∀ i, |limb (feMul largest largest).limbs i| ≤ limb sizes i) ∧
      value weights (feMul largest largest).limbs ≡
        value weights largest.limbs * value weights largest.limbs [ZMOD p] :=
  feMul_exact largest_loose largest_loose

/-- The shorter sums of `feSquare` give the very limbs `FeMul` gives. -/
theorem feSquare_eq_feMul {f : FieldElement} (loose : Loose f) : feSquare f = feMul f f := by
  have same : squareProducts f = products f f := by
    rw [loose.squareProducts_eq, loose.products_eq loose]
  unfold feSquare feMul
  simp only [same]

theorem feSquare_eq_feMul_largest : feSquare largest = feMul largest largest :=
  feSquare_eq_feMul largest_loose

/-- `FeInvert` gives the inverse, and zero for zero. -/
theorem feInvert_exact {f : FieldElement} (small : ∀ i, |limb f.limbs i| ≤ limb sizes i) :
    value weights (feInvert f).limbs * value weights f.limbs ≡
      if value weights f.limbs ≡ 0 [ZMOD p] then 0 else 1 [ZMOD p] := by
  have inverse := laws.invert (holds_one_iff.mpr ⟨small, rfl⟩)
  rw [pow_eq_inv] at inverse
  refine modEq_of_cast ?_
  rw [Int.cast_mul, inverse.2]
  split
  · next zero =>
    have none := intCast_eq zero
    rw [Int.cast_zero] at none
    rw [none, mul_zero, Int.cast_zero]
  · next nonzero =>
    have some : ((value weights f.limbs : Int) : GF) ≠ 0 := by
      intro none
      rw [← Int.cast_zero] at none
      exact nonzero (modEq_of_cast none)
    rw [inv_mul_cancel₀ some, Int.cast_one]

theorem feInvert_exact_d :
    value weights (feInvert d).limbs * value weights d.limbs ≡
      if value weights d.limbs ≡ 0 [ZMOD p] then 0 else 1 [ZMOD p] :=
  feInvert_exact (holds_one_iff.mp laws.d).1

theorem bytesOf_val_injective {x y : GF} (same : bytesOf 32 x.val = bytesOf 32 y.val) : x = y := by
  have numbers := congrArg number same
  rw [number_bytesOf_val, number_bytesOf_val] at numbers
  exact ZMod.val_injective p numbers

/-- The bytes tell two elements apart just where they differ modulo `p`, whatever their limbs. -/
theorem feToBytes_eq_iff {f g : FieldElement} (left : Loose f) (right : Loose g) :
    (feToBytes f).1 = (feToBytes g).1 ↔ value weights f.limbs ≡ value weights g.limbs [ZMOD p] := by
  rw [(feToBytes_spec le_rfl (holds_of_loose left)).1, (feToBytes_spec le_rfl (holds_of_loose right)).1]
  constructor
  · exact fun same => modEq_of_cast (bytesOf_val_injective same)
  · exact fun same => by rw [intCast_eq same]

theorem feToBytes_eq_iff_largest :
    (feToBytes largest).1 = (feToBytes d).1 ↔ value weights largest.limbs ≡ value weights d.limbs [ZMOD p] :=
  feToBytes_eq_iff largest_loose (laws.d.loose (by decide))

/-- Bytes that are read and written again are reduced modulo `p`; they come back unchanged just where they
are the bytes of a number below `p`. -/
theorem feToBytes_feFromBytes {s : Bytes} (size : s.length = 32) :
    (feToBytes (feFromBytes s)).1 = bytesOf 32 (number s % 2 ^ 255 % p) ∧
      ((feToBytes (feFromBytes s)).1 = s ↔ number s < p) := by
  have written := (feToBytes_spec (by decide) (feFromBytes_holds size)).1
  rw [ZMod.val_natCast] at written
  refine ⟨written, ?_⟩
  rw [written]
  have small : number s % 2 ^ 255 % p < p := Nat.mod_lt _ (by decide)
  have prime : p < 2 ^ 255 := by norm_num [p]
  constructor
  · intro same
    have numbers := congrArg number same
    rw [number_bytesOf, Nat.mod_eq_of_lt (by omega)] at numbers
    omega
  · intro below
    have whole : number s % 2 ^ 255 % p = number s := by
      rw [Nat.mod_eq_of_lt (lt_trans below prime), Nat.mod_eq_of_lt below]
    have again := bytesOf_number s
    rw [size] at again
    rw [whole, again]

theorem feToBytes_feFromBytes_ones :
    (feToBytes (feFromBytes (List.replicate 32 255))).1 =
        bytesOf 32 (number (List.replicate 32 255) % 2 ^ 255 % p) ∧
      ((feToBytes (feFromBytes (List.replicate 32 255))).1 = List.replicate 32 255 ↔
        number (List.replicate 32 255) < p) :=
  feToBytes_feFromBytes rfl

section Points

variable {e f : ExtendedGroupElement FieldElement} {P Q : Point curve}

theorem base_read : ∃ e f : ExtendedGroupElement FieldElement,
    (fromBytes (encode basePoint) = some e ∧ e.Stands Holds basePoint) ∧
    fromBytes (encode (basePoint + basePoint)) = some f ∧ f.Stands Holds (basePoint + basePoint) := by
  obtain ⟨e, read⟩ := fromBytes_encode laws byteLaws basePoint
  obtain ⟨f, readDouble⟩ := fromBytes_encode laws byteLaws (basePoint + basePoint)
  exact ⟨e, f, read, readDouble⟩

/-- The additions and the doubling of `group.go`, from limbs to bytes. -/
theorem group_bytes (left : e.Stands Holds P) (right : f.Stands Holds Q) :
    extendedToBytes (geAdd e f.toCached).toExtended = encode (P + Q) ∧
      extendedToBytes (geSub e f.toCached).toExtended = encode (P - Q) ∧
      extendedToBytes e.double.toExtended = encode (P + P) := by
  have cached := ExtendedGroupElement.toCached_stands laws right
  have bytes {c : CompletedGroupElement FieldElement} {R : Point curve} (stands : c.Stands Holds R) :
      extendedToBytes c.toExtended = encode R :=
    extendedToBytes_eq laws byteLaws (CompletedGroupElement.toExtended_stands laws stands)
  exact ⟨bytes (geAdd_stands laws left cached), bytes (geSub_stands laws left cached),
    bytes (ExtendedGroupElement.double_stands laws left)⟩

theorem group_bytes_base : ∃ e f : ExtendedGroupElement FieldElement,
    fromBytes (encode basePoint) = some e ∧ fromBytes (encode (basePoint + basePoint)) = some f ∧
    extendedToBytes (geAdd e f.toCached).toExtended = encode (basePoint + (basePoint + basePoint)) ∧
    extendedToBytes (geSub e f.toCached).toExtended = encode (basePoint - (basePoint + basePoint)) ∧
    extendedToBytes e.double.toExtended = encode (basePoint + basePoint) := by
  obtain ⟨e, f, ⟨read, stands⟩, readDouble, double⟩ := base_read
  exact ⟨e, f, read, readDouble, group_bytes stands double⟩

/-- What `Verify` compares: the bytes of two points are the same just where the points are. -/
theorem bytes_eq_iff {r : ProjectiveGroupElement FieldElement} (left : e.Stands Holds P)
    (right : r.Stands Holds Q) : extendedToBytes e = projectiveToBytes r ↔ P = Q := by
  rw [extendedToBytes_eq laws byteLaws left, projectiveToBytes_eq laws byteLaws right]
  exact ⟨encode_injective, congrArg encode⟩

theorem bytes_eq_iff_base : ∃ e f : ExtendedGroupElement FieldElement,
    fromBytes (encode basePoint) = some e ∧ fromBytes (encode (basePoint + basePoint)) = some f ∧
    extendedToBytes e = projectiveToBytes e.toProjective ∧
    extendedToBytes e ≠ projectiveToBytes f.toProjective := by
  obtain ⟨e, f, ⟨read, stands⟩, readDouble, double⟩ := base_read
  refine ⟨e, f, read, readDouble, ?_, fun same => ?_⟩
  · exact (bytes_eq_iff stands (ExtendedGroupElement.toProjective_stands stands)).mpr rfl
  · have fixed := (bytes_eq_iff stands (ExtendedGroupElement.toProjective_stands double)).mp same
    exact basePoint_ne_zero (left_eq_add.mp fixed)

/-- A point that is written is read back. -/
theorem fromBytes_toBytes (stands : e.Stands Holds P) :
    ∃ q : ExtendedGroupElement FieldElement, fromBytes (extendedToBytes e) = some q ∧ q.Stands Holds P := by
  rw [extendedToBytes_eq laws byteLaws stands]
  exact fromBytes_encode laws byteLaws P

theorem fromBytes_toBytes_base : ∃ e q : ExtendedGroupElement FieldElement,
    fromBytes (encode basePoint) = some e ∧ fromBytes (extendedToBytes e.double.toExtended) = some q ∧
    q.Stands Holds (basePoint + basePoint) := by
  obtain ⟨e, _, ⟨read, stands⟩, _⟩ := base_read
  have double := CompletedGroupElement.toExtended_stands laws (ExtendedGroupElement.double_stands laws stands)
  obtain ⟨q, again, same⟩ := fromBytes_toBytes double
  exact ⟨e, q, read, again, same⟩

end Points

/-- `FromBytes` accepts 32 bytes just where the number without its highest bit, modulo `p`, is the `y` of
a point: the sign never matters, nor whether the number is below `p`. -/
theorem fromBytes_accepts_iff {s : Bytes} (size : s.length = 32) :
    (fromBytes s : Option (ExtendedGroupElement FieldElement)).isSome ↔
      ∃ P : Point curve, P.y = ((number s % 2 ^ 255 : Nat) : GF) := by
  rcases fromBytes_spec laws byteLaws size with ⟨e, P, read, _, same, _⟩ | ⟨missing, never⟩
  · rw [read]
    exact ⟨fun _ => ⟨P, same⟩, fun _ => rfl⟩
  · rw [missing]
    refine ⟨fun absent => absurd absent (by decide), fun ⟨P, same⟩ => absurd same (never P)⟩

theorem fromBytes_accepts_iff_ones :
    (fromBytes (List.replicate 32 255) : Option (ExtendedGroupElement FieldElement)).isSome ↔
      ∃ P : Point curve, P.y = ((number (List.replicate 32 255) % 2 ^ 255 : Nat) : GF) :=
  fromBytes_accepts_iff rfl

end Carrier.LimbArithmetic
