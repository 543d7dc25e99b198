import Carrier.FieldOps

/-! The group elements of `group.go`: the representations of a point of the curve, the
conversions between them, doubling, and the additions of a point in extended coordinates and
one that was prepared for it. Each operation is proved to keep the point it stands for and the
sizes of the coordinates. -/
namespace Carrier.GroupElement

open FieldOps TwistedEdwards

structure ProjectiveGroupElement (E : Type) where
  X : E
  Y : E
  Z : E

structure ExtendedGroupElement (E : Type) where
  X : E
  Y : E
  Z : E
  T : E

structure CompletedGroupElement (E : Type) where
  X : E
  Y : E
  Z : E
  T : E

structure PreComputedGroupElement (E : Type) where
  yPlusX : E
  yMinusX : E
  xy2d : E

structure CachedGroupElement (E : Type) where
  yPlusX : E
  yMinusX : E
  Z : E
  T2d : E

variable {E : Type} [Arithmetic E]

def ProjectiveGroupElement.zero : ProjectiveGroupElement E := { X := feZero, Y := feOne, Z := feOne }

def ExtendedGroupElement.zero : ExtendedGroupElement E :=
  { X := feZero, Y := feOne, Z := feOne, T := feZero }

def PreComputedGroupElement.zero : PreComputedGroupElement E :=
  { yPlusX := feOne, yMinusX := feOne, xy2d := feZero }

def ProjectiveGroupElement.double (p : ProjectiveGroupElement E) : CompletedGroupElement E :=
  let rX := feSquare p.X
  let rZ := feSquare p.Y
  let rT := feSquare2 p.Z
  let rY := feAdd p.X p.Y
  let t0 := feSquare rY
  let rY := feAdd rZ rX
  let rZ := feSub rZ rX
  let rX := feSub t0 rY
  let rT := feSub rT rZ
  { X := rX, Y := rY, Z := rZ, T := rT }

def ExtendedGroupElement.toProjective (p : ExtendedGroupElement E) : ProjectiveGroupElement E :=
  { X := p.X, Y := p.Y, Z := p.Z }

def ExtendedGroupElement.double (p : ExtendedGroupElement E) : CompletedGroupElement E :=
  p.toProjective.double

def ExtendedGroupElement.toCached (p : ExtendedGroupElement E) : CachedGroupElement E :=
  { yPlusX := feAdd p.Y p.X, yMinusX := feSub p.Y p.X, Z := p.Z, T2d := feMul p.T Arithmetic.d2 }

def CompletedGroupElement.toProjective (p : CompletedGroupElement E) : ProjectiveGroupElement E :=
  { X := feMul p.X p.T, Y := feMul p.Y p.Z, Z := feMul p.Z p.T }

def CompletedGroupElement.toExtended (p : CompletedGroupElement E) : ExtendedGroupElement E :=
  { X := feMul p.X p.T, Y := feMul p.Y p.Z, Z := feMul p.Z p.T, T := feMul p.X p.Y }

def geAdd (p : ExtendedGroupElement E) (q : CachedGroupElement E) : CompletedGroupElement E :=
  let rX := feAdd p.Y p.X
  let rY := feSub p.Y p.X
  let rZ := feMul rX q.yPlusX
  let rY := feMul rY q.yMinusX
  let rT := feMul q.T2d p.T
  let rX := feMul p.Z q.Z
  let t0 := feAdd rX rX
  { X := feSub rZ rY, Y := feAdd rZ rY, Z := feAdd t0 rT, T := feSub t0 rT }

def geSub (p : ExtendedGroupElement E) (q : CachedGroupElement E) : CompletedGroupElement E :=
  let rX := feAdd p.Y p.X
  let rY := feSub p.Y p.X
  let rZ := feMul rX q.yMinusX
  let rY := feMul rY q.yPlusX
  let rT := feMul q.T2d p.T
  let rX := feMul p.Z q.Z
  let t0 := feAdd rX rX
  { X := feSub rZ rY, Y := feAdd rZ rY, Z := feSub t0 rT, T := feAdd t0 rT }

def geMixedAdd (p : ExtendedGroupElement E) (q : PreComputedGroupElement E) : CompletedGroupElement E :=
  let rX := feAdd p.Y p.X
  let rY := feSub p.Y p.X
  let rZ := feMul rX q.yPlusX
  let rY := feMul rY q.yMinusX
  let rT := feMul q.xy2d p.T
  let t0 := feAdd p.Z p.Z
  { X := feSub rZ rY, Y := feAdd rZ rY, Z := feAdd t0 rT, T := feSub t0 rT }

def geMixedSub (p : ExtendedGroupElement E) (q : PreComputedGroupElement E) : CompletedGroupElement E :=
  let rX := feAdd p.Y p.X
  let rY := feSub p.Y p.X
  let rZ := feMul rX q.yMinusX
  let rY := feMul rY q.yPlusX
  let rT := feMul q.xy2d p.T
  let t0 := feAdd p.Z p.Z
  { X := feSub rZ rY, Y := feAdd rZ rY, Z := feSub t0 rT, T := feAdd t0 rT }

section Stands

variable {F : Type} [Field F] {C : Curve F} (Holds : Nat → E → F → Prop)

-- `X` may be larger than the rest: in a point that was read from bytes `FeIsNegative` has left it
-- with limbs from 0 on.
def ProjectiveGroupElement.Stands (p : ProjectiveGroupElement E) (P : Point C) : Prop :=
  ∃ z ≠ 0, Holds 2 p.X (P.x * z) ∧ Holds 1 p.Y (P.y * z) ∧ Holds 1 p.Z z

def ExtendedGroupElement.Stands (p : ExtendedGroupElement E) (P : Point C) : Prop :=
  ∃ z ≠ 0, Holds 2 p.X (P.x * z) ∧ Holds 1 p.Y (P.y * z) ∧ Holds 1 p.Z z ∧
    Holds 1 p.T (P.x * P.y * z)

def CompletedGroupElement.Stands (p : CompletedGroupElement E) (P : Point C) : Prop :=
  ∃ z ≠ 0, ∃ t ≠ 0, Holds 3 p.X (P.x * z) ∧ Holds 3 p.Y (P.y * t) ∧ Holds 3 p.Z z ∧ Holds 3 p.T t

def PreComputedGroupElement.Stands (p : PreComputedGroupElement E) (P : Point C) : Prop :=
  Holds 1 p.yPlusX (P.y + P.x) ∧ Holds 1 p.yMinusX (P.y - P.x) ∧ Holds 1 p.xy2d (2 * C.d * P.x * P.y)

def CachedGroupElement.Stands (p : CachedGroupElement E) (P : Point C) : Prop :=
  ∃ z ≠ 0, Holds 3 p.yPlusX ((P.y + P.x) * z) ∧ Holds 3 p.yMinusX ((P.y - P.x) * z) ∧ Holds 1 p.Z z ∧
    Holds 1 p.T2d (2 * C.d * P.x * P.y * z)

end Stands

variable {F : Type} [Field F] {C : Curve F} {Holds : Nat → E → F → Prop} (laws : Laws C Holds)
  {P Q : Point C}

include laws

theorem ProjectiveGroupElement.zero_stands :
    (ProjectiveGroupElement.zero : ProjectiveGroupElement E).Stands Holds (0 : Point C) :=
  ⟨1, one_ne_zero, laws.as laws.zero (by decide) (by simp), laws.as laws.one le_rfl (by simp), laws.one⟩

theorem ExtendedGroupElement.zero_stands :
    (ExtendedGroupElement.zero : ExtendedGroupElement E).Stands Holds (0 : Point C) :=
  ⟨1, one_ne_zero, laws.as laws.zero (by decide) (by simp), laws.as laws.one le_rfl (by simp), laws.one,
    laws.as laws.zero le_rfl (by simp)⟩

theorem PreComputedGroupElement.zero_stands :
    (PreComputedGroupElement.zero : PreComputedGroupElement E).Stands Holds (0 : Point C) :=
  ⟨laws.as laws.one le_rfl (by simp), laws.as laws.one le_rfl (by simp),
    laws.as laws.zero le_rfl (by simp)⟩

omit [Arithmetic E] laws in
theorem ExtendedGroupElement.toProjective_stands {p : ExtendedGroupElement E}
    (stands : p.Stands Holds P) : p.toProjective.Stands Holds P := by
  obtain ⟨z, nonzero, X, Y, Z, _⟩ := stands
  exact ⟨z, nonzero, X, Y, Z⟩

theorem ExtendedGroupElement.toCached_stands {p : ExtendedGroupElement E} (stands : p.Stands Holds P) :
    p.toCached.Stands Holds P := by
  obtain ⟨z, nonzero, X, Y, Z, T⟩ := stands
  exact ⟨z, nonzero, laws.as (laws.add (by decide) Y X) le_rfl (by ring),
    laws.as (laws.sub (by decide) Y X) le_rfl (by ring), Z,
    laws.as (laws.mul (by decide) (by decide) T laws.d2) le_rfl (by ring)⟩

theorem CompletedGroupElement.toExtended_stands {p : CompletedGroupElement E} (stands : p.Stands Holds P) :
    p.toExtended.Stands Holds P := by
  obtain ⟨z, z_ne, t, t_ne, X, Y, Z, T⟩ := stands
  exact ⟨z * t, mul_ne_zero z_ne t_ne, laws.as (laws.mul le_rfl le_rfl X T) (by decide) (by ring),
    laws.as (laws.mul le_rfl le_rfl Y Z) le_rfl (by ring), laws.mul le_rfl le_rfl Z T,
    laws.as (laws.mul le_rfl le_rfl X Y) le_rfl (by ring)⟩

theorem CompletedGroupElement.toProjective_stands {p : CompletedGroupElement E}
    (stands : p.Stands Holds P) : p.toProjective.Stands Holds P :=
  ExtendedGroupElement.toProjective_stands (CompletedGroupElement.toExtended_stands laws stands)

theorem ProjectiveGroupElement.double_stands {p : ProjectiveGroupElement E} (stands : p.Stands Holds P) :
    p.double.Stands Holds (P + P) := by
  obtain ⟨z, nonzero, X, Y, Z⟩ := stands
  have on : P.y ^ 2 - P.x ^ 2 = 1 + C.d * P.x ^ 2 * P.y ^ 2 := P.on
  have x_mul := P.add_x_mul P
  have y_mul := P.add_y_mul P
  unfold Point.topX at x_mul
  unfold Point.topY at y_mul
  have XX := laws.square (by decide) X
  have YY := laws.square (by decide) Y
  have rY := laws.add (by decide) YY XX
  have rZ := laws.sub (by decide) YY XX
  have rX := laws.sub (by decide) (laws.square (by decide) (laws.add (by decide) X Y)) rY
  have rT := laws.sub (by decide) (laws.square2 (by decide) Z) rZ
  -- the curve equation makes `y² - x²` the first denominator of the doubled point
  refine ⟨z ^ 2 * (1 + P.cross P), mul_ne_zero (pow_ne_zero 2 nonzero) (P.add_ne P),
    z ^ 2 * (1 - P.cross P), mul_ne_zero (pow_ne_zero 2 nonzero) (P.sub_ne P),
    laws.as rX (by decide) ?_, laws.as rY (by decide) ?_, laws.as rZ (by decide) ?_,
    laws.as rT (by decide) ?_⟩
  · linear_combination -z ^ 2 * x_mul
  · linear_combination -z ^ 2 * y_mul
  · unfold Point.cross
    linear_combination z ^ 2 * on
  · unfold Point.cross
    linear_combination -z ^ 2 * on

theorem ExtendedGroupElement.double_stands {p : ExtendedGroupElement E} (stands : p.Stands Holds P) :
    p.double.Stands Holds (P + P) :=
  ProjectiveGroupElement.double_stands laws (ExtendedGroupElement.toProjective_stands stands)

/-- The last four assignments of the additions, on what the products before them hold. -/
theorem CompletedGroupElement.of_products {rZ rY Z T : E} {z : F} (nonzero : z ≠ 0)
    (plus : Holds 1 rZ ((P.y + P.x) * (Q.y + Q.x) * z)) (minus : Holds 1 rY ((P.y - P.x) * (Q.y - Q.x) * z))
    (first : Holds 3 Z (2 * z * (1 + P.cross Q))) (second : Holds 3 T (2 * z * (1 - P.cross Q))) :
    CompletedGroupElement.Stands Holds { X := feSub rZ rY, Y := feAdd rZ rY, Z := Z, T := T } (P + Q) := by
  have x_mul : _ = P.x * Q.y + P.y * Q.x := P.add_x_mul Q
  have y_mul : _ = P.y * Q.y + P.x * Q.x := P.add_y_mul Q
  have scale : 2 * z ≠ 0 := mul_ne_zero C.two_ne_zero nonzero
  refine ⟨2 * z * (1 + P.cross Q), mul_ne_zero scale (P.add_ne Q),
    2 * z * (1 - P.cross Q), mul_ne_zero scale (P.sub_ne Q),
    laws.as (laws.sub (by decide) plus minus) (by decide) ?_,
    laws.as (laws.add (by decide) plus minus) (by decide) ?_, first, second⟩
  · linear_combination -2 * z * x_mul
  · linear_combination -2 * z * y_mul

theorem geAdd_stands {p : ExtendedGroupElement E} {q : CachedGroupElement E}
    (left : p.Stands Holds P) (right : q.Stands Holds Q) : (geAdd p q).Stands Holds (P + Q) := by
  obtain ⟨z, z_ne, X, Y, Z, T⟩ := left
  obtain ⟨w, w_ne, plus, minus, W, T2d⟩ := right
  have rX := laws.mul (by decide) (by decide) Z W
  have t0 := laws.add (by decide) rX rX
  have rT := laws.mul (by decide) (by decide) T2d T
  refine CompletedGroupElement.of_products laws (mul_ne_zero z_ne w_ne)
    (laws.as (laws.mul (by decide) (by decide) (laws.add (by decide) Y X) plus) le_rfl (by ring))
    (laws.as (laws.mul (by decide) (by decide) (laws.sub (by decide) Y X) minus) le_rfl (by ring))
    (laws.as (laws.add (by decide) t0 rT) le_rfl ?_) (laws.as (laws.sub (by decide) t0 rT) le_rfl ?_)
  · unfold Point.cross
    ring
  · unfold Point.cross
    ring

theorem geSub_stands {p : ExtendedGroupElement E} {q : CachedGroupElement E}
    (left : p.Stands Holds P) (right : q.Stands Holds Q) : (geSub p q).Stands Holds (P - Q) := by
  obtain ⟨z, z_ne, X, Y, Z, T⟩ := left
  obtain ⟨w, w_ne, plus, minus, W, T2d⟩ := right
  have rX := laws.mul (by decide) (by decide) Z W
  have t0 := laws.add (by decide) rX rX
  have rT := laws.mul (by decide) (by decide) T2d T
  rw [sub_eq_add_neg]
  refine CompletedGroupElement.of_products laws (mul_ne_zero z_ne w_ne)
    (laws.as (laws.mul (by decide) (by decide) (laws.add (by decide) Y X) minus) le_rfl ?_)
    (laws.as (laws.mul (by decide) (by decide) (laws.sub (by decide) Y X) plus) le_rfl ?_)
    (laws.as (laws.sub (by decide) t0 rT) le_rfl ?_) (laws.as (laws.add (by decide) t0 rT) le_rfl ?_)
  all_goals
    simp only [Point.cross, Point.neg_x, Point.neg_y]
    ring

theorem geMixedAdd_stands {p : ExtendedGroupElement E} {q : PreComputedGroupElement E}
    (left : p.Stands Holds P) (right : q.Stands Holds Q) : (geMixedAdd p q).Stands Holds (P + Q) := by
  obtain ⟨z, z_ne, X, Y, Z, T⟩ := left
  obtain ⟨plus, minus, xy2d⟩ := right
  have t0 := laws.add (by decide) Z Z
  have rT := laws.mul (by decide) (by decide) xy2d T
  refine CompletedGroupElement.of_products laws z_ne
    (laws.as (laws.mul (by decide) (by decide) (laws.add (by decide) Y X) plus) le_rfl (by ring))
    (laws.as (laws.mul (by decide) (by decide) (laws.sub (by decide) Y X) minus) le_rfl (by ring))
    (laws.as (laws.add (by decide) t0 rT) le_rfl ?_) (laws.as (laws.sub (by decide) t0 rT) le_rfl ?_)
  · unfold Point.cross
    ring
  · unfold Point.cross
    ring

theorem geMixedSub_stands {p : ExtendedGroupElement E} {q : PreComputedGroupElement E}
    (left : p.Stands Holds P) (right : q.Stands Holds Q) : (geMixedSub p q).Stands Holds (P - Q) := by
  obtain ⟨z, z_ne, X, Y, Z, T⟩ := left
  obtain ⟨plus, minus, xy2d⟩ := right
  have t0 := laws.add (by decide) Z Z
  have rT := laws.mul (by decide) (by decide) xy2d T
  rw [sub_eq_add_neg]
  refine CompletedGroupElement.of_products laws z_ne
    (laws.as (laws.mul (by decide) (by decide) (laws.add (by decide) Y X) minus) le_rfl ?_)
    (laws.as (laws.mul (by decide) (by decide) (laws.sub (by decide) Y X) plus) le_rfl ?_)
    (laws.as (laws.sub (by decide) t0 rT) le_rfl ?_) (laws.as (laws.add (by decide) t0 rT) le_rfl ?_)
  all_goals
    simp only [Point.cross, Point.neg_x, Point.neg_y]
    ring

end Carrier.GroupElement
