import Mathlib.Algebra.Field.Basic
import Mathlib.Algebra.Group.Even
import Mathlib.Algebra.GroupWithZero.Basic
import Mathlib.Tactic.FieldSimp
import Mathlib.Tactic.LinearCombination
import Mathlib.Tactic.Ring

/-! Twisted Edwards curves `-x² + y² = 1 + d x² y²` over a field in which `-1` is a square and
`d` is not. The addition law has no exceptional points there, and the points are a
commutative group under it. -/
namespace Carrier.TwistedEdwards

structure Curve (F : Type*) [Field F] where
  d : F
  i : F
  i_mul_i : i * i = -1
  two_ne_zero : (2 : F) ≠ 0
  nonsquare : ¬IsSquare d

variable {F : Type*} [Field F]

def Curve.On (C : Curve F) (x y : F) : Prop := y ^ 2 - x ^ 2 = 1 + C.d * x ^ 2 * y ^ 2

variable {C : Curve F} {x₁ y₁ x₂ y₂ x₃ y₃ : F}

/-- With a denominator zero, `d` would be the square of a quotient. -/
theorem Curve.On.product_sq_ne_one (first : C.On x₁ y₁) (second : C.On x₂ y₂) :
    (C.d * x₁ * x₂ * y₁ * y₂) ^ 2 ≠ 1 := by
  intro one
  unfold Curve.On at first second
  have square := C.i_mul_i
  have nonzero : x₁ * x₂ * y₁ * y₂ ≠ 0 := by
    intro zero
    have : C.d * x₁ * x₂ * y₁ * y₂ = 0 := by linear_combination C.d * zero
    rw [this] at one
    simp at one
  have ⟨⟨⟨x₁_ne, x₂_ne⟩, y₁_ne⟩, y₂_ne⟩ : ((x₁ ≠ 0 ∧ x₂ ≠ 0) ∧ y₁ ≠ 0) ∧ y₂ ≠ 0 := by
    simpa [mul_eq_zero, not_or] using nonzero
  -- the same quotient with either sign of `y₂`; the two cannot both have denominator zero
  have no_root (y : F) (same : y ^ 2 = y₂ ^ 2) (sum : C.i * x₂ + y ≠ 0) : False := by
    have on : y ^ 2 - x₂ ^ 2 = 1 + C.d * x₂ ^ 2 * y ^ 2 := by rw [same]; exact second
    have unit : (C.d * x₁ * x₂ * y₁ * y) ^ 2 = 1 := by
      rw [← one]
      linear_combination (C.d * x₁ * x₂ * y₁) ^ 2 * same
    refine C.nonsquare ⟨(C.i * x₁ + C.d * x₁ * x₂ * y₁ * y * y₁) / (x₁ * y₁ * (C.i * x₂ + y)), ?_⟩
    have denominator : x₁ * y₁ * (C.i * x₂ + y) ≠ 0 := mul_ne_zero (mul_ne_zero x₁_ne y₁_ne) sum
    rw [div_mul_div_comm, eq_div_iff (mul_ne_zero denominator denominator)]
    linear_combination (C.d * x₁ ^ 2 * y₁ ^ 2 * x₂ ^ 2 - x₁ ^ 2) * square + C.d * x₁ ^ 2 * y₁ ^ 2 * on -
      first + (1 - y₁ ^ 2) * unit
  by_cases sum : C.i * x₂ + y₂ = 0
  · refine no_root (-y₂) (by ring) fun difference => ?_
    have twice : 2 * y₂ = 0 := by linear_combination sum - difference
    exact mul_ne_zero C.two_ne_zero y₂_ne twice
  · exact no_root y₂ rfl sum

theorem Curve.On.add_ne_zero (first : C.On x₁ y₁) (second : C.On x₂ y₂) :
    1 + C.d * x₁ * x₂ * y₁ * y₂ ≠ 0 := by
  intro zero
  exact first.product_sq_ne_one second (by linear_combination (C.d * x₁ * x₂ * y₁ * y₂ - 1) * zero)

theorem Curve.On.sub_ne_zero (first : C.On x₁ y₁) (second : C.On x₂ y₂) :
    1 - C.d * x₁ * x₂ * y₁ * y₂ ≠ 0 := by
  intro zero
  exact first.product_sq_ne_one second (by linear_combination (-C.d * x₁ * x₂ * y₁ * y₂ - 1) * zero)

@[ext] structure Point (C : Curve F) where
  x : F
  y : F
  on : C.On x y

namespace Point

variable (P Q R : Point C)

/-- The product in both denominators of a sum, and its two numerators. -/
def cross : F := C.d * P.x * Q.x * P.y * Q.y

def topX : F := P.x * Q.y + P.y * Q.x

def topY : F := P.y * Q.y + P.x * Q.x

theorem add_ne : 1 + P.cross Q ≠ 0 := P.on.add_ne_zero Q.on

theorem sub_ne : 1 - P.cross Q ≠ 0 := P.on.sub_ne_zero Q.on

/-- The curve equation of a sum, with the denominators multiplied out. -/
theorem add_on_cleared :
    (P.topY Q * (1 + P.cross Q)) ^ 2 - (P.topX Q * (1 - P.cross Q)) ^ 2 =
      ((1 + P.cross Q) * (1 - P.cross Q)) ^ 2 +
        C.d * P.topX Q ^ 2 * P.topY Q ^ 2 := by
  have first : P.y ^ 2 - P.x ^ 2 = 1 + C.d * P.x ^ 2 * P.y ^ 2 := P.on
  have second : Q.y ^ 2 - Q.x ^ 2 = 1 + C.d * Q.x ^ 2 * Q.y ^ 2 := Q.on
  -- with `u`, `v` for the left sides and `1 + α`, `1 + β` for the right ones the difference is
  -- `uv(1 + αβ) - (1 - αβ)² - αv² - βu²`
  unfold cross topX topY
  linear_combination
    ((Q.y ^ 2 - Q.x ^ 2) * (1 + (C.d * P.x * Q.x * P.y * Q.y) ^ 2) -
        C.d * Q.x ^ 2 * Q.y ^ 2 * (P.y ^ 2 - P.x ^ 2 + 1 + C.d * P.x ^ 2 * P.y ^ 2)) * first +
      ((1 + C.d * P.x ^ 2 * P.y ^ 2) * (1 + (C.d * P.x * Q.x * P.y * Q.y) ^ 2) -
        C.d * P.x ^ 2 * P.y ^ 2 * (Q.y ^ 2 - Q.x ^ 2 + 1 + C.d * Q.x ^ 2 * Q.y ^ 2)) * second

instance : Add (Point C) where
  add P Q :=
    { x := P.topX Q / (1 + P.cross Q)
      y := P.topY Q / (1 - P.cross Q)
      on := by
        have plus := P.add_ne Q
        have minus := P.sub_ne Q
        have cleared := P.add_on_cleared Q
        unfold Curve.On
        field_simp
        linear_combination cleared }

instance : Zero (Point C) where
  zero := { x := 0, y := 1, on := by simp [Curve.On] }

instance : Neg (Point C) where
  neg P := { x := -P.x, y := P.y, on := by simpa [Curve.On] using P.on }

@[simp] theorem zero_x : (0 : Point C).x = 0 := rfl
@[simp] theorem zero_y : (0 : Point C).y = 1 := rfl
@[simp] theorem neg_x : (-P).x = -P.x := rfl
@[simp] theorem neg_y : (-P).y = P.y := rfl

theorem add_x : (P + Q).x = P.topX Q / (1 + P.cross Q) := rfl
theorem add_y : (P + Q).y = P.topY Q / (1 - P.cross Q) := rfl

theorem add_x_mul : (P + Q).x * (1 + P.cross Q) = P.topX Q :=
  div_mul_cancel₀ _ (P.add_ne Q)

theorem add_y_mul : (P + Q).y * (1 - P.cross Q) = P.topY Q :=
  div_mul_cancel₀ _ (P.sub_ne Q)

protected theorem add_comm : P + Q = Q + P := by
  have same : P.cross Q = Q.cross P := by
    unfold cross
    ring
  ext
  · rw [add_x, add_x, same]
    congr 1
    unfold topX
    ring
  · rw [add_y, add_y, same]
    congr 1
    unfold topY
    ring

protected theorem zero_add : 0 + P = P := by
  ext
  · simp [add_x, topX, cross]
  · simp [add_y, topY, cross]

protected theorem neg_add : -P + P = 0 := by
  have on : P.y ^ 2 - P.x ^ 2 = 1 + C.d * P.x ^ 2 * P.y ^ 2 := P.on
  ext
  · rw [add_x, topX, neg_x, neg_y, zero_x]
    simp [mul_comm]
  · rw [add_y, div_eq_iff ((-P).sub_ne P), zero_y, topY, cross, neg_x, neg_y]
    linear_combination on

theorem cross_add_mul :
    (1 + P.cross Q) * (1 - P.cross Q) * (P + Q).cross R = C.d * P.topX Q * P.topY Q * R.x * R.y := by
  rw [← P.add_x_mul Q, ← P.add_y_mul Q]
  unfold cross
  ring

theorem add_add_x :
    (P + Q + R).x * ((1 + P.cross Q) * (1 - P.cross Q) + C.d * P.topX Q * P.topY Q * R.x * R.y) =
      P.topX Q * (1 - P.cross Q) * R.y + P.topY Q * (1 + P.cross Q) * R.x := by
  rw [← cross_add_mul, ← P.add_x_mul Q, ← P.add_y_mul Q]
  have outer : _ = (P + Q).x * R.y + (P + Q).y * R.x := (P + Q).add_x_mul R
  linear_combination (1 + P.cross Q) * (1 - P.cross Q) * outer

theorem add_add_y :
    (P + Q + R).y * ((1 + P.cross Q) * (1 - P.cross Q) - C.d * P.topX Q * P.topY Q * R.x * R.y) =
      P.topY Q * (1 + P.cross Q) * R.y + P.topX Q * (1 - P.cross Q) * R.x := by
  rw [← cross_add_mul, ← P.add_x_mul Q, ← P.add_y_mul Q]
  have outer : _ = (P + Q).y * R.y + (P + Q).x * R.x := (P + Q).add_y_mul R
  linear_combination (1 + P.cross Q) * (1 - P.cross Q) * outer

theorem add_add_ne_x :
    (1 + P.cross Q) * (1 - P.cross Q) + C.d * P.topX Q * P.topY Q * R.x * R.y ≠ 0 := by
  rw [← cross_add_mul, ← mul_one_add]
  exact mul_ne_zero (mul_ne_zero (P.add_ne Q) (P.sub_ne Q)) ((P + Q).add_ne R)

theorem add_add_ne_y :
    (1 + P.cross Q) * (1 - P.cross Q) - C.d * P.topX Q * P.topY Q * R.x * R.y ≠ 0 := by
  rw [← cross_add_mul, ← mul_one_sub]
  exact mul_ne_zero (mul_ne_zero (P.add_ne Q) (P.sub_ne Q)) ((P + Q).sub_ne R)

/-- The two ways to add three points give the same fraction: the difference of the cross
products is a combination of the three curve equations. -/
theorem assoc_x :
    (P.topX Q * (1 - P.cross Q) * R.y + P.topY Q * (1 + P.cross Q) * R.x) *
        ((1 + R.cross Q) * (1 - R.cross Q) + C.d * R.topX Q * R.topY Q * P.x * P.y) =
      (R.topX Q * (1 - R.cross Q) * P.y + R.topY Q * (1 + R.cross Q) * P.x) *
        ((1 + P.cross Q) * (1 - P.cross Q) + C.d * P.topX Q * P.topY Q * R.x * R.y) := by
  have first : P.y ^ 2 - P.x ^ 2 = 1 + C.d * P.x ^ 2 * P.y ^ 2 := P.on
  have second : Q.y ^ 2 - Q.x ^ 2 = 1 + C.d * Q.x ^ 2 * Q.y ^ 2 := Q.on
  have third : R.y ^ 2 - R.x ^ 2 = 1 + C.d * R.x ^ 2 * R.y ^ 2 := R.on
  unfold topX topY cross
  linear_combination
    C.d * R.x * Q.x * R.y * Q.y * (P.x * (R.y * Q.y + R.x * Q.x) * (1 + C.d * R.x * Q.x * R.y * Q.y) -
        P.y * (R.x * Q.y + R.y * Q.x) * (1 - C.d * R.x * Q.x * R.y * Q.y)) * first +
      C.d ^ 2 * P.x * P.y * Q.x * Q.y * R.x * R.y *
        (P.x * P.y * (P.y * (R.x * Q.y + R.y * Q.x) - P.x * (R.y * Q.y + R.x * Q.x)) +
          R.x * R.y * (R.x * (P.y * Q.y + P.x * Q.x) - R.y * (P.x * Q.y + P.y * Q.x))) * second -
      C.d * P.x * Q.x * P.y * Q.y * (R.x * (P.y * Q.y + P.x * Q.x) * (1 + C.d * P.x * Q.x * P.y * Q.y) -
        R.y * (P.x * Q.y + P.y * Q.x) * (1 - C.d * P.x * Q.x * P.y * Q.y)) * third

theorem assoc_y :
    (P.topY Q * (1 + P.cross Q) * R.y + P.topX Q * (1 - P.cross Q) * R.x) *
        ((1 + R.cross Q) * (1 - R.cross Q) - C.d * R.topX Q * R.topY Q * P.x * P.y) =
      (R.topY Q * (1 + R.cross Q) * P.y + R.topX Q * (1 - R.cross Q) * P.x) *
        ((1 + P.cross Q) * (1 - P.cross Q) - C.d * P.topX Q * P.topY Q * R.x * R.y) := by
  have first : P.y ^ 2 - P.x ^ 2 = 1 + C.d * P.x ^ 2 * P.y ^ 2 := P.on
  have second : Q.y ^ 2 - Q.x ^ 2 = 1 + C.d * Q.x ^ 2 * Q.y ^ 2 := Q.on
  have third : R.y ^ 2 - R.x ^ 2 = 1 + C.d * R.x ^ 2 * R.y ^ 2 := R.on
  unfold topX topY cross
  linear_combination
    C.d * R.x * Q.x * R.y * Q.y * (P.y * (R.y * Q.y + R.x * Q.x) * (1 + C.d * R.x * Q.x * R.y * Q.y) -
        P.x * (R.x * Q.y + R.y * Q.x) * (1 - C.d * R.x * Q.x * R.y * Q.y)) * first +
      C.d ^ 2 * P.x * P.y * Q.x * Q.y * R.x * R.y *
        (P.x * P.y * (P.x * (R.x * Q.y + R.y * Q.x) - P.y * (R.y * Q.y + R.x * Q.x)) +
          R.x * R.y * (R.y * (P.y * Q.y + P.x * Q.x) - R.x * (P.x * Q.y + P.y * Q.x))) * second -
      C.d * P.x * Q.x * P.y * Q.y * (R.y * (P.y * Q.y + P.x * Q.x) * (1 + C.d * P.x * Q.x * P.y * Q.y) -
        R.x * (P.x * Q.y + P.y * Q.x) * (1 - C.d * P.x * Q.x * P.y * Q.y)) * third

protected theorem add_assoc : P + Q + R = P + (Q + R) := by
  rw [P.add_comm (Q + R), Q.add_comm R]
  ext
  · rw [eq_div_of_mul_eq (add_add_ne_x P Q R) (add_add_x P Q R),
      eq_div_of_mul_eq (add_add_ne_x R Q P) (add_add_x R Q P),
      div_eq_div_iff (add_add_ne_x P Q R) (add_add_ne_x R Q P)]
    exact assoc_x P Q R
  · rw [eq_div_of_mul_eq (add_add_ne_y P Q R) (add_add_y P Q R),
      eq_div_of_mul_eq (add_add_ne_y R Q P) (add_add_y R Q P),
      div_eq_div_iff (add_add_ne_y P Q R) (add_add_ne_y R Q P)]
    exact assoc_y P Q R

instance : AddCommGroup (Point C) where
  add_assoc := Point.add_assoc
  zero_add := Point.zero_add
  add_zero P := (P.add_comm 0).trans P.zero_add
  neg_add_cancel := Point.neg_add
  add_comm := Point.add_comm
  nsmul := nsmulRec
  zsmul := zsmulRec

/-- A zero of `1 + d y²` would make `d` the square of `i / y`. -/
theorem one_add_ne_zero (y : F) : 1 + C.d * y ^ 2 ≠ 0 := by
  intro zero
  have square := C.i_mul_i
  have nonzero : y ≠ 0 := by
    intro none
    rw [none] at zero
    simp at zero
  refine C.nonsquare ⟨C.i / y, ?_⟩
  rw [div_mul_div_comm, eq_div_iff (mul_ne_zero nonzero nonzero)]
  linear_combination zero - square

variable {P Q} in
/-- `y` determines `x` up to its sign. -/
theorem x_eq_or_eq_neg (same : P.y = Q.y) : P.x = Q.x ∨ P.x = -Q.x := by
  have first : P.y ^ 2 - P.x ^ 2 = 1 + C.d * P.x ^ 2 * P.y ^ 2 := P.on
  have second : Q.y ^ 2 - Q.x ^ 2 = 1 + C.d * Q.x ^ 2 * Q.y ^ 2 := Q.on
  rw [same] at first
  have squares : (P.x ^ 2 - Q.x ^ 2) * (1 + C.d * Q.y ^ 2) = 0 := by linear_combination second - first
  have equal := (mul_eq_zero.mp squares).resolve_right (one_add_ne_zero Q.y)
  exact sq_eq_sq_iff_eq_or_eq_neg.mp (sub_eq_zero.mp equal)

end Point

end Carrier.TwistedEdwards
