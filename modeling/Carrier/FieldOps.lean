import Carrier.LittleEndian
import Carrier.TwistedEdwards
import Mathlib.Algebra.GroupWithZero.Units.Basic
import Mathlib.Tactic.NormNum

/-! The field arithmetic `edwards25519` is written against. `FieldElement` and the functions
on it come in two implementations, chosen by the build (`fe.go`, `fe_amd64.go`); `field.go`
and `group.go` use nothing but their names. `Laws` is what an implementation owes them. -/
namespace Carrier.FieldOps

open GoRuntime TwistedEdwards LittleEndian

def load3 (bytes : Bytes) : Nat :=
  (bytes.getD 0 0).toNat ||| (bytes.getD 1 0).toNat <<< 8 ||| (bytes.getD 2 0).toNat <<< 16

def load4 (bytes : Bytes) : Nat :=
  (bytes.getD 0 0).toNat ||| (bytes.getD 1 0).toNat <<< 8 ||| (bytes.getD 2 0).toNat <<< 16 |||
    (bytes.getD 3 0).toNat <<< 24

theorem or_shiftLeft {low high bits : Nat} (small : low < 2 ^ bits) :
    low ||| high <<< bits = low + 2 ^ bits * high := by
  rw [Nat.or_comm, ← Nat.shiftLeft_add_eq_or_of_lt small, Nat.shiftLeft_eq, Nat.mul_comm, Nat.add_comm]

theorem load3_eq (bytes : Bytes) : load3 bytes = number (bytes.take 3) := by
  have numbered : number (bytes.take 3) = (bytes.getD 0 0).toNat + 2 ^ 8 * (bytes.getD 1 0).toNat +
      2 ^ 16 * (bytes.getD 2 0).toNat := by
    match bytes with
    | [] => rfl
    | [a] => rfl
    | [a, b] =>
        simp [number]
    | a :: b :: c :: rest =>
        simp [number]
        omega
  have first := (bytes.getD 0 0).toNat_lt
  have second := (bytes.getD 1 0).toNat_lt
  have pair : (bytes.getD 0 0).toNat ||| (bytes.getD 1 0).toNat <<< 8 =
      (bytes.getD 0 0).toNat + 2 ^ 8 * (bytes.getD 1 0).toNat := or_shiftLeft first
  rw [load3, pair, or_shiftLeft (by omega), numbered]

theorem load4_eq (bytes : Bytes) : load4 bytes = number (bytes.take 4) := by
  have numbered : number (bytes.take 4) = number (bytes.take 3) + 2 ^ 24 * (bytes.getD 3 0).toNat := by
    match bytes with
    | [] => rfl
    | [a] => rfl
    | [a, b] => rfl
    | [a, b, c] => rfl
    | a :: b :: c :: d :: rest =>
        simp [number]
        omega
  have low := number_lt (bytes.take 3)
  have size : 256 ^ (bytes.take 3).length ≤ 256 ^ 3 := Nat.pow_le_pow_right (by decide) (List.length_take_le 3 _)
  have three := load3_eq bytes
  unfold load3 at three
  rw [load4, three, or_shiftLeft (by omega), numbered]

theorem load3_split (bytes : Bytes) :
    load3 bytes < 2 ^ 24 ∧ number bytes = load3 bytes + 2 ^ 24 * number (bytes.drop 3) := by
  rw [load3_eq]
  refine ⟨?_, number_split bytes 3⟩
  rw [number_take]
  exact Nat.mod_lt _ (by decide)

theorem load4_split (bytes : Bytes) :
    load4 bytes < 2 ^ 32 ∧ number bytes = load4 bytes + 2 ^ 32 * number (bytes.drop 4) := by
  rw [load4_eq]
  refine ⟨?_, number_split bytes 4⟩
  rw [number_take]
  exact Nat.mod_lt _ (by decide)

/-- `feToBytes` also returns what it leaves of its argument, which the source passes by pointer. -/
class Arithmetic (E : Type) where
  feZero : E
  feOne : E
  feAdd : E → E → E
  feSub : E → E → E
  feNeg : E → E
  feMul : E → E → E
  feSquare : E → E
  feSquare2 : E → E
  feCMove : E → E → BitVec 32 → E
  feToBytes : E → Bytes × E
  feFromBytes : Bytes → E
  d : E
  d2 : E
  sqrtM1 : E

export Arithmetic (feZero feOne feAdd feSub feNeg feMul feSquare feSquare2 feCMove feToBytes
  feFromBytes)

variable {E : Type} [Arithmetic E]

/-- `FeSquare` and the loop that follows it, `n` squarings together. -/
def squares : Nat → E → E
  | 0, z => z
  | n + 1, z => feSquare (squares n z)

def feInvert (z : E) : E :=
  let t0 := squares 1 z
  let t1 := squares 2 t0
  let t1 := feMul z t1
  let t0 := feMul t0 t1
  let t2 := squares 1 t0
  let t1 := feMul t1 t2
  let t2 := squares 5 t1
  let t1 := feMul t2 t1
  let t2 := squares 10 t1
  let t2 := feMul t2 t1
  let t3 := squares 20 t2
  let t2 := feMul t3 t2
  let t2 := squares 10 t2
  let t1 := feMul t2 t1
  let t2 := squares 50 t1
  let t2 := feMul t2 t1
  let t3 := squares 100 t2
  let t2 := feMul t3 t2
  let t2 := squares 50 t2
  let t1 := feMul t2 t1
  let t1 := squares 5 t1
  feMul t1 t0

def fePow22523 (z : E) : E :=
  let t0 := squares 1 z
  let t1 := squares 2 t0
  let t1 := feMul z t1
  let t0 := feMul t0 t1
  let t0 := squares 1 t0
  let t0 := feMul t1 t0
  let t1 := squares 5 t0
  let t0 := feMul t1 t0
  let t1 := squares 10 t0
  let t1 := feMul t1 t0
  let t2 := squares 20 t1
  let t1 := feMul t2 t1
  let t1 := squares 10 t1
  let t0 := feMul t1 t0
  let t1 := squares 50 t0
  let t1 := feMul t1 t0
  let t2 := squares 100 t1
  let t1 := feMul t2 t1
  let t1 := squares 50 t1
  let t0 := feMul t1 t0
  let t0 := squares 2 t0
  feMul t0 z

def feIsNegative (f : E) : UInt8 × E :=
  let (s, f) := feToBytes f
  (s.headD 0 &&& 1, f)

def feIsNonZero (f : E) : UInt8 × E :=
  let (s, f) := feToBytes f
  let x := s.foldl (fun x b => x ||| b) 0
  let x := x ||| x >>> 4
  let x := x ||| x >>> 2
  let x := x ||| x >>> 1
  (x &&& 1, f)

variable {F : Type} [Field F]

/-- `Holds size e x` says that `e` stands for `x` and that its limbs are at most `size` times
those of a reduced element. Sums and differences are not reduced; three reduced elements
together are the most the multiplications take. -/
structure Laws (C : Curve F) (Holds : Nat → E → F → Prop) : Prop where
  mono {i j : Nat} {a : E} {x : F} : i ≤ j → Holds i a x → Holds j a x
  zero : Holds 1 feZero 0
  one : Holds 1 feOne 1
  add {i j : Nat} {a b : E} {x y : F} : i + j ≤ 3 → Holds i a x → Holds j b y →
    Holds (i + j) (feAdd a b) (x + y)
  sub {i j : Nat} {a b : E} {x y : F} : i + j ≤ 3 → Holds i a x → Holds j b y →
    Holds (i + j) (feSub a b) (x - y)
  neg {i : Nat} {a : E} {x : F} : i ≤ 3 → Holds i a x → Holds i (feNeg a) (-x)
  mul {i j : Nat} {a b : E} {x y : F} : i ≤ 3 → j ≤ 3 → Holds i a x → Holds j b y →
    Holds 1 (feMul a b) (x * y)
  square {i : Nat} {a : E} {x : F} : i ≤ 3 → Holds i a x → Holds 1 (feSquare a) (x ^ 2)
  square2 {i : Nat} {a : E} {x : F} : i ≤ 3 → Holds i a x → Holds 1 (feSquare2 a) (2 * x ^ 2)
  keep {a b : E} {x y : F} : Holds 1 a x → Holds 1 b y → Holds 1 (feCMove a b 0) x
  move {a b : E} {x y : F} : Holds 1 a x → Holds 1 b y → Holds 1 (feCMove a b 1) y
  d : Holds 1 (Arithmetic.d : E) C.d
  d2 : Holds 1 (Arithmetic.d2 : E) (2 * C.d)
  sqrtM1 : Holds 1 (Arithmetic.sqrtM1 : E) C.i

namespace Laws

variable {C : Curve F} {Holds : Nat → E → F → Prop} (laws : Laws C Holds)

include laws

theorem as {i j : Nat} {a : E} {x y : F} (holds : Holds i a x) (le : i ≤ j) (same : x = y) :
    Holds j a y :=
  same ▸ laws.mono le holds

theorem power_mul {a b : E} {x : F} {m n : Nat} (first : Holds 1 a (x ^ m)) (second : Holds 1 b (x ^ n)) :
    Holds 1 (feMul a b) (x ^ (m + n)) := by
  rw [pow_add]
  exact laws.mul (by decide) (by decide) first second

theorem power_squares {a : E} {x : F} {m : Nat} (first : Holds 1 a (x ^ m)) (n : Nat) :
    Holds 1 (squares n a) (x ^ (m * 2 ^ n)) := by
  induction n with
  | zero => rwa [squares, pow_zero, mul_one]
  | succ n ih =>
      have squared := laws.square (by decide) ih
      rwa [← pow_mul, mul_assoc, ← pow_succ] at squared

/-- The chain both powers go through; the exponents are those the source notes beside it. -/
theorem power_chain {t : E} {x : F} (first : Holds 1 t (x ^ (2 ^ 5 - 1))) :
    let t1 := feMul (squares 5 t) t
    let t2 := feMul (squares 10 t1) t1
    let t2 := feMul (squares 20 t2) t2
    let t1 := feMul (squares 10 t2) t1
    let t2 := feMul (squares 50 t1) t1
    let t2 := feMul (squares 100 t2) t2
    Holds 1 (feMul (squares 50 t2) t1) (x ^ (2 ^ 250 - 1)) := by
  have t1 : Holds 1 _ (x ^ (2 ^ 10 - 1)) := laws.power_mul (laws.power_squares first 5) first
  have t2 : Holds 1 _ (x ^ (2 ^ 20 - 1)) := laws.power_mul (laws.power_squares t1 10) t1
  have t2 : Holds 1 _ (x ^ (2 ^ 40 - 1)) := laws.power_mul (laws.power_squares t2 20) t2
  have t1 : Holds 1 _ (x ^ (2 ^ 50 - 1)) := laws.power_mul (laws.power_squares t2 10) t1
  have t2 : Holds 1 _ (x ^ (2 ^ 100 - 1)) := laws.power_mul (laws.power_squares t1 50) t1
  have t2 : Holds 1 _ (x ^ (2 ^ 200 - 1)) := laws.power_mul (laws.power_squares t2 100) t2
  exact laws.power_mul (laws.power_squares t2 50) t1

theorem invert {z : E} {x : F} (holds : Holds 1 z x) : Holds 1 (feInvert z) (x ^ (2 ^ 255 - 21)) := by
  have z : Holds 1 z (x ^ 1) := by rwa [pow_one]
  have t0 : Holds 1 _ (x ^ 2) := laws.power_squares z 1
  have t1 : Holds 1 _ (x ^ 9) := laws.power_mul z (laws.power_squares t0 2)
  have t0 : Holds 1 _ (x ^ 11) := laws.power_mul t0 t1
  have t1 : Holds 1 _ (x ^ (2 ^ 5 - 1)) := laws.power_mul t1 (laws.power_squares t0 1)
  exact laws.power_mul (laws.power_squares (laws.power_chain t1) 5) t0

theorem pow22523 {z : E} {x : F} (holds : Holds 1 z x) :
    Holds 1 (fePow22523 z) (x ^ (2 ^ 252 - 3)) := by
  have z : Holds 1 z (x ^ 1) := by rwa [pow_one]
  have t0 : Holds 1 _ (x ^ 2) := laws.power_squares z 1
  have t1 : Holds 1 _ (x ^ 9) := laws.power_mul z (laws.power_squares t0 2)
  have t0 : Holds 1 _ (x ^ 11) := laws.power_mul t0 t1
  have t0 : Holds 1 _ (x ^ (2 ^ 5 - 1)) := laws.power_mul t1 (laws.power_squares t0 1)
  exact laws.power_mul (laws.power_squares (laws.power_chain t0) 2) z

end Laws

end Carrier.FieldOps
