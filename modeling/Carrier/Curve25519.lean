import Carrier.LucasTest
import Carrier.TwistedEdwards
import Mathlib.Algebra.Field.ZMod
import Mathlib.Tactic.NormNum.Prime

/-! The field of `2^255 - 19` elements and the curve `edwards25519` computes on: the number is
prime, `-1` has a square root modulo it, and `d = -121665/121666` has none. -/
namespace Carrier.Curve25519

open LucasTest TwistedEdwards

def p : Nat := 2 ^ 255 - 19

/-- The primes that the certificates take for granted. -/
def smallPrimes : List Nat :=
  [2, 3, 5, 7, 13, 19, 31, 47, 107, 127, 223, 353, 2437, 4153, 57467, 65147, 75707, 132049, 430751, 569003,
    1923133, 8574133]

theorem smallPrimes_prime : ∀ q ∈ smallPrimes, q.Prime := by
  simp only [smallPrimes, List.forall_mem_cons, List.not_mem_nil, false_implies, implies_true]
  norm_num

def pCertificate : Certificate where
  n := p
  bits := 255
  generator := 2
  factors := [2, 2, 3, 65147, 74058212732561358302231226437062788676166966415465897661863160754340907]

/-- The factors of `p - 1`, their factors and so on, before `p` itself. -/
def certificates : List Certificate :=
  [⟨2773320623, 32, 5, [2, 2437, 569003]⟩,
    ⟨72106336199, 37, 7, [2, 13, 2773320623]⟩,
    ⟨1919519569386763, 51, 2, [2, 3, 7, 19, 47, 47, 127, 8574133]⟩,
    ⟨31757755568855353, 55, 10, [2, 2, 2, 3, 31, 107, 223, 4153, 430751]⟩,
    ⟨75445702479781427272750846543864801, 116, 7,
      [2, 2, 2, 2, 2, 3, 3, 5, 5, 75707, 72106336199, 1919519569386763]⟩,
    ⟨74058212732561358302231226437062788676166966415465897661863160754340907, 236, 2,
      [2, 3, 353, 57467, 132049, 1923133, 31757755568855353, 75445702479781427272750846543864801]⟩,
    pCertificate]

theorem certificates_chain : Chain smallPrimes certificates := by decide +kernel

theorem p_prime : p.Prime :=
  certificates_chain.prime smallPrimes_prime pCertificate (by simp [certificates])

instance : Fact p.Prime := ⟨p_prime⟩

/-- The field, under the name the source has for it. -/
abbrev GF := ZMod p

theorem natCast_eq {m n : Nat} (same : m % p = n % p) : (m : GF) = n :=
  (ZMod.natCast_eq_natCast_iff' m n p).mpr same

theorem natCast_ne {m n : Nat} (different : m % p ≠ n % p) : (m : GF) ≠ n :=
  fun same => different ((ZMod.natCast_eq_natCast_iff' m n p).mp same)

def dValue : Nat := 37095705934669439343138083508754565189542113879843219016388785533085940283555

def sqrtM1Value : Nat := 19681161376707505956807079304988542015446066515923890162744021073123829784752

theorem d_nonsquare : ¬IsSquare (dValue : GF) := by
  refine not_isSquare_of_powMod 255 dValue (by norm_num [p]) ?_ (by decide +kernel)
  rw [← Nat.cast_zero]
  exact natCast_ne (by decide)

theorem sqrtM1_mul_self : (sqrtM1Value : GF) * sqrtM1Value = -1 := by
  rw [eq_neg_iff_add_eq_zero]
  have zero : ((sqrtM1Value * sqrtM1Value + 1 : Nat) : GF) = (0 : Nat) := natCast_eq (by decide)
  push_cast at zero
  exact zero

def curve : Curve GF where
  d := dValue
  i := sqrtM1Value
  i_mul_i := sqrtM1_mul_self
  two_ne_zero := by
    have different : ((2 : Nat) : GF) ≠ (0 : Nat) := natCast_ne (by decide)
    exact_mod_cast different
  nonsquare := d_nonsquare

/-- The point whose multiples the tables of `const.go` hold. -/
def baseX : Nat := 15112221349535400772501151409588531511454012693041857206046113283949847762202

def baseY : Nat := 46316835694926478169428394003475163141307993866256225615783033603165251855960

theorem base_on : curve.On (baseX : GF) (baseY : GF) := by
  have same : ((baseY ^ 2 : Nat) : GF) = ((1 + dValue * baseX ^ 2 * baseY ^ 2 + baseX ^ 2 : Nat) : GF) :=
    natCast_eq (by decide)
  push_cast at same
  exact sub_eq_iff_eq_add.mpr same

def basePoint : Point curve := ⟨baseX, baseY, base_on⟩

theorem basePoint_ne_zero : basePoint ≠ 0 := by
  intro zero
  have same : ((baseX : Nat) : GF) = ((0 : Nat) : GF) := (congrArg Point.x zero).trans Nat.cast_zero.symm
  exact natCast_ne (by decide) same

/-- `group.go` names it `(x, 4/5)` with `x` positive, which is to say even. -/
theorem basePoint_iff {P : Point curve} : P = basePoint ↔ 5 * P.y = 4 ∧ P.x.val % 2 = 0 := by
  have fifth : (5 : GF) * basePoint.y = 4 := by
    have same : ((5 * baseY : Nat) : GF) = ((4 : Nat) : GF) := natCast_eq (by decide)
    exact_mod_cast same
  have value : basePoint.x.val = baseX := ZMod.val_natCast_of_lt (by decide)
  have nonzero : (5 : GF) ≠ 0 := by
    have different : ((5 : Nat) : GF) ≠ (0 : Nat) := natCast_ne (by decide)
    exact_mod_cast different
  constructor
  · rintro rfl
    exact ⟨fifth, by rw [value]; decide⟩
  · rintro ⟨y, even⟩
    have sameY : P.y = basePoint.y := mul_left_cancel₀ nonzero (y.trans fifth.symm)
    rcases Point.x_eq_or_eq_neg sameY with sameX | negated
    · exact Point.ext sameX sameY
    · -- the other point with this `y` has an odd `x`
      have odd : P.x.val = p - baseX := by
        rw [negated, ZMod.neg_val, if_neg fun zero => ?_, value]
        have none := congrArg ZMod.val zero
        rw [value, ZMod.val_zero] at none
        exact absurd none (by decide)
      rw [odd] at even
      exact absurd even (by decide)

/-- `FeInvert` raises to the power `p - 2`. -/
theorem pow_eq_inv (x : GF) : x ^ (2 ^ 255 - 21) = x⁻¹ := by
  by_cases zero : x = 0
  · rw [zero, inv_zero, zero_pow (by norm_num)]
  · have one := ZMod.pow_card_sub_one_eq_one zero
    rw [show p - 1 = 2 ^ 255 - 21 + 1 by norm_num [p], pow_succ] at one
    exact eq_inv_of_mul_eq_one_left one

def candidate (u v : GF) : GF := u * v ^ 3 * (u * v ^ 7) ^ (2 ^ 252 - 3)

theorem candidate_square (u v : GF) :
    v * candidate u v ^ 2 = u * (u * v ^ 7) ^ (2 ^ 253 - 5) := by
  have power : (u * v ^ 7) ^ (2 ^ 253 - 5) = u * v ^ 7 * ((u * v ^ 7) ^ (2 ^ 252 - 3)) ^ 2 := by
    rw [← pow_mul, ← pow_succ', show (2 ^ 252 - 3) * 2 + 1 = 2 ^ 253 - 5 by norm_num]
  unfold candidate
  rw [power]
  generalize (u * v ^ 7) ^ (2 ^ 252 - 3) = t
  ring

/-- Where `u / v` has a square root, the candidate is one, or is one of `-u / v`. -/
theorem candidate_complete {u v x : GF} (square : v * x ^ 2 = u) :
    v * candidate u v ^ 2 = u ∨ v * candidate u v ^ 2 = -u := by
  rw [candidate_square]
  by_cases zero : x * v ^ 4 = 0
  · left
    have none : u = 0 := by
      rcases mul_eq_zero.mp zero with zero | zero
      · rw [← square, zero, zero_pow two_ne_zero, mul_zero]
      · rw [← square, pow_eq_zero_iff four_ne_zero |>.mp zero, zero_mul]
    rw [none, zero_mul]
  · have base : u * v ^ 7 = (x * v ^ 4) ^ 2 := by rw [← square]; ring
    have unity : ((u * v ^ 7) ^ (2 ^ 253 - 5)) ^ 2 = 1 := by
      rw [base, ← pow_mul, ← pow_mul, ← ZMod.pow_card_sub_one_eq_one zero]
      norm_num [p]
    rcases sq_eq_one_iff.mp unity with one | minus
    · exact Or.inl (by rw [one, mul_one])
    · exact Or.inr (by rw [minus, mul_neg_one])

end Carrier.Curve25519
