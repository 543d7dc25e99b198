import Mathlib.Data.List.Prime
import Mathlib.NumberTheory.LucasPrimality
import Mathlib.NumberTheory.LegendreSymbol.Basic

/-! Primality and squares modulo a large prime, decided by powers that the kernel can compute. -/
namespace Carrier.LucasTest

/-- `base ^ exponent % modulus` from the low `bits` bits of the exponent. -/
def powMod (modulus : Nat) : (bits base exponent : Nat) → Nat
  | 0, _, _ => 1 % modulus
  | bits + 1, base, exponent =>
      let power := powMod modulus bits (base * base % modulus) (exponent / 2)
      if exponent % 2 = 0 then power else base * power % modulus

theorem powMod_eq (modulus : Nat) : ∀ bits base exponent : Nat, exponent < 2 ^ bits →
    powMod modulus bits base exponent = base ^ exponent % modulus
  | 0, base, exponent, small => by
      have zero : exponent = 0 := Nat.lt_one_iff.mp small
      rw [powMod, zero, pow_zero]
  | bits + 1, base, exponent, small => by
      have half : exponent / 2 < 2 ^ bits := by
        rw [pow_succ] at small
        omega
      have power : powMod modulus bits (base * base % modulus) (exponent / 2) =
          base ^ (2 * (exponent / 2)) % modulus := by
        rw [powMod_eq modulus bits _ _ half, ← Nat.pow_mod, ← sq, ← pow_mul]
      rw [powMod, power]
      split
      · next even => rw [show 2 * (exponent / 2) = exponent by omega]
      · next odd =>
        rw [Nat.mul_mod_mod, ← pow_succ', show 2 * (exponent / 2) + 1 = exponent by omega]

theorem zmod_pow_eq {modulus : Nat} (base exponent bits : Nat) (small : exponent < 2 ^ bits) :
    (base : ZMod modulus) ^ exponent = (powMod modulus bits base exponent : Nat) := by
  rw [powMod_eq modulus bits base exponent small, ZMod.natCast_mod, Nat.cast_pow]

theorem zmod_pow_eq_one {modulus : Nat} (large : 1 < modulus) (base exponent bits : Nat)
    (small : exponent < 2 ^ bits) :
    (base : ZMod modulus) ^ exponent = 1 ↔ powMod modulus bits base exponent = 1 := by
  rw [zmod_pow_eq base exponent bits small, ← Nat.cast_one (R := ZMod modulus),
    ZMod.natCast_eq_natCast_iff', Nat.mod_eq_of_lt large, powMod_eq modulus bits base exponent small,
    Nat.mod_mod]

/-- Lucas's test, with the factorisation of `n - 1` and an element of that order. -/
theorem prime_of_lucas {n : Nat} (bits generator : Nat) (factors : List Nat) (large : 1 < n)
    (fits : n < 2 ^ bits) (primes : ∀ q ∈ factors, q.Prime) (product : factors.prod = n - 1)
    (one : powMod n bits generator (n - 1) = 1)
    (order : ∀ q ∈ factors, powMod n bits generator ((n - 1) / q) ≠ 1) : n.Prime := by
  refine lucas_primality n (generator : ZMod n) ?_ ?_
  · exact (zmod_pow_eq_one large _ _ bits (by omega)).mpr one
  · intro q prime divides
    rw [← product] at divides
    obtain ⟨factor, member, divides'⟩ := (Prime.dvd_prod_iff prime.prime).mp divides
    have same : q = factor := (Nat.prime_dvd_prime_iff_eq prime (primes factor member)).mp divides'
    subst same
    have small : (n - 1) / q < 2 ^ bits := lt_of_le_of_lt (Nat.div_le_self _ _) (by omega)
    rw [Ne, zmod_pow_eq_one large _ _ bits small]
    exact order q member

structure Certificate where
  n : Nat
  bits : Nat
  generator : Nat
  factors : List Nat

/-- The certificates in order: the factors of each are `known`, or the number of an earlier one. -/
def Chain : (known : List Nat) → List Certificate → Prop
  | _, [] => True
  | known, c :: rest =>
      (1 < c.n ∧ c.n < 2 ^ c.bits ∧ (∀ q ∈ c.factors, q ∈ known) ∧ c.factors.prod = c.n - 1 ∧
        powMod c.n c.bits c.generator (c.n - 1) = 1 ∧
        ∀ q ∈ c.factors, powMod c.n c.bits c.generator ((c.n - 1) / q) ≠ 1) ∧ Chain (c.n :: known) rest

instance decidableChain : (known : List Nat) → (certificates : List Certificate) →
    Decidable (Chain known certificates)
  | _, [] => isTrue trivial
  | known, c :: rest => @instDecidableAnd _ _ inferInstance (decidableChain (c.n :: known) rest)

theorem Chain.prime {known : List Nat} {certificates : List Certificate} (chain : Chain known certificates)
    (primes : ∀ q ∈ known, q.Prime) : ∀ c ∈ certificates, c.n.Prime := by
  induction certificates generalizing known with
  | nil => exact fun _ member => absurd member List.not_mem_nil
  | cons first rest ih =>
      obtain ⟨⟨large, fits, factors, product, one, order⟩, later⟩ := chain
      have prime : first.n.Prime :=
        prime_of_lucas first.bits first.generator first.factors large fits
          (fun q member => primes q (factors q member)) product one order
      exact List.forall_mem_cons.mpr ⟨prime, ih later (List.forall_mem_cons.mpr ⟨prime, primes⟩)⟩

/-- Euler's criterion, evaluated. -/
theorem not_isSquare_of_powMod {modulus : Nat} [Fact modulus.Prime] (bits number : Nat)
    (fits : modulus < 2 ^ bits) (nonzero : (number : ZMod modulus) ≠ 0)
    (power : powMod modulus bits number (modulus / 2) ≠ 1) : ¬IsSquare (number : ZMod modulus) := by
  rw [ZMod.euler_criterion modulus nonzero,
    zmod_pow_eq_one (Fact.out (p := modulus.Prime)).one_lt _ _ bits (by omega)]
  exact power

end Carrier.LucasTest
