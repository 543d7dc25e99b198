import Carrier.GroupElement
import Carrier.Curve25519

/-! Points as the 32 bytes of a public key or of the first half of a signature: `y` and, in the
highest bit, whether `x` is odd. `ToBytes` writes them; `FromBytes` finds `x` with a square root,
or finds that there is none. -/
namespace Carrier.PointEncoding

open GoRuntime FieldOps TwistedEdwards GroupElement LittleEndian Curve25519

variable {E : Type} [Arithmetic E]

def affineBytes (X Y Z : E) : Bytes :=
  let recip := feInvert Z
  let x := feMul X recip
  let y := feMul Y recip
  let s := (feToBytes y).1
  s.modify 31 fun b => b ^^^ (feIsNegative x).1 <<< 7

def projectiveToBytes (p : ProjectiveGroupElement E) : Bytes := affineBytes p.X p.Y p.Z

def extendedToBytes (p : ExtendedGroupElement E) : Bytes := affineBytes p.X p.Y p.Z

/-- The square root in `FromBytes`: `x` with `v * x^2 = u`, if there is one. -/
def root (u v : E) : Option E :=
  let v3 := feSquare v
  let v3 := feMul v3 v
  let X := feSquare v3
  let X := feMul X v
  let X := feMul X u
  let X := fePow22523 X
  let X := feMul X v3
  let X := feMul X u
  let vxx := feSquare X
  let vxx := feMul vxx v
  let check := feSub vxx u
  if (feIsNonZero check).1 = 1 then
    let check := feAdd vxx u
    if (feIsNonZero check).1 = 1 then none
    else
      let X := feMul X Arithmetic.sqrtM1
      -- written to `tmpX`, which is not used, but `FeToBytes` leaves the limbs changed
      some (feToBytes X).2
  else some X

def fromBytes (s : Bytes) : Option (ExtendedGroupElement E) :=
  let Y := feFromBytes s
  let Z := feOne
  let u := feSquare Y
  let v := feMul u Arithmetic.d
  let u := feSub u Z
  let v := feAdd v Z
  (root u v).map fun X =>
    let (sign, X) := feIsNegative X
    let X := if sign ≠ s.getD 31 0 >>> 7 then feNeg X else X
    { X := X, Y := Y, Z := Z, T := feMul X Y }

/-- What an implementation of the field owes its bytes. -/
structure ByteLaws (Holds : Nat → E → GF → Prop) : Prop where
  toBytes {k : Nat} {a : E} {x : GF} : k ≤ 3 → Holds k a x →
    (feToBytes a).1 = bytesOf 32 x.val ∧ Holds 2 (feToBytes a).2 x
  fromBytes {s : Bytes} : s.length = 32 → Holds 1 (feFromBytes s) ((number s % 2 ^ 255 : Nat) : GF)

def encode (P : Point curve) : Bytes := bytesOf 32 (P.y.val + 2 ^ 255 * (P.x.val % 2))

set_option maxRecDepth 2000 in
theorem spread_eq_one (x : UInt8) :
    let y := x ||| x >>> 4
    let y := y ||| y >>> 2
    let y := y ||| y >>> 1
    y &&& 1 = 1 ↔ x ≠ 0 := by
  have all : ∀ n : Fin 256,
      let x := UInt8.ofNat n
      let y := x ||| x >>> 4
      let y := y ||| y >>> 2
      let y := y ||| y >>> 1
      y &&& 1 = 1 ↔ x ≠ 0 := by decide
  have this := all ⟨x.toNat, x.toNat_lt⟩
  rwa [UInt8.ofNat_toNat] at this

theorem ofNat_and_one (n : Nat) : UInt8.ofNat n &&& 1 = UInt8.ofNat (n % 2) := by
  apply UInt8.toNat.inj
  rw [UInt8.toNat_and, UInt8.toNat_ofNat', UInt8.toNat_ofNat']
  change n % 2 ^ 8 &&& 1 = _
  rw [Nat.and_one_is_mod]
  omega

theorem xor_sign {n bit : Nat} (small : n < 128) (one : bit < 2) :
    UInt8.ofNat n ^^^ UInt8.ofNat bit <<< 7 = UInt8.ofNat (n + 128 * bit) := by
  have all : ∀ (n : Fin 128) (bit : Fin 2),
      UInt8.ofNat n ^^^ UInt8.ofNat bit <<< 7 = UInt8.ofNat (n.val + 128 * bit.val) := by decide
  exact all ⟨n, small⟩ ⟨bit, one⟩

theorem modify_last {α : Type} (list : List α) (last : α) (f : α → α) :
    (list ++ [last]).modify list.length f = list ++ [f last] := by
  induction list with
  | nil => rfl
  | cons first rest ih => rw [List.cons_append, List.length_cons, List.modify_succ_cons, ih, List.cons_append]

theorem modify_bytesOf {n bit : Nat} (small : n < 2 ^ 255) (one : bit < 2) :
    (bytesOf 32 n).modify 31 (fun b => b ^^^ UInt8.ofNat bit <<< 7) = bytesOf 32 (n + 2 ^ 255 * bit) := by
  have low : bytesOf 31 (n + 2 ^ 255 * bit) = bytesOf 31 n := by
    refine number_injective (by rw [bytesOf_length, bytesOf_length]) ?_
    rw [number_bytesOf, number_bytesOf]
    omega
  have top : (n + 2 ^ 255 * bit) / 256 ^ 31 = n / 256 ^ 31 + 128 * bit := by omega
  have last := modify_last (bytesOf 31 n) (UInt8.ofNat (n / 256 ^ 31)) fun b => b ^^^ UInt8.ofNat bit <<< 7
  rw [bytesOf_length] at last
  rw [bytesOf_succ 31, last, bytesOf_succ 31, low, top, xor_sign (by omega) one]

theorem sign_eq {s : Bytes} (size : s.length = 32) :
    s.getD 31 0 >>> 7 = UInt8.ofNat (number s / 2 ^ 255) ∧ number s / 2 ^ 255 < 2 := by
  have inside : 31 < s.length := by omega
  have last : number (s.drop 31) = (s.getD 31 0).toNat := by
    rw [List.drop_eq_getElem_cons inside, List.drop_of_length_le size.le, List.getD_eq_getElem _ _ inside]
    rfl
  rw [number_drop] at last
  have byte := (s.getD 31 0).toNat_lt
  have whole : number s / 2 ^ 255 = (s.getD 31 0).toNat / 2 ^ 7 := by omega
  refine ⟨UInt8.toNat.inj ?_, by omega⟩
  rw [UInt8.toNat_ofNat', whole, UInt8.toNat_shiftRight]
  change _ >>> 7 = _
  rw [Nat.shiftRight_eq_div_pow]
  omega

theorem neg_val_mod {x : GF} (nonzero : x ≠ 0) : (-x).val % 2 = 1 - x.val % 2 := by
  have small := ZMod.val_lt x
  have odd : p % 2 = 1 := by norm_num [p]
  rw [ZMod.neg_val, if_neg nonzero]
  omega

theorem val_lt_two_pow (x : GF) : x.val < 2 ^ 255 := lt_trans (ZMod.val_lt x) (by norm_num [p])

theorem number_bytesOf_val (x : GF) : number (bytesOf 32 x.val) = x.val := by
  have small := val_lt_two_pow x
  rw [number_bytesOf, Nat.mod_eq_of_lt (by omega)]

theorem number_encode (P : Point curve) :
    number (encode P) % 2 ^ 255 = P.y.val ∧ number (encode P) / 2 ^ 255 = P.x.val % 2 := by
  have small := val_lt_two_pow P.y
  rw [encode, number_bytesOf]
  omega

theorem eq_of_sign {P Q : Point curve} (same : P.y = Q.y) (sign : P.x = 0 ∨ P.x.val % 2 = Q.x.val % 2) :
    P = Q := by
  refine Point.ext ?_ same
  rcases Point.x_eq_or_eq_neg same with equal | opposite
  · exact equal
  · by_cases zero : Q.x = 0
    · rw [opposite, zero, neg_zero]
    · rcases sign with none | parity
      · rw [none] at opposite
        exact absurd (neg_eq_zero.mp opposite.symm) zero
      · rw [opposite, neg_val_mod zero] at parity
        omega

theorem encode_injective {P Q : Point curve} (same : encode P = encode Q) : P = Q := by
  obtain ⟨y, x⟩ := number_encode P
  obtain ⟨y', x'⟩ := number_encode Q
  rw [same] at y x
  exact eq_of_sign (ZMod.val_injective p (y.symm.trans y')) (Or.inr (x.symm.trans x'))

section Laws

variable {Holds : Nat → E → GF → Prop} (laws : Laws curve Holds) (bytes : ByteLaws Holds)

include bytes

theorem feIsNegative_spec {k : Nat} {f : E} {x : GF} (fits : k ≤ 3) (holds : Holds k f x) :
    (feIsNegative f).1 = UInt8.ofNat (x.val % 2) ∧ Holds 2 (feIsNegative f).2 x := by
  obtain ⟨written, left⟩ := bytes.toBytes fits holds
  refine ⟨?_, left⟩
  dsimp only [feIsNegative]
  rw [written, bytesOf, List.headD_cons, ofNat_and_one]

theorem feIsNonZero_spec {k : Nat} {f : E} {x : GF} (fits : k ≤ 3) (holds : Holds k f x) :
    (feIsNonZero f).1 = 1 ↔ x ≠ 0 := by
  obtain ⟨written, _⟩ := bytes.toBytes fits holds
  refine (spread_eq_one ((feToBytes f).1.foldl (fun x b => x ||| b) 0)).trans (not_congr ?_)
  rw [written, foldl_or_eq_zero, number_bytesOf_val, ZMod.val_eq_zero]
  exact and_iff_right rfl

include laws

theorem affineBytes_eq {X Y Z : E} {P : Point curve} {z : GF} (nonzero : z ≠ 0) (first : Holds 2 X (P.x * z))
    (second : Holds 1 Y (P.y * z)) (third : Holds 1 Z z) : affineBytes X Y Z = encode P := by
  have recip := laws.invert third
  rw [pow_eq_inv] at recip
  have x := laws.mul (by decide) (by decide) first recip
  have y := laws.mul (by decide) (by decide) second recip
  rw [mul_assoc, mul_inv_cancel₀ nonzero, mul_one] at x y
  obtain ⟨sign, _⟩ := feIsNegative_spec bytes (by decide) x
  obtain ⟨written, _⟩ := bytes.toBytes (by decide) y
  have small := val_lt_two_pow P.y
  dsimp only [affineBytes]
  rw [written, sign, modify_bytesOf small (Nat.mod_lt _ (by decide)), encode]

theorem extendedToBytes_eq {p : ExtendedGroupElement E} {P : Point curve} (stands : p.Stands Holds P) :
    extendedToBytes p = encode P := by
  obtain ⟨z, nonzero, X, Y, Z, _⟩ := stands
  exact affineBytes_eq laws bytes nonzero X Y Z

theorem projectiveToBytes_eq {p : ProjectiveGroupElement E} {P : Point curve} (stands : p.Stands Holds P) :
    projectiveToBytes p = encode P := by
  obtain ⟨z, nonzero, X, Y, Z⟩ := stands
  exact affineBytes_eq laws bytes nonzero X Y Z

/-- `root` takes a square root of `u / v` where there is one, and only there. -/
theorem root_spec {a b : E} {u v : GF} (top : Holds 2 a u) (bottom : Holds 2 b v) :
    (∃ X x, root a b = some X ∧ Holds 2 X x ∧ v * x ^ 2 = u) ∨
      root a b = none ∧ ∀ x : GF, v * x ^ 2 ≠ u := by
  have v3 : Holds 1 _ (v ^ 3) :=
    laws.as (laws.mul (by decide) (by decide) (laws.square (by decide) bottom) bottom) le_rfl (by ring)
  have base : Holds 1 _ (u * v ^ 7) :=
    laws.as (laws.mul (by decide) (by decide) (laws.mul (by decide) (by decide) (laws.square (by decide) v3)
      bottom) top) le_rfl (by ring)
  have X : Holds 1 _ (candidate u v) :=
    laws.as (laws.mul (by decide) (by decide) (laws.mul (by decide) (by decide) (laws.pow22523 base) v3) top)
      le_rfl (by unfold candidate; generalize (u * v ^ 7) ^ (2 ^ 252 - 3) = t; ring)
  have vxx : Holds 1 _ (v * candidate u v ^ 2) :=
    laws.as (laws.mul (by decide) (by decide) (laws.square (by decide) X) bottom) le_rfl (by ring)
  have minus := feIsNonZero_spec bytes le_rfl (laws.sub (by decide) vxx top)
  have plus := feIsNonZero_spec bytes le_rfl (laws.add (by decide) vxx top)
  rw [Ne, sub_eq_zero] at minus
  rw [Ne, ← eq_neg_iff_add_eq_zero] at plus
  dsimp only [root]
  by_cases same : v * candidate u v ^ 2 = u
  · left
    rw [if_neg (fun one => minus.mp one same)]
    exact ⟨_, _, rfl, laws.mono (by decide) X, same⟩
  · rw [if_pos (minus.mpr same)]
    by_cases opposite : v * candidate u v ^ 2 = -u
    · left
      rw [if_neg (fun one => plus.mp one opposite)]
      obtain ⟨_, left⟩ := bytes.toBytes (by decide) (laws.mul (by decide) (by decide) X laws.sqrtM1)
      refine ⟨_, _, rfl, left, ?_⟩
      have square : curve.i * curve.i = -1 := curve.i_mul_i
      linear_combination -opposite + v * candidate u v ^ 2 * square
    · right
      rw [if_pos (plus.mpr opposite)]
      refine ⟨rfl, fun x square => ?_⟩
      rcases candidate_complete square with found | found
      · exact same found
      · exact opposite found

theorem choose_sign {X : E} {x : GF} (holds : Holds 2 X x) {sign : Nat} (one : sign < 2) :
    ∃ x', Holds 2 (if (feIsNegative X).1 ≠ UInt8.ofNat sign then feNeg (feIsNegative X).2
        else (feIsNegative X).2) x' ∧ x' ^ 2 = x ^ 2 ∧ (x' = 0 ∨ x'.val % 2 = sign) := by
  obtain ⟨parity, left⟩ := feIsNegative_spec bytes (by decide) holds
  have bit : x.val % 2 < 2 := Nat.mod_lt _ (by decide)
  rw [parity]
  by_cases agree : x.val % 2 = sign
  · rw [if_neg (by rw [agree]; exact not_not_intro rfl)]
    exact ⟨x, left, rfl, Or.inr agree⟩
  · have different : UInt8.ofNat (x.val % 2) ≠ UInt8.ofNat sign := by
      intro same
      have bytes := congrArg UInt8.toNat same
      rw [UInt8.toNat_ofNat', UInt8.toNat_ofNat'] at bytes
      omega
    rw [if_pos different]
    refine ⟨-x, laws.neg (by decide) left, neg_sq x, ?_⟩
    by_cases zero : x = 0
    · exact Or.inl (by rw [zero, neg_zero])
    · right
      rw [neg_val_mod zero]
      omega

/-- `FromBytes` takes 32 bytes just where some point has that `y`, and then gives the one with the
sign of the highest bit; where `x` is zero it takes either sign. -/
theorem fromBytes_spec {s : Bytes} (size : s.length = 32) :
    (∃ (p : ExtendedGroupElement E) (P : Point curve), fromBytes s = some p ∧ p.Stands Holds P ∧
        P.y = ((number s % 2 ^ 255 : Nat) : GF) ∧ (P.x = 0 ∨ P.x.val % 2 = number s / 2 ^ 255)) ∨
      (fromBytes s : Option (ExtendedGroupElement E)) = none ∧
        ∀ P : Point curve, P.y ≠ ((number s % 2 ^ 255 : Nat) : GF) := by
  have Y := bytes.fromBytes size
  generalize ((number s % 2 ^ 255 : Nat) : GF) = y at *
  have yy := laws.square (by decide) Y
  have u := laws.sub (by decide) yy laws.one
  have v := laws.add (by decide) (laws.mul (by decide) (by decide) yy laws.d) laws.one
  obtain ⟨sign, one⟩ := sign_eq size
  rcases root_spec laws bytes u v with ⟨X, x, found, holds, square⟩ | ⟨missing, never⟩
  · left
    obtain ⟨x', holds', same, signed⟩ := choose_sign laws bytes holds one
    rw [← sign] at holds'
    have on : curve.On x' y := by
      unfold Curve.On
      rw [same]
      linear_combination -square
    let chosen := if (feIsNegative X).1 ≠ s.getD 31 0 >>> 7 then feNeg (feIsNegative X).2 else (feIsNegative X).2
    refine ⟨{ X := chosen, Y := feFromBytes s, Z := feOne, T := feMul chosen (feFromBytes s) },
      ⟨x', y, on⟩, ?_, ⟨1, one_ne_zero, laws.as holds' le_rfl (mul_one x').symm,
      laws.as Y le_rfl (mul_one y).symm, laws.one,
      laws.as (laws.mul (by decide) (by decide) holds' Y) le_rfl (mul_one _).symm⟩, rfl, signed⟩
    dsimp only [fromBytes]
    rw [found, Option.map_some]
  · right
    refine ⟨by dsimp only [fromBytes]; rw [missing, Option.map_none], fun P same => never P.x ?_⟩
    have on : P.y ^ 2 - P.x ^ 2 = 1 + curve.d * P.x ^ 2 * P.y ^ 2 := P.on
    rw [same] at on
    linear_combination -on

theorem fromBytes_encode (P : Point curve) :
    ∃ p : ExtendedGroupElement E, fromBytes (encode P) = some p ∧ p.Stands Holds P := by
  obtain ⟨low, high⟩ := number_encode P
  have size : (encode P).length = 32 := bytesOf_length 32 _
  rcases fromBytes_spec laws bytes size with ⟨p, Q, read, stands, same, sign⟩ | ⟨_, never⟩
  · rw [low, ZMod.natCast_zmod_val] at same
    rw [high] at sign
    rw [eq_of_sign same sign] at stands
    exact ⟨p, read, stands⟩
  · rw [low, ZMod.natCast_zmod_val] at never
    exact absurd rfl (never P)

end Laws

end Carrier.PointEncoding
