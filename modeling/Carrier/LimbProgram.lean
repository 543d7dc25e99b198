import Mathlib.Algebra.BigOperators.Group.List.Basic
import Mathlib.Algebra.Order.Ring.Abs
import Mathlib.Data.Int.ModEq
import Mathlib.Data.List.GetD
import Mathlib.Tactic.LinearCombination
import Mathlib.Tactic.Ring
import Mathlib.Tactic.Linarith

/-! Straight-line programs on a number that is spread over several machine integers, its limbs.
A step moves what is too large for one limb to another one, or writes off a high limb against
lower ones. `check` follows the ranges of the limbs through a program: where it succeeds, no
operation overflows, the result lies in the ranges it returns, and the number has not changed
modulo `modulus`. -/
namespace Carrier.LimbProgram

/-- A result of signed machine arithmetic. -/
def wrap (width : Nat) (n : Int) : Int := n.bmod (2 ^ width)

def limb (limbs : List Int) (i : Nat) : Int := limbs.getD i 0

/-- The number that limbs of the given weights stand for. -/
def value : (weights limbs : List Int) → Int
  | weight :: weights, limb :: limbs => weight * limb + value weights limbs
  | _, _ => 0

inductive Step where
  /-- `c := (s[source] + round) >> bits; s[target] += c * factor; s[source] -= c << bits` -/
  | carry (source target bits : Nat) (round factor : Int)
  /-- `s[target] += s[source] * factor` for each target, and `s[source] = 0` -/
  | fold (source : Nat) (targets : List (Nat × Int))

/-- `s[target] += s[source] * factor` -/
def add (width source : Nat) (limbs : List Int) (target : Nat × Int) : List Int :=
  limbs.set target.1
    (wrap width (limb limbs target.1 + wrap width (limb limbs source * target.2)))

def exec (width : Nat) (limbs : List Int) : Step → List Int
  | .carry source target bits round factor =>
      let c := wrap width (limb limbs source + round) / 2 ^ bits
      let limbs := limbs.set target (wrap width (limb limbs target + wrap width (c * factor)))
      limbs.set source (wrap width (limb limbs source - wrap width (c * 2 ^ bits)))
  | .fold source targets => (targets.foldl (add width source) limbs).set source 0

def run (width : Nat) (steps : List Step) (limbs : List Int) : List Int :=
  steps.foldl (exec width) limbs

theorem exec_length (width : Nat) (limbs : List Int) (step : Step) :
    (exec width limbs step).length = limbs.length := by
  cases step with
  | carry source target bits round factor => simp [exec]
  | fold source targets =>
      rw [exec, List.length_set]
      induction targets generalizing limbs with
      | nil => rfl
      | cons target rest ih => rw [List.foldl_cons, ih, add, List.length_set]

theorem run_length (width : Nat) (steps : List Step) (limbs : List Int) :
    (run width steps limbs).length = limbs.length := by
  induction steps generalizing limbs with
  | nil => rfl
  | cons step rest ih => rw [run, List.foldl_cons, ← run, ih, exec_length]

abbrev Range := Int × Int

def Range.Mem (range : Range) (n : Int) : Prop := range.1 ≤ n ∧ n ≤ range.2

def Range.scale (range : Range) (factor : Int) : Range :=
  if 0 ≤ factor then (range.1 * factor, range.2 * factor) else (range.2 * factor, range.1 * factor)

def Range.plus (left right : Range) : Range := (left.1 + right.1, left.2 + right.2)

def Range.Fits (width : Nat) (range : Range) : Prop :=
  -2 ^ width ≤ 2 * range.1 ∧ 2 * range.2 < 2 ^ width

instance (width : Nat) (range : Range) : Decidable (range.Fits width) := by
  unfold Range.Fits
  infer_instance

def range (ranges : List Range) (i : Nat) : Range := ranges.getD i (0, 0)

def Within (ranges : List Range) (limbs : List Int) : Prop :=
  ranges.length = limbs.length ∧ ∀ i, (range ranges i).Mem (limb limbs i)

def checkAdd (width source : Nat) (ranges : List Range) (target : Nat × Int) : Option (List Range) :=
  let product := (range ranges source).scale target.2
  let sum := (range ranges target.1).plus product
  if source ≠ target.1 ∧ target.1 < ranges.length ∧ product.Fits width ∧ sum.Fits width then
    some (ranges.set target.1 sum)
  else none

def checkStep (width : Nat) (modulus : Int) (weights : List Int) (ranges : List Range) :
    Step → Option (List Range)
  | .carry source target bits round factor =>
      let before := (range ranges source).plus (round, round)
      let c : Range := (before.1 / 2 ^ bits, before.2 / 2 ^ bits)
      let moved := c.scale factor
      let sum := (range ranges target).plus moved
      let rest : Range := (-round, 2 ^ bits - 1 - round)
      if source ≠ target ∧ source < ranges.length ∧ target < ranges.length ∧ before.Fits width ∧
          moved.Fits width ∧ sum.Fits width ∧ (c.scale (2 ^ bits)).Fits width ∧ rest.Fits width ∧
          (limb weights target * factor - limb weights source * 2 ^ bits) % modulus = 0 then
        some ((ranges.set target sum).set source rest)
      else none
  | .fold source targets =>
      (targets.foldlM (checkAdd width source) ranges).bind fun ranges =>
        if source < ranges.length ∧
            ((targets.map fun target => limb weights target.1 * target.2).sum - limb weights source) %
              modulus = 0 then
          some (ranges.set source (0, 0))
        else none

def check (width : Nat) (modulus : Int) (weights : List Int) (steps : List Step) (ranges : List Range) :
    Option (List Range) :=
  steps.foldlM (checkStep width modulus weights) ranges

theorem wrap_eq {width : Nat} {n : Int} (low : -2 ^ width ≤ 2 * n) (high : 2 * n < 2 ^ width) :
    wrap width n = n := by
  unfold wrap
  refine Int.bmod_eq_of_le_mul_two ?_ ?_
  · push_cast
    linarith
  · push_cast
    linarith

theorem Range.Mem.wrap {width : Nat} {range : Range} {n : Int} (mem : range.Mem n)
    (fits : range.Fits width) : LimbProgram.wrap width n = n :=
  wrap_eq (le_trans fits.1 (by linarith [mem.1])) (lt_of_le_of_lt (by linarith [mem.2]) fits.2)

theorem Range.Mem.scale {range : Range} {n : Int} (mem : range.Mem n) (factor : Int) :
    (range.scale factor).Mem (n * factor) := by
  unfold Range.scale
  split
  · next positive =>
    exact ⟨Int.mul_le_mul_of_nonneg_right mem.1 positive, Int.mul_le_mul_of_nonneg_right mem.2 positive⟩
  · next negative =>
    have below : factor ≤ 0 := by omega
    exact ⟨Int.mul_le_mul_of_nonpos_right mem.2 below, Int.mul_le_mul_of_nonpos_right mem.1 below⟩

theorem Range.Mem.plus {left right : Range} {m n : Int} (first : left.Mem m) (second : right.Mem n) :
    (left.plus right).Mem (m + n) :=
  ⟨add_le_add first.1 second.1, add_le_add first.2 second.2⟩

theorem Range.Mem.shift {range : Range} {n : Int} (mem : range.Mem n) (bits : Nat) :
    Range.Mem (range.1 / 2 ^ bits, range.2 / 2 ^ bits) (n / 2 ^ bits) :=
  ⟨Int.ediv_le_ediv (by positivity) mem.1, Int.ediv_le_ediv (by positivity) mem.2⟩

theorem limb_set (limbs : List Int) (i j : Nat) (n : Int) (inside : i < limbs.length) :
    limb (limbs.set i n) j = if j = i then n else limb limbs j := by
  unfold limb
  by_cases same : j = i
  · subst same
    simp [inside]
  · simp [List.getD_eq_getElem?_getD, List.getElem?_set_ne (Ne.symm same), same]

theorem range_set (ranges : List Range) (i j : Nat) (new : Range) (inside : i < ranges.length) :
    range (ranges.set i new) j = if j = i then new else range ranges j := by
  unfold range
  by_cases same : j = i
  · subst same
    simp [inside]
  · simp [List.getD_eq_getElem?_getD, List.getElem?_set_ne (Ne.symm same), same]

theorem Within.set {ranges : List Range} {limbs : List Int} (within : Within ranges limbs) {i : Nat}
    (inside : i < ranges.length) {new : Range} {n : Int} (mem : new.Mem n) :
    Within (ranges.set i new) (limbs.set i n) := by
  obtain ⟨same, bounds⟩ := within
  refine ⟨by simpa using same, fun j => ?_⟩
  rw [range_set ranges i j new inside, limb_set limbs i j n (by omega)]
  split
  · exact mem
  · exact bounds j

theorem value_set (weights limbs : List Int) (i : Nat) (n : Int) (inside : i < limbs.length) :
    value weights (limbs.set i n) = value weights limbs + limb weights i * (n - limb limbs i) := by
  induction limbs generalizing weights i with
  | nil => exact absurd inside (Nat.not_lt_zero _)
  | cons first rest ih =>
      cases weights with
      | nil => simp [value, limb]
      | cons weight weights =>
          cases i with
          | zero =>
              simp only [List.set_cons_zero, value, limb, List.getD_cons_zero]
              ring
          | succ i =>
              have later := ih weights i (Nat.lt_of_succ_lt_succ inside)
              simp only [List.set_cons_succ, value, limb, List.getD_cons_succ] at later ⊢
              rw [later]
              ring

section Soundness

variable {width : Nat} {modulus : Int} {weights : List Int}

theorem add_sound {source : Nat} {ranges out : List Range} {limbs : List Int} {target : Nat × Int}
    (checked : checkAdd width source ranges target = some out) (within : Within ranges limbs) :
    Within out (add width source limbs target) ∧
      limb (add width source limbs target) source = limb limbs source ∧
      value weights (add width source limbs target) =
        value weights limbs + limb weights target.1 * target.2 * limb limbs source := by
  dsimp only [checkAdd] at checked
  obtain ⟨⟨apart, inside, product_fits, sum_fits⟩, new⟩ := Option.ite_none_right_eq_some.mp checked
  cases new
  have product := (within.2 source).scale target.2
  have sum := (within.2 target.1).plus product
  have exactly : add width source limbs target =
      limbs.set target.1 (limb limbs target.1 + limb limbs source * target.2) := by
    unfold add
    rw [product.wrap product_fits, sum.wrap sum_fits]
  have length : target.1 < limbs.length := within.1 ▸ inside
  rw [exactly, limb_set limbs _ _ _ length, if_neg apart, value_set weights limbs _ _ length]
  exact ⟨within.set inside sum, rfl, by ring⟩

theorem adds_sound {source : Nat} (targets : List (Nat × Int)) :
    ∀ {ranges out : List Range} {limbs : List Int},
      targets.foldlM (checkAdd width source) ranges = some out → Within ranges limbs →
      Within out (targets.foldl (add width source) limbs) ∧
        limb (targets.foldl (add width source) limbs) source = limb limbs source ∧
        value weights (targets.foldl (add width source) limbs) = value weights limbs +
          (targets.map fun target => limb weights target.1 * target.2).sum * limb limbs source := by
  induction targets with
  | nil =>
      intro ranges out limbs checked within
      cases checked
      exact ⟨within, rfl, by simp⟩
  | cons target rest ih =>
      intro ranges out limbs checked within
      rw [List.foldlM_cons] at checked
      obtain ⟨middle, first, later⟩ := Option.bind_eq_some_iff.mp checked
      obtain ⟨within', same, sum⟩ := add_sound first within
      obtain ⟨within'', same', sum'⟩ := ih later within'
      rw [List.foldl_cons, List.map_cons, List.sum_cons]
      refine ⟨within'', same'.trans same, ?_⟩
      rw [sum', same, sum]
      ring

theorem carry_sound {source target bits : Nat} {round factor : Int} {ranges out : List Range}
    {limbs : List Int}
    (checked : checkStep width modulus weights ranges (.carry source target bits round factor) = some out)
    (within : Within ranges limbs) :
    Within out (exec width limbs (.carry source target bits round factor)) ∧
      value weights (exec width limbs (.carry source target bits round factor)) ≡
        value weights limbs [ZMOD modulus] := by
  dsimp only [checkStep] at checked
  obtain ⟨⟨apart, source_inside, target_inside, before_fits, moved_fits, sum_fits, taken_fits, rest_fits,
    weighted⟩, new⟩ := Option.ite_none_right_eq_some.mp checked
  cases new
  have fixed : Range.Mem (round, round) round := ⟨le_refl round, le_refl round⟩
  have before := (within.2 source).plus fixed
  have c := before.shift bits
  have moved := c.scale factor
  have sum := (within.2 target).plus moved
  have taken := c.scale (2 ^ bits)
  have power : (0 : Int) < 2 ^ bits := by positivity
  -- what is left of the source is a remainder, moved down by `round`
  have rest : Range.Mem (-round, 2 ^ bits - 1 - round)
      (limb limbs source - (limb limbs source + round) / 2 ^ bits * 2 ^ bits) := by
    have split := Int.emod_add_ediv_mul (limb limbs source + round) (2 ^ bits)
    have low := Int.emod_nonneg (limb limbs source + round) power.ne'
    have high := Int.emod_lt_of_pos (limb limbs source + round) power
    constructor <;> dsimp only <;> linarith
  have source_length : source < limbs.length := within.1 ▸ source_inside
  have target_length : target < limbs.length := within.1 ▸ target_inside
  have exactly : exec width limbs (.carry source target bits round factor) =
      (limbs.set target (limb limbs target + (limb limbs source + round) / 2 ^ bits * factor)).set source
        (limb limbs source - (limb limbs source + round) / 2 ^ bits * 2 ^ bits) := by
    dsimp only [exec]
    rw [before.wrap before_fits, moved.wrap moved_fits, sum.wrap sum_fits, taken.wrap taken_fits,
      limb_set limbs _ _ _ target_length, if_neg apart, rest.wrap rest_fits]
  rw [exactly]
  refine ⟨(within.set target_inside sum).set (by simpa using source_inside) rest, ?_⟩
  rw [value_set _ _ _ _ (by simpa using source_length), limb_set limbs _ _ _ target_length, if_neg apart,
    value_set _ _ _ _ target_length]
  have same : modulus ∣ limb weights target * factor - limb weights source * 2 ^ bits :=
    Int.dvd_of_emod_eq_zero weighted
  refine (Int.modEq_iff_dvd.mpr ?_).symm
  have change := Dvd.dvd.mul_left same ((limb limbs source + round) / 2 ^ bits)
  ring_nf at change ⊢
  exact change

theorem fold_sound {source : Nat} {targets : List (Nat × Int)} {ranges out : List Range} {limbs : List Int}
    (checked : checkStep width modulus weights ranges (.fold source targets) = some out)
    (within : Within ranges limbs) :
    Within out (exec width limbs (.fold source targets)) ∧
      value weights (exec width limbs (.fold source targets)) ≡ value weights limbs [ZMOD modulus] := by
  dsimp only [checkStep] at checked
  obtain ⟨middle, added, last⟩ := Option.bind_eq_some_iff.mp checked
  obtain ⟨⟨inside, weighted⟩, new⟩ := Option.ite_none_right_eq_some.mp last
  cases new
  obtain ⟨within', same, sum⟩ := adds_sound targets added within
  have length : source < (targets.foldl (add width source) limbs).length := within'.1 ▸ inside
  refine ⟨within'.set inside ⟨le_refl 0, le_refl 0⟩, ?_⟩
  rw [exec, value_set _ _ _ _ length, same, sum]
  have zero : modulus ∣ (targets.map fun target => limb weights target.1 * target.2).sum -
      limb weights source := Int.dvd_of_emod_eq_zero weighted
  refine (Int.modEq_iff_dvd.mpr ?_).symm
  have change := Dvd.dvd.mul_left zero (limb limbs source)
  ring_nf at change ⊢
  exact change

/-- What a program that passes `check` does to limbs in the given ranges. -/
theorem check_sound (steps : List Step) : ∀ {ranges out : List Range} {limbs : List Int},
    check width modulus weights steps ranges = some out → Within ranges limbs →
    Within out (run width steps limbs) ∧
      value weights (run width steps limbs) ≡ value weights limbs [ZMOD modulus] := by
  induction steps with
  | nil =>
      intro ranges out limbs checked within
      cases checked
      exact ⟨within, Int.ModEq.refl _⟩
  | cons step rest ih =>
      intro ranges out limbs checked within
      rw [check, List.foldlM_cons] at checked
      obtain ⟨middle, first, later⟩ := Option.bind_eq_some_iff.mp checked
      have ⟨within', same⟩ : Within middle (exec width limbs step) ∧
          value weights (exec width limbs step) ≡ value weights limbs [ZMOD modulus] := by
        cases step with
        | carry source target bits round factor => exact carry_sound first within
        | fold source targets => exact fold_sound first within
      obtain ⟨within'', same'⟩ := ih later within'
      exact ⟨within'', same'.trans same⟩

end Soundness

theorem Within.cons {first : Range} {ranges : List Range} {n : Int} {limbs : List Int} (mem : first.Mem n)
    (within : Within ranges limbs) : Within (first :: ranges) (n :: limbs) := by
  refine ⟨congrArg (· + 1) within.1, fun i => ?_⟩
  cases i with
  | zero => exact mem
  | succ i => exact within.2 i

def Covers : (outer inner : List Range) → Prop
  | [], [] => True
  | large :: outer, small :: inner => (large.1 ≤ small.1 ∧ small.2 ≤ large.2) ∧ Covers outer inner
  | _, _ => False

instance decidableCovers : (outer inner : List Range) → Decidable (Covers outer inner)
  | [], [] => isTrue trivial
  | _ :: outer, _ :: inner => @instDecidableAnd _ _ _ (decidableCovers outer inner)
  | [], _ :: _ => isFalse id
  | _ :: _, [] => isFalse id

theorem Within.mono {inner outer : List Range} {limbs : List Int} (within : Within inner limbs)
    (covers : Covers outer inner) : Within outer limbs := by
  obtain ⟨length, mem⟩ := within
  induction inner generalizing outer limbs with
  | nil =>
      cases outer with
      | nil => exact ⟨length, mem⟩
      | cons large outer => exact covers.elim
  | cons small inner ih =>
      cases outer with
      | nil => exact covers.elim
      | cons large outer =>
          obtain ⟨n, limbs, rfl⟩ := List.exists_cons_of_length_eq_add_one length.symm
          obtain ⟨⟨low, high⟩, later⟩ := covers
          exact Within.cons ⟨low.trans (mem 0).1, (mem 0).2.trans high⟩
            (ih later (Nat.succ.inj length) fun i => mem (i + 1))

def Passes (width : Nat) (modulus : Int) (weights : List Int) (steps : List Step)
    (ranges outer : List Range) : Prop :=
  match check width modulus weights steps ranges with
  | some out => Covers outer out
  | none => False

instance (width : Nat) (modulus : Int) (weights : List Int) (steps : List Step) (ranges outer : List Range) :
    Decidable (Passes width modulus weights steps ranges outer) := by
  unfold Passes
  split
  · infer_instance
  · infer_instance

theorem Passes.sound {width : Nat} {modulus : Int} {weights limbs : List Int} {steps : List Step}
    {ranges outer : List Range} (passes : Passes width modulus weights steps ranges outer)
    (within : Within ranges limbs) :
    Within outer (run width steps limbs) ∧
      value weights (run width steps limbs) ≡ value weights limbs [ZMOD modulus] := by
  unfold Passes at passes
  split at passes
  · next out checked =>
    obtain ⟨inside, same⟩ := check_sound steps checked within
    exact ⟨inside.mono passes, same⟩
  · exact passes.elim

theorem within_replicate {limbs : List Int} {size : Nat} {bound : Int}
    (length : limbs.length = size) (small : ∀ n ∈ limbs, |n| ≤ bound) :
    Within (List.replicate size (-bound, bound)) limbs := by
  induction limbs generalizing size with
  | nil =>
      subst length
      exact ⟨rfl, fun i => ⟨le_refl _, le_refl _⟩⟩
  | cons n limbs ih =>
      subst length
      exact Within.cons (abs_le.mp (small n List.mem_cons_self))
        (ih rfl fun m member => small m (List.mem_cons_of_mem _ member))

theorem map_wrap {width : Nat} {limbs : List Int} (fits : ∀ i, wrap width (limb limbs i) = limb limbs i) :
    limbs.map (wrap width) = limbs := by
  induction limbs with
  | nil => rfl
  | cons n limbs ih => rw [List.map_cons, ih fun i => fits (i + 1), show wrap width n = n from fits 0]

theorem eq_map_limb (limbs : List Int) : limbs = (List.range limbs.length).map (limb limbs) := by
  refine List.ext_getElem (by simp) fun i left _ => ?_
  simp [limb, left]

theorem limb_map (f : Int → Int) (zero : f 0 = 0) (limbs : List Int) (i : Nat) :
    limb (limbs.map f) i = f (limb limbs i) := by
  unfold limb
  rw [List.getD_eq_getElem?_getD, List.getD_eq_getElem?_getD, List.getElem?_map]
  cases limbs[i]? with
  | none => exact zero.symm
  | some n => rfl

theorem limb_zipWith (f : Int → Int → Int) (zero : f 0 0 = 0) {left right : List Int}
    (same : left.length = right.length) (i : Nat) :
    limb (List.zipWith f left right) i = f (limb left i) (limb right i) := by
  unfold limb
  by_cases inside : i < left.length
  · have inside' : i < right.length := same ▸ inside
    simp [List.getD_eq_getElem?_getD, inside, inside']
  · have outside : right.length ≤ i := by omega
    simp [List.getD_eq_getElem?_getD, Nat.le_of_not_lt inside, outside, zero]

theorem value_linear (weights : List Int) (a b : Int) : ∀ (left right limbs : List Int),
    left.length = limbs.length → right.length = limbs.length →
    (∀ i, limb limbs i = a * limb left i + b * limb right i) →
    value weights limbs = a * value weights left + b * value weights right := by
  induction weights with
  | nil => simp [value]
  | cons weight weights ih =>
      intro left right limbs left_length right_length each
      cases limbs with
      | nil =>
          rw [List.eq_nil_of_length_eq_zero left_length, List.eq_nil_of_length_eq_zero right_length]
          simp [value]
      | cons z limbs =>
          obtain ⟨x, left, rfl⟩ := List.exists_cons_of_length_eq_add_one left_length
          obtain ⟨y, right, rfl⟩ := List.exists_cons_of_length_eq_add_one right_length
          have first := each 0
          have rest := ih left right limbs (Nat.succ.inj left_length) (Nat.succ.inj right_length)
            fun i => each (i + 1)
          simp only [limb, List.getD_cons_zero] at first
          rw [value, value, value, first, rest]
          ring

theorem value_append (weights others : List Int) : ∀ {limbs : List Int} (more : List Int),
    weights.length = limbs.length →
    value (weights ++ others) (limbs ++ more) = value weights limbs + value others more := by
  induction weights with
  | nil =>
      intro limbs more same
      rw [List.eq_nil_of_length_eq_zero same.symm]
      simp [value]
  | cons weight weights ih =>
      intro limbs more same
      obtain ⟨n, limbs, rfl⟩ := List.exists_cons_of_length_eq_add_one same.symm
      rw [List.cons_append, List.cons_append, value, value, ih more (Nat.succ.inj same)]
      ring

theorem within_append {ranges others : List Range} {limbs more : List Int} (first : Within ranges limbs)
    (second : Within others more) : Within (ranges ++ others) (limbs ++ more) := by
  refine ⟨by rw [List.length_append, List.length_append, first.1, second.1], fun i => ?_⟩
  by_cases inside : i < ranges.length
  · have inside' : i < limbs.length := first.1 ▸ inside
    have mem := first.2 i
    unfold range limb at mem ⊢
    rwa [List.getD_append _ _ _ _ inside, List.getD_append _ _ _ _ inside']
  · have outside : ranges.length ≤ i := Nat.le_of_not_lt inside
    have mem := second.2 (i - ranges.length)
    unfold range limb at mem ⊢
    rw [List.getD_append_right _ _ _ _ outside, List.getD_append_right _ _ _ _ (first.1 ▸ outside), ← first.1]
    exact mem

theorem within_take {ranges : List Range} {limbs : List Int} (within : Within ranges limbs) (k : Nat) :
    Within (ranges.take k) (limbs.take k) := by
  refine ⟨by rw [List.length_take, List.length_take, within.1], fun i => ?_⟩
  have mem := within.2 i
  unfold range limb at mem ⊢
  rw [List.getD_eq_getElem?_getD, List.getD_eq_getElem?_getD, List.getElem?_take, List.getElem?_take] at *
  split
  · exact mem
  · exact ⟨le_refl _, le_refl _⟩

theorem take_append_limb (limbs : List Int) {k : Nat} (size : limbs.length = k + 1) :
    limbs.take k ++ [limb limbs k] = limbs := by
  have inside : k < limbs.length := by omega
  have last : limbs.drop k = [limb limbs k] := by
    rw [limb, List.getD_eq_getElem _ _ inside, List.drop_eq_getElem_cons inside,
      List.drop_of_length_le size.le]
  rw [← last, List.take_append_drop]

theorem value_set_weight (weights : List Int) : ∀ (limbs : List Int) {i : Nat} (weight : Int),
    i < weights.length →
    value (weights.set i weight) limbs = value weights limbs + (weight - limb weights i) * limb limbs i := by
  induction weights with
  | nil => exact fun _ _ _ inside => absurd inside (Nat.not_lt_zero _)
  | cons first weights ih =>
      intro limbs i weight inside
      cases limbs with
      | nil => cases i <;> simp [value, limb]
      | cons n limbs =>
          cases i with
          | zero =>
              simp only [List.set_cons_zero, value, limb, List.getD_cons_zero]
              ring
          | succ i =>
              have later := ih limbs weight (Nat.lt_of_succ_lt_succ inside)
              simp only [List.set_cons_succ, value, limb, List.getD_cons_succ] at later ⊢
              rw [later]
              ring

theorem value_sub_weights (left : List Int) : ∀ {right : List Int} (limbs : List Int),
    left.length = right.length →
    value (List.zipWith (· - ·) left right) limbs = value left limbs - value right limbs := by
  induction left with
  | nil =>
      intro right limbs same
      rw [List.eq_nil_of_length_eq_zero same.symm]
      simp [value]
  | cons weight left ih =>
      intro right limbs same
      obtain ⟨other, right, rfl⟩ := List.exists_cons_of_length_eq_add_one same.symm
      cases limbs with
      | nil => simp [value]
      | cons n limbs =>
          rw [List.zipWith_cons_cons, value, value, value, ih limbs (Nat.succ.inj same)]
          ring

def total : (weights : List Int) → (ranges : List Range) → Range
  | weight :: weights, range :: ranges => (range.scale weight).plus (total weights ranges)
  | _, _ => (0, 0)

theorem Within.value_mem (weights : List Int) : ∀ {ranges : List Range} {limbs : List Int},
    Within ranges limbs → (total weights ranges).Mem (value weights limbs) := by
  induction weights with
  | nil => exact fun _ => ⟨le_refl 0, le_refl 0⟩
  | cons weight weights ih =>
      intro ranges limbs within
      cases ranges with
      | nil =>
          rw [List.eq_nil_of_length_eq_zero within.1.symm]
          exact ⟨le_refl 0, le_refl 0⟩
      | cons first ranges =>
          obtain ⟨n, limbs, rfl⟩ := List.exists_cons_of_length_eq_add_one within.1.symm
          have rest := ih ⟨Nat.succ.inj within.1, fun i => within.2 (i + 1)⟩
          rw [total, value, mul_comm]
          exact (Range.Mem.scale (within.2 0) weight).plus rest

/-- Weights that differ only where the limb is zero. -/
theorem Within.value_eq {left right : List Int} {ranges : List Range} {limbs : List Int}
    (within : Within ranges limbs) (same : left.length = right.length)
    (zero : total (List.zipWith (· - ·) left right) ranges = (0, 0)) : value left limbs = value right limbs := by
  have mem := within.value_mem (List.zipWith (· - ·) left right)
  rw [zero, value_sub_weights left limbs same] at mem
  obtain ⟨low, high⟩ := mem
  dsimp only at low high
  linarith

theorem Within.narrow {ranges : List Range} {limbs : List Int} (within : Within ranges limbs) {i : Nat}
    (inside : i < ranges.length) {new : Range} (mem : new.Mem (limb limbs i)) :
    Within (ranges.set i new) limbs := by
  refine ⟨by rw [List.length_set]; exact within.1, fun j => ?_⟩
  rw [range_set ranges i j new inside]
  split
  · next same => rwa [same]
  · exact within.2 j

def dot (left right : List Int) : Int := (List.zipWith (· * ·) left right).sum

theorem abs_dot_le {left right : List Int} {a b : Int} (first : ∀ x ∈ left, |x| ≤ a)
    (second : ∀ y ∈ right, |y| ≤ b) (nonneg : 0 ≤ b) : |dot left right| ≤ left.length * (a * b) := by
  induction left generalizing right with
  | nil => simp [dot]
  | cons x left ih =>
      have x_le := first x List.mem_cons_self
      have a_nonneg : 0 ≤ a := le_trans (abs_nonneg x) x_le
      cases right with
      | nil =>
          simp only [dot, List.zipWith_nil_right, List.sum_nil, abs_zero]
          positivity
      | cons y right =>
          have product : |x * y| ≤ a * b := by
            rw [abs_mul]
            exact mul_le_mul x_le (second y List.mem_cons_self) (abs_nonneg y) a_nonneg
          have rest := ih (fun z member => first z (List.mem_cons_of_mem _ member))
            (fun z member => second z (List.mem_cons_of_mem _ member))
          have sum : dot (x :: left) (y :: right) = x * y + dot left right := by simp [dot]
          calc |dot (x :: left) (y :: right)| ≤ |x * y| + |dot left right| := by rw [sum]; exact abs_add_le _ _
            _ ≤ a * b + left.length * (a * b) := add_le_add product rest
            _ = (x :: left).length * (a * b) := by rw [List.length_cons]; push_cast; ring

def powers (first ratio : Int) : Nat → List Int
  | 0 => []
  | n + 1 => first :: powers (first * ratio) ratio n

theorem value_powers (scale first ratio : Int) (n : Nat) : ∀ limbs : List Int,
    value (powers (scale * first) ratio n) limbs = scale * value (powers first ratio n) limbs := by
  induction n generalizing first with
  | zero => simp [powers, value]
  | succ n ih =>
      intro limbs
      cases limbs with
      | nil => simp [powers, value]
      | cons m limbs =>
          rw [powers, powers, value, value, mul_assoc scale first ratio, ih]
          ring

theorem value_map_add {α : Type} (f g : α → Int) (list : List α) : ∀ weights : List Int,
    value weights (list.map fun x => f x + g x) = value weights (list.map f) + value weights (list.map g) := by
  induction list with
  | nil => simp [value]
  | cons x list ih =>
      intro weights
      cases weights with
      | nil => simp [value]
      | cons weight weights =>
          rw [List.map_cons, List.map_cons, List.map_cons, value, value, value, ih]
          ring

theorem value_map_mul {α : Type} (factor : Int) (f : α → Int) (list : List α) : ∀ weights : List Int,
    value weights (list.map fun x => factor * f x) = factor * value weights (list.map f) := by
  induction list with
  | nil => simp [value]
  | cons x list ih =>
      intro weights
      cases weights with
      | nil => simp [value]
      | cons weight weights =>
          rw [List.map_cons, List.map_cons, value, value, ih]
          ring

theorem value_pad (ratio : Int) (limbs : List Int) : ∀ {n : Nat} (first : Int), limbs.length ≤ n →
    value (powers first ratio n) ((List.range n).map (limb limbs)) =
      value (powers first ratio limbs.length) limbs := by
  induction limbs with
  | nil =>
      intro n first _
      have zeros : (List.range n).map (limb []) = (List.range n).map fun k => 0 * limb [] k :=
        List.map_congr_left fun k _ => by simp [limb]
      rw [zeros, value_map_mul]
      simp [powers, value]
  | cons m limbs ih =>
      intro n first bound
      obtain ⟨n, rfl⟩ := Nat.exists_eq_succ_of_ne_zero (Nat.ne_of_gt (Nat.lt_of_lt_of_le (Nat.succ_pos _) bound))
      have rest := ih (first * ratio) (Nat.le_of_succ_le_succ bound)
      rw [List.range_succ_eq_map, List.map_cons, List.map_map, List.length_cons, powers, value, powers, value]
      rw [← rest]
      rfl

/-- A coefficient of a product: `a[0]*b[k] + a[1]*b[k-1] + .. + a[k]*b[0]`. -/
def coefficient (a b : List Int) (k : Nat) : Int :=
  ((List.range (k + 1)).map fun i => limb a i * limb b (k - i)).sum

theorem coefficient_zero (x : Int) (a b : List Int) : coefficient (x :: a) b 0 = x * limb b 0 := by
  simp [coefficient, limb]

theorem coefficient_succ (x : Int) (a b : List Int) (k : Nat) :
    coefficient (x :: a) b (k + 1) = x * limb b (k + 1) + coefficient a b k := by
  have shifted : (fun i => limb (x :: a) i * limb b (k + 1 - i)) ∘ Nat.succ =
      fun i => limb a i * limb b (k - i) := by
    funext i
    rw [Function.comp_apply, Nat.succ_eq_add_one, Nat.add_sub_add_right]
    rfl
  rw [coefficient, List.range_succ_eq_map, List.map_cons, List.sum_cons, List.map_map, shifted]
  rfl

theorem coefficient_eq_zero {a b : List Int} {k : Nat} (above : a.length + b.length ≤ k + 1) :
    coefficient a b k = 0 := by
  refine List.sum_eq_zero fun n member => ?_
  obtain ⟨i, inside, rfl⟩ := List.mem_map.mp member
  by_cases first : i < a.length
  · rw [limb, limb, List.getD_eq_default b, mul_zero]
    omega
  · rw [limb, List.getD_eq_default a _ (Nat.le_of_not_lt first), zero_mul]

theorem value_coefficients (ratio : Int) (a b : List Int) : ∀ first : Int,
    value (powers first ratio (a.length + b.length)) ((List.range (a.length + b.length)).map (coefficient a b)) =
      value (powers first ratio a.length) a * value (powers 1 ratio b.length) b := by
  induction a with
  | nil =>
      intro first
      have zeros : coefficient [] b = fun k => 0 * limb b k := by
        funext k
        simp [coefficient, limb]
      rw [zeros, value_map_mul]
      simp [powers, value]
  | cons x a ih =>
      intro first
      have one := value_powers first 1 ratio b.length b
      have padded := value_pad ratio b first (Nat.le_add_left b.length (a.length + 1))
      rw [mul_one] at one
      rw [one, Nat.add_right_comm, List.range_succ_eq_map, List.map_cons, List.map_map, powers, value] at padded
      have later : coefficient (x :: a) b ∘ Nat.succ = fun k => x * limb b (k + 1) + coefficient a b k :=
        funext fun k => coefficient_succ x a b k
      rw [List.length_cons, Nat.add_right_comm, List.range_succ_eq_map, List.map_cons, List.map_map, powers,
        value, later, value_map_add, value_map_mul, ih, coefficient_zero, powers, value]
      have same : (fun k => limb b (k + 1)) = limb b ∘ Nat.succ := rfl
      rw [same]
      linear_combination x * padded

end Carrier.LimbProgram
