import Mathlib.Data.Nat.Bitwise

/-! Levels of the exclusive-or metric on naturals. The level of a difference is
the position of its highest set bit, with 0 and 1 sharing level 0. A point of a
higher level is farther from those below it than they are from each other. -/
namespace Carrier.XorMetric

abbrev level (difference : Nat) : Nat := difference.log2

theorem lt_two_pow_of_level_lt {a k : Nat} (below : level a < k) : a < 2 ^ k :=
  Nat.lt_of_lt_of_le Nat.lt_log2_self (Nat.pow_le_pow_right (by decide) below)

theorem ne_zero_of_level_pos {a : Nat} (positive : 0 < level a) : a ≠ 0 := by
  rintro rfl
  simp [level] at positive

theorem two_pow_le_xor {low high : Nat} (apart : level low < level high) :
    2 ^ level high ≤ low ^^^ high := by
  apply Nat.ge_two_pow_of_testBit
  have absent : low.testBit (level high) = false :=
    Nat.testBit_lt_two_pow (lt_two_pow_of_level_lt apart)
  have present : high.testBit (level high) = true :=
    Nat.testBit_log2 (ne_zero_of_level_pos (Nat.zero_lt_of_lt apart))
  simp [Nat.testBit_xor, absent, present]

/-- A point above both others is farther from either than they are from each other. -/
theorem xor_lt_of_level_above {near far target : Nat}
    (nearBelow : level near < level far) (targetBelow : level target < level far) :
    near ^^^ target < far ^^^ target := by
  have bounded : near ^^^ target < 2 ^ level far :=
    Nat.xor_lt_two_pow (lt_two_pow_of_level_lt nearBelow) (lt_two_pow_of_level_lt targetBelow)
  have reached := two_pow_le_xor targetBelow
  rw [Nat.xor_comm] at reached
  omega

theorem xor_lt_two_pow_of_same_level {left right : Nat} (positive : 0 < level right)
    (same : level left = level right) : left ^^^ right < 2 ^ level right := by
  have leftNonzero : left ≠ 0 := ne_zero_of_level_pos (same ▸ positive)
  have rightNonzero : right ≠ 0 := ne_zero_of_level_pos positive
  apply Nat.lt_pow_two_of_testBit
  intro position above
  rw [Nat.testBit_xor]
  rcases Nat.eq_or_lt_of_le above with top | higher
  · have leftTop : left.testBit (level right) = true := same ▸ Nat.testBit_log2 leftNonzero
    have rightTop : right.testBit (level right) = true := Nat.testBit_log2 rightNonzero
    rw [← top, leftTop, rightTop, Bool.xor_self]
  · have leftClear : left.testBit position = false :=
      Nat.testBit_lt_two_pow (lt_two_pow_of_level_lt (same ▸ higher))
    have rightClear : right.testBit position = false :=
      Nat.testBit_lt_two_pow (lt_two_pow_of_level_lt higher)
    rw [leftClear, rightClear, Bool.xor_self]

/-- A point of the target's level is nearer to it than a point of any other level. -/
theorem xor_lt_of_same_level {near far target : Nat} (same : level near = level target)
    (apart : level far ≠ level target) : near ^^^ target < far ^^^ target := by
  rcases Nat.lt_or_gt_of_ne apart with below | above
  · calc near ^^^ target < 2 ^ level target :=
          xor_lt_two_pow_of_same_level (Nat.zero_lt_of_lt below) same
      _ ≤ far ^^^ target := two_pow_le_xor below
  · exact xor_lt_of_level_above (same ▸ above) above

/-- Moving both points by one mask keeps their distance. -/
theorem xor_xor_mask (left right mask : Nat) :
    (left ^^^ mask) ^^^ (right ^^^ mask) = left ^^^ right := by
  rw [Nat.xor_comm right, ← Nat.xor_assoc, Nat.xor_assoc left, Nat.xor_self, Nat.xor_zero]

end Carrier.XorMetric
