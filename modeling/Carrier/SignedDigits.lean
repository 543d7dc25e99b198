import Mathlib.Algebra.Module.NatInt
import Mathlib.Algebra.Ring.Int.Parity
import Mathlib.Tactic.Ring

/-! Numbers written with digits that may be negative, the lowest digit first. -/
namespace Carrier.SignedDigits

def value (base : Int) : List Int → Int
  | [] => 0
  | digit :: rest => digit + base * value base rest

theorem value_append (base : Int) (low high : List Int) :
    value base (low ++ high) = value base low + base ^ low.length * value base high := by
  induction low with
  | nil => simp [value]
  | cons digit rest ih =>
      simp only [List.cons_append, value, ih, List.length_cons, pow_succ]
      ring

theorem value_pairs {α : Type*} (base : Int) (low high : α → Int) (items : List α) :
    value base (items.flatMap fun item => [low item, high item]) =
      value (base * base) (items.map fun item => low item + base * high item) := by
  induction items with
  | nil => rfl
  | cons item rest ih =>
      simp only [List.flatMap_cons, List.cons_append, List.nil_append, List.map_cons, value, ih]
      ring

def evens : List Int → List Int
  | [] => []
  | [digit] => [digit]
  | digit :: _ :: rest => digit :: evens rest

def odds : List Int → List Int
  | [] => []
  | [_] => []
  | _ :: digit :: rest => digit :: odds rest

theorem value_evens_odds (base : Int) : ∀ digits : List Int,
    value base digits = value (base * base) (evens digits) + base * value (base * base) (odds digits)
  | [] => by simp [value, evens, odds]
  | [digit] => by simp [value, evens, odds]
  | first :: second :: rest => by
      simp only [value, evens, odds, value_evens_odds base rest]
      ring

theorem evens_subset : ∀ digits : List Int, evens digits ⊆ digits
  | [] => fun _ member => member
  | [_] => fun _ member => member
  | _ :: second :: rest => List.cons_subset_cons _ (List.subset_cons_of_subset second (evens_subset rest))

theorem odds_subset : ∀ digits : List Int, odds digits ⊆ digits
  | [] => fun _ member => member
  | [_] => fun _ member => (nomatch member)
  | first :: _ :: rest => List.subset_cons_of_subset first (List.cons_subset_cons _ (odds_subset rest))

theorem evens_length : ∀ digits : List Int, (evens digits).length = (digits.length + 1) / 2
  | [] => rfl
  | [_] => by simp [evens]
  | _ :: _ :: rest => by simp only [evens, List.length_cons, evens_length rest]; omega

theorem odds_length : ∀ digits : List Int, (odds digits).length = digits.length / 2
  | [] => rfl
  | [_] => by simp [odds]
  | _ :: _ :: rest => by simp only [odds, List.length_cons, odds_length rest]; omega

/-- The multiple of an element of a group, digit by digit from the top. -/
theorem value_cons_smul {G : Type*} [AddCommGroup G] (base digit : Int) (rest : List Int) (element : G) :
    value base (digit :: rest) • element = base • (value base rest • element) + digit • element := by
  rw [value, add_smul, mul_smul, add_comm]

def Bits (digits : List Int) : Prop := ∀ digit ∈ digits, digit = 0 ∨ digit = 1

theorem Bits.head {digit : Int} {rest : List Int} (bits : Bits (digit :: rest)) : digit = 0 ∨ digit = 1 :=
  bits digit List.mem_cons_self

theorem Bits.tail {digit : Int} {rest : List Int} (bits : Bits (digit :: rest)) : Bits rest :=
  fun other member => bits other (List.mem_cons_of_mem _ member)

theorem Bits.cons {digit : Int} {rest : List Int} (bit : digit = 0 ∨ digit = 1) (bits : Bits rest) :
    Bits (digit :: rest) := by
  intro other member
  rcases List.mem_cons.mp member with rfl | later
  · exact bit
  · exact bits other later

theorem Bits.value_bounds {digits : List Int} (bits : Bits digits) :
    0 ≤ value 2 digits ∧ value 2 digits < 2 ^ digits.length := by
  induction digits with
  | nil => simp [value]
  | cons digit rest ih =>
      obtain ⟨low, high⟩ := ih bits.tail
      have bit := bits.head
      rw [value, List.length_cons, pow_succ]
      omega

/-- One is added to bits: the ones at the front turn to zeros and the zero behind them to
a one. With ones only, the carry is lost at the end. -/
def increment : List Int → List Int
  | [] => []
  | digit :: rest => if digit = 0 then 1 :: rest else 0 :: increment rest

theorem increment_length (digits : List Int) : (increment digits).length = digits.length := by
  induction digits with
  | nil => rfl
  | cons digit rest ih =>
      unfold increment
      split
      · rfl
      · rw [List.length_cons, ih, List.length_cons]

theorem Bits.increment {digits : List Int} (bits : Bits digits) : Bits (increment digits) := by
  induction digits with
  | nil => exact bits
  | cons digit rest ih =>
      unfold SignedDigits.increment
      split
      · exact bits.tail.cons (Or.inr rfl)
      · exact (ih bits.tail).cons (Or.inl rfl)

theorem Bits.value_increment {digits : List Int} (bits : Bits digits)
    (room : value 2 digits + 1 < 2 ^ digits.length) :
    value 2 (SignedDigits.increment digits) = value 2 digits + 1 := by
  induction digits with
  | nil => simp [value] at room
  | cons digit rest ih =>
      rw [value, List.length_cons, pow_succ] at room
      unfold SignedDigits.increment
      rcases bits.head with rfl | rfl
      · rw [if_pos rfl, value, value]
        ring
      · rw [if_neg one_ne_zero, value, value, ih bits.tail (by omega)]
        ring

end Carrier.SignedDigits
