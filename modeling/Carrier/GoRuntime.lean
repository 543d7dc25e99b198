import Mathlib.Data.Nat.Notation

/-! The part of the Go runtime the models below rely on: a call that may
panic, byte slices, slice expressions and `bytes.Compare`. A nil slice and an empty slice are one
value here; code that tests a slice against nil carries an `Option`. -/
namespace Carrier.GoRuntime

universe u v

/-- A completed call either returned a value or panicked. Functions returning
`(T, error)` put the error inside the value. -/
inductive Outcome (α : Type u) where
  | done (value : α)
  | panic
  deriving DecidableEq, Repr

namespace Outcome

variable {α : Type u} {β : Type v}

def bind (first : Outcome α) (next : α → Outcome β) : Outcome β :=
  match first with
  | .done value => next value
  | .panic => .panic

def map (f : α → β) (first : Outcome α) : Outcome β :=
  first.bind fun value => .done (f value)

@[simp] theorem done_bind (value : α) (next : α → Outcome β) :
    (Outcome.done value).bind next = next value := rfl

@[simp] theorem panic_bind (next : α → Outcome β) :
    (Outcome.panic : Outcome α).bind next = .panic := rfl

@[simp] theorem done_map (f : α → β) (value : α) :
    (Outcome.done value).map f = .done (f value) := rfl

@[simp] theorem panic_map (f : α → β) :
    (Outcome.panic : Outcome α).map f = .panic := rfl

theorem bind_eq_done {first : Outcome α} {next : α → Outcome β} {result : β} :
    first.bind next = .done result ↔ ∃ value, first = .done value ∧ next value = .done result := by
  cases first with
  | done value => simp
  | panic => simp

theorem map_eq_done {f : α → β} {first : Outcome α} {result : β} :
    first.map f = .done result ↔ ∃ value, first = .done value ∧ f value = result := by
  cases first with
  | done value => simp
  | panic => simp

theorem ne_panic_iff {first : Outcome α} : first ≠ .panic ↔ ∃ value, first = .done value := by
  cases first <;> simp

def toOption : Outcome α → Option α
  | .done value => some value
  | .panic => none

theorem toOption_eq_some {first : Outcome α} {value : α} : first.toOption = some value ↔ first = .done value := by
  cases first <;> simp [toOption]

end Outcome

abbrev Bytes := List UInt8

/-- The slice expression `bytes[low:high]`. -/
def slice (bytes : Bytes) (low high : Nat) : Outcome Bytes :=
  if low ≤ high ∧ high ≤ bytes.length then .done ((bytes.take high).drop low) else .panic

/-- Where keys occur once, removing the first value of a key removes all of them. -/
theorem eraseP_key {Value Key : Type} [DecidableEq Key] (keyOf : Value → Key) (key : Key) (values : List Value)
    (apart : values.Pairwise fun left right => keyOf left ≠ keyOf right) :
    values.eraseP (fun value => keyOf value = key) = values.filter fun value => keyOf value ≠ key := by
  induction values with
  | nil => rfl
  | cons value rest ih =>
      obtain ⟨different, restApart⟩ := List.pairwise_cons.mp apart
      by_cases hit : keyOf value = key
      · have absent : ∀ other ∈ rest, decide (keyOf other ≠ key) = true := by
          intro other member
          exact decide_eq_true fun same => different other member (hit.trans same.symm)
        rw [List.eraseP_cons_of_pos (by simpa using hit), List.filter_cons_of_neg (by simpa using hit),
          List.filter_eq_self.mpr absent]
      · simp [hit, ih restApart]

/-- `bytes.Compare`: lexicographic on unsigned bytes, a proper prefix first. -/
def bytesCompare : Bytes → Bytes → Int
  | [], [] => 0
  | [], _ :: _ => -1
  | _ :: _, [] => 1
  | a :: as, b :: bs =>
      if a < b then -1 else if b < a then 1 else bytesCompare as bs

/-- Only the sign `-1` is ever tested, and it is the lexicographic order. -/
theorem bytesCompare_eq_neg_one_iff (left right : Bytes) :
    bytesCompare left right = -1 ↔ left < right := by
  induction left generalizing right with
  | nil => cases right <;> simp [bytesCompare]
  | cons a as ih =>
      cases right with
      | nil => simp [bytesCompare]
      | cons b bs =>
          simp only [bytesCompare, List.cons_lt_cons_iff]
          by_cases below : a < b
          · simp [below]
          · by_cases above : b < a
            · have different : a ≠ b := fun same => absurd above (by simp [same])
              simp [below, above, different]
            · have same : a = b := UInt8.le_antisymm (UInt8.not_lt.mp above) (UInt8.not_lt.mp below)
              simp [same, ih]

end Carrier.GoRuntime
