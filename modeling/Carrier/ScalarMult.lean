import Carrier.GroupElement
import Carrier.ScalarRecoding
import Mathlib.Tactic.Abel

/-! Multiplication of points in `group.go`: `GeDoubleScalarMultVartime`, with which a signature
is verified, and `GeScalarMultBase`, with which keys and signatures are made. -/
namespace Carrier.ScalarMult

open GoRuntime FieldOps TwistedEdwards GroupElement ScalarRecoding SignedDigits

/-- The tables of multiples of the base point in `const.go`. -/
class Tables (E : Type) where
  bi : List (PreComputedGroupElement E)
  base : List (List (PreComputedGroupElement E))

variable {E : Type} [Arithmetic E]

def entry {Q : Type} (table : List Q) (i : Int) : Outcome Q :=
  if i < 0 then .panic
  else
    match table[i.toNat]? with
    | some q => .done q
    | none => .panic

/-- `Ai`: the loop makes each multiple from the one before. -/
def multiplesFrom (A2 : ExtendedGroupElement E) : Nat → CachedGroupElement E → List (CachedGroupElement E)
  | 0, q => [q]
  | rounds + 1, q => q :: multiplesFrom A2 rounds (geAdd A2 q).toExtended.toCached

def oddMultiples (A : ExtendedGroupElement E) : List (CachedGroupElement E) :=
  multiplesFrom A.double.toExtended 7 A.toCached

def addDigit {Q : Type} (add sub : ExtendedGroupElement E → Q → CompletedGroupElement E) (table : List Q)
    (digit : Int) (t : CompletedGroupElement E) : Outcome (CompletedGroupElement E) :=
  if 0 < digit then (entry table (digit / 2)).map fun q => add t.toExtended q
  else if digit < 0 then (entry table (-digit / 2)).map fun q => sub t.toExtended q
  else .done t

/-- The second loop of `GeDoubleScalarMultVartime`, on the digits from the highest down. -/
def doubleAndAdd [Tables E] (Ai : List (CachedGroupElement E)) :
    List (Int × Int) → ProjectiveGroupElement E → Outcome (ProjectiveGroupElement E)
  | [], r => .done r
  | (a, b) :: rest, r =>
      (addDigit geAdd geSub Ai a r.double).bind fun t =>
        (addDigit geMixedAdd geMixedSub Tables.bi b t).bind fun t =>
          doubleAndAdd Ai rest t.toProjective

def geDoubleScalarMultVartime [Tables E] (a : Bytes) (A : ExtendedGroupElement E) (b : Bytes) :
    Outcome (ProjectiveGroupElement E) :=
  let digits := ((slide a).zip (slide b)).reverse
  -- the first loop looks for the highest digit that is not zero
  let digits := digits.dropWhile fun digit => digit.1 = 0 ∧ digit.2 = 0
  doubleAndAdd (oddMultiples A) digits .zero

def equal (b c : BitVec 32) : BitVec 32 := ((b ^^^ c) - 1) >>> 31

def negative (b : BitVec 32) : BitVec 32 := b.sshiftRight 31 &&& 1

def preComputedGroupElementCMove (t u : PreComputedGroupElement E) (b : BitVec 32) :
    PreComputedGroupElement E :=
  { yPlusX := feCMove t.yPlusX u.yPlusX b
    yMinusX := feCMove t.yMinusX u.yMinusX b
    xy2d := feCMove t.xy2d u.xy2d b }

def selectPoint (row : List (PreComputedGroupElement E)) (b : BitVec 32) : PreComputedGroupElement E :=
  let bNegative := negative b
  let bAbs := b - ((-bNegative &&& b) <<< 1)
  let t := row.zipIdx.foldl
    (fun t next => preComputedGroupElementCMove t next.1 (equal bAbs (BitVec.ofNat 32 (next.2 + 1))))
    PreComputedGroupElement.zero
  let minusT := { yPlusX := t.yMinusX, yMinusX := t.yPlusX, xy2d := feNeg t.xy2d }
  preComputedGroupElementCMove t minusT bNegative

/-- A loop of `GeScalarMultBase` over the digits at the odd or the even positions. -/
def addSelected (rows : List (List (PreComputedGroupElement E))) (digits : List Int)
    (h : ExtendedGroupElement E) : ExtendedGroupElement E :=
  (rows.zip digits).foldl
    (fun h next => (geMixedAdd h (selectPoint next.1 (BitVec.ofInt 32 next.2))).toExtended) h

def geScalarMultBase [Tables E] (a : Bytes) : ExtendedGroupElement E :=
  let e := radix16 a
  let h := addSelected Tables.base (odds e) .zero
  let s := h.double.toProjective
  let s := s.double.toProjective
  let s := s.double.toProjective
  let h := s.double.toExtended
  addSelected Tables.base (evens e) h

variable {F : Type} [Field F] {C : Curve F}

/-- The odd multiples of a point, from the `(2k+1)`-fold one on. -/
def OddFrom {Q : Type} (Stands : Q → Point C → Prop) (P : Point C) : Nat → List Q → Prop
  | _, [] => True
  | k, q :: rest => Stands q ((2 * k + 1 : Int) • P) ∧ OddFrom Stands P (k + 1) rest

theorem OddFrom.entry {Q : Type} {Stands : Q → Point C → Prop} {P : Point C} :
    ∀ {k : Nat} {table : List Q}, OddFrom Stands P k table → ∀ {i : Nat}, i < table.length →
      ∃ q, table[i]? = some q ∧ Stands q ((2 * (k + i : Nat) + 1 : Int) • P)
  | _, [], _, _, bound => absurd bound (Nat.not_lt_zero _)
  | k, q :: rest, ⟨first, _⟩, 0, _ => ⟨q, rfl, by simpa using first⟩
  | k, q :: rest, ⟨_, later⟩, i + 1, bound => by
      obtain ⟨found, read, stands⟩ := OddFrom.entry later (Nat.lt_of_succ_lt_succ bound)
      refine ⟨found, by rwa [List.getElem?_cons_succ], ?_⟩
      rwa [Nat.add_right_comm k 1 i] at stands

theorem entry_odd {Q : Type} {Stands : Q → Point C → Prop} {P : Point C} {table : List Q}
    (size : table.length = 8) (odd : OddFrom Stands P 0 table) {digit : Int} (low : 0 < digit)
    (high : digit ≤ 15) (parity : digit % 2 = 1) :
    ∃ q, ScalarMult.entry table (digit / 2) = .done q ∧ Stands q (digit • P) := by
  obtain ⟨q, read, stands⟩ := odd.entry (i := (digit / 2).toNat) (by omega)
  have twice : 2 * ((0 + (digit / 2).toNat : Nat) : Int) + 1 = digit := by omega
  rw [twice] at stands
  refine ⟨q, ?_, stands⟩
  unfold ScalarMult.entry
  rw [if_neg (by omega), read]

variable {Holds : Nat → E → F → Prop} (laws : Laws C Holds)

section DoubleScalar

include laws

omit [Field F] laws in
theorem multiplesFrom_length (A2 : ExtendedGroupElement E) (rounds : Nat) :
    ∀ q : CachedGroupElement E, (multiplesFrom A2 rounds q).length = rounds + 1 := by
  induction rounds with
  | zero => exact fun _ => rfl
  | succ rounds ih => exact fun q => congrArg (· + 1) (ih _)

theorem multiplesFrom_odd {A2 : ExtendedGroupElement E} {P : Point C} (twice : A2.Stands Holds (P + P))
    (rounds : Nat) : ∀ {k : Nat} {q : CachedGroupElement E}, q.Stands Holds ((2 * k + 1 : Int) • P) →
      OddFrom (CachedGroupElement.Stands Holds) P k (multiplesFrom A2 rounds q) := by
  induction rounds with
  | zero => exact fun stands => ⟨stands, trivial⟩
  | succ rounds ih =>
      intro k q stands
      have sum := geAdd_stands laws twice stands
      have next : P + P + (2 * k + 1 : Int) • P = (2 * (k + 1 : Nat) + 1 : Int) • P := by
        rw [← two_zsmul, ← add_smul]
        congr 1
        push_cast
        ring
      rw [next] at sum
      exact ⟨stands, ih (ExtendedGroupElement.toCached_stands laws
        (CompletedGroupElement.toExtended_stands laws sum))⟩

theorem oddMultiples_odd {A : ExtendedGroupElement E} {P : Point C} (stands : A.Stands Holds P) :
    OddFrom (CachedGroupElement.Stands Holds) P 0 (oddMultiples A) := by
  have twice := CompletedGroupElement.toExtended_stands laws (ExtendedGroupElement.double_stands laws stands)
  refine multiplesFrom_odd laws twice 7 ?_
  have one : (2 * (0 : Nat) + 1 : Int) • P = P := by simp
  rw [one]
  exact ExtendedGroupElement.toCached_stands laws stands

theorem addDigit_stands {Q : Type} (Stands : Q → Point C → Prop)
    {add sub : ExtendedGroupElement E → Q → CompletedGroupElement E}
    (adds : ∀ p q P R, p.Stands Holds P → Stands q R → (add p q).Stands Holds (P + R))
    (subs : ∀ p q P R, p.Stands Holds P → Stands q R → (sub p q).Stands Holds (P - R))
    {table : List Q} {P T : Point C} (size : table.length = 8) (odd : OddFrom Stands P 0 table)
    {digit : Int} (sliding : Sliding digit) {t : CompletedGroupElement E} (stands : t.Stands Holds T) :
    ∃ t', addDigit add sub table digit t = .done t' ∧ t'.Stands Holds (T + digit • P) := by
  have extended := CompletedGroupElement.toExtended_stands laws stands
  unfold addDigit
  split
  · next positive =>
    obtain ⟨_, _, high⟩ := sliding.resolve_left (by omega)
    obtain ⟨q, read, multiple⟩ := entry_odd size odd positive high (by omega)
    exact ⟨_, by rw [read, Outcome.done_map], adds _ _ _ _ extended multiple⟩
  · split
    · next negative =>
      obtain ⟨_, low, _⟩ := sliding.resolve_left (by omega)
      have positive : 0 < -digit := by omega
      obtain ⟨q, read, multiple⟩ := entry_odd size odd positive (by omega) (by omega)
      refine ⟨_, by rw [read, Outcome.done_map], ?_⟩
      have difference := subs _ _ _ _ extended multiple
      rwa [neg_smul, sub_neg_eq_add] at difference
    · have zero : digit = 0 := by omega
      subst zero
      exact ⟨t, rfl, by rwa [zero_smul, add_zero]⟩

def horner (A B : Point C) (T : Point C) (digit : Int × Int) : Point C :=
  T + T + digit.1 • A + digit.2 • B

theorem doubleAndAdd_stands [Tables E] {Ai : List (CachedGroupElement E)} {A B : Point C}
    (size : Ai.length = 8) (multiples : OddFrom (CachedGroupElement.Stands Holds) A 0 Ai)
    (bi_size : (Tables.bi : List (PreComputedGroupElement E)).length = 8)
    (bi_multiples : OddFrom (PreComputedGroupElement.Stands Holds) B 0
      (Tables.bi : List (PreComputedGroupElement E))) :
    ∀ (digits : List (Int × Int)) {r : ProjectiveGroupElement E} {T : Point C},
      (∀ digit ∈ digits, Sliding digit.1 ∧ Sliding digit.2) → r.Stands Holds T →
      ∃ r', doubleAndAdd Ai digits r = .done r' ∧ r'.Stands Holds (digits.foldl (horner A B) T)
  | [], r, _, _, stands => ⟨r, rfl, stands⟩
  | digit :: rest, r, T, sliding, stands => by
      obtain ⟨first, second⟩ := sliding digit List.mem_cons_self
      have doubled := ProjectiveGroupElement.double_stands laws stands
      obtain ⟨t, read, added⟩ :=
        addDigit_stands laws (CachedGroupElement.Stands Holds) (fun _ _ _ _ => geAdd_stands laws)
          (fun _ _ _ _ => geSub_stands laws) size multiples first doubled
      obtain ⟨u, read', added'⟩ :=
        addDigit_stands laws (PreComputedGroupElement.Stands Holds) (fun _ _ _ _ => geMixedAdd_stands laws)
          (fun _ _ _ _ => geMixedSub_stands laws) bi_size bi_multiples second added
      obtain ⟨r', run, final⟩ := doubleAndAdd_stands size multiples bi_size bi_multiples rest
        (fun other member => sliding other (List.mem_cons_of_mem _ member))
        (CompletedGroupElement.toProjective_stands laws added')
      exact ⟨r', by simp only [doubleAndAdd, read, read', Outcome.done_bind, run], final⟩

end DoubleScalar

theorem foldl_horner_dropWhile (A B : Point C) (digits : List (Int × Int)) :
    (digits.dropWhile fun digit => digit.1 = 0 ∧ digit.2 = 0).foldl (horner A B) 0 =
      digits.foldl (horner A B) 0 := by
  induction digits with
  | nil => rfl
  | cons digit rest ih =>
      rw [List.dropWhile_cons]
      split
      · next zero =>
        have ⟨first, second⟩ : digit.1 = 0 ∧ digit.2 = 0 := by simpa using zero
        have still : horner A B 0 digit = 0 := by simp [horner, first, second]
        rw [ih, List.foldl_cons, still]
      · rfl

theorem foldl_horner_reverse (A B : Point C) (as bs : List Int) (same : as.length = bs.length) :
    (as.zip bs).reverse.foldl (horner A B) 0 = value 2 as • A + value 2 bs • B := by
  rw [List.foldl_reverse]
  induction as generalizing bs with
  | nil =>
      have none := List.eq_nil_of_length_eq_zero same.symm
      subst none
      simp [value]
  | cons a as ih =>
      cases bs with
      | nil => cases same
      | cons b bs =>
          rw [List.zip_cons_cons, List.foldr_cons, ih bs (Nat.succ.inj same), horner, value_cons_smul,
            value_cons_smul, two_zsmul, two_zsmul]
          abel

/-- The multiples of `unit` from the `(i+1)`-fold one on, as one row of `base` has them. -/
def RowFrom (Holds : Nat → E → F → Prop) (unit : Point C) : Nat → List (PreComputedGroupElement E) → Prop
  | _, [] => True
  | i, p :: rest => p.Stands Holds ((i + 1 : Int) • unit) ∧ RowFrom Holds unit (i + 1) rest

/-- The rows of `base`: each is about 256 times the point of the one before. -/
def RowsFrom (Holds : Nat → E → F → Prop) :
    Point C → List (List (PreComputedGroupElement E)) → Prop
  | _, [] => True
  | unit, row :: rest => row.length = 8 ∧ RowFrom Holds unit 0 row ∧ RowsFrom Holds ((256 : Int) • unit) rest

structure Tables.Lawful [Tables E] (Holds : Nat → E → F → Prop) (B : Point C) : Prop where
  bi_size : (Tables.bi : List (PreComputedGroupElement E)).length = 8
  bi_odd : OddFrom (PreComputedGroupElement.Stands Holds) B 0 (Tables.bi : List (PreComputedGroupElement E))
  base_size : (Tables.base : List (List (PreComputedGroupElement E))).length = 32
  base_rows : RowsFrom Holds B (Tables.base : List (List (PreComputedGroupElement E)))

theorem equal_small {b c : Nat} (left : b ≤ 8) (right : c ≤ 8) :
    equal (BitVec.ofNat 32 b) (BitVec.ofNat 32 c) = if b = c then 1 else 0 := by
  have all : ∀ b c : Fin 9,
      equal (BitVec.ofNat 32 b) (BitVec.ofNat 32 c) = if b.val = c.val then 1 else 0 := by
    decide
  exact all ⟨b, by omega⟩ ⟨c, by omega⟩

theorem negative_digit (digit : Int) (low : -8 ≤ digit) (high : digit ≤ 8) :
    negative (BitVec.ofInt 32 digit) = if digit < 0 then 1 else 0 := by
  interval_cases digit <;> rfl

theorem bAbs_digit (digit : Int) (low : -8 ≤ digit) (high : digit ≤ 8) :
    BitVec.ofInt 32 digit - ((-negative (BitVec.ofInt 32 digit) &&& BitVec.ofInt 32 digit) <<< 1) =
      BitVec.ofNat 32 digit.natAbs := by
  interval_cases digit <;> rfl

include laws

theorem preComputedGroupElementCMove_keep {t u : PreComputedGroupElement E} {P Q : Point C}
    (first : t.Stands Holds P) (second : u.Stands Holds Q) :
    (preComputedGroupElementCMove t u 0).Stands Holds P := by
  obtain ⟨plus, minus, product⟩ := first
  obtain ⟨plus', minus', product'⟩ := second
  exact ⟨laws.keep plus plus', laws.keep minus minus', laws.keep product product'⟩

theorem preComputedGroupElementCMove_move {t u : PreComputedGroupElement E} {P Q : Point C}
    (first : t.Stands Holds P) (second : u.Stands Holds Q) :
    (preComputedGroupElementCMove t u 1).Stands Holds Q := by
  obtain ⟨plus, minus, product⟩ := first
  obtain ⟨plus', minus', product'⟩ := second
  exact ⟨laws.move plus plus', laws.move minus minus', laws.move product product'⟩

/-- The loop over a row takes the entry whose number is `k`, if it comes by. -/
theorem select_row {unit : Point C} {k : Nat} (small : k ≤ 8) :
    ∀ {row : List (PreComputedGroupElement E)} {i : Nat} {t : PreComputedGroupElement E} {T : Point C},
      i + row.length ≤ 8 → RowFrom Holds unit i row → t.Stands Holds T →
      PreComputedGroupElement.Stands Holds
        ((row.zipIdx i).foldl (fun t next => preComputedGroupElementCMove t next.1
          (equal (BitVec.ofNat 32 k) (BitVec.ofNat 32 (next.2 + 1)))) t)
        (if i < k ∧ k ≤ i + row.length then (k : Int) • unit else T)
  | [], i, t, T, _, _, stands => by
      have never : ¬(i < k ∧ k ≤ i + ([] : List (PreComputedGroupElement E)).length) := by simp
      rwa [if_neg never]
  | p :: rest, i, t, T, bound, ⟨first, later⟩, stands => by
      rw [List.length_cons] at bound ⊢
      rw [List.zipIdx_cons, List.foldl_cons]
      rw [equal_small small (by omega)]
      by_cases hit : k = i + 1
      · subst hit
        have taken := select_row small (by omega) later
          (preComputedGroupElementCMove_move laws stands first)
        rw [if_neg (by omega)] at taken
        rw [if_pos rfl, if_pos (by omega)]
        exact_mod_cast taken
      · have kept := select_row small (by omega) later
          (preComputedGroupElementCMove_keep laws stands first)
        rw [if_neg hit]
        have same : (i < k ∧ k ≤ i + (rest.length + 1)) ↔ (i + 1 < k ∧ k ≤ i + 1 + rest.length) := by omega
        rwa [if_congr same rfl rfl]

theorem selectPoint_stands {row : List (PreComputedGroupElement E)} {unit : Point C}
    (size : row.length = 8) (multiples : RowFrom Holds unit 0 row) {digit : Int} (low : -8 ≤ digit)
    (high : digit ≤ 8) :
    (selectPoint row (BitVec.ofInt 32 digit)).Stands Holds (digit • unit) := by
  have taken := select_row laws (k := digit.natAbs) (by omega) (by omega) multiples
    (PreComputedGroupElement.zero_stands laws)
  have absolute : (if 0 < digit.natAbs ∧ digit.natAbs ≤ 0 + row.length then
      (digit.natAbs : Int) • unit else 0) = (digit.natAbs : Int) • unit := by
    split
    · rfl
    · have none : digit.natAbs = 0 := by omega
      rw [none, Nat.cast_zero, zero_smul]
  rw [absolute] at taken
  have ⟨plus, minus, product⟩ := taken
  have mirrored : PreComputedGroupElement.Stands Holds
      { yPlusX := _, yMinusX := _, xy2d := feNeg _ } (-((digit.natAbs : Int) • unit)) :=
    ⟨laws.as minus le_rfl (by rw [Point.neg_y, Point.neg_x, sub_eq_add_neg]),
      laws.as plus le_rfl (by rw [Point.neg_y, Point.neg_x, sub_neg_eq_add]),
      laws.as (laws.neg (by decide) product) le_rfl (by rw [Point.neg_y, Point.neg_x]; ring)⟩
  unfold selectPoint
  dsimp only
  rw [bAbs_digit digit low high, negative_digit digit low high]
  split
  · have sign : -((digit.natAbs : Int) • unit) = digit • unit := by
      rw [← neg_smul]
      congr 1
      omega
    rw [← sign]
    exact preComputedGroupElementCMove_move laws taken mirrored
  · have sign : (digit.natAbs : Int) • unit = digit • unit := by
      congr 1
      omega
    rw [← sign]
    exact preComputedGroupElementCMove_keep laws taken mirrored

theorem addSelected_stands : ∀ {rows : List (List (PreComputedGroupElement E))} {digits : List Int}
    {unit H : Point C} {h : ExtendedGroupElement E}, digits.length = rows.length →
      RowsFrom Holds unit rows → (∀ digit ∈ digits, -8 ≤ digit ∧ digit ≤ 8) → h.Stands Holds H →
      (addSelected rows digits h).Stands Holds (H + value 256 digits • unit)
  | [], [], unit, H, h, _, _, _, stands => by simpa [addSelected, value] using stands
  | row :: rows, digit :: digits, unit, H, h, same, ⟨size, multiples, later⟩, centred, stands => by
      obtain ⟨low, high⟩ := centred digit List.mem_cons_self
      have added := CompletedGroupElement.toExtended_stands laws
        (geMixedAdd_stands laws stands (selectPoint_stands laws size multiples low high))
      have rest := addSelected_stands (Nat.succ.inj same) later
        (fun other member => centred other (List.mem_cons_of_mem _ member)) added
      have sum : H + digit • unit + value 256 digits • ((256 : Int) • unit) =
          H + value 256 (digit :: digits) • unit := by
        rw [value_cons_smul, smul_comm, add_assoc, add_comm (digit • unit)]
      rwa [sum] at rest

/-- `GeDoubleScalarMultVartime` reads no table out of bounds and computes `a*A + b*B`. -/
theorem geDoubleScalarMultVartime_stands [Tables E] {B : Point C} (tables : Tables.Lawful Holds B)
    {A : ExtendedGroupElement E} {P : Point C} (stands : A.Stands Holds P) {a b : Bytes}
    (a_size : a.length = 32) (a_small : scalarValue a < 2 ^ 255)
    (b_size : b.length = 32) (b_small : scalarValue b < 2 ^ 255) :
    ∃ r, geDoubleScalarMultVartime a A b = .done r ∧
      r.Stands Holds (scalarValue a • P + scalarValue b • B) := by
  obtain ⟨a_length, a_sliding, a_value⟩ := slide_spec a_size a_small
  obtain ⟨b_length, b_sliding, b_value⟩ := slide_spec b_size b_small
  have sliding : ∀ digit ∈ ((slide a).zip (slide b)).reverse.dropWhile
      (fun digit => digit.1 = 0 ∧ digit.2 = 0), Sliding digit.1 ∧ Sliding digit.2 := by
    intro digit member
    have pair := List.of_mem_zip (List.mem_reverse.mp ((List.dropWhile_sublist _).subset member))
    exact ⟨a_sliding _ pair.1, b_sliding _ pair.2⟩
  obtain ⟨r, run, final⟩ := doubleAndAdd_stands laws (multiplesFrom_length _ 7 _)
    (oddMultiples_odd laws stands) tables.bi_size tables.bi_odd _ sliding
    (ProjectiveGroupElement.zero_stands laws)
  rw [foldl_horner_dropWhile, foldl_horner_reverse _ _ _ _ (a_length.trans b_length.symm), a_value,
    b_value] at final
  exact ⟨r, run, final⟩

/-- `GeScalarMultBase` computes `a*B`. -/
theorem geScalarMultBase_stands [Tables E] {B : Point C} (tables : Tables.Lawful Holds B) {a : Bytes}
    (size : a.length = 32) (small : scalarValue a < 2 ^ 255) :
    (geScalarMultBase a : ExtendedGroupElement E).Stands Holds (scalarValue a • B) := by
  obtain ⟨length, centred, same⟩ := radix16_spec size small
  have odd := addSelected_stands laws (by rw [odds_length, length, tables.base_size]) tables.base_rows
    (fun digit member => centred digit (odds_subset _ member)) (ExtendedGroupElement.zero_stands laws)
  have twice := CompletedGroupElement.toProjective_stands laws (ExtendedGroupElement.double_stands laws odd)
  have four := CompletedGroupElement.toProjective_stands laws (ProjectiveGroupElement.double_stands laws twice)
  have eight := CompletedGroupElement.toProjective_stands laws (ProjectiveGroupElement.double_stands laws four)
  have sixteen := CompletedGroupElement.toExtended_stands laws (ProjectiveGroupElement.double_stands laws eight)
  have even := addSelected_stands laws (by rw [evens_length, length, tables.base_size]) tables.base_rows
    (fun digit member => centred digit (evens_subset _ member)) sixteen
  simp only [zero_add, ← two_zsmul, smul_smul, ← add_smul] at even
  have split : value 16 (radix16 a) = value 256 (evens (radix16 a)) + 16 * value 256 (odds (radix16 a)) :=
    value_evens_odds 16 (radix16 a)
  have digits : 2 * (2 * (2 * (2 * value 256 (odds (radix16 a))))) + value 256 (evens (radix16 a)) =
      scalarValue a := by
    rw [← same, split]
    ring
  rwa [digits] at even

end Carrier.ScalarMult
