import Mathlib.Logic.Basic

/-! Finite runs of a labelled transition relation, and the two rules every run
argument here uses: an invariant is carried along, and a measure that each step
lowers bounds the length. A run whose steps all meet a side condition is a run of
the relation cut down by that condition. -/
namespace Carrier.TransitionSystem

universe u v
variable {State : Type u} {Label : Type v}

inductive Run (Step : State → Label → State → Prop) : State → List Label → State → Prop where
  | nil (state) : Run Step state [] state
  | cons {before middle after : State} {label : Label} {rest : List Label} :
      Step before label middle → Run Step middle rest after → Run Step before (label :: rest) after

namespace Run

variable {Step Other : State → Label → State → Prop} {before after : State} {labels : List Label}

theorem invariant (Inv : State → Prop)
    (kept : ∀ s label t, Step s label t → Inv s → Inv t)
    (run : Run Step before labels after) (initial : Inv before) : Inv after := by
  induction run with
  | nil => exact initial
  | cons step _ ih => exact ih (kept _ _ _ step initial)

/-- The same for a property of the state and of everything that led to it. -/
theorem history (Inv : List Label → State → Prop)
    (kept : ∀ past s label t, Step s label t → Inv past s → Inv (past ++ [label]) t) {past : List Label}
    (run : Run Step before labels after) (initial : Inv past before) : Inv (past ++ labels) after := by
  induction run generalizing past with
  | nil => simpa using initial
  | cons step _ ih =>
      rw [List.append_cons]
      exact ih (kept _ _ _ _ step initial)

theorem append {more : List Label} {last : State} (run : Run Step before labels after)
    (rest : Run Step after more last) : Run Step before (labels ++ more) last := by
  induction run with
  | nil => exact rest
  | cons first _ ih => exact .cons first (ih rest)

theorem snoc {label : Label} {last : State} (run : Run Step before labels after)
    (step : Step after label last) : Run Step before (labels ++ [label]) last :=
  run.append (.cons step (.nil _))

theorem mono (included : ∀ s label t, Step s label t → Other s label t)
    (run : Run Step before labels after) : Run Other before labels after := by
  induction run with
  | nil => exact .nil _
  | cons step _ ih => exact .cons (included _ _ _ step) ih

theorem unrestrict {P : Label → Prop} (run : Run (fun s label t => Step s label t ∧ P label) before labels after) :
    Run Step before labels after ∧ ∀ label ∈ labels, P label := by
  induction run with
  | nil => exact ⟨.nil _, fun label member => nomatch member⟩
  | cons step _ ih =>
      refine ⟨.cons step.1 ih.1, fun label member => ?_⟩
      rcases List.mem_cons.mp member with rfl | later
      · exact step.2
      · exact ih.2 label later

/-- If some step comes nearer to the goal from every state that has not reached it,
the goal can be reached. -/
theorem reaches (Inv Goal : State → Prop) (measure : State → Nat)
    (nearer : ∀ s, Inv s → ¬Goal s → ∃ label t, Step s label t ∧ Inv t ∧ measure t < measure s)
    (initial : Inv before) : ∃ labels after, Run Step before labels after ∧ Inv after ∧ Goal after := by
  induction bound : measure before using Nat.strongRecOn generalizing before with
  | ind distance ih =>
      by_cases there : Goal before
      · exact ⟨[], before, .nil _, initial, there⟩
      · obtain ⟨label, next, step, inv, less⟩ := nearer before initial there
        obtain ⟨labels, after, run, kept, goal⟩ := ih (measure next) (bound ▸ less) inv rfl
        exact ⟨label :: labels, after, .cons step run, kept, goal⟩

end Run

def Along (Meets : List Label → Label → Prop) (labels : List Label) : Prop :=
  ∀ i (inside : i < labels.length), Meets (labels.take i) labels[i]

instance (Meets : List Label → Label → Prop) [∀ past label, Decidable (Meets past label)] (labels : List Label) :
    Decidable (Along Meets labels) :=
  inferInstanceAs (Decidable (∀ i (inside : i < labels.length), Meets (labels.take i) labels[i]))

theorem along_snoc {Meets : List Label → Label → Prop} {labels : List Label} {label : Label} :
    Along Meets (labels ++ [label]) ↔ Along Meets labels ∧ Meets labels label := by
  constructor
  · intro along
    refine ⟨fun i inside => ?_, ?_⟩
    · have here := along i (by simp; omega)
      rwa [List.take_append_of_le_length (Nat.le_of_lt inside), List.getElem_append_left inside] at here
    · have last := along labels.length (by simp)
      rwa [List.take_left, List.getElem_concat_length rfl] at last
  · rintro ⟨along, last⟩ i inside
    by_cases early : i < labels.length
    · rw [List.take_append_of_le_length (Nat.le_of_lt early), List.getElem_append_left early]
      exact along i early
    · obtain rfl : i = labels.length := by
        simp only [List.length_append, List.length_singleton] at inside
        omega
      rw [List.take_left, List.getElem_concat_length rfl]
      exact last

def Happened (Step : State → Label → State → Prop) (start : State) (labels : List Label)
    (Meets : State → Label → Prop) : Prop :=
  ∃ early label later state, labels = early ++ label :: later ∧ Run Step start early state ∧ Meets state label

namespace Happened

variable {Step : State → Label → State → Prop} {start state : State} {labels : List Label}
  {Meets : State → Label → Prop}

theorem later (happened : Happened Step start labels Meets) (more : List Label) :
    Happened Step start (labels ++ more) Meets := by
  obtain ⟨early, label, rest, before, rfl, run, meets⟩ := happened
  exact ⟨early, label, rest ++ more, before, by simp, run, meets⟩

theorem now {label : Label} (run : Run Step start labels state) (meets : Meets state label) :
    Happened Step start (labels ++ [label]) Meets :=
  ⟨labels, label, [], state, rfl, run, meets⟩

end Happened

/-- The state after the given labels, where a function gives the next state. -/
def follow (step : State → Label → Option State) : List Label → State → Option State
  | [], state => some state
  | label :: rest, state => (step state label).bind (follow step rest)

theorem Run.of_follow {Step : State → Label → State → Prop} {step : State → Label → Option State}
    (sound : ∀ s label t, step s label = some t → Step s label t) {labels : List Label} {before after : State}
    (followed : follow step labels before = some after) : Run Step before labels after := by
  induction labels generalizing before with
  | nil =>
      cases followed
      exact .nil _
  | cons label rest ih =>
      obtain ⟨middle, first, later⟩ := Option.bind_eq_some_iff.mp followed
      exact .cons (sound _ _ _ first) (ih later)

/-- The same for steps that are only made where they meet a condition. -/
theorem Run.of_follow_if {step : State → Label → Option State} {Meets : State → Label → Prop}
    [∀ s label, Decidable (Meets s label)] {labels : List Label} {before after : State}
    (followed : follow (fun s label => if Meets s label then step s label else none) labels before = some after) :
    Run (fun s label t => step s label = some t ∧ Meets s label) before labels after := by
  refine Run.of_follow (fun s label t next => ?_) followed
  obtain ⟨meets, made⟩ := Option.ite_none_right_eq_some.mp next
  exact ⟨made, meets⟩

end Carrier.TransitionSystem
