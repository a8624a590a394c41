import Mathlib.Data.List.Basic

set_option autoImplicit false

/- Runs of a deterministic transition system: a state, and labels that carry
whatever the environment chooses at a step. -/
namespace Transition

variable {State Label : Type*}

def run (step : State → Label → State) (start : State) (labels : List Label) : State :=
  labels.foldl step start

@[simp] theorem run_nil (step : State → Label → State) (start : State) :
    run step start [] = start := rfl

@[simp] theorem run_cons (step : State → Label → State) (start : State) (label : Label)
    (labels : List Label) :
    run step start (label :: labels) = run step (step start label) labels := rfl

theorem run_append (step : State → Label → State) (start : State)
    (first second : List Label) :
    run step start (first ++ second) = run step (run step start first) second := by
  simp only [run, List.foldl_append]

/-- Every step of the run is taken in a state that meets the condition. -/
def Along (step : State → Label → State) (allowed : State → Label → Prop) :
    State → List Label → Prop
  | _, [] => True
  | start, label :: labels => allowed start label ∧ Along step allowed (step start label) labels

instance Along.decidable {step : State → Label → State} {allowed : State → Label → Prop}
    [∀ state label, Decidable (allowed state label)] :
    (start : State) → (labels : List Label) → Decidable (Along step allowed start labels)
  | _, [] => isTrue trivial
  | start, label :: labels =>
      have := @Along.decidable step allowed _ (step start label) labels
      inferInstanceAs (Decidable (allowed start label ∧
        Along step allowed (step start label) labels))

theorem Along.append {step : State → Label → State} {allowed : State → Label → Prop}
    {start : State} {first second : List Label}
    (along : Along step allowed start (first ++ second)) :
    Along step allowed start first ∧ Along step allowed (run step start first) second := by
  induction first generalizing start with
  | nil => exact ⟨trivial, along⟩
  | cons label labels ih =>
      obtain ⟨here, rest⟩ := along
      obtain ⟨left, right⟩ := ih rest
      exact ⟨⟨here, left⟩, right⟩

theorem Along.mono {step : State → Label → State} {weak strong : State → Label → Prop}
    (weaken : ∀ state label, strong state label → weak state label)
    {start : State} {labels : List Label} (along : Along step strong start labels) :
    Along step weak start labels := by
  induction labels generalizing start with
  | nil => trivial
  | cons label labels ih => exact ⟨weaken _ _ along.1, ih along.2⟩

/-- What a permitted step preserves holds after every run of permitted steps. -/
theorem invariant_of_along (Invariant : State → Prop) {step : State → Label → State}
    {allowed : State → Label → Prop}
    (preserved : ∀ state label, allowed state label → Invariant state →
      Invariant (step state label))
    {start : State} {labels : List Label} (initial : Invariant start)
    (along : Along step allowed start labels) : Invariant (run step start labels) := by
  induction labels generalizing start with
  | nil => exact initial
  | cons label labels ih => exact ih (preserved start label along.1 initial) along.2

theorem invariant_of_step (Invariant : State → Prop) {step : State → Label → State}
    (preserved : ∀ state label, Invariant state → Invariant (step state label))
    {start : State} (labels : List Label) (initial : Invariant start) :
    Invariant (run step start labels) := by
  induction labels generalizing start with
  | nil => exact initial
  | cons label labels ih => exact ih (preserved start label initial)

/-- Every state of the run. -/
def Always (step : State → Label → State) (holds : State → Prop) : State →
    List Label → Prop
  | state, [] => holds state
  | state, label :: labels => holds state ∧ Always step holds (step state label) labels

theorem Always.holds {step : State → Label → State} {holds : State → Prop} {state : State}
    {labels : List Label} (always : Always step holds state labels) : holds state := by
  cases labels with
  | nil => exact always
  | cons label labels => exact always.1

/-- Where permitted steps keep an invariant that gives what holds, and a step that keeps what holds
is permitted, a run keeps it if and only if its steps are permitted. -/
theorem always_iff_along (Invariant : State → Prop) {step : State → Label → State}
    {holds : State → Prop} {allowed : State → Label → Prop}
    (preserved : ∀ state label, allowed state label → Invariant state →
      Invariant (step state label))
    (gives : ∀ state, Invariant state → holds state)
    (needs : ∀ state label, Invariant state → holds (step state label) → allowed state label)
    {start : State} (labels : List Label) (initial : Invariant start) :
    Always step holds start labels ↔ Along step allowed start labels := by
  induction labels generalizing start with
  | nil => exact ⟨fun _ => trivial, fun _ => gives start initial⟩
  | cons label labels ih =>
      constructor
      · intro always
        have here := needs start label initial always.2.holds
        exact ⟨here, (ih (preserved start label here initial)).1 always.2⟩
      · intro along
        refine ⟨gives start initial, ?_⟩
        exact (ih (preserved start label along.1 initial)).2 along.2

def Reachable (step : State → Label → State) (start state : State) : Prop :=
  ∃ labels, state = run step start labels

theorem Reachable.invariant (Invariant : State → Prop) {step : State → Label → State}
    (preserved : ∀ state label, Invariant state → Invariant (step state label))
    {start state : State} (reachable : Reachable step start state)
    (initial : Invariant start) : Invariant state := by
  obtain ⟨labels, rfl⟩ := reachable
  exact invariant_of_step Invariant preserved labels initial

end Transition
