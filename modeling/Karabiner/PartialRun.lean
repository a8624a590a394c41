import Mathlib.Data.List.Basic

set_option autoImplicit false

/- Runs of a system whose steps may have no result. A run is judged by the states that it reaches or
by the steps that it takes. -/
namespace PartialRun

variable {State Label : Type*}

/-- Every state that the run reaches, up to the first step without a result. -/
def Always (step : State → Label → Option State) (holds : State → Prop) : State →
    List Label → Prop
  | state, [] => holds state
  | state, label :: labels =>
      holds state ∧ ∀ next, step state label = some next → Always step holds next labels

/-- Every step of the run that has a result. -/
def Each (step : State → Label → Option State) (allowed : State → Label → Prop) :
    State → List Label → Prop
  | _, [] => True
  | state, label :: labels =>
      ∀ next, step state label = some next →
        allowed state label ∧ Each step allowed next labels

theorem Always.holds {step : State → Label → Option State} {holds : State → Prop}
    {state : State}
    {labels : List Label} (always : Always step holds state labels) : holds state := by
  cases labels with
  | nil => exact always
  | cons label labels => exact always.1

theorem Always.final {step : State → Label → Option State} {holds : State → Prop}
    {state final : State} {labels : List Label} (always : Always step holds state labels)
    (ran : labels.foldlM step state = some final) : holds final := by
  induction labels generalizing state with
  | nil =>
      cases ran
      exact always
  | cons label labels ih =>
      rw [List.foldlM_cons] at ran
      obtain ⟨next, stepped, rest⟩ := Option.bind_eq_some_iff.1 ran
      exact ih (always.2 next stepped) rest

/-- Where a step decides whether what holds before it holds behind it, a run keeps it if and only if
each of its steps does. -/
theorem always_iff_each {step : State → Label → Option State} {holds : State → Prop}
    {allowed : State → Label → Prop} (Invariant : State → Prop)
    (preserved : ∀ state label next, step state label = some next → Invariant state →
      Invariant next)
    (decides : ∀ state label next, step state label = some next → Invariant state →
      holds state →
      (holds next ↔ allowed state label))
    {start : State} (labels : List Label) (initial : Invariant start) (begins : holds start) :
    Always step holds start labels ↔ Each step allowed start labels := by
  induction labels generalizing start with
  | nil => exact ⟨fun _ => trivial, fun _ => begins⟩
  | cons label labels ih =>
      constructor
      · intro always next result
        have rest := always.2 next result
        have kept := rest.holds
        refine ⟨(decides start label next result initial begins).1 kept, ?_⟩
        exact (ih (preserved start label next result initial) kept).1 rest
      · intro each
        refine ⟨begins, fun next result => ?_⟩
        obtain ⟨here, rest⟩ := each next result
        have kept := (decides start label next result initial begins).2 here
        exact (ih (preserved start label next result initial) kept).2 rest

/-- Every state that the run reaches, and every proper step of it has a result. The run ends at a
step that is not proper. -/
def Runs (step : State → Label → Option State) (proper : State → Label → Prop)
    (holds : State → Prop) : State → List Label → Prop
  | state, [] => holds state
  | state, label :: labels =>
      holds state ∧ (proper state label →
        ∃ next, step state label = some next ∧ Runs step proper holds next labels)

/-- Every proper step of the run. -/
def Permitted (step : State → Label → Option State)
    (proper allowed : State → Label → Prop) :
    State → List Label → Prop
  | _, [] => True
  | state, label :: labels =>
      proper state label → allowed state label ∧
        ∀ next, step state label = some next → Permitted step proper allowed next labels

section
variable {step : State → Label → Option State} {proper allowed : State → Label → Prop}
  {holds : State → Prop}

theorem Runs.start {state : State} {labels : List Label}
    (runs : Runs step proper holds state labels) : holds state := by
  cases labels with
  | nil => exact runs
  | cons label labels => exact runs.1

/-- Where it is decided before a step whether it has a result in which the same holds again, a run
has its results if and only if each of its steps does. -/
theorem runs_iff_permitted
    (decides : ∀ state label, holds state → proper state label →
      ((∃ next, step state label = some next ∧ holds next) ↔ allowed state label))
    {start : State} (labels : List Label) (begins : holds start) :
    Runs step proper holds start labels ↔ Permitted step proper allowed start labels := by
  induction labels generalizing start with
  | nil => exact iff_of_true begins trivial
  | cons label labels ih =>
      constructor
      · intro runs isProper
        obtain ⟨next, result, rest⟩ := runs.2 isProper
        refine ⟨(decides start label begins isProper).1 ⟨next, result, rest.start⟩, ?_⟩
        intro other same
        obtain rfl := Option.some.inj (result.symm.trans same)
        exact (ih rest.start).1 rest
      · intro permitted
        refine ⟨begins, fun isProper => ?_⟩
        obtain ⟨here, rest⟩ := permitted isProper
        obtain ⟨next, result, kept⟩ := (decides start label begins isProper).2 here
        exact ⟨next, result, (ih kept).2 (rest next result)⟩

end

end PartialRun
