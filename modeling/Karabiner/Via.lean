import Karabiner.Transition

set_option autoImplicit false

/- Two states of a transition system between which there is a run of permitted labels. What a
program does to a component is stated in this form once, and every fact about the component is
then one about a single label. -/
namespace Transition

variable {State Label : Type*} {step : State → Label → State}

def Via (step : State → Label → State) (allowed : Label → Prop)
    (start final : State) : Prop :=
  ∃ labels, (∀ label ∈ labels, allowed label) ∧ final = run step start labels

namespace Via

variable {allowed : Label → Prop} {start middle final : State}

theorem refl (start : State) : Via step allowed start start :=
  ⟨[], fun _ member => absurd member List.not_mem_nil, rfl⟩

theorem single {label : Label} (permitted : allowed label) :
    Via step allowed start (step start label) := by
  refine ⟨[label], fun other member => ?_, rfl⟩
  rw [List.mem_singleton.1 member]
  exact permitted

theorem trans (first : Via step allowed start middle) (second : Via step allowed middle final) :
    Via step allowed start final := by
  obtain ⟨labels, permitted, rfl⟩ := first
  obtain ⟨others, alsoPermitted, rfl⟩ := second
  refine ⟨labels ++ others, fun label member => ?_, (run_append step start labels others).symm⟩
  cases List.mem_append.1 member with
  | inl here => exact permitted label here
  | inr there => exact alsoPermitted label there

theorem mono {more : Label → Prop} (via : Via step allowed start final)
    (weaken : ∀ label, allowed label → more label) : Via step more start final := by
  obtain ⟨labels, permitted, same⟩ := via
  exact ⟨labels, fun label member => weaken label (permitted label member), same⟩

/-- A loop over a list, each round of which is a run. -/
theorem foldl {Whole Entry : Type*} (part : Whole → State) {body : Whole → Entry → Whole}
    {entries : List Entry}
    (round : ∀ entry ∈ entries, ∀ whole,
      Via step allowed (part whole) (part (body whole entry)))
    (whole : Whole) : Via step allowed (part whole) (part (entries.foldl body whole)) := by
  induction entries generalizing whole with
  | nil => exact refl _
  | cons entry entries ih =>
      have first := round entry List.mem_cons_self whole
      have others := ih (fun other member => round other (List.mem_cons_of_mem _ member))
        (body whole entry)
      exact first.trans others

/-- A relation of the first and the last state follows from what it says of one label. -/
theorem induction (Related : State → State → Prop) (via : Via step allowed start final)
    (same : ∀ state, Related state state)
    (compose : ∀ first second third, Related first second → Related second third →
      Related first third)
    (one : ∀ state label, allowed label → Related state (step state label)) :
    Related start final := by
  obtain ⟨labels, permitted, rfl⟩ := via
  induction labels generalizing start with
  | nil => exact same start
  | cons label labels ih =>
      have here := one start label (permitted label List.mem_cons_self)
      have rest : Related (step start label) (run step (step start label) labels) :=
        ih fun other member => permitted other (List.mem_cons_of_mem _ member)
      exact compose _ _ _ here rest

end Via

end Transition
