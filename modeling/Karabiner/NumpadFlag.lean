import Karabiner.FireModifiers
import Karabiner.Transition

set_option autoImplicit false

/- Runs of FireModifiers: which of the MODIFY events carry the flag of the numeric keypad. -/
namespace Karabiner.EventOutputQueue.FireModifiers

/-- A call of fire, with the modifiers that are registered and FlagStatus at that time. -/
structure FireCall where
  extra : Pairs
  virtual : extra.AreVirtual
  status : FlagStatus
  reachable : FlagStatus.Reachable (Pairs.normal ++ extra) status
  autogenId : AutogenId
  keyboardType : KeyboardType
  physicalEventType : PhysicalEventType
  toFlags : Flags

def FireCall.fire (call : FireCall) (modifiers : FireModifiers) : FireModifiers × List Pushed :=
  FireModifiers.fire (Pairs.normal ++ call.extra) call.autogenId call.keyboardType call.status
    call.physicalEventType call.toFlags modifiers

inductive Step where
  | fire (call : FireCall)
  | setIgnorePhysicalUpEvent (newval : Bool)

/-- pushed holds what all calls so far have pushed. -/
structure History where
  modifiers : FireModifiers
  pushed : List Pushed

def History.start : History := ⟨.start, []⟩

def History.step (history : History) : Step → History
  | .fire call =>
      let fired := call.fire history.modifiers
      ⟨fired.1, history.pushed ++ fired.2⟩
  | .setIgnorePhysicalUpEvent newval =>
      { history with
        modifiers := { history.modifiers with isIgnorePhysicalUpEvent_ := newval } }

def carriesNumpad (item : Pushed) : Bool :=
  match item.params with
  | .keyboard params => params.flags.isOn ModifierFlag.NUMPAD
  | _ => false

/-- NUMPAD was sent last and is wanted, so it is not removed, and a modifier changes. -/
def KeepsNumpad (history : History) : Step → Prop
  | .fire call =>
      history.modifiers.isSuppressed call.physicalEventType = false ∧
        history.modifiers.lastFlags_.isOn ModifierFlag.NUMPAD = true ∧
        call.toFlags.isOn ModifierFlag.NUMPAD = true ∧
        ∃ flag ∈ Pairs.normal.flags,
          history.modifiers.lastFlags_.isOn flag ≠ call.toFlags.isOn flag
  | .setIgnorePhysicalUpEvent _ => False

/-- lastFlags_ is a union of raw bits in every state that is reached. -/
def Union (modifiers : FireModifiers) : Prop :=
  ∃ held, modifiers.lastFlags_ = .ofModifierFlags held

theorem numpad_raw : ModifierFlag.NUMPAD.getRawBits ≠ 0 := by decide

theorem carriesNumpad_changeEvent (autogenId : AutogenId) (keyboardType : KeyboardType)
    (held : List ModifierFlag) (flag : ModifierFlag) :
    carriesNumpad (changeEvent autogenId keyboardType held flag) =
      decide (ModifierFlag.NUMPAD ∈ held) :=
  Flags.isOn_ofModifierFlags numpad_raw held

/-- Changes of normal modifiers leave NUMPAD as it is in each event. -/
theorem carriesNumpad_eventsOf (autogenId : AutogenId) (keyboardType : KeyboardType)
    {change : List ModifierFlag → ModifierFlag → List ModifierFlag}
    {flags : List ModifierFlag}
    (keeps : ∀ flag ∈ flags, ∀ held,
      ModifierFlag.NUMPAD ∈ change held flag ↔ ModifierFlag.NUMPAD ∈ held)
    (held : List ModifierFlag) :
    ∀ item ∈ eventsOf autogenId keyboardType change held flags,
      carriesNumpad item = decide (ModifierFlag.NUMPAD ∈ held) := by
  induction flags generalizing held with
  | nil => simp [eventsOf]
  | cons flag flags ih =>
      have here := keeps flag List.mem_cons_self held
      intro item member
      rcases List.mem_cons.mp member with rfl | later
      · rw [carriesNumpad_changeEvent, decide_eq_decide]
        exact here
      · have keeps' : ∀ other ∈ flags, ∀ held,
            ModifierFlag.NUMPAD ∈ change held other ↔ ModifierFlag.NUMPAD ∈ held :=
          fun other member => keeps other (List.mem_cons_of_mem _ member)
        rw [ih keeps' (change held flag) item later, decide_eq_decide]
        exact here

theorem eventsOf_eq_nil {autogenId : AutogenId} {keyboardType : KeyboardType}
    {change : List ModifierFlag → ModifierFlag → List ModifierFlag}
    {held flags : List ModifierFlag} :
    eventsOf autogenId keyboardType change held flags = [] ↔ flags = [] := by
  cases flags <;> simp [eventsOf]

section
variable {autogenId : AutogenId} {keyboardType : KeyboardType} {toFlags : Flags}
  {held : List ModifierFlag} {moved : Flags × List Pushed} {releases presses : List ModifierFlag}

theorem Moves.carriesNumpad (moves : Moves autogenId keyboardType toFlags held moved releases
    presses) :
    ∀ item ∈ moved.2, FireModifiers.carriesNumpad item =
      decide (ModifierFlag.NUMPAD ∈ withoutNumpad toFlags held) := by
  have released : ∀ flag ∈ releases, flag ≠ ModifierFlag.NUMPAD := by
    rintro flag member rfl
    exact numpad_not_normal ((moves.released _).mp member).1
  have pressed : ∀ flag ∈ presses, flag ≠ ModifierFlag.NUMPAD := by
    rintro flag member rfl
    exact numpad_not_normal ((moves.pressed _).mp member).1
  have between : ModifierFlag.NUMPAD ∈ releases.foldl release (withoutNumpad toFlags held) ↔
      ModifierFlag.NUMPAD ∈ withoutNumpad toFlags held := by
    rw [mem_foldl_release, and_iff_left_iff_imp]
    intro _ member
    exact released _ member rfl
  intro item member
  rw [moves.pushed] at member
  rcases List.mem_append.mp member with first | second
  · apply carriesNumpad_eventsOf autogenId keyboardType _ _ item first
    intro flag inside held
    rw [mem_release]
    simp [(released flag inside).symm]
  · rw [carriesNumpad_eventsOf autogenId keyboardType _ _ item second, decide_eq_decide]
    · exact between
    · intro flag inside held
      rw [mem_press]
      simp [(pressed flag inside).symm]

/-- Nothing is pushed if and only if no modifier differs. -/
theorem Moves.pushed_eq_nil (moves : Moves autogenId keyboardType toFlags held moved releases
    presses) :
    moved.2 = [] ↔ ∀ flag ∈ Pairs.normal.flags,
      (Flags.ofModifierFlags held).isOn flag = toFlags.isOn flag := by
  rw [moves.pushed, List.append_eq_nil_iff, eventsOf_eq_nil, eventsOf_eq_nil,
    List.eq_nil_iff_forall_not_mem, List.eq_nil_iff_forall_not_mem]
  constructor
  · rintro ⟨noRelease, noPress⟩ flag normal
    rw [Flags.isOn_ofModifierFlags (getRawBits_of_normal normal)]
    have off := noRelease flag
    have on := noPress flag
    rw [moves.released] at off
    rw [moves.pressed] at on
    by_cases here : flag ∈ held <;> cases wanted : toFlags.isOn flag <;> simp_all
  · intro same
    constructor
    · intro flag member
      obtain ⟨normal, here, off⟩ := (moves.released flag).mp member
      have equal := same flag normal
      rw [Flags.isOn_ofModifierFlags (getRawBits_of_normal normal), off] at equal
      simp [here] at equal
    · intro flag member
      obtain ⟨normal, absent, on⟩ := (moves.pressed flag).mp member
      have equal := same flag normal
      rw [Flags.isOn_ofModifierFlags (getRawBits_of_normal normal), on] at equal
      simp [absent] at equal

end

/-- A call pushes an event with NUMPAD if and only if it keeps NUMPAD while it moves. -/
theorem FireCall.fire_numpad (call : FireCall) (history : History)
    (union : Union history.modifiers) :
    ((∀ item ∈ (call.fire history.modifiers).2, carriesNumpad item = false) ↔
      ¬KeepsNumpad history (.fire call)) ∧ Union (call.fire history.modifiers).1 := by
  obtain ⟨held, last⟩ := union
  unfold FireCall.fire
  rcases fire_cases (Pairs.normal ++ call.extra) call.autogenId call.keyboardType call.status
    call.physicalEventType call.toFlags history.modifiers with
    ⟨returns, result⟩ | ⟨goesOn, ignored, result⟩
  · rw [result]
    refine ⟨?_, held, last⟩
    have keepsNot : ¬KeepsNumpad history (.fire call) := by
      rintro ⟨unsuppressed, -, -, flag, -, differs⟩
      rcases returns with same | suppressed
      · exact differs (by rw [same])
      · rw [unsuppressed] at suppressed
        exact Bool.noConfusion suppressed
    simp [keepsNot]
  · obtain ⟨releases, presses, moves⟩ := moveFlags_moves call.virtual call.autogenId
      call.keyboardType call.toFlags held
    rw [← call.reachable.flags_eq, ← last] at moves
    have unsuppressed : history.modifiers.isSuppressed call.physicalEventType = false := by
      simpa using (not_or.mp goesOn).2
    rw [result]
    obtain ⟨after, ends, -⟩ := moves.reached
    refine ⟨?_, after, ends⟩
    have empty := moves.pushed_eq_nil
    rw [← last] at empty
    have numpad : ModifierFlag.NUMPAD ∈ withoutNumpad call.toFlags held ↔
        history.modifiers.lastFlags_.isOn ModifierFlag.NUMPAD = true ∧
          call.toFlags.isOn ModifierFlag.NUMPAD = true := by
      rw [last, Flags.isOn_ofModifierFlags numpad_raw, decide_eq_true_iff, withoutNumpad]
      cases call.toFlags.isOn ModifierFlag.NUMPAD <;> simp [mem_release]
    constructor
    · rintro none ⟨-, sent, wanted, flag, normal, differs⟩
      have some_ : (moveFlags (Pairs.normal ++ call.extra) call.autogenId call.keyboardType
          call.status.flags call.toFlags history.modifiers.lastFlags_).2 ≠ [] := by
        intro nothing
        exact differs (empty.mp nothing flag normal)
      obtain ⟨item, more, pushed⟩ := List.exists_cons_of_ne_nil some_
      have member : item ∈ (moveFlags (Pairs.normal ++ call.extra) call.autogenId
          call.keyboardType call.status.flags call.toFlags history.modifiers.lastFlags_).2 := by
        rw [pushed]
        exact List.mem_cons_self
      have carries := moves.carriesNumpad item member
      rw [none item member, eq_comm, decide_eq_false_iff_not] at carries
      exact carries (numpad.mpr ⟨sent, wanted⟩)
    · intro keepsNot item member
      rw [moves.carriesNumpad item member, decide_eq_false_iff_not]
      intro inside
      obtain ⟨sent, wanted⟩ := numpad.mp inside
      have changes : ∃ flag ∈ Pairs.normal.flags,
          history.modifiers.lastFlags_.isOn flag ≠ call.toFlags.isOn flag := by
        by_contra none
        push Not at none
        rw [empty.mpr none] at member
        exact List.not_mem_nil member
      exact keepsNot ⟨unsuppressed, sent, wanted, changes⟩

theorem History.step_numpad (history : History) (union : Union history.modifiers)
    (label : Step) :
    ((∀ item ∈ (history.step label).pushed, carriesNumpad item = false) ↔
      (∀ item ∈ history.pushed, carriesNumpad item = false) ∧ ¬KeepsNumpad history label) ∧
      Union (history.step label).modifiers := by
  cases label with
  | fire call =>
      obtain ⟨exact_, union'⟩ := call.fire_numpad history union
      refine ⟨?_, union'⟩
      rw [← exact_]
      exact List.forall_mem_append
  | setIgnorePhysicalUpEvent newval =>
      refine ⟨?_, union⟩
      simp [History.step, KeepsNumpad]

theorem History.run_numpad (history : History) (union : Union history.modifiers)
    (steps : List Step) :
    (∀ item ∈ (Transition.run History.step history steps).pushed,
      carriesNumpad item = false) ↔
      (∀ item ∈ history.pushed, carriesNumpad item = false) ∧
        Transition.Along History.step (fun history label => ¬KeepsNumpad history label) history
          steps := by
  induction steps generalizing history with
  | nil => simp [Transition.Along]
  | cons label steps ih =>
      obtain ⟨exact_, union'⟩ := history.step_numpad union label
      rw [Transition.run_cons, ih _ union', exact_, and_assoc]
      rfl

/-- In a run from the start no MODIFY event carries NUMPAD if and only if no call finds it
both sent and wanted while a modifier changes. -/
theorem modify_without_numpad_iff (steps : List Step) :
    (∀ item ∈ (Transition.run History.step .start steps).pushed, carriesNumpad item = false) ↔
      Transition.Along History.step (fun history label => ¬KeepsNumpad history label) .start
        steps := by
  have union : Union History.start.modifiers := ⟨[], rfl⟩
  rw [History.start.run_numpad union steps]
  simp [History.start]

/-- A call while only the normal modifiers are registered. -/
def normalCall (toFlags : List ModifierFlag) : FireCall where
  extra := []
  virtual := Pairs.areVirtual_nil
  status := FlagStatus.initialized Pairs.normal
  reachable := ⟨[], rfl⟩
  autogenId := 0
  keyboardType := ⟨40⟩
  physicalEventType := .DOWN
  toFlags := .ofModifierFlags toFlags

/-- A key of the keypad goes down, then one with Shift_L. -/
theorem shift_carries_numpad :
    ¬∀ steps, ∀ item ∈ (Transition.run History.step .start steps).pushed,
      carriesNumpad item = false := by
  intro claim
  have last := claim [.fire (normalCall [.NUMPAD]), .fire (normalCall [.NUMPAD, .SHIFT_L])]
  exact absurd last (by decide +kernel)

end Karabiner.EventOutputQueue.FireModifiers
