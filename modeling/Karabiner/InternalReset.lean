import Karabiner.OutputFaithful

set_option autoImplicit false

/- resetInternalStateIfNeeded, when it resets: nothing but locks and sticky modifiers is left. -/
namespace Karabiner

def AutogenId.maxValue : AutogenId := 0xffffffffffffffff

def VirtualKey.VK_MOUSEKEY.reset (mouseKey : MouseKey) : MouseKey :=
  { mouseKey with
    move_down_ := false
    move_left_ := false
    move_right_ := false
    move_up_ := false
    scale_ := 1
    scrollmode_ := false
    highspeed_ := false
    currentAutogenId_ := 0
    lastPhysicalEventType_ := .DOWN
    fire_timer_ := mouseKey.fire_timer_.cancelTimeout }

def VirtualKey.reset (output : Output) : Output :=
  { output with needToDrop_ := false, mouseKey := VK_MOUSEKEY.reset output.mouseKey }

section
variable (settings : Settings)

/-- One round of the loop of PressDownKeys::clear. -/
def PressDownKeys.release (output : Output) (pair : KeyCode × KeyboardType) : Output :=
  EventOutputQueue.push (.keyboardEvent settings.pairs .UP ⟨0⟩ pair.1 pair.2 false)
    AutogenId.maxValue output

def PressDownKeys.clear (output : Output) : Output :=
  { output.pressDownKeys.foldl (PressDownKeys.release settings) output with pressDownKeys := [] }

namespace EventInputQueue

open EventOutputQueue (fireModifiers fireRelativePointer)

/-- The counters and the virtual keys, before anything is sent. -/
def resetCounters (output : Output) : Output :=
  let output := output.onFlagStatus FlagStatus.reset
  let output := output.onButtonStatus ButtonStatus.reset
  let output := VirtualKey.reset output
  output.setIgnorePhysicalUpEvent false

/-- The part of resetInternalStateIfNeeded that is about the output. -/
def resetOutput (output : Output) : Output :=
  let output := resetCounters output
  let output := fireModifiers settings AutogenId.maxValue .UP output.makeFlags output.keyboardType
    output
  let output := fireRelativePointer settings AutogenId.maxValue .UP output.makeButtons 0 0 output
  PressDownKeys.clear settings output

end EventInputQueue

end

theorem Buttons.eq_of_remove {buttons other : Buttons}
    (noneUp : (buttons.remove other).isNONE = true)
    (noneDown : (other.remove buttons).isNONE = true) : buttons = other := by
  have up : buttons.value &&& ~~~other.value = 0 := by simpa [isNONE, remove] using noneUp
  have down : other.value &&& ~~~buttons.value = 0 := by simpa [isNONE, remove] using noneDown
  have same : buttons.value = other.value := by
    apply BitVec.eq_of_getLsbD_eq
    intro i inside
    have upBit := congrArg (BitVec.getLsbD · i) up
    have downBit := congrArg (BitVec.getLsbD · i) down
    simp only [BitVec.getLsbD_and, BitVec.getLsbD_not, inside, decide_true, Bool.true_and]
      at upBit downBit
    cases one : buttons.value.getLsbD i <;> cases two : other.value.getLsbD i <;> simp_all
  cases buttons
  cases other
  exact congrArg Buttons.mk same

open Output (LeavesKeys SameSent Faithful KeepsFaithful keepsFaithful_frame Follows)

variable {settings : Settings}

/-- The keys that were pressed are released, and nothing else is sent. -/
theorem foldl_release (pairs : List (KeyCode × KeyboardType)) (output : Output)
    (follows : Follows settings output) :
    Follows settings (pairs.foldl (PressDownKeys.release settings) output) ∧
      ∀ pair, (pairs.foldl (PressDownKeys.release settings) output).replay.isDown pair =
        (output.replay.isDown pair && decide (pair ∉ pairs)) := by
  induction pairs generalizing output with
  | nil => exact ⟨follows, fun pair => by simp⟩
  | cons pair pairs ih =>
      have pushes := EventOutputQueue.push_pushes
        (.keyboardEvent settings.pairs .UP ⟨0⟩ pair.1 pair.2 false) AutogenId.maxValue output
      have replayed : (PressDownKeys.release settings output pair).replay =
          { output.replay with isDown := Function.update output.replay.isDown pair false } :=
        pushes.replay
      have first : Follows settings (PressDownKeys.release settings output pair) := by
        refine ⟨pushes.flags.trans follows.flags, ?_, ?_, ?_⟩
        · exact pushes.fireModifiers ▸ follows.union
        · rw [replayed]
          exact pushes.fireModifiers ▸ follows.modifiers
        · rw [replayed]
          exact follows.buttons.trans pushes.lastButtons_.symm
      obtain ⟨rest, isDown⟩ := ih _ first
      refine ⟨rest, fun other => ?_⟩
      rw [List.foldl_cons, isDown, replayed]
      by_cases same : other = pair
      · simp [same]
      · simp [same]

/-- What a release of PressDownKeys leaves alone. -/
structure SameCounters (before after : Output) : Prop where
  flagStatus : after.flagStatus = before.flagStatus
  fireModifiers : after.fireModifiers = before.fireModifiers
  lastButtons_ : after.lastButtons_ = before.lastButtons_
  buttonStatus : after.buttonStatus = before.buttonStatus

theorem clear_sameCounters (output : Output) :
    SameCounters output (PressDownKeys.clear settings output) := by
  have all (pairs : List (KeyCode × KeyboardType)) (output : Output) :
      SameCounters output (pairs.foldl (PressDownKeys.release settings) output) := by
    induction pairs generalizing output with
    | nil => exact ⟨rfl, rfl, rfl, rfl⟩
    | cons pair pairs ih =>
        have first : SameCounters output (PressDownKeys.release settings output pair) :=
          ⟨rfl, rfl, rfl, rfl⟩
        have rest := ih (PressDownKeys.release settings output pair)
        exact ⟨rest.flagStatus.trans first.flagStatus,
          rest.fireModifiers.trans first.fireModifiers,
          rest.lastButtons_.trans first.lastButtons_,
          rest.buttonStatus.trans first.buttonStatus⟩
  obtain ⟨flagStatus, fireModifiers, lastButtons_, buttonStatus⟩ :=
    all output.pressDownKeys output
  exact ⟨flagStatus, fireModifiers, lastButtons_, buttonStatus⟩

theorem clear_faithful {output : Output} (faithful : Faithful settings output) :
    Faithful settings (PressDownKeys.clear settings output) ∧
      ∀ pair, (PressDownKeys.clear settings output).replay.isDown pair = false := by
  obtain ⟨follows, isDown⟩ := foldl_release output.pressDownKeys output faithful.follows
  have none (pair : KeyCode × KeyboardType) :
      (PressDownKeys.clear settings output).replay.isDown pair = false := by
    refine (isDown pair).trans ?_
    rw [faithful.keys]
    by_cases down : pair ∈ output.pressDownKeys <;> simp [down]
  have same : SameSent (output.pressDownKeys.foldl (PressDownKeys.release settings) output)
      (PressDownKeys.clear settings output) := ⟨rfl, rfl, rfl, rfl⟩
  refine ⟨⟨same.follows follows, fun pair => ?_⟩, none⟩
  rw [none]
  exact (decide_eq_false List.not_mem_nil).symm

namespace EventOutputQueue

/-- The sticky modifiers outlive the events of modifiers. -/
theorem foldl_push_flagStatus {pushed : List Pushed}
    (keeps : ∀ one ∈ pushed, clearsSticky one.params = false) (output : Output) :
    (pushed.foldl (fun output pushed => push pushed.params pushed.autogenId output)
      output).flagStatus = output.flagStatus := by
  induction pushed generalizing output with
  | nil => rfl
  | cons one rest ih =>
      obtain ⟨here, others⟩ := List.forall_mem_cons.mp keeps
      rw [List.foldl_cons, ih others]
      unfold push
      dsimp only
      rw [here]
      rfl

theorem FireModifiers.eventsOf_keepsSticky (autogenId : AutogenId) (keyboardType : KeyboardType)
    (change : List ModifierFlag → ModifierFlag → List ModifierFlag)
    (held flags : List ModifierFlag) :
    ∀ one ∈ eventsOf autogenId keyboardType change held flags,
      clearsSticky one.params = false := by
  induction flags generalizing held with
  | nil => exact fun _ none => absurd none List.not_mem_nil
  | cons flag flags ih =>
      intro one member
      cases List.mem_cons.mp member with
      | inl first =>
          rw [first]
          rfl
      | inr later => exact ih _ one later

section
variable (autogenId : AutogenId) {physicalEventType : PhysicalEventType} {output : Output}

/-- A call that is not suppressed leaves the modifiers as they are wanted. -/
theorem fireModifiers_reaches (follows : Follows settings output)
    (goesOn : output.fireModifiers.isSuppressed physicalEventType = false) (toFlags : Flags)
    (keyboardType : KeyboardType) :
    let after := fireModifiers settings autogenId physicalEventType toFlags keyboardType output
    (∀ flag ∈ Pairs.normal.flags,
        after.fireModifiers.lastFlags_.isOn flag = toFlags.isOn flag) ∧
      after.flagStatus = output.flagStatus ∧ after.lastButtons_ = output.lastButtons_ := by
  unfold fireModifiers
  extract_lets fired after
  have pushes := foldl_push fired.2 { output with fireModifiers := fired.1 }
  obtain ⟨held, last⟩ := follows.union
  rcases FireModifiers.fire_cases settings.pairs autogenId keyboardType output.flagStatus
    physicalEventType toFlags output.fireModifiers with
    ⟨returns, result⟩ | ⟨-, ignored, result⟩
  · have same : output.fireModifiers.lastFlags_ = toFlags := by
      rcases returns with same | suppressed
      · exact same
      · rw [goesOn] at suppressed
        cases suppressed
    have nothing : fired = (output.fireModifiers, []) := result
    have unchanged : after = output := by
      unfold after
      rw [nothing]
      rfl
    rw [unchanged, same]
    exact ⟨fun _ _ => rfl, rfl, rfl⟩
  · obtain ⟨releases, presses, moves⟩ :=
      FireModifiers.moveFlags_moves settings.virtual autogenId
      keyboardType toFlags held
    have flags : Pairs.flags (Pairs.normal ++ settings.extra) = output.flagStatus.flags :=
      follows.flags.symm
    rw [flags, ← last] at moves
    obtain ⟨reached, ends, mem⟩ := moves.reached
    have lastFlags_ : fired.1.lastFlags_ = .ofModifierFlags reached :=
      (congrArg (·.1.lastFlags_) result).trans ends
    have keeps : ∀ one ∈ fired.2, clearsSticky one.params = false := by
      have events : fired.2 = _ := (congrArg (·.2) result).trans moves.pushed
      rw [events]
      intro one member
      cases List.mem_append.mp member with
      | inl released => exact FireModifiers.eventsOf_keepsSticky _ _ _ _ _ one released
      | inr pressed => exact FireModifiers.eventsOf_keepsSticky _ _ _ _ _ one pressed
    refine ⟨fun flag normal => ?_, foldl_push_flagStatus keeps _, pushes.lastButtons_⟩
    have raw := FireModifiers.getRawBits_of_normal normal
    rw [pushes.fireModifiers, lastFlags_, Flags.isOn_ofModifierFlags raw, Bool.eq_iff_iff,
      decide_eq_true_iff]
    exact mem flag raw

/-- With the modifiers of FlagStatus, which stay sent whatever is released of the mouse. -/
theorem fireCurrentModifiers_reaches (follows : Follows settings output)
    (goesOn : output.fireModifiers.isSuppressed physicalEventType = false) :
    let after := fireCurrentModifiers settings autogenId physicalEventType output
    (∀ flag ∈ Pairs.normal.flags,
        after.fireModifiers.lastFlags_.isOn flag = after.makeFlags.isOn flag) ∧
      after.flagStatus = output.flagStatus ∧ after.lastButtons_ = output.lastButtons_ := by
  obtain ⟨reached, status, buttons⟩ := fireModifiers_reaches autogenId follows goesOn
    output.makeFlags output.keyboardType
  refine ⟨fun flag normal => ?_, status, buttons⟩
  have same : (fireCurrentModifiers settings autogenId physicalEventType output).makeFlags =
      output.makeFlags := congrArg FlagStatus.makeFlags status
  rw [same]
  exact reached flag normal

/-- The buttons are sent, and the modifiers of FlagStatus if no button goes down. -/
theorem fireRelativePointer_reaches (follows : Follows settings output) (toButtons : Buttons) :
    let after := fireRelativePointer settings autogenId physicalEventType toButtons 0 0 output
    after.lastButtons_ = toButtons ∧
      ((toButtons.remove output.lastButtons_).isNONE = true → ∀ flag ∈ Pairs.normal.flags,
        after.fireModifiers.lastFlags_.isOn flag = after.makeFlags.isOn flag) := by
  unfold fireRelativePointer
  extract_lets isButtonReleased cleared modified clicked moved after
  have ends : after = if isButtonReleased then
      fireCurrentModifiers settings autogenId physicalEventType clicked else clicked := by
    have unmoved : moved = clicked := if_neg (by simp)
    unfold after
    rw [unmoved]
  rw [ends]
  have goesOn : cleared.fireModifiers.isSuppressed physicalEventType = false := by
    show (decide (physicalEventType = .UP) && false) = false
    rw [Bool.and_false]
  have clearedFollows : Follows settings cleared :=
    ((setIgnorePhysicalUpEvent_leavesKeys false output).follows follows).1
  have sent : clicked.lastButtons_ = toButtons ∧
      clicked.fireModifiers = modified.fireModifiers ∧
      (Follows settings modified → Follows settings clicked) := by
    by_cases same : modified.lastButtons_ = toButtons
    · have unchanged : clicked = modified := if_neg (not_not.mpr same)
      rw [unchanged]
      exact ⟨same, rfl, id⟩
    · have pushed : clicked = push (.relativePointer ⟨toButtons, 0, 0, .NONE, false⟩) autogenId
          { modified with lastButtons_ := toButtons } := if_pos same
      have pushes := push_pushes (.relativePointer ⟨toButtons, 0, 0, .NONE, false⟩) autogenId
        { modified with lastButtons_ := toButtons }
      rw [pushed]
      exact ⟨pushes.lastButtons_, pushes.fireModifiers, fun before =>
        ((pushButtons_leavesKeys autogenId ⟨toButtons, 0, 0, .NONE, false⟩ modified).follows
          before).1⟩
  obtain ⟨buttons, modifiers, keeps⟩ := sent
  cases released : isButtonReleased with
  | true =>
      have first : modified = cleared := by
        show (if isButtonReleased then cleared else _) = cleared
        rw [if_pos released]
      have clickedFollows : Follows settings clicked := keeps (first ▸ clearedFollows)
      have stillGoesOn : clicked.fireModifiers.isSuppressed physicalEventType = false := by
        rw [modifiers, first]
        exact goesOn
      obtain ⟨reached, -, last⟩ :=
        fireCurrentModifiers_reaches autogenId clickedFollows stillGoesOn
      exact ⟨last.trans buttons, fun _ => reached⟩
  | false =>
      have first : modified = fireCurrentModifiers settings autogenId physicalEventType
          cleared := by
        show (if isButtonReleased then cleared else _) = _
        rw [released]
        rfl
      obtain ⟨reached, -, last⟩ := fireCurrentModifiers_reaches autogenId clearedFollows goesOn
      refine ⟨buttons, fun noneDown => ?_⟩
      -- Neither a release nor a press: the buttons are the same.
      have same : output.lastButtons_ = toButtons := by
        have noneUp : (output.lastButtons_.remove toButtons).isNONE = true := by
          simpa [isButtonReleased] using released
        exact Buttons.eq_of_remove noneUp noneDown
      have unchanged : clicked = modified := by
        apply if_neg
        rw [first, last]
        exact not_not.mpr same
      rw [unchanged, first]
      exact reached

end

end EventOutputQueue

namespace FlagStatus

theorem isOn_makeFlags (status : FlagStatus) {flag : ModifierFlag} (raw : flag.getRawBits ≠ 0) :
    status.makeFlags.isOn flag = true ↔
      ∃ it ∈ status.item, it.flag = flag ∧ it.sum false > 0 := by
  have step (items : List Item) (held : List ModifierFlag) :
      ((items.foldl (fun (flags : Flags) it =>
        if it.sum false > 0 then flags.add it.flag else flags)
        (Flags.ofModifierFlags held)).isOn flag = true ↔
        flag ∈ held ∨ ∃ it ∈ items, it.flag = flag ∧ it.sum false > 0) := by
    induction items generalizing held with
    | nil => simp [Flags.isOn_ofModifierFlags raw]
    | cons it items ih =>
        rw [List.foldl_cons]
        split
        · next on =>
          rw [Flags.add_ofModifierFlags, ih]
          simp only [List.mem_append, List.mem_singleton, List.exists_mem_cons_iff]
          constructor
          · rintro ((here | rfl) | later)
            · exact .inl here
            · exact .inr (.inl ⟨rfl, on⟩)
            · exact .inr (.inr later)
          · rintro (here | ⟨rfl, -⟩ | later)
            · exact .inl (.inl here)
            · exact .inl (.inr rfl)
            · exact .inr later
        · next off =>
          rw [ih]
          simp only [List.exists_mem_cons_iff]
          constructor
          · rintro (here | later)
            · exact .inl here
            · exact .inr (.inr later)
          · rintro (here | ⟨-, on⟩ | later)
            · exact .inl here
            · exact absurd on off
            · exact .inr later
  have whole := step status.item []
  simpa [makeFlags, Flags.ofModifierFlags] using whole

/-- No counter is left that a key or a button may have changed. -/
def AtRest (status : FlagStatus) : Prop :=
  ∀ it ∈ status.item, it.count = 0 ∧ it.temporaryCount = 0 ∧ it.lazyCount = 0 ∧
    it.lazyEnabled = false

theorem reset_atRest (status : FlagStatus) : status.reset.AtRest := by
  intro it member
  obtain ⟨before, -, rfl⟩ := List.mem_map.mp member
  exact ⟨rfl, rfl, rfl, rfl⟩

theorem AtRest.stickyClear {status : FlagStatus} (rest : status.AtRest) :
    status.stickyClear.AtRest := by
  intro it member
  obtain ⟨before, known, rfl⟩ := List.mem_map.mp member
  exact rest before known

end FlagStatus

theorem Output.atRest_of_changes {before after : Output}
    (changes : settings.Changes Settings.Sends before after) (rest : before.flagStatus.AtRest) :
    after.flagStatus.AtRest := by
  refine Transition.Via.induction (fun first second => first.AtRest → second.AtRest) changes
    (fun _ => id) (fun _ _ _ left right first => right (left first)) ?_ rest
  intro status operation sends atRest
  have clears : operation = .stickyClear := sends
  rw [clears]
  exact atRest.stickyClear

namespace EventInputQueue

open EventOutputQueue

variable (settings) in
/-- What a reset leaves held: nothing but the locks and, if no button has to go down, the sticky
modifiers. -/
structure Clean (before after : Output) : Prop where
  faithful : Faithful settings after
  keys : ∀ pair, after.replay.isDown pair = false
  buttons : after.replay.buttons = before.buttonStatus.reset.makeButtons
  atRest : after.flagStatus.AtRest
  modifiers : (after.replay.buttons.remove before.lastButtons_).isNONE = true →
    ∀ flag ∈ Pairs.normal.flags, (after.replay.modifiers flag = true ↔
      ∃ it ∈ after.flagStatus.item, it.flag = flag ∧
        it.lockCount - it.negativeLockCount + it.stickyCount > 0)

theorem resetOutput_clean {output : Output} (faithful : Faithful settings output) :
    Clean settings output (resetOutput settings output) := by
  unfold resetOutput
  extract_lets counted modified pointed
  have countedSame : SameSent output counted :=
    ⟨FlagStatus.perform_flags settings.pairs _ .reset, rfl, rfl, rfl⟩
  have countedFaithful : Faithful settings counted :=
    SameSent.keepsFaithful countedSame rfl faithful
  have goesOn : counted.fireModifiers.isSuppressed .UP = false := rfl
  have toModified : LeavesKeys settings counted modified :=
    fireModifiers_leavesKeys AutogenId.maxValue .UP _ _ counted
  have toPointed : LeavesKeys settings modified pointed :=
    fireRelativePointer_leavesKeys AutogenId.maxValue .UP _ 0 0 modified
  have modifiedFaithful := toModified.keepsFaithful countedFaithful
  have pointedFaithful := toPointed.keepsFaithful modifiedFaithful
  obtain ⟨cleared, none⟩ := clear_faithful pointedFaithful
  have same := @clear_sameCounters settings pointed
  obtain ⟨-, -, lastButtons_⟩ :=
    fireModifiers_reaches AutogenId.maxValue countedFaithful.follows
    goesOn counted.makeFlags counted.keyboardType
  obtain ⟨buttons, modifiers⟩ := @fireRelativePointer_reaches settings AutogenId.maxValue .UP
    modified modifiedFaithful.follows modified.makeButtons
  have toButtons : modified.makeButtons = output.buttonStatus.reset.makeButtons :=
    congrArg ButtonStatus.makeButtons toModified.buttonStatus
  have sent : (PressDownKeys.clear settings pointed).replay.buttons =
      output.buttonStatus.reset.makeButtons := by
    rw [cleared.follows.buttons, same.lastButtons_, ← toButtons]
    exact buttons
  have atRest : (PressDownKeys.clear settings pointed).flagStatus.AtRest := by
    rw [same.flagStatus]
    refine Output.atRest_of_changes
      ((fireModifiers_changes AutogenId.maxValue .UP _ _ counted).trans
        (fireRelativePointer_changes AutogenId.maxValue .UP _ 0 0 modified)) ?_
    exact FlagStatus.reset_atRest output.flagStatus
  refine ⟨cleared, none, sent, atRest, fun covered flag normal => ?_⟩
  have raw := FireModifiers.getRawBits_of_normal normal
  rw [sent, ← toButtons] at covered
  have last : modified.lastButtons_ = output.lastButtons_ := lastButtons_
  rw [← last] at covered
  have on := modifiers covered flag normal
  rw [cleared.follows.modifiers flag normal, same.fireModifiers]
  have status : pointed.makeFlags = (PressDownKeys.clear settings pointed).flagStatus.makeFlags :=
    congrArg FlagStatus.makeFlags same.flagStatus.symm
  have whole : pointed.fireModifiers.lastFlags_.isOn flag = pointed.makeFlags.isOn flag := on
  rw [whole, status, FlagStatus.isOn_makeFlags _ raw]
  constructor
  · rintro ⟨it, member, own, positive⟩
    obtain ⟨count, temporary, lazy, disabled⟩ := atRest it member
    refine ⟨it, member, own, ?_⟩
    simpa [FlagStatus.Item.sum, count, temporary, disabled] using positive
  · rintro ⟨it, member, own, positive⟩
    obtain ⟨count, temporary, lazy, disabled⟩ := atRest it member
    refine ⟨it, member, own, ?_⟩
    simpa [FlagStatus.Item.sum, count, temporary, disabled] using positive

end EventInputQueue

namespace SentEvents

open EventInputQueue EventOutputQueue

/-- Whatever calls the functions that send events. The counters may change in between. -/
inductive Step where
  | fireKey (call : FireKeyCall)
  | fireConsumer (autogenId : AutogenId) (physicalEventType : PhysicalEventType)
      (params : KeyboardSpecialEventCallback)
  | fireRelativePointer (autogenId : AutogenId) (physicalEventType : PhysicalEventType)
      (toButtons : Buttons) (dx dy : Int)
  | fireScrollWheel (autogenId : AutogenId) (physicalEventType : PhysicalEventType)
      (params : ScrollWheelEventCallback)
  | fireModifiers (autogenId : AutogenId) (physicalEventType : PhysicalEventType)
      (toFlags : Flags) (keyboardType : KeyboardType)
  | fireWait (milliseconds : UInt32) (autogenId : AutogenId)
  | flagStatus (operation : FlagStatus.Operation)
  | buttonStatus (buttonStatus : ButtonStatus)
  | setIgnorePhysicalUpEvent (newval : Bool)
  | keyboardType (keyboardType : KeyboardType)
  | workspaceInputSourceIds (ids : List Nat)
  | mouseKey (mouseKey : MouseKey)
  | reset

section
variable (settings : Settings)

def start : Output := { flagStatus := .initialized settings.pairs }

def step (output : Output) : Step → Output
  | .fireKey call => fireKey settings call output
  | .fireConsumer autogenId physicalEventType params =>
      fireConsumer settings autogenId physicalEventType params output
  | .fireRelativePointer autogenId physicalEventType toButtons dx dy =>
      fireRelativePointer settings autogenId physicalEventType toButtons dx dy output
  | .fireScrollWheel autogenId physicalEventType params =>
      FireScrollWheel.fire settings autogenId physicalEventType params output
  | .fireModifiers autogenId physicalEventType toFlags keyboardType =>
      fireModifiers settings autogenId physicalEventType toFlags keyboardType output
  | .fireWait milliseconds autogenId => fireWait milliseconds autogenId output
  | .flagStatus operation => output.onFlagStatus (·.perform settings.pairs operation)
  | .buttonStatus buttonStatus => { output with buttonStatus }
  | .setIgnorePhysicalUpEvent newval => output.setIgnorePhysicalUpEvent newval
  | .keyboardType keyboardType => { output with keyboardType }
  | .workspaceInputSourceIds ids => { output with workspaceInputSourceIds := ids }
  | .mouseKey mouseKey => { output with mouseKey }
  | .reset => resetOutput settings output

end

theorem start_faithful : Faithful settings (start settings) := by
  refine ⟨⟨FlagStatus.initialized_flags settings.pairs, ⟨[], rfl⟩,
    fun flag normal => ?_, rfl⟩,
    fun _ => rfl⟩
  have off := Flags.isOn_ofModifierFlags (FireModifiers.getRawBits_of_normal normal) []
  exact off.symm

theorem step_faithful (output : Output) (s : Step) (faithful : Faithful settings output) :
    Faithful settings (step settings output s) := by
  cases s with
  | fireKey call => exact fireKey_keepsFaithful call output faithful
  | fireConsumer => exact (fireConsumer_leavesKeys _ _ _ output).keepsFaithful faithful
  | fireRelativePointer =>
      exact (fireRelativePointer_leavesKeys _ _ _ _ _ output).keepsFaithful faithful
  | fireScrollWheel => exact (fireScrollWheel_leavesKeys _ _ _ output).keepsFaithful faithful
  | fireModifiers => exact (fireModifiers_leavesKeys _ _ _ _ output).keepsFaithful faithful
  | fireWait => exact (fireWait_leavesKeys _ _ output).keepsFaithful faithful
  | flagStatus operation =>
      exact (Output.onFlagStatus_leavesKeys settings.pairs operation output).keepsFaithful faithful
  | setIgnorePhysicalUpEvent newval =>
      exact (setIgnorePhysicalUpEvent_leavesKeys newval output).keepsFaithful faithful
  | buttonStatus | keyboardType | workspaceInputSourceIds | mouseKey =>
      exact @SameSent.keepsFaithful settings output _ ⟨rfl, rfl, rfl, rfl⟩ rfl faithful
  | reset => exact (resetOutput_clean faithful).faithful

/-- In every run, the keys, modifiers and buttons that the pushed events leave held are those that
PressDownKeys, lastFlags_ and lastButtons_ hold. -/
theorem run_faithful (settings : Settings) (steps : List Step) :
    Faithful settings (Transition.run (step settings) (start settings) steps) :=
  Transition.invariant_of_step (Faithful settings) step_faithful steps start_faithful

/-- A reset leaves nothing held but what is locked, whatever was sent before. -/
theorem run_reset_clean (settings : Settings) (steps : List Step) :
    let before := Transition.run (step settings) (start settings) steps
    Clean settings before (step settings before .reset) :=
  resetOutput_clean (run_faithful settings steps)

end SentEvents

end Karabiner
