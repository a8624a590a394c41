import Karabiner.FireScrollWheel
import Karabiner.NumpadFlag
import Karabiner.VirtualKey

set_option autoImplicit false

/- What a system that takes the pushed events believes to be held. The functions that send an event
leave it with the modifiers and the buttons that they remember, and only FireKey lets a key go down
or up. -/
namespace Karabiner

/-- Repetitions are left out. -/
structure Replay where
  isDown : KeyCode × KeyboardType → Bool := fun _ => false
  modifiers : ModifierFlag → Bool := fun _ => false
  buttons : Buttons := ⟨0⟩

namespace Replay

def setModifier (flag : ModifierFlag) (on : Bool) (replay : Replay) : Replay :=
  { replay with modifiers := Function.update replay.modifiers flag on }

def deliverKey (params : KeyboardEventCallBack) (replay : Replay) : Replay :=
  if params.isRepeat then replay
  else if params.eventType = EventType.DOWN then
    { replay with
      isDown := Function.update replay.isDown (params.key, params.keyboardType) true }
  else if params.eventType = EventType.UP then
    { replay with
      isDown := Function.update replay.isDown (params.key, params.keyboardType) false }
  else if params.eventType = EventType.MODIFY then
    let flag := Pairs.normal.getModifierFlag params.key .KEYCODE
    replay.setModifier flag (params.flags.isOn flag)
  else replay

def deliver (replay : Replay) (item : OutputItem) : Replay :=
  match item.event with
  | .params (.keyboard params) => replay.deliverKey params
  | .params (.relativePointer params) => { replay with buttons := params.buttons }
  | .params (.keyboardSpecial _) | .params (.scrollWheel _) | .wait _ => replay

end Replay

namespace Output

def replay (output : Output) : Replay := Transition.run Replay.deliver {} output.queue_

/-- A union of raw bits. -/
def UnionFlags (flags : Flags) : Prop := ∃ held, flags = .ofModifierFlags held

/-- lastFlags_ and lastButtons_ are what the system believes. -/
structure Follows (settings : Settings) (output : Output) : Prop where
  flags : output.flagStatus.flags = settings.pairs.flags
  union : UnionFlags output.fireModifiers.lastFlags_
  modifiers : ∀ flag ∈ Pairs.normal.flags,
    output.replay.modifiers flag = output.fireModifiers.lastFlags_.isOn flag
  buttons : output.replay.buttons = output.lastButtons_

/-- No key goes down or up, and what follows goes on to follow. -/
structure LeavesKeys (settings : Settings) (before after : Output) : Prop where
  buttonStatus : after.buttonStatus = before.buttonStatus
  pressDownKeys : after.pressDownKeys = before.pressDownKeys
  follows : Follows settings before →
    Follows settings after ∧ after.replay.isDown = before.replay.isDown

variable {settings : Settings}

theorem LeavesKeys.refl (output : Output) : LeavesKeys settings output output :=
  ⟨rfl, rfl, fun follows => ⟨follows, rfl⟩⟩

theorem LeavesKeys.trans {before between after : Output} (left : LeavesKeys settings before between)
    (right : LeavesKeys settings between after) : LeavesKeys settings before after := by
  refine ⟨right.buttonStatus.trans left.buttonStatus,
    right.pressDownKeys.trans left.pressDownKeys, fun follows => ?_⟩
  obtain ⟨first, same⟩ := left.follows follows
  obtain ⟨second, alsoSame⟩ := right.follows first
  exact ⟨second, alsoSame.trans same⟩

/-- Nothing is sent. -/
structure SameSent (before after : Output) : Prop where
  flags : after.flagStatus.flags = before.flagStatus.flags
  lastFlags_ : after.fireModifiers.lastFlags_ = before.fireModifiers.lastFlags_
  lastButtons_ : after.lastButtons_ = before.lastButtons_
  queue_ : after.queue_ = before.queue_

theorem SameSent.follows {before after : Output} (same : SameSent before after)
    (follows : Follows settings before) : Follows settings after := by
  have replayed : after.replay = before.replay := by
    unfold replay
    rw [same.queue_]
  refine ⟨?_, ?_, ?_, ?_⟩
  · rw [same.flags, follows.flags]
  · rw [same.lastFlags_]
    exact follows.union
  · rw [replayed, same.lastFlags_]
    exact follows.modifiers
  · rw [replayed, same.lastButtons_]
    exact follows.buttons

theorem SameSent.leavesKeys {before after : Output} (same : SameSent before after)
    (buttonStatus : after.buttonStatus = before.buttonStatus)
    (pressDownKeys : after.pressDownKeys = before.pressDownKeys) :
    LeavesKeys settings before after := by
  refine ⟨buttonStatus, pressDownKeys, fun follows => ⟨same.follows follows, ?_⟩⟩
  unfold replay
  rw [same.queue_]

theorem onFlagStatus_leavesKeys (pairs : Pairs) (operation : FlagStatus.Operation)
    (output : Output) :
    LeavesKeys settings output (output.onFlagStatus (·.perform pairs operation)) :=
  SameSent.leavesKeys ⟨FlagStatus.perform_flags pairs _ operation, rfl, rfl, rfl⟩ rfl rfl

end Output

namespace EventOutputQueue

open Output (LeavesKeys Follows SameSent)

variable {settings : Settings}

theorem push_queue (params : Params) (autogenId : AutogenId) (output : Output) :
    (push params autogenId output).queue_ = output.queue_ ++ [⟨.params params, autogenId⟩] := by
  unfold push
  dsimp only
  split <;> rfl

theorem push_replay (params : Params) (autogenId : AutogenId) (output : Output) :
    (push params autogenId output).replay = output.replay.deliver
    ⟨.params params, autogenId⟩ := by
  unfold Output.replay
  rw [push_queue, Transition.run_append]
  rfl

/-- push sends an event and may end the sticky modifiers. -/
structure Pushes (params : Params) (autogenId : AutogenId) (before after : Output) : Prop where
  flags : after.flagStatus.flags = before.flagStatus.flags
  fireModifiers : after.fireModifiers = before.fireModifiers
  lastButtons_ : after.lastButtons_ = before.lastButtons_
  buttonStatus : after.buttonStatus = before.buttonStatus
  pressDownKeys : after.pressDownKeys = before.pressDownKeys
  replay : after.replay = before.replay.deliver ⟨.params params, autogenId⟩

theorem push_pushes (params : Params) (autogenId : AutogenId) (output : Output) :
    Pushes params autogenId output (push params autogenId output) := by
  have replayed := push_replay params autogenId output
  unfold push at replayed ⊢
  dsimp only at replayed ⊢
  split
  · next clears =>
    rw [if_pos clears] at replayed
    exact ⟨FlagStatus.perform_flags Pairs.normal _ .stickyClear, rfl, rfl, rfl, rfl, replayed⟩
  · next keeps =>
    rw [if_neg keeps] at replayed
    exact ⟨rfl, rfl, rfl, rfl, rfl, replayed⟩

/-- Events that are neither of a key nor of a button. -/
theorem push_leavesKeys {params : Params} {autogenId : AutogenId}
    (silent : ∀ replay : Replay, replay.deliver ⟨.params params, autogenId⟩ = replay)
    (output : Output) : LeavesKeys settings output (push params autogenId output) := by
  have pushes := push_pushes params autogenId output
  have replayed := pushes.replay.trans (silent _)
  refine ⟨pushes.buttonStatus, pushes.pressDownKeys, fun follows =>
    ⟨⟨pushes.flags.trans follows.flags, ?_, ?_, ?_⟩, congrArg _ replayed⟩⟩
  · rw [pushes.fireModifiers]
    exact follows.union
  · rw [pushes.fireModifiers, replayed]
    exact follows.modifiers
  · rw [pushes.lastButtons_, replayed]
    exact follows.buttons

namespace FireModifiers

/-- The events of modifiers that are all released or all pressed. -/
theorem deliver_eventsOf (autogenId : AutogenId) (keyboardType : KeyboardType)
    {change : List ModifierFlag → ModifierFlag → List ModifierFlag} {on : Bool}
    {flags : List ModifierFlag} (normal : ∀ flag ∈ flags, flag ∈ Pairs.normal.flags)
    (changed : ∀ held flag, decide (flag ∈ change held flag) = on) (held : List ModifierFlag)
    (replay : Replay) :
    Transition.run Replay.deliver replay ((eventsOf autogenId keyboardType change held flags).map
        fun pushed => ⟨.params pushed.params, pushed.autogenId⟩) =
      { replay with
        modifiers := fun flag => if flag ∈ flags then on else replay.modifiers flag } := by
  have own : ∀ flag ∈ Pairs.normal.flags,
      Pairs.normal.getModifierFlag (Pairs.normal.getKeyCode flag .KEYCODE) .KEYCODE = flag := by
    decide
  induction flags generalizing held replay with
  | nil => simp [eventsOf]
  | cons flag flags ih =>
      obtain ⟨here, rest⟩ := List.forall_mem_cons.mp normal
      have first : replay.deliver ⟨.params (changeEvent autogenId keyboardType
          (change held flag) flag).params, autogenId⟩ =
          replay.setModifier flag on := by
        show replay.setModifier
          (Pairs.normal.getModifierFlag (Pairs.normal.getKeyCode flag .KEYCODE) .KEYCODE)
          ((Flags.ofModifierFlags (change held flag)).isOn
            (Pairs.normal.getModifierFlag (Pairs.normal.getKeyCode flag .KEYCODE) .KEYCODE)) = _
        rw [own flag here, Flags.isOn_ofModifierFlags (getRawBits_of_normal here), changed]
      rw [eventsOf, List.map_cons, Transition.run_cons]
      refine (congrArg (Transition.run Replay.deliver · _) first).trans ((ih rest _ _).trans ?_)
      unfold Replay.setModifier
      congr 1
      funext other
      by_cases same : other = flag
      · simp [same]
      · simp [same]

theorem not_mem_release (held : List ModifierFlag) (flag : ModifierFlag) :
    decide (flag ∈ release held flag) = false := by
  simp [release]

theorem mem_press_self (held : List ModifierFlag) (flag : ModifierFlag) :
    decide (flag ∈ press held flag) = true := by
  simp [press]

/-- The events of moveFlags turn what was sent last into what is wanted. -/
theorem Moves.deliver {autogenId : AutogenId} {keyboardType : KeyboardType} {toFlags : Flags}
    {held : List ModifierFlag} {moved : Flags × List Pushed} {releases presses : List ModifierFlag}
    (moves : Moves autogenId keyboardType toFlags held moved releases presses) {replay : Replay}
    (before : ∀ flag ∈ Pairs.normal.flags,
      replay.modifiers flag = (Flags.ofModifierFlags held).isOn flag) :
    ∃ modifiers : ModifierFlag → Bool,
      Transition.run Replay.deliver replay
          (moved.2.map fun pushed => ⟨.params pushed.params, pushed.autogenId⟩) =
        { replay with modifiers } ∧
      ∀ flag ∈ Pairs.normal.flags, modifiers flag = moved.1.isOn flag := by
  refine ⟨fun flag => if flag ∈ presses then true else
    if flag ∈ releases then false else replay.modifiers flag, ?_, fun flag normal => ?_⟩
  · rw [moves.pushed, List.map_append, Transition.run_append,
      deliver_eventsOf autogenId keyboardType
      (fun flag member => ((moves.released flag).mp member).1)
        not_mem_release,
      deliver_eventsOf autogenId keyboardType
      (fun flag member => ((moves.pressed flag).mp member).1)
        mem_press_self]
  · obtain ⟨after, ends, mem⟩ := moves.reached
    have raw := getRawBits_of_normal normal
    have same : decide (flag ∈ after) = toFlags.isOn flag := by
      rw [Bool.eq_iff_iff, decide_eq_true_iff]
      exact mem flag raw
    rw [ends, Flags.isOn_ofModifierFlags raw, same]
    have earlier := before flag normal
    rw [Flags.isOn_ofModifierFlags raw] at earlier
    have pressed := moves.pressed flag
    have released := moves.released flag
    simp only [normal, true_and] at pressed released
    by_cases wanted : toFlags.isOn flag = true
    · by_cases here : flag ∈ held
      · simp [pressed, released, wanted, here, earlier]
      · simp [pressed, wanted, here]
    · have off : toFlags.isOn flag = false := by simpa using wanted
      by_cases here : flag ∈ held
      · simp [pressed, released, off, here]
      · simp [pressed, released, off, here, earlier]

end FireModifiers

/-- What a loop of push keeps. -/
structure PushesAll (pushed : List Pushed) (before after : Output) : Prop where
  flags : after.flagStatus.flags = before.flagStatus.flags
  fireModifiers : after.fireModifiers = before.fireModifiers
  lastButtons_ : after.lastButtons_ = before.lastButtons_
  buttonStatus : after.buttonStatus = before.buttonStatus
  pressDownKeys : after.pressDownKeys = before.pressDownKeys
  replay : after.replay = Transition.run Replay.deliver before.replay
    (pushed.map fun pushed => ⟨.params pushed.params, pushed.autogenId⟩)

theorem foldl_push (pushed : List Pushed) (output : Output) :
    PushesAll pushed output
      (pushed.foldl (fun output pushed => push pushed.params pushed.autogenId output) output) := by
  induction pushed generalizing output with
  | nil => exact ⟨rfl, rfl, rfl, rfl, rfl, rfl⟩
  | cons one rest ih =>
      have first := push_pushes one.params one.autogenId output
      have others := ih (push one.params one.autogenId output)
      refine ⟨others.flags.trans first.flags, others.fireModifiers.trans first.fireModifiers,
        others.lastButtons_.trans first.lastButtons_,
        others.buttonStatus.trans first.buttonStatus,
        others.pressDownKeys.trans first.pressDownKeys, ?_⟩
      rw [List.foldl_cons, others.replay, first.replay]
      rfl

section
variable (autogenId : AutogenId) (physicalEventType : PhysicalEventType)

/-- The modifiers that are sent are those that lastFlags_ ends with. -/
theorem fireModifiers_leavesKeys (toFlags : Flags) (keyboardType : KeyboardType)
    (output : Output) :
    LeavesKeys settings output
      (fireModifiers settings autogenId physicalEventType toFlags keyboardType output) := by
  unfold fireModifiers
  extract_lets fired
  have pushes := foldl_push fired.2 { output with fireModifiers := fired.1 }
  refine ⟨pushes.buttonStatus, pushes.pressDownKeys, fun follows => ?_⟩
  obtain ⟨held, last⟩ := follows.union
  rcases FireModifiers.fire_cases settings.pairs autogenId keyboardType output.flagStatus
    physicalEventType toFlags output.fireModifiers with ⟨-, result⟩ | ⟨-, ignored, result⟩
  · have nothing : fired = (output.fireModifiers, []) := result
    rw [nothing]
    exact ⟨follows, rfl⟩
  · obtain ⟨releases, presses, moves⟩ :=
      FireModifiers.moveFlags_moves settings.virtual autogenId
      keyboardType toFlags held
    have flags : Pairs.flags (Pairs.normal ++ settings.extra) = output.flagStatus.flags :=
      follows.flags.symm
    rw [flags, ← last] at moves
    have before : ∀ flag ∈ Pairs.normal.flags,
        output.replay.modifiers flag = (Flags.ofModifierFlags held).isOn flag := by
      rw [← last]
      exact follows.modifiers
    obtain ⟨modifiers, delivered, agree⟩ := moves.deliver before
    obtain ⟨after, ends, -⟩ := moves.reached
    have pushed : fired.2 = (FireModifiers.moveFlags settings.pairs autogenId keyboardType
        output.flagStatus.flags toFlags output.fireModifiers.lastFlags_).2 := congrArg _ result
    have lastFlags_ : fired.1.lastFlags_ = (FireModifiers.moveFlags settings.pairs autogenId
        keyboardType output.flagStatus.flags toFlags output.fireModifiers.lastFlags_).1 :=
      congrArg (·.1.lastFlags_) result
    have whole := pushes.replay.trans (Eq.trans (by rw [pushed]; rfl) delivered)
    rw [whole]
    refine ⟨⟨pushes.flags.trans follows.flags, ?_, fun flag normal => ?_, ?_⟩, rfl⟩
    · rw [pushes.fireModifiers]
      exact ⟨after, lastFlags_.trans ends⟩
    · rw [whole, pushes.fireModifiers]
      exact (agree flag normal).trans (congrArg (·.isOn flag) lastFlags_.symm)
    · rw [whole, pushes.lastButtons_]
      exact follows.buttons

theorem fireCurrentModifiers_leavesKeys (output : Output) :
    LeavesKeys settings output
      (fireCurrentModifiers settings autogenId physicalEventType output) :=
  fireModifiers_leavesKeys autogenId physicalEventType _ _ output

theorem setIgnorePhysicalUpEvent_leavesKeys (newval : Bool) (output : Output) :
    LeavesKeys settings output (output.setIgnorePhysicalUpEvent newval) :=
  SameSent.leavesKeys ⟨rfl, rfl, rfl, rfl⟩ rfl rfl

theorem fireConsumer_leavesKeys (params : KeyboardSpecialEventCallback) (output : Output) :
    LeavesKeys settings output
      (fireConsumer settings autogenId physicalEventType params output) := by
  unfold fireConsumer
  split
  · exact .refl output
  · extract_lets cleared modified
    have first : LeavesKeys settings output cleared := by
      show LeavesKeys settings output (if params.ex_iskeydown then _ else output)
      split
      · exact setIgnorePhysicalUpEvent_leavesKeys false output
      · exact .refl output
    have second : LeavesKeys settings cleared modified :=
      fireCurrentModifiers_leavesKeys autogenId physicalEventType cleared
    exact (first.trans second).trans (push_leavesKeys (fun _ => rfl) modified)

/-- An event of the mouse with the buttons that lastButtons_ is set to. -/
theorem pushButtons_leavesKeys (params : RelativePointerEventCallback) (output : Output) :
    LeavesKeys settings output
      (push (.relativePointer params) autogenId
        { output with lastButtons_ := params.buttons }) := by
  have pushes := push_pushes (.relativePointer params) autogenId
    { output with lastButtons_ := params.buttons }
  have replayed : _ = { output.replay with buttons := params.buttons } := pushes.replay
  refine ⟨pushes.buttonStatus, pushes.pressDownKeys, fun follows =>
    ⟨⟨pushes.flags.trans follows.flags, ?_, ?_, ?_⟩, ?_⟩⟩
  · rw [pushes.fireModifiers]
    exact follows.union
  · rw [pushes.fireModifiers, replayed]
    exact follows.modifiers
  · rw [pushes.lastButtons_, replayed]
  · rw [replayed]

theorem fireRelativePointer_leavesKeys (toButtons : Buttons) (dx dy : Int) (output : Output) :
    LeavesKeys settings output
      (fireRelativePointer settings autogenId physicalEventType toButtons dx dy output) := by
  unfold fireRelativePointer
  extract_lets isButtonReleased cleared modified clicked moved
  have first : LeavesKeys settings output cleared :=
    setIgnorePhysicalUpEvent_leavesKeys false output
  have second : LeavesKeys settings cleared modified := by
    show LeavesKeys settings cleared (if isButtonReleased then cleared else _)
    split
    · exact .refl cleared
    · exact fireCurrentModifiers_leavesKeys autogenId physicalEventType cleared
  have third : LeavesKeys settings modified clicked ∧ clicked.lastButtons_ = toButtons := by
    show LeavesKeys settings modified (if modified.lastButtons_ ≠ toButtons then _
        else modified) ∧
      (if modified.lastButtons_ ≠ toButtons then _ else modified).lastButtons_ = toButtons
    split
    · exact ⟨pushButtons_leavesKeys autogenId ⟨toButtons, 0, 0, .NONE, false⟩ modified,
        (push_pushes _ _ _).lastButtons_⟩
    · next same => exact ⟨.refl modified, not_not.mp same⟩
  have fourth : LeavesKeys settings clicked moved := by
    show LeavesKeys settings clicked (if dx ≠ 0 ∨ dy ≠ 0 then _ else clicked)
    split
    · have already : { clicked with lastButtons_ := toButtons } = clicked := by
        rw [← third.2]
      have pushed :=
        @pushButtons_leavesKeys settings autogenId ⟨toButtons, dx, dy, .NONE, false⟩
        clicked
      rw [already] at pushed
      exact pushed
    · exact .refl clicked
  have before := ((first.trans second).trans third.1).trans fourth
  split
  · exact before.trans (fireCurrentModifiers_leavesKeys autogenId physicalEventType moved)
  · exact before

theorem fireScrollWheel_leavesKeys (params : ScrollWheelEventCallback) (output : Output) :
    LeavesKeys settings output
      (FireScrollWheel.fire settings autogenId physicalEventType params output) := by
  unfold FireScrollWheel.fire
  have cleared := @setIgnorePhysicalUpEvent_leavesKeys settings false output
  have modified := @fireCurrentModifiers_leavesKeys settings autogenId physicalEventType
    (output.setIgnorePhysicalUpEvent false)
  exact (cleared.trans modified).trans (push_leavesKeys (fun _ => rfl) _)

end

theorem fireWait_leavesKeys (milliseconds : UInt32) (autogenId : AutogenId) (output : Output) :
    LeavesKeys settings output (fireWait milliseconds autogenId output) := by
  have replayed : (fireWait milliseconds autogenId output).replay = output.replay := by
    unfold Output.replay fireWait
    rw [Transition.run_append]
    rfl
  refine ⟨rfl, rfl, fun follows => ⟨⟨follows.flags, follows.union, ?_, ?_⟩, ?_⟩⟩
  · rw [replayed]
    exact follows.modifiers
  · rw [replayed]
    exact follows.buttons
  · rw [replayed]

end EventOutputQueue

end Karabiner
