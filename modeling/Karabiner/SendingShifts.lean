import Karabiner.KeyToKey
import Karabiner.SentCounters
import Mathlib.Algebra.Group.Prod
import Mathlib.Tactic.Abel

set_option autoImplicit false

/- What an event that is sent does to count_ of the modifiers and of the buttons. What its key-down
adds is taken back by its key-up. -/
namespace Karabiner

open FlagStatus (Method Selection)

/-- What a key-down adds, its key-up takes away. -/
def Net.signed (iskeydown : Bool) (net : Net) : Net := if iskeydown then net else -net

@[simp] theorem Net.signed_zero (iskeydown : Bool) : Net.signed iskeydown 0 = 0 := by
  cases iskeydown <;> simp [signed]

theorem Net.signed_add (iskeydown : Bool) (first second : Net) :
    Net.signed iskeydown (first + second) =
      Net.signed iskeydown first + Net.signed iskeydown second := by
  cases iskeydown
  · exact neg_add first second
  · rfl

def Net.ofSelection (selection : Selection) : Net := (selection.net 1, 0)

def Net.ofButtons (buttons : Buttons) : Net := (0, ButtonStatus.net buttons)

namespace Sending

/-- count_ of every modifier and of every button changes by the net. -/
def Shifts (net : Net) (before after : Sending) : Prop :=
  Output.Shifts net before.output after.output

variable {settings : Settings} {first second : Net} {before middle after : Sending}

theorem Shifts.refl (sending : Sending) : Shifts 0 sending sending :=
  Output.Shifts.refl _

theorem Shifts.trans (left : Shifts first before middle) (right : Shifts second middle after) :
    Shifts (first + second) before after :=
  Output.Shifts.trans left right

/-- What follows changes no count. -/
theorem Shifts.thenSame (left : Shifts first before middle) (right : Shifts 0 middle after) :
    Shifts first before after := by
  have whole := left.trans right
  rwa [add_zero] at whole

theorem Shifts.thenRepeat {change : KeyboardRepeat → KeyboardRepeat} {wanted : Bool}
    (shifts : Shifts first before after) :
    Shifts first before (if wanted then after.onRepeat change else after) := by
  cases wanted
  · exact shifts
  · exact shifts

theorem shifts_onRepeat (change : KeyboardRepeat → KeyboardRepeat) (sending : Sending) :
    Shifts 0 sending (sending.onRepeat change) :=
  Shifts.refl sending

theorem shifts_call (method : Method) (selection : Selection) (sending : Sending) :
    Shifts (selection.net method.step, 0) sending (sending.callFlagStatus method selection) where
  flags := FlagStatus.call_counts method selection sending.flagStatus
  buttons := (Counters.offset_zero _).symm

/-- The methods that leave count_ alone. -/
theorem shifts_same {method : Method} (still : method.step = 0) (selection : Selection)
    (sending : Sending) : Shifts 0 sending (sending.callFlagStatus method selection) := by
  have shifts := shifts_call method selection sending
  rw [still, Selection.net_zero] at shifts
  exact shifts

theorem shifts_increase (selection : Selection) (sending : Sending) :
    Shifts (.ofSelection selection) sending (sending.callFlagStatus .increase selection) :=
  shifts_call .increase selection sending

theorem shifts_decrease (selection : Selection) (sending : Sending) :
    Shifts (-Net.ofSelection selection) sending (sending.callFlagStatus .decrease selection) := by
  have shifts := shifts_call .decrease selection sending
  have same : ((selection.net Method.decrease.step, 0) : Net) = -Net.ofSelection selection := by
    rw [Method.step, Selection.net_neg]
    simp [Net.ofSelection]
  rwa [same] at shifts

theorem shifts_buttons (iskeydown : Bool) (buttons : Buttons) (sending : Sending) :
    Shifts (Net.signed iskeydown (.ofButtons buttons)) sending
      (sending.onButtonStatus
        ((if iskeydown then ButtonStatus.increase else ButtonStatus.decrease) buttons)) := by
  cases iskeydown with
  | true =>
      exact ⟨(Counters.offset_zero _).symm, ButtonStatus.increase_counts buttons _⟩
  | false =>
      have none : (-(0 : ModifierFlag → Int)) = 0 := neg_zero
      refine ⟨?_, ButtonStatus.decrease_counts buttons _⟩
      show _ = Counters.offset (-(0 : ModifierFlag → Int)) _
      rw [none]
      exact (Counters.offset_zero _).symm

/-- The operations of FlagStatus that do not count, and the buttons that stay. -/
theorem shifts_zero {change : Output → Output} {sending : Sending}
    (flags : (change sending.output).flagStatus.counts = sending.output.flagStatus.counts)
    (buttons : (change sending.output).buttonStatus.counts = sending.output.buttonStatus.counts) :
    Shifts 0 sending (sending.onOutput change) where
  flags := flags.trans (Counters.offset_zero _).symm
  buttons := buttons.trans (Counters.offset_zero _).symm

theorem shifts_set (sending : Sending) :
    Shifts 0 sending (sending.onFlagStatus FlagStatus.set) :=
  shifts_zero (FlagStatus.set_counts sending.flagStatus) rfl

theorem shifts_foldl {body : Sending → ToEvent → Sending} {events : List ToEvent}
    (each : ∀ event ∈ events, ∀ sending, Shifts 0 sending (body sending event))
    (sending : Sending) : Shifts 0 sending (events.foldl body sending) := by
  induction events generalizing sending with
  | nil => exact Shifts.refl sending
  | cons event events ih =>
      have here := each event List.mem_cons_self sending
      have rest := ih (fun other member => each other (List.mem_cons_of_mem _ member))
        (body sending event)
      exact here.thenSame rest

end Sending

namespace ToEvent

open Sending

variable {settings : Settings} (autogenId : AutogenId) (physicalEventType : PhysicalEventType)

/-- What a key that is no key of a button adds is nothing. -/
def keyNet (key : KeyCode) : Net :=
  let button := VirtualKey.VK_MOUSEKEY.getPointingButton key
  if button = PointingButton.NONE then 0 else .ofButtons (.ofButton button)

/-- What the event adds when it goes down. -/
def net (event : ToEvent) : Net :=
  match event.type_ with
  | .KEY key => keyNet key
  | .POINTING_BUTTON button => .ofButtons (.ofButton button)
  | _ => 0

theorem fireRelativePointer_shifts (toButtons : Buttons) (dx dy : Int) (sending : Sending) :
    Shifts 0 sending (sending.onOutput (EventOutputQueue.fireRelativePointer settings autogenId
      physicalEventType toButtons dx dy)) :=
  shifts_zero
    (FlagStatus.counts_of_via (EventOutputQueue.fireRelativePointer_changes _ _ _ _ _ _)
      fun _ sends => Settings.Sends.quiet sends)
    (congrArg ButtonStatus.counts
      (@EventOutputQueue.fireRelativePointer_leavesKeys settings _ _ _ _ _ _).buttonStatus)

theorem fireCurrentModifiers_shifts (sending : Sending) :
    Shifts 0 sending (sending.onOutput
      (EventOutputQueue.fireCurrentModifiers settings autogenId physicalEventType)) :=
  shifts_zero
    (FlagStatus.counts_of_via (EventOutputQueue.fireCurrentModifiers_changes _ _ _)
      fun _ sends => Settings.Sends.quiet sends)
    (congrArg ButtonStatus.counts
      (@EventOutputQueue.fireCurrentModifiers_leavesKeys settings _ _ _).buttonStatus)

theorem fireConsumer_shifts (params : KeyboardSpecialEventCallback) (sending : Sending) :
    Shifts 0 sending (sending.onOutput
      (EventOutputQueue.fireConsumer settings autogenId physicalEventType params)) :=
  shifts_zero
    (FlagStatus.counts_of_via (EventOutputQueue.fireConsumer_changes _ _ params _)
      fun _ sends => Settings.Sends.quiet sends)
    (congrArg ButtonStatus.counts
      (@EventOutputQueue.fireConsumer_leavesKeys settings _ _ params _).buttonStatus)

theorem fireButton_shifts (isDown : Bool) (button : PointingButton) (sending : Sending) :
    Shifts (Net.signed isDown (.ofButtons (.ofButton button))) sending
      (sending.onOutput (fireButton settings autogenId physicalEventType isDown button)) := by
  let counted := sending.onButtonStatus
    ((if isDown then ButtonStatus.increase else ButtonStatus.decrease) (.ofButton button))
  have first : Shifts (Net.signed isDown (.ofButtons (.ofButton button))) sending counted :=
    shifts_buttons isDown (.ofButton button) sending
  have second : Shifts 0 counted (counted.onOutput (EventOutputQueue.fireRelativePointer settings
      autogenId physicalEventType counted.output.makeButtons 0 0)) :=
    fireRelativePointer_shifts autogenId physicalEventType _ 0 0 counted
  have result : sending.onOutput (fireButton settings autogenId physicalEventType isDown button) =
      counted.onOutput (EventOutputQueue.fireRelativePointer settings autogenId physicalEventType
        counted.output.makeButtons 0 0) := by
    unfold fireButton onOutput
    rfl
  rw [result]
  exact first.thenSame second

theorem fireKey_shifts (apart : settings.ButtonKeysApart) (params : KeyboardEventCallBack)
    (single : params.isRepeat = false) {iskeydown : Bool}
    (typed : VirtualKey.VK_MOUSEKEY.getPointingButton params.key ≠ PointingButton.NONE →
      params.ex_iskeydown = iskeydown) (sending : Sending) :
    Shifts (Net.signed iskeydown (keyNet params.key)) sending (sending.onOutput
      (EventOutputQueue.fireKey settings ⟨params, autogenId, physicalEventType⟩)) := by
  let call : FireKeyCall := ⟨params, autogenId, physicalEventType⟩
  have flags := @EventOutputQueue.fireKey_counts settings call sending.output
  by_cases other : VirtualKey.VK_MOUSEKEY.getPointingButton params.key = PointingButton.NONE
  · have none : keyNet params.key = 0 := if_pos other
    rw [none, Net.signed_zero]
    exact shifts_zero flags (EventOutputQueue.fireKey_keepsButtons other sending.output)
  · have counted : keyNet params.key = Net.ofButtons
        (.ofButton (VirtualKey.VK_MOUSEKEY.getPointingButton params.key)) := if_neg other
    have buttons := @EventOutputQueue.fireKey_button settings apart call other single sending.output
    have pressed := shifts_buttons iskeydown
      (.ofButton (VirtualKey.VK_MOUSEKEY.getPointingButton params.key)) sending
    rw [counted]
    refine ⟨flags.trans pressed.flags, ?_⟩
    have same := congrArg ButtonStatus.counts buttons
    rw [typed other] at same
    exact same.trans pressed.buttons

theorem button_eq_none (apart : settings.ButtonKeysApart) {key : KeyCode}
    (modifier : settings.pairs.getModifierFlag key .KEYCODE ≠ ModifierFlag.ZERO) :
    VirtualKey.VK_MOUSEKEY.getPointingButton key = PointingButton.NONE := by
  by_contra button
  exact modifier (apart.getModifierFlag_eq (VirtualKey.VK_MOUSEKEY.mem_buttonKeys button) .KEYCODE)

theorem isKeyDownOrModifierDown_eq (pairs : Pairs) (iskeydown : Bool) (key : KeyCode)
    (flags : Flags) :
    (if iskeydown then EventType.DOWN else EventType.UP).isKeyDownOrModifierDown pairs key flags =
      iskeydown := by
  cases iskeydown <;> rfl

/-- An event that goes down or up, or the change of a modifier. -/
theorem fire_shifts (apart : settings.ButtonKeysApart) (event : ToEvent) {eventType : EventType}
    {iskeydown : Bool}
    (typed : eventType = (if iskeydown then .DOWN else .UP) ∨
      event.getModifierFlag settings ≠ ModifierFlag.ZERO)
    (flags : Flags) (add_to_keyrepeat : Bool) (delayUntilRepeat keyRepeat : Int)
    (sending : Sending) :
    Shifts (Net.signed iskeydown event.net) sending (event.fire settings autogenId
      physicalEventType eventType flags add_to_keyrepeat delayUntilRepeat keyRepeat sending) := by
  obtain ⟨type, modifierFlags⟩ := event
  cases type with
  | NONE =>
      show Shifts (Net.signed iskeydown 0) sending sending
      rw [Net.signed_zero]
      exact Shifts.refl sending
  | KEY key =>
      refine Shifts.thenRepeat (fireKey_shifts autogenId physicalEventType apart
        (keyboardParams settings eventType flags key sending) rfl (fun button => ?_) sending)
      have known : eventType = (if iskeydown then .DOWN else .UP) :=
        typed.resolve_right fun modifier => button (button_eq_none apart modifier)
      show eventType.isKeyDownOrModifierDown settings.pairs key flags = iskeydown
      rw [known]
      exact isKeyDownOrModifierDown_eq settings.pairs iskeydown key flags
  | CONSUMER_KEY key =>
      show Shifts (Net.signed iskeydown 0) sending _
      rw [Net.signed_zero]
      exact (fireConsumer_shifts autogenId physicalEventType _ sending).thenRepeat
  | POINTING_BUTTON button =>
      have known : eventType = (if iskeydown then .DOWN else .UP) :=
        typed.resolve_right fun modifier => modifier rfl
      have down : decide (eventType = EventType.DOWN) = iskeydown := by
        rw [known]
        cases iskeydown <;> rfl
      show Shifts _ sending (sending.onOutput (fireButton settings autogenId physicalEventType
        (eventType = EventType.DOWN) button))
      rw [down]
      exact fireButton_shifts autogenId physicalEventType iskeydown button sending

/-- Down and up at once leave nothing behind. -/
theorem fire_downup_shifts (apart : settings.ButtonKeysApart) (event : ToEvent)
    (add_to_keyrepeat : Bool) (sending : Sending) :
    Shifts 0 sending
      (event.fire_downup settings autogenId physicalEventType add_to_keyrepeat sending) := by
  have undone (net : Net) : Net.signed true net + Net.signed false net = 0 := add_neg_cancel net
  unfold fire_downup
  split
  · exact Shifts.refl sending
  · next key type =>
    have call (eventType : EventType) (iskeydown : Bool)
        (typed : VirtualKey.VK_MOUSEKEY.getPointingButton key ≠ PointingButton.NONE →
          eventType = if iskeydown then .DOWN else .UP)
        (flags : Flags) (sending : Sending) :
        Shifts (Net.signed iskeydown (keyNet key)) sending (callFireKey settings autogenId
          physicalEventType add_to_keyrepeat eventType flags key sending) := by
      refine Shifts.thenRepeat (fireKey_shifts autogenId physicalEventType apart
        (keyboardParams settings eventType flags key sending) rfl (fun button => ?_) sending)
      show eventType.isKeyDownOrModifierDown settings.pairs key flags = iskeydown
      rw [typed button]
      exact isKeyDownOrModifierDown_eq settings.pairs iskeydown key flags
    dsimp only
    split
    · next modifier =>
      have other := button_eq_none apart modifier
      have none : keyNet key = 0 := if_pos other
      have sent (flags : Flags) (sending : Sending) :
          Shifts 0 sending (callFireKey settings autogenId physicalEventType add_to_keyrepeat
            .MODIFY flags key sending) := by
        have shifts := call .MODIFY true (fun button => absurd other button) flags
          sending
        rwa [none, Net.signed_zero] at shifts
      have up := shifts_increase (.flag (settings.pairs.getModifierFlag key .KEYCODE)) sending
      rw [← add_neg_cancel (Net.ofSelection
        (.flag (settings.pairs.getModifierFlag key .KEYCODE)))]
      exact ((up.thenSame (sent _ _)).trans (shifts_decrease _ _)).thenSame (sent _ _)
    · rw [← undone (keyNet key)]
      exact (call .DOWN true (fun _ => rfl) _ sending).trans (call .UP false (fun _ => rfl) _ _)
  · have call (eventType : EventType) (flags : Flags) (key : ConsumerKeyCode) (sending : Sending) :
        Shifts 0 sending (callFireConsumer settings autogenId physicalEventType
          add_to_keyrepeat eventType flags key sending) :=
      (fireConsumer_shifts autogenId physicalEventType _ sending).thenRepeat
    exact (call _ _ _ sending).thenSame (call _ _ _ _)
  · next button type =>
    have call (isDown : Bool) (sending : Sending) :
        Shifts (Net.signed isDown (.ofButtons (.ofButton button))) sending (callFireButton settings
          autogenId physicalEventType add_to_keyrepeat isDown button sending) :=
      (fireButton_shifts autogenId physicalEventType isDown button sending).thenRepeat
    rw [← undone (.ofButtons (.ofButton button))]
    exact (call true sending).trans (call false _)

end ToEvent

end Karabiner
