import Karabiner.KeyToKeyBalance

set_option autoImplicit false

/- What KeyboardRepeat sends when its timer expires. The queue holds one key that is down, or keys
that go down and up. -/
namespace Karabiner

namespace KeyboardRepeat

section

variable (settings : Settings)

/-- One round of the loop of fire_timer_callback. -/
def fireItem (autogenId : AutogenId) (isRepeat : Bool) (sending : Sending) : Params → Sending
  | .keyboard params =>
      let params : KeyboardEventCallBack := { params with
        isRepeat
        ex_iskeydown :=
          params.eventType.isKeyDownOrModifierDown settings.pairs params.key params.flags }
      sending.onOutput (EventOutputQueue.fireKey settings ⟨params, autogenId, .DOWN⟩)
  | .keyboardSpecial params =>
      let params : KeyboardSpecialEventCallback := { params with
        isRepeat, ex_iskeydown := params.eventType = EventType.DOWN }
      sending.onOutput (EventOutputQueue.fireConsumer settings autogenId .DOWN params)
  | .relativePointer params =>
      sending.onOutput (EventOutputQueue.fireRelativePointer settings autogenId .DOWN
        params.buttons params.dx params.dy)
  | .scrollWheel _ => sending

def fire_timer_callback (sending : Sending) : Sending :=
  let keyboardRepeat := sending.keyboardRepeat
  let isRepeat := keyboardRepeat.queue_.length = 1
  let sending := keyboardRepeat.queue_.foldl
    (fireItem settings keyboardRepeat.autogenId_ isRepeat) sending
  sending.onRepeat fun keyboardRepeat => { keyboardRepeat with
    fire_timer_ := keyboardRepeat.fire_timer_.setTimeoutMS
      (UInt32.ofInt keyboardRepeat.keyRepeat_) true }

end

/-- A key that goes down, and the same key that goes up. A button is down in addition to those
that the counters hold. -/
inductive Tap (pairs : Pairs) : Params → Params → Prop where
  | key (key : KeyCode) (flags upFlags : Flags) (keyboardType upKeyboardType : KeyboardType) :
      Tap pairs (.keyboardEvent pairs .DOWN flags key keyboardType true)
        (.keyboardEvent pairs .UP upFlags key upKeyboardType true)
  | modifier (key : KeyCode) (flags upFlags : Flags) (keyboardType upKeyboardType : KeyboardType)
      (modifies : pairs.getModifierFlag key .KEYCODE ≠ ModifierFlag.ZERO) :
      Tap pairs (.keyboardEvent pairs .MODIFY flags key keyboardType true)
        (.keyboardEvent pairs .MODIFY upFlags key upKeyboardType true)
  | consumer (key : ConsumerKeyCode) (flags upFlags : Flags) :
      Tap pairs (.keyboardSpecialEvent .DOWN flags key true)
        (.keyboardSpecialEvent .UP upFlags key true)
  | button (status : ButtonStatus) (button : PointingButton) :
      Tap pairs
        (.relativePointer
          ⟨(status.increase (.ofButton button)).makeButtons, 0, 0, .NONE, false⟩)
        (.relativePointer ⟨status.makeButtons, 0, 0, .NONE, false⟩)

inductive Taps (pairs : Pairs) : List Params → Prop where
  | nil : Taps pairs []
  | cons {down up : Params} {queue : List Params} (tap : Tap pairs down up)
      (rest : Taps pairs queue) : Taps pairs (down :: up :: queue)

/-- A key that goes down. -/
inductive Down (pairs : Pairs) : Params → Prop where
  | key (key : KeyCode) (flags : Flags) (keyboardType : KeyboardType) :
      Down pairs (.keyboardEvent pairs .DOWN flags key keyboardType true)
  | consumer (key : ConsumerKeyCode) (flags : Flags) :
      Down pairs (.keyboardSpecialEvent .DOWN flags key true)

/-- What the queue holds between two events. -/
def Repeating (pairs : Pairs) (keyboardRepeat : KeyboardRepeat) : Prop :=
  (∃ params, Down pairs params ∧ keyboardRepeat.queue_ = [params]) ∨
  Taps pairs keyboardRepeat.queue_

variable {pairs : Pairs} {keyboardRepeat : KeyboardRepeat}

theorem Taps.append {first second : List Params} (left : Taps pairs first)
    (right : Taps pairs second) : Taps pairs (first ++ second) := by
  induction left with
  | nil => exact right
  | cons tap _ ih => exact .cons tap ih

theorem cancel_repeating : Repeating pairs keyboardRepeat.cancel := .inr .nil

theorem set_repeating (params : KeyboardEventCallBack) (autogenId : AutogenId)
    (delayUntilRepeat keyRepeat : Int) (repeating : Repeating pairs keyboardRepeat) :
    Repeating pairs
      (keyboardRepeat.set pairs params autogenId delayUntilRepeat keyRepeat) := by
  unfold set
  split
  · exact repeating
  · next sent =>
    split
    · exact cancel_repeating
    · split
      · split
        · split
          · exact cancel_repeating
          · exact repeating
        · exact repeating
      · split
        · next down =>
          refine .inl
            ⟨.keyboardEvent pairs .DOWN params.flags params.key params.keyboardType true,
            .key _ _ _, ?_⟩
          show (primitive_add pairs params keyboardRepeat.cancel).queue_ = _
          unfold primitive_add
          rw [if_neg sent, down]
          rfl
        · exact cancel_repeating

theorem setConsumer_repeating (params : KeyboardSpecialEventCallback) (autogenId : AutogenId)
    (delayUntilRepeat keyRepeat : Int) (repeating : Repeating pairs keyboardRepeat) :
    Repeating pairs
      (keyboardRepeat.setConsumer params autogenId delayUntilRepeat keyRepeat) := by
  unfold setConsumer
  split
  · exact repeating
  · next sent =>
    split
    · next down =>
      refine .inl ⟨.keyboardSpecialEvent .DOWN params.flags params.key true, .consumer _ _, ?_⟩
      show (primitive_addConsumer params keyboardRepeat.cancel).queue_ = _
      unfold primitive_addConsumer
      rw [if_neg sent, down.1]
      rfl
    · exact cancel_repeating

end KeyboardRepeat

open KeyboardRepeat (Repeating Taps Tap cancel_repeating)

/-- Between two events, the queue of KeyboardRepeat is as it should be. -/
def Sending.Repeating (settings : Settings) (sending : Sending) : Prop :=
  KeyboardRepeat.Repeating settings.pairs sending.keyboardRepeat

theorem ButtonStatus.decrease_increase (buttons : Buttons) (status : ButtonStatus) :
    (status.increase buttons).decrease buttons = status := by
  have undone (it : Item) : (if buttons.isOn (.ofButton
      (if buttons.isOn (.ofButton it.button) then it.increase else it).button) then
        (if buttons.isOn (.ofButton it.button) then it.increase else it).decrease
      else if buttons.isOn (.ofButton it.button) then it.increase else it) = it := by
    by_cases on : buttons.isOn (.ofButton it.button) = true
    · simp [on, Item.increase, Item.decrease]
    · simp [on]
  unfold increase decrease foreachToButtons onItems
  rw [List.map_map]
  congr 1
  exact (List.map_congr_left fun it _ => undone it).trans (List.map_id _)

namespace ToEvent

variable {settings : Settings} (autogenId : AutogenId) (physicalEventType : PhysicalEventType)

/-- Only the counter changes. -/
theorem fireButton_buttonStatus (isDown : Bool) (button : PointingButton) (output : Output) :
    (fireButton settings autogenId physicalEventType isDown button output).buttonStatus =
      if isDown then output.buttonStatus.increase (.ofButton button)
      else output.buttonStatus.decrease (.ofButton button) := by
  unfold fireButton
  refine (@EventOutputQueue.fireRelativePointer_leavesKeys settings autogenId physicalEventType
    _ 0 0 _).buttonStatus.trans ?_
  cases isDown
  · rfl
  · rfl

theorem fire_repeating (event : ToEvent) (eventType : EventType) (flags : Flags)
    (add_to_keyrepeat : Bool) (delayUntilRepeat keyRepeat : Int) {sending : Sending}
    (repeating : sending.Repeating settings) :
    (event.fire settings autogenId physicalEventType eventType flags add_to_keyrepeat
      delayUntilRepeat keyRepeat sending).Repeating settings := by
  unfold fire
  split
  · exact repeating
  · dsimp only
    split
    · exact KeyboardRepeat.set_repeating _ _ _ _ repeating
    · exact repeating
  · dsimp only
    split
    · exact KeyboardRepeat.setConsumer_repeating _ _ _ _ repeating
    · exact repeating
  · exact repeating

theorem fire_keyboardRepeat (event : ToEvent) (eventType : EventType) (flags : Flags)
    (delayUntilRepeat keyRepeat : Int) (sending : Sending) :
    (event.fire settings autogenId physicalEventType eventType flags false delayUntilRepeat
      keyRepeat sending).keyboardRepeat = sending.keyboardRepeat := by
  unfold fire
  split <;> rfl

theorem fire_downup_keyboardRepeat (event : ToEvent) (sending : Sending) :
    (event.fire_downup settings autogenId physicalEventType false sending).keyboardRepeat =
      sending.keyboardRepeat := by
  unfold fire_downup
  split
  · rfl
  · dsimp only
    split <;> rfl
  · rfl
  · rfl

/-- Down and up are added together. -/
theorem fire_downup_taps (event : ToEvent) {sending : Sending}
    (taps : Taps settings.pairs sending.keyboardRepeat.queue_) :
    Taps settings.pairs
      (event.fire_downup settings autogenId physicalEventType true
        sending).keyboardRepeat.queue_ := by
  have added {down up : Params} (tap : Tap settings.pairs down up) :
      Taps settings.pairs (sending.keyboardRepeat.queue_ ++ [down, up]) :=
    taps.append (.cons tap .nil)
  unfold fire_downup
  split
  · exact taps
  · next key _ =>
    by_cases none : key = KeyCode.VK_NONE
    · dsimp only
      split
      · simpa [callFireKey, KeyboardRepeat.primitive_add, keyboardParams, none, Sending.onRepeat,
          Sending.onOutput] using taps
      · simpa [callFireKey, KeyboardRepeat.primitive_add, keyboardParams, none, Sending.onRepeat,
          Sending.onOutput] using taps
    · dsimp only
      split
      · next modifies =>
        have whole := fun flags upFlags keyboardType upKeyboardType =>
          added (.modifier key flags upFlags keyboardType upKeyboardType modifies)
        simp only [callFireKey, KeyboardRepeat.primitive_add, keyboardParams, none, if_false,
          if_true, KeyboardRepeat.pushBack, Sending.onRepeat, Sending.onOutput, List.append_assoc,
          List.cons_append, List.nil_append]
        exact whole _ _ _ _
      · have whole := fun flags upFlags keyboardType upKeyboardType =>
          added (.key key flags upFlags keyboardType upKeyboardType)
        simp only [callFireKey, KeyboardRepeat.primitive_add, keyboardParams, none, if_false,
          if_true, KeyboardRepeat.pushBack, Sending.onRepeat, Sending.onOutput, List.append_assoc,
          List.cons_append, List.nil_append]
        exact whole _ _ _ _
  · next key _ =>
    by_cases none : key = ConsumerKeyCode.VK_NONE
    · simpa [callFireConsumer, KeyboardRepeat.primitive_addConsumer, consumerParams, none,
        Sending.onRepeat, Sending.onOutput] using taps
    · have whole := fun flags upFlags => added (.consumer key flags upFlags)
      simp only [callFireConsumer, KeyboardRepeat.primitive_addConsumer, consumerParams, none,
        if_false, if_true, KeyboardRepeat.pushBack, Sending.onRepeat, Sending.onOutput,
        List.append_assoc, List.cons_append, List.nil_append]
      exact whole _ _
  · next button _ =>
    have whole := added (.button sending.output.buttonStatus button)
    simp only [callFireButton, KeyboardRepeat.primitive_addButtons, if_true,
      KeyboardRepeat.pushBack, Sending.onRepeat, Sending.onOutput, List.append_assoc,
      List.cons_append, List.nil_append, Output.makeButtons, fireButton_buttonStatus,
      Bool.false_eq_true, if_false, ButtonStatus.decrease_increase]
    exact whole

end ToEvent

namespace KeyToKey

variable {settings : Settings} {keyToKey : KeyToKey}

theorem fireWithFlags_keyboardRepeat (physicalEventType : PhysicalEventType) (sending : Sending)
    (event : ToEvent) :
    (fireWithFlags settings keyToKey physicalEventType false sending event).keyboardRepeat =
      sending.keyboardRepeat :=
  ToEvent.fire_downup_keyboardRepeat keyToKey.autogenId_ physicalEventType event
    (sending.callFlagStatus .temporaryIncrease (.list event.modifierFlags_))

theorem foldl_fireWithFlags_keyboardRepeat (physicalEventType : PhysicalEventType)
    (events : List ToEvent) (sending : Sending) :
    (events.foldl (fireWithFlags settings keyToKey physicalEventType false)
      sending).keyboardRepeat = sending.keyboardRepeat := by
  induction events generalizing sending with
  | nil => rfl
  | cons event events ih =>
      exact (ih _).trans (fireWithFlags_keyboardRepeat physicalEventType sending event)

theorem foldl_fireWithFlags_taps (physicalEventType : PhysicalEventType) (events : List ToEvent)
    {sending : Sending} (taps : Taps settings.pairs sending.keyboardRepeat.queue_) :
    Taps settings.pairs (events.foldl (fireWithFlags settings keyToKey physicalEventType true)
      sending).keyboardRepeat.queue_ := by
  induction events generalizing sending with
  | nil => exact taps
  | cons event events ih =>
      exact ih (ToEvent.fire_downup_taps keyToKey.autogenId_ physicalEventType event taps)

theorem handleModifiers_keyboardRepeat (iskeydown : Bool) (sending : Sending) :
    (handleModifiers settings keyToKey iskeydown sending).keyboardRepeat =
      sending.keyboardRepeat := by
  unfold handleModifiers
  generalize keyToKey.increaseModifierFlags_.getLast?.map (·.modifierFlags_) = increased
  cases iskeydown <;> cases increased <;> rfl

theorem fireToKey_repeating (iskeydown : Bool) (physicalEventType : PhysicalEventType)
    (toKey : ToEvent) {sending : Sending} (repeating : sending.Repeating settings) :
    (fireToKey settings keyToKey iskeydown physicalEventType toKey sending).Repeating settings := by
  unfold fireToKey
  extract_lets add_to_keyrepeat newEventType readied fired
  have ready : readied.keyboardRepeat = sending.keyboardRepeat := by
    unfold readied
    split
    · rfl
    · split <;> rfl
  have sent : fired.Repeating settings := by
    apply ToEvent.fire_repeating
    unfold Sending.Repeating
    rw [ready]
    exact repeating
  split
  · exact cancel_repeating
  · exact sent

theorem fireLastModifier_keyboardRepeat (iskeydown : Bool) (physicalEventType : PhysicalEventType)
    (lastToEvent : ToEvent) (sending : Sending) :
    (fireLastModifier settings keyToKey iskeydown physicalEventType lastToEvent
      sending).keyboardRepeat = sending.keyboardRepeat := by
  unfold fireLastModifier
  split
  · exact ToEvent.fire_keyboardRepeat _ _ _ _ _ _ _ sending
  · rfl

theorem fireToKeys_repeating (iskeydown : Bool) (physicalEventType : PhysicalEventType)
    (toKeys : List ToEvent) (lastToEvent : ToEvent) {kext : Kext}
    (repeating : kext.toSending.Repeating settings) :
    (fireToKeys settings keyToKey iskeydown physicalEventType toKeys lastToEvent
      kext).toSending.Repeating settings := by
  unfold fireToKeys
  extract_lets isModifier canceled lowered fired keysFired started
  cases iskeydown with
  | true =>
      have taps : Taps settings.pairs keysFired.keyboardRepeat.queue_ :=
        foldl_fireWithFlags_taps physicalEventType fired (.nil : Taps settings.pairs [])
      rw [if_pos rfl]
      split
      · exact cancel_repeating
      · split
        · exact .inr taps
        · exact .inr taps
  | false =>
      rw [if_neg Bool.false_ne_true]
      split
      · refine (congrArg (KeyboardRepeat.Repeating settings.pairs) ?_).mpr repeating
        exact fireLastModifier_keyboardRepeat false physicalEventType lastToEvent _
      · split
        · exact cancel_repeating
        · exact repeating

theorem fireAfterKeys_keyboardRepeat (physicalEventType : PhysicalEventType)
    (afterKeys : List (List ToEvent)) (sending : Sending) :
    (fireAfterKeys settings keyToKey physicalEventType afterKeys sending).keyboardRepeat =
      sending.keyboardRepeat := by
  induction afterKeys generalizing sending with
  | nil => rfl
  | cons toEvents afterKeys ih =>
      unfold fireAfterKeys
      dsimp only
      split
      · exact ih _
      · split
        · exact ih _
        · exact foldl_fireWithFlags_keyboardRepeat physicalEventType _ _

theorem remapAccepted_repeating (iskeydown : Bool) (physicalEventType : PhysicalEventType)
    {kext : Kext} (repeating : kext.toSending.Repeating settings) :
    (remapAccepted settings keyToKey iskeydown physicalEventType kext).toSending.Repeating
      settings := by
  unfold remapAccepted
  extract_lets known counted prepared fired
  have ready : prepared.keyboardRepeat = kext.keyboardRepeat := by
    have first : counted.keyboardRepeat = kext.keyboardRepeat :=
      handleModifiers_keyboardRepeat iskeydown known.toSending
    unfold prepared
    split
    · refine (foldl_fireWithFlags_keyboardRepeat physicalEventType _ _).trans ?_
      refine Eq.trans ?_ first
      unfold startDelayedAction
      split <;> rfl
    · exact first
  have before : prepared.toSending.Repeating settings :=
    (congrArg (KeyboardRepeat.Repeating settings.pairs) ready).mpr repeating
  have sent : fired.toSending.Repeating settings := by
    unfold fired
    split
    · exact before
    · exact fireToKey_repeating iskeydown physicalEventType _ before
    · exact fireToKeys_repeating iskeydown physicalEventType _ _ before
  split
  · exact sent
  · exact (congrArg (KeyboardRepeat.Repeating settings.pairs)
      (fireAfterKeys_keyboardRepeat physicalEventType _ fired.toSending)).mpr sent

theorem remap_repeating {params : Params} {physicalEventType : PhysicalEventType}
    {isremapped : Bool} {before after : Kext} (repeating : before.toSending.Repeating settings)
    (accepted : keyToKey.remap settings params physicalEventType isremapped before = some after) :
    after.toSending.Repeating settings := by
  unfold KeyToKey.remap at accepted
  split at accepted
  · cases accepted
  · split at accepted
    · cases accepted
    · next iskeydown known =>
      obtain ⟨pressed, changed, rfl⟩ := Option.map_eq_some_iff.1 accepted
      obtain ⟨rfl, -, -⟩ := changePressingState_some known changed
      exact remapAccepted_repeating iskeydown physicalEventType repeating

theorem doDelayedAction_keyboardRepeat (keys : List ToEvent) (delayedActionCanceledBy : Bool)
    (kext : Kext) :
    (doDelayedAction settings keyToKey keys delayedActionCanceledBy kext).keyboardRepeat =
      kext.keyboardRepeat := by
  have fired (physicalEventType : PhysicalEventType) (events : List ToEvent) (sending : Sending) :
      (events.foldl (fireDelayedKey settings keyToKey physicalEventType) sending).keyboardRepeat =
        sending.keyboardRepeat := by
    induction events generalizing sending with
    | nil => rfl
    | cons event events ih =>
        refine (ih _).trans ?_
        unfold fireDelayedKey
        refine (fireWithFlags_keyboardRepeat physicalEventType _ event).trans ?_
        split <;> rfl
  cases keys with
  | nil => rfl
  | cons first rest =>
      unfold doDelayedAction
      dsimp only
      cases delayedActionCanceledBy with
      | true => exact fired _ _ _
      | false => exact fired _ _ _

theorem prepare_keyboardRepeat (params : Params) (kext : Kext) :
    (prepare settings keyToKey params kext).keyboardRepeat = kext.keyboardRepeat := by
  unfold prepare
  split
  · rfl
  · extract_lets unregistered stopped cleared canceled
    split
    · rfl
    · exact doDelayedAction_keyboardRepeat _ _ cleared

theorem fire_timer_callback_keyboardRepeat (kext : Kext) :
    (fire_timer_callback settings kext).keyboardRepeat = kext.keyboardRepeat := by
  unfold fire_timer_callback
  dsimp only
  split
  · rfl
  · exact doDelayedAction_keyboardRepeat _ _ _

end KeyToKey

namespace EventOutputQueue

open VirtualKey VirtualKey.VK_MOUSEKEY

/-- A repetition of the key of a button does nothing to the button. -/
theorem fireKey_repetition {settings : Settings} (apart : settings.ButtonKeysApart)
    {call : FireKeyCall} (repetition : call.params.isRepeat = true) (output : Output) :
    Output.KeepsButtons output (fireKey settings call output) := by
  by_cases other : getPointingButton call.params.key = PointingButton.NONE
  · exact fireKey_keepsButtons other output
  · have passed := apart.firstHandled_eq (mem_buttonKeys other) output
      [VK_MOUSEKEY.handle settings, VK_PARTIAL.handle settings (fireKeyAt settings 2),
        VK_STICKY.handle settings, VK_WAIT.handle,
        VK_JIS_BACKSLASH.handle settings (fireKeyAt settings 2),
        VK_JIS_TOGGLE_EISUU_KANA.handle settings (fireKeyAt settings 2),
        VK_JIS_YEN.handle settings (fireKeyAt settings 2)]
    have handled : firstHandled (handles settings (fireKeyAt settings 2)) call output = _ := passed
    unfold fireKey fireKeyAt
    rw [handled]
    simp only [firstHandled, VK_MOUSEKEY.handle, handle_button, other, if_false, repetition,
      if_true]
    rfl

end EventOutputQueue

namespace KeyboardRepeat

open Sending (Shifts)
open ToEvent (keyNet)

variable {settings : Settings} (apart : settings.ButtonKeysApart)
include apart

theorem fireItem_key_shifts (autogenId : AutogenId) (iskeydown : Bool)
    {params : KeyboardEventCallBack}
    (typed : VirtualKey.VK_MOUSEKEY.getPointingButton params.key ≠ PointingButton.NONE →
      params.eventType = if iskeydown then .DOWN else .UP) (sending : Sending) :
    Shifts (Net.signed iskeydown (keyNet params.key)) sending
      (fireItem settings autogenId false sending (.keyboard params)) := by
  let sent : KeyboardEventCallBack := { params with
    isRepeat := false
    ex_iskeydown :=
      params.eventType.isKeyDownOrModifierDown settings.pairs params.key params.flags }
  refine @ToEvent.fireKey_shifts settings autogenId .DOWN apart sent rfl iskeydown
    (fun button => ?_) sending
  show params.eventType.isKeyDownOrModifierDown settings.pairs params.key params.flags = iskeydown
  rw [typed button]
  exact ToEvent.isKeyDownOrModifierDown_eq settings.pairs iskeydown _ _

/-- A key goes down and up, or a modifier changes twice. -/
theorem fireItem_tap_shifts {down up : Params} (tap : Tap settings.pairs down up)
    (autogenId : AutogenId) (sending : Sending) :
    Shifts 0 sending (fireItem settings autogenId false
      (fireItem settings autogenId false sending down) up) := by
  cases tap with
  | key key flags upFlags keyboardType upKeyboardType =>
      have first := @fireItem_key_shifts settings apart autogenId true
        ⟨.DOWN, flags, key, keyboardType, true, true⟩ (fun _ => rfl) sending
      have second := @fireItem_key_shifts settings apart autogenId false
        ⟨.UP, upFlags, key, upKeyboardType, true, false⟩ (fun _ => rfl)
        (fireItem settings autogenId false sending
          (.keyboardEvent settings.pairs .DOWN flags key keyboardType true))
      have undone : Net.signed true (keyNet key) + Net.signed false (keyNet key) = 0 :=
        add_neg_cancel _
      rw [← undone]
      exact first.trans second
  | modifier key flags upFlags keyboardType upKeyboardType modifies =>
      have other := ToEvent.button_eq_none apart modifies
      have none : keyNet key = 0 := if_pos other
      have sent (flags : Flags) (keyboardType : KeyboardType) (ex_iskeydown : Bool)
          (sending : Sending) : Shifts 0 sending (fireItem settings autogenId false sending
            (.keyboard ⟨.MODIFY, flags, key, keyboardType, true, ex_iskeydown⟩)) := by
        have shifts := @fireItem_key_shifts settings apart autogenId true
          ⟨.MODIFY, flags, key, keyboardType, true, ex_iskeydown⟩
          (fun button => absurd other button) sending
        have same : keyNet (KeyboardEventCallBack.key
          ⟨.MODIFY, flags, key, keyboardType, true, ex_iskeydown⟩) = 0 := none
        rwa [same, Net.signed_zero] at shifts
      exact (sent _ _ _ sending).thenSame (sent _ _ _ _)
  | consumer key flags upFlags =>
      exact (ToEvent.fireConsumer_shifts autogenId .DOWN _ sending).thenSame
        (ToEvent.fireConsumer_shifts autogenId .DOWN _ _)
  | button status button =>
      exact (ToEvent.fireRelativePointer_shifts autogenId .DOWN _ _ _ sending).thenSame
        (ToEvent.fireRelativePointer_shifts autogenId .DOWN _ _ _ _)

theorem foldl_taps_shifts {queue : List Params} (taps : Taps settings.pairs queue)
    (autogenId : AutogenId) (sending : Sending) :
    Shifts 0 sending (queue.foldl (fireItem settings autogenId false) sending) := by
  induction taps generalizing sending with
  | nil => exact Shifts.refl sending
  | cons tap _ ih => exact (fireItem_tap_shifts apart tap autogenId sending).thenSame (ih _)

theorem fireItem_down_shifts {params : Params} (down : Down settings.pairs params)
    (autogenId : AutogenId) (sending : Sending) :
    Shifts 0 sending (fireItem settings autogenId true sending params) := by
  cases down with
  | key key flags keyboardType =>
      let call : FireKeyCall :=
        ⟨⟨.DOWN, flags, key, keyboardType, true, true⟩, autogenId, .DOWN⟩
      exact Sending.shifts_zero (@EventOutputQueue.fireKey_counts settings call sending.output)
        (@EventOutputQueue.fireKey_repetition settings apart call rfl sending.output)
  | consumer key flags => exact ToEvent.fireConsumer_shifts autogenId .DOWN _ sending

omit apart in
theorem Taps.length_ne_one {queue : List Params} (taps : Taps settings.pairs queue) :
    queue.length ≠ 1 := by
  cases taps with
  | nil => simp
  | cons tap rest => simp

/-- What is repeated leaves nothing behind, whenever the timer expires. -/
theorem fire_timer_callback_shifts {sending : Sending} (repeating : sending.Repeating settings) :
    Shifts 0 sending (fire_timer_callback settings sending) := by
  unfold fire_timer_callback
  dsimp only
  refine Shifts.thenSame ?_ (Sending.shifts_onRepeat _ _)
  obtain ⟨params, down, single⟩ | taps := repeating
  · have once : decide (sending.keyboardRepeat.queue_.length = 1) = true := by simp [single]
    rw [once, single]
    exact fireItem_down_shifts apart down _ sending
  · have several : decide (sending.keyboardRepeat.queue_.length = 1) = false :=
      decide_eq_false taps.length_ne_one
    rw [several]
    exact foldl_taps_shifts apart taps _ sending

omit apart in
theorem fire_timer_callback_repeating {sending : Sending}
    (repeating : sending.Repeating settings) :
    (fire_timer_callback settings sending).Repeating settings := by
  have same (queue : List Params) (isRepeat : Bool) (autogenId : AutogenId) (sending : Sending) :
      (queue.foldl (fireItem settings autogenId isRepeat) sending).keyboardRepeat =
        sending.keyboardRepeat := by
    induction queue generalizing sending with
    | nil => rfl
    | cons params queue ih =>
        refine (ih _).trans ?_
        cases params <;> rfl
  unfold fire_timer_callback
  dsimp only
  refine (congrArg (fun keyboardRepeat => Repeating settings.pairs { keyboardRepeat with
    fire_timer_ := keyboardRepeat.fire_timer_.setTimeoutMS
      (UInt32.ofInt keyboardRepeat.keyRepeat_) true }) (same _ _ _ sending)).mpr ?_
  exact repeating

end KeyboardRepeat

end Karabiner
