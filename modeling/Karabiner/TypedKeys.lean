import Karabiner.OutputReplay

set_option autoImplicit false

/- FireKey::fire sends a key of a keyboard once, as it is, with any modifiers in front of it. -/
namespace Karabiner

/-- The virtual key codes begin behind the ones of keyboards. -/
def KeyCode.IsHardware (key : KeyCode) : Prop := key.value < 0x10000000

instance (key : KeyCode) : Decidable key.IsHardware := inferInstanceAs (Decidable (_ < _))

/-- The key codes that a configuration defines are virtual. -/
structure Settings.DefinesVirtual (settings : Settings) : Prop where
  modifiers : ∀ pair ∈ settings.extra, ∀ type, ¬(pair.keyCode type).IsHardware
  configs : ∀ item ∈ settings.vkConfig, ∀ key ∈ [item.keycodeToggle, item.keycodeForceOn,
    item.keycodeForceOff, item.keycodeSyncKeydownup], ¬KeyCode.IsHardware key

/-- A key of a keyboard that is no modifier. The keys that are another key with FN are left out. -/
structure KeyCode.IsTyped (key : KeyCode) : Prop where
  hardware : key.IsHardware
  unmodifying : Pairs.normal.getModifierFlag key .KEYCODE = ModifierFlag.ZERO
  unlisted : ∀ row ∈ KeyCode.fnkeyhack, row.toKeyCode_ ≠ key

/-- The keys that an event presses or releases, as they are sent. -/
def OutputItem.typed (item : OutputItem) : Option (Bool × KeyCode) :=
  match item.event with
  | .params (.keyboard params) =>
      if params.eventType = EventType.DOWN then some (true, params.key)
      else if params.eventType = EventType.UP then some (false, params.key)
      else none
  | _ => none

namespace Output

def typed (output : Output) : List (Bool × KeyCode) := output.queue_.filterMap OutputItem.typed

/-- The keys are sent, and what could change a key is as before. -/
structure Types (sent : List (Bool × KeyCode)) (before after : Output) : Prop where
  typed : after.typed = before.typed ++ sent
  partialKey : after.partialKey = before.partialKey
  fnkeyhack : after.fnkeyhack = before.fnkeyhack

/-- No key is changed. -/
structure Unchanging (output : Output) : Prop where
  partialKey : output.partialKey = {}
  fnkeyhack : output.fnkeyhack = KeyCode.fnkeyhack

variable {sent : List (Bool × KeyCode)} {before after : Output}

theorem types_of_same (queue_ : after.queue_ = before.queue_)
    (partialKey : after.partialKey = before.partialKey)
    (fnkeyhack : after.fnkeyhack = before.fnkeyhack) : Types [] before after := by
  refine ⟨?_, partialKey, fnkeyhack⟩
  rw [typed, queue_, List.append_nil]
  rfl

theorem Types.refl (output : Output) : Types [] output output := types_of_same rfl rfl rfl

theorem Types.trans {first second : List (Bool × KeyCode)} {between : Output}
    (left : Types first before between) (right : Types second between after) :
    Types (first ++ second) before after := by
  refine ⟨?_, right.partialKey.trans left.partialKey, right.fnkeyhack.trans left.fnkeyhack⟩
  rw [right.typed, left.typed, List.append_assoc]

theorem Types.quiet {between : Output} (left : Types [] before between)
    (right : Types sent between after) : Types sent before after := left.trans right

theorem Types.unchanging (types : Types sent before after) (unchanging : before.Unchanging) :
    after.Unchanging :=
  ⟨types.partialKey.trans unchanging.partialKey, types.fnkeyhack.trans unchanging.fnkeyhack⟩

theorem onFlagStatus_types (change : FlagStatus → FlagStatus) (output : Output) :
    Types [] output (output.onFlagStatus change) := types_of_same rfl rfl rfl

theorem onButtonStatus_types (change : ButtonStatus → ButtonStatus) (output : Output) :
    Types [] output (output.onButtonStatus change) := types_of_same rfl rfl rfl

end Output

open Output (Types types_of_same)

namespace KeyCode.IsHardware

variable {settings : Settings} (defines : settings.DefinesVirtual) {key : KeyCode}
  (hardware : key.IsHardware)

include hardware

theorem lookup_eq {Value : Type} {table : List (KeyCode × Value)}
    (virtual : ∀ row ∈ table, ¬row.1.IsHardware) : table.lookup key = none := by
  rw [List.lookup_eq_none_iff]
  intro row member
  rw [bne_iff_ne]
  rintro rfl
  exact virtual row member hardware

theorem ne_of_virtual {other : KeyCode} (virtual : ¬other.IsHardware) : key ≠ other := by
  rintro rfl
  exact virtual hardware

include defines

theorem getModifierFlag_eq (type : KeyCodeType) :
    settings.pairs.getModifierFlag key type = Pairs.normal.getModifierFlag key type := by
  have none : settings.extra.find? (·.keyCode type = key) = none := by
    rw [List.find?_eq_none]
    intro pair member same
    rw [decide_eq_true_iff] at same
    exact defines.modifiers pair member type (same ▸ hardware)
  unfold Settings.pairs Pairs.getModifierFlag
  rw [List.find?_append, none, Option.or_none]

theorem getModifierFlag_zero {type : KeyCodeType} (other : type ≠ .KEYCODE) :
    settings.pairs.getModifierFlag key type = ModifierFlag.ZERO := by
  have virtual : ∀ pair ∈ Pairs.normal, type ≠ .KEYCODE →
      ¬(pair.keyCode type).IsHardware := by
    cases type <;> decide
  rw [getModifierFlag_eq defines hardware, Pairs.getModifierFlag, List.find?_eq_none.2]
  intro pair member same
  rw [decide_eq_true_iff] at same
  exact virtual pair member other (same ▸ hardware)

end KeyCode.IsHardware

namespace VirtualKey

variable {settings : Settings} (defines : settings.DefinesVirtual) {call : FireKeyCall}
  (hardware : call.params.key.IsHardware) {fire : Fire} {output : Output}

include hardware

theorem vk_mousekey_hardware : VK_MOUSEKEY.handle settings call output =
    ({ output with mouseKey :=
        { output.mouseKey with lastPhysicalEventType_ := call.physicalEventType } }, false) := by
  have button : VK_MOUSEKEY.getPointingButton call.params.key = PointingButton.NONE := by
    rw [VK_MOUSEKEY.getPointingButton, hardware.lookup_eq (by decide)]
    rfl
  have lock : VK_MOUSEKEY.getPointingButtonFromLockKey call.params.key = PointingButton.NONE := by
    rw [VK_MOUSEKEY.getPointingButtonFromLockKey, hardware.lookup_eq (by decide)]
    rfl
  have moves : VK_MOUSEKEY.moves.lookup call.params.key = none := hardware.lookup_eq (by decide)
  have distances : VK_MOUSEKEY.distances.lookup call.params.key = none :=
    hardware.lookup_eq (by decide)
  have scrolls : VK_MOUSEKEY.scrollDistances.lookup call.params.key = none :=
    hardware.lookup_eq (by decide)
  have highspeed : call.params.key ≠ KeyCode.VK_MOUSEKEY_HIGHSPEED :=
    hardware.ne_of_virtual (by decide)
  have off : call.params.key ≠ KeyCode.VK_MOUSEKEY_LOCK_BUTTON_ALL_FORCE_OFF :=
    hardware.ne_of_virtual (by decide)
  simp [VK_MOUSEKEY.handle, firstHandled, VK_MOUSEKEY.handle_button, button,
    VK_MOUSEKEY.handle_move, moves, highspeed, VK_MOUSEKEY.handle_fixeddistancemove, distances,
    VK_MOUSEKEY.handle_fixeddistancescroll, scrolls, VK_MOUSEKEY.handle_lock_button, off, lock]

theorem vk_partial_hardware (idle : output.partialKey = {}) :
    VK_PARTIAL.handle settings fire call output = (output, false) := by
  have down : call.params.key ≠ KeyCode.VK_PARTIAL_KEYDOWN := hardware.ne_of_virtual (by decide)
  have up : call.params.key ≠ KeyCode.VK_PARTIAL_KEYUP := hardware.ne_of_virtual (by decide)
  simp [VK_PARTIAL.handle, down, up, idle]

include defines

theorem vk_config_hardware : VK_CONFIG.handle settings call output = (output, false) := by
  unfold VK_CONFIG.handle
  dsimp only
  rw [List.find?_eq_none.2]
  intro item member taken
  have virtual := defines.configs item member
  simp only [Bool.or_eq_true, decide_eq_true_iff] at taken
  simp only [List.forall_mem_cons] at virtual
  obtain ⟨toggle, force_on, force_off, sync, -⟩ := virtual
  rcases taken with ((here | here) | here) | here
  · exact toggle (here ▸ hardware)
  · exact force_on (here ▸ hardware)
  · exact force_off (here ▸ hardware)
  · exact sync (here ▸ hardware)

theorem remapped_hardware {methods : List (KeyCodeType × FlagStatus.Method)}
    {operations : List (KeyCode × FlagStatus.Operation)}
    (others : ∀ row ∈ methods, row.1 ≠ .KEYCODE)
    (virtual : ∀ row ∈ operations, ¬row.1.IsHardware) :
    remapped settings call ((modifyFlagStatus settings call output methods).or
      (modifyAll settings call output operations)) output = (output, false) := by
  have first : modifyFlagStatus settings call output methods = none := by
    induction methods with
    | nil => rfl
    | cons row methods ih =>
        obtain ⟨here, rest⟩ := List.forall_mem_cons.1 others
        rw [modifyFlagStatus, if_pos (hardware.getModifierFlag_zero defines here), ih rest]
  have second : modifyAll settings call output operations = none := by
    induction operations with
    | nil => rfl
    | cons row operations ih =>
        obtain ⟨here, rest⟩ := List.forall_mem_cons.1 virtual
        rw [modifyAll, if_pos (hardware.ne_of_virtual here), ih rest]
  rw [first, second]
  rfl

/-- No virtual key handles the key of a keyboard. -/
theorem firstHandled_hardware (idle : output.partialKey = {}) :
    firstHandled (handles settings fire) call output =
      ({ output with mouseKey :=
        { output.mouseKey with lastPhysicalEventType_ := call.physicalEventType } }, false) := by
  have consumer : VK_CONSUMERKEY.handle settings call output = (output, false) := by
    rw [VK_CONSUMERKEY.handle, hardware.lookup_eq (by decide)]
  have numlock : call.params.key ≠ KeyCode.VK_IOHIKEYBOARD_TOGGLE_NUMLOCK :=
    hardware.ne_of_virtual (by decide)
  have drop : call.params.key ≠ KeyCode.VK_KEYTOKEY_DELAYED_ACTION_DROP_EVENT :=
    hardware.ne_of_virtual (by decide)
  have lazy : VK_LAZY.getModifierFlag call.params.key = ModifierFlag.ZERO := by
    rw [VK_LAZY.getModifierFlag, hardware.lookup_eq (by decide)]
    rfl
  have locked : VK_LOCK.handle settings call output = (output, false) :=
    remapped_hardware defines hardware (by decide) (by decide)
  have sticky (output : Output) : VK_STICKY.handle settings call output = (output, false) :=
    remapped_hardware defines hardware (by decide) (by decide)
  have waits : VK_WAIT.waits.lookup call.params.key = none := hardware.lookup_eq (by decide)
  have backslash : call.params.key ≠ KeyCode.VK_JIS_BACKSLASH :=
    hardware.ne_of_virtual (by decide)
  have eisuu : call.params.key ≠ KeyCode.VK_JIS_TOGGLE_EISUU_KANA :=
    hardware.ne_of_virtual (by decide)
  have yen : call.params.key ≠ KeyCode.VK_JIS_YEN := hardware.ne_of_virtual (by decide)
  have partialKey : VK_PARTIAL.handle settings fire call { output with mouseKey :=
      { output.mouseKey with lastPhysicalEventType_ := call.physicalEventType } } = (_, false) :=
    vk_partial_hardware hardware idle
  simp only [handles, firstHandled, vk_config_hardware defines hardware, consumer,
    VK_DEFINED_IN_USERSPACE.handle, VK_IOHIDPOSTEVENT.handle, VK_IOHIKEYBOARD_TOGGLE_NUMLOCK.handle,
    numlock, VK_KEYTOKEY_DELAYED_ACTION_DROP_EVENT.handle, drop, VK_LAZY.handle, lazy, if_true,
    locked, vk_mousekey_hardware hardware, partialKey, sticky, VK_WAIT.handle, waits,
    VK_JIS_BACKSLASH.handle, backslash, VK_JIS_TOGGLE_EISUU_KANA.handle, eisuu, VK_JIS_YEN.handle,
    yen, ne_eq, not_false_eq_true, decide_false]

end VirtualKey

theorem FNKeyHack.firstRow_unlisted {direction : Direction} {pairs : Pairs} {key : KeyCode}
    {flags : Flags} {eventType : EventType} {rows : List FNKeyHack}
    (unlisted : ∀ row ∈ rows, direction.source row ≠ key) :
    firstRow key (remapAs direction pairs key flags eventType) rows = (key, rows) := by
  induction rows with
  | nil => rfl
  | cons row rows ih =>
      obtain ⟨here, rest⟩ := List.forall_mem_cons.1 unlisted
      have passed : remapAs direction pairs key flags eventType row = none := by
        rw [remapAs, remap, if_pos (Ne.symm here)]
        rfl
      rw [firstRow, passed]
      dsimp only
      rw [ih rest]

namespace EventOutputQueue

variable {settings : Settings} (autogenId : AutogenId) (physicalEventType : PhysicalEventType)

theorem push_types (params : Params) (output : Output) :
    Types (OutputItem.typed ⟨.params params, autogenId⟩).toList output
      (push params autogenId output) := by
  refine ⟨?_, ?_, ?_⟩
  · rw [Output.typed, push_queue, List.filterMap_append]
    rfl
  · unfold push
    dsimp only
    split <;> rfl
  · unfold push
    dsimp only
    split <;> rfl

namespace FireModifiers

/-- An event of a modifier. -/
def IsModify (pushed : Pushed) : Prop :=
  OutputItem.typed ⟨.params pushed.params, pushed.autogenId⟩ = none

theorem foldl_modify {round : Flags × List Pushed → ModifierFlag → Flags × List Pushed}
    (each : ∀ progress flag, (round progress flag).2 = progress.2 ∨
      ∃ pushed, IsModify pushed ∧ (round progress flag).2 = progress.2 ++ [pushed])
    (flags : List ModifierFlag) {progress : Flags × List Pushed}
    (before : ∀ pushed ∈ progress.2, IsModify pushed) :
    ∀ pushed ∈ (flags.foldl round progress).2, IsModify pushed := by
  induction flags generalizing progress with
  | nil => exact before
  | cons flag flags ih =>
      apply ih
      rcases each progress flag with same | ⟨pushed, modify, appended⟩
      · rwa [same]
      · intro one member
        rw [appended] at member
        rcases List.mem_append.1 member with earlier | last
        · exact before one earlier
        · rw [List.mem_singleton.1 last]
          exact modify

/-- Modifiers are sent by events that are neither down nor up. -/
theorem fire_modify (pairs : Pairs) (keyboardType : KeyboardType) (status : FlagStatus)
    (toFlags : Flags) (modifiers : FireModifiers) :
    ∀ pushed ∈ (fire pairs autogenId keyboardType status physicalEventType toFlags modifiers).2,
      IsModify pushed := by
  have modify (flags : Flags) (flag : ModifierFlag) :
      IsModify (modifyEvent pairs autogenId keyboardType flags flag) := by
    simp [IsModify, OutputItem.typed, modifyEvent, Params.keyboardEvent, EventType.MODIFY,
      EventType.DOWN, EventType.UP]
  have moved : ∀ pushed ∈ (moveFlags pairs autogenId keyboardType status.flags toFlags
      modifiers.lastFlags_).2, IsModify pushed := by
    unfold moveFlags
    apply foldl_modify
    · intro progress flag
      unfold keyDown
      split
      · exact .inl rfl
      · split
        · exact .inl rfl
        · split
          · exact .inl rfl
          · exact .inr ⟨_, modify _ _, rfl⟩
    · apply foldl_modify
      · intro progress flag
        unfold keyUp
        split
        · exact .inl rfl
        · split
          · exact .inl rfl
          · split
            · exact .inl rfl
            · exact .inr ⟨_, modify _ _, rfl⟩
      · simp
  unfold fire
  split
  · simp
  · dsimp only
    split
    · exact moved
    · split
      · simp
      · exact moved

end FireModifiers

theorem foldl_push_types {pushed : List Pushed}
    (modify : ∀ one ∈ pushed, FireModifiers.IsModify one) (output : Output) :
    Types [] output
      (pushed.foldl (fun output one => push one.params one.autogenId output) output) := by
  induction pushed generalizing output with
  | nil => exact .refl output
  | cons one pushed ih =>
      obtain ⟨here, rest⟩ := List.forall_mem_cons.1 modify
      have first := push_types one.autogenId one.params output
      rw [show OutputItem.typed ⟨.params one.params, one.autogenId⟩ = none from here] at first
      exact first.quiet (ih rest _)

theorem fireModifiers_types (toFlags : Flags) (keyboardType : KeyboardType) (output : Output) :
    Types [] output
      (fireModifiers settings autogenId physicalEventType toFlags keyboardType output) := by
  unfold fireModifiers
  extract_lets fired
  have before : Types [] output { output with fireModifiers := fired.1 } :=
    types_of_same rfl rfl rfl
  apply before.quiet
  apply foldl_push_types
  intro one member
  exact FireModifiers.fire_modify autogenId physicalEventType settings.pairs keyboardType
    output.flagStatus toFlags output.fireModifiers one member

/-- What the event of a key is, as it is sent. -/
def typedAs (eventType : EventType) (key : KeyCode) : List (Bool × KeyCode) :=
  if eventType = EventType.DOWN then [(true, key)]
  else if eventType = EventType.UP then [(false, key)]
  else []

theorem fireOutputKey_types {params : KeyboardEventCallBack} {output : Output}
    (unchanging : output.Unchanging)
    (unlisted : ∀ row ∈ KeyCode.fnkeyhack, row.toKeyCode_ ≠ params.key)
    (hardware : params.key.IsHardware)
    (sends : settings.pairs.getModifierFlag params.key .KEYCODE = ModifierFlag.ZERO ∨
      params.eventType = EventType.MODIFY) :
    Types (typedAs params.eventType params.key) output
      (fireOutputKey settings autogenId physicalEventType params output) := by
  have rows : FNKeyHack.firstRow params.key (FNKeyHack.reverse settings.pairs params.key
      params.flags params.eventType) output.fnkeyhack = (params.key, output.fnkeyhack) := by
    rw [unchanging.fnkeyhack]
    exact FNKeyHack.firstRow_unlisted unlisted
  have named : params.key ≠ KeyCode.VK_NONE ∧ params.key ≠ KeyCode.VK_PSEUDO_KEY :=
    ⟨hardware.ne_of_virtual (by decide), hardware.ne_of_virtual (by decide)⟩
  unfold fireOutputKey
  extract_lets normalized renamed newkeycode modifierFlag isUp newflags readied pushed
  have same_key : newkeycode = params.key := congrArg Prod.fst rows
  have same_rows : normalized.rows = output.fnkeyhack := congrArg Prod.snd rows
  have first : Types [] output renamed := types_of_same rfl rfl same_rows
  have second : Types [] renamed readied := by
    show Types [] renamed (if isUp then renamed else _)
    split
    · exact .refl renamed
    · have cleared : Types [] renamed (if params.ex_iskeydown then
          renamed.setIgnorePhysicalUpEvent false else renamed) := by
        split
        · exact types_of_same rfl rfl rfl
        · exact .refl renamed
      exact cleared.quiet (fireModifiers_types autogenId physicalEventType _ _ _)
  have ready := first.quiet second
  have third : params.eventType = EventType.DOWN ∨ params.eventType = EventType.UP →
      Types (typedAs params.eventType params.key) output pushed := by
    intro pressed
    have sent := push_types autogenId (.keyboardEvent settings.pairs params.eventType newflags
      newkeycode params.keyboardType params.isRepeat) readied
    have typed :
        (OutputItem.typed ⟨.params (.keyboardEvent settings.pairs params.eventType newflags
        newkeycode params.keyboardType params.isRepeat), autogenId⟩).toList =
        typedAs params.eventType params.key := by
      rw [same_key]
      unfold OutputItem.typed typedAs Params.keyboardEvent
      rcases pressed with down | up
      · simp [down]
      · simp [up, EventType.UP, EventType.DOWN]
    rw [typed] at sent
    exact ready.quiet sent
  rw [if_neg (by rw [same_key]; exact fun either => either.elim named.1 named.2)]
  split
  · next ignored =>
    have modify : params.eventType = EventType.MODIFY := by
      refine sends.resolve_left fun zero => ignored.1 ?_
      show settings.pairs.getModifierFlag newkeycode .KEYCODE = _
      rw [same_key, zero]
    rw [modify]
    exact first
  · split
    · next pressed =>
      have types := third pressed
      have kept {after : Output} (queue_ : after.queue_ = pushed.queue_)
          (partialKey : after.partialKey = pushed.partialKey)
          (fnkeyhack : after.fnkeyhack = pushed.fnkeyhack) :
          Types (typedAs params.eventType params.key) output after := by
        have rest : Types [] pushed after := types_of_same queue_ partialKey fnkeyhack
        have whole := types.trans rest
        rwa [List.append_nil] at whole
      split
      · exact types
      · split
        · unfold PressDownKeys.add
          split
          · exact types
          · exact kept rfl rfl rfl
        · exact kept rfl rfl rfl
    · next other =>
      rw [not_or] at other
      rw [typedAs, if_neg other.1, if_neg other.2]
      exact ready

/-- A key that FireKey::fire sends as it is. -/
structure Passes (settings : Settings) (eventType : EventType) (key : KeyCode) : Prop where
  hardware : key.IsHardware
  unlisted : ∀ row ∈ KeyCode.fnkeyhack, row.toKeyCode_ ≠ key
  sends : settings.pairs.getModifierFlag key .KEYCODE = ModifierFlag.ZERO ∨
    eventType = EventType.MODIFY

theorem fireKey_types (defines : settings.DefinesVirtual) {call : FireKeyCall} {output : Output}
    (unchanging : output.Unchanging)
    (passes : Passes settings call.params.eventType call.params.key) :
    Types (typedAs call.params.eventType call.params.key) output
      (fireKey settings call output) := by
  unfold fireKey fireKeyAt
  rw [VirtualKey.firstHandled_hardware defines passes.hardware unchanging.partialKey]
  have touched : Types [] output { output with mouseKey :=
      { output.mouseKey with lastPhysicalEventType_ := call.physicalEventType } } :=
    types_of_same rfl rfl rfl
  exact touched.quiet (fireOutputKey_types _ _ (touched.unchanging unchanging) passes.unlisted
    passes.hardware passes.sends)

end EventOutputQueue

end Karabiner
