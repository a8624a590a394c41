import Karabiner.Output

set_option autoImplicit false

/- VirtualKey::handle and EventOutputQueue::FireKey. The notifications of VK_CONFIG to userspace
and the lamp of VK_IOHIKEYBOARD_TOGGLE_NUMLOCK are not part of this model. -/
namespace Karabiner

open EventOutputQueue

/-- What FireKey::fire and the handle functions take; the second component of a result tells whether
the key is handled. -/
structure FireKeyCall where
  params : KeyboardEventCallBack
  autogenId : AutogenId
  physicalEventType : PhysicalEventType
  deriving DecidableEq, Repr

namespace FireKeyCall

/-- The constructor of Params_KeyboardEventCallBack, for another key or type. -/
def withKey (settings : Settings) (call : FireKeyCall) (eventType : EventType) (key : KeyCode)
    (keyboardType : KeyboardType) : FireKeyCall :=
  { call with params :=
    { eventType, flags := call.params.flags, key, keyboardType, isRepeat := call.params.isRepeat
      ex_iskeydown := eventType.isKeyDownOrModifierDown settings.pairs key call.params.flags } }

def isFirstKeyDownEvent (call : FireKeyCall) : Bool :=
  call.params.ex_iskeydown && !call.params.isRepeat

end FireKeyCall

namespace VirtualKey

section

variable (settings : Settings) (call : FireKeyCall)

namespace VK_CONFIG

/-- What is done at refresh: the list of the enabled ones is made anew if the value changed. -/
def setEnabled (remapclass : Nat) (newval : Bool) (output : Output) : Output :=
  let refresh_timer_ :=
    if output.enabled remapclass ≠ newval then output.refresh_timer_.setTimeoutMS 0 true
    else output.refresh_timer_
  { output with enabled := Function.update output.enabled remapclass newval, refresh_timer_ }

def handle (output : Output) : Output × Bool :=
  let key := call.params.key
  match settings.vkConfig.find? fun item => key = item.keycodeToggle || key = item.keycodeForceOn ||
      key = item.keycodeForceOff || key = item.keycodeSyncKeydownup with
  | none => (output, false)
  | some item =>
      if call.params.isRepeat then (output, true)
      else if key = item.keycodeToggle then
        if call.params.ex_iskeydown then
          (setEnabled item.remapclass (!output.enabled item.remapclass) output, true)
        else (output, true)
      else if key = item.keycodeForceOn then
        if call.params.ex_iskeydown then (setEnabled item.remapclass true output, true)
        else (output, true)
      else if key = item.keycodeForceOff then
        if call.params.ex_iskeydown then (setEnabled item.remapclass false output, true)
        else (output, true)
      else
        (fireCurrentModifiers settings call.autogenId call.physicalEventType
          (setEnabled item.remapclass call.params.ex_iskeydown output), true)

def is_VK_CONFIG_SYNC_KEYDOWNUP (keycode : KeyCode) : Bool :=
  settings.vkConfig.any fun item => keycode = item.keycodeSyncKeydownup

end VK_CONFIG

namespace VK_CONSUMERKEY

def consumerKeys : List (KeyCode × ConsumerKeyCode) :=
  [(.VK_CONSUMERKEY_BRIGHTNESS_DOWN, .BRIGHTNESS_DOWN),
    (.VK_CONSUMERKEY_BRIGHTNESS_UP, .BRIGHTNESS_UP),
    (.VK_CONSUMERKEY_KEYBOARDLIGHT_LOW, .KEYBOARDLIGHT_LOW),
    (.VK_CONSUMERKEY_KEYBOARDLIGHT_HIGH, .KEYBOARDLIGHT_HIGH),
    (.VK_CONSUMERKEY_MUSIC_PREV, .MUSIC_PREV),
    (.VK_CONSUMERKEY_MUSIC_PLAY, .MUSIC_PLAY),
    (.VK_CONSUMERKEY_MUSIC_NEXT, .MUSIC_NEXT),
    (.VK_CONSUMERKEY_VOLUME_MUTE, .VOLUME_MUTE),
    (.VK_CONSUMERKEY_VOLUME_DOWN, .VOLUME_DOWN),
    (.VK_CONSUMERKEY_VOLUME_UP, .VOLUME_UP),
    (.VK_CONSUMERKEY_EJECT, .EJECT),
    (.VK_CONSUMERKEY_POWER, .POWER)]

def handle (output : Output) : Output × Bool :=
  match consumerKeys.lookup call.params.key with
  | none => (output, false)
  | some key =>
      if !key.isRepeatable && call.params.isRepeat then (output, true)
      else
        (fireConsumer settings call.autogenId call.physicalEventType
          { eventType := call.params.eventType, flags := call.params.flags, key
            isRepeat := call.params.isRepeat
            ex_iskeydown := call.params.eventType = EventType.DOWN } output, true)

end VK_CONSUMERKEY

/-- The notification is sent at handleAfterEnqueued. -/
def VK_DEFINED_IN_USERSPACE.handle (output : Output) : Output × Bool := (output, false)

def VK_IOHIDPOSTEVENT.handle (output : Output) : Output × Bool := (output, false)

def VK_IOHIKEYBOARD_TOGGLE_NUMLOCK.handle (output : Output) : Output × Bool :=
  (output, call.params.key = KeyCode.VK_IOHIKEYBOARD_TOGGLE_NUMLOCK)

def VK_KEYTOKEY_DELAYED_ACTION_DROP_EVENT.handle (output : Output) : Output × Bool :=
  (output, call.params.key = KeyCode.VK_KEYTOKEY_DELAYED_ACTION_DROP_EVENT)

namespace VK_LAZY

def modifierFlags : List (KeyCode × ModifierFlag) :=
  [(.VK_LAZY_COMMAND_L, .COMMAND_L), (.VK_LAZY_COMMAND_R, .COMMAND_R),
    (.VK_LAZY_CONTROL_L, .CONTROL_L), (.VK_LAZY_CONTROL_R, .CONTROL_R), (.VK_LAZY_FN, .FN),
    (.VK_LAZY_OPTION_L, .OPTION_L), (.VK_LAZY_OPTION_R, .OPTION_R),
    (.VK_LAZY_SHIFT_L, .SHIFT_L), (.VK_LAZY_SHIFT_R, .SHIFT_R)]

def getModifierFlag (keycode : KeyCode) : ModifierFlag := (modifierFlags.lookup keycode).getD .ZERO

def handle (output : Output) : Output × Bool :=
  let f := getModifierFlag call.params.key
  if f = ModifierFlag.ZERO then (output, false)
  else if call.params.isRepeat then (output, true)
  else if call.params.eventType = EventType.DOWN then
    (output.onFlagStatus (·.call .lazyIncrease (.flag f)), true)
  else if call.params.eventType = EventType.UP then
    (output.onFlagStatus (·.call .lazyDecrease (.flag f)), true)
  else (output, true)

end VK_LAZY

/-- The rows of VK_LOCK and VK_STICKY: the first type of which the key is one has its method
called. -/
def modifyFlagStatus (output : Output) : List (KeyCodeType × FlagStatus.Method) → Option Output
  | [] => none
  | (type, method) :: rows =>
      let modifierFlag := settings.pairs.getModifierFlag call.params.key type
      if modifierFlag = ModifierFlag.ZERO then modifyFlagStatus output rows
      else if call.isFirstKeyDownEvent then
        some (output.onFlagStatus (·.call method (.flag modifierFlag)))
      else some output

/-- The keys that change all modifiers at once. -/
def modifyAll (output : Output) : List (KeyCode × FlagStatus.Operation) → Option Output
  | [] => none
  | (keycode, operation) :: rows =>
      if call.params.key ≠ keycode then modifyAll output rows
      else if call.isFirstKeyDownEvent then
        some (output.onFlagStatus (·.perform settings.pairs operation))
      else some output

/-- The end of VK_LOCK and VK_STICKY. -/
def remapped (modified : Option Output) (output : Output) : Output × Bool :=
  match modified with
  | some modified =>
      (fireCurrentModifiers settings call.autogenId call.physicalEventType modified, true)
  | none => (output, false)

def VK_LOCK.methods : List (KeyCodeType × FlagStatus.Method) :=
  [(.VK_LOCK, .lockToggle), (.VK_LOCK_FORCE_ON, .lockIncrease),
    (.VK_LOCK_FORCE_OFF, .lockDecrease), (.VK_NEGATIVE_LOCK, .negativeLockToggle),
    (.VK_NEGATIVE_LOCK_FORCE_ON, .negativeLockIncrease),
    (.VK_NEGATIVE_LOCK_FORCE_OFF, .negativeLockDecrease)]

def VK_LOCK.operations : List (KeyCode × FlagStatus.Operation) :=
  [(.VK_LOCK_ALL_FORCE_OFF, .lockClear), (.VK_NEGATIVE_LOCK_ALL_FORCE_OFF, .negativeLockClear)]

def VK_LOCK.handle (output : Output) : Output × Bool :=
  remapped settings call
    ((modifyFlagStatus settings call output VK_LOCK.methods).or
      (modifyAll settings call output VK_LOCK.operations)) output

def VK_STICKY.methods : List (KeyCodeType × FlagStatus.Method) :=
  [(.VK_STICKY, .stickyToggle), (.VK_STICKY_FORCE_ON, .stickyIncrease),
    (.VK_STICKY_FORCE_OFF, .stickyDecrease)]

def VK_STICKY.operations : List (KeyCode × FlagStatus.Operation) :=
  [(.VK_STICKY_ACTIVE_MODIFIERS_TOGGLE, .stickyActiveModifiersToggle),
    (.VK_STICKY_ACTIVE_MODIFIERS_FORCE_ON, .stickyActiveModifiersIncrease),
    (.VK_STICKY_ACTIVE_MODIFIERS_FORCE_OFF, .stickyActiveModifiersDecrease),
    (.VK_STICKY_ALL_FORCE_OFF, .stickyClear)]

def VK_STICKY.handle (output : Output) : Output × Bool :=
  remapped settings call
    ((modifyFlagStatus settings call output VK_STICKY.methods).or
      (modifyAll settings call output VK_STICKY.operations)) output

namespace VK_MOUSEKEY

def buttons : List (KeyCode × PointingButton) :=
  [(.VK_MOUSEKEY_BUTTON_LEFT, .LEFT), (.VK_MOUSEKEY_BUTTON_MIDDLE, .MIDDLE),
    (.VK_MOUSEKEY_BUTTON_RIGHT, .RIGHT), (.VK_MOUSEKEY_BUTTON_BUTTON4, .BUTTON4),
    (.VK_MOUSEKEY_BUTTON_BUTTON5, .BUTTON5), (.VK_MOUSEKEY_BUTTON_BUTTON6, .BUTTON6),
    (.VK_MOUSEKEY_BUTTON_BUTTON7, .BUTTON7), (.VK_MOUSEKEY_BUTTON_BUTTON8, .BUTTON8),
    (.VK_MOUSEKEY_BUTTON_BUTTON9, .BUTTON9), (.VK_MOUSEKEY_BUTTON_BUTTON10, .BUTTON10),
    (.VK_MOUSEKEY_BUTTON_BUTTON11, .BUTTON11), (.VK_MOUSEKEY_BUTTON_BUTTON12, .BUTTON12),
    (.VK_MOUSEKEY_BUTTON_BUTTON13, .BUTTON13), (.VK_MOUSEKEY_BUTTON_BUTTON14, .BUTTON14),
    (.VK_MOUSEKEY_BUTTON_BUTTON15, .BUTTON15), (.VK_MOUSEKEY_BUTTON_BUTTON16, .BUTTON16)]

def getPointingButton (keycode : KeyCode) : PointingButton :=
  (buttons.lookup keycode).getD .NONE

def lockButtons : List (KeyCode × PointingButton) :=
  [(.VK_MOUSEKEY_LOCK_BUTTON_LEFT, .LEFT), (.VK_MOUSEKEY_LOCK_BUTTON_MIDDLE, .MIDDLE),
    (.VK_MOUSEKEY_LOCK_BUTTON_RIGHT, .RIGHT), (.VK_MOUSEKEY_LOCK_BUTTON_BUTTON4, .BUTTON4),
    (.VK_MOUSEKEY_LOCK_BUTTON_BUTTON5, .BUTTON5), (.VK_MOUSEKEY_LOCK_BUTTON_BUTTON6, .BUTTON6),
    (.VK_MOUSEKEY_LOCK_BUTTON_BUTTON7, .BUTTON7), (.VK_MOUSEKEY_LOCK_BUTTON_BUTTON8, .BUTTON8),
    (.VK_MOUSEKEY_LOCK_BUTTON_BUTTON9, .BUTTON9), (.VK_MOUSEKEY_LOCK_BUTTON_BUTTON10, .BUTTON10),
    (.VK_MOUSEKEY_LOCK_BUTTON_BUTTON11, .BUTTON11), (.VK_MOUSEKEY_LOCK_BUTTON_BUTTON12, .BUTTON12),
    (.VK_MOUSEKEY_LOCK_BUTTON_BUTTON13, .BUTTON13), (.VK_MOUSEKEY_LOCK_BUTTON_BUTTON14, .BUTTON14),
    (.VK_MOUSEKEY_LOCK_BUTTON_BUTTON15, .BUTTON15), (.VK_MOUSEKEY_LOCK_BUTTON_BUTTON16, .BUTTON16)]

def getPointingButtonFromLockKey (keycode : KeyCode) : PointingButton :=
  (lockButtons.lookup keycode).getD .NONE

/-- The directions of a key, for moving or for scrolling. -/
structure Move where
  up : Bool := false
  down : Bool := false
  left : Bool := false
  right : Bool := false
  scroll : Bool := false

def moves : List (KeyCode × Move) :=
  [(.VK_MOUSEKEY_UP, { up := true }), (.VK_MOUSEKEY_DOWN, { down := true }),
    (.VK_MOUSEKEY_LEFT, { left := true }), (.VK_MOUSEKEY_RIGHT, { right := true }),
    (.VK_MOUSEKEY_DIAGONAL_NE, { up := true, right := true }),
    (.VK_MOUSEKEY_DIAGONAL_NW, { up := true, left := true }),
    (.VK_MOUSEKEY_DIAGONAL_SE, { down := true, right := true }),
    (.VK_MOUSEKEY_DIAGONAL_SW, { down := true, left := true }),
    (.VK_MOUSEKEY_SCROLL_UP, { up := true, scroll := true }),
    (.VK_MOUSEKEY_SCROLL_DOWN, { down := true, scroll := true }),
    (.VK_MOUSEKEY_SCROLL_LEFT, { left := true, scroll := true }),
    (.VK_MOUSEKEY_SCROLL_RIGHT, { right := true, scroll := true })]

def isKeyLikeModifier (keycode : KeyCode) : Bool :=
  getPointingButton keycode ≠ PointingButton.NONE || (moves.lookup keycode).isSome ||
    keycode = KeyCode.VK_MOUSEKEY_HIGHSPEED

def handle_button (output : Output) : Output × Bool :=
  let button := getPointingButton call.params.key
  if button = PointingButton.NONE then (output, false)
  else if call.params.isRepeat then (output, true)
  else
    let change := if call.params.ex_iskeydown then ButtonStatus.increase else ButtonStatus.decrease
    let output := output.onButtonStatus (change (.ofButton button))
    (fireRelativePointer settings call.autogenId call.physicalEventType output.makeButtons 0 0
      output, true)

def Move.apply (move : Move) (iskeydown : Bool) (mouseKey : MouseKey) : MouseKey :=
  { mouseKey with
    move_up_ := if move.up then iskeydown else mouseKey.move_up_
    move_down_ := if move.down then iskeydown else mouseKey.move_down_
    move_left_ := if move.left then iskeydown else mouseKey.move_left_
    move_right_ := if move.right then iskeydown else mouseKey.move_right_
    scrollmode_ := if iskeydown then move.scroll else mouseKey.scrollmode_ }

def calculate_dx (mouseKey : MouseKey) : Int :=
  (if mouseKey.move_right_ then 1 else 0) + (if mouseKey.move_left_ then -1 else 0)

def calculate_dy (mouseKey : MouseKey) : Int :=
  (if mouseKey.move_down_ then 1 else 0) + (if mouseKey.move_up_ then -1 else 0)

/-- The end of handle_move. -/
def startMove (mouseKey : MouseKey) : MouseKey :=
  let mouseKey := { mouseKey with currentAutogenId_ := call.autogenId }
  if calculate_dx mouseKey ≠ 0 ∨ calculate_dy mouseKey ≠ 0 then
    let wait :=
      if mouseKey.scrollmode_ then settings.mousekey_initial_wait_of_scroll
      else settings.mousekey_initial_wait_of_pointer
    { mouseKey with fire_timer_ := mouseKey.fire_timer_.setTimeoutMS wait true }
  else { mouseKey with scale_ := 1, fire_timer_ := mouseKey.fire_timer_.cancelTimeout }

def handle_move (output : Output) : Output × Bool :=
  let iskeydown := call.params.ex_iskeydown
  let moved :=
    match moves.lookup call.params.key with
    | some move => some (move.apply iskeydown output.mouseKey)
    | none =>
        if call.params.key = KeyCode.VK_MOUSEKEY_HIGHSPEED then
          some { output.mouseKey with highspeed_ := iskeydown }
        else none
  match moved with
  | none => (output, false)
  | some mouseKey =>
      if call.params.isRepeat then (output, true)
      else ({ output with mouseKey := startMove settings call mouseKey }, true)

def distances : List (KeyCode × Int × Int) :=
  [(.VK_MOUSEKEY_FIXED_DISTANCE_UP, 0, -1), (.VK_MOUSEKEY_FIXED_DISTANCE_DOWN, 0, 1),
    (.VK_MOUSEKEY_FIXED_DISTANCE_LEFT, -1, 0), (.VK_MOUSEKEY_FIXED_DISTANCE_RIGHT, 1, 0)]

def scrollDistances : List (KeyCode × Int × Int) :=
  [(.VK_MOUSEKEY_FIXED_DISTANCE_SCROLL_UP, 0, -1), (.VK_MOUSEKEY_FIXED_DISTANCE_SCROLL_DOWN, 0, 1),
    (.VK_MOUSEKEY_FIXED_DISTANCE_SCROLL_LEFT, -1, 0),
    (.VK_MOUSEKEY_FIXED_DISTANCE_SCROLL_RIGHT, 1, 0)]

/-- The value of a product of unsigned int that is assigned to an int. -/
def toInt (n : Int) : Int := n.bmod (2 ^ 32)

def handle_fixeddistancemove (output : Output) : Output × Bool :=
  match distances.lookup call.params.key with
  | none => (output, false)
  | some (fdx, fdy) =>
      if call.params.ex_iskeydown then
        let magnification := settings.fixed_distance_magnification.toNat
        (fireRelativePointer settings call.autogenId call.physicalEventType output.makeButtons
          (toInt (fdx * magnification)) (toInt (fdy * magnification)) output, true)
      else (output, true)

/-- FireScrollWheel::DELTA_SCALE. -/
def DELTA_SCALE : Int := 128

/-- FixedDistanceScroll::set. -/
def setFixedDistanceScroll (delta1 delta2 : Int) (scroll : FixedDistanceScroll) :
    FixedDistanceScroll where
  delta1_ := delta1.tdiv 100
  delta2_ := delta2.tdiv 100
  counter_ := 100
  autogenId_ := call.autogenId
  physicalEventType_ := call.physicalEventType
  fire_timer_ := scroll.fire_timer_.setTimeoutMS 1 true

def handle_fixeddistancescroll (output : Output) : Output × Bool :=
  match scrollDistances.lookup call.params.key with
  | none => (output, false)
  | some (fdx, fdy) =>
      if call.params.ex_iskeydown then
        let magnification := settings.fixed_distance_scroll_magnification.toNat
        let delta1 := toInt (fdy * magnification * DELTA_SCALE)
        let delta2 := toInt (fdx * magnification * DELTA_SCALE)
        let scroll := output.mouseKey.fixedDistanceScroll
        let scroll :=
          if settings.mouse_key_scroll_not_natural_direction then
            setFixedDistanceScroll call (-delta1) (-delta2) scroll
          else setFixedDistanceScroll call delta1 delta2 scroll
        ({ output with mouseKey := { output.mouseKey with fixedDistanceScroll := scroll } }, true)
      else (output, true)

def handle_lock_button (output : Output) : Output × Bool :=
  if call.params.key = KeyCode.VK_MOUSEKEY_LOCK_BUTTON_ALL_FORCE_OFF then
    let output := output.onButtonStatus ButtonStatus.lockClear
    (fireRelativePointer settings call.autogenId call.physicalEventType output.makeButtons 0 0
      output, true)
  else
    let button := getPointingButtonFromLockKey call.params.key
    if button = PointingButton.NONE then (output, false)
    else if call.params.isRepeat || !call.params.ex_iskeydown then (output, true)
    else
      let output := output.onButtonStatus (ButtonStatus.lockToggle (.ofButton button))
      (fireRelativePointer settings call.autogenId call.physicalEventType output.makeButtons 0 0
        output, true)

end VK_MOUSEKEY

end

/-- The handle functions are called in turn until one handles the key. -/
def firstHandled (handles : List (FireKeyCall → Output → Output × Bool)) (call : FireKeyCall)
    (output : Output) : Output × Bool :=
  match handles with
  | [] => (output, false)
  | handle :: handles =>
      match handle call output with
      | (output, true) => (output, true)
      | (output, false) => firstHandled handles call output

section

variable (settings : Settings)

def VK_MOUSEKEY.handle (call : FireKeyCall) (output : Output) : Output × Bool :=
  firstHandled
    [handle_button settings, handle_move settings, handle_fixeddistancemove settings,
      handle_fixeddistancescroll settings, handle_lock_button settings] call
    { output with mouseKey :=
        { output.mouseKey with lastPhysicalEventType_ := call.physicalEventType } }

def VK_WAIT.waits : List (KeyCode × UInt32) :=
  [(.VK_WAIT_10MS, 10), (.VK_WAIT_50MS, 50), (.VK_WAIT_100MS, 100)]

def VK_WAIT.handle (call : FireKeyCall) (output : Output) : Output × Bool :=
  match VK_WAIT.waits.lookup call.params.key with
  | none => (output, false)
  | some milliseconds => (fireWait milliseconds call.autogenId output, true)

/-- The functions that call FireKey::fire again take it as a parameter. -/
abbrev Fire := FireKeyCall → Output → Output

def VK_PARTIAL.handle (fire : Fire) (call : FireKeyCall) (output : Output) : Output × Bool :=
  let key := call.params.key
  let onPartialKey (change : PartialKey → PartialKey) (output : Output) : Output :=
    { output with partialKey := change output.partialKey }
  if key = KeyCode.VK_PARTIAL_KEYDOWN ∨ key = KeyCode.VK_PARTIAL_KEYUP then
    if call.params.ex_iskeydown then
      (onPartialKey (fun partialKey => { partialKey with
        active_ := true
        eventType_ := if key = KeyCode.VK_PARTIAL_KEYDOWN then .DOWN else .UP }) output, true)
    else (output, true)
  else if output.partialKey.active_ && call.params.ex_iskeydown then
    let output := onPartialKey (fun partialKey => { partialKey with active_ := false }) output
    let output := fire (call.withKey settings output.partialKey.eventType_ key
      call.params.keyboardType) output
    -- changedKeyCodes_ blocks the key, so that it is registered behind the call.
    (onPartialKey (fun partialKey => { partialKey with
      changedKeyCodes_ := partialKey.changedKeyCodes_ ++ [key] }) output, true)
  else if key ∈ output.partialKey.changedKeyCodes_ then
    if call.params.ex_iskeydown then (output, true)
    else
      (onPartialKey (fun partialKey => { partialKey with
        changedKeyCodes_ := partialKey.changedKeyCodes_.erase key }) output, true)
  else (output, false)

def VK_JIS_BACKSLASH.handle (fire : Fire) (call : FireKeyCall) (output : Output) : Output × Bool :=
  if call.params.key ≠ KeyCode.VK_JIS_BACKSLASH then (output, false)
  else
    (fire (call.withKey settings call.params.eventType .BACKSLASH .MACBOOK) output, true)

/-- InputSource::JAPANESE. -/
def JAPANESE : Nat := 3

def VK_JIS_TOGGLE_EISUU_KANA.handle (fire : Fire) (call : FireKeyCall) (output : Output) :
    Output × Bool :=
  if call.params.key ≠ KeyCode.VK_JIS_TOGGLE_EISUU_KANA then (output, false)
  else
    let output :=
      if call.params.ex_iskeydown then
        { output with newkeycode_ :=
            if JAPANESE ∈ output.workspaceInputSourceIds then .JIS_EISUU else .JIS_KANA }
      else output
    (fire (call.withKey settings call.params.eventType output.newkeycode_.keyCode
      call.params.keyboardType) output, true)

def VK_JIS_YEN.handle (fire : Fire) (call : FireKeyCall) (output : Output) : Output × Bool :=
  if call.params.key ≠ KeyCode.VK_JIS_YEN then (output, false)
  else
    (fire (call.withKey settings call.params.eventType .JIS_YEN .JIS_MACBOOK_2008) output, true)

def handles (fire : Fire) : List (FireKeyCall → Output → Output × Bool) :=
  [VK_CONFIG.handle settings, VK_CONSUMERKEY.handle settings,
    fun _ => VK_DEFINED_IN_USERSPACE.handle, fun _ => VK_IOHIDPOSTEVENT.handle,
    VK_IOHIKEYBOARD_TOGGLE_NUMLOCK.handle, VK_KEYTOKEY_DELAYED_ACTION_DROP_EVENT.handle,
    VK_LAZY.handle, VK_LOCK.handle settings, VK_MOUSEKEY.handle settings,
    VK_PARTIAL.handle settings fire, VK_STICKY.handle settings, VK_WAIT.handle,
    VK_JIS_BACKSLASH.handle settings fire, VK_JIS_TOGGLE_EISUU_KANA.handle settings fire,
    VK_JIS_YEN.handle settings fire]

def isKeyLikeModifier (keycode : KeyCode) : Bool :=
  VK_CONFIG.is_VK_CONFIG_SYNC_KEYDOWNUP settings keycode ||
    VK_LAZY.getModifierFlag keycode ≠ ModifierFlag.ZERO || VK_MOUSEKEY.isKeyLikeModifier keycode

end

end VirtualKey

namespace EventOutputQueue

/-- FireKey::fire; the number bounds how often it is called again by the virtual keys. -/
def fireKeyAt (settings : Settings) : Nat → VirtualKey.Fire
  | 0, _, output => output
  | depth + 1, call, output =>
      match VirtualKey.firstHandled (VirtualKey.handles settings (fireKeyAt settings depth)) call
        output with
      | (output, true) => output
      | (output, false) =>
          fireOutputKey settings call.autogenId call.physicalEventType call.params output

/-- FireKey::fire. -/
def fireKey (settings : Settings) : VirtualKey.Fire := fireKeyAt settings 3

end EventOutputQueue

end Karabiner
