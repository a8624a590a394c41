import Karabiner.ButtonStatus
import Karabiner.EventTimers
import Karabiner.FNKeyHack
import Karabiner.ScopedSetter

set_option autoImplicit false

/- The state of the output side, with EventOutputQueue::push and the Fire classes other than
FireKey. The queue is everything that was pushed; its timer and the devices are left to the model
of the timers. -/
namespace Karabiner

namespace FlagStatus

def makeFlags (status : FlagStatus) : Flags :=
  status.item.foldl (fun flags it => if it.sum false > 0 then flags.add it.flag else flags) ⟨0⟩

/-- The private isOn. -/
def isOnFlag (status : FlagStatus) (modifierFlag : ModifierFlag) : Bool :=
  match status.item.find? (·.flag = modifierFlag) with
  | some it => it.sum true > 0
  | none => false

def isOn (status : FlagStatus) (modifierFlags : List ModifierFlag) : Bool :=
  (modifierFlags.all fun flag =>
      flag = ModifierFlag.ZERO || flag = ModifierFlag.NONE || status.isOnFlag flag) &&
    (ModifierFlag.NONE ∉ modifierFlags ||
      status.item.all fun it => !(it.sum true > 0 && it.flag ∉ modifierFlags))

end FlagStatus

/-- The parts of the configuration that the output side reads. The registered modifiers are the
normal ones and those of modifierdef.xml. -/
structure Settings where
  extra : Pairs
  virtual : extra.AreVirtual
  vkConfig : List VkConfig
  repeat_initial_wait : Int
  repeat_consumer_initial_wait : Int
  repeat_wait : Int
  keytokey_delayed_action_timeout : Int
  mousekey_initial_wait_of_pointer : UInt32
  mousekey_initial_wait_of_scroll : UInt32
  fixed_distance_magnification : UInt32
  fixed_distance_scroll_magnification : UInt32
  mouse_key_scroll_not_natural_direction : Bool

def Settings.pairs (settings : Settings) : Pairs := Pairs.normal ++ settings.extra

/-- Nothing but the normal modifiers is registered. -/
def Settings.normal : Settings where
  extra := []
  virtual := Pairs.areVirtual_nil
  vkConfig := []
  repeat_initial_wait := 500
  repeat_consumer_initial_wait := 500
  repeat_wait := 83
  keytokey_delayed_action_timeout := 500
  mousekey_initial_wait_of_pointer := 20
  mousekey_initial_wait_of_scroll := 20
  fixed_distance_magnification := 30
  fixed_distance_scroll_magnification := 1
  mouse_key_scroll_not_natural_direction := false

/-- The arguments of push. -/
structure OutputItem where
  event : EventOutputQueue.Event
  autogenId : AutogenId
  deriving DecidableEq, Repr

/-- VK_MOUSEKEY::FixedDistanceScroll. -/
structure FixedDistanceScroll where
  delta1_ : Int := 0
  delta2_ : Int := 0
  counter_ : Int := 0
  autogenId_ : AutogenId := 0
  physicalEventType_ : PhysicalEventType := .DOWN
  fire_timer_ : TimerWrapper := .idle
  deriving DecidableEq, Repr

structure MouseKey where
  move_down_ : Bool := false
  move_left_ : Bool := false
  move_right_ : Bool := false
  move_up_ : Bool := false
  scale_ : Int := 1
  scrollmode_ : Bool := false
  highspeed_ : Bool := false
  currentAutogenId_ : AutogenId := 0
  lastPhysicalEventType_ : PhysicalEventType := .DOWN
  fire_timer_ : TimerWrapper := .idle
  fixedDistanceScroll : FixedDistanceScroll := {}
  deriving DecidableEq, Repr

/-- VK_PARTIAL. -/
structure PartialKey where
  changedKeyCodes_ : List KeyCode := []
  active_ : Bool := false
  eventType_ : EventType := ⟨0⟩
  deriving DecidableEq, Repr

/-- The values that VK_JIS_TOGGLE_EISUU_KANA::newkeycode_ can have. -/
inductive NewKeyCode where
  | unset
  | JIS_EISUU
  | JIS_KANA
  deriving DecidableEq, Repr

def NewKeyCode.keyCode : NewKeyCode → KeyCode
  | .unset => ⟨0⟩
  | .JIS_EISUU => .JIS_EISUU
  | .JIS_KANA => .JIS_KANA

structure Output where
  flagStatus : FlagStatus
  buttonStatus : ButtonStatus := .initialized
  keyboardType : KeyboardType := .MACBOOK
  workspaceInputSourceIds : List Nat := []
  queue_ : List OutputItem := []
  fireModifiers : EventOutputQueue.FireModifiers := .start
  lastButtons_ : Buttons := ⟨0⟩
  pressDownKeys : List (KeyCode × KeyboardType) := []
  fnkeyhack : List FNKeyHack := KeyCode.fnkeyhack
  enabled : Nat → Bool := fun _ => false
  refresh_timer_ : TimerWrapper := .idle
  mouseKey : MouseKey := {}
  partialKey : PartialKey := {}
  newkeycode_ : NewKeyCode := .unset
  needToDrop_ : Bool := false

namespace Output

def onFlagStatus (change : FlagStatus → FlagStatus) (output : Output) : Output :=
  { output with flagStatus := change output.flagStatus }

def onButtonStatus (change : ButtonStatus → ButtonStatus) (output : Output) : Output :=
  { output with buttonStatus := change output.buttonStatus }

def makeFlags (output : Output) : Flags := output.flagStatus.makeFlags

def makeButtons (output : Output) : Buttons := output.buttonStatus.makeButtons

def setIgnorePhysicalUpEvent (newval : Bool) (output : Output) : Output :=
  { output with fireModifiers :=
      { output.fireModifiers with isIgnorePhysicalUpEvent_ := newval } }

end Output

namespace PressDownKeys

def add (key : KeyCode) (keyboardType : KeyboardType) (output : Output) : Output :=
  if key = KeyCode.VK_NONE then output
  else { output with pressDownKeys := output.pressDownKeys ++ [(key, keyboardType)] }

def remove (key : KeyCode) (keyboardType : KeyboardType) (output : Output) : Output :=
  { output with pressDownKeys := output.pressDownKeys.filter (· ≠ (key, keyboardType)) }

end PressDownKeys

namespace EventOutputQueue

/-- The events that the sticky modifiers were for. -/
def clearsSticky : Params → Bool
  | .keyboard params => params.eventType = EventType.DOWN
  | .keyboardSpecial params => params.ex_iskeydown
  | .relativePointer params => params.buttons ≠ ⟨0⟩
  | .scrollWheel _ => true

def push (params : Params) (autogenId : AutogenId) (output : Output) : Output :=
  let output := { output with queue_ := output.queue_ ++ [⟨.params params, autogenId⟩] }
  if clearsSticky params then output.onFlagStatus FlagStatus.stickyClear else output

/-- FireWait::fire. -/
def fireWait (milliseconds : UInt32) (autogenId : AutogenId) (output : Output) : Output :=
  { output with queue_ := output.queue_ ++ [⟨.wait milliseconds, autogenId⟩] }

section

variable (settings : Settings) (autogenId : AutogenId) (physicalEventType : PhysicalEventType)

/-- FireModifiers::fire. -/
def fireModifiers (toFlags : Flags) (keyboardType : KeyboardType) (output : Output) : Output :=
  let fired := FireModifiers.fire settings.pairs autogenId keyboardType output.flagStatus
    physicalEventType toFlags output.fireModifiers
  fired.2.foldl (fun output pushed => push pushed.params pushed.autogenId output)
    { output with fireModifiers := fired.1 }

/-- FireModifiers::fire with its default arguments. -/
def fireCurrentModifiers (output : Output) : Output :=
  fireModifiers settings autogenId physicalEventType output.makeFlags output.keyboardType output

def fireConsumer (params : KeyboardSpecialEventCallback) (output : Output) : Output :=
  if params.key = ConsumerKeyCode.VK_NONE ∨ params.key = ConsumerKeyCode.VK_PSEUDO_KEY then output
  else
    let output := if params.ex_iskeydown then output.setIgnorePhysicalUpEvent false else output
    let output := fireCurrentModifiers settings autogenId physicalEventType output
    push (.keyboardSpecial params) autogenId output

/-- A release comes before the modifiers, anything else behind them. -/
def fireRelativePointer (toButtons : Buttons) (dx dy : Int) (output : Output) : Output :=
  let isButtonReleased := !(output.lastButtons_.remove toButtons).isNONE
  let output := output.setIgnorePhysicalUpEvent false
  let output :=
    if isButtonReleased then output
    else fireCurrentModifiers settings autogenId physicalEventType output
  let output :=
    if output.lastButtons_ ≠ toButtons then
      push (.relativePointer ⟨toButtons, 0, 0, .NONE, false⟩) autogenId
        { output with lastButtons_ := toButtons }
    else output
  let output :=
    if dx ≠ 0 ∨ dy ≠ 0 then push (.relativePointer ⟨toButtons, dx, dy, .NONE, false⟩)
      autogenId output
    else output
  if isButtonReleased then fireCurrentModifiers settings autogenId physicalEventType output
  else output

/-- FireKey::fire where no virtual key is handled. -/
def fireOutputKey (params : KeyboardEventCallBack) (output : Output) : Output :=
  let normalized := KeyCode.reverseNormalizeKey settings.pairs params.key params.flags
    params.eventType output.fnkeyhack
  let output := { output with fnkeyhack := normalized.rows }
  let newkeycode := normalized.key
  let modifierFlag := settings.pairs.getModifierFlag newkeycode .KEYCODE
  if newkeycode = KeyCode.VK_NONE ∨ newkeycode = KeyCode.VK_PSEUDO_KEY then output
  else if modifierFlag ≠ ModifierFlag.ZERO ∧ modifierFlag.getRawBits = 0 then output
  else
    let isUp := params.eventType = EventType.UP
    let newflags := if isUp then output.fireModifiers.lastFlags_ else normalized.flags
    let output :=
      if isUp then output
      else
        fireModifiers settings autogenId physicalEventType newflags params.keyboardType
          (if params.ex_iskeydown then output.setIgnorePhysicalUpEvent false else output)
    if params.eventType = EventType.DOWN ∨ params.eventType = EventType.UP then
      let output := push (.keyboardEvent settings.pairs params.eventType newflags newkeycode
        params.keyboardType params.isRepeat) autogenId output
      if params.isRepeat then output
      else if params.eventType = EventType.DOWN then
        PressDownKeys.add newkeycode params.keyboardType output
      else PressDownKeys.remove newkeycode params.keyboardType output
    else output

end

end EventOutputQueue

end Karabiner
