import Karabiner.KeyCode

set_option autoImplicit false

/- The parameters of an input event, and FromEvent, which names the key, the
consumer key or the button that an event is about. -/
namespace Karabiner

structure EventType where
  value : Nat
  deriving DecidableEq, Repr

namespace EventType

def DOWN : EventType := ⟨10⟩
def UP : EventType := ⟨11⟩
def MODIFY : EventType := ⟨12⟩

def isKeyDownOrModifierDown (pairs : Pairs) (eventType : EventType) (key : KeyCode)
    (flags : Flags) : Bool :=
  if eventType = DOWN then true
  else if eventType = MODIFY then flags.isOn (pairs.getModifierFlag key .KEYCODE)
  else false

end EventType

structure KeyboardType where
  value : Nat
  deriving DecidableEq, Repr

structure ConsumerKeyCode where
  value : Nat
  deriving DecidableEq, Repr

structure PointingButton where
  value : BitVec 32
  deriving DecidableEq, Repr

def PointingButton.NONE : PointingButton := ⟨0⟩

structure Buttons where
  value : BitVec 32
  deriving DecidableEq, Repr

structure KeyboardEventCallBack where
  eventType : EventType
  flags : Flags
  key : KeyCode
  keyboardType : KeyboardType
  isRepeat : Bool
  ex_iskeydown : Bool
  deriving DecidableEq, Repr

structure KeyboardSpecialEventCallback where
  eventType : EventType
  flags : Flags
  key : ConsumerKeyCode
  isRepeat : Bool
  ex_iskeydown : Bool
  deriving DecidableEq, Repr

structure RelativePointerEventCallback where
  buttons : Buttons
  dx : Int
  dy : Int
  ex_button : PointingButton
  ex_isbuttondown : Bool
  deriving DecidableEq, Repr

structure ScrollWheelEventCallback where
  deltaAxis1 : Int
  deltaAxis2 : Int
  deltaAxis3 : Int
  fixedDelta1 : Int
  fixedDelta2 : Int
  fixedDelta3 : Int
  pointDelta1 : Int
  pointDelta2 : Int
  pointDelta3 : Int
  options : Int
  deriving DecidableEq, Repr

inductive Params where
  | keyboard (params : KeyboardEventCallBack)
  | keyboardSpecial (params : KeyboardSpecialEventCallback)
  | relativePointer (params : RelativePointerEventCallback)
  | scrollWheel (params : ScrollWheelEventCallback)
  deriving DecidableEq, Repr

namespace Params

/-- The constructors compute ex_iskeydown once, from the type of the event. -/
def keyboardEvent (pairs : Pairs) (eventType : EventType) (flags : Flags) (key : KeyCode)
    (keyboardType : KeyboardType) (isRepeat : Bool) : Params :=
  .keyboard
    { eventType, flags, key, keyboardType, isRepeat
      ex_iskeydown := eventType.isKeyDownOrModifierDown pairs key flags }

def keyboardSpecialEvent (eventType : EventType) (flags : Flags) (key : ConsumerKeyCode)
    (isRepeat : Bool) : Params :=
  .keyboardSpecial
    { eventType, flags, key, isRepeat, ex_iskeydown := eventType = EventType.DOWN }

/-- Only down and up events have an answer. -/
def iskeydown : Params → Option Bool
  | .keyboard params => some params.ex_iskeydown
  | .keyboardSpecial params => some params.ex_iskeydown
  | .relativePointer params =>
      if params.ex_button = PointingButton.NONE then none else some params.ex_isbuttondown
  | .scrollWheel _ => none

def isRepeat : Params → Bool
  | .keyboard params => params.isRepeat
  | .keyboardSpecial params => params.isRepeat
  | _ => false

/-- The key of a keyboard event. -/
def keyboardKey : Params → Option KeyCode
  | .keyboard params => some params.key
  | _ => none

end Params

inductive FromEvent where
  | NONE
  | KEY (key : KeyCode)
  | CONSUMER_KEY (consumer : ConsumerKeyCode)
  | POINTING_BUTTON (button : PointingButton)
  deriving DecidableEq, Repr

namespace FromEvent

def ofParams : Params → FromEvent
  | .keyboard params => .KEY params.key
  | .keyboardSpecial params => .CONSUMER_KEY params.key
  | .relativePointer params => .POINTING_BUTTON params.ex_button
  | .scrollWheel _ => .NONE

/-- The private isTargetEvent: nothing for another event, else whether it is down. -/
def targetIsDown : FromEvent → Params → Option Bool
  | .KEY key, .keyboard params => if params.key ≠ key then none else some params.ex_iskeydown
  | .CONSUMER_KEY consumer, .keyboardSpecial params =>
      if params.key ≠ consumer then none else some params.ex_iskeydown
  | .POINTING_BUTTON button, .relativePointer params =>
      if params.ex_button ≠ button then none else some params.ex_isbuttondown
  | _, _ => none

def isTargetEvent (fromEvent : FromEvent) (params : Params) : Bool :=
  (fromEvent.targetIsDown params).isSome

def isTargetDownEvent (fromEvent : FromEvent) (params : Params) : Bool :=
  fromEvent.targetIsDown params == some true

def isTargetUpEvent (fromEvent : FromEvent) (params : Params) : Bool :=
  fromEvent.targetIsDown params == some false

/-- A down or up event is a target of its own FromEvent and of no other. -/
theorem targetIsDown_of_iskeydown {params : Params} {isDown : Bool}
    (known : params.iskeydown = some isDown) (fromEvent : FromEvent) :
    fromEvent.targetIsDown params = if fromEvent = ofParams params then some isDown else none := by
  cases params with
  | keyboard params =>
      have same : params.ex_iskeydown = isDown := by simpa [Params.iskeydown] using known
      cases fromEvent with
      | KEY key => by_cases equal : key = params.key <;> grind [targetIsDown, ofParams]
      | NONE | CONSUMER_KEY | POINTING_BUTTON => simp [targetIsDown, ofParams]
  | keyboardSpecial params =>
      have same : params.ex_iskeydown = isDown := by simpa [Params.iskeydown] using known
      cases fromEvent with
      | CONSUMER_KEY key => by_cases equal : key = params.key <;> grind [targetIsDown, ofParams]
      | NONE | KEY | POINTING_BUTTON => simp [targetIsDown, ofParams]
  | relativePointer params =>
      have same : params.ex_isbuttondown = isDown := by
        by_cases none : params.ex_button = PointingButton.NONE
        · simp [Params.iskeydown, none] at known
        · simpa [Params.iskeydown, none] using known
      cases fromEvent with
      | POINTING_BUTTON button =>
          by_cases equal : button = params.ex_button <;> grind [targetIsDown, ofParams]
      | NONE | KEY | CONSUMER_KEY => simp [targetIsDown, ofParams]
  | scrollWheel params => simp [Params.iskeydown] at known

theorem isTargetEvent_iff {params : Params} {isDown : Bool}
    (known : params.iskeydown = some isDown) (fromEvent : FromEvent) :
    fromEvent.isTargetEvent params = true ↔ fromEvent = ofParams params := by
  rw [isTargetEvent, targetIsDown_of_iskeydown known]
  by_cases same : fromEvent = ofParams params <;> simp [same]

end FromEvent

end Karabiner
