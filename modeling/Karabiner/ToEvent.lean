import Karabiner.VirtualKey

set_option autoImplicit false

/- ToEvent and KeyboardRepeat, without the callback that repeats the queued events. -/
namespace Karabiner

/-- KeyboardRepeat. -/
structure KeyboardRepeat where
  queue_ : List Params := []
  fire_timer_ : TimerWrapper := .idle
  id_ : Nat := 0
  keyRepeat_ : Int := 0
  autogenId_ : AutogenId := 0
  deriving DecidableEq, Repr

namespace KeyboardRepeat

def MAX_KEYBOARDREPEATID : Nat := 10000

def succID (keyboardRepeat : KeyboardRepeat) : KeyboardRepeat :=
  let id_ := keyboardRepeat.id_ + 1
  { keyboardRepeat with id_ := if id_ > MAX_KEYBOARDREPEATID then 0 else id_ }

def cancel (keyboardRepeat : KeyboardRepeat) : KeyboardRepeat :=
  { keyboardRepeat with
    fire_timer_ := keyboardRepeat.fire_timer_.cancelTimeout, queue_ := [] }.succID

def pushBack (params : Params) (keyboardRepeat : KeyboardRepeat) : KeyboardRepeat :=
  { keyboardRepeat with queue_ := keyboardRepeat.queue_ ++ [params] }

/-- The overload of primitive_add for a key. -/
def primitive_add (pairs : Pairs) (params : KeyboardEventCallBack)
    (keyboardRepeat : KeyboardRepeat) : KeyboardRepeat :=
  if params.key = KeyCode.VK_NONE then keyboardRepeat
  else keyboardRepeat.pushBack
    (.keyboardEvent pairs params.eventType params.flags params.key params.keyboardType true)

def primitive_addConsumer (params : KeyboardSpecialEventCallback)
    (keyboardRepeat : KeyboardRepeat) : KeyboardRepeat :=
  if params.key = ConsumerKeyCode.VK_NONE then keyboardRepeat
  else keyboardRepeat.pushBack
    (.keyboardSpecialEvent params.eventType params.flags params.key true)

def primitive_addButtons (buttons : Buttons) (keyboardRepeat : KeyboardRepeat) : KeyboardRepeat :=
  keyboardRepeat.pushBack (.relativePointer ⟨buttons, 0, 0, .NONE, false⟩)

def primitive_start (autogenId : AutogenId) (delayUntilRepeat keyRepeat : Int)
    (keyboardRepeat : KeyboardRepeat) : KeyboardRepeat :=
  { keyboardRepeat with
    keyRepeat_ := keyRepeat
    autogenId_ := autogenId
    fire_timer_ :=
      keyboardRepeat.fire_timer_.setTimeoutMS (UInt32.ofInt delayUntilRepeat) true }.succID

/-- The overload of set for a key. -/
def set (pairs : Pairs) (params : KeyboardEventCallBack) (autogenId : AutogenId)
    (delayUntilRepeat keyRepeat : Int) (keyboardRepeat : KeyboardRepeat) : KeyboardRepeat :=
  if params.key = KeyCode.VK_NONE then keyboardRepeat
  else if params.eventType = EventType.MODIFY then keyboardRepeat.cancel
  else if params.eventType = EventType.UP then
    -- Only the key that repeats alone is stopped by its release.
    match keyboardRepeat.queue_ with
    | [.keyboard front] => if params.key = front.key then keyboardRepeat.cancel else keyboardRepeat
    | _ => keyboardRepeat
  else if params.eventType = EventType.DOWN then
    (keyboardRepeat.cancel.primitive_add pairs params).primitive_start autogenId delayUntilRepeat
      keyRepeat
  else keyboardRepeat.cancel

def setConsumer (params : KeyboardSpecialEventCallback) (autogenId : AutogenId)
    (delayUntilRepeat keyRepeat : Int) (keyboardRepeat : KeyboardRepeat) : KeyboardRepeat :=
  if params.key = ConsumerKeyCode.VK_NONE then keyboardRepeat
  else if params.eventType = EventType.DOWN ∧ params.key.isRepeatable then
    (keyboardRepeat.cancel.primitive_addConsumer params).primitive_start autogenId
      delayUntilRepeat keyRepeat
  else keyboardRepeat.cancel

end KeyboardRepeat

/-- What an event that is sent can change. -/
structure Sending where
  output : Output
  keyboardRepeat : KeyboardRepeat := {}

namespace Sending

def onOutput (change : Output → Output) (sending : Sending) : Sending :=
  { sending with output := change sending.output }

def onRepeat (change : KeyboardRepeat → KeyboardRepeat) (sending : Sending) : Sending :=
  { sending with keyboardRepeat := change sending.keyboardRepeat }

end Sending

inductive ToEvent.Type where
  | NONE
  | KEY (key_ : KeyCode)
  | CONSUMER_KEY (consumer_ : ConsumerKeyCode)
  | POINTING_BUTTON (button_ : PointingButton)
  deriving DecidableEq, Repr

structure ToEvent where
  type_ : ToEvent.Type
  modifierFlags_ : List ModifierFlag := []
  deriving DecidableEq, Repr

namespace ToEvent

def addModifierFlag (flag : ModifierFlag) (event : ToEvent) : ToEvent :=
  { event with modifierFlags_ := event.modifierFlags_ ++ [flag] }

/-- operator== with the parameters of an event. -/
def isEvent (event : ToEvent) : Params → Bool
  | .keyboard params => event.type_ = .KEY params.key
  | .keyboardSpecial params => event.type_ = .CONSUMER_KEY params.key
  | .relativePointer params => event.type_ = .POINTING_BUTTON params.ex_button
  | .scrollWheel _ => false

/-- operator== with a key. -/
def isKey (event : ToEvent) (key : KeyCode) : Bool := event.type_ = .KEY key

section

variable (settings : Settings)

def getModifierFlag (event : ToEvent) : ModifierFlag :=
  match event.type_ with
  | .KEY key => settings.pairs.getModifierFlag key .KEYCODE
  | _ => .ZERO

def isEventLikeModifier (event : ToEvent) : Bool :=
  match event.type_ with
  | .NONE => false
  | .KEY key => VirtualKey.isKeyLikeModifier settings key
  | .CONSUMER_KEY _ => false
  | .POINTING_BUTTON _ => true

/-- The constructor of Params_KeyboardEventCallBack, as the two functions below call it. -/
def keyboardParams (eventType : EventType) (flags : Flags) (key : KeyCode) (sending : Sending) :
    KeyboardEventCallBack where
  eventType := eventType
  flags := flags
  key := key
  keyboardType := sending.output.keyboardType
  isRepeat := false
  ex_iskeydown := eventType.isKeyDownOrModifierDown settings.pairs key flags

def consumerParams (eventType : EventType) (flags : Flags) (key : ConsumerKeyCode) :
    KeyboardSpecialEventCallback where
  eventType := eventType
  flags := flags
  key := key
  isRepeat := false
  ex_iskeydown := eventType = EventType.DOWN

variable (autogenId : AutogenId) (physicalEventType : PhysicalEventType)

/-- What both functions do with a button. -/
def fireButton (isDown : Bool) (button : PointingButton) (output : Output) : Output :=
  let change := if isDown then ButtonStatus.increase else ButtonStatus.decrease
  let output := output.onButtonStatus (change (.ofButton button))
  EventOutputQueue.fireRelativePointer settings autogenId physicalEventType output.makeButtons 0 0
    output

def fire (eventType : EventType) (flags : Flags) (add_to_keyrepeat : Bool)
    (delayUntilRepeat keyRepeat : Int) (event : ToEvent) (sending : Sending) : Sending :=
  match event.type_ with
  | .NONE => sending
  | .KEY key =>
      let params := keyboardParams settings eventType flags key sending
      let sending := sending.onOutput
        (EventOutputQueue.fireKey settings ⟨params, autogenId, physicalEventType⟩)
      if add_to_keyrepeat then
        sending.onRepeat
          (KeyboardRepeat.set settings.pairs params autogenId delayUntilRepeat keyRepeat)
      else sending
  | .CONSUMER_KEY key =>
      let params := consumerParams eventType flags key
      let sending := sending.onOutput
        (EventOutputQueue.fireConsumer settings autogenId physicalEventType params)
      if add_to_keyrepeat then
        sending.onRepeat (KeyboardRepeat.setConsumer params autogenId delayUntilRepeat keyRepeat)
      else sending
  | .POINTING_BUTTON button =>
      sending.onOutput
        (fireButton settings autogenId physicalEventType (eventType = EventType.DOWN) button)

/-- CALL_FIREKEY_FIRE. -/
def callFireKey (add_to_keyrepeat : Bool) (eventType : EventType) (flags : Flags) (key : KeyCode)
    (sending : Sending) : Sending :=
  let params := keyboardParams settings eventType flags key sending
  let sending := sending.onOutput
    (EventOutputQueue.fireKey settings ⟨params, autogenId, physicalEventType⟩)
  if add_to_keyrepeat then sending.onRepeat (KeyboardRepeat.primitive_add settings.pairs params)
  else sending

/-- CALL_FIRECONSUMER_FIRE. -/
def callFireConsumer (add_to_keyrepeat : Bool) (eventType : EventType) (flags : Flags)
    (key : ConsumerKeyCode) (sending : Sending) : Sending :=
  let params := consumerParams eventType flags key
  let sending := sending.onOutput
    (EventOutputQueue.fireConsumer settings autogenId physicalEventType params)
  if add_to_keyrepeat then sending.onRepeat (KeyboardRepeat.primitive_addConsumer params)
  else sending

def callFireButton (add_to_keyrepeat isDown : Bool) (button : PointingButton)
    (sending : Sending) : Sending :=
  let sending := sending.onOutput
    (fireButton settings autogenId physicalEventType isDown button)
  if add_to_keyrepeat then
    sending.onRepeat (KeyboardRepeat.primitive_addButtons sending.output.makeButtons)
  else sending

/-- A modifier is counted while it is down, other keys have the same flags down and up. -/
def fire_downup (add_to_keyrepeat : Bool) (event : ToEvent) (sending : Sending) : Sending :=
  match event.type_ with
  | .NONE => sending
  | .KEY key =>
      let f := settings.pairs.getModifierFlag key .KEYCODE
      let call := callFireKey settings autogenId physicalEventType add_to_keyrepeat
      if f ≠ ModifierFlag.ZERO then
        let sending := sending.onOutput (·.onFlagStatus (·.increase (.flag f)))
        let sending := call .MODIFY sending.output.makeFlags key sending
        let sending := sending.onOutput (·.onFlagStatus (·.decrease (.flag f)))
        call .MODIFY sending.output.makeFlags key sending
      else
        let flags := sending.output.makeFlags
        call .UP flags key (call .DOWN flags key sending)
  | .CONSUMER_KEY key =>
      let flags := sending.output.makeFlags
      let call := callFireConsumer settings autogenId physicalEventType add_to_keyrepeat
      call .UP flags key (call .DOWN flags key sending)
  | .POINTING_BUTTON button =>
      let call := callFireButton settings autogenId physicalEventType add_to_keyrepeat
      call false button (call true button sending)

end

end ToEvent

end Karabiner
