import Karabiner.ToEvent
import Karabiner.FilterVector

set_option autoImplicit false

/- RemapFunc::KeyToKey. The address stands for the object and for its FromEvent. What remap and
prepare change of an object, as well as the static members, is part of the state. -/
namespace Karabiner

namespace Option

def NOREPEAT : Nat := 7
def KEYTOKEY_BEFORE_KEYDOWN : Nat := 8
def KEYTOKEY_AFTER_KEYUP : Nat := 9
def KEYTOKEY_DELAYED_ACTION : Nat := 10
def KEYTOKEY_DELAYED_ACTION_CANCELED_BY : Nat := 11
def KEYTOKEY_DELAYED_ACTION_CANCELED_DEFAULT : Nat := 12
def KEYTOKEY_INCREASE_MODIFIER_FLAGS : Nat := 13

end Option

inductive KeyToKey.CurrentToEvent where
  | TO_KEYS
  | BEFORE_KEYS
  | AFTER_KEYS
  | DELAYED_ACTION_KEYS
  | DELAYED_ACTION_CANCELED_DEFAULT_KEYS
  | DELAYED_ACTION_CANCELED_BY_KEYS
  | INCREASE_MODIFIER_FLAGS
  deriving DecidableEq, Repr

structure KeyToKey where
  address : Nat
  autogenId_ : AutogenId
  index_ : Nat := 0
  currentToEvent_ : KeyToKey.CurrentToEvent := .TO_KEYS
  fromEvent_ : FromEvent := .NONE
  fromModifierFlags_ : List ModifierFlag := []
  pureFromModifierFlags_ : List ModifierFlag := []
  toKeys_ : List ToEvent := []
  beforeKeys_ : List ToEvent := []
  afterKeys_ : List (List ToEvent) := []
  delayedActionKeys_ : List ToEvent := []
  delayedActionCanceledDefaultKeys_ : List ToEvent := []
  delayedActionCanceledByKeys_ : List (List ToEvent) := []
  increaseModifierFlags_ : List ToEvent := []
  isRepeatEnabled_ : Bool := true
  delayUntilRepeat_ : Int := -1
  keyRepeat_ : Int := -1
  deriving DecidableEq, Repr

/-- What an event can change while it is remapped by KeyToKey. -/
structure Kext extends Sending where
  pressingFromEvents : List Nat := []
  fire_timer_ : TimerWrapper := .idle
  target_ : Option KeyToKey := none
  flagStatusForDelayedActionKeys_ : FlagStatus
  prepareTargetItems_ : List Nat := []
  lastPhysicalEventType_ : Nat → PhysicalEventType := fun _ => .DOWN
  keyboardRepeatID_ : Nat → Int := fun _ => -1

def FromEvent.getModifierFlag (pairs : Pairs) : FromEvent → ModifierFlag
  | .KEY key => pairs.getModifierFlag key .KEYCODE
  | _ => .ZERO

def FromEvent.getPointingButton : FromEvent → PointingButton
  | .POINTING_BUTTON button => button
  | _ => .NONE

namespace Sending

def flagStatus (sending : Sending) : FlagStatus := sending.output.flagStatus

def onFlagStatus (change : FlagStatus → FlagStatus) : Sending → Sending :=
  onOutput (Output.onFlagStatus change)

/-- A call of one of the methods of FlagStatus::globalFlagStatus(). -/
def callFlagStatus (method : FlagStatus.Method) (selection : FlagStatus.Selection) :
    Sending → Sending :=
  onFlagStatus (FlagStatus.call method selection)

def onButtonStatus (change : ButtonStatus → ButtonStatus) : Sending → Sending :=
  onOutput (Output.onButtonStatus change)

end Sending

namespace Kext

def onSending (change : Sending → Sending) (kext : Kext) : Kext :=
  { kext with toSending := change kext.toSending }

def unregisterPrepareTargetItem (address : Nat) (kext : Kext) : Kext :=
  { kext with prepareTargetItems_ := kext.prepareTargetItems_.filter (· ≠ address) }

def registerPrepareTargetItem (address : Nat) (kext : Kext) : Kext :=
  let kext := kext.unregisterPrepareTargetItem address
  { kext with prepareTargetItems_ := kext.prepareTargetItems_ ++ [address] }

end Kext

namespace KeyToKey

def onCurrentToEvent (change : List ToEvent → List ToEvent) (keyToKey : KeyToKey) : KeyToKey :=
  match keyToKey.currentToEvent_ with
  | .TO_KEYS => { keyToKey with toKeys_ := change keyToKey.toKeys_ }
  | .BEFORE_KEYS => { keyToKey with beforeKeys_ := change keyToKey.beforeKeys_ }
  | .AFTER_KEYS => { keyToKey with afterKeys_ := keyToKey.afterKeys_.modifyLast change }
  | .DELAYED_ACTION_KEYS =>
      { keyToKey with delayedActionKeys_ := change keyToKey.delayedActionKeys_ }
  | .DELAYED_ACTION_CANCELED_DEFAULT_KEYS =>
      { keyToKey with
        delayedActionCanceledDefaultKeys_ := change keyToKey.delayedActionCanceledDefaultKeys_ }
  | .DELAYED_ACTION_CANCELED_BY_KEYS =>
      { keyToKey with
        delayedActionCanceledByKeys_ := keyToKey.delayedActionCanceledByKeys_.modifyLast change }
  | .INCREASE_MODIFIER_FLAGS =>
      { keyToKey with increaseModifierFlags_ := change keyToKey.increaseModifierFlags_ }

def addOption (option : Nat) (keyToKey : KeyToKey) : KeyToKey :=
  if option = Option.NOREPEAT then { keyToKey with isRepeatEnabled_ := false }
  else if option = Option.KEYTOKEY_BEFORE_KEYDOWN then
    { keyToKey with currentToEvent_ := .BEFORE_KEYS }
  else if option = Option.KEYTOKEY_AFTER_KEYUP then
    { keyToKey with
      afterKeys_ := keyToKey.afterKeys_ ++ [[⟨.KEY .VK_NONE, []⟩]]
      currentToEvent_ := .AFTER_KEYS }
  else if option = Option.KEYTOKEY_DELAYED_ACTION then
    { keyToKey with currentToEvent_ := .DELAYED_ACTION_KEYS }
  else if option = Option.KEYTOKEY_DELAYED_ACTION_CANCELED_DEFAULT then
    { keyToKey with currentToEvent_ := .DELAYED_ACTION_CANCELED_DEFAULT_KEYS }
  else if option = Option.KEYTOKEY_DELAYED_ACTION_CANCELED_BY then
    { keyToKey with
      delayedActionCanceledByKeys_ := keyToKey.delayedActionCanceledByKeys_ ++ [[]]
      currentToEvent_ := .DELAYED_ACTION_CANCELED_BY_KEYS }
  else if option = Option.KEYTOKEY_INCREASE_MODIFIER_FLAGS then
    { keyToKey with
      increaseModifierFlags_ := keyToKey.increaseModifierFlags_ ++ [⟨.KEY .VK_NONE, []⟩]
      currentToEvent_ := .INCREASE_MODIFIER_FLAGS }
  else keyToKey

/-- The events of the three data types that the constructors of FromEvent and ToEvent know. -/
def fromEventOf (datatype newval : Nat) : FromEvent :=
  if datatype = Bridge.DATATYPE_KEYCODE then .KEY ⟨newval⟩
  else if datatype = Bridge.DATATYPE_CONSUMERKEYCODE then .CONSUMER_KEY ⟨newval⟩
  else .POINTING_BUTTON ⟨.ofNat 32 newval⟩

def toEventOf (datatype newval : Nat) : ToEvent.Type :=
  if datatype = Bridge.DATATYPE_KEYCODE then .KEY ⟨newval⟩
  else if datatype = Bridge.DATATYPE_CONSUMERKEYCODE then .CONSUMER_KEY ⟨newval⟩
  else .POINTING_BUTTON ⟨.ofNat 32 newval⟩

def addEvent (datatype newval : Nat) (keyToKey : KeyToKey) : KeyToKey :=
  let keyToKey :=
    if keyToKey.index_ = 0 then { keyToKey with fromEvent_ := fromEventOf datatype newval }
    else keyToKey.onCurrentToEvent (· ++ [⟨toEventOf datatype newval, []⟩])
  { keyToKey with index_ := keyToKey.index_ + 1 }

def addModifierFlag (pairs : Pairs) (flag : ModifierFlag) (keyToKey : KeyToKey) : KeyToKey :=
  match keyToKey.index_ with
  | 0 => keyToKey
  | 1 =>
      { keyToKey with
        fromModifierFlags_ := keyToKey.fromModifierFlags_ ++ [flag]
        pureFromModifierFlags_ :=
          if keyToKey.fromEvent_.getModifierFlag pairs ≠ flag then
            keyToKey.pureFromModifierFlags_ ++ [flag]
          else keyToKey.pureFromModifierFlags_ }
  | _ => keyToKey.onCurrentToEvent (·.modifyLast (ToEvent.addModifierFlag flag))

/-- The members are int, the value that is added is unsigned. -/
def milliseconds (newval : Nat) : Int := VirtualKey.VK_MOUSEKEY.toInt (max newval 1)

def add (pairs : Pairs) (datatype newval : Nat) (keyToKey : KeyToKey) : KeyToKey :=
  if datatype ∈ [Bridge.DATATYPE_KEYCODE, Bridge.DATATYPE_CONSUMERKEYCODE,
      Bridge.DATATYPE_POINTINGBUTTON] then
    keyToKey.addEvent datatype newval
  else if datatype = Bridge.DATATYPE_MODIFIERFLAG then keyToKey.addModifierFlag pairs ⟨newval⟩
  else if datatype = Bridge.DATATYPE_MODIFIERFLAGS_END then keyToKey.addModifierFlag pairs .ZERO
  else if datatype = Bridge.DATATYPE_OPTION then keyToKey.addOption newval
  else if datatype = Bridge.DATATYPE_DELAYUNTILREPEAT then
    { keyToKey with delayUntilRepeat_ := milliseconds newval }
  else if datatype = Bridge.DATATYPE_KEYREPEAT then
    { keyToKey with keyRepeat_ := milliseconds newval }
  else keyToKey

/-- FromEvent::changePressingState; nothing if the state does not change. -/
def changePressingState (keyToKey : KeyToKey) (params : Params) (kext : Kext) : Option Kext :=
  match keyToKey.fromEvent_.targetIsDown params with
  | none => none
  | some true =>
      if kext.flagStatus.isOn keyToKey.fromModifierFlags_ then
        some { kext with pressingFromEvents := kext.pressingFromEvents ++ [keyToKey.address] }
      else none
  | some false =>
      if keyToKey.address ∈ kext.pressingFromEvents then
        some { kext with pressingFromEvents := kext.pressingFromEvents.erase keyToKey.address }
      else none

section

variable (settings : Settings) (keyToKey : KeyToKey)

/-- The first part of remap behind changePressingState. -/
def handleModifiers (iskeydown : Bool) (sending : Sending) : Sending :=
  let fromFlag := keyToKey.fromEvent_.getModifierFlag settings.pairs
  let fromButton := Buttons.ofButton keyToKey.fromEvent_.getPointingButton
  let increased := keyToKey.increaseModifierFlags_.getLast?.map (·.modifierFlags_)
  if iskeydown then
    let sending := sending.callFlagStatus .decrease (.flag fromFlag)
    let sending := sending.onButtonStatus (ButtonStatus.decrease fromButton)
    match increased with
    | some flags => sending.callFlagStatus .increase (.list flags)
    | none => sending
  else
    let sending := sending.callFlagStatus .increase (.flag fromFlag)
    let sending := sending.onButtonStatus (ButtonStatus.increase fromButton)
    match increased with
    | some flags => sending.callFlagStatus .decrease (.list flags)
    | none => sending

def hasDelayedAction : Bool :=
  !keyToKey.delayedActionKeys_.isEmpty || !keyToKey.delayedActionCanceledDefaultKeys_.isEmpty ||
    !keyToKey.delayedActionCanceledByKeys_.isEmpty

/-- Handle delayedActionKeys_. -/
def startDelayedAction (kext : Kext) : Kext :=
  if keyToKey.hasDelayedAction then
    Kext.registerPrepareTargetItem keyToKey.address
      { kext with
        target_ := some keyToKey
        fire_timer_ := kext.fire_timer_.setTimeoutMS
          (UInt32.ofInt settings.keytokey_delayed_action_timeout) true
        flagStatusForDelayedActionKeys_ :=
          kext.flagStatus.decrease (.list keyToKey.pureFromModifierFlags_) }
  else kext

/-- fire_downup, with the modifiers of the event for as long. -/
def fireWithFlags (physicalEventType : PhysicalEventType) (add_to_keyrepeat : Bool)
    (sending : Sending) (event : ToEvent) : Sending :=
  let sending := sending.callFlagStatus .temporaryIncrease (.list event.modifierFlags_)
  let sending := event.fire_downup settings keyToKey.autogenId_ physicalEventType add_to_keyrepeat
    sending
  sending.callFlagStatus .temporaryDecrease (.list event.modifierFlags_)

/-- Handle beforeKeys_. -/
def fireBeforeKeys (physicalEventType : PhysicalEventType) (sending : Sending) : Sending :=
  let sending :=
    sending.callFlagStatus .temporaryDecrease (.list keyToKey.pureFromModifierFlags_)
  let sending :=
    keyToKey.beforeKeys_.foldl (fireWithFlags settings keyToKey physicalEventType false) sending
  sending.callFlagStatus .temporaryIncrease (.list keyToKey.pureFromModifierFlags_)

def isConsumer (event : ToEvent) : Bool :=
  match event.type_ with
  | .CONSUMER_KEY _ => true
  | _ => false

def getDelayUntilRepeat : Int :=
  if keyToKey.delayUntilRepeat_ ≥ 0 then keyToKey.delayUntilRepeat_
  else if keyToKey.toKeys_.all isConsumer then settings.repeat_consumer_initial_wait
  else settings.repeat_initial_wait

/-- Both branches of the search for a key other than a consumer key are the same. -/
def getKeyRepeat : Int :=
  if keyToKey.keyRepeat_ ≥ 0 then keyToKey.keyRepeat_ else settings.repeat_wait

/-- What the last key is pressed and released with if it is a modifier or is like one. -/
def modifierDown (toKey : ToEvent) (sending : Sending) : Sending :=
  let sending := sending.callFlagStatus .increase
    (.flagAnd (toKey.getModifierFlag settings) toKey.modifierFlags_)
  sending.callFlagStatus .decrease (.list keyToKey.pureFromModifierFlags_)

def modifierUp (toKey : ToEvent) (sending : Sending) : Sending :=
  let sending := sending.callFlagStatus .decrease
    (.flagAnd (toKey.getModifierFlag settings) toKey.modifierFlags_)
  let sending := sending.callFlagStatus .increase (.list keyToKey.pureFromModifierFlags_)
  sending.callFlagStatus .temporaryDecrease (.list keyToKey.pureFromModifierFlags_)

def isModifierOrLikeModifier (toKey : ToEvent) : Bool :=
  toKey.getModifierFlag settings ≠ ModifierFlag.ZERO || toKey.isEventLikeModifier settings

/-- Handle toKeys_, where there is one. -/
def fireToKey (iskeydown : Bool) (physicalEventType : PhysicalEventType) (toKey : ToEvent)
    (sending : Sending) : Sending :=
  let add_to_keyrepeat := !(iskeydown && !keyToKey.isRepeatEnabled_)
  let newEventType :=
    if toKey.getModifierFlag settings ≠ ModifierFlag.ZERO then EventType.MODIFY
    else if iskeydown then EventType.DOWN
    else EventType.UP
  let sending :=
    if !isModifierOrLikeModifier settings toKey then
      (sending.callFlagStatus .temporaryDecrease (.list keyToKey.pureFromModifierFlags_))
        |>.callFlagStatus .temporaryIncrease (.list toKey.modifierFlags_)
    else if iskeydown then modifierDown settings keyToKey toKey sending
    else
      (modifierUp settings keyToKey toKey sending)
        |>.callFlagStatus .temporaryIncrease (.list toKey.modifierFlags_)
  let sending := toKey.fire settings keyToKey.autogenId_ physicalEventType newEventType
    sending.output.makeFlags add_to_keyrepeat (keyToKey.getDelayUntilRepeat settings)
    (keyToKey.getKeyRepeat settings) sending
  if !add_to_keyrepeat then sending.onRepeat KeyboardRepeat.cancel else sending

/-- The last key of several, where it is a modifier or is like one. -/
def fireLastModifier (iskeydown : Bool) (physicalEventType : PhysicalEventType)
    (lastToEvent : ToEvent) (sending : Sending) : Sending :=
  if lastToEvent.isEventLikeModifier settings then
    lastToEvent.fire settings keyToKey.autogenId_ physicalEventType
      (if iskeydown then .DOWN else .UP) sending.output.makeFlags false 0 0 sending
  else
    sending.onOutput
      (EventOutputQueue.fireCurrentModifiers settings keyToKey.autogenId_ physicalEventType)

/-- Handle toKeys_, where there are several. -/
def fireToKeys (iskeydown : Bool) (physicalEventType : PhysicalEventType) (toKeys : List ToEvent)
    (lastToEvent : ToEvent) (kext : Kext) : Kext :=
  let isModifier := isModifierOrLikeModifier settings lastToEvent
  if iskeydown then
    let kext := kext.onSending (·.onRepeat KeyboardRepeat.cancel)
    let kext := kext.onSending
      (·.callFlagStatus .temporaryDecrease (.list keyToKey.pureFromModifierFlags_))
    let fired := if isModifier then toKeys.dropLast else toKeys
    let kext := kext.onSending fun sending =>
      fired.foldl (fireWithFlags settings keyToKey physicalEventType true) sending
    if isModifier then
      kext.onSending fun sending =>
        let sending :=
          sending.callFlagStatus .temporaryIncrease (.list keyToKey.pureFromModifierFlags_)
        let sending := modifierDown settings keyToKey lastToEvent sending
        let sending :=
          fireLastModifier settings keyToKey iskeydown physicalEventType lastToEvent sending
        sending.onRepeat KeyboardRepeat.cancel
    else if keyToKey.isRepeatEnabled_ then
      let kext := kext.onSending (·.onRepeat (KeyboardRepeat.primitive_start keyToKey.autogenId_
        (keyToKey.getDelayUntilRepeat settings) (keyToKey.getKeyRepeat settings)))
      { kext with keyboardRepeatID_ :=
          Function.update kext.keyboardRepeatID_ keyToKey.address kext.keyboardRepeat.id_ }
    else
      { kext with keyboardRepeatID_ :=
          Function.update kext.keyboardRepeatID_ keyToKey.address (-1) }
  else if isModifier then
    kext.onSending fun sending =>
      fireLastModifier settings keyToKey iskeydown physicalEventType lastToEvent
        (modifierUp settings keyToKey lastToEvent sending)
  else if kext.keyboardRepeat.id_ = kext.keyboardRepeatID_ keyToKey.address then
    kext.onSending (·.onRepeat KeyboardRepeat.cancel)
  else kext

/-- Handle afterKeys_. Only the first ones of which the modifiers are on are sent. -/
def fireAfterKeys (physicalEventType : PhysicalEventType) : List (List ToEvent) →
    Sending → Sending
  | [], sending => sending
  | toEvents :: afterKeys, sending =>
      let sending := sending.onFlagStatus FlagStatus.set
      match toEvents with
      | [] => fireAfterKeys physicalEventType afterKeys sending
      | condition :: toEvents =>
          if !sending.flagStatus.isOn condition.modifierFlags_ then
            fireAfterKeys physicalEventType afterKeys sending
          else
            let sending :=
              sending.callFlagStatus .temporaryDecrease (.list condition.modifierFlags_)
            let sending :=
              sending.callFlagStatus .temporaryDecrease (.list keyToKey.pureFromModifierFlags_)
            let sending :=
              toEvents.foldl (fireWithFlags settings keyToKey physicalEventType false) sending
            let sending :=
              sending.callFlagStatus .temporaryIncrease (.list keyToKey.pureFromModifierFlags_)
            sending.callFlagStatus .temporaryIncrease (.list condition.modifierFlags_)

/-- remap once the event is accepted. -/
def remapAccepted (iskeydown : Bool) (physicalEventType : PhysicalEventType) (kext : Kext) :
    Kext :=
  let kext :=
    { kext with lastPhysicalEventType_ :=
        Function.update kext.lastPhysicalEventType_ keyToKey.address physicalEventType }
  let kext := kext.onSending (handleModifiers settings keyToKey iskeydown)
  let kext :=
    if iskeydown then
      (startDelayedAction settings keyToKey kext).onSending
        (fireBeforeKeys settings keyToKey physicalEventType)
    else kext
  let kext :=
    match keyToKey.toKeys_ with
    | [] => kext
    | [toKey] =>
        kext.onSending (fireToKey settings keyToKey iskeydown physicalEventType toKey)
    | first :: second :: rest =>
        fireToKeys settings keyToKey iskeydown physicalEventType (first :: second :: rest)
          (rest.getLastD second) kext
  if iskeydown then kext
  else kext.onSending (fireAfterKeys settings keyToKey physicalEventType keyToKey.afterKeys_)

/-- Nothing where remap returns false; otherwise it sets isremapped. -/
def remap (params : Params) (physicalEventType : PhysicalEventType) (isremapped : Bool)
    (kext : Kext) : Option Kext :=
  if isremapped then none
  else
    match params.iskeydown with
    | none => none
    | some iskeydown =>
        (keyToKey.changePressingState params kext).map
          (remapAccepted settings keyToKey iskeydown physicalEventType)

/-- The body of the loop of doDelayedAction. -/
def fireDelayedKey (physicalEventType : PhysicalEventType) (sending : Sending) (key : ToEvent) :
    Sending :=
  let sending :=
    if key.isKey .VK_KEYTOKEY_DELAYED_ACTION_DROP_EVENT then
      sending.onOutput fun output => { output with needToDrop_ := true }
    else sending
  fireWithFlags settings keyToKey physicalEventType false sending key

def doDelayedAction (keys : List ToEvent) (delayedActionCanceledBy : Bool) (kext : Kext) : Kext :=
  match keys with
  | [] => kext
  | first :: rest =>
      let (scopedSetter, status) :=
        FlagStatus.ScopedSetter.construct kext.flagStatus kext.flagStatusForDelayedActionKeys_
      let fired := if delayedActionCanceledBy then rest else first :: rest
      kext.onSending fun sending =>
        let sending := sending.onFlagStatus fun _ => status
        let sending :=
          if delayedActionCanceledBy then
            sending.callFlagStatus .temporaryDecrease (.list first.modifierFlags_)
          else sending
        let sending := fired.foldl
          (fireDelayedKey settings keyToKey (kext.lastPhysicalEventType_ keyToKey.address)) sending
        let sending :=
          if delayedActionCanceledBy then
            sending.callFlagStatus .temporaryIncrease (.list first.modifierFlags_)
          else sending
        sending.onFlagStatus scopedSetter.destruct

/-- The keys of doDelayedAction in prepare, and whether the first is the key that canceled. -/
def canceledKeys (params : Params) (status : FlagStatus) : List ToEvent × Bool :=
  match keyToKey.delayedActionCanceledByKeys_.find? fun keys =>
      keys.head?.any fun key => key.isEvent params && status.isOn key.modifierFlags_ with
  | some keys => (keys, true)
  | none =>
      if keyToKey.delayedActionCanceledDefaultKeys_.isEmpty then
        (keyToKey.delayedActionKeys_, false)
      else (keyToKey.delayedActionCanceledDefaultKeys_, false)

def prepare (params : Params) (kext : Kext) : Kext :=
  if params.iskeydown ≠ some true then kext
  else
    let kext := kext.unregisterPrepareTargetItem keyToKey.address
    if !kext.fire_timer_.active then kext
    else
      let kext := { kext with fire_timer_ := kext.fire_timer_.cancelTimeout }
      let kext := kext.onSending (·.onFlagStatus FlagStatus.set)
      let canceled := keyToKey.canceledKeys params kext.flagStatus
      doDelayedAction settings keyToKey canceled.1 canceled.2 kext

/-- The callback of TimerWrapper ends the timer before it calls this one. -/
def fire_timer_callback (kext : Kext) : Kext :=
  let kext := { kext with fire_timer_ := kext.fire_timer_.cancelTimeout }
  match kext.target_ with
  | none => kext
  | some target => doDelayedAction settings target target.delayedActionKeys_ false kext

end

end KeyToKey

end Karabiner
