import Karabiner.KeyToKey

set_option autoImplicit false

/- DependingPressingPeriodKeyToKey, to which HoldingKeyToKey and KeyOverlaidModifier pass their
events. What it does to other objects is reported in order. -/
namespace Karabiner

inductive PeriodMS.Mode where
  | NONE
  | HOLDING_KEY_TO_KEY
  | KEY_OVERLAID_MODIFIER
  | KEY_OVERLAID_MODIFIER_WITH_REPEAT
  deriving DecidableEq, Repr

inductive PeriodMS.Type where
  | SHORT_PERIOD
  | LONG_LONG_PERIOD
  | PRESSING_TARGET_KEY_ONLY
  deriving DecidableEq, Repr

structure PeriodMS where
  mode_ : PeriodMS.Mode := .NONE
  overwritten_value_ : PeriodMS.Mode → PeriodMS.Type → Int := fun _ _ => -1

/-- The parameters of Config that are periods. -/
structure PeriodConfig where
  holdingkeytokey_wait : UInt32
  keyoverlaidmodifier_initial_modifier_wait : UInt32
  keyoverlaidmodifier_initial_wait : UInt32
  keyoverlaidmodifier_timeout : UInt32
  deriving DecidableEq, Repr

namespace PeriodMS

def get (config : PeriodConfig) (periodMS : PeriodMS) (type : PeriodMS.Type) : UInt32 :=
  let overwritten := periodMS.overwritten_value_ periodMS.mode_ type
  if overwritten ≥ 0 then .ofNat overwritten.toNat
  else
    match periodMS.mode_, type with
    | .HOLDING_KEY_TO_KEY, .SHORT_PERIOD => config.holdingkeytokey_wait
    | .KEY_OVERLAID_MODIFIER, .SHORT_PERIOD => config.keyoverlaidmodifier_initial_modifier_wait
    | .KEY_OVERLAID_MODIFIER, .PRESSING_TARGET_KEY_ONLY => config.keyoverlaidmodifier_timeout
    | .KEY_OVERLAID_MODIFIER_WITH_REPEAT, .SHORT_PERIOD =>
        config.keyoverlaidmodifier_initial_modifier_wait
    | .KEY_OVERLAID_MODIFIER_WITH_REPEAT, .LONG_LONG_PERIOD =>
        config.keyoverlaidmodifier_initial_wait
    | .KEY_OVERLAID_MODIFIER_WITH_REPEAT, .PRESSING_TARGET_KEY_ONLY =>
        config.keyoverlaidmodifier_timeout
    | _, _ => 0

def enabled (periodMS : PeriodMS) (type : PeriodMS.Type) : Bool :=
  match periodMS.mode_, type with
  | .HOLDING_KEY_TO_KEY, .SHORT_PERIOD => true
  | .KEY_OVERLAID_MODIFIER, .SHORT_PERIOD => true
  | .KEY_OVERLAID_MODIFIER, .PRESSING_TARGET_KEY_ONLY => true
  | .KEY_OVERLAID_MODIFIER_WITH_REPEAT, _ => true
  | _, _ => false

end PeriodMS

def KeyToKey.isLastToEventModifierKeyOrLikeModifier (settings : Settings) (keyToKey : KeyToKey) :
    Bool :=
  match keyToKey.toKeys_.getLast? with
  | none => false
  | some lastToEvent => KeyToKey.isModifierOrLikeModifier settings lastToEvent

/-- KeyToKeyType, and beforeAfterKeys_. -/
inductive DependingPressingPeriodKeyToKey.Inner where
  | SHORT_PERIOD
  | LONG_PERIOD
  | LONG_LONG_PERIOD
  | PRESSING_TARGET_KEY_ONLY
  | beforeAfterKeys_
  deriving DecidableEq, Repr

/-- The members that are set when the item is loaded. -/
structure DependingPressingPeriodKeyToKey where
  fromEvent_ : FromEvent
  fromModifierFlags_ : List ModifierFlag := []
  keytokey_ : DependingPressingPeriodKeyToKey.Inner → KeyToKey
  periodMS_ : PeriodMS := {}
  interruptibleByScrollWheel_ : Bool := true

namespace DependingPressingPeriodKeyToKey

inductive PeriodType where
  | NONE
  | SHORT_PERIOD
  | LONG_PERIOD
  | LONG_LONG_PERIOD
  deriving DecidableEq, Repr

inductive Manipulation where
  | DECREASE
  | INCREASE
  deriving DecidableEq, Repr

/-- A call to another object. The FlagStatus that is saved is flagStatusWhenKeyPressed_, which a
ScopedSetter sets and unsets. -/
inductive Effect where
  | flagStatus (method : FlagStatus.Method) (selection : FlagStatus.Selection)
  | increaseButton (button : PointingButton)
  | decreaseButton (button : PointingButton)
  | call_remap (inner : Inner) (eventType : EventType) (physicalEventType : PhysicalEventType)
  | prepare (inner : Inner)
  | saveFlagStatus
  | setSaved
  | unsetSaved
  | setIgnorePhysicalUpEvent (newval : Bool)
  | observe
  | unobserve
  | beginInterval
  | cancelKeyboardRepeat

/-- The other members, with the statics: pressing is the number of entries of fromEvent_ in
PressingFromEvents, isTarget tells whether target_ is this, registered whether owner_ is among the
items that are prepared. -/
structure State where
  active_ : Bool := false
  periodtype_ : PeriodType := .NONE
  isFromModifierDecreased_ : Bool := false
  keyboardRepeatID_ : Int := 0
  lastPhysicalEventType_ : PhysicalEventType := .DOWN
  pressing : Nat := 0
  isTarget : Bool := false
  fire_timer_ : TimerWrapper := .idle
  registered : Bool := false

/-- What is read elsewhere. -/
structure Readings where
  config : PeriodConfig
  flagStatus : FlagStatus
  isAnyEventHappen : Bool
  milliseconds : UInt32
  keyboardRepeatID : Int

abbrev Act := Traced Effect State

def perform (effects : List Effect) (state : State) : Act := .emit effects state

section
variable (settings : Settings) (item : DependingPressingPeriodKeyToKey)

/-- addFromModifierFlags comes after setFromEvent. -/
def pureFromModifierFlags_ : List ModifierFlag :=
  item.fromModifierFlags_.filter (item.fromEvent_.getModifierFlag settings.pairs ≠ ·)

def manipulatePureFromModifierFlags (inner : Inner) (manipulation : Manipulation) (force : Bool)
    (state : State) : Act :=
  if manipulation = .DECREASE ∧ state.isFromModifierDecreased_ = true then pure state
  else if manipulation = .INCREASE ∧ state.isFromModifierDecreased_ = false then pure state
  else
    let needToManipulate : Bool :=
      if force then true
      else if (item.keytokey_ inner).isLastToEventModifierKeyOrLikeModifier settings then
        manipulation = .DECREASE
      else true
    if needToManipulate then
      match manipulation with
      | .DECREASE =>
          perform [.flagStatus .decrease (.list (item.pureFromModifierFlags_ settings))]
            { state with isFromModifierDecreased_ := true }
      | .INCREASE =>
          perform [.flagStatus .increase (.list (item.pureFromModifierFlags_ settings))]
            { state with isFromModifierDecreased_ := false }
    else pure state

/-- Calls of an inner KeyToKey without the pure from flags and under the saved FlagStatus. -/
def callWithSaved (inner : Inner) (calls : List Effect) (state : State) : Act := do
  let state ← manipulatePureFromModifierFlags settings item inner .DECREASE false state
  let state ← perform (.setSaved :: calls ++ [.unsetSaved]) state
  manipulatePureFromModifierFlags settings item inner .INCREASE false state

def callUp (inner : Inner) (state : State) : Act := do
  let state ← perform [.call_remap inner .UP state.lastPhysicalEventType_] state
  manipulatePureFromModifierFlags settings item inner .INCREASE false state

def dokeydown (physicalEventType : PhysicalEventType) (state : State) : Act :=
  if !state.active_ then pure state
  else
    let state := { state with active_ := false }
    let state :=
      if state.isTarget then { state with fire_timer_ := state.fire_timer_.cancelTimeout }
      else state
    match state.periodtype_ with
    | .NONE =>
        callWithSaved settings item .SHORT_PERIOD
          [.call_remap .SHORT_PERIOD .DOWN physicalEventType, .prepare .SHORT_PERIOD]
          { state with periodtype_ := .SHORT_PERIOD }
    | .SHORT_PERIOD | .LONG_PERIOD | .LONG_LONG_PERIOD => pure state

/-- Handle PRESSING_TARGET_KEY_ONLY. -/
def pressTargetKeyOnly (readings : Readings) (state : State) : Act :=
  if item.periodMS_.enabled .PRESSING_TARGET_KEY_ONLY ∧ readings.isAnyEventHappen = false ∧
      readings.milliseconds < item.periodMS_.get readings.config .PRESSING_TARGET_KEY_ONLY then
    callWithSaved settings item .PRESSING_TARGET_KEY_ONLY
      [.call_remap .PRESSING_TARGET_KEY_ONLY .DOWN state.lastPhysicalEventType_,
        .call_remap .PRESSING_TARGET_KEY_ONLY .UP state.lastPhysicalEventType_] state
  else pure state

def endPeriod (readings : Readings) (state : State) : Act :=
  match state.periodtype_ with
  | .SHORT_PERIOD => callUp settings item .SHORT_PERIOD { state with periodtype_ := .NONE }
  | .LONG_PERIOD => do
      let state ← callUp settings item .LONG_PERIOD { state with periodtype_ := .NONE }
      pressTargetKeyOnly settings item readings state
  | .LONG_LONG_PERIOD => callUp settings item .LONG_LONG_PERIOD { state with periodtype_ := .NONE }
  | .NONE => pure state

def dokeyup (readings : Readings) (state : State) : Act := do
  let state ← endPeriod settings item readings state
  perform [.unobserve] state

/-- The wait for LONG_LONG_PERIOD. -/
def awaitLongLong (readings : Readings) (state : State) : Act :=
  if item.periodMS_.enabled .LONG_LONG_PERIOD then
    perform [.cancelKeyboardRepeat]
      { state with
        keyboardRepeatID_ := readings.keyboardRepeatID
        fire_timer_ := state.fire_timer_.setTimeoutMS
          (item.periodMS_.get readings.config .LONG_LONG_PERIOD) true }
  else pure state

/-- The timer begins a period. -/
def startPeriod (inner : Inner) (period : PeriodType) (state : State) : Act :=
  callWithSaved settings item inner [.call_remap inner .DOWN state.lastPhysicalEventType_]
    { state with periodtype_ := period }

/-- Where target_ is this. -/
def fire_timer_callback (readings : Readings) (state : State) : Act :=
  match state.periodtype_ with
  | .NONE => do
      let state ← startPeriod settings item .LONG_PERIOD .LONG_PERIOD state
      let state ← perform [.observe, .beginInterval] state
      awaitLongLong item readings state
  | .LONG_PERIOD => do
      let isKeyboardRepeatCanceled := state.keyboardRepeatID_ ≠ readings.keyboardRepeatID
      let state ← callUp settings item .LONG_PERIOD state
      if isKeyboardRepeatCanceled then pure { state with periodtype_ := .NONE }
      else startPeriod settings item .LONG_LONG_PERIOD .LONG_LONG_PERIOD state
  | .SHORT_PERIOD | .LONG_LONG_PERIOD => pure state

def prepare (params : Params) (physicalEventType : PhysicalEventType) (state : State) : Act :=
  match params with
  | .scrollWheel _ =>
      if item.interruptibleByScrollWheel_ then dokeydown settings item physicalEventType state
      else pure state
  | params =>
      if params.iskeydown = some true then dokeydown settings item physicalEventType state
      else pure state

/-- FromEvent::changePressingState; nothing if the state does not change. -/
def changePressingState (flagStatus : FlagStatus) (params : Params) (state : State) :
    Option State :=
  match item.fromEvent_.targetIsDown params with
  | none => none
  | some true =>
      if flagStatus.isOn item.fromModifierFlags_ then
        some { state with pressing := state.pressing + 1 }
      else none
  | some false =>
      if state.pressing = 0 then none else some { state with pressing := state.pressing - 1 }

/-- The wait for LONG_PERIOD. -/
def awaitLong (readings : Readings) (state : State) : Act :=
  let ms := item.periodMS_.get readings.config .SHORT_PERIOD
  if ms = 0 then fire_timer_callback settings item readings state
  else pure { state with fire_timer_ := state.fire_timer_.setTimeoutMS ms true }

/-- A call of beforeAfterKeys_ without the pure from flags, and what comes behind it. -/
def callBeforeAfter (eventType : EventType) (physicalEventType : PhysicalEventType)
    (behind : List Effect) (state : State) : Act := do
  let state ← manipulatePureFromModifierFlags settings item .beforeAfterKeys_ .DECREASE true state
  let state ← perform (.call_remap .beforeAfterKeys_ eventType physicalEventType :: behind) state
  manipulatePureFromModifierFlags settings item .beforeAfterKeys_ .INCREASE true state

/-- What remap sets first where the key goes down. -/
def State.press (state : State) : State :=
  { state with isTarget := true, active_ := true, periodtype_ := .NONE }

/-- remap where the key goes down. -/
def remapDown (readings : Readings) (physicalEventType : PhysicalEventType) (state : State) :
    Act := do
  let state ← perform [.decreaseButton item.fromEvent_.getPointingButton,
    .flagStatus .decrease (.flag (item.fromEvent_.getModifierFlag settings.pairs))] state.press
  let state ← callBeforeAfter settings item .DOWN physicalEventType
    [.saveFlagStatus, .setIgnorePhysicalUpEvent true] state
  let state ← awaitLong settings item readings state
  return { state with registered := true }

def remapUp (readings : Readings) (physicalEventType : PhysicalEventType) (state : State) :
    Act := do
  let state ← perform [.increaseButton item.fromEvent_.getPointingButton,
    .flagStatus .increase (.flag (item.fromEvent_.getModifierFlag settings.pairs))] state
  let state ← dokeydown settings item physicalEventType state
  let state ← dokeyup settings item readings state
  let state ← callBeforeAfter settings item .UP physicalEventType [] state
  return { state with registered := false }

/-- The result, which isremapped becomes where it is true, comes second. -/
def remap (readings : Readings) (params : Params) (isremapped : Bool)
    (physicalEventType : PhysicalEventType) (state : State) : Traced Effect (State × Bool) :=
  match params.iskeydown with
  | none => pure (state, false)
  | some iskeydown =>
      if isremapped then pure (state, false)
      else
        match item.changePressingState readings.flagStatus params state with
        | none => pure (state, false)
        | some state => do
            let state := { state with lastPhysicalEventType_ := physicalEventType }
            let state ←
              if iskeydown then remapDown settings item readings physicalEventType state
              else remapUp settings item readings physicalEventType state
            return (state, true)

end

/-- What happens to the item: what RemapClassManager passes to it, its timer, an item of the same
class that becomes the target and does something to the timer, and resetInternalStateIfNeeded. -/
inductive Step where
  | prepare (params : Params) (physicalEventType : PhysicalEventType)
  | remap (readings : Readings) (params : Params) (isremapped : Bool)
      (physicalEventType : PhysicalEventType)
  | timer (readings : Readings)
  | otherTarget (fire_timer_ : TimerWrapper)
  | reset

/-- The state with the calls so far, and with those since the last reset. -/
structure Tracked where
  state : State := {}
  effects : List Effect := []
  sinceReset : List Effect := []

def Tracked.add (tracked : Tracked) (act : Act) : Tracked :=
  ⟨act.value, tracked.effects ++ act.events, tracked.sinceReset ++ act.events⟩

section
variable (settings : Settings) (item : DependingPressingPeriodKeyToKey)

/-- TimerWrapper::callback_ clears the timer first. -/
def timerCallback (readings : Readings) (state : State) : Act :=
  if state.fire_timer_.active then
    let state := { state with fire_timer_ := { state.fire_timer_ with active := false } }
    if state.isTarget then fire_timer_callback settings item readings state else pure state
  else pure state

def step (tracked : Tracked) : Step → Tracked
  | .prepare params physicalEventType =>
      if tracked.state.registered then
        tracked.add (prepare settings item params physicalEventType tracked.state)
      else tracked
  | .remap readings params isremapped physicalEventType =>
      tracked.add (Prod.fst <$>
        remap settings item readings params isremapped physicalEventType tracked.state)
  | .timer readings => tracked.add (timerCallback settings item readings tracked.state)
  | .otherTarget fire_timer_ =>
      { tracked with state := { tracked.state with isTarget := false, fire_timer_ } }
  | .reset =>
      { tracked with state := { tracked.state with pressing := 0 }, sinceReset := [] }

end

end DependingPressingPeriodKeyToKey

end Karabiner
