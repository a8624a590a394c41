import Karabiner.ComposedKeyToKeys
import Karabiner.FireScrollWheel

set_option autoImplicit false

/- What Core does with an event from the queue: the items that registered prepare for it, then the
items are offered it, and if none takes it, it is sent as it is. ActiveItems, the filters and the
configurations that are enabled decide which items are offered an event, and so they are a
parameter. PointingRelativeToScroll::cancelScroll is not part of this model. -/
namespace Karabiner

/-- The objects of a configuration, and their members, are at addresses of their own. -/
structure Remappings where
  list : List RemapFuncItem
  distinct : (list.flatMap RemapFuncItem.addresses).Nodup

namespace Remappings

theorem distinct_keyToKeys (items : Remappings) :
    ((items.list.flatMap RemapFuncItem.keyToKeys).map (·.address)).Nodup := by
  have inside : List.Sublist ((items.list.flatMap RemapFuncItem.keyToKeys).map (·.address))
      (items.list.flatMap RemapFuncItem.addresses) := by
    rw [List.map_flatMap]
    generalize items.list = list
    induction list with
    | nil => exact List.Sublist.refl []
    | cons item rest ih =>
        rw [List.flatMap_cons, List.flatMap_cons]
        exact (RemapFuncItem.map_address_sublist item).append ih
  exact inside.nodup items.distinct

def keyToKeys (items : Remappings) : KeyToKeys where
  list := items.list.flatMap RemapFuncItem.keyToKeys
  distinct := items.distinct_keyToKeys

end Remappings

open RemapFuncItem (State Arriving Result)

namespace RemapClassManager

variable (settings : Settings)

/-- One round of the loop of prepare. An object that does not exist any more is passed over. -/
def prepareItem (items : Remappings) (arriving : Arriving) (result : Result) (address : Nat) :
    Result :=
  match items.list.find? (·.address = address) with
  | some item => item.prepare settings arriving result
  | none =>
      match items.keyToKeys.list.find? (·.address = address) with
      | some keyToKey => (result.1.onKext (keyToKey.prepare settings arriving.params), result.2)
      | none => result

/-- No prepare registers an object, and so the loop sees those that are registered before. -/
def prepare (items : Remappings) (arriving : Arriving) (state : State) : Result :=
  let state := state.onKext
    (·.onSending (·.onOutput fun output => { output with needToDrop_ := false }))
  let result :=
    state.kext.prepareTargetItems_.foldl (prepareItem settings items arriving) (state, false)
  (result.1, result.2 || result.1.kext.output.needToDrop_)

def remap (config : ComposedConfig) {items : Remappings}
    (offered : List { item // item ∈ items.list }) (arriving : Arriving) (result : Result) :
    Result :=
  offered.foldl (fun result item => item.1.remap settings config arriving result) result

end RemapClassManager

/-- An event that comes from the queue. The keys of a keyboard are no keys of VK_MOUSEKEY. -/
structure Arrival (items : Remappings) where
  params : Params
  now : Nat
  offered : List { item // item ∈ items.list }
  physical : ∀ key ∈ params.keyboardKey, key ∉ VirtualKey.VK_MOUSEKEY.buttonKeys

namespace Core

variable (settings : Settings) (config : ComposedConfig) {items : Remappings}

/-- An event that is not remapped has its type of physical event, and no autogen. -/
def sendKey (params : KeyboardEventCallBack) (physicalEventType : PhysicalEventType)
    (sending : Sending) : Sending :=
  let flags := sending.output.makeFlags
  let params : KeyboardEventCallBack :=
    { params with
      flags
      isRepeat := false
      ex_iskeydown := params.eventType.isKeyDownOrModifierDown settings.pairs params.key flags }
  let sending := sending.onRepeat (KeyboardRepeat.set settings.pairs params AutogenId.maxValue
    settings.repeat_initial_wait settings.repeat_wait)
  sending.onOutput
    (EventOutputQueue.fireKey settings ⟨params, AutogenId.maxValue, physicalEventType⟩)

def sendConsumer (params : KeyboardSpecialEventCallback) (physicalEventType : PhysicalEventType)
    (sending : Sending) : Sending :=
  let params := ToEvent.consumerParams params.eventType sending.output.makeFlags params.key
  let sending := sending.onRepeat (KeyboardRepeat.setConsumer params AutogenId.maxValue
    settings.repeat_consumer_initial_wait config.repeat_consumer_wait)
  sending.onOutput
    (EventOutputQueue.fireConsumer settings AutogenId.maxValue physicalEventType params)

def sendPointer (params : RelativePointerEventCallback) (physicalEventType : PhysicalEventType)
    (sending : Sending) : Sending :=
  sending.onOutput (EventOutputQueue.fireRelativePointer settings AutogenId.maxValue
    physicalEventType sending.output.makeButtons params.dx params.dy)

def sendScrollWheel (params : ScrollWheelEventCallback) (physicalEventType : PhysicalEventType)
    (sending : Sending) : Sending :=
  sending.onOutput
    (EventOutputQueue.FireScrollWheel.fire settings AutogenId.maxValue physicalEventType params)

/-- The end of the callbacks. -/
def sendUnlessRemapped (send : Sending → Sending) (result : Result) : State :=
  if result.2 then result.1 else result.1.onKext (·.onSending send)

def remap_KeyboardEventCallback (params : KeyboardEventCallBack) (now : Nat)
    (offered : List { item // item ∈ items.list }) (state : State) : State :=
  let physicalEventType := if params.ex_iskeydown then PhysicalEventType.DOWN else .UP
  let arriving : Arriving := ⟨.keyboard params, physicalEventType, now⟩
  let result := RemapClassManager.prepare settings items arriving state
  let result := (result.1.onKext (·.onSending
    (·.onFlagStatus (·.setKey settings.pairs params.key params.flags))), result.2)
  let result := RemapClassManager.remap settings config offered arriving result
  sendUnlessRemapped (sendKey settings params physicalEventType) result

def remap_KeyboardSpecialEventCallback (params : KeyboardSpecialEventCallback) (now : Nat)
    (offered : List { item // item ∈ items.list }) (state : State) : State :=
  let physicalEventType := if params.ex_iskeydown then PhysicalEventType.DOWN else .UP
  let arriving : Arriving := ⟨.keyboardSpecial params, physicalEventType, now⟩
  let result := RemapClassManager.prepare settings items arriving state
  let result := RemapClassManager.remap settings config offered arriving result
  sendUnlessRemapped (sendConsumer settings config params physicalEventType) result

def remap_RelativePointerEventCallback (params : RelativePointerEventCallback) (now : Nat)
    (offered : List { item // item ∈ items.list }) (state : State) : State :=
  let state := state.onKext
    (·.onSending (·.onButtonStatus (·.set params.ex_button params.ex_isbuttondown)))
  let physicalEventType :=
    if params.ex_button ≠ PointingButton.NONE ∧ params.ex_isbuttondown then
      PhysicalEventType.DOWN
    else .UP
  let arriving : Arriving := ⟨.relativePointer params, physicalEventType, now⟩
  let result := RemapClassManager.prepare settings items arriving state
  let result := RemapClassManager.remap settings config offered arriving result
  sendUnlessRemapped (sendPointer settings params physicalEventType) result

def remap_ScrollWheelEventCallback (params : ScrollWheelEventCallback) (now : Nat)
    (offered : List { item // item ∈ items.list }) (state : State) : State :=
  let arriving : Arriving := ⟨.scrollWheel params, .DOWN, now⟩
  let result := RemapClassManager.prepare settings items arriving state
  let result := RemapClassManager.remap settings config offered arriving result
  sendUnlessRemapped (sendScrollWheel settings params .DOWN) result

def deliver (arrival : Arrival items) : State → State :=
  match arrival.params with
  | .keyboard params =>
      remap_KeyboardEventCallback settings config params arrival.now arrival.offered
  | .keyboardSpecial params =>
      remap_KeyboardSpecialEventCallback settings config params arrival.now arrival.offered
  | .relativePointer params =>
      remap_RelativePointerEventCallback settings config params arrival.now arrival.offered
  | .scrollWheel params =>
      remap_ScrollWheelEventCallback settings config params arrival.now arrival.offered

end Core

end Karabiner
