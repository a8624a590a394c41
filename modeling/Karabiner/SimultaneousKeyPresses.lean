import Karabiner.EventInputQueue
import Karabiner.RemapClass

set_option autoImplicit false

/- SimultaneousKeyPresses on EventInputQueue::queue_, with ActiveFromInfos and the loop of
fire_timer_callback. The log records what happens to the items of the queue. -/
namespace Karabiner

open Remapping (ItemId RemapSimultaneousKeyPressesResult)

abbrev QueueItem := EventInputQueue.Item

structure SimultaneousKeyPresses where
  virtualkey : KeyCode
  fromInfo : List FromEvent
  fromModifierFlags : List ModifierFlag
  isToRaw : Bool
  isPostFromEventsAsRaw : Bool
  isStrictKeyOrder : Bool
  toKeyRaw : KeyCode
  deriving DecidableEq, Repr

namespace SimultaneousKeyPresses

/-- The item of ActiveFromInfos. The FromInfo is the one with the index of the item. -/
structure ActiveFromInfo where
  item : ItemId
  index : Nat
  device : Nat
  frontDeviceIdentifier : DeviceIdentifier
  frontDevice : Nat
  eventInputQueueSerialNumber : Nat
  deriving DecidableEq, Repr

/-- applied: the key-downs that a combination takes from queue_ and the key-down it pushes.
released: a key-up that it takes, and the key-up that it pushes then. -/
inductive Entry where
  | applied (item : ItemId) (serialNumber : Nat) (members : List QueueItem)
      (pushed : Option QueueItem)
  | released (item : ItemId) (serialNumber : Nat) (up : QueueItem) (pushed : Option QueueItem)
  | fired (item : QueueItem)
  deriving DecidableEq, Repr

/-- environment is what FlagStatus and the filters depend on. -/
structure World (Environment : Type*) where
  input : EventInputQueue.State
  activeFromInfos : List ActiveFromInfo
  serialNumber : Nat
  currentKeyboardType : KeyboardType
  now : Nat
  environment : Environment
  log : List Entry

variable {Environment : Type*}

namespace World

/-- erase_expired, on some list of active from-keys. -/
def eraseExpired (world : World Environment) (infos : List ActiveFromInfo) :
    List ActiveFromInfo :=
  infos.filter fun info => world.input.devices.any (·.id = info.device)

def enqueueFront (world : World Environment) (item : QueueItem) : World Environment :=
  { world with input := world.input.enqueue item false }

end World

section
variable (pairs : Pairs) (config : SimultaneousKeyPresses) (id : ItemId)

def pushedKey : KeyCode := if config.isToRaw then config.toKeyRaw else config.virtualkey

/-- The event of push_remapped, if it pushes one. -/
def remappedItem (isKeyDown : Bool) (deviceIdentifier : DeviceIdentifier) (device : Nat)
    (world : World Environment) : Option QueueItem :=
  let key := config.pushedKey
  if key = KeyCode.VK_NONE then none
  else
    let flags : Flags :=
      if isKeyDown then Flags.add ⟨0⟩ (pairs.getModifierFlag key .KEYCODE) else ⟨0⟩
    some
      { params := .keyboardEvent pairs (if isKeyDown then .DOWN else .UP) flags key
          world.currentKeyboardType false
        retainFlagStatusTemporaryCount := false
        deviceIdentifier
        device
        ic := ⟨world.now⟩
        isSimultaneousKeyPressesTarget := false
        enqueuedFrom := .HARDWARE }

def pushRemapped (isKeyDown : Bool) (deviceIdentifier : DeviceIdentifier) (device : Nat)
    (world : World Environment) : World Environment :=
  match remappedItem pairs config isKeyDown deviceIdentifier device world with
  | none => world
  | some item => world.enqueueFront item

/-- The first from-key that is active on the device of the key-up. -/
def activeForUp (front : QueueItem) (infos : List ActiveFromInfo) : Option ActiveFromInfo :=
  config.fromInfo.zipIdx.findSome? fun (fromEvent, index) =>
    if fromEvent.isTargetUpEvent front.params then
      infos.find? fun info => info.item = id ∧ info.index = index ∧ info.device = front.device
    else none

/-- The key-up of an active from-key is taken from queue_. -/
def handleKeyUp (front : QueueItem) (rest : List QueueItem) (active : ActiveFromInfo)
    (world : World Environment) : RemapSimultaneousKeyPressesResult × World Environment :=
  let queue :=
    if config.isPostFromEventsAsRaw then
      { front with isSimultaneousKeyPressesTarget := false } :: rest
    else rest
  let infos := (world.eraseExpired world.activeFromInfos).eraseP fun info =>
    info.item = id ∧ info.index = active.index ∧ info.device = front.device
  let world :=
    { world with input := { world.input with queue_ := queue }, activeFromInfos := infos }
  let serialNumber := active.eventInputQueueSerialNumber
  if config.fromInfo.zipIdx.any fun (_, index) => infos.any fun info =>
      info.item = id ∧ info.index = index ∧ info.eventInputQueueSerialNumber = serialNumber then
    (.QUEUE_CHANGED,
      { world with log := world.log ++ [.released id serialNumber front none] })
  else
    let pushed := remappedItem pairs config false active.frontDeviceIdentifier
      active.frontDevice world
    (.APPLIED,
      { pushRemapped pairs config false active.frontDeviceIdentifier active.frontDevice world with
        log := world.log ++ [.released id serialNumber front pushed] })

/-- downKeys_: the place in queue_ and the item, for each from-key. -/
abbrev DownKeys := List (Option (Nat × QueueItem))

/-- A key-up of a from-key ends the scan. -/
def markDownKey (downKeys : DownKeys) (place : Nat) (item : QueueItem) : Option DownKeys :=
  match config.fromInfo.zipIdx.findSome? fun (fromEvent, index) =>
      (fromEvent.targetIsDown item.params).map fun isDown => (isDown, index) with
  | none => some downKeys
  | some (true, index) => some (downKeys.set index (some (place, item)))
  | some (false, _) => none

def isOrderBroken (downKeys : DownKeys) : Bool := (downKeys.dropWhile (·.isSome)).any (·.isSome)

/-- The scan of the items of queue_ from a place on. -/
def scan : DownKeys → Nat → List QueueItem → Option (List (Nat × QueueItem))
  | _, _, [] => none
  | downKeys, place, item :: rest =>
      if !item.isSimultaneousKeyPressesTarget then scan downKeys (place + 1) rest
      else
        match config.markDownKey downKeys place item with
        | none => none
        | some downKeys =>
            if config.isStrictKeyOrder && isOrderBroken downKeys then none
            else if downKeys.all (·.isSome) then some (downKeys.filterMap fun downKey => downKey)
            else scan downKeys (place + 1) rest

/-- The key-downs of a combination, if queue_ begins with one of them and has all. -/
def completeDownKeys (queue : List QueueItem) : Option (List (Nat × QueueItem)) :=
  match queue with
  | [] => none
  | front :: _ =>
      if config.fromInfo.any (·.isTargetDownEvent front.params) then
        config.scan (List.replicate config.fromInfo.length none) 0 queue
      else none

def removePlaces (queue : List QueueItem) (places : List Nat) : List QueueItem :=
  (queue.zipIdx.filter fun (_, place) => place ∉ places).map Prod.fst

/-- From the last from-key to the first. -/
def activateAll (front : QueueItem) (taken : List (Nat × QueueItem)) (world : World Environment) :
    List ActiveFromInfo :=
  taken.zipIdx.foldr
    (fun ((_, item), index) infos =>
      world.eraseExpired infos ++
        [{ item := id, index, device := item.device
           frontDeviceIdentifier := front.deviceIdentifier
           frontDevice := front.device
           eventInputQueueSerialNumber := world.serialNumber }])
    world.activeFromInfos

/-- The from events as they are posted in front, with the device of the first item. -/
def postFromEvents (front : QueueItem) (taken : List (Nat × QueueItem))
    (world : World Environment) : World Environment :=
  if config.isPostFromEventsAsRaw then
    taken.foldr
      (fun (_, item) world => world.enqueueFront
        { item with
          retainFlagStatusTemporaryCount := false
          deviceIdentifier := front.deviceIdentifier
          device := front.device
          ic := ⟨world.now⟩
          isSimultaneousKeyPressesTarget := false
          enqueuedFrom := .HARDWARE })
      world
  else world

/-- The key-downs of a combination are taken from queue_. -/
def handleKeyDown (front : QueueItem) (taken : List (Nat × QueueItem))
    (world : World Environment) : RemapSimultaneousKeyPressesResult × World Environment :=
  let infos := activateAll id front taken world
  let world :=
    { world with
      input :=
        { world.input with queue_ := removePlaces world.input.queue_ (taken.map Prod.fst) }
      activeFromInfos := infos }
  let world := postFromEvents config front taken world
  let pushed := remappedItem pairs config true front.deviceIdentifier front.device world
  (.APPLIED,
    { pushRemapped pairs config true front.deviceIdentifier front.device world with
      log := world.log ++ [.applied id world.serialNumber (taken.map Prod.snd) pushed] })

variable (isOn : Environment → List ModifierFlag → Bool)

def remapSimultaneousKeyPresses (world : World Environment) :
    RemapSimultaneousKeyPressesResult × World Environment :=
  match world.input.queue_ with
  | [] => (.NOT_CHANGED, world)
  | front :: rest =>
      if !front.isSimultaneousKeyPressesTarget then (.NOT_CHANGED, world)
      else
        match activeForUp config id front world.activeFromInfos with
        | some active => handleKeyUp pairs config id front rest active world
        | none =>
            if !isOn world.environment config.fromModifierFlags then (.NOT_CHANGED, world)
            else
              match config.completeDownKeys world.input.queue_ with
              | none => (.NOT_CHANGED, world)
              | some taken => handleKeyDown pairs config id front taken world

/-- The processor of the item with the id. Its remap does not touch queue_. -/
def processor : Remapping.RemapFuncBase (World Environment) where
  type := Bridge.REMAPTYPE_SIMULTANEOUSKEYPRESSES
  remapSimultaneousKeyPresses := remapSimultaneousKeyPresses pairs config id isOn

end

/-- An item of a RemapClass. -/
structure Configured (Environment : Type*) where
  config : SimultaneousKeyPresses
  filters : List (Remapping.RemapFilterBase (World Environment))

abbrev State (Environment : Type*) := Remapping.State (World Environment)

inductive Step (Environment : Type*) where
  | arrive (arrival : EventInputQueue.Arrival)
  | fireTimer (environments : Nat → Environment) (now : Nat)
      (allowDevicesMultipleSameKey : Bool)

section
variable (pairs : Pairs) (isOn : Environment → List ModifierFlag → Bool)
  (configs : List (List (Configured Environment)))

def remapclasses : List (Remapping.RemapClass (World Environment)) :=
  configs.mapIdx fun i items =>
    ⟨items.mapIdx fun j item =>
      ⟨some (processor pairs item.config (i, j) isOn), item.filters⟩⟩

/-- FlagStatus and the device of the front item may change what the items find. -/
def beginPass (environment : Environment) (front : QueueItem) (state : State Environment) :
    State Environment :=
  { state with
    world :=
      { state.world with
        environment
        currentKeyboardType :=
          match front.params with
          | .keyboard params => params.keyboardType
          | _ => state.world.currentKeyboardType } }

/-- The loop of fire_timer_callback. Each round that changes queue_ takes a target of it. -/
def handleSimultaneousKeyPresses (environments : Nat → Environment) :
    Nat → State Environment → State Environment
  | 0, state => state
  | fuel + 1, state =>
      match state.world.input.queue_ with
      | [] => state
      | front :: _ =>
          let pass := (beginPass (environments fuel) front state).remapSimultaneousKeyPresses
            (remapclasses pairs isOn configs) (front.params.iskeydown.getD true)
          if pass.1 then handleSimultaneousKeyPresses environments fuel pass.2 else pass.2

/-- The rest of fire_timer_callback. A reset clears both lists of active items. -/
def fireFrontItem (allowDevicesMultipleSameKey : Bool) (state : State Environment) :
    State Environment :=
  match state.world.input.queue_ with
  | [] => state
  | _ :: _ =>
      let before := state.world.input
      let input := before.fireFrontItem
        { items := [], isPassThroughEnabled := false, allowDevicesMultipleSameKey }
      let world :=
        { state.world with
          input
          serialNumber := state.world.serialNumber + 1
          log := state.world.log ++ (input.fired.drop before.fired.length).map .fired }
      if input.resets ≠ before.resets then
        { state with world := { world with activeFromInfos := [] }, activeItems := [] }
      else { state with world }

def step (state : State Environment) : Step Environment → State Environment
  | .arrive arrival =>
      { state with
        world := { state.world with input := state.world.input.enqueue arrival.item true } }
  | .fireTimer environments now allowDevicesMultipleSameKey =>
      let state := { state with world := { state.world with now } }
      fireFrontItem allowDevicesMultipleSameKey
        (handleSimultaneousKeyPresses pairs isOn configs environments
          (state.world.input.queue_.length + 1) state)

def start (devices : List HookedDevice) (environment : Environment) : State Environment where
  enabled := fun _ => true
  enabledRemapclasses := List.range configs.length
  activeItems := []
  world :=
    { input := .start devices, activeFromInfos := [], serialNumber := 1
      currentKeyboardType := ⟨0⟩, now := 0, environment, log := [] }
  isremapped := false
  calls := []
  accepted := []

end

end SimultaneousKeyPresses

end Karabiner
