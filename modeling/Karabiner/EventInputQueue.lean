import Karabiner.Params
import Karabiner.Transition
import Mathlib.Algebra.GroupWithZero.Nat

set_option autoImplicit false

/- EventInputQueue with BlockUntilKeyUpHandler, and the lists of pressed keys that the hooked
devices keep. The timers are not modelled: a timer may fire before any step. -/
namespace Karabiner

structure DeviceIdentifier where
  vendor : Nat
  product : Nat
  locationId : Nat
  deriving DecidableEq, Repr

/-- A hooked device with its PressingPhysicalKeys. -/
structure HookedDevice where
  id : Nat
  pressingPhysicalKeys : List FromEvent
  deriving DecidableEq, Repr

namespace PressingPhysicalKeys

/-- Where a device may have the same key several times, an up takes one of its entries. -/
def update (allowDevicesMultipleSameKey : Bool) (params : Params) (list : List FromEvent) :
    List FromEvent :=
  match params.iskeydown with
  | none => list
  | some isDown =>
      if params.keyboardKey = some KeyCode.CAPSLOCK then list
      else if isDown then list ++ [.ofParams params]
      else if allowDevicesMultipleSameKey then list.eraseP (·.isTargetEvent params)
      else list.filter (!·.isTargetEvent params)

end PressingPhysicalKeys

def HookedDevice.updatePressingPhysicalKeys (device : HookedDevice)
    (allowDevicesMultipleSameKey : Bool) (params : Params) : HookedDevice :=
  { device with
    pressingPhysicalKeys := PressingPhysicalKeys.update allowDevicesMultipleSameKey params
      device.pressingPhysicalKeys }

/-- When begin was called, in microseconds. -/
structure IntervalChecker where
  begun : Nat
  deriving DecidableEq, Repr

/-- The seconds and the rest are subtracted apart, and the division goes towards zero. A product
that is too large for an int is taken to wrap. -/
def IntervalChecker.getmillisec (checker : IntervalChecker) (now : Nat) : UInt32 :=
  let secs (time : Nat) : Int := (time / 1000000 : Nat)
  let microsecs (time : Nat) : Int := (time % 1000000 : Nat)
  .ofInt ((secs now - secs checker.begun) * 1000 +
    (microsecs now - microsecs checker.begun).tdiv 1000)

/-- The milliseconds are rounded down or up. -/
theorem IntervalChecker.getmillisec_near {checker : IntervalChecker} {now : Nat}
    (begun : checker.begun ≤ now) (recent : now < checker.begun + 2147483000000) :
    now < checker.begun + ((checker.getmillisec now).toNat + 1) * 1000 ∧
      checker.begun + (checker.getmillisec now).toNat * 1000 < now + 1000 := by
  obtain ⟨b⟩ := checker
  dsimp only at begun recent ⊢
  have microsecs : (((now % 1000000 : Nat) : Int) - (b % 1000000 : Nat)).tdiv 1000 =
      if b % 1000000 ≤ now % 1000000 then ((now % 1000000 - b % 1000000) / 1000 : Int)
      else -((b % 1000000 - now % 1000000) / 1000 : Int) := by
    split
    · rw [Int.tdiv_eq_ediv_of_nonneg (by omega)]
      omega
    · rw [← Int.tdiv_eq_ediv_of_nonneg (by omega), ← Int.neg_tdiv, Int.neg_sub]
      simp only [Int.natCast_emod]
      rfl
  have exact' : ∃ millis : Nat, millis < 2 ^ 32 ∧ getmillisec ⟨b⟩ now = .ofInt millis ∧
      now < b + (millis + 1) * 1000 ∧ b + millis * 1000 < now + 1000 := by
    refine ⟨(((now / 1000000 : Nat) - (b / 1000000 : Nat) : Int) * 1000 +
      (((now % 1000000 : Nat) : Int) - (b % 1000000 : Nat)).tdiv 1000).toNat, ?_, ?_, ?_, ?_⟩
    · rw [microsecs]
      split <;> omega
    · rw [getmillisec, Int.toNat_of_nonneg]
      rw [microsecs]
      split <;> omega
    · rw [microsecs]
      split <;> omega
    · rw [microsecs]
      split <;> omega
  obtain ⟨millis, small, same, below, above⟩ := exact'
  have value : (getmillisec ⟨b⟩ now).toNat = millis := by
    rw [same, UInt32.ofInt, UInt32.toNat_ofNat']
    omega
  rw [value]
  exact ⟨below, above⟩

namespace EventInputQueue

inductive EnqueuedFrom where
  | HARDWARE
  | BLOCKEDQUEUE
  deriving DecidableEq, Repr

/-- ic has begun with the arrival. The device is found as long as it is hooked. -/
structure Item where
  params : Params
  retainFlagStatusTemporaryCount : Bool
  deviceIdentifier : DeviceIdentifier
  device : Nat
  ic : IntervalChecker
  isSimultaneousKeyPressesTarget : Bool
  enqueuedFrom : EnqueuedFrom
  deriving DecidableEq, Repr

structure PressingEvent where
  params : Params
  ignore : Bool
  deriving DecidableEq, Repr

def PressingEvent.fromEvent (event : PressingEvent) : FromEvent := .ofParams event.params

/-- What isTargetEventForBlockUntilKeyUp reads of an item of an enabled RemapClass. -/
structure BlockUntilKeyUp where
  fromEvent : FromEvent
  parentEnabled : Bool
  isIgnorePassThrough : Bool
  isblocked : Bool
  deriving DecidableEq, Repr

/-- The configuration and the filter results at the time of a callback. -/
structure Config where
  items : List BlockUntilKeyUp
  isPassThroughEnabled : Bool
  allowDevicesMultipleSameKey : Bool
  deriving DecidableEq, Repr

def BlockUntilKeyUp.isTargetEvent (item : BlockUntilKeyUp) (passThroughEnabled : Bool)
    (params : Params) : Bool :=
  if passThroughEnabled && !item.isIgnorePassThrough then false
  else if !item.parentEnabled then false
  else if item.isblocked then false
  else item.fromEvent.isTargetDownEvent params || item.fromEvent.isTargetUpEvent params

def Config.isTargetEventForBlockUntilKeyUp (config : Config) (params : Params) : Bool :=
  config.items.any (·.isTargetEvent config.isPassThroughEnabled params)

/-- fired holds what doFire has handed to the remapper, resets counts the resets. -/
structure State where
  queue_ : List Item
  blockedQueue_ : List Item
  pressingEvents_ : List PressingEvent
  devices : List HookedDevice
  fired : List Item
  resets : Nat
  deriving DecidableEq, Repr

def State.start (devices : List HookedDevice) : State where
  queue_ := []
  blockedQueue_ := []
  pressingEvents_ := []
  devices := devices
  fired := []
  resets := 0

/-- What the callbacks of the hardware enqueue, where it is a down or up event. -/
structure Arrival where
  params : Params
  retainFlagStatusTemporaryCount : Bool
  deviceIdentifier : DeviceIdentifier
  device : Nat
  ic : IntervalChecker
  isDown : Bool
  iskeydown : params.iskeydown = some isDown
  notRepeat : params.isRepeat = false

def Arrival.item (arrival : Arrival) : Item where
  params := arrival.params
  retainFlagStatusTemporaryCount := arrival.retainFlagStatusTemporaryCount
  deviceIdentifier := arrival.deviceIdentifier
  device := arrival.device
  ic := arrival.ic
  isSimultaneousKeyPressesTarget := true
  enqueuedFrom := .HARDWARE

/-- A key event of an ordinary key on the device with the id, and its time in microseconds. -/
def keyArrival (device : Nat) (key : KeyCode) (isDown : Bool) (begun : Nat) : Arrival where
  params := .keyboard ⟨if isDown then .DOWN else .UP, ⟨0⟩, key, ⟨40⟩, false, isDown⟩
  retainFlagStatusTemporaryCount := false
  deviceIdentifier := ⟨0x05ac, 0x0250, 0⟩
  device := device
  ic := ⟨begun⟩
  isDown := isDown
  iskeydown := rfl
  notRepeat := rfl

namespace State

def enqueue (state : State) (item : Item) (pushBack : Bool) : State :=
  if item.params.isRepeat then state
  else if pushBack then { state with queue_ := state.queue_ ++ [item] }
  else { state with queue_ := item :: state.queue_ }

def updatePressingPhysicalKeys (state : State) (config : Config) (item : Item) : State :=
  { state with
    devices := state.devices.map fun device =>
      if device.id = item.device then
        device.updatePressingPhysicalKeys config.allowDevicesMultipleSameKey item.params
      else device }

def pressingPhysicalKeysCountAll (state : State) : Nat :=
  (state.devices.map (·.pressingPhysicalKeys.length)).sum

def endBlocking (state : State) : State :=
  { state with
    queue_ := state.blockedQueue_.map ({ · with enqueuedFrom := .BLOCKEDQUEUE }) ++ state.queue_
    blockedQueue_ := [] }

def setIgnoreToAllPressingEvents (state : State) : State :=
  { state with pressingEvents_ := state.pressingEvents_.map ({ · with ignore := true }) }

def isTargetDownEventInBlockedQueue (state : State) (front : Item) : Bool :=
  state.blockedQueue_.any fun p => (FromEvent.ofParams front.params).isTargetDownEvent p.params

/-- The second list holds the items in front, the nearest first. -/
def isOrphanKeyUpEventExists : List Item → List Item → Bool
  | [], _ => false
  | p :: rest, before =>
      (p.params.iskeydown == some false &&
          !(p :: before).any fun q =>
            (FromEvent.ofParams p.params).isTargetDownEvent q.params) ||
        isOrphanKeyUpEventExists rest (p :: before)

def isOrphanKeyUpEventExistsInBlockedQueue (state : State) : Bool :=
  isOrphanKeyUpEventExists state.blockedQueue_ []

def updatePressingEvents (state : State) (front : Item) (isDown : Bool) : State :=
  let existing := state.pressingEvents_.filter fun p =>
    !(p.fromEvent.isTargetDownEvent front.params || p.fromEvent.isTargetUpEvent front.params)
  { state with pressingEvents_ := if isDown then existing ++ [⟨front.params, false⟩]
    else existing }

/-- The two tests that jump to needToBlock. -/
def needToBlock (state : State) (config : Config) (front : Item) : Bool :=
  state.pressingEvents_.any (fun p =>
      !p.ignore && config.isTargetEventForBlockUntilKeyUp p.params) ||
    config.isTargetEventForBlockUntilKeyUp front.params

/-- Case 2, from the back of blockedQueue_: the first list is still to be searched, the
nearest item first, the second has no down event of the key. -/
def moveUpEvent (up : Item) : List Item → List Item → List Item
  | [], after => up :: after
  | p :: before, after =>
      if (FromEvent.ofParams up.params).isTargetDownEvent p.params then
        before.reverse ++ p :: up :: after
      else moveUpEvent up before (p :: after)

/-- doBlockUntilKeyUp from needToBlock on, with the answer whether doFire is needed. -/
def block (state : State) (config : Config) (front : Item) (rest : List Item) (isDown : Bool) :
    Bool × State :=
  if !isDown && config.isTargetEventForBlockUntilKeyUp front.params then
    (true, { state with
      blockedQueue_ := moveUpEvent front state.blockedQueue_.reverse []
      queue_ := rest }.endBlocking)
  else if !isDown && !state.isOrphanKeyUpEventExistsInBlockedQueue &&
      state.isTargetDownEventInBlockedQueue front then
    (true, { state.setIgnoreToAllPressingEvents with
      blockedQueue_ := state.blockedQueue_ ++ [front]
      queue_ := rest }.endBlocking)
  else
    (false, { state with blockedQueue_ := state.blockedQueue_ ++ [front], queue_ := rest })

def doBlockUntilKeyUp (state : State) (config : Config) : Bool × State :=
  match state.queue_ with
  | [] => (true, state)
  | front :: rest =>
      if front.enqueuedFrom = .BLOCKEDQUEUE then (true, state)
      else
        match front.params.iskeydown with
        | none => (true, state)
        | some isDown =>
            let state := state.updatePressingEvents front isDown
            if state.needToBlock config front then state.block config front rest isDown
            else (true, state.endBlocking)

def resetInternalStateIfNeeded (state : State) : State :=
  if state.pressingPhysicalKeysCountAll = 0 ∧ state.queue_ = [] ∧ state.blockedQueue_ = [] then
    { state with resets := state.resets + 1 }
  else state

def doFire (state : State) : State :=
  match state.queue_ with
  | [] => state
  | p :: rest =>
      let state := { state with fired := state.fired ++ [p], queue_ := rest }
      if p.params.iskeydown.isSome then state.resetInternalStateIfNeeded else state

theorem doFire_blockedQueue (state : State) :
    state.doFire.blockedQueue_ = state.blockedQueue_ := by
  unfold doFire resetInternalStateIfNeeded
  split
  · rfl
  · dsimp only
    split
    · split <;> rfl
    · rfl

/-- fire_timer_callback from "Fire front item" on. -/
def fireFrontItem (state : State) (config : Config) : State :=
  match state.queue_ with
  | [] => state
  | front :: _ =>
      let (needToFire, state) :=
        (state.updatePressingPhysicalKeys config front).doBlockUntilKeyUp config
      if needToFire then state.doFire else state

def blockingTimeOut (state : State) : State :=
  state.endBlocking.setIgnoreToAllPressingEvents

end State

/-- With bounce removal off and no SimultaneousKeyPresses item, fire_timer_callback is
fireFrontItem. -/
inductive Step where
  | arrive (arrival : Arrival)
  | fireTimer (config : Config)
  | blockingTimeOut

def step (state : State) : Step → State
  | .arrive arrival => state.enqueue arrival.item true
  | .fireTimer config => state.fireFrontItem config
  | .blockingTimeOut => state.blockingTimeOut

def Step.arrivals : Step → List Arrival
  | .arrive arrival => [arrival]
  | _ => []

end EventInputQueue

end Karabiner
