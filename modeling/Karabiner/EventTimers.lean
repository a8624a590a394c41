import Karabiner.SimultaneousKeyPresses

set_option autoImplicit false

/- The timers of EventInputQueue, of BlockUntilKeyUpHandler and of EventOutputQueue, and the
callbacks that set them. setTimeout of the system is taken to succeed. -/
namespace Karabiner

structure TimerWrapper where
  active : Bool
  ms : UInt32
  deriving DecidableEq, Repr

namespace TimerWrapper

def idle : TimerWrapper := ⟨false, 0⟩

def setTimeoutMS (timer : TimerWrapper) (ms : UInt32) (overwrite : Bool) : TimerWrapper :=
  if !overwrite && timer.active then timer else ⟨true, ms⟩

def cancelTimeout (timer : TimerWrapper) : TimerWrapper := { timer with active := false }

@[simp] theorem setTimeoutMS_active (timer : TimerWrapper) (ms : UInt32) (overwrite : Bool) :
    (timer.setTimeoutMS ms overwrite).active = true := by
  unfold setTimeoutMS
  by_cases kept : (!overwrite && timer.active) = true
  · rw [if_pos kept]
    exact (Bool.and_eq_true _ _ ▸ kept).2
  · rw [if_neg kept]

end TimerWrapper

namespace EventOutputQueue

inductive Event where
  | params (params : Params)
  | wait (milliseconds : UInt32)
  deriving DecidableEq, Repr

structure Item where
  event : Event
  autogenId : Nat
  eventInputQueueSerialNumber : Nat
  canceled : Bool
  deriving DecidableEq, Repr

structure Config where
  wait_before_and_after_a_modifier_key_event : UInt32
  wait_before_and_after_a_click_event : UInt32
  deriving DecidableEq, Repr

structure State where
  queue_ : List Item
  fire_timer_ : TimerWrapper
  previousButtons_ : Buttons
  deriving DecidableEq, Repr

def State.start : State := ⟨[], .idle, ⟨0⟩⟩

def Event.isModifier (pairs : Pairs) : Event → Bool
  | .params (.keyboard keyboard) =>
      pairs.getModifierFlag keyboard.key .KEYCODE != ModifierFlag.ZERO
  | _ => false

namespace State

/-- PUSH_TO_OUTPUTQUEUE. -/
def push (state : State) (item : Item) : State :=
  { state with
    queue_ := state.queue_ ++ [item]
    fire_timer_ := state.fire_timer_.setTimeoutMS 0 false }

def pushAll (state : State) (items : List Item) : State := items.foldl push state

def calcDelay (pairs : Pairs) (config : Config) (event : Event) (state : State) :
    UInt32 × State :=
  if event.isModifier pairs then (config.wait_before_and_after_a_modifier_key_event, state)
  else
    match event with
    | .params (.relativePointer pointer) =>
        if pointer.buttons ≠ state.previousButtons_ then
          (config.wait_before_and_after_a_click_event,
            { state with previousButtons_ := pointer.buttons })
        else (0, state)
    | _ => (0, state)

/-- The least wait behind an event of its kind. -/
def minimumDelay : Event → UInt32
  | .params (.keyboard _) => 1
  | .params (.keyboardSpecial _) => 1
  | .params _ => 0
  | .wait milliseconds => milliseconds

/-- What cancelEventOutputQueueItems has marked is deleted. -/
def deleteCanceled (cancels : Item → Bool) (state : State) : State :=
  { state with
    queue_ := (state.queue_.map fun item =>
      { item with canceled := item.canceled || cancels item }).filter (!·.canceled) }

/-- fire_timer_callback, without the device that the event goes to. -/
def fireTimerCallback (pairs : Pairs) (config : Config) (cancels : Item → Bool)
    (state : State) : State :=
  let state := state.deleteCanceled cancels
  match state.queue_ with
  | [] => state
  | p :: rest =>
      let (delay, state) := state.calcDelay pairs config p.event
      let delay := max delay (minimumDelay p.event)
      let state := { state with queue_ := rest }
      match rest with
      | [] => state
      | next :: _ =>
          let (nextDelay, state) := state.calcDelay pairs config next.event
          { state with fire_timer_ := state.fire_timer_.setTimeoutMS (max delay nextDelay) true }

end State

end EventOutputQueue

namespace EventInputQueue

structure TimerConfig where
  isSimultaneousKeyPressesEnabled : Bool
  general_ignore_bouncing_events : Bool
  simultaneouskeypresses_delay : UInt32
  simultaneouskeypresses_pointingbutton_delay : UInt32
  ignore_bouncing_threshold_for_keyboard : UInt32
  ignore_bouncing_threshold_for_mice : UInt32
  parameter_blockuntilkeyup_timeout : UInt32
  deriving DecidableEq, Repr

def isKey : Params → Bool
  | .keyboard _ => true
  | .keyboardSpecial _ => true
  | _ => false

def isPointingButton : Params → Bool
  | .relativePointer params => params.ex_button != PointingButton.NONE
  | _ => false

/-- A key-up, a key-down behind it, and what the clock says when each is asked for its
milliseconds. -/
structure Comparison where
  keyUpEvent : Item
  keyDownEvent : Item
  readings : Nat × Nat
  deriving DecidableEq, Repr

def Comparison.interval (comparison : Comparison) : UInt32 :=
  let ms1 := comparison.keyUpEvent.ic.getmillisec comparison.readings.1
  let ms2 := comparison.keyDownEvent.ic.getmillisec comparison.readings.2
  ms1 - ms2

/-- The comparisons that a scan makes, and what is left where it removes items. -/
structure Scan where
  comparisons : List Comparison
  left : Option (List Item)
  deriving DecidableEq, Repr

namespace Scan

def behind (item : Item) (scan : Scan) : Scan :=
  { scan with left := scan.left.map (item :: ·) }

def after (comparisons : List Comparison) (scan : Scan) : Scan :=
  { scan with comparisons := comparisons ++ scan.comparisons }

end Scan

namespace TimerConfig

variable (config : TimerConfig)

def threshold (params : Params) : UInt32 :=
  let simultaneous (delay : UInt32) : UInt32 :=
    if config.isSimultaneousKeyPressesEnabled then delay else 0
  let bouncing (delay : UInt32) : UInt32 :=
    if config.general_ignore_bouncing_events then delay else 0
  let key :=
    if isKey params then
      max (simultaneous config.simultaneouskeypresses_delay)
        (bouncing config.ignore_bouncing_threshold_for_keyboard)
    else 0
  let button :=
    if isPointingButton params then
      max (simultaneous config.simultaneouskeypresses_pointingbutton_delay)
        (bouncing config.ignore_bouncing_threshold_for_mice)
    else 0
  max key button

def timeoutMS (now : Nat) (front : Item) : UInt32 :=
  if config.isSimultaneousKeyPressesEnabled || config.general_ignore_bouncing_events then
    let threshold := config.threshold front.params
    let ms := front.ic.getmillisec now
    let timeoutMS := if ms < threshold then threshold - ms else 0
    if timeoutMS > 0 then timeoutMS - 1 else timeoutMS
  else 0

/-- The first timer is fire_timer_. -/
def setTimer (now : Nat) (queue : List Item) (timer : TimerWrapper) : TimerWrapper :=
  match queue with
  | [] => timer
  | front :: _ => timer.setTimeoutMS (config.timeoutMS now front) false

def bouncingThreshold : FromEvent → UInt32
  | .KEY _ => config.ignore_bouncing_threshold_for_keyboard
  | .CONSUMER_KEY _ => config.ignore_bouncing_threshold_for_keyboard
  | .POINTING_BUTTON _ => config.ignore_bouncing_threshold_for_mice
  | .NONE => 0

/-- The interval is below the threshold. -/
def isBouncing (comparison : Comparison) : Bool :=
  comparison.interval < config.bouncingThreshold (FromEvent.ofParams comparison.keyUpEvent.params)

variable (clock : Nat → Nat × Nat)

/-- The items behind a key-up, without the key-down that bounces with it. made counts the
comparisons before. -/
def eraseKeyDown (keyUpEvent : Item) (made : Nat) : List Item → Scan
  | [] => ⟨[], none⟩
  | q :: rest =>
      let fromEvent := FromEvent.ofParams keyUpEvent.params
      if fromEvent.isTargetUpEvent q.params then ⟨[], none⟩
      else if fromEvent.isTargetDownEvent q.params then
        if config.isBouncing ⟨keyUpEvent, q, clock made⟩ then
          ⟨[⟨keyUpEvent, q, clock made⟩], some rest⟩
        else
          ((eraseKeyDown keyUpEvent (made + 1) rest).behind q).after
            [⟨keyUpEvent, q, clock made⟩]
      else (eraseKeyDown keyUpEvent made rest).behind q

def eraseBouncing (made : Nat) : List Item → Scan
  | [] => ⟨[], none⟩
  | p :: rest =>
      if p.params.iskeydown = some false then
        let scan := config.eraseKeyDown clock p made rest
        match scan.left with
        | some _ => scan
        | none =>
            ((eraseBouncing (made + scan.comparisons.length) rest).behind p).after scan.comparisons
      else (eraseBouncing made rest).behind p

/-- Every retry follows the removal of two items, so the length of the queue is fuel enough. -/
def ignoreBouncing : Nat → Nat → List Item → List Comparison × List Item
  | 0, _, queue => ([], queue)
  | fuel + 1, made, queue =>
      let scan := config.eraseBouncing clock made queue
      match scan.left with
      | none => (scan.comparisons, queue)
      | some left =>
          let (comparisons, queue) :=
            ignoreBouncing fuel (made + scan.comparisons.length) left
          (scan.comparisons ++ comparisons, queue)

end TimerConfig

/-- What BlockUntilKeyUpHandler works on. -/
structure Blocking where
  input : State
  blockingTimeOut_timer_ : TimerWrapper
  deriving DecidableEq, Repr

namespace Blocking

def endBlocking (blocking : Blocking) : Blocking where
  input := blocking.input.endBlocking
  blockingTimeOut_timer_ := blocking.blockingTimeOut_timer_.cancelTimeout

/-- doBlockUntilKeyUp from needToBlock on: the timeout comes first. -/
def block (blocking : Blocking) (config : Config) (timeout : UInt32) (front : Item)
    (rest : List Item) (isDown : Bool) : Bool × Blocking :=
  let input := blocking.input
  let timer := blocking.blockingTimeOut_timer_.setTimeoutMS timeout true
  if !isDown && config.isTargetEventForBlockUntilKeyUp front.params then
    (true, (Blocking.mk { input with
      blockedQueue_ := State.moveUpEvent front input.blockedQueue_.reverse []
      queue_ := rest } timer).endBlocking)
  else if !isDown && !input.isOrphanKeyUpEventExistsInBlockedQueue &&
      input.isTargetDownEventInBlockedQueue front then
    (true, (Blocking.mk { input.setIgnoreToAllPressingEvents with
      blockedQueue_ := input.blockedQueue_ ++ [front]
      queue_ := rest } timer).endBlocking)
  else
    (false, ⟨{ input with
      blockedQueue_ := input.blockedQueue_ ++ [front], queue_ := rest }, timer⟩)

def doBlockUntilKeyUp (blocking : Blocking) (config : Config) (timeout : UInt32) :
    Bool × Blocking :=
  match blocking.input.queue_ with
  | [] => (true, blocking)
  | front :: rest =>
      if front.enqueuedFrom = .BLOCKEDQUEUE then (true, blocking)
      else
        match front.params.iskeydown with
        | none => (true, blocking)
        | some isDown =>
            let blocking :=
              { blocking with input := blocking.input.updatePressingEvents front isDown }
            if blocking.input.needToBlock config front then
              blocking.block config timeout front rest isDown
            else (true, blocking.endBlocking)

end Blocking

end EventInputQueue

open EventInputQueue (Blocking TimerConfig)

/-- Both queues and the three timers that empty them. -/
structure EventQueues (Environment : Type*) where
  state : SimultaneousKeyPresses.State Environment
  fire_timer_ : TimerWrapper
  blockingTimeOut_timer_ : TimerWrapper
  output : EventOutputQueue.State

/-- What a callback of fire_timer_ finds, and what the remapping of the front item sends. clock
gives the readings of the comparisons, now the one for what handleSimultaneousKeyPresses posts and
ending the one of setTimer. -/
structure Round (Environment : Type*) where
  environments : Nat → Environment
  config : EventInputQueue.Config
  timers : TimerConfig
  clock : Nat → Nat × Nat
  now : Nat
  ending : Nat
  sent : List EventOutputQueue.Item

namespace EventQueues

variable {Environment : Type*}

def input (queues : EventQueues Environment) : EventInputQueue.State := queues.state.world.input

def withInput (queues : EventQueues Environment) (input : EventInputQueue.State) :
    EventQueues Environment :=
  { queues with state := { queues.state with world := { queues.state.world with input } } }

def start (devices : List HookedDevice) (configs : List (List (SimultaneousKeyPresses.Configured
    Environment))) (environment : Environment) : EventQueues Environment where
  state := SimultaneousKeyPresses.start configs devices environment
  fire_timer_ := .idle
  blockingTimeOut_timer_ := .idle
  output := .start

def setTimer (timers : TimerConfig) (now : Nat) (queues : EventQueues Environment) :
    EventQueues Environment :=
  { queues with fire_timer_ := timers.setTimer now queues.input.queue_ queues.fire_timer_ }

def ignoreBouncing (timers : TimerConfig) (clock : Nat → Nat × Nat)
    (queues : EventQueues Environment) : EventQueues Environment :=
  if timers.general_ignore_bouncing_events then
    queues.withInput { queues.input with
      queue_ :=
        (timers.ignoreBouncing clock queues.input.queue_.length 0 queues.input.queue_).2 }
  else queues

section
variable (pairs : Pairs) (isOn : Environment → List ModifierFlag → Bool)
  (configs : List (List (SimultaneousKeyPresses.Configured Environment)))

def handleSimultaneousKeyPresses (round : Round Environment) (queues : EventQueues Environment) :
    EventQueues Environment :=
  let state :=
    { queues.state with world := { queues.state.world with now := round.now } }
  { queues with
    state := SimultaneousKeyPresses.handleSimultaneousKeyPresses pairs isOn configs
      round.environments (queues.input.queue_.length + 1) state }

/-- The state with the queue as the front item has left it. A reset clears both lists of
active items. -/
def serve (queues : EventQueues Environment) (input : EventInputQueue.State) :
    SimultaneousKeyPresses.State Environment :=
  let before := queues.input
  let world :=
    { queues.state.world with
      input
      serialNumber := queues.state.world.serialNumber + 1
      log := queues.state.world.log ++ (input.fired.drop before.fired.length).map .fired }
  if input.resets ≠ before.resets then
    { queues.state with world := { world with activeFromInfos := [] }, activeItems := [] }
  else { queues.state with world }

/-- "Fire front item". -/
def fireFrontItem (round : Round Environment) (queues : EventQueues Environment) :
    EventQueues Environment :=
  match queues.input.queue_ with
  | [] => queues
  | front :: _ =>
      let (needToFire, blocking) :=
        Blocking.doBlockUntilKeyUp
          ⟨queues.input.updatePressingPhysicalKeys round.config front,
            queues.blockingTimeOut_timer_⟩
          round.config round.timers.parameter_blockuntilkeyup_timeout
      { state := queues.serve (if needToFire then blocking.input.doFire else blocking.input)
        fire_timer_ := queues.fire_timer_
        blockingTimeOut_timer_ := blocking.blockingTimeOut_timer_
        output := if needToFire then queues.output.pushAll round.sent else queues.output }

/-- fire_timer_callback. Its return on an empty queue is the end too, where nothing is left to
fire and to set the timer for. -/
def fireTimerCallback (round : Round Environment) (queues : EventQueues Environment) :
    EventQueues Environment :=
  let queues := queues.ignoreBouncing round.timers round.clock
  let queues := queues.handleSimultaneousKeyPresses pairs isOn configs round
  (queues.fireFrontItem round).setTimer round.timers round.ending

end

def blockingTimeOutTimerCallback (timers : TimerConfig) (now : Nat)
    (queues : EventQueues Environment) : EventQueues Environment :=
  let blocking := Blocking.endBlocking ⟨queues.input, queues.blockingTimeOut_timer_⟩
  setTimer timers now
    { queues.withInput blocking.input.setIgnoreToAllPressingEvents with
      blockingTimeOut_timer_ := blocking.blockingTimeOut_timer_ }

/-- arrive: a callback of the hardware with what it enqueues. send: what any other callback
pushes. The timers call back only while they are active. -/
inductive Step (Environment : Type*) where
  | arrive (items : List EventInputQueue.Item) (timers : TimerConfig) (now : Nat)
  | fireTimer (round : Round Environment)
  | blockingTimeOut (timers : TimerConfig) (now : Nat)
  | outputFireTimer (config : EventOutputQueue.Config) (cancels : EventOutputQueue.Item → Bool)
  | send (items : List EventOutputQueue.Item)

section
variable (pairs : Pairs) (isOn : Environment → List ModifierFlag → Bool)
  (configs : List (List (SimultaneousKeyPresses.Configured Environment)))

def step (queues : EventQueues Environment) : Step Environment → EventQueues Environment
  | .arrive items timers now =>
      (queues.withInput (items.foldl (·.enqueue · true) queues.input)).setTimer timers now
  | .fireTimer round =>
      if queues.fire_timer_.active then
        fireTimerCallback pairs isOn configs round
          { queues with fire_timer_ := { queues.fire_timer_ with active := false } }
      else queues
  | .blockingTimeOut timers now =>
      if queues.blockingTimeOut_timer_.active then
        blockingTimeOutTimerCallback timers now
          { queues with
            blockingTimeOut_timer_ := { queues.blockingTimeOut_timer_ with active := false } }
      else queues
  | .outputFireTimer config cancels =>
      if queues.output.fire_timer_.active then
        { queues with
          output := EventOutputQueue.State.fireTimerCallback pairs config cancels
            { queues.output with
              fire_timer_ := { queues.output.fire_timer_ with active := false } } }
      else queues
  | .send items => { queues with output := queues.output.pushAll items }

end

end EventQueues

end Karabiner
