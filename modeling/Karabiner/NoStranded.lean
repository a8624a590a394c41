import Karabiner.ActivePresses
import Karabiner.EventTimers

set_option autoImplicit false

/- No event waits in a queue without a timer that will take it out. -/
namespace Karabiner

/-- The timer is set while something waits for it. -/
def Armed {α : Type*} (waiting : List α) (timer : TimerWrapper) : Prop :=
  waiting ≠ [] → timer.active = true

theorem Armed.nil {α : Type*} (timer : TimerWrapper) : Armed ([] : List α) timer :=
  fun some => absurd rfl some

theorem Armed.set {α : Type*} (waiting : List α) (timer : TimerWrapper) (ms : UInt32)
    (overwrite : Bool) : Armed waiting (timer.setTimeoutMS ms overwrite) :=
  fun _ => timer.setTimeoutMS_active ms overwrite

namespace EventOutputQueue.State

theorem push_armed (state : State) (item : Item) :
    Armed (state.push item).queue_ (state.push item).fire_timer_ := by
  rw [push]
  exact .set _ _ _ _

theorem pushAll_armed {state : State} (armed : Armed state.queue_ state.fire_timer_)
    (items : List Item) : Armed (state.pushAll items).queue_ (state.pushAll items).fire_timer_ := by
  induction items generalizing state with
  | nil => exact armed
  | cons item items ih => exact ih (push_armed state item)

/-- The callback ends with an empty queue or with the timer set. -/
theorem fireTimerCallback_armed (pairs : Pairs) (config : Config) (cancels : Item → Bool)
    (state : State) :
    Armed (state.fireTimerCallback pairs config cancels).queue_
      (state.fireTimerCallback pairs config cancels).fire_timer_ := by
  rw [fireTimerCallback]
  dsimp only
  cases queue : (state.deleteCanceled cancels).queue_ with
  | nil =>
      dsimp only
      rw [queue]
      exact .nil _
  | cons p rest =>
      cases rest with
      | nil => exact .nil _
      | cons next rest => exact .set _ _ _ _

end EventOutputQueue.State

namespace EventInputQueue

theorem TimerConfig.setTimer_armed (config : TimerConfig) (now : Nat) (queue : List Item)
    (timer : TimerWrapper) : Armed queue (config.setTimer now queue timer) := by
  cases queue with
  | nil => exact .nil _
  | cons front rest => exact .set _ _ _ _

namespace Blocking

theorem endBlocking_armed (blocking : Blocking) :
    Armed blocking.endBlocking.input.blockedQueue_
      blocking.endBlocking.blockingTimeOut_timer_ :=
  .nil _

theorem block_armed (blocking : Blocking) (config : Config) (timeout : UInt32) (front : Item)
    (rest : List Item) (isDown : Bool) :
    let after := (blocking.block config timeout front rest isDown).2
    Armed after.input.blockedQueue_ after.blockingTimeOut_timer_ := by
  rw [block]
  dsimp only
  split
  · exact endBlocking_armed _
  · split
    · exact endBlocking_armed _
    · exact .set _ _ _ _

theorem doBlockUntilKeyUp_armed (blocking : Blocking)
    (armed : Armed blocking.input.blockedQueue_ blocking.blockingTimeOut_timer_)
    (config : Config) (timeout : UInt32) :
    let after := (blocking.doBlockUntilKeyUp config timeout).2
    Armed after.input.blockedQueue_ after.blockingTimeOut_timer_ := by
  rw [doBlockUntilKeyUp]
  split
  · exact armed
  · split
    · exact armed
    · split
      · exact armed
      · dsimp only
        split
        · exact block_armed _ _ _ _ _ _
        · exact endBlocking_armed _

end Blocking

end EventInputQueue

namespace Remapping.State

variable {World : Type*}

/-- What every processor that a pass comes to keeps of the world, the pass keeps. -/
theorem remapSimultaneousKeyPresses_world (Kept : World → Prop)
    (remapclasses : List (RemapClass World)) (state : State World)
    (keeps : ∀ visited ∈ state.visited remapclasses, ∀ processor ∈ visited.2.processor,
      ∀ world, Kept world → Kept (processor.remapSimultaneousKeyPresses world).2)
    (iskeydown : Bool) (kept : Kept state.world) :
    Kept (state.remapSimultaneousKeyPresses remapclasses iskeydown).2.world := by
  have step : ∀ visits, (∀ visited ∈ visits, visited ∈ state.visited remapclasses) →
      ∀ progress : Bool × State World, Kept progress.2.world →
        Kept (Transition.run (visitSimultaneous iskeydown
          (state.isPassThroughEnabled remapclasses)) progress visits).2.world := by
    intro visits
    induction visits with
    | nil => exact fun _ _ kept => kept
    | cons visited visits ih =>
        intro members progress kept
        rw [Transition.run_cons]
        apply ih fun other member => members other (List.mem_cons_of_mem _ member)
        have own := keeps visited (members visited List.mem_cons_self)
        rw [visitSimultaneous]
        dsimp only
        unfold Item.remapSimultaneousKeyPresses
        cases known : visited.2.processor with
        | none => exact kept
        | some processor =>
            have next := own processor known progress.2.world kept
            dsimp only
            split
            · split <;> exact next
            · exact kept
  exact step _ (fun _ member => member) (false, state) kept

end Remapping.State

namespace SimultaneousKeyPresses

variable {Environment : Type*} (pairs : Pairs) (config : SimultaneousKeyPresses)
  (id : Remapping.ItemId)

theorem enqueueFront_blockedQueue (world : World Environment) (item : QueueItem) :
    (world.enqueueFront item).input.blockedQueue_ = world.input.blockedQueue_ := by
  unfold World.enqueueFront EventInputQueue.State.enqueue
  dsimp only
  split <;> rfl

theorem pushRemapped_blockedQueue (isKeyDown : Bool) (deviceIdentifier : DeviceIdentifier)
    (device : Nat) (world : World Environment) :
    (pushRemapped pairs config isKeyDown deviceIdentifier device world).input.blockedQueue_ =
      world.input.blockedQueue_ := by
  unfold pushRemapped
  split
  · rfl
  · exact enqueueFront_blockedQueue _ _

theorem postFromEvents_blockedQueue (front : QueueItem) (taken : List (Nat × QueueItem))
    (world : World Environment) :
    (postFromEvents config front taken world).input.blockedQueue_ =
      world.input.blockedQueue_ := by
  unfold postFromEvents
  split
  · induction taken with
    | nil => rfl
    | cons first taken ih =>
        rw [List.foldr_cons, enqueueFront_blockedQueue, ih]
  · rfl

theorem remapSimultaneousKeyPresses_blockedQueue (isOn : Environment → List ModifierFlag → Bool)
    (world : World Environment) :
    (remapSimultaneousKeyPresses pairs config id isOn world).2.input.blockedQueue_ =
      world.input.blockedQueue_ := by
  unfold remapSimultaneousKeyPresses
  split
  · rfl
  · split
    · rfl
    · split
      · unfold handleKeyUp
        dsimp only
        split
        · rfl
        · exact pushRemapped_blockedQueue _ _ _ _ _ _
      · split
        · rfl
        · split
          · rfl
          · unfold handleKeyDown
            dsimp only
            rw [pushRemapped_blockedQueue, postFromEvents_blockedQueue]

theorem processor_of_visited {isOn : Environment → List ModifierFlag → Bool}
    {configs : List (List (Configured Environment))} {state : State Environment}
    {visited : Remapping.ItemId × Remapping.Item (World Environment)}
    (member : visited ∈ state.visited (remapclasses pairs isOn configs))
    {own : Remapping.RemapFuncBase (World Environment)} (known : own ∈ visited.2.processor) :
    ∃ config id, own = processor pairs config id isOn := by
  obtain ⟨⟨i, j⟩, item⟩ := visited
  rw [Remapping.State.visited, List.mem_flatMap] at member
  obtain ⟨index, -, member⟩ := member
  rw [Remapping.mem_itemsOf, remapclasses] at member
  obtain ⟨remapclass, present, -, here⟩ := member
  rw [Option.mem_def, List.getElem?_mapIdx, Option.map_eq_some_iff] at present
  obtain ⟨items, -, rfl⟩ := present
  rw [List.getElem?_mapIdx, Option.map_eq_some_iff] at here
  obtain ⟨configured, -, same⟩ := here
  dsimp only at same known
  subst same
  exact ⟨_, _, (Option.mem_some_iff.mp known).symm⟩

theorem handleSimultaneousKeyPresses_blockedQueue
    (isOn : Environment → List ModifierFlag → Bool)
    (configs : List (List (Configured Environment))) (environments : Nat → Environment)
    (fuel : Nat) (state : State Environment) :
    (handleSimultaneousKeyPresses pairs isOn configs environments fuel
      state).world.input.blockedQueue_ = state.world.input.blockedQueue_ := by
  induction fuel generalizing state with
  | zero => rfl
  | succ fuel ih =>
      rw [handleSimultaneousKeyPresses]
      split
      · rfl
      · rename_i front rest queue
        have pass := Remapping.State.remapSimultaneousKeyPresses_world
          (fun world => world.input.blockedQueue_ = state.world.input.blockedQueue_)
          (remapclasses pairs isOn configs) (beginPass (environments fuel) front state)
          (by
            intro visited member processor known world kept
            obtain ⟨config, id, rfl⟩ := processor_of_visited pairs member known
            exact (remapSimultaneousKeyPresses_blockedQueue pairs config id isOn world).trans kept)
          (front.params.iskeydown.getD true) rfl
        dsimp only
        split
        · rw [ih]
          exact pass
        · exact pass

end SimultaneousKeyPresses

namespace EventQueues

variable {Environment : Type*}

structure NoStranded (queues : EventQueues Environment) : Prop where
  input : Armed queues.input.queue_ queues.fire_timer_
  blocked : Armed queues.input.blockedQueue_ queues.blockingTimeOut_timer_
  output : Armed queues.output.queue_ queues.output.fire_timer_

theorem start_noStranded (devices : List HookedDevice)
    (configs : List (List (SimultaneousKeyPresses.Configured Environment)))
    (environment : Environment) : NoStranded (start devices configs environment) :=
  ⟨.nil _, .nil _, .nil _⟩

/-- Whatever queue_ and its timer are, setTimer makes up for it. -/
theorem setTimer_noStranded {queues : EventQueues Environment}
    (blocked : Armed queues.input.blockedQueue_ queues.blockingTimeOut_timer_)
    (output : Armed queues.output.queue_ queues.output.fire_timer_)
    (timers : EventInputQueue.TimerConfig) (now : Nat) :
    NoStranded (queues.setTimer timers now) :=
  ⟨timers.setTimer_armed now _ _, blocked, output⟩

theorem enqueueAll_blockedQueue (input : EventInputQueue.State)
    (items : List EventInputQueue.Item) :
    (items.foldl (·.enqueue · true) input).blockedQueue_ = input.blockedQueue_ := by
  induction items generalizing input with
  | nil => rfl
  | cons item items ih =>
      rw [List.foldl_cons, ih]
      unfold EventInputQueue.State.enqueue
      split
      · rfl
      · rfl

theorem serve_input (queues : EventQueues Environment) (input : EventInputQueue.State) :
    (queues.serve input).world.input = input := by
  unfold serve
  dsimp only
  split <;> rfl

theorem fireFrontItem_armed {queues : EventQueues Environment} (round : Round Environment)
    (blocked : Armed queues.input.blockedQueue_ queues.blockingTimeOut_timer_)
    (output : Armed queues.output.queue_ queues.output.fire_timer_) :
    let after := queues.fireFrontItem round
    Armed after.input.blockedQueue_ after.blockingTimeOut_timer_ ∧
      Armed after.output.queue_ after.output.fire_timer_ := by
  rw [fireFrontItem]
  cases queues.input.queue_ with
  | nil => exact ⟨blocked, output⟩
  | cons front rest =>
      have held := EventInputQueue.Blocking.doBlockUntilKeyUp_armed
        ⟨queues.input.updatePressingPhysicalKeys round.config front,
          queues.blockingTimeOut_timer_⟩ blocked round.config
        round.timers.parameter_blockuntilkeyup_timeout
      dsimp only at held ⊢
      generalize EventInputQueue.Blocking.doBlockUntilKeyUp _ _ _ = outcome at held
      obtain ⟨needToFire, blocking⟩ := outcome
      rw [input]
      dsimp only
      rw [serve_input]
      cases needToFire with
      | true =>
          constructor
          · show Armed blocking.input.doFire.blockedQueue_ _
            rw [EventInputQueue.State.doFire_blockedQueue]
            exact held
          · exact EventOutputQueue.State.pushAll_armed output round.sent
      | false => exact ⟨held, output⟩

section
variable (pairs : Pairs) (isOn : Environment → List ModifierFlag → Bool)
  (configs : List (List (SimultaneousKeyPresses.Configured Environment)))

theorem fireTimerCallback_noStranded {queues : EventQueues Environment}
    (blocked : Armed queues.input.blockedQueue_ queues.blockingTimeOut_timer_)
    (output : Armed queues.output.queue_ queues.output.fire_timer_) (round : Round Environment) :
    NoStranded (queues.fireTimerCallback pairs isOn configs round) := by
  rw [fireTimerCallback]
  have bounced : Armed (queues.ignoreBouncing round.timers round.clock).input.blockedQueue_
      (queues.ignoreBouncing round.timers round.clock).blockingTimeOut_timer_ ∧
      Armed (queues.ignoreBouncing round.timers round.clock).output.queue_
        (queues.ignoreBouncing round.timers round.clock).output.fire_timer_ := by
    unfold ignoreBouncing
    split
    · exact ⟨blocked, output⟩
    · exact ⟨blocked, output⟩
  generalize queues.ignoreBouncing round.timers round.clock = queues at bounced
  have combined : Armed
      (queues.handleSimultaneousKeyPresses pairs isOn configs round).input.blockedQueue_
      (queues.handleSimultaneousKeyPresses pairs isOn configs round).blockingTimeOut_timer_ := by
    unfold handleSimultaneousKeyPresses input
    dsimp only
    rw [SimultaneousKeyPresses.handleSimultaneousKeyPresses_blockedQueue]
    exact bounced.1
  have fired := fireFrontItem_armed round combined bounced.2
  exact setTimer_noStranded fired.1 fired.2 _ _

/-- Only a callback that takes an item out of a queue leaves its timer idle before it ends. -/
theorem step_noStranded {queues : EventQueues Environment} (safe : NoStranded queues)
    (label : Step Environment) : NoStranded (step pairs isOn configs queues label) := by
  cases label with
  | arrive items timers now =>
      apply setTimer_noStranded
      · show Armed (items.foldl (·.enqueue · true) queues.input).blockedQueue_ _
        rw [enqueueAll_blockedQueue]
        exact safe.blocked
      · exact safe.output
  | fireTimer round =>
      rw [step]
      split
      · exact fireTimerCallback_noStranded pairs isOn configs (by exact safe.blocked)
          (by exact safe.output) round
      · exact safe
  | blockingTimeOut timers now =>
      rw [step]
      split
      · rw [blockingTimeOutTimerCallback]
        apply setTimer_noStranded
        · exact EventInputQueue.Blocking.endBlocking_armed _
        · exact safe.output
      · exact safe
  | outputFireTimer config cancels =>
      rw [step]
      split
      · exact ⟨safe.input, safe.blocked,
          EventOutputQueue.State.fireTimerCallback_armed pairs config cancels _⟩
      · exact safe
  | send items =>
      exact ⟨safe.input, safe.blocked, EventOutputQueue.State.pushAll_armed safe.output items⟩

/-- The blocked events, as endBlocking marks them. -/
def unblocked (queues : EventQueues Environment) : List EventInputQueue.Item :=
  queues.input.blockedQueue_.map ({ · with enqueuedFrom := .BLOCKEDQUEUE })

theorem blockingTimeOut_queue {queues : EventQueues Environment} (safe : NoStranded queues)
    (timers : EventInputQueue.TimerConfig) (now : Nat) :
    let after := step pairs isOn configs queues (.blockingTimeOut timers now)
    after.input.queue_ = queues.unblocked ++ queues.input.queue_ ∧
      after.input.blockedQueue_ = [] := by
  rw [step]
  by_cases active : queues.blockingTimeOut_timer_.active = true
  · rw [if_pos active]
    exact ⟨rfl, rfl⟩
  · have none : queues.input.blockedQueue_ = [] := by
      by_contra some
      exact active (safe.blocked some)
    rw [if_neg active, unblocked, none]
    exact ⟨rfl, none⟩

/-- After any run, every queue that is not empty has its timer set, and a timeout of blocking
puts all that is blocked in front of queue_, in its order. -/
theorem run_noStranded (devices : List HookedDevice) (environment : Environment)
    (labels : List (Step Environment)) :
    let queues := Transition.run (step pairs isOn configs)
      (start devices configs environment) labels
    NoStranded queues ∧ ∀ timers now,
      let after := step pairs isOn configs queues (.blockingTimeOut timers now)
      after.input.queue_ = queues.unblocked ++ queues.input.queue_ ∧
        after.input.blockedQueue_ = [] := by
  have safe : NoStranded (Transition.run (step pairs isOn configs)
      (start devices configs environment) labels) :=
    Transition.invariant_of_step NoStranded
      (fun _ label safe => step_noStranded pairs isOn configs safe label) labels
      (start_noStranded devices configs environment)
  exact ⟨safe, fun timers now => blockingTimeOut_queue pairs isOn configs safe timers now⟩

end

end EventQueues

end Karabiner
