import Karabiner.ArrivalOrder

set_option autoImplicit false

/- PressingPhysicalKeys is updated each time an item is in front of queue_. That is the list
of the held keys as long as no item that comes to the front again changes it. -/
namespace Karabiner.EventInputQueue

/-- The key of the events that PressingPhysicalKeys leaves out. -/
def capsLock : FromEvent := .KEY KeyCode.CAPSLOCK

def Arrival.fromEvent (arrival : Arrival) : FromEvent := .ofParams arrival.params

/-- The last event of the key on the device was down. -/
def isHeld (device : Nat) (fromEvent : FromEvent) : List Arrival → Bool :=
  List.foldl (fun held arrival =>
    if arrival.device = device ∧ arrival.fromEvent = fromEvent then arrival.isDown
      else held) false

/-- A key other than CapsLock goes down on a device only while it is not held there. -/
def AlternatingFrom : List Arrival → List Arrival → Prop
  | _, [] => True
  | before, arrival :: rest =>
      (arrival.fromEvent ≠ capsLock → arrival.isDown = true →
          isHeld arrival.device arrival.fromEvent before = false) ∧
        AlternatingFrom (before ++ [arrival]) rest

def Alternating (arrivals : List Arrival) : Prop := AlternatingFrom [] arrivals

instance AlternatingFrom.decidable :
    (before rest : List Arrival) → Decidable (AlternatingFrom before rest)
  | _, [] => isTrue trivial
  | before, arrival :: rest =>
      have := AlternatingFrom.decidable (before ++ [arrival]) rest
      inferInstanceAs (Decidable ((arrival.fromEvent ≠ capsLock → arrival.isDown = true →
          isHeld arrival.device arrival.fromEvent before = false) ∧
        AlternatingFrom (before ++ [arrival]) rest))

instance (arrivals : List Arrival) : Decidable (Alternating arrivals) :=
  AlternatingFrom.decidable [] arrivals

/-- Every device lists each key it holds once, and nothing else. -/
structure Accounted (arrivals : List Arrival) (state : State) : Prop where
  each : ∀ device ∈ state.devices, ∀ fromEvent,
    device.pressingPhysicalKeys.count fromEvent =
      if fromEvent ≠ capsLock ∧ isHeld device.id fromEvent arrivals then 1 else 0
  all : state.pressingPhysicalKeysCountAll = 0 ↔
    ∀ device ∈ state.devices, ∀ fromEvent, fromEvent ≠ capsLock →
      isHeld device.id fromEvent arrivals = false

def hooked (ids : List Nat) : List HookedDevice := ids.map (⟨·, []⟩)

/-- Counting the item once more changes nothing. -/
def State.CountedBefore (state : State) (item : Item) : Prop :=
  item.params.keyboardKey = some KeyCode.CAPSLOCK ∨
    ∀ device ∈ state.devices, device.id = item.device →
      item.params.iskeydown = some false ∧
        FromEvent.ofParams item.params ∉ device.pressingPhysicalKeys

/-- No target keeps the item from being fired. -/
def State.Passes (state : State) (config : Config) (item : Item) : Prop :=
  ∃ isDown ∈ item.params.iskeydown,
    (state.updatePressingEvents item isDown).needToBlock config item = false

/-- Counting the item twice changes no more than counting it once. -/
def State.CountsTwice (state : State) (item : Item) : Prop :=
  item.params.keyboardKey = some KeyCode.CAPSLOCK ∨ item.params.iskeydown = some false ∨
    ∀ device ∈ state.devices, device.id ≠ item.device

/-- An item that comes back from blockedQueue_ changes no list. Where an item in front passes and
stays there because blockedQueue_ comes back in front of it, it may be counted twice. -/
def CountsOnce (state : State) : Step → Prop
  | .fireTimer config =>
      ∀ front ∈ state.queue_.head?,
        (front.enqueuedFrom = .BLOCKEDQUEUE → state.CountedBefore front) ∧
          (front.enqueuedFrom = .HARDWARE → state.Passes config front →
            state.blockedQueue_ = [] ∨ state.CountsTwice front)
  | _ => True

instance (state : State) (item : Item) : Decidable (state.CountedBefore item) :=
  inferInstanceAs (Decidable (_ ∨ _))

instance (state : State) (item : Item) : Decidable (state.CountsTwice item) :=
  inferInstanceAs (Decidable (_ ∨ _))

instance (state : State) (config : Config) (item : Item) :
    Decidable (state.Passes config item) :=
  inferInstanceAs (Decidable (∃ isDown ∈ item.params.iskeydown,
    (state.updatePressingEvents item isDown).needToBlock config item = false))

instance (state : State) : (label : Step) → Decidable (CountsOnce state label)
  | .fireTimer config =>
      inferInstanceAs (Decidable (∀ front ∈ state.queue_.head?,
        (front.enqueuedFrom = .BLOCKEDQUEUE → state.CountedBefore front) ∧
          (front.enqueuedFrom = .HARDWARE → state.Passes config front →
            state.blockedQueue_ = [] ∨ state.CountsTwice front)))
  | .arrive _ => isTrue trivial
  | .blockingTimeOut => isTrue trivial

theorem isHeld_concat (device : Nat) (fromEvent : FromEvent) (arrivals : List Arrival)
    (arrival : Arrival) :
    isHeld device fromEvent (arrivals ++ [arrival]) =
      if arrival.device = device ∧ arrival.fromEvent = fromEvent then arrival.isDown
      else isHeld device fromEvent arrivals := by
  rw [isHeld, List.foldl_append]
  rfl

theorem AlternatingFrom.at {before first rest : List Arrival} {arrival : Arrival}
    (alternating : AlternatingFrom before (first ++ arrival :: rest))
    (counts : arrival.fromEvent ≠ capsLock) (down : arrival.isDown = true) :
    isHeld arrival.device arrival.fromEvent (before ++ first) = false := by
  induction first generalizing before with
  | nil =>
      rw [List.append_nil]
      exact alternating.1 counts down
  | cons head first ih =>
      have later := ih alternating.2
      rwa [List.append_assoc, List.singleton_append] at later

theorem ofParams_eq_capsLock_iff (params : Params) :
    FromEvent.ofParams params = capsLock ↔ params.keyboardKey = some KeyCode.CAPSLOCK := by
  cases params <;> simp [FromEvent.ofParams, capsLock, Params.keyboardKey]

theorem update_of_capsLock {params : Params}
    (caps : params.keyboardKey = some KeyCode.CAPSLOCK) (multiple : Bool) (list : List FromEvent) :
    PressingPhysicalKeys.update multiple params list = list := by
  unfold PressingPhysicalKeys.update
  split
  · rfl
  · rw [if_pos caps]

theorem isTargetEvent_eq_beq {params : Params} {isDown : Bool}
    (known : params.iskeydown = some isDown) (entry : FromEvent) :
    entry.isTargetEvent params = (entry == FromEvent.ofParams params) := by
  rw [Bool.eq_iff_iff, FromEvent.isTargetEvent_iff known, beq_iff_eq]

theorem update_of_up {params : Params} (up : params.iskeydown = some false)
    (counts : params.keyboardKey ≠ some KeyCode.CAPSLOCK) (multiple : Bool)
    (list : List FromEvent) :
    PressingPhysicalKeys.update multiple params list =
      if multiple then list.erase (.ofParams params)
      else list.filter (· != .ofParams params) := by
  simp only [PressingPhysicalKeys.update, up, if_neg counts, isTargetEvent_eq_beq up,
    Bool.false_eq_true, if_false, List.erase_eq_eraseP', bne]

/-- Both policies take the only entry of a key. -/
theorem count_update {params : Params} {isDown : Bool} (known : params.iskeydown = some isDown)
    (counts : params.keyboardKey ≠ some KeyCode.CAPSLOCK) (multiple : Bool)
    {list : List FromEvent} (single : list.count (.ofParams params) ≤ 1) (fromEvent : FromEvent) :
    (PressingPhysicalKeys.update multiple params list).count fromEvent =
      if FromEvent.ofParams params = fromEvent then
        if isDown then list.count fromEvent + 1 else 0
      else list.count fromEvent := by
  cases isDown with
  | true =>
      have added : PressingPhysicalKeys.update multiple params list =
          list ++ [.ofParams params] := by
        simp [PressingPhysicalKeys.update, known, counts]
      rw [added, List.count_append, List.count_singleton]
      by_cases same : FromEvent.ofParams params = fromEvent <;> simp [same]
  | false =>
      rw [update_of_up known counts]
      by_cases same : FromEvent.ofParams params = fromEvent
      · subst same
        cases multiple with
        | true =>
            have erased := List.count_erase_self (a := FromEvent.ofParams params) (l := list)
            simp only [if_true, erased]
            simp
            omega
        | false =>
            have removed : FromEvent.ofParams params ∉
                list.filter (· != FromEvent.ofParams params) := by simp
            simp [List.count_eq_zero_of_not_mem removed]
      · have other : fromEvent ≠ FromEvent.ofParams params := fun equal => same equal.symm
        cases multiple with
        | true => simp [same, List.count_erase_of_ne other]
        | false => simp [same, List.count_filter, other]

theorem update_of_absent {params : Params} (up : params.iskeydown = some false)
    {list : List FromEvent} (absent : FromEvent.ofParams params ∉ list) (multiple : Bool) :
    PressingPhysicalKeys.update multiple params list = list := by
  by_cases caps : params.keyboardKey = some KeyCode.CAPSLOCK
  · exact update_of_capsLock caps multiple list
  · rw [update_of_up up caps]
    cases multiple with
    | true => simp [List.erase_of_not_mem absent]
    | false =>
        rw [if_neg Bool.false_ne_true, List.filter_eq_self]
        intro entry member
        have other : entry ≠ FromEvent.ofParams params := fun equal => absent (equal ▸ member)
        simpa using other

/-- The list of the device is what these arrivals leave held. -/
def Lists (counted : List Arrival) (device : HookedDevice) : Prop :=
  ∀ fromEvent, device.pressingPhysicalKeys.count fromEvent =
    if fromEvent ≠ capsLock ∧ isHeld device.id fromEvent counted then 1 else 0

theorem lists_of_elsewhere {counted : List Arrival} {device : HookedDevice}
    (lists : Lists counted device) {arrival : Arrival} (elsewhere : device.id ≠ arrival.device) :
    Lists (counted ++ [arrival]) device := by
  intro fromEvent
  have other : ¬(arrival.device = device.id ∧ arrival.fromEvent = fromEvent) :=
    fun equal => elsewhere equal.1.symm
  rw [isHeld_concat, if_neg other]
  exact lists fromEvent

theorem lists_of_capsLock {counted : List Arrival} {device : HookedDevice}
    (lists : Lists counted device) {arrival : Arrival} (caps : arrival.fromEvent = capsLock) :
    Lists (counted ++ [arrival]) device := by
  intro fromEvent
  rw [isHeld_concat, caps, lists fromEvent]
  by_cases same : fromEvent = capsLock
  · simp [same]
  · have other : ¬capsLock = fromEvent := fun equal => same equal.symm
    simp [other]

theorem lists_update {counted : List Arrival} {device : HookedDevice}
    (lists : Lists counted device) {arrival : Arrival} (here : device.id = arrival.device)
    (alternating : arrival.fromEvent ≠ capsLock → arrival.isDown = true →
      isHeld arrival.device arrival.fromEvent counted = false) (multiple : Bool) :
    Lists (counted ++ [arrival])
      (device.updatePressingPhysicalKeys multiple arrival.params) := by
  by_cases caps : arrival.params.keyboardKey = some KeyCode.CAPSLOCK
  · have unchanged : device.updatePressingPhysicalKeys multiple arrival.params = device := by
      rw [HookedDevice.updatePressingPhysicalKeys, update_of_capsLock caps]
    rw [unchanged]
    exact lists_of_capsLock lists ((ofParams_eq_capsLock_iff _).mpr caps)
  · have counts : arrival.fromEvent ≠ capsLock :=
      fun isCaps => caps ((ofParams_eq_capsLock_iff _).mp isCaps)
    have single : device.pressingPhysicalKeys.count (.ofParams arrival.params) ≤ 1 := by
      rw [lists]
      split <;> omega
    intro fromEvent
    have counted' : (device.updatePressingPhysicalKeys multiple
        arrival.params).pressingPhysicalKeys.count fromEvent =
          if arrival.fromEvent = fromEvent then
            if arrival.isDown then device.pressingPhysicalKeys.count fromEvent + 1 else 0
          else device.pressingPhysicalKeys.count fromEvent :=
      count_update arrival.iskeydown caps multiple single fromEvent
    rw [counted']
    by_cases same : arrival.fromEvent = fromEvent
    · subst same
      have now : isHeld device.id arrival.fromEvent (counted ++ [arrival]) = arrival.isDown := by
        simp [isHeld_concat, here]
      have entry := lists arrival.fromEvent
      rw [← here] at alternating
      cases down : arrival.isDown with
      | true => simp [HookedDevice.updatePressingPhysicalKeys, now, down, entry, counts,
          alternating counts down]
      | false => simp [HookedDevice.updatePressingPhysicalKeys, now, down]
    · have kept : isHeld device.id fromEvent (counted ++ [arrival]) =
          isHeld device.id fromEvent counted := by simp [isHeld_concat, same]
      rw [if_neg same, lists fromEvent]
      simp only [HookedDevice.updatePressingPhysicalKeys, kept]

theorem devices_count {state : State} {counted : List Arrival}
    (lists : ∀ device ∈ state.devices, Lists counted device) {arrival : Arrival}
    (alternating : arrival.fromEvent ≠ capsLock → arrival.isDown = true →
      isHeld arrival.device arrival.fromEvent counted = false) (config : Config) :
    ∀ device ∈ (state.updatePressingPhysicalKeys config arrival.item).devices,
      Lists (counted ++ [arrival]) device := by
  intro changed member
  obtain ⟨device, before, rfl⟩ := List.mem_map.mp member
  by_cases here : device.id = arrival.item.device
  · rw [if_pos here]
    exact lists_update (lists device before) here alternating _
  · rw [if_neg here]
    exact lists_of_elsewhere (lists device before) here

theorem devices_of_countedBefore {state : State} {item : Item} (before : state.CountedBefore item)
    (config : Config) :
    (state.updatePressingPhysicalKeys config item).devices = state.devices := by
  have unchanged : ∀ device ∈ state.devices, (if device.id = item.device then
      device.updatePressingPhysicalKeys config.allowDevicesMultipleSameKey item.params
      else device) = device := by
    intro device member
    by_cases here : device.id = item.device
    · rw [if_pos here, HookedDevice.updatePressingPhysicalKeys]
      rcases before with caps | absent
      · rw [update_of_capsLock caps]
      · obtain ⟨up, missing⟩ := absent device member here
        rw [update_of_absent up missing]
    · rw [if_neg here]
  exact (List.map_congr_left unchanged).trans (List.map_id' state.devices)

theorem doFire_devices (state : State) : state.doFire.devices = state.devices := by
  unfold State.doFire State.resetInternalStateIfNeeded
  split
  · rfl
  · dsimp only
    split_ifs <;> rfl

/-- Every arrival in front of the ones that still wait in queue_ is counted. The ones that stay in
queue_ nevertheless may be counted again. -/
structure Counting (arrivals : List Arrival) (state : State) : Prop where
  marked : Marked state
  split : ∃ counted uncounted returned again,
    arrivals = counted ++ uncounted ∧
      state.queue_ = returned ++ (again ++ uncounted.map Arrival.item) ∧
      (∀ p ∈ returned, p.enqueuedFrom = .BLOCKEDQUEUE) ∧
        (∀ p ∈ again, p.enqueuedFrom = .HARDWARE ∧ state.CountedBefore p) ∧
          ∀ device ∈ state.devices, Lists counted device

theorem endBlocking_doFire_queue {state : State} (blocked : state.blockedQueue_ ≠ []) :
    ∃ returned : List Item, (∀ p ∈ returned, p.enqueuedFrom = .BLOCKEDQUEUE) ∧
      state.endBlocking.doFire.queue_ = returned ++ state.queue_ := by
  refine ⟨(state.blockedQueue_.map ({ · with enqueuedFrom := .BLOCKEDQUEUE })).tail, ?_, ?_⟩
  · intro p member
    obtain ⟨q, -, rfl⟩ := List.mem_map.mp (List.mem_of_mem_tail member)
    rfl
  · rw [State.doFire_queue, State.endBlocking, List.tail_append_of_ne_nil]
    simpa using blocked

theorem endBlocking_doFire_devices (state : State) :
    state.endBlocking.doFire.devices = state.devices := doFire_devices _

/-- Only marked items come in front of the rest, and the item itself where it passes. -/
theorem handled_queue {config : Config} {front : Item} {rest : List Item} {state next : State}
    (queue : state.queue_ = front :: rest) (fresh : front.enqueuedFrom = .HARDWARE)
    (handled : State.Handled config front rest state next) :
    next.devices = state.devices ∧ ∃ returned kept : List Item,
      (∀ p ∈ returned, p.enqueuedFrom = .BLOCKEDQUEUE) ∧
        (kept = [] ∨ kept = [front] ∧ state.Passes config front ∧ state.blockedQueue_ ≠ []) ∧
          next.queue_ = returned ++ (kept ++ rest) := by
  have without {blocking : State} (blocked : blocking.blockedQueue_ ≠ []) :
      ∃ returned kept : List Item, (∀ p ∈ returned, p.enqueuedFrom = .BLOCKEDQUEUE) ∧
        (kept = [] ∨ kept = [front] ∧ state.Passes config front ∧ state.blockedQueue_ ≠ []) ∧
          blocking.endBlocking.doFire.queue_ = returned ++ (kept ++ blocking.queue_) := by
    obtain ⟨returned, marks, next_queue⟩ := endBlocking_doFire_queue blocked
    exact ⟨returned, [], marks, .inl rfl, next_queue⟩
  cases handled with
  | returned marked =>
      rw [fresh] at marked
      exact EnqueuedFrom.noConfusion marked
  | passed isDown _ known free =>
      refine ⟨endBlocking_doFire_devices _, ?_⟩
      by_cases empty : state.blockedQueue_ = []
      · refine ⟨[], [], by simp, .inl rfl, ?_⟩
        simp [State.doFire_queue, State.endBlocking, State.updatePressingEvents, empty, queue]
      · obtain ⟨returned, marks, next_queue⟩ :=
          @endBlocking_doFire_queue (state.updatePressingEvents front isDown) empty
        refine ⟨returned, [front], marks, .inr ⟨rfl, ⟨isDown, known, free⟩, empty⟩, ?_⟩
        rw [next_queue]
        exact congrArg (returned ++ ·) queue
  | moved =>
      refine ⟨endBlocking_doFire_devices _, without ?_⟩
      intro empty
      have size := (moveUpEvent_perm front state.blockedQueue_).length_eq
      dsimp only at empty
      simp [empty] at size
  | completed =>
      exact ⟨endBlocking_doFire_devices _, without (by simp)⟩
  | blocked => exact ⟨rfl, [], [], by simp, .inl rfl, rfl⟩

theorem State.CountedBefore.of_devices {state next : State} {item : Item}
    (before : state.CountedBefore item) (same : next.devices = state.devices) :
    next.CountedBefore item := by
  unfold State.CountedBefore at before ⊢
  rw [same]
  exact before

/-- Where counting it twice is the same, an item that has been counted may be counted again. -/
theorem countedBefore_of_countsTwice {state next : State} {counted : List Arrival}
    {arrival : Arrival} (twice : state.CountsTwice arrival.item)
    (ids : ∀ device ∈ next.devices, ∃ old ∈ state.devices, old.id = device.id)
    (lists : ∀ device ∈ next.devices, Lists (counted ++ [arrival]) device) :
    next.CountedBefore arrival.item := by
  rcases twice with caps | up | gone
  · exact .inl caps
  · refine .inr fun device member here => ⟨up, ?_⟩
    have isUp : arrival.isDown = false := by
      have known := arrival.iskeydown
      rw [show arrival.params.iskeydown = some false from up] at known
      exact (Option.some.inj known).symm
    have released : isHeld device.id arrival.fromEvent (counted ++ [arrival]) = false := by
      rw [isHeld_concat, if_pos ⟨here.symm, rfl⟩, isUp]
    have entry := lists device member arrival.fromEvent
    rw [released] at entry
    exact List.count_eq_zero.mp (entry.trans (by simp))
  · refine .inr fun device member here => ?_
    obtain ⟨old, before, same⟩ := ids device member
    exact absurd (same.trans here) (gone old before)

theorem updatePressingPhysicalKeys_ids (state : State) (config : Config) (item : Item) :
    ∀ device ∈ (state.updatePressingPhysicalKeys config item).devices,
      ∃ old ∈ state.devices, old.id = device.id := by
  intro device member
  obtain ⟨old, before, rfl⟩ := List.mem_map.mp member
  refine ⟨old, before, ?_⟩
  split <;> rfl

theorem handled_returned {config : Config} {front : Item} {rest : List Item} {state next : State}
    (mark : front.enqueuedFrom = .BLOCKEDQUEUE)
    (handled : State.Handled config front rest state next) : next = state.doFire := by
  cases handled with
  | returned => rfl
  | passed _ fresh | moved fresh | completed fresh | blocked _ fresh =>
      rw [mark] at fresh
      exact EnqueuedFrom.noConfusion fresh

theorem fireTimer_counting {arrivals : List Arrival} {state : State}
    (counting : Counting arrivals state) (alternating : Alternating arrivals) {config : Config}
    (once : CountsOnce state (.fireTimer config)) :
    Counting arrivals (state.fireFrontItem config) := by
  obtain ⟨marked, counted, uncounted, returned, again, whole, queue, fromBlocked, harmless,
    lists⟩ := counting
  refine ⟨step_marked marked (.fireTimer config), ?_⟩
  cases next : state.queue_ with
  | nil =>
      have idle : state.fireFrontItem config = state := by
        simp [State.fireFrontItem, next]
      rw [idle]
      exact ⟨counted, uncounted, returned, again, whole, queue, fromBlocked, harmless, lists⟩
  | cons front rest =>
      obtain ⟨unchanging, passing⟩ := once front (by simp [next])
      have downOrUp := marked.downOrUp front (by simp [next])
      have handled := State.fireFrontItem_handled next downOrUp config
      cases returned with
      | cons p returned =>
          obtain ⟨rfl, rfl⟩ := List.cons.inj (next.symm.trans queue)
          have mark : front.enqueuedFrom = .BLOCKEDQUEUE := fromBlocked front (by simp)
          have kept := devices_of_countedBefore (unchanging mark) config
          rw [handled_returned mark handled]
          have same : (state.updatePressingPhysicalKeys config front).doFire.devices =
              state.devices := by
            rw [doFire_devices, kept]
          refine ⟨counted, uncounted, returned, again, whole, ?_,
            fun q member => fromBlocked q (by simp [member]), ?_, ?_⟩
          · rw [State.doFire_queue]
            exact congrArg List.tail queue
          · exact fun q member =>
              ⟨(harmless q member).1, (harmless q member).2.of_devices same⟩
          · rw [same]
            exact lists
      | nil =>
          cases again with
          | cons p again =>
              obtain ⟨rfl, rfl⟩ := List.cons.inj (next.symm.trans queue)
              obtain ⟨fresh, before⟩ := harmless front (by simp)
              have unchanged := devices_of_countedBefore before config
              have next' : (state.updatePressingPhysicalKeys config front).queue_ =
                  front :: (again ++ uncounted.map Arrival.item) := next
              obtain ⟨devices, returned, kept, marks, keeps, rest⟩ :=
                handled_queue next' fresh handled
              have same := devices.trans unchanged
              refine ⟨counted, uncounted, returned, kept ++ again, whole, ?_, marks, ?_, ?_⟩
              · rw [rest, List.append_assoc]
              · intro q member
                have known : q = front ∨ q ∈ again := by
                  rcases List.mem_append.mp member with own | later
                  · rcases keeps with rfl | ⟨rfl, -, -⟩
                    · cases own
                    · exact .inl (List.mem_singleton.mp own)
                  · exact .inr later
                rcases known with rfl | later
                · exact ⟨fresh, before.of_devices same⟩
                · obtain ⟨fresh', before'⟩ := harmless q (by simp [later])
                  exact ⟨fresh', before'.of_devices same⟩
              · rw [same]
                exact lists
          | nil =>
              cases uncounted with
              | nil =>
                  rw [next] at queue
                  simp at queue
              | cons arrival uncounted =>
                  obtain ⟨rfl, rfl⟩ := List.cons.inj (next.symm.trans queue)
                  have whole' : AlternatingFrom [] (counted ++ arrival :: uncounted) :=
                    whole ▸ alternating
                  have first := whole'.at
                  have next' : (state.updatePressingPhysicalKeys config arrival.item).queue_ =
                      arrival.item :: uncounted.map Arrival.item := next
                  obtain ⟨devices, others, kept, marks, keeps, rest⟩ :=
                    handled_queue next' rfl handled
                  have listed := devices_count lists first config
                  rw [← devices] at listed
                  refine ⟨counted ++ [arrival], uncounted, others, kept, by simp [whole], rest,
                    marks, ?_, listed⟩
                  intro q member
                  rcases keeps with rfl | ⟨rfl, passes, waiting⟩
                  · cases member
                  · obtain rfl := List.mem_singleton.mp member
                    have twice := (passing rfl passes).resolve_left waiting
                    refine ⟨rfl, countedBefore_of_countsTwice twice ?_ listed⟩
                    rw [devices]
                    exact updatePressingPhysicalKeys_ids state config arrival.item

theorem AlternatingFrom.of_append {before first second : List Arrival}
    (alternating : AlternatingFrom before (first ++ second)) : AlternatingFrom before first := by
  induction first generalizing before with
  | nil => trivial
  | cons arrival first ih => exact ⟨alternating.1, ih alternating.2⟩

theorem step_counting {arrivals : List Arrival} {state : State}
    (counting : Counting arrivals state) (alternating : Alternating arrivals) {label : Step}
    (once : CountsOnce state label) :
    Counting (arrivals ++ label.arrivals) (step state label) := by
  have marked := step_marked counting.marked label
  obtain ⟨counted, uncounted, returned, again, whole, queue, fromBlocked, harmless, lists⟩ :=
    counting.split
  cases label with
  | arrive arrival =>
      have same : (step state (.arrive arrival)).devices = state.devices := by
        simp [step, State.enqueue, Arrival.item, arrival.notRepeat]
      refine ⟨marked, counted, uncounted ++ [arrival], returned, again, ?_, ?_, fromBlocked,
        ?_, ?_⟩
      · simp [whole, Step.arrivals]
      · simp [step, State.enqueue, Arrival.item, arrival.notRepeat, queue]
      · exact fun q member => ⟨(harmless q member).1, (harmless q member).2.of_devices same⟩
      · rw [same]
        exact lists
  | fireTimer config =>
      have same : arrivals ++ (Step.fireTimer config).arrivals = arrivals := List.append_nil _
      rw [same]
      exact fireTimer_counting counting alternating once
  | blockingTimeOut =>
      refine ⟨marked, counted, uncounted,
        state.blockedQueue_.map ({ · with enqueuedFrom := .BLOCKEDQUEUE }) ++ returned, again,
        ?_, ?_, ?_, ?_, lists⟩
      · simp [whole, Step.arrivals]
      · simp [step, State.blockingTimeOut, State.setIgnoreToAllPressingEvents, State.endBlocking,
          queue]
      · intro p member
        rcases List.mem_append.mp member with held | before
        · obtain ⟨q, -, rfl⟩ := List.mem_map.mp held
          rfl
        · exact fromBlocked p before
      · exact fun q member => ⟨(harmless q member).1, (harmless q member).2.of_devices rfl⟩

theorem run_counting {arrivals : List Arrival} {state : State}
    (counting : Counting arrivals state) {steps : List Step}
    (alternating : Alternating (arrivals ++ steps.flatMap Step.arrivals))
    (once : Transition.Along step CountsOnce state steps) :
    Counting (arrivals ++ steps.flatMap Step.arrivals) (Transition.run step state steps) := by
  induction steps generalizing arrivals state with
  | nil => simpa using counting
  | cons label labels ih =>
      rw [List.flatMap_cons, ← List.append_assoc] at alternating ⊢
      exact ih (step_counting counting alternating.of_append.of_append once.1) alternating once.2

theorem countAll_eq_zero_iff (state : State) :
    state.pressingPhysicalKeysCountAll = 0 ↔
      ∀ device ∈ state.devices, ∀ fromEvent, device.pressingPhysicalKeys.count
        fromEvent = 0 := by
  simp only [State.pressingPhysicalKeysCountAll, List.sum_eq_zero_iff_forall_eq_nat, List.mem_map,
    forall_exists_index, and_imp, forall_apply_eq_imp_iff₂, List.length_eq_zero_iff,
    List.count_eq_zero, ← List.eq_nil_iff_forall_not_mem]

theorem accounted_of_lists {arrivals : List Arrival} {state : State}
    (lists : ∀ device ∈ state.devices, Lists arrivals device) : Accounted arrivals state where
  each := lists
  all := by
    rw [countAll_eq_zero_iff]
    refine forall₃_congr fun device member fromEvent => ?_
    rw [lists device member fromEvent]
    by_cases held : isHeld device.id fromEvent arrivals <;> simp [held]

/-- The lists of the devices are right whenever queue_ is empty, in every run where no item
that comes to the front again changes a list. -/
theorem physical_keys_accounted (ids : List Nat) (steps : List Step)
    (alternating : Alternating (steps.flatMap Step.arrivals))
    (once : Transition.Along step CountsOnce (.start (hooked ids)) steps) :
    let state := Transition.run step (.start (hooked ids)) steps
    state.queue_ = [] → Accounted (steps.flatMap Step.arrivals) state := by
  intro state queueEmpty
  have initial : Counting [] (.start (hooked ids)) := by
    refine ⟨start_marked _, [], [], [], [], rfl, rfl, by simp, by simp, ?_⟩
    intro device member fromEvent
    obtain ⟨id, -, rfl⟩ := List.mem_map.mp member
    simp [isHeld]
  obtain ⟨-, counted, uncounted, returned, again, whole, queue, -, -, lists⟩ :=
    run_counting initial (by simpa using alternating) once
  rw [show (Transition.run step (.start (hooked ids)) steps).queue_ = [] from queueEmpty] at queue
  have drained : uncounted = [] := by
    simpa using (List.append_eq_nil_iff.mp (List.append_eq_nil_iff.mp queue.symm).2).2
  rw [drained, List.append_nil, List.nil_append] at whole
  exact accounted_of_lists (whole ▸ lists)

/-- BlockUntilKeyUp of the space bar. -/
def blockSpace (allowDevicesMultipleSameKey : Bool) : Config where
  items := [⟨.KEY ⟨0x31⟩, true, false, false⟩]
  isPassThroughEnabled := false
  allowDevicesMultipleSameKey := allowDevicesMultipleSameKey

theorem physical_keys_accounted_tap :
    let tap := [.arrive (keyArrival 1 ⟨0x31⟩ true 0), .fireTimer (blockSpace true),
      .arrive (keyArrival 1 ⟨0x31⟩ false 10000), .fireTimer (blockSpace true),
      .fireTimer (blockSpace true)]
    Accounted (tap.flatMap Step.arrivals) (Transition.run step (.start (hooked [1, 2])) tap) :=
  physical_keys_accounted [1, 2] _ (by decide) (by decide) (by decide)

/-- The timeout hands the blocked down event to PressingPhysicalKeys once more. The up event
takes one of the two entries, and the other stays. -/
theorem timeout_leaves_key_pressed :
    ¬∀ (ids : List Nat) (steps : List Step), Alternating (steps.flatMap Step.arrivals) →
      let state := Transition.run step (.start (hooked ids)) steps
      state.queue_ = [] → state.blockedQueue_ = [] →
        Accounted (steps.flatMap Step.arrivals) state := by
  intro claim
  have stuck := claim [1]
    [.arrive (keyArrival 1 ⟨0x31⟩ true 0), .fireTimer (blockSpace true), .blockingTimeOut,
      .fireTimer (blockSpace true), .arrive (keyArrival 1 ⟨0x31⟩ false 900000),
      .fireTimer (blockSpace true)]
    (by decide) (by decide) (by decide)
  have entries := stuck.each ⟨1, [.KEY ⟨0x31⟩]⟩ (by decide) (.KEY ⟨0x31⟩)
  exact absurd entries (by decide)

end Karabiner.EventInputQueue
