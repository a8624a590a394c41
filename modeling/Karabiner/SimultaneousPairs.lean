import Karabiner.ActivePresses
import Karabiner.ArrivalOrder
import Karabiner.SimultaneousDelivery
import Mathlib.Tactic.Common

set_option autoImplicit false

/- Every combination that SimultaneousKeyPresses applies is released once, as long as no
item finds the key-downs of a combination in a round that began with a key-up. -/
namespace Karabiner.SimultaneousKeyPresses

open Remapping (ItemId)

variable {Environment : Type*}

def Hooked (devices : List HookedDevice) (device : Nat) : Prop :=
  ∃ hooked ∈ devices, hooked.id = device

/-- In a round for a key-up, an active item finds a combination at the new front of queue_. -/
def Misreads (isOn : Environment → List ModifierFlag → Bool)
    (configs : List (List (Configured Environment))) (iskeydown : Bool)
    (state : State Environment) (id : ItemId) : Prop :=
  iskeydown = false ∧ (id, .SIMULTANEOUSBUTTONPRESSES) ∈ state.activeItems ∧
    ∃ item ∈ lookup configs id, isOn state.world.environment item.config.fromModifierFlags ∧
      (∃ front ∈ state.world.input.queue_.head?, front.isSimultaneousKeyPressesTarget) ∧
        (item.config.completeDownKeys state.world.input.queue_).isSome

section
variable (pairs : Pairs) (isOn : Environment → List ModifierFlag → Bool)
  (configs : List (List (Configured Environment)))

/-- No item misreads the queue in any round of the loop. -/
def RoundsRead (environments : Nat → Environment) : Nat → State Environment → Prop
  | 0, _ => True
  | fuel + 1, state =>
      match state.world.input.queue_ with
      | [] => True
      | front :: _ =>
          let begun := beginPass (environments fuel) front state
          let iskeydown := front.params.iskeydown.getD true
          let pass :=
            begun.remapSimultaneousKeyPresses (remapclasses pairs isOn configs) iskeydown
          Transition.Along
              (Remapping.State.visitSimultaneous iskeydown
                (begun.isPassThroughEnabled (remapclasses pairs isOn configs)))
              (fun progress visited => ¬Misreads isOn configs iskeydown progress.2 visited.1)
              (false, begun) (begun.visited (remapclasses pairs isOn configs)) ∧
            (pass.1 = true → RoundsRead environments fuel pass.2)

/-- The events come from hooked devices, and no reset comes between the key-down and the
key-up of a combination. -/
def Undisturbed (state : State Environment) : Step Environment → Prop
  | .arrive arrival => Hooked state.world.input.devices arrival.device
  | .fireTimer environments now allowDevicesMultipleSameKey =>
      let next := step pairs isOn configs state
        (.fireTimer environments now allowDevicesMultipleSameKey)
      next.world.input.resets = state.world.input.resets ∨
        ∀ id, finished id next.world.log = applied id next.world.log

def Reads (state : State Environment) : Step Environment → Prop
  | .arrive _ => True
  | .fireTimer environments now _ =>
      RoundsRead pairs isOn configs environments (state.world.input.queue_.length + 1)
        { state with world := { state.world with now } }

end

def Step.arrivals : Step Environment → List QueueItem
  | .arrive arrival => [arrival.item]
  | .fireTimer _ _ _ => []

/-- An event that an item has put in front of queue_. -/
structure IsPosted (item : QueueItem) : Prop where
  other : item.isSimultaneousKeyPressesTarget = false
  downOrUp : item.params.iskeydown.isSome
  hardware : item.enqueuedFrom = .HARDWARE

structure Good (configs : List (List (Configured Environment))) (arrivals : List QueueItem)
    (resets : Nat) (state : State Environment) : Prop where
  ledger : Ledger configs state.world.activeFromInfos state.activeItems state.world.log
  delivered : Delivered configs arrivals state.world.input.queue_ state.world.activeFromInfos
    state.world.log
  postedFirst : ∃ posted fresh, state.world.input.queue_ = posted ++ fresh ∧
    (∀ item ∈ posted, IsPosted item) ∧ ∀ item ∈ fresh, IsTarget item
  hooked : ∀ item ∈ state.world.input.queue_, item.isSimultaneousKeyPressesTarget = true →
    Hooked state.world.input.devices item.device
  hookedInfos : ∀ info ∈ state.world.activeFromInfos,
    Hooked state.world.input.devices info.device
  keyed : ∀ info ∈ state.world.activeFromInfos, (keyOf configs info).isSome
  unusedLater : ∀ id serialNumber, state.world.serialNumber < serialNumber →
    state.world.log.filter (·.isOf id serialNumber) = []
  unusedNow :
    (∀ item ∈ state.world.input.queue_, item.isSimultaneousKeyPressesTarget = true) →
    ∀ id, state.world.log.filter (·.isOf id state.world.serialNumber) = []
  unblocked : state.world.input.blockedQueue_ = []
  resets : state.world.input.resets = resets
  enabled : ∀ index, state.enabled index = true
  everyClass : state.enabledRemapclasses = List.range configs.length

section
variable {configs : List (List (Configured Environment))} {arrivals : List QueueItem}
  {resets : Nat} {state : State Environment}

theorem Good.all_targets (good : Good configs arrivals resets state) {front : QueueItem}
    {rest : List QueueItem} (next : state.world.input.queue_ = front :: rest)
    (target : front.isSimultaneousKeyPressesTarget = true) :
    ∀ item ∈ state.world.input.queue_, IsTarget item := by
  obtain ⟨posted, fresh, split_, isPosted, isTarget⟩ := good.postedFirst
  cases posted with
  | nil => simpa [split_] using isTarget
  | cons first posted =>
      have same := (List.cons.inj (next.symm.trans split_)).1
      have other := (isPosted first (by simp)).other
      rw [← same, target] at other
      exact Bool.noConfusion other

theorem Good.recorded (good : Good configs arrivals resets state) {info : ActiveFromInfo}
    (member : info ∈ state.world.activeFromInfos) :
    state.world.log.filter (·.isOf info.item info.eventInputQueueSerialNumber) ≠ [] := by
  intro none
  have key := good.keyed info member
  cases known : lookup configs info.item with
  | none => simp [keyOf, known] at key
  | some item =>
      have lives := good.ledger.lives info.item item known info.eventInputQueueSerialNumber
      rw [none] at lives
      have empty := List.map_eq_nil_iff.mp lives.remaining_nil
      have here : info ∈ infosOf info.item info.eventInputQueueSerialNumber
          state.world.activeFromInfos := by
        simp [infosOf, member]
      rw [empty] at here
      simp at here

theorem eraseExpired_eq {world : World Environment} {infos : List ActiveFromInfo}
    (hooked : ∀ info ∈ infos, Hooked world.input.devices info.device) :
    world.eraseExpired infos = infos := by
  refine List.filter_eq_self.mpr fun info member => ?_
  obtain ⟨device, there, same⟩ := hooked info member
  exact List.any_eq_true.mpr ⟨device, there, by simpa using same⟩

theorem pressOfInfo_of_isActive {id : ItemId} {configured : Configured Environment}
    (known : lookup configs id = some configured) {event : QueueItem} {info : ActiveFromInfo}
    (active : IsActive configured.config id event info) :
    pressOfInfo configs info = pressOf event := by
  simp [pressOfInfo, keyOf, pressOf, active.item, active.device, known, active.key]

/-- The erase of deactivate finds the only from-key of the press. -/
theorem eraseP_eq_withoutPress {infos : List ActiveFromInfo}
    (nodup : (infos.map (pressOfInfo configs)).Nodup) {press : PressKey}
    {chosen : ActiveFromInfo → Bool}
    (only : ∀ info ∈ infos, chosen info = true → pressOfInfo configs info = press)
    {active : ActiveFromInfo} (member : active ∈ infos) (found : chosen active = true) :
    infos.eraseP chosen = withoutPress configs press infos := by
  obtain ⟨erased, before, after, -, isChosen, split_, result⟩ :=
    List.exists_of_eraseP member found
  have own := only erased (by simp [split_]) isChosen
  rw [split_, List.map_append, List.map_cons, own] at nodup
  have apart := List.nodup_middle.mp nodup
  rw [List.nodup_cons, List.mem_append, not_or] at apart
  have kept : ∀ list : List ActiveFromInfo, press ∉ list.map (pressOfInfo configs) →
      withoutPress configs press list = list := by
    intro list absent
    refine List.filter_eq_self.mpr fun info there => ?_
    simp only [decide_eq_true_eq]
    exact fun same => absent (same ▸ List.mem_map_of_mem there)
  rw [result, split_, withoutPress, List.filter_append, List.filter_cons_of_neg (by simp [own])]
  exact congrArg₂ (· ++ ·) (kept before apart.1.1).symm (kept after apart.1.2).symm

/-- The world with events put in front of queue_. -/
def World.post (world : World Environment) (posted : List QueueItem) : World Environment :=
  { world with input := { world.input with queue_ := posted ++ world.input.queue_ } }

theorem enqueueFront_eq (world : World Environment) {item : QueueItem}
    (notRepeat : item.params.isRepeat = false) : world.enqueueFront item = world.post [item] := by
  simp [World.enqueueFront, EventInputQueue.State.enqueue, notRepeat, World.post]

theorem enqueueFront_cases (world : World Environment) (item : QueueItem) :
    world.enqueueFront item = world.post [item] ∨ world.enqueueFront item = world.post [] := by
  cases repeats : item.params.isRepeat with
  | false => exact .inl (enqueueFront_eq world repeats)
  | true =>
      refine .inr ?_
      simp [World.enqueueFront, EventInputQueue.State.enqueue, repeats, World.post]

theorem post_post (world : World Environment) (first second : List QueueItem) :
    (world.post first).post second = world.post (second ++ first) := by
  simp [World.post]

/-- push_remapped pushes one event of the key. -/
theorem pushRemapped_eq (pairs : Pairs) {config : SimultaneousKeyPresses}
    (pushes : config.pushedKey ≠ KeyCode.VK_NONE) (down : Bool)
    (deviceIdentifier : DeviceIdentifier) (device : Nat) (world : World Environment) :
    ∃ item, remappedItem pairs config down deviceIdentifier device world = some item ∧
      IsPushed config down item ∧ IsPosted item ∧
        pushRemapped pairs config down deviceIdentifier device world = world.post [item] := by
  have known : (Params.keyboardEvent pairs (if down then .DOWN else .UP)
      (if down then
        Flags.add ⟨0⟩ (pairs.getModifierFlag config.pushedKey .KEYCODE) else ⟨0⟩)
      config.pushedKey world.currentKeyboardType false).iskeydown = some down := by
    cases down <;>
      simp [Params.keyboardEvent, Params.iskeydown, EventType.isKeyDownOrModifierDown,
        EventType.DOWN, EventType.UP, EventType.MODIFY]
  unfold pushRemapped remappedItem
  rw [if_neg pushes]
  refine ⟨_, rfl, ⟨rfl, known, rfl⟩, ⟨rfl, ?_, rfl⟩, enqueueFront_eq world rfl⟩
  exact Option.isSome_iff_exists.mpr ⟨down, known⟩

theorem any_active_iff {configured : Configured Environment} {id : ItemId}
    (known : lookup configs id = some configured) {infos : List ActiveFromInfo}
    (keyed : ∀ info ∈ infos, (keyOf configs info).isSome) (serialNumber : Nat) :
    (configured.config.fromInfo.zipIdx.any fun (_, index) => infos.any fun info =>
      info.item = id ∧ info.index = index ∧ info.eventInputQueueSerialNumber = serialNumber) =
        true ↔ infosOf id serialNumber infos ≠ [] := by
  rw [List.any_eq_true]
  constructor
  · rintro ⟨⟨fromEvent, index⟩, -, found⟩
    obtain ⟨info, member, own⟩ := List.any_eq_true.mp found
    simp only [decide_eq_true_eq] at own
    refine List.ne_nil_of_mem (List.mem_filter.mpr ⟨member, ?_⟩)
    simpa using ⟨own.1, own.2.2⟩
  · intro some_
    obtain ⟨info, here⟩ := List.exists_mem_of_ne_nil _ some_
    obtain ⟨member, own⟩ := List.mem_filter.mp here
    simp only [decide_eq_true_eq] at own
    have key := keyed info member
    rw [keyOf, own.1, known, Option.bind_some] at key
    obtain ⟨fromEvent, present⟩ := Option.isSome_iff_exists.mp key
    refine ⟨(fromEvent, info.index), List.mem_zipIdx_iff_getElem?.mpr present, ?_⟩
    exact List.any_eq_true.mpr ⟨info, member, by simpa using own⟩

/-- A key-up releases one from-key, and the combination with the last one. -/
theorem handleKeyUp_eq (pairs : Pairs) (good : Good configs arrivals resets state)
    {configured : Configured Environment} {id : ItemId}
    (known : lookup configs id = some configured)
    (pushes : configured.config.pushedKey ≠ KeyCode.VK_NONE) {front : QueueItem}
    (isTarget : IsTarget front) (rest : List QueueItem) {active : ActiveFromInfo}
    (member : active ∈ state.world.activeFromInfos)
    (isActive : IsActive configured.config id front active) :
    ∃ (posted : List QueueItem) (pushed : Option QueueItem),
      handleKeyUp pairs configured.config id front rest active state.world =
        (if pushed.isSome then .APPLIED else .QUEUE_CHANGED,
          { state.world with
            input := { state.world.input with queue_ := posted ++ rest }
            activeFromInfos :=
              withoutPress configs (pressOf front) state.world.activeFromInfos
            log := state.world.log ++
              [.released id active.eventInputQueueSerialNumber front pushed] }) ∧
        (∀ item ∈ posted, IsPosted item) ∧
        if infosOf id active.eventInputQueueSerialNumber
            (withoutPress configs (pressOf front) state.world.activeFromInfos) = [] then
          ∃ keyUp, pushed = some keyUp ∧ IsPushed configured.config false keyUp
        else pushed = none := by
  have erased : (state.world.eraseExpired state.world.activeFromInfos).eraseP (fun info =>
      info.item = id ∧ info.index = active.index ∧ info.device = front.device) =
        withoutPress configs (pressOf front) state.world.activeFromInfos := by
    rw [eraseExpired_eq good.hookedInfos]
    refine eraseP_eq_withoutPress good.delivered.nodup ?_ member ?_
    · intro info _ chosen
      simp only [decide_eq_true_eq] at chosen
      exact pressOfInfo_of_isActive known ⟨chosen.1, chosen.2.2, chosen.2.1 ▸ isActive.key⟩
    · simp [isActive.item, isActive.device]
  have keyed : ∀ info ∈ withoutPress configs (pressOf front) state.world.activeFromInfos,
      (keyOf configs info).isSome := fun info there =>
    good.keyed info (List.mem_of_mem_filter there)
  have any_ := any_active_iff known keyed active.eventInputQueueSerialNumber
  obtain ⟨raw, shape, isPosted⟩ : ∃ raw : List QueueItem,
      (if configured.config.isPostFromEventsAsRaw then
        { front with isSimultaneousKeyPressesTarget := false } :: rest else rest) =
          raw ++ rest ∧ ∀ item ∈ raw, IsPosted item := by
    split
    · refine ⟨[{ front with isSimultaneousKeyPressesTarget := false }], rfl, ?_⟩
      intro item there
      obtain rfl := List.mem_singleton.mp there
      exact ⟨rfl, Option.isSome_iff_exists.mpr ⟨_, isTarget.downOrUp⟩, isTarget.hardware⟩
    · exact ⟨[], rfl, by simp⟩
  unfold handleKeyUp
  simp only [erased, shape]
  by_cases none : infosOf id active.eventInputQueueSerialNumber
      (withoutPress configs (pressOf front) state.world.activeFromInfos) = []
  · obtain ⟨keyUp, pushed, isPushed, isPosted', result⟩ :=
      pushRemapped_eq pairs pushes false active.frontDeviceIdentifier active.frontDevice
        { state.world with
          input := { state.world.input with queue_ := raw ++ rest }
          activeFromInfos := withoutPress configs (pressOf front) state.world.activeFromInfos }
    rw [if_neg (by rw [any_]; simpa using none), pushed, result]
    refine ⟨keyUp :: raw, some keyUp, rfl, ?_, ?_⟩
    · intro item there
      rcases List.mem_cons.mp there with rfl | old
      · exact isPosted'
      · exact isPosted item old
    · rw [if_pos none]
      exact ⟨keyUp, rfl, isPushed⟩
  · rw [if_pos (any_.mpr none)]
    refine ⟨raw, .none, rfl, isPosted, ?_⟩
    rw [if_neg none]

/-- The FromInfo at an index becomes active for the key-down that was found for it. -/
def activated (id : ItemId) (front : QueueItem) (serialNumber : Nat)
    (entry : (Nat × QueueItem) × Nat) : ActiveFromInfo where
  item := id
  index := entry.2
  device := entry.1.2.device
  frontDeviceIdentifier := front.deviceIdentifier
  frontDevice := front.device
  eventInputQueueSerialNumber := serialNumber

theorem activateAll_eq {id : ItemId} {front : QueueItem} {taken : List (Nat × QueueItem)}
    {world : World Environment}
    (hookedInfos : ∀ info ∈ world.activeFromInfos, Hooked world.input.devices info.device)
    (hooked : ∀ place ∈ taken, Hooked world.input.devices place.2.device) :
    activateAll id front taken world =
      world.activeFromInfos ++
      (taken.zipIdx.map (activated id front world.serialNumber)).reverse := by
  have devices : ∀ entry ∈ taken.zipIdx, Hooked world.input.devices entry.1.2.device :=
    fun entry member => hooked entry.1 (List.fst_mem_of_mem_zipIdx member)
  unfold activateAll
  generalize taken.zipIdx = entries at devices ⊢
  induction entries with
  | nil => simp
  | cons entry entries ih =>
      have rest := ih fun other member => devices other (by simp [member])
      have expired : ∀ info ∈ world.activeFromInfos ++
          (entries.map (activated id front world.serialNumber)).reverse,
            Hooked world.input.devices info.device := by
        intro info member
        rcases List.mem_append.mp member with old | new
        · exact hookedInfos info old
        · obtain ⟨other, there, rfl⟩ := List.mem_map.mp (List.mem_reverse.mp new)
          exact devices other (by simp [there])
      rw [List.foldr_cons, rest, eraseExpired_eq expired, List.map_cons, List.reverse_cons,
        ← List.append_assoc]
      rfl

theorem activated_presses {configured : Configured Environment} {id : ItemId}
    (known : lookup configs id = some configured) (front : QueueItem) (serialNumber : Nat)
    {queue : List QueueItem} {taken : List (Nat × QueueItem)}
    (isTaken : Taken configured.config queue taken) :
    (taken.zipIdx.map (activated id front serialNumber)).map (pressOfInfo configs) =
      taken.map fun place => pressOf place.2 := by
  have same : ∀ entry ∈ taken.zipIdx,
      pressOfInfo configs (activated id front serialNumber entry) = pressOf entry.1.2 := by
    intro entry member
    have present := List.mem_zipIdx_iff_getElem?.mp member
    apply pressOfInfo_of_isActive known
    refine ⟨rfl, rfl, ?_⟩
    show configured.config.fromInfo[entry.2]? = some (fromEventOf entry.1.2)
    rw [← isTaken.keys, List.getElem?_map, present, Option.map_some]
  rw [List.map_map, List.map_congr_left (g := fun entry => pressOf entry.1.2) same]
  calc taken.zipIdx.map (fun entry => pressOf entry.1.2)
      = (taken.zipIdx.map Prod.fst).map (fun place => pressOf place.2) := by
        rw [List.map_map]
        rfl
    _ = taken.map fun place => pressOf place.2 := by
        rw [List.zipIdx_map_fst]

theorem postFromEvents_eq (config : SimultaneousKeyPresses) (front : QueueItem)
    {taken : List (Nat × QueueItem)} (world : World Environment)
    (downOrUp : ∀ place ∈ taken, place.2.params.iskeydown.isSome) :
    ∃ posted, postFromEvents config front taken world = world.post posted ∧
      ∀ item ∈ posted, IsPosted item := by
  unfold postFromEvents
  split
  · induction taken with
    | nil => exact ⟨[], rfl, by simp⟩
    | cons place taken ih =>
        obtain ⟨posted, result, isPosted⟩ :=
          ih fun other member => downOrUp other (by simp [member])
        rw [List.foldr_cons, result]
        rcases enqueueFront_cases (world.post posted)
            { place.2 with
              retainFlagStatusTemporaryCount := false
              deviceIdentifier := front.deviceIdentifier
              device := front.device
              ic := ⟨(world.post posted).now⟩
              isSimultaneousKeyPressesTarget := false
              enqueuedFrom := .HARDWARE } with one | none
        · refine ⟨_, one.trans (post_post _ _ _), ?_⟩
          intro item member
          rcases List.mem_append.mp member with new | old
          · obtain rfl := List.mem_singleton.mp new
            exact ⟨rfl, downOrUp place (by simp), rfl⟩
          · exact isPosted item old
        · exact ⟨posted, none.trans (post_post _ _ _), isPosted⟩
  · exact ⟨[], rfl, by simp⟩

/-- A combination takes its key-downs and makes their FromInfos active. -/
theorem handleKeyDown_eq (pairs : Pairs) (good : Good configs arrivals resets state)
    {configured : Configured Environment} {id : ItemId}
    (pushes : configured.config.pushedKey ≠ KeyCode.VK_NONE) (front : QueueItem)
    (targets : ∀ item ∈ state.world.input.queue_, IsTarget item)
    {taken : List (Nat × QueueItem)}
    (isTaken : Taken configured.config state.world.input.queue_ taken) :
    ∃ (posted : List QueueItem) (keyDown : QueueItem),
      handleKeyDown pairs configured.config id front taken state.world =
        (.APPLIED,
          { state.world with
            input :=
              { state.world.input with
                queue_ := posted ++
                  removePlaces state.world.input.queue_ (taken.map Prod.fst) }
            activeFromInfos := state.world.activeFromInfos ++
              (taken.zipIdx.map (activated id front state.world.serialNumber)).reverse
            log := state.world.log ++
              [.applied id state.world.serialNumber (taken.map Prod.snd) (some keyDown)] }) ∧
        posted ≠ [] ∧ (∀ item ∈ posted, IsPosted item) ∧
          IsPushed configured.config true keyDown := by
  have there : ∀ place ∈ taken, place.2 ∈ state.world.input.queue_ := fun place member =>
    List.mem_of_getElem? (isTaken.placed place member)
  have hooked : ∀ place ∈ taken, Hooked state.world.input.devices place.2.device :=
    fun place member => good.hooked _ (there place member) (targets _ (there place member)).target
  have downOrUp : ∀ place ∈ taken, place.2.params.iskeydown.isSome := fun place member =>
    Option.isSome_iff_exists.mpr ⟨_, (targets _ (there place member)).downOrUp⟩
  unfold handleKeyDown
  rw [activateAll_eq good.hookedInfos hooked]
  obtain ⟨raw, result, isPosted⟩ := postFromEvents_eq configured.config front
    { state.world with
      input :=
        { state.world.input with
          queue_ := removePlaces state.world.input.queue_ (taken.map Prod.fst) }
      activeFromInfos := state.world.activeFromInfos ++
        (taken.zipIdx.map (activated id front state.world.serialNumber)).reverse } downOrUp
  simp only [result]
  obtain ⟨keyDown, pushed, isPushed, isPosted', result'⟩ :=
    pushRemapped_eq pairs pushes true front.deviceIdentifier front.device
      (World.post { state.world with
        input :=
          { state.world.input with
            queue_ := removePlaces state.world.input.queue_ (taken.map Prod.fst) }
        activeFromInfos := state.world.activeFromInfos ++
          (taken.zipIdx.map (activated id front state.world.serialNumber)).reverse } raw)
  rw [pushed, result']
  refine ⟨keyDown :: raw, keyDown, rfl, by simp, ?_, isPushed⟩
  intro item member
  rcases List.mem_cons.mp member with rfl | old
  · exact isPosted'
  · exact isPosted item old

/-- The state after the release of a from-key. -/
theorem Good.release (good : Good configs arrivals resets state)
    {configured : Configured Environment} {id : ItemId}
    (known : lookup configs id = some configured) {front : QueueItem} {rest : List QueueItem}
    (next : state.world.input.queue_ = front :: rest) (isTarget : IsTarget front)
    (isUp : isDown front = false) {active : ActiveFromInfo}
    (member : active ∈ state.world.activeFromInfos)
    (isActive : IsActive configured.config id front active) {posted : List QueueItem}
    (isPosted : ∀ item ∈ posted, IsPosted item) {pushed : Option QueueItem}
    (last : if infosOf id active.eventInputQueueSerialNumber
        (withoutPress configs (pressOf front) state.world.activeFromInfos) = [] then
      ∃ keyUp, pushed = some keyUp ∧ IsPushed configured.config false keyUp
      else pushed = none) :
    Good configs arrivals resets
      { state with
        world :=
          { state.world with
            input := { state.world.input with queue_ := posted ++ rest }
            activeFromInfos := withoutPress configs (pressOf front) state.world.activeFromInfos
            log := state.world.log ++
              [.released id active.eventInputQueueSerialNumber front pushed] }
        activeItems :=
          if pushed.isSome then state.activeItems.erase (id, .SIMULTANEOUSBUTTONPRESSES)
          else state.activeItems } := by
  have same := pressOfInfo_of_isActive known isActive
  have targets := good.all_targets next isTarget.target
  have own := isActive.item
  subst own
  have recorded := good.recorded member
  have not_later : ¬state.world.serialNumber < active.eventInputQueueSerialNumber := fun later =>
    recorded (good.unusedLater _ _ later)
  have not_now : active.eventInputQueueSerialNumber ≠ state.world.serialNumber := by
    intro now
    rw [now] at recorded
    exact recorded (good.unusedNow (fun item there => (targets item there).target) _)
  have unused : ∀ other number, state.world.serialNumber ≤ number →
      state.world.log.filter (·.isOf other number) = [] →
        (state.world.log ++ [Entry.released active.item active.eventInputQueueSerialNumber front
          pushed]).filter (·.isOf other number) = [] := by
    intro other number later none
    have different : active.eventInputQueueSerialNumber ≠ number := by omega
    rw [List.filter_append, none]
    simp [Entry.isOf, different]
  have delivered := good.delivered
  rw [next] at delivered targets
  have held : pressOf front ∈ state.world.activeFromInfos.map (pressOfInfo configs) :=
    same ▸ List.mem_map_of_mem member
  have old_hooked : ∀ info ∈ withoutPress configs (pressOf front) state.world.activeFromInfos,
      info ∈ state.world.activeFromInfos := fun info there => List.mem_of_mem_filter there
  refine ⟨good.ledger.release good.delivered.nodup member same known last,
    (delivered.release isTarget isUp held _ _ pushed).push fun item there =>
      (isPosted item there).other, ⟨posted, rest, rfl, isPosted, ?_⟩, ?_,
    fun info there => good.hookedInfos info (old_hooked info there),
    fun info there => good.keyed info (old_hooked info there), ?_, ?_, good.unblocked,
    good.resets, good.enabled, good.everyClass⟩
  · exact fun item there => targets item (by simp [there])
  · intro item there target
    rcases List.mem_append.mp there with new | old
    · rw [(isPosted item new).other] at target
      exact Bool.noConfusion target
    · exact good.hooked item (by simp [next, old]) target
  · exact fun other number later =>
      unused other number later.le (good.unusedLater other number later)
  · intro _ other
    refine unused other _ le_rfl (good.unusedNow ?_ other)
    rw [next]
    exact fun item there => (targets item there).target

/-- The state after a combination has taken its key-downs. -/
theorem Good.apply (good : Good configs arrivals resets state)
    (alternating : Alternating arrivals) {configured : Configured Environment} {id : ItemId}
    (known : lookup configs id = some configured) (front : QueueItem)
    (targets : ∀ item ∈ state.world.input.queue_, IsTarget item)
    {taken : List (Nat × QueueItem)}
    (isTaken : Taken configured.config state.world.input.queue_ taken) (some_ : taken ≠ [])
    {posted : List QueueItem} (post : posted ≠ []) (isPosted : ∀ item ∈ posted, IsPosted item)
    {keyDown : QueueItem} (isPushed : IsPushed configured.config true keyDown) :
    Good configs arrivals resets
      { state with
        world :=
          { state.world with
            input :=
              { state.world.input with
                queue_ := posted ++
                  removePlaces state.world.input.queue_ (taken.map Prod.fst) }
            activeFromInfos := state.world.activeFromInfos ++
              (taken.zipIdx.map (activated id front state.world.serialNumber)).reverse
            log := state.world.log ++
              [.applied id state.world.serialNumber (taken.map Prod.snd) (some keyDown)] }
        activeItems := state.activeItems ++ [(id, .SIMULTANEOUSBUTTONPRESSES)] } := by
  have there : ∀ place ∈ taken, place.2 ∈ state.world.input.queue_ := fun place member =>
    List.mem_of_getElem? (isTaken.placed place member)
  have kept : ∀ item ∈ removePlaces state.world.input.queue_ (taken.map Prod.fst),
      item ∈ state.world.input.queue_ := by
    intro item member
    obtain ⟨entry, kept, rfl⟩ := List.mem_map.mp member
    exact List.fst_mem_of_mem_zipIdx (List.mem_of_mem_filter kept)
  have presses : ((taken.zipIdx.map (activated id front state.world.serialNumber)).reverse.map
      (pressOfInfo configs)).Perm (taken.map fun place => pressOf place.2) := by
    rw [List.map_reverse, activated_presses known front _ isTaken]
    exact List.reverse_perm _
  have added :
      ∀ info ∈ (taken.zipIdx.map (activated id front state.world.serialNumber)).reverse,
      ∃ entry ∈ taken.zipIdx, activated id front state.world.serialNumber entry = info :=
    fun info member => List.mem_map.mp (List.mem_reverse.mp member)
  have unused := good.unusedNow (fun item member => (targets item member).target)
  refine ⟨good.ledger.apply known (unused id) isPushed ?_ (by simpa using some_) ?_ ?_,
    (good.delivered.apply alternating targets isTaken presses _ _ _).push fun item member =>
      (isPosted item member).other,
    ⟨posted, _, rfl, isPosted, fun item member => targets item (kept item member)⟩, ?_, ?_, ?_,
    ?_, ?_, good.unblocked, good.resets, good.enabled, good.everyClass⟩
  · rw [← isTaken.keys, List.map_map]
    rfl
  · intro info member
    obtain ⟨entry, -, rfl⟩ := added info member
    exact ⟨rfl, rfl⟩
  · rw [List.map_map]
    exact presses
  · intro item member target
    rcases List.mem_append.mp member with new | old
    · rw [(isPosted item new).other] at target
      exact Bool.noConfusion target
    · exact good.hooked item (kept item old) target
  · intro info member
    rcases List.mem_append.mp member with old | new
    · exact good.hookedInfos info old
    · obtain ⟨entry, inside, rfl⟩ := added info new
      have place := there entry.1 (List.fst_mem_of_mem_zipIdx inside)
      exact good.hooked _ place (targets _ place).target
  · intro info member
    rcases List.mem_append.mp member with old | new
    · exact good.keyed info old
    · have press : pressOfInfo configs info ∈ taken.map fun place => pressOf place.2 :=
        presses.mem_iff.mp (List.mem_map_of_mem new)
      obtain ⟨place, -, same⟩ := List.mem_map.mp press
      rw [← (Prod.mk.inj same).2]
      rfl
  · intro other number later
    rw [List.filter_append, good.unusedLater other number later]
    have different : state.world.serialNumber ≠ number := by
      show state.world.serialNumber ≠ number
      exact later.ne
    simp [Entry.isOf, different]
  · intro allTargets
    obtain ⟨first, more, rfl⟩ := List.exists_cons_of_ne_nil post
    have target := allTargets first (by simp)
    rw [(isPosted first (by simp)).other] at target
    exact Bool.noConfusion target

/-- The three ways through the function. -/
theorem remapSimultaneousKeyPresses_cases (pairs : Pairs) (config : SimultaneousKeyPresses)
    (id : ItemId) (isOn : Environment → List ModifierFlag → Bool) (world : World Environment) :
    (remapSimultaneousKeyPresses pairs config id isOn world = (.NOT_CHANGED, world) ∧
      ∀ front ∈ world.input.queue_.head?, front.isSimultaneousKeyPressesTarget = true →
        activeForUp config id front world.activeFromInfos = none) ∨
    ∃ front rest, world.input.queue_ = front :: rest ∧
      front.isSimultaneousKeyPressesTarget = true ∧
      ((∃ active, activeForUp config id front world.activeFromInfos = some active ∧
        remapSimultaneousKeyPresses pairs config id isOn world =
          handleKeyUp pairs config id front rest active world) ∨
      ∃ taken, isOn world.environment config.fromModifierFlags = true ∧
        config.completeDownKeys world.input.queue_ = some taken ∧
          remapSimultaneousKeyPresses pairs config id isOn world =
            handleKeyDown pairs config id front taken world) := by
  unfold remapSimultaneousKeyPresses
  cases queue : world.input.queue_ with
  | nil => exact .inl ⟨rfl, by simp⟩
  | cons front rest =>
      cases target : front.isSimultaneousKeyPressesTarget with
      | false =>
          refine .inl ⟨by simp [target], ?_⟩
          intro first isFirst targetFirst
          obtain rfl : front = first := by simpa using isFirst
          rw [target] at targetFirst
          exact Bool.noConfusion targetFirst
      | true =>
          cases active : activeForUp config id front world.activeFromInfos with
          | some info =>
              exact .inr
                ⟨front, rest, rfl, target, .inl ⟨info, active, by simp [target, active]⟩⟩
          | none =>
              have free : ∀ first ∈ (front :: rest).head?,
                  first.isSimultaneousKeyPressesTarget = true →
                    activeForUp config id first world.activeFromInfos = none := by
                intro first isFirst _
                obtain rfl : front = first := by simpa using isFirst
                exact active
              cases flags : isOn world.environment config.fromModifierFlags with
              | false => exact .inl ⟨by simp [target, active], free⟩
              | true =>
                  cases complete : config.completeDownKeys (front :: rest) with
                  | none => exact .inl ⟨by simp [target, active], free⟩
                  | some taken =>
                      exact .inr ⟨front, rest, rfl, target,
                        .inr ⟨taken, rfl, rfl, by simp [target, active]⟩⟩

def targetCount (queue : List QueueItem) : Nat :=
  queue.countP (·.isSimultaneousKeyPressesTarget)

theorem targetCount_post {posted : List QueueItem} (isPosted : ∀ item ∈ posted, IsPosted item)
    (queue : List QueueItem) : targetCount (posted ++ queue) = targetCount queue := by
  have none : posted.countP (·.isSimultaneousKeyPressesTarget) = 0 :=
    List.countP_eq_zero.mpr fun item member => by simp [(isPosted item member).other]
  rw [targetCount, List.countP_append, none, Nat.zero_add, targetCount]

theorem targetCount_removePlaces {config : SimultaneousKeyPresses} {queue : List QueueItem}
    (targets : ∀ item ∈ queue, IsTarget item) {taken : List (Nat × QueueItem)}
    (isTaken : Taken config queue taken) (some_ : taken ≠ []) :
    targetCount (removePlaces queue (taken.map Prod.fst)) < targetCount queue := by
  have all : targetCount queue = queue.length :=
    List.countP_eq_length.mpr fun item member => (targets item member).target
  have fewer : (queue.zipIdx.filter fun entry =>
      !decide (entry.2 ∈ taken.map Prod.fst)).length < queue.zipIdx.length := by
    obtain ⟨place, more, rfl⟩ := List.exists_cons_of_ne_nil some_
    rw [List.length_filter_lt_length_iff_exists]
    have here := isTaken.placed place (by simp)
    exact ⟨(place.2, place.1), List.mem_zipIdx_iff_getElem?.mpr here, by simp⟩
  rw [all, removePlaces_eq]
  refine Nat.lt_of_le_of_lt List.countP_le_length ?_
  rwa [List.length_map, ← List.length_zipIdx (l := queue) (i := 0)]

/-- In a pass for a key-down the front is no key-up. -/
def Steady (iskeydown : Bool) (state : State Environment) : Prop :=
  iskeydown = true → ∀ front ∈ state.world.input.queue_.head?,
    front.isSimultaneousKeyPressesTarget = true → isDown front = true

/-- The front is not the key-up of an active from-key of the item. -/
def Passes (configured : Configured Environment) (id : ItemId) (state : State Environment) :
    Prop :=
  ∀ front ∈ state.world.input.queue_.head?, front.isSimultaneousKeyPressesTarget = true →
    isDown front = false → ∀ info ∈ state.world.activeFromInfos,
      ¬IsActive configured.config id front info

/-- What the visit of one item does to queue_. -/
inductive Visited (configs : List (List (Configured Environment))) (arrivals : List QueueItem)
    (resets : Nat) (iskeydown : Bool) (configured : Configured Environment) (id : ItemId)
    (progress next : Bool × State Environment) : Prop where
  | idle (same : next = progress) (passes : Passes configured id progress.2)
  | changed (isChanged : next.1 = true) (good : Good configs arrivals resets next.2)
      (steady : Steady iskeydown next.2)
      (fewer : targetCount next.2.world.input.queue_ <
        targetCount progress.2.world.input.queue_)

/-- The item of remapclasses_ that the configuration makes. -/
def itemOf (pairs : Pairs) (isOn : Environment → List ModifierFlag → Bool) (id : ItemId)
    (configured : Configured Environment) : Remapping.Item (World Environment) :=
  ⟨some (processor pairs configured.config id isOn), configured.filters⟩

theorem itemOf_reaches (pairs : Pairs) (isOn : Environment → List ModifierFlag → Bool)
    (good : Good configs arrivals resets state) {configured : Configured Environment}
    (filters : ∀ filter ∈ configured.filters, filter.isDeviceFilter = false) (id : ItemId)
    (iskeydown : Bool) :
    (itemOf pairs isOn id configured).reachesProcessor
        (processor pairs configured.config id isOn) id .SIMULTANEOUSBUTTONPRESSES iskeydown false
        state =
      if iskeydown then !(itemOf pairs isOn id configured).isblocked state.world
      else state.activeItems.contains (id, .SIMULTANEOUSBUTTONPRESSES) := by
  have open_ : (itemOf pairs isOn id configured).isblockedKeyup state.world = false := by
    refine List.any_eq_false.mpr fun filter member => ?_
    simp [Remapping.RemapFilterBase.isblockedKeyup, filters filter member]
  cases iskeydown <;> simp [Remapping.Item.reachesProcessor, good.enabled, open_]

/-- What the answer of the processor does to ActiveItems. -/
def answered (id : ItemId) (iskeydown : Bool) (state : State Environment) :
    Remapping.RemapSimultaneousKeyPressesResult × World Environment → Bool × State Environment
  | (.NOT_CHANGED, world) => (false, { state with world })
  | (.QUEUE_CHANGED, world) => (true, { state with world })
  | (.APPLIED, world) =>
      (true, { state with
        world
        activeItems := Remapping.Item.updateActiveItems id .SIMULTANEOUSBUTTONPRESSES iskeydown
          state.activeItems })

theorem itemOf_remap (pairs : Pairs) (isOn : Environment → List ModifierFlag → Bool)
    (good : Good configs arrivals resets state) {configured : Configured Environment}
    (filters : ∀ filter ∈ configured.filters, filter.isDeviceFilter = false) (id : ItemId)
    (iskeydown : Bool) :
    (itemOf pairs isOn id configured).remapSimultaneousKeyPresses id iskeydown false state =
      if (if iskeydown then !(itemOf pairs isOn id configured).isblocked state.world
          else state.activeItems.contains (id, .SIMULTANEOUSBUTTONPRESSES)) then
        answered id iskeydown state
          (remapSimultaneousKeyPresses pairs configured.config id isOn state.world)
      else (false, state) := by
  rw [← itemOf_reaches pairs isOn good filters id iskeydown]
  show (if _ then _ else _) = _
  split
  · rcases outcome : remapSimultaneousKeyPresses pairs configured.config id isOn state.world with
      ⟨result, world⟩
    simp only [processor, outcome]
    cases result <;> rfl
  · rfl

theorem Good.passes_of_inactive (good : Good configs arrivals resets state) {id : ItemId}
    (inactive : (id, .SIMULTANEOUSBUTTONPRESSES) ∉ state.activeItems)
    (configured : Configured Environment) : Passes configured id state := by
  intro front _ _ _ info member active
  have none := good.ledger.active id
  rw [List.count_eq_zero_of_not_mem inactive] at none
  have empty := Finset.card_eq_zero.mp none.symm
  have alive : info.eventInputQueueSerialNumber ∈
      serialNumbers id state.world.activeFromInfos := by
    simp only [serialNumbers, List.mem_toFinset]
    exact List.mem_map_of_mem (List.mem_filter.mpr ⟨member, by simpa using active.item⟩)
  rw [empty] at alive
  exact absurd alive (Finset.notMem_empty _)

theorem Good.passes_of_none (good : Good configs arrivals resets state) {id : ItemId}
    {configured : Configured Environment}
    (none : ∀ front ∈ state.world.input.queue_.head?,
      front.isSimultaneousKeyPressesTarget = true →
        activeForUp configured.config id front state.world.activeFromInfos = none) :
    Passes configured id state := by
  intro front first target up
  obtain ⟨rest, queue⟩ := List.head?_eq_some_iff.mp first
  have isTarget := good.all_targets queue target front (by simp [queue])
  exact activeForUp_none isTarget up (none front first target)

theorem visit_visited (pairs : Pairs) {isOn : Environment → List ModifierFlag → Bool}
    (good : Good configs arrivals resets state) (alternating : Alternating arrivals)
    {iskeydown : Bool} (steady : Steady iskeydown state) {configured : Configured Environment}
    {id : ItemId} (known : lookup configs id = some configured)
    (pushes : configured.config.pushedKey ≠ KeyCode.VK_NONE)
    (filters : ∀ filter ∈ configured.filters, filter.isDeviceFilter = false)
    (reads : ¬Misreads isOn configs iskeydown state id) (changed : Bool) :
    Visited configs arrivals resets iskeydown configured id (changed, state)
      (Remapping.State.visitSimultaneous iskeydown false (changed, state)
        (id, itemOf pairs isOn id configured)) := by
  have visited : Remapping.State.visitSimultaneous iskeydown false (changed, state)
      (id, itemOf pairs isOn id configured) =
        (changed || ((itemOf pairs isOn id configured).remapSimultaneousKeyPresses id iskeydown
          false state).1, ((itemOf pairs isOn id configured).remapSimultaneousKeyPresses id
            iskeydown false state).2) := rfl
  rw [visited, itemOf_remap pairs isOn good filters id iskeydown]
  by_cases reached : (if iskeydown then !(itemOf pairs isOn id configured).isblocked state.world
      else state.activeItems.contains (id, .SIMULTANEOUSBUTTONPRESSES)) = true
  · rw [if_pos reached]
    rcases remapSimultaneousKeyPresses_cases pairs configured.config id isOn state.world with
      ⟨same, none⟩ | ⟨front, rest, queue, target, ⟨active, found, result⟩ |
        ⟨taken, on, complete, result⟩⟩
    · rw [same]
      exact .idle (by simp [answered]) (good.passes_of_none none)
    · have targets := good.all_targets queue target
      have isTarget := targets front (by simp [queue])
      obtain ⟨member, isActive, isUp⟩ := activeForUp_some isTarget found
      obtain ⟨posted, pushed, shape, isPosted, last⟩ :=
        handleKeyUp_eq pairs good known pushes isTarget rest member isActive
      have after := good.release known queue isTarget isUp member isActive isPosted last
      have isUpPass : iskeydown = false := by
        cases iskeydown with
        | false => rfl
        | true =>
            have down := steady rfl front (by simp [queue]) target
            rw [isUp] at down
            exact Bool.noConfusion down
      have fewer : targetCount (posted ++ rest) < targetCount state.world.input.queue_ := by
        rw [targetCount_post isPosted, queue]
        simp [targetCount, target]
      subst isUpPass
      rw [result, shape]
      cases pushed with
      | none => exact .changed (by simp [answered]) after (by simp [Steady]) fewer
      | some keyUp => exact .changed (by simp [answered]) after (by simp [Steady]) fewer
    · have targets := good.all_targets queue target
      obtain ⟨isTaken, some_⟩ := completeDownKeys_taken targets complete
      obtain ⟨posted, keyDown, shape, post, isPosted, isPushed⟩ :=
        handleKeyDown_eq pairs good pushes front targets isTaken
      have after := good.apply alternating known front targets isTaken some_ post isPosted isPushed
      have fewer := targetCount_removePlaces targets isTaken some_
      rw [← targetCount_post isPosted] at fewer
      cases iskeydown with
      | false =>
          refine absurd
            ⟨rfl, ?_, configured, known, on, ⟨front, by simp [queue], target⟩, ?_⟩ reads
          · simpa using reached
          · simp [complete]
      | true =>
          rw [result, shape]
          refine .changed (by simp [answered]) after ?_ fewer
          intro _ first isFirst targetFirst
          obtain ⟨head, more, rfl⟩ := List.exists_cons_of_ne_nil post
          obtain rfl : head = first := by simpa [answered] using isFirst
          rw [(isPosted head (by simp)).other] at targetFirst
          exact Bool.noConfusion targetFirst
  · rw [if_neg reached]
    refine .idle (by simp) ?_
    cases iskeydown with
    | true =>
        intro front first target up
        rw [steady rfl front first target] at up
        exact Bool.noConfusion up
    | false => exact good.passes_of_inactive (by simpa using reached) configured

theorem remapclasses_get (pairs : Pairs) (isOn : Environment → List ModifierFlag → Bool)
    (configs : List (List (Configured Environment))) (index : Nat) :
    (remapclasses pairs isOn configs)[index]? = configs[index]?.map fun items =>
      ⟨items.mapIdx fun j item => itemOf pairs isOn (index, j) item⟩ := by
  rw [remapclasses, List.getElem?_mapIdx]
  rfl

theorem mem_visited (pairs : Pairs) (isOn : Environment → List ModifierFlag → Bool)
    (everyClass : state.enabledRemapclasses = List.range configs.length)
    {visited : ItemId × Remapping.Item (World Environment)} :
    visited ∈ state.visited (remapclasses pairs isOn configs) ↔
      ∃ configured, lookup configs visited.1 = some configured ∧
        visited.2 = itemOf pairs isOn visited.1 configured := by
  obtain ⟨⟨i, j⟩, item⟩ := visited
  simp only [Remapping.State.visited, everyClass, List.mem_flatMap, List.mem_range,
    Remapping.mem_itemsOf, remapclasses_get, lookup, Option.mem_def, Option.map_eq_some_iff]
  constructor
  · rintro ⟨index, inside, remapclass, ⟨items, present, rfl⟩, rfl, here⟩
    rw [List.getElem?_mapIdx, Option.map_eq_some_iff] at here
    obtain ⟨configured, there, rfl⟩ := here
    exact ⟨configured, by rw [present, Option.bind_some, there], rfl⟩
  · rintro ⟨configured, found, rfl⟩
    obtain ⟨items, present, there⟩ := Option.bind_eq_some_iff.mp found
    have inside := (List.getElem?_eq_some_iff.mp present).choose
    refine ⟨i, inside, _, ⟨items, present, rfl⟩, rfl, ?_⟩
    rw [List.getElem?_mapIdx, there, Option.map_some]

theorem not_passThrough (pairs : Pairs) (isOn : Environment → List ModifierFlag → Bool)
    (everyClass : state.enabledRemapclasses = List.range configs.length) :
    state.isPassThroughEnabled (remapclasses pairs isOn configs) = false := by
  refine List.any_eq_false.mpr fun visited member => ?_
  obtain ⟨id, item⟩ := visited
  obtain ⟨configured, -, same⟩ := (mem_visited pairs isOn everyClass).mp member
  dsimp only at same
  subst same
  unfold Remapping.Item.isPassThroughEnabled itemOf
  dsimp only
  split
  · simp
  · split <;> simp [processor, Remapping.REMAPTYPE_PASSTHROUGH,
      Bridge.REMAPTYPE_SIMULTANEOUSKEYPRESSES]

end

/-- The item pushes a key, and its filters do not ask for the device. -/
structure Configured.Admissible (item : Configured Environment) : Prop where
  pushes : item.config.pushedKey ≠ KeyCode.VK_NONE
  filters : ∀ filter ∈ item.filters, filter.isDeviceFilter = false

def Admissible (configs : List (List (Configured Environment))) : Prop :=
  ∀ items ∈ configs, ∀ item ∈ items, item.Admissible

section
variable {configs : List (List (Configured Environment))} {arrivals : List QueueItem}
  {resets : Nat} {state : State Environment}

theorem Admissible.of_lookup (admissible : Admissible configs) {id : ItemId}
    {configured : Configured Environment} (known : lookup configs id = some configured) :
    configured.Admissible := by
  obtain ⟨items, present, there⟩ := Option.bind_eq_some_iff.mp known
  exact admissible items (List.mem_of_getElem? present) configured (List.mem_of_getElem? there)

theorem Good.beginPass (good : Good configs arrivals resets state) (environment : Environment)
    (front : QueueItem) : Good configs arrivals resets (beginPass environment front state) :=
  ⟨good.ledger, good.delivered, good.postedFirst, good.hooked, good.hookedInfos, good.keyed,
    good.unusedLater, good.unusedNow, good.unblocked, good.resets, good.enabled, good.everyClass⟩

/-- A pass over the items leaves all as it was, or takes targets from queue_. -/
theorem pass_visited (pairs : Pairs) {isOn : Environment → List ModifierFlag → Bool}
    (admissible : Admissible configs) (alternating : Alternating arrivals) {iskeydown : Bool}
    {visits : List (ItemId × Remapping.Item (World Environment))}
    (items : ∀ visited ∈ visits, ∃ configured, lookup configs visited.1 = some configured ∧
      visited.2 = itemOf pairs isOn visited.1 configured)
    (good : Good configs arrivals resets state) (steady : Steady iskeydown state)
    {changed : Bool}
    (reads : Transition.Along (Remapping.State.visitSimultaneous iskeydown false)
      (fun progress visited => ¬Misreads isOn configs iskeydown progress.2 visited.1)
      (changed, state) visits) :
    let pass := Transition.run (Remapping.State.visitSimultaneous iskeydown false)
      (changed, state) visits
    (pass = (changed, state) ∧ ∀ visited ∈ visits, ∀ configured,
      lookup configs visited.1 = some configured → Passes configured visited.1 state) ∨
    (pass.1 = true ∧ Good configs arrivals resets pass.2 ∧
      targetCount pass.2.world.input.queue_ < targetCount state.world.input.queue_) := by
  induction visits generalizing changed state with
  | nil => exact .inl ⟨rfl, by simp⟩
  | cons visited visits ih =>
      obtain ⟨id, item⟩ := visited
      obtain ⟨configured, known, same⟩ := items (id, item) (by simp)
      dsimp only at known same
      subst same
      have later := fun other member => items other (List.mem_cons_of_mem _ member)
      obtain ⟨pushes, filters⟩ := admissible.of_lookup known
      have visit := visit_visited pairs good alternating steady known pushes filters reads.1 changed
      have rest := reads.2
      rw [Transition.run_cons]
      generalize Remapping.State.visitSimultaneous iskeydown false (changed, state)
        (id, itemOf pairs isOn id configured) = next at visit rest ⊢
      obtain ⟨nextChanged, nextState⟩ := next
      cases visit with
      | idle same passes =>
          obtain ⟨rfl, rfl⟩ := Prod.mk.inj same
          refine (ih later good steady rest).imp_left ?_
          rintro ⟨unchanged, others⟩
          refine ⟨unchanged, fun other member other_configured found => ?_⟩
          rcases List.mem_cons.mp member with rfl | inside
          · obtain rfl := Option.some.inj (known.symm.trans found)
            exact passes
          · exact others other inside other_configured found
      | changed isChanged after steady' fewer =>
          right
          rcases ih later after steady' rest with ⟨unchanged, -⟩ | ⟨isTrue, good', fewer'⟩
          · rw [unchanged]
            exact ⟨isChanged, after, fewer⟩
          · exact ⟨isTrue, good', fewer'.trans fewer⟩

/-- The loop ends, and no active from-key has its key-up in front then. -/
theorem loop_good (pairs : Pairs) {isOn : Environment → List ModifierFlag → Bool}
    (admissible : Admissible configs) (alternating : Alternating arrivals)
    (environments : Nat → Environment) (fuel : Nat)
    (good : Good configs arrivals resets state)
    (enough : targetCount state.world.input.queue_ < fuel)
    (reads : RoundsRead pairs isOn configs environments fuel state) :
    Good configs arrivals resets
        (handleSimultaneousKeyPresses pairs isOn configs environments fuel state) ∧
      ∀ id configured, lookup configs id = some configured →
        Passes configured id
          (handleSimultaneousKeyPresses pairs isOn configs environments fuel state) := by
  induction fuel generalizing state with
  | zero => omega
  | succ fuel ih =>
      rw [RoundsRead] at reads
      rw [handleSimultaneousKeyPresses]
      cases queue : state.world.input.queue_ with
      | nil => exact ⟨good, fun _ _ _ => by simp [Passes, queue]⟩
      | cons front rest =>
          rw [queue] at reads
          dsimp only at reads ⊢
          have begun : Good configs arrivals resets
              (beginPass (environments fuel) front state) := good.beginPass _ front
          have everyClass : (beginPass (environments fuel) front state).enabledRemapclasses =
              List.range configs.length := good.everyClass
          have steady : Steady (front.params.iskeydown.getD true)
              (beginPass (environments fuel) front state) := by
            intro down first isFirst target
            have isFirst' : first ∈ state.world.input.queue_.head? := isFirst
            rw [queue] at isFirst'
            obtain rfl : front = first := by simpa using isFirst'
            rwa [(good.all_targets queue target front (by simp [queue])).downOrUp,
              Option.getD_some] at down
          have visits : ∀ visited ∈ (beginPass (environments fuel) front state).visited
              (remapclasses pairs isOn configs), ∃ configured,
                lookup configs visited.1 = some configured ∧
                  visited.2 = itemOf pairs isOn visited.1 configured :=
            fun visited member => (mem_visited pairs isOn everyClass).mp member
          rw [not_passThrough pairs isOn everyClass] at reads
          have pass := pass_visited pairs admissible alternating visits begun steady reads.1
          have unfolded : (beginPass (environments fuel) front state).remapSimultaneousKeyPresses
              (remapclasses pairs isOn configs) (front.params.iskeydown.getD true) =
                Transition.run (Remapping.State.visitSimultaneous
                  (front.params.iskeydown.getD true) false)
                  (false, beginPass (environments fuel) front state)
                  ((beginPass (environments fuel) front state).visited
                    (remapclasses pairs isOn configs)) := by
            rw [Remapping.State.remapSimultaneousKeyPresses, not_passThrough pairs isOn everyClass]
          rw [← unfolded] at pass
          rcases pass with ⟨unchanged, passes⟩ | ⟨changed, after, fewer⟩
          · rw [unchanged, if_neg Bool.false_ne_true]
            refine ⟨begun, fun id configured known => ?_⟩
            exact passes (id, itemOf pairs isOn id configured)
              ((mem_visited pairs isOn everyClass).mpr ⟨configured, known, rfl⟩)
              configured known
          · rw [if_pos changed]
            have fewer' : targetCount (Remapping.State.remapSimultaneousKeyPresses
                (remapclasses pairs isOn configs) (beginPass (environments fuel) front state)
                (front.params.iskeydown.getD true)).2.world.input.queue_ <
                  targetCount state.world.input.queue_ := fewer
            exact ih after (by omega) (reads.2 changed)

/-- With no BlockUntilKeyUp item the front item is fired, whatever the state. -/
theorem fireFrontItem_fires {input : EventInputQueue.State} {front : QueueItem}
    {rest : List QueueItem} (queue : input.queue_ = front :: rest)
    (downOrUp : front.params.iskeydown.isSome) (hardware : front.enqueuedFrom = .HARDWARE)
    (unblocked : input.blockedQueue_ = []) (allowDevicesMultipleSameKey : Bool) :
    let next := input.fireFrontItem
      { items := [], isPassThroughEnabled := false, allowDevicesMultipleSameKey }
    next.queue_ = rest ∧ next.blockedQueue_ = [] ∧ next.fired = input.fired ++ [front] ∧
      ∀ device, Hooked input.devices device → Hooked next.devices device := by
  have handled := EventInputQueue.State.fireFrontItem_handled queue downOrUp
    { items := [], isPassThroughEnabled := false, allowDevicesMultipleSameKey }
  intro next
  generalize sameNext : input.fireFrontItem
    { items := [], isPassThroughEnabled := false, allowDevicesMultipleSameKey } = fired at handled
  have same : next = fired := sameNext
  rw [same]
  have kept : ∀ device, Hooked input.devices device →
      Hooked (input.updatePressingPhysicalKeys
        { items := [], isPassThroughEnabled := false, allowDevicesMultipleSameKey }
          front).devices device := by
    rintro device ⟨hooked, member, rfl⟩
    refine ⟨_, List.mem_map_of_mem member, ?_⟩
    split <;> rfl
  cases handled with
  | passed isDown _ known free =>
      have queue' : ((input.updatePressingPhysicalKeys
          { items := [], isPassThroughEnabled := false, allowDevicesMultipleSameKey }
            front).updatePressingEvents front isDown).endBlocking.queue_ = front :: rest := by
        show input.blockedQueue_.map _ ++ input.queue_ = _
        rw [unblocked, queue]
        rfl
      simp only [EventInputQueue.State.doFire, queue', downOrUp, if_true,
        EventInputQueue.State.resetInternalStateIfNeeded]
      split
      · exact ⟨rfl, rfl, rfl, kept⟩
      · exact ⟨rfl, rfl, rfl, kept⟩
  | returned marked =>
      rw [hardware] at marked
      exact EventInputQueue.EnqueuedFrom.noConfusion marked
  | moved _ _ target => simp [EventInputQueue.Config.isTargetEventForBlockUntilKeyUp] at target
  | completed _ _ _ need | blocked _ _ _ need =>
      simp [EventInputQueue.State.needToBlock,
        EventInputQueue.Config.isTargetEventForBlockUntilKeyUp] at need

theorem Good.reset (good : Good configs arrivals resets state)
    (settles : ∀ id, finished id state.world.log = applied id state.world.log) :
    Good configs arrivals resets
      { state with world := { state.world with activeFromInfos := [] }, activeItems := [] } := by
  have none : state.world.activeFromInfos = [] := by
    refine List.eq_nil_iff_forall_not_mem.mpr fun info member => ?_
    have settled := good.ledger.settled info.item
    rw [settles] at settled
    have empty := Finset.card_eq_zero.mp (Nat.add_eq_right.mp settled)
    have alive : info.eventInputQueueSerialNumber ∈
        serialNumbers info.item state.world.activeFromInfos := by
      simp only [serialNumbers, List.mem_toFinset]
      exact List.mem_map_of_mem (List.mem_filter.mpr ⟨member, by simp⟩)
    rw [empty] at alive
    exact absurd alive (Finset.notMem_empty _)
  have ledger := good.ledger
  have delivered := good.delivered
  rw [none] at ledger delivered
  exact ⟨⟨ledger.lives, fun id => by simp [serialNumbers], ledger.settled⟩, delivered,
    good.postedFirst, good.hooked, by simp, by simp, good.unusedLater, good.unusedNow,
    good.unblocked, good.resets, good.enabled, good.everyClass⟩

/-- The state after the front item is fired. -/
theorem Good.fire (good : Good configs arrivals resets state)
    (alternating : Alternating arrivals)
    (passes : ∀ id configured, lookup configs id = some configured →
      Passes configured id state) {front : QueueItem} {rest : List QueueItem}
    (queue : state.world.input.queue_ = front :: rest) {input : EventInputQueue.State}
    (next : input.queue_ = rest) (unblocked : input.blockedQueue_ = [])
    (hooked : ∀ device, Hooked state.world.input.devices device → Hooked input.devices device) :
    Good configs arrivals input.resets
      { state with
        world :=
          { state.world with
            input
            serialNumber := state.world.serialNumber + 1
            log := state.world.log ++ [.fired front] } } := by
  have delivered := good.delivered
  rw [queue] at delivered
  have log_filter : ∀ id number, (state.world.log ++ [Entry.fired front]).filter
      (·.isOf id number) = state.world.log.filter (·.isOf id number) := by
    intro id number
    simp [List.filter_append, Entry.isOf]
  have delivered' : Delivered configs arrivals rest state.world.activeFromInfos
      (state.world.log ++ [.fired front]) := by
    cases target : front.isSimultaneousKeyPressesTarget with
    | false => exact delivered.fireOther target
    | true =>
        have isTarget := good.all_targets queue target front (by simp [queue])
        refine delivered.fire alternating isTarget fun up held => ?_
        obtain ⟨info, member, press⟩ := List.mem_map.mp held
        have key : keyOf configs info = some (fromEventOf front) := (Prod.mk.inj press).2
        obtain ⟨configured, known, present⟩ := Option.bind_eq_some_iff.mp key
        exact passes info.item configured known front (by simp [queue]) target up info member
          ⟨rfl, (Prod.mk.inj press).1, present⟩
  obtain ⟨posted, fresh, split_, isPosted, isTarget⟩ := good.postedFirst
  have postedFirst : ∃ posted fresh, rest = posted ++ fresh ∧
      (∀ item ∈ posted, IsPosted item) ∧ ∀ item ∈ fresh, IsTarget item := by
    rw [queue] at split_
    cases posted with
    | nil =>
        refine ⟨[], rest, rfl, by simp, fun item member => isTarget item ?_⟩
        rw [← List.nil_append fresh, ← split_]
        exact List.mem_cons_of_mem _ member
    | cons first posted =>
        exact ⟨posted, fresh, (List.cons.inj split_).2,
          fun item member => isPosted item (List.mem_cons_of_mem _ member), isTarget⟩
  have old : ∀ item ∈ rest, item ∈ state.world.input.queue_ := fun item member => by
    rw [queue]
    exact List.mem_cons_of_mem _ member
  have later := good.unusedLater
  refine ⟨good.ledger.fire front, next ▸ delivered', next ▸ postedFirst, ?_,
    fun info member => hooked _ (good.hookedInfos info member), good.keyed, ?_, ?_, unblocked,
    rfl, good.enabled, good.everyClass⟩
  · intro item member target
    have member' : item ∈ input.queue_ := member
    rw [next] at member'
    exact hooked _ (good.hooked item (old item member') target)
  · intro id number above
    have above' : state.world.serialNumber + 1 < number := above
    rw [log_filter]
    exact later id number (by omega)
  · intro _ id
    rw [log_filter]
    exact later id _ (by simp)

theorem fireFrontItem_good (allowDevicesMultipleSameKey : Bool)
    (good : Good configs arrivals resets state) (alternating : Alternating arrivals)
    (passes : ∀ id configured, lookup configs id = some configured →
      Passes configured id state)
    (reads : (fireFrontItem allowDevicesMultipleSameKey state).world.input.resets = resets ∨
      ∀ id, finished id (fireFrontItem allowDevicesMultipleSameKey state).world.log =
        applied id (fireFrontItem allowDevicesMultipleSameKey state).world.log) :
    Good configs arrivals (fireFrontItem allowDevicesMultipleSameKey state).world.input.resets
      (fireFrontItem allowDevicesMultipleSameKey state) := by
  have same := good.resets
  unfold fireFrontItem at reads ⊢
  cases queue : state.world.input.queue_ with
  | nil =>
      dsimp only
      rw [same]
      exact good
  | cons front rest =>
      obtain ⟨posted, fresh, split_, isPosted, isTarget⟩ := good.postedFirst
      have shape : front.params.iskeydown.isSome ∧ front.enqueuedFrom = .HARDWARE := by
        rw [queue] at split_
        have member : front ∈ posted ++ fresh := by simp [← split_]
        rcases List.mem_append.mp member with here | here
        · exact ⟨(isPosted front here).downOrUp, (isPosted front here).hardware⟩
        · have target := isTarget front here
          exact ⟨Option.isSome_iff_exists.mpr ⟨_, target.downOrUp⟩, target.hardware⟩
      obtain ⟨next, unblocked, fired, hooked⟩ := fireFrontItem_fires queue shape.1 shape.2
        good.unblocked allowDevicesMultipleSameKey
      have after := good.fire alternating passes queue next unblocked hooked
      rw [queue] at reads
      dsimp only at reads ⊢
      rw [fired, List.drop_left, List.map_singleton] at reads ⊢
      split
      · next different =>
          rw [if_pos different] at reads
          rcases reads with same' | settles
          · exact absurd (same'.trans same.symm) different
          · exact after.reset settles
      · exact after

theorem Good.arrive (good : Good configs arrivals resets state)
    {arrival : EventInputQueue.Arrival}
    (hooked : Hooked state.world.input.devices arrival.device) :
    Good configs (arrivals ++ [arrival.item]) resets
      { state with
        world :=
          { state.world with input := state.world.input.enqueue arrival.item true } } := by
  have isTarget := Arrival.isTarget arrival
  have enqueued : state.world.input.enqueue arrival.item true =
      { state.world.input with queue_ := state.world.input.queue_ ++ [arrival.item] } := by
    simp [EventInputQueue.State.enqueue, isTarget.notRepeat]
  rw [enqueued]
  obtain ⟨posted, fresh, split_, isPosted, targets⟩ := good.postedFirst
  refine ⟨good.ledger, good.delivered.arrive _, ?_, ?_, good.hookedInfos, good.keyed,
    good.unusedLater, ?_, good.unblocked, good.resets, good.enabled, good.everyClass⟩
  · refine ⟨posted, fresh ++ [arrival.item], ?_, isPosted, ?_⟩
    · show state.world.input.queue_ ++ [arrival.item] = _
      rw [split_, List.append_assoc]
    · intro item member
      rcases List.mem_append.mp member with old | new
      · exact targets item old
      · rw [List.mem_singleton.mp new]
        exact isTarget
  · intro item member target
    rcases List.mem_append.mp member with old | new
    · exact good.hooked item old target
    · rw [List.mem_singleton.mp new]
      exact hooked
  · intro all
    exact good.unusedNow fun item member => all item (List.mem_append_left _ member)

end

section
variable {pairs : Pairs} {isOn : Environment → List ModifierFlag → Bool}
  {configs : List (List (Configured Environment))} {arrivals : List QueueItem}
  {resets : Nat} {state : State Environment}

theorem step_good (admissible : Admissible configs) {label : Step Environment}
    (good : Good configs arrivals resets state)
    (alternating : Alternating (arrivals ++ label.arrivals))
    (undisturbed : Undisturbed pairs isOn configs state label)
    (reads : Reads pairs isOn configs state label) :
    ∃ resets, Good configs (arrivals ++ label.arrivals) resets
      (step pairs isOn configs state label) := by
  cases label with
  | arrive arrival => exact ⟨resets, good.arrive undisturbed⟩
  | fireTimer environments now allowDevicesMultipleSameKey =>
      rw [Step.arrivals, List.append_nil] at alternating ⊢
      have good' : Good configs arrivals resets
          { state with world := { state.world with now } } :=
        ⟨good.ledger, good.delivered, good.postedFirst, good.hooked, good.hookedInfos,
          good.keyed, good.unusedLater, good.unusedNow, good.unblocked, good.resets,
          good.enabled, good.everyClass⟩
      have bound : targetCount state.world.input.queue_ < state.world.input.queue_.length + 1 :=
        Nat.lt_succ_of_le List.countP_le_length
      obtain ⟨after, passes⟩ :=
        loop_good pairs admissible alternating environments _ good' bound reads
      refine ⟨_, fireFrontItem_good allowDevicesMultipleSameKey after alternating passes ?_⟩
      rw [← good.resets]
      exact undisturbed

theorem run_good (admissible : Admissible configs) {steps : List (Step Environment)}
    (good : Good configs arrivals resets state)
    (alternating : Alternating (arrivals ++ steps.flatMap Step.arrivals))
    (allowed : Transition.Along (step pairs isOn configs)
      (fun state label => Undisturbed pairs isOn configs state label ∧
        Reads pairs isOn configs state label) state steps) :
    ∃ resets, Good configs (arrivals ++ steps.flatMap Step.arrivals) resets
      (Transition.run (step pairs isOn configs) state steps) := by
  induction steps generalizing arrivals resets state with
  | nil => exact ⟨resets, by simpa using good⟩
  | cons label steps ih =>
      rw [List.flatMap_cons, ← List.append_assoc] at alternating ⊢
      obtain ⟨resets', after⟩ := step_good admissible good alternating.of_append allowed.1.1
        allowed.1.2
      exact ih after alternating allowed.2

theorem start_good (configs : List (List (Configured Environment)))
    (devices : List HookedDevice) (environment : Environment) :
    Good configs [] 0 (start configs devices environment) where
  ledger := ⟨fun _ _ _ _ => .inl ⟨rfl, rfl⟩, fun _ => rfl, fun _ => rfl⟩
  delivered :=
    ⟨fun _ => rfl, fun _ before left rest split_ => by simp [start, history] at split_,
      fun _ => by simp [start, history, pending], List.nodup_nil⟩
  postedFirst := ⟨[], [], rfl, by simp, by simp⟩
  hooked := by simp [start, EventInputQueue.State.start]
  hookedInfos := by simp [start]
  keyed := by simp [start]
  unusedLater := fun _ _ _ => rfl
  unusedNow := fun _ _ => rfl
  unblocked := rfl
  resets := rfl
  enabled := fun _ => rfl
  everyClass := rfl

end

/-- Each combination pushes a key-down and, with the last release, a key-up. A key-up is
taken if and only if its key-down was, and ActiveItems counts what is not released. -/
theorem combinations_paired (pairs : Pairs) (isOn : Environment → List ModifierFlag → Bool)
    (configs : List (List (Configured Environment))) (admissible : Admissible configs)
    (devices : List HookedDevice) (environment : Environment) (steps : List (Step Environment))
    (alternating : Alternating (steps.flatMap Step.arrivals))
    (allowed : Transition.Along (step pairs isOn configs)
      (fun state label => Undisturbed pairs isOn configs state label ∧
        Reads pairs isOn configs state label) (start configs devices environment) steps) :
    Paired configs
      (Transition.run (step pairs isOn configs) (start configs devices environment) steps) := by
  obtain ⟨resets, good⟩ := run_good admissible (start_good configs devices environment)
    (by simpa using alternating) allowed
  refine ⟨fun id item known serialNumber => ⟨_, good.ledger.lives id item known serialNumber⟩,
    good.delivered.fates, fun id => ?_⟩
  rw [good.ledger.active id]
  exact good.ledger.settled id

theorem Alternating.of_presses {arrivals : List QueueItem}
    (each : ∀ press ∈ arrivals.map pressOf,
      ((arrivals.filter (isEventOf press)).map isDown).IsChain (· ≠ ·)) :
    Alternating arrivals := by
  intro press
  by_cases member : press ∈ arrivals.map pressOf
  · exact each press member
  · have none : arrivals.filter (isEventOf press) = [] := by
      refine List.filter_eq_nil_iff.mpr fun item there own => ?_
      simp only [isEventOf, Bool.and_eq_true, decide_eq_true_eq] at own
      exact member (own.2 ▸ List.mem_map_of_mem there)
    rw [none]
    exact .nil

section
variable (pairs : Pairs) (isOn : Environment → List ModifierFlag → Bool)
  (configs : List (List (Configured Environment)))

instance (devices : List HookedDevice) (device : Nat) : Decidable (Hooked devices device) :=
  inferInstanceAs (Decidable (∃ hooked ∈ devices, hooked.id = device))

instance (iskeydown : Bool) (state : State Environment) (id : ItemId) :
    Decidable (Misreads isOn configs iskeydown state id) :=
  inferInstanceAs (Decidable (iskeydown = false ∧
    (id, .SIMULTANEOUSBUTTONPRESSES) ∈ state.activeItems ∧
      ∃ item ∈ lookup configs id, isOn state.world.environment item.config.fromModifierFlags ∧
        (∃ front ∈ state.world.input.queue_.head?, front.isSimultaneousKeyPressesTarget) ∧
          (item.config.completeDownKeys state.world.input.queue_).isSome))

instance RoundsRead.decidable (environments : Nat → Environment) :
    (fuel : Nat) → (state : State Environment) →
      Decidable (RoundsRead pairs isOn configs environments fuel state)
  | 0, _ => isTrue trivial
  | fuel + 1, state =>
      match queue : state.world.input.queue_ with
      | [] => isTrue (by rw [RoundsRead, queue]; trivial)
      | front :: _ =>
          have := RoundsRead.decidable environments fuel
          let begun := beginPass (environments fuel) front state
          let iskeydown := front.params.iskeydown.getD true
          let pass :=
            begun.remapSimultaneousKeyPresses (remapclasses pairs isOn configs) iskeydown
          decidable_of_iff
            (Transition.Along
                (Remapping.State.visitSimultaneous iskeydown
                  (begun.isPassThroughEnabled (remapclasses pairs isOn configs)))
                (fun progress visited => ¬Misreads isOn configs iskeydown progress.2 visited.1)
                (false, begun) (begun.visited (remapclasses pairs isOn configs)) ∧
              (pass.1 = true → RoundsRead pairs isOn configs environments fuel pass.2))
            (by rw [RoundsRead, queue])

end

/-- No reset at all. -/
def Unreset (pairs : Pairs) (isOn : Environment → List ModifierFlag → Bool)
    (configs : List (List (Configured Environment))) (state : State Environment) :
    Step Environment → Prop
  | .arrive arrival => Hooked state.world.input.devices arrival.device
  | .fireTimer environments now allowDevicesMultipleSameKey =>
      (step pairs isOn configs state (.fireTimer environments now
        allowDevicesMultipleSameKey)).world.input.resets = state.world.input.resets

section
variable {pairs : Pairs} {isOn : Environment → List ModifierFlag → Bool}
  {configs : List (List (Configured Environment))}

instance (state : State Environment) :
    (label : Step Environment) → Decidable (Unreset pairs isOn configs state label)
  | .arrive arrival => inferInstanceAs (Decidable (Hooked _ arrival.device))
  | .fireTimer environments now allowDevicesMultipleSameKey =>
      inferInstanceAs (Decidable ((step pairs isOn configs state (.fireTimer environments now
        allowDevicesMultipleSameKey)).world.input.resets = state.world.input.resets))

instance (state : State Environment) :
    (label : Step Environment) → Decidable (Reads pairs isOn configs state label)
  | .arrive _ => isTrue trivial
  | .fireTimer environments now _ =>
      inferInstanceAs (Decidable (RoundsRead pairs isOn configs environments
        (state.world.input.queue_.length + 1) { state with world := { state.world with now } }))

theorem undisturbed_of_unreset (state : State Environment) (label : Step Environment)
    (unreset : Unreset pairs isOn configs state label) :
    Undisturbed pairs isOn configs state label := by
  cases label with
  | arrive arrival => exact unreset
  | fireTimer environments now allowDevicesMultipleSameKey => exact .inl unreset

end

def pairOf (virtualkey first second : Nat) : Configured Unit where
  config :=
    { virtualkey := ⟨virtualkey⟩
      fromInfo := [.KEY ⟨first⟩, .KEY ⟨second⟩]
      fromModifierFlags := []
      isToRaw := false
      isPostFromEventsAsRaw := false
      isStrictKeyOrder := false
      toKeyRaw := KeyCode.VK_NONE }
  filters := []

/-- A+S and D+F. -/
def twoPairs : List (List (Configured Unit)) :=
  [[pairOf 0x10000100 0x0 0x1, pairOf 0x10000101 0x2 0x3]]

theorem twoPairs_admissible : Admissible twoPairs := by
  intro items member item inside
  obtain rfl := List.mem_singleton.mp member
  rcases List.mem_pair.mp inside with rfl | rfl
  · exact ⟨by decide, by simp [pairOf]⟩
  · exact ⟨by decide, by simp [pairOf]⟩

def keyStep (device : Nat) (key : Nat) (isDown : Bool) : Step Unit :=
  .arrive (EventInputQueue.keyArrival device ⟨key⟩ isDown 0)

def fireStep : Step Unit := .fireTimer (fun _ => ()) 0 false

/-- While a key is held on the other keyboard, A+S is pressed and released. -/
theorem combinations_paired_once :
    Paired twoPairs (Transition.run (step Pairs.normal (fun _ _ => true) twoPairs)
      (start twoPairs [⟨1, []⟩, ⟨2, []⟩] ())
      [keyStep 2 0x9 true, fireStep, keyStep 1 0x0 true, keyStep 1 0x1 true, fireStep, fireStep,
        keyStep 1 0x0 false, fireStep, keyStep 1 0x1 false, fireStep]) := by
  apply combinations_paired Pairs.normal (fun _ _ => true) twoPairs twoPairs_admissible
  · exact .of_presses (by decide)
  · have allowed : Transition.Along (step Pairs.normal (fun _ _ => true) twoPairs)
        (fun state label => Unreset Pairs.normal (fun _ _ => true) twoPairs state label ∧
          Reads Pairs.normal (fun _ _ => true) twoPairs state label)
        (start twoPairs [⟨1, []⟩, ⟨2, []⟩] ())
        [keyStep 2 0x9 true, fireStep, keyStep 1 0x0 true, keyStep 1 0x1 true, fireStep,
          fireStep, keyStep 1 0x0 false, fireStep, keyStep 1 0x1 false, fireStep] := by
      decide +kernel
    exact allowed.mono fun state label both =>
      ⟨undisturbed_of_unreset state label both.1, both.2⟩

/-- The key-up of A and D+F of the other keyboard come in one round, so the second D+F takes
the entry of the first out of ActiveItems. -/
theorem second_combination_takes_entry :
    ¬∀ (configs : List (List (Configured Unit))) (devices : List HookedDevice)
        (steps : List (Step Unit)), Admissible configs →
      Alternating (steps.flatMap Step.arrivals) →
      Transition.Along (step Pairs.normal (fun _ _ => true) configs)
        (Undisturbed Pairs.normal (fun _ _ => true) configs) (start configs devices ()) steps →
      Paired configs (Transition.run (step Pairs.normal (fun _ _ => true) configs)
        (start configs devices ()) steps) := by
  intro claim
  have unreset : Transition.Along (step Pairs.normal (fun _ _ => true) twoPairs)
      (Unreset Pairs.normal (fun _ _ => true) twoPairs)
      (start twoPairs [⟨1, []⟩, ⟨2, []⟩] ())
      [keyStep 2 0x9 true, fireStep, keyStep 1 0x0 true, keyStep 1 0x1 true, fireStep, fireStep,
        keyStep 1 0x2 true, keyStep 1 0x3 true, fireStep, fireStep, keyStep 1 0x0 false,
        keyStep 2 0x2 true, keyStep 2 0x3 true, fireStep] := by
    decide +kernel
  have paired := claim twoPairs [⟨1, []⟩, ⟨2, []⟩]
    [keyStep 2 0x9 true, fireStep, keyStep 1 0x0 true, keyStep 1 0x1 true, fireStep, fireStep,
      keyStep 1 0x2 true, keyStep 1 0x3 true, fireStep, fireStep, keyStep 1 0x0 false,
      keyStep 2 0x2 true, keyStep 2 0x3 true, fireStep]
    twoPairs_admissible (.of_presses (by decide)) (unreset.mono undisturbed_of_unreset)
  have entries := paired.active (0, 1)
  exact absurd entries (by decide +kernel)

end Karabiner.SimultaneousKeyPresses
