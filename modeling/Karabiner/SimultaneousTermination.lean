import Karabiner.SimultaneousPairs

set_option autoImplicit false

/- The loop of fire_timer_callback over SimultaneousKeyPresses, for any content of queue_ and
any items: a round that changes queue_ leaves it with fewer targets. -/
namespace Karabiner.SimultaneousKeyPresses

open Remapping (ItemId RemapSimultaneousKeyPressesResult)

variable {Environment : Type*}

/-- The processors that RemapFuncFactory creates. Only SimultaneousKeyPresses overrides
remapSimultaneousKeyPresses. -/
inductive RemapFunc (Environment : Type*) where
  | simultaneousKeyPresses (config : SimultaneousKeyPresses) (ignorePassThrough : Bool)
      (remap : World Environment → Remapping.RemapParams →
        Remapping.Outcome (World Environment))
  | other (type : Nat) (ignorePassThrough : Bool)
      (remap : World Environment → Remapping.RemapParams →
        Remapping.Outcome (World Environment))

structure RemapClassItem (Environment : Type*) where
  processor : Option (RemapFunc Environment)
  filters : List (Remapping.RemapFilterBase (World Environment))

section
variable (pairs : Pairs) (isOn : Environment → List ModifierFlag → Bool)

def RemapFunc.toBase (id : ItemId) :
    RemapFunc Environment → Remapping.RemapFuncBase (World Environment)
  | .simultaneousKeyPresses config ignorePassThrough remap =>
      { processor pairs config id isOn with ignorePassThrough, remap }
  | .other type ignorePassThrough remap => { type, ignorePassThrough, remap }

variable (classes : List (List (RemapClassItem Environment)))

def remapclasses_ : List (Remapping.RemapClass (World Environment)) :=
  classes.mapIdx fun i items =>
    ⟨items.mapIdx fun j item =>
      ⟨item.processor.map (RemapFunc.toBase pairs isOn (i, j)), item.filters⟩⟩

/-- The while loop, for at most so many rounds. The Bool tells whether it goes on. FlagStatus
may differ in each round. -/
def loop : Nat → (Nat → Environment) → State Environment → Bool × State Environment
  | 0, _, state => (true, state)
  | rounds + 1, environments, state =>
      match state.world.input.queue_ with
      | [] => (false, state)
      | front :: _ =>
          let pass := (beginPass (environments 0) front state).remapSimultaneousKeyPresses
            (remapclasses_ pairs isOn classes) (front.params.iskeydown.getD true)
          if pass.1 then loop rounds (fun round => environments (round + 1)) pass.2
          else (false, pass.2)

end

section
variable (queue : List QueueItem)

theorem targetCount_cons_of_not_target {item : QueueItem}
    (other : item.isSimultaneousKeyPressesTarget = false) :
    targetCount (item :: queue) = targetCount queue := by
  rw [targetCount, List.countP_cons_of_neg (by simp [other]), targetCount]

theorem targetCount_cons_of_target {item : QueueItem}
    (target : item.isSimultaneousKeyPressesTarget = true) :
    targetCount (item :: queue) = targetCount queue + 1 := by
  rw [targetCount, List.countP_cons_of_pos target, targetCount]

theorem targetCount_removePlaces_lt {places : List Nat} {place : Nat} {item : QueueItem}
    (present : queue[place]? = some item) (removed : place ∈ places)
    (target : item.isSimultaneousKeyPressesTarget = true) :
    targetCount (removePlaces queue places) < targetCount queue := by
  have all : targetCount queue =
      (queue.zipIdx.filter fun entry => entry.1.isSimultaneousKeyPressesTarget).length := by
    conv_lhs => rw [targetCount, ← List.zipIdx_map_fst 0 queue]
    rw [List.countP_map, List.countP_eq_length_filter]
    rfl
  have left : targetCount (removePlaces queue places) =
      ((queue.zipIdx.filter fun entry => entry.1.isSimultaneousKeyPressesTarget).filter
        fun entry => !decide (entry.2 ∈ places)).length := by
    rw [targetCount, removePlaces_eq, List.countP_map, List.countP_filter,
      List.countP_eq_length_filter, List.filter_filter]
    congr 2
    funext entry
    exact Bool.and_comm _ _
  rw [left, all, List.length_filter_lt_length_iff_exists]
  have member : (item, place) ∈ queue.zipIdx := List.mem_zipIdx_iff_getElem?.mpr present
  exact ⟨(item, place), List.mem_filter.mpr ⟨member, target⟩, by simpa using removed⟩

end

section
variable (world : World Environment)

theorem targetCount_enqueueFront {item : QueueItem}
    (other : item.isSimultaneousKeyPressesTarget = false) :
    targetCount (world.enqueueFront item).input.queue_ = targetCount world.input.queue_ := by
  unfold World.enqueueFront EventInputQueue.State.enqueue
  split
  · rfl
  · exact targetCount_cons_of_not_target _ other

theorem targetCount_pushRemapped (pairs : Pairs) (config : SimultaneousKeyPresses)
    (isKeyDown : Bool) (deviceIdentifier : DeviceIdentifier) (device : Nat) :
    targetCount (pushRemapped pairs config isKeyDown deviceIdentifier device
      world).input.queue_ = targetCount world.input.queue_ := by
  unfold pushRemapped remappedItem
  by_cases silent : config.pushedKey = KeyCode.VK_NONE
  · simp only [silent, if_true]
  · simp only [silent, if_false]
    exact targetCount_enqueueFront world rfl

theorem targetCount_postFromEvents (config : SimultaneousKeyPresses) (front : QueueItem)
    (taken : List (Nat × QueueItem)) :
    targetCount (postFromEvents config front taken world).input.queue_ =
      targetCount world.input.queue_ := by
  unfold postFromEvents
  split
  · induction taken with
    | nil => rfl
    | cons place taken ih =>
        rw [List.foldr_cons, targetCount_enqueueFront _ rfl]
        exact ih
  · rfl

end

/-- The places in downKeys_ are those of targets in queue_. -/
def PointsToTargets (queue : List QueueItem) (downKeys : DownKeys) : Prop :=
  ∀ place item, some (place, item) ∈ downKeys →
    queue[place]? = some item ∧ item.isSimultaneousKeyPressesTarget = true

variable {config : SimultaneousKeyPresses}

theorem markDownKey_points {queue : List QueueItem} {downKeys next : DownKeys} {place : Nat}
    {item : QueueItem} (points : PointsToTargets queue downKeys)
    (present : queue[place]? = some item)
    (target : item.isSimultaneousKeyPressesTarget = true)
    (marked : config.markDownKey downKeys place item = some next) :
    PointsToTargets queue next ∧ next.length = downKeys.length := by
  unfold markDownKey at marked
  split at marked
  · obtain rfl := Option.some.inj marked
    exact ⟨points, rfl⟩
  · obtain rfl := Option.some.inj marked
    constructor
    · intro other old member
      rcases List.mem_or_eq_of_mem_set member with before | new
      · exact points other old before
      · obtain ⟨rfl, rfl⟩ := Prod.mk.inj (Option.some.inj new)
        exact ⟨present, target⟩
    · exact List.length_set
  · exact absurd marked (by simp)

theorem scan_points {queue seen rest : List QueueItem} {downKeys : DownKeys}
    {taken : List (Nat × QueueItem)} (split_ : queue = seen ++ rest)
    (points : PointsToTargets queue downKeys)
    (found : config.scan downKeys seen.length rest = some taken) :
    taken.length = downKeys.length ∧ ∀ place ∈ taken,
      queue[place.1]? = some place.2 ∧ place.2.isSimultaneousKeyPressesTarget = true := by
  induction rest generalizing seen downKeys with
  | nil => simp [scan] at found
  | cons item rest ih =>
      have split_' : queue = (seen ++ [item]) ++ rest := by simp [split_]
      have length : (seen ++ [item]).length = seen.length + 1 := by simp
      have present : queue[seen.length]? = some item := by simp [split_]
      rw [scan] at found
      cases target : item.isSimultaneousKeyPressesTarget with
      | false =>
          rw [target, Bool.not_false, if_pos rfl, ← length] at found
          exact ih split_' points found
      | true =>
          rw [target, Bool.not_true, if_neg Bool.false_ne_true] at found
          cases marked : config.markDownKey downKeys seen.length item with
          | none => simp [marked] at found
          | some next =>
              obtain ⟨points', same⟩ := markDownKey_points points present target marked
              simp only [marked] at found
              split at found
              · exact absurd found (by simp)
              · split at found
                · next filled =>
                    obtain rfl := Option.some.inj found
                    constructor
                    · obtain ⟨taken, rfl, same'⟩ := exists_map_some filled
                      rw [same', ← same, List.length_map]
                    · intro place member
                      exact points' place.1 place.2 (by simpa using member)
                · rw [← length] at found
                  rw [← same]
                  exact ih split_' points' found

/-- The key-downs that a combination takes are targets of queue_, and there is one. -/
theorem completeDownKeys_points {queue : List QueueItem} {taken : List (Nat × QueueItem)}
    (complete : config.completeDownKeys queue = some taken) :
    ∃ place ∈ taken, queue[place.1]? = some place.2 ∧
      place.2.isSimultaneousKeyPressesTarget = true := by
  unfold completeDownKeys at complete
  split at complete
  · exact absurd complete (by simp)
  · next front rest =>
      split at complete
      · next isFrom =>
          have points : PointsToTargets (front :: rest)
              (List.replicate config.fromInfo.length none) := by
            intro place item member
            simp [List.mem_replicate] at member
          have found : config.scan (List.replicate config.fromInfo.length none)
              ([] : List QueueItem).length (front :: rest) = some taken := complete
          obtain ⟨length, each⟩ := scan_points rfl points found
          have some_ : taken ≠ [] := by
            intro empty
            obtain ⟨fromEvent, member, -⟩ := List.any_eq_true.mp isFrom
            have positive := List.length_pos_of_mem member
            rw [empty, List.length_nil, List.length_replicate] at length
            omega
          obtain ⟨place, more, rfl⟩ := List.exists_cons_of_ne_nil some_
          exact ⟨place, List.mem_cons_self, each place List.mem_cons_self⟩
      · exact absurd complete (by simp)

section
variable (pairs : Pairs) (id : ItemId) (world : World Environment)

theorem handleKeyUp_targetCount {front : QueueItem} {rest : List QueueItem}
    (queue : world.input.queue_ = front :: rest)
    (target : front.isSimultaneousKeyPressesTarget = true) (active : ActiveFromInfo) :
    targetCount (handleKeyUp pairs config id front rest active world).2.input.queue_ <
      targetCount world.input.queue_ := by
  have before := targetCount_cons_of_target rest target
  have taken : targetCount (if config.isPostFromEventsAsRaw then
      { front with isSimultaneousKeyPressesTarget := false } :: rest else rest) =
        targetCount rest := by
    split
    · exact targetCount_cons_of_not_target rest rfl
    · rfl
  rw [queue, before]
  unfold handleKeyUp
  dsimp only
  split
  · show targetCount _ < _
    rw [taken]
    omega
  · show targetCount (pushRemapped _ _ _ _ _ _).input.queue_ < _
    rw [targetCount_pushRemapped, taken]
    omega

theorem handleKeyDown_targetCount {taken : List (Nat × QueueItem)} (front : QueueItem)
    (complete : config.completeDownKeys world.input.queue_ = some taken) :
    targetCount (handleKeyDown pairs config id front taken world).2.input.queue_ <
      targetCount world.input.queue_ := by
  obtain ⟨place, member, present, target⟩ := completeDownKeys_points complete
  show targetCount (pushRemapped _ _ _ _ _ (postFromEvents _ _ _ _)).input.queue_ < _
  rw [targetCount_pushRemapped, targetCount_postFromEvents]
  exact targetCount_removePlaces_lt _ present (List.mem_map_of_mem member) target

end

/-- What the loop needs of a call of remapSimultaneousKeyPresses. -/
def TakesTargets (before : World Environment)
    (answer : RemapSimultaneousKeyPressesResult × World Environment) : Prop :=
  answer = (.NOT_CHANGED, before) ∨
    targetCount answer.2.input.queue_ < targetCount before.input.queue_

section
variable (pairs : Pairs) (isOn : Environment → List ModifierFlag → Bool)

theorem remapSimultaneousKeyPresses_takesTargets (config : SimultaneousKeyPresses)
    (id : ItemId) (world : World Environment) :
    TakesTargets world (remapSimultaneousKeyPresses pairs config id isOn world) := by
  rcases remapSimultaneousKeyPresses_cases pairs config id isOn world with
    ⟨same, -⟩ | ⟨front, rest, queue, target,
      ⟨active, -, up⟩ | ⟨taken, -, complete, down⟩⟩
  · exact .inl same
  · rw [up]
    exact .inr (handleKeyUp_targetCount pairs id world queue target active)
  · rw [down]
    exact .inr (handleKeyDown_targetCount pairs id world front complete)

theorem RemapFunc.takesTargets (id : ItemId) (remapFunc : RemapFunc Environment)
    (world : World Environment) :
    TakesTargets world
      ((remapFunc.toBase pairs isOn id).remapSimultaneousKeyPresses world) := by
  cases remapFunc with
  | simultaneousKeyPresses config ignorePassThrough remap =>
      exact remapSimultaneousKeyPresses_takesTargets pairs isOn config id world
  | other type ignorePassThrough remap => exact .inl rfl

theorem item_fewer {item : Remapping.Item (World Environment)}
    (takes : ∀ processor ∈ item.processor, ∀ world,
      TakesTargets world (processor.remapSimultaneousKeyPresses world))
    (id : ItemId) (iskeydown passThroughEnabled : Bool) (state : State Environment) :
    let visited := item.remapSimultaneousKeyPresses id iskeydown passThroughEnabled state
    (visited.1 = true →
        targetCount visited.2.world.input.queue_ < targetCount state.world.input.queue_) ∧
      targetCount visited.2.world.input.queue_ ≤ targetCount state.world.input.queue_ := by
  unfold Remapping.Item.remapSimultaneousKeyPresses
  cases known : item.processor with
  | none => simp
  | some processor =>
      have answered := takes processor known state.world
      dsimp only
      split
      · rcases answered with same | fewer
        · simp [same]
        · have atMost := Nat.le_of_lt fewer
          split <;> exact ⟨fun _ => fewer, atMost⟩
      · simp

variable (classes : List (List (RemapClassItem Environment)))

/-- Every item that a pass comes to has one of the processors. -/
theorem visited_takesTargets (state : State Environment)
    {visited : ItemId × Remapping.Item (World Environment)}
    (member : visited ∈ state.visited (remapclasses_ pairs isOn classes)) :
    ∀ processor ∈ visited.2.processor, ∀ world,
      TakesTargets world (processor.remapSimultaneousKeyPresses world) := by
  obtain ⟨index, -, inside⟩ := List.mem_flatMap.mp member
  unfold Remapping.itemsOf at inside
  split at inside
  · simp at inside
  · next remapclass found =>
      rw [remapclasses_, List.getElem?_mapIdx, Option.map_eq_some_iff] at found
      obtain ⟨items, -, rfl⟩ := found
      obtain ⟨i, item, rfl⟩ := List.mem_mapIdx.mp inside
      intro processor known world
      simp only [List.getElem_mapIdx, Option.mem_def, Option.map_eq_some_iff] at known
      obtain ⟨remapFunc, -, rfl⟩ := known
      exact remapFunc.takesTargets pairs isOn _ world

/-- Whatever items the pass comes to, each call that changes queue_ takes targets. -/
theorem visitSimultaneous_fewer (iskeydown passThroughEnabled : Bool) {bound : Nat}
    (visits : List (ItemId × Remapping.Item (World Environment)))
    (takes : ∀ visited ∈ visits, ∀ processor ∈ visited.2.processor, ∀ world,
      TakesTargets world (processor.remapSimultaneousKeyPresses world))
    (progress : Bool × State Environment)
    (fewer : progress.1 = true → targetCount progress.2.world.input.queue_ < bound)
    (atMost : targetCount progress.2.world.input.queue_ ≤ bound) :
    let passed := Transition.run
      (Remapping.State.visitSimultaneous iskeydown passThroughEnabled) progress visits
    (passed.1 = true → targetCount passed.2.world.input.queue_ < bound) ∧
      targetCount passed.2.world.input.queue_ ≤ bound := by
  induction visits generalizing progress with
  | nil => exact ⟨fewer, atMost⟩
  | cons visited visits ih =>
      obtain ⟨changed, kept⟩ := item_fewer (takes visited List.mem_cons_self) visited.1
        iskeydown passThroughEnabled progress.2
      apply ih fun other later => takes other (List.mem_cons_of_mem _ later)
      · intro either
        rcases Bool.or_eq_true_iff.mp either with before | now
        · exact Nat.lt_of_le_of_lt kept (fewer before)
        · exact Nat.lt_of_lt_of_le (changed now) atMost
      · exact Nat.le_trans kept atMost

theorem pass_fewer (iskeydown : Bool) (state : State Environment)
    (changed : (state.remapSimultaneousKeyPresses (remapclasses_ pairs isOn classes)
      iskeydown).1 = true) :
    targetCount (state.remapSimultaneousKeyPresses (remapclasses_ pairs isOn classes)
      iskeydown).2.world.input.queue_ < targetCount state.world.input.queue_ := by
  have none : (false, state).1 = true →
      targetCount state.world.input.queue_ < targetCount state.world.input.queue_ := by simp
  have passed := visitSimultaneous_fewer iskeydown
    (state.isPassThroughEnabled (remapclasses_ pairs isOn classes)) _
    (fun _ member => visited_takesTargets pairs isOn classes state member) (false, state) none
    (Nat.le_refl _)
  exact passed.1 changed

theorem loop_ends (environments : Nat → Environment) (rounds : Nat) (state : State Environment)
    (enough : targetCount state.world.input.queue_ < rounds) :
    (loop pairs isOn classes rounds environments state).1 = false := by
  induction rounds generalizing environments state with
  | zero => omega
  | succ rounds ih =>
      rw [loop]
      split
      · rfl
      · next front rest queue =>
          dsimp only
          split
          · next changed =>
              have fewer := pass_fewer pairs isOn classes _
                (beginPass (environments 0) front state) changed
              have same : (beginPass (environments 0) front state).world.input.queue_ =
                  state.world.input.queue_ := rfl
              apply ih
              rw [same] at fewer
              omega
          · rfl

end

/-- A call of remap_simultaneouskeypresses that returns true has taken a target, so the loop
ends after one round more than queue_ has targets, whatever FlagStatus is in each round. -/
theorem remapSimultaneousKeyPresses_terminates (pairs : Pairs)
    (isOn : Environment → List ModifierFlag → Bool)
    (classes : List (List (RemapClassItem Environment))) (state : State Environment) :
    (∀ iskeydown,
      let pass := state.remapSimultaneousKeyPresses (remapclasses_ pairs isOn classes) iskeydown
      pass.1 = true →
        targetCount pass.2.world.input.queue_ < targetCount state.world.input.queue_) ∧
    ∀ environments, (loop pairs isOn classes (targetCount state.world.input.queue_ + 1)
      environments state).1 = false := by
  constructor
  · intro iskeydown
    exact pass_fewer pairs isOn classes iskeydown state
  · intro environments
    exact loop_ends pairs isOn classes environments _ state (Nat.lt_succ_self _)

end Karabiner.SimultaneousKeyPresses
