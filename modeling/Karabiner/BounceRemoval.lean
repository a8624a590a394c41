import Karabiner.EventTimers
import Mathlib.Data.List.Chain
import Mathlib.Tactic.Common

set_option autoImplicit false

/- The removal of bouncing events at the start of fire_timer_callback, and when it keeps the
downs and ups of each key of each device in step. -/
namespace Karabiner.EventInputQueue

def isDown (item : Item) : Bool := item.params.iskeydown == some true

def isEventOfKey (fromEvent : FromEvent) (item : Item) : Bool :=
  item.params.iskeydown.isSome && decide (FromEvent.ofParams item.params = fromEvent)

/-- The downs and ups of a key or button, of all devices. -/
def eventsOfKey (fromEvent : FromEvent) (queue : List Item) : List Item :=
  queue.filter (isEventOfKey fromEvent)

/-- The downs and ups of a key on a device. -/
def downs (device : Nat) (fromEvent : FromEvent) (queue : List Item) : List Bool :=
  ((eventsOfKey fromEvent queue).filter (·.device = device)).map isDown

/-- The comparison finds the bounces of its device, and no others. -/
structure TimerConfig.Fair (config : TimerConfig) (comparison : Comparison) : Prop where
  sameDevice : config.isBouncing comparison = true →
    comparison.keyUpEvent.device = comparison.keyDownEvent.device
  measured : comparison.keyUpEvent.device = comparison.keyDownEvent.device →
    comparison.keyDownEvent.ic.begun - comparison.keyUpEvent.ic.begun <
      (config.bouncingThreshold (FromEvent.ofParams comparison.keyUpEvent.params)).toNat * 1000 →
    config.isBouncing comparison = true

instance (config : TimerConfig) (comparison : Comparison) :
    Decidable (config.Fair comparison) :=
  decidable_of_iff
    ((config.isBouncing comparison = true →
        comparison.keyUpEvent.device = comparison.keyDownEvent.device) ∧
      (comparison.keyUpEvent.device = comparison.keyDownEvent.device →
        comparison.keyDownEvent.ic.begun - comparison.keyUpEvent.ic.begun <
          (config.bouncingThreshold
            (FromEvent.ofParams comparison.keyUpEvent.params)).toNat * 1000 →
        config.isBouncing comparison = true))
    ⟨fun fair => ⟨fair.1, fair.2⟩, fun fair => ⟨fair.1, fair.2⟩⟩

/-- The timestamps increase along the queue, and so does the clock from the last of them on. -/
structure Timed (clock : Nat → Nat × Nat) (queue : List Item) : Prop where
  increasing : (queue.map (·.ic.begun)).Pairwise (· ≤ ·)
  arrived : ∀ item ∈ queue, item.ic.begun ≤ (clock 0).1
  runs : ∀ made, (clock made).1 ≤ (clock made).2 ∧ (clock made).2 ≤ (clock (made + 1)).1

/-- The times are two milliseconds and the time between the readings apart, and as far below the
threshold, or not below it. -/
def TimerConfig.Clear (config : TimerConfig) (up down : Item) (readings : Nat × Nat) : Prop :=
  let threshold := (config.bouncingThreshold (FromEvent.ofParams up.params)).toNat * 1000
  up.ic.begun + threshold ≤ down.ic.begun ∨
    up.ic.begun + 2000 + (readings.2 - readings.1) ≤ down.ic.begun ∧
      down.ic.begun + 2000 ≤ up.ic.begun + threshold

/-- Both items are compared, the key-up in front, at one of the readings. -/
structure Comparison.Of (clock : Nat → Nat × Nat) (queue : List Item) (comparison : Comparison) :
    Prop where
  inOrder : [comparison.keyUpEvent, comparison.keyDownEvent].Sublist queue
  sameKey : FromEvent.ofParams comparison.keyDownEvent.params =
    FromEvent.ofParams comparison.keyUpEvent.params
  reading : ∃ made, comparison.readings = clock made

/-- The last retry goes through what is left and finds nothing to remove. -/
def Ended (config : TimerConfig) (clock : Nat → Nat × Nat) (made : Nat)
    (removal : List Comparison × List Item) : Prop :=
  ∃ before, removal.1 = before ++
      (config.eraseBouncing clock (made + before.length) removal.2).comparisons ∧
    (config.eraseBouncing clock (made + before.length) removal.2).left = none

/-- What the removal leaves. pressed tells whether the key is held in front of the queue, and
begun is in microseconds. -/
structure InStep (config : TimerConfig) (queue result : List Item) : Prop where
  sublist : result.Sublist queue
  alternates : ∀ device fromEvent pressed,
    (pressed :: downs device fromEvent queue).IsChain (· ≠ ·) →
      (pressed :: downs device fromEvent result).IsChain (· ≠ ·) ∧
        (downs device fromEvent result).getLastD pressed =
          (downs device fromEvent queue).getLastD pressed
  noBounce : ∀ before up between down after,
    result = before ++ up :: (between ++ down :: after) →
    up.params.iskeydown = some false → down.params.iskeydown = some true →
    FromEvent.ofParams down.params = FromEvent.ofParams up.params → down.device = up.device →
    (∀ other ∈ between, FromEvent.ofParams other.params = FromEvent.ofParams up.params →
      other.params.iskeydown ≠ some false) →
    (config.bouncingThreshold (FromEvent.ofParams up.params)).toNat * 1000 ≤
      down.ic.begun - up.ic.begun

/-- The events that the scan behind a down or up event looks for are those of its key. -/
theorem targetIsDown_of_known {params : Params} (known : params.iskeydown.isSome)
    (other : Params) :
    (FromEvent.ofParams params).targetIsDown other =
      if FromEvent.ofParams other = FromEvent.ofParams params then other.iskeydown else none := by
  cases answer : other.iskeydown with
  | some isDown =>
      rw [FromEvent.targetIsDown_of_iskeydown answer]
      by_cases same : FromEvent.ofParams params = FromEvent.ofParams other
      · rw [if_pos same, if_pos same.symm]
      · rw [if_neg same, if_neg (Ne.symm same)]
  | none =>
      have silent : (FromEvent.ofParams params).targetIsDown other = none := by
        cases other with
        | keyboard other => simp [Params.iskeydown] at answer
        | keyboardSpecial other => simp [Params.iskeydown] at answer
        | scrollWheel other => cases params <;> rfl
        | relativePointer other =>
            have noButton : other.ex_button = PointingButton.NONE := by
              by_contra button
              simp [Params.iskeydown, button] at answer
            cases params with
            | relativePointer params =>
                have button : params.ex_button ≠ PointingButton.NONE := by
                  intro none
                  simp [Params.iskeydown, none] at known
                have different : other.ex_button ≠ params.ex_button := by
                  rw [noButton]
                  exact button.symm
                simp [FromEvent.ofParams, FromEvent.targetIsDown, different]
            | keyboard | keyboardSpecial | scrollWheel => rfl
      rw [silent]
      split <;> rfl

section
variable {up item : Item} (isUp : up.params.iskeydown = some false)

include isUp

theorem isTargetUpEvent_iff_up :
    (FromEvent.ofParams up.params).isTargetUpEvent item.params = true ↔
      FromEvent.ofParams item.params = FromEvent.ofParams up.params ∧
        item.params.iskeydown = some false := by
  rw [FromEvent.isTargetUpEvent, targetIsDown_of_known (by rw [isUp]; rfl)]
  split <;> simp_all

theorem isTargetDownEvent_iff_down :
    (FromEvent.ofParams up.params).isTargetDownEvent item.params = true ↔
      FromEvent.ofParams item.params = FromEvent.ofParams up.params ∧
        item.params.iskeydown = some true := by
  rw [FromEvent.isTargetDownEvent, targetIsDown_of_known (by rw [isUp]; rfl)]
  split <;> simp_all

end

/-- The key-down that the scan behind a key-up finds. -/
structure Found (up : Item) (between : List Item) (down : Item) : Prop where
  isUp : up.params.iskeydown = some false
  sameKey : FromEvent.ofParams down.params = FromEvent.ofParams up.params
  isDown : down.params.iskeydown = some true
  noUp : ∀ other ∈ between, FromEvent.ofParams other.params = FromEvent.ofParams up.params →
    other.params.iskeydown ≠ some false

/-- The scan compares the two events. -/
def Scan.Compares (config : TimerConfig) (scan : Scan) (up down : Item) (bouncing : Bool) : Prop :=
  ∃ readings, ⟨up, down, readings⟩ ∈ scan.comparisons ∧
    config.isBouncing ⟨up, down, readings⟩ = bouncing

section
variable {config : TimerConfig} {clock : Nat → Nat × Nat} {up down : Item} {bouncing : Bool}

theorem Scan.Compares.behind {scan : Scan} (compares : scan.Compares config up down bouncing)
    (item : Item) : (scan.behind item).Compares config up down bouncing := compares

theorem Scan.Compares.after {scan : Scan} (compares : scan.Compares config up down bouncing)
    (comparisons : List Comparison) :
    (scan.after comparisons).Compares config up down bouncing := by
  obtain ⟨readings, member, answer⟩ := compares
  exact ⟨readings, List.mem_append.mpr (.inr member), answer⟩

theorem eraseKeyDown_some (isUp : up.params.iskeydown = some false) {made : Nat}
    {rest left : List Item}
    (erased : (config.eraseKeyDown clock up made rest).left = some left) :
    ∃ between down after, rest = between ++ down :: after ∧ left = between ++ after ∧
      Found up between down ∧
      (config.eraseKeyDown clock up made rest).Compares config up down true := by
  induction rest generalizing left made with
  | nil => simp [TimerConfig.eraseKeyDown] at erased
  | cons q rest ih =>
      have later : ∀ {made left},
          (((config.eraseKeyDown clock up made rest).behind q).left = some left) →
          ¬(FromEvent.ofParams up.params).isTargetUpEvent q.params = true →
          ∃ between down after, q :: rest = between ++ down :: after ∧
            left = between ++ after ∧
            Found up between down ∧
            (config.eraseKeyDown clock up made rest).Compares config up down true := by
        intro made left erased notUp
        rw [isTargetUpEvent_iff_up isUp] at notUp
        obtain ⟨left', erased', rfl⟩ := Option.map_eq_some_iff.mp erased
        obtain ⟨between, down, after, rfl, rfl, found, compares⟩ := ih erased'
        refine ⟨q :: between, down, after, rfl, rfl, ⟨isUp, found.sameKey, found.isDown, ?_⟩,
          compares⟩
        intro other member same
        rcases List.mem_cons.mp member with rfl | later
        · exact fun down => notUp ⟨same, down⟩
        · exact found.noUp other later same
      rw [TimerConfig.eraseKeyDown] at erased ⊢
      split at erased
      · exact absurd erased (by simp)
      · next notUp =>
          rw [if_neg notUp]
          split at erased
          · next target =>
              rw [if_pos target]
              split at erased
              · next close =>
                  rw [if_pos close]
                  obtain rfl := Option.some.inj erased
                  rw [isTargetDownEvent_iff_down isUp] at target
                  exact ⟨[], q, rest, rfl, rfl, ⟨isUp, target.1, target.2, by simp⟩,
                    clock made, List.mem_singleton_self _, close⟩
              · next far =>
                  rw [if_neg far]
                  obtain ⟨between, down, after, split_, left_, found, compares⟩ :=
                    later erased notUp
                  exact ⟨between, down, after, split_, left_, found,
                    (compares.behind q).after _⟩
          · next other =>
              rw [if_neg other]
              exact later erased notUp

theorem eraseKeyDown_none (isUp : up.params.iskeydown = some false) {made : Nat}
    {rest : List Item} (erased : (config.eraseKeyDown clock up made rest).left = none)
    {between after : List Item} (split_ : rest = between ++ down :: after)
    (found : Found up between down) :
    (config.eraseKeyDown clock up made rest).Compares config up down false := by
  induction between generalizing rest made with
  | nil =>
      subst split_
      have notUp : ¬(FromEvent.ofParams up.params).isTargetUpEvent down.params = true := by
        rw [isTargetUpEvent_iff_up isUp, found.isDown]
        simp
      have target : (FromEvent.ofParams up.params).isTargetDownEvent down.params = true :=
        (isTargetDownEvent_iff_down isUp).mpr ⟨found.sameKey, found.isDown⟩
      rw [List.nil_append, TimerConfig.eraseKeyDown, if_neg notUp, if_pos target] at erased ⊢
      split at erased
      · exact absurd erased (by simp)
      · next far =>
          rw [if_neg far]
          exact ⟨clock made, List.mem_append.mpr (.inl (List.mem_singleton_self _)),
            Bool.eq_false_iff.mpr far⟩
  | cons q between ih =>
      subst split_
      have notUp : ¬(FromEvent.ofParams up.params).isTargetUpEvent q.params = true := by
        rw [isTargetUpEvent_iff_up isUp]
        rintro ⟨same, up'⟩
        exact found.noUp q List.mem_cons_self same up'
      have found' : Found up between down :=
        { found with noUp := fun other member => found.noUp other (List.mem_cons_of_mem _ member) }
      rw [List.cons_append, TimerConfig.eraseKeyDown, if_neg notUp] at erased ⊢
      split at erased
      · next target =>
          rw [if_pos target]
          split at erased
          · exact absurd erased (by simp)
          · next far =>
              rw [if_neg far]
              exact ((ih (Option.map_eq_none_iff.mp erased) rfl found').behind q).after _
      · next other =>
          rw [if_neg other]
          exact (ih (Option.map_eq_none_iff.mp erased) rfl found').behind q

/-- One retry removes a key-up and the key-down that is found behind it. -/
theorem eraseBouncing_some {made : Nat} {queue left : List Item}
    (erased : (config.eraseBouncing clock made queue).left = some left) :
    ∃ before up between down after, queue = before ++ up :: (between ++ down :: after) ∧
      left = before ++ (between ++ after) ∧ Found up between down ∧
      (config.eraseBouncing clock made queue).Compares config up down true := by
  induction queue generalizing left made with
  | nil => simp [TimerConfig.eraseBouncing] at erased
  | cons p rest ih =>
      have later : ∀ {made left},
          ((config.eraseBouncing clock made rest).behind p).left = some left →
          ∃ before up between down after,
            p :: rest = before ++ up :: (between ++ down :: after) ∧
              left = before ++ (between ++ after) ∧ Found up between down ∧
              (config.eraseBouncing clock made rest).Compares config up down true := by
        intro made left erased
        obtain ⟨left', erased', rfl⟩ := Option.map_eq_some_iff.mp erased
        obtain ⟨before, up, between, down, after, rfl, rfl, found, compares⟩ := ih erased'
        exact ⟨p :: before, up, between, down, after, rfl, rfl, found, compares⟩
      rw [TimerConfig.eraseBouncing] at erased ⊢
      split at erased
      · next isUp =>
          rw [if_pos isUp]
          cases here : (config.eraseKeyDown clock p made rest).left with
          | some here' =>
              simp only [here] at erased ⊢
              obtain rfl := Option.some.inj erased
              obtain ⟨between, down, after, rfl, rfl, found, compares⟩ :=
                eraseKeyDown_some isUp here
              exact ⟨[], p, between, down, after, rfl, rfl, found, compares⟩
          | none =>
              simp only [here] at erased ⊢
              obtain ⟨before, up, between, down, after, split_, left_, found, compares⟩ :=
                later erased
              exact ⟨before, up, between, down, after, split_, left_, found,
                (compares.behind p).after _⟩
      · next notUp =>
          rw [if_neg notUp]
          exact later erased

/-- A retry that removes nothing compares every key-up with the key-downs up to the next one. -/
theorem eraseBouncing_none {made : Nat} {queue : List Item}
    (erased : (config.eraseBouncing clock made queue).left = none)
    {before between after : List Item}
    (split_ : queue = before ++ up :: (between ++ down :: after)) (found : Found up between down) :
    (config.eraseBouncing clock made queue).Compares config up down false := by
  induction before generalizing queue made with
  | nil =>
      subst split_
      rw [List.nil_append, TimerConfig.eraseBouncing, if_pos found.isUp] at erased ⊢
      cases here : (config.eraseKeyDown clock up made (between ++ down :: after)).left with
      | some left =>
          simp only [here] at erased
          cases erased
      | none =>
          simp only [here]
          obtain ⟨readings, member, far⟩ := eraseKeyDown_none found.isUp here rfl found
          exact ⟨readings, List.mem_append.mpr (.inl member), far⟩
  | cons p before ih =>
      subst split_
      rw [List.cons_append, TimerConfig.eraseBouncing] at erased ⊢
      split at erased
      · next isUp =>
          rw [if_pos isUp]
          cases here : (config.eraseKeyDown clock p made
              (before ++ up :: (between ++ down :: after))).left with
          | some left =>
              simp only [here] at erased
              cases erased
          | none =>
              simp only [here] at erased ⊢
              exact ((ih (Option.map_eq_none_iff.mp erased) rfl).behind p).after _
      · next notUp =>
          rw [if_neg notUp]
          exact (ih (Option.map_eq_none_iff.mp erased) rfl).behind p

/-- Each retry follows the removal of two items, so the loop ends. -/
theorem ignoreBouncing_ends {fuel made : Nat} {queue : List Item}
    (enough : queue.length ≤ fuel) :
    Ended config clock made (config.ignoreBouncing clock fuel made queue) := by
  induction fuel generalizing queue made with
  | zero =>
      have empty : queue = [] := List.length_eq_zero_iff.mp (by omega)
      rw [empty]
      exact ⟨[], rfl, rfl⟩
  | succ fuel ih =>
      rw [TimerConfig.ignoreBouncing]
      cases erased : (config.eraseBouncing clock made queue).left with
      | none =>
          exact ⟨[], rfl, erased⟩
      | some left =>
          obtain ⟨before, up, between, down, after, rfl, rfl, -⟩ := eraseBouncing_some erased
          have shorter : (before ++ (between ++ after)).length ≤ fuel := by
            simp only [List.length_append, List.length_cons] at enough ⊢
            omega
          generalize config.eraseBouncing clock made
            (before ++ up :: (between ++ down :: after)) = scan
          obtain ⟨earlier, comparisons, last⟩ :=
            @ih (made + scan.comparisons.length) _ shorter
          refine ⟨scan.comparisons ++ earlier, ?_, ?_⟩
          · rw [List.length_append, ← Nat.add_assoc, List.append_assoc, ← comparisons]
          · rw [List.length_append, ← Nat.add_assoc]
            exact last

end

section
variable {pressed : Bool} {left right : List Bool}

/-- Downs between a key-up and a key-down would stand in front of another down. -/
theorem nil_of_downs {inside : List Bool} (downs : ∀ isDown ∈ inside, isDown = true)
    (alternates : (pressed :: (left ++ false :: (inside ++ true :: right))).IsChain (· ≠ ·)) :
    inside = [] := by
  rcases List.eq_nil_or_concat inside with empty | ⟨front, last, split_⟩
  · exact empty
  · rw [List.concat_eq_append] at split_
    subst split_
    obtain rfl := downs last (by simp)
    have split_ : pressed :: (left ++ false :: (front ++ [true] ++ true :: right)) =
        (pressed :: (left ++ false :: front)) ++ true :: true :: right := by
      simp
    rw [split_, List.isChain_append_cons_cons] at alternates
    exact absurd rfl alternates.2.1

/-- Where downs and ups alternate, a key-up and the key-down behind it may go. -/
theorem isChain_erase
    (alternates : (pressed :: (left ++ false :: true :: right)).IsChain (· ≠ ·)) :
    (pressed :: (left ++ right)).IsChain (· ≠ ·) ∧
      (left ++ right).getLastD pressed = (left ++ false :: true :: right).getLastD pressed := by
  induction left generalizing pressed with
  | nil =>
      have held : pressed = true := by
        have differ := (List.isChain_cons_cons.mp alternates).1
        simpa using differ
      subst held
      refine ⟨(List.isChain_cons_cons.mp alternates).2.of_cons, ?_⟩
      rw [List.nil_append, List.nil_append, List.getLastD_cons, List.getLastD_cons]
  | cons b left ih =>
      obtain ⟨differ, later⟩ := List.isChain_cons_cons.mp alternates
      obtain ⟨chain, same⟩ := ih later
      refine ⟨List.isChain_cons_cons.mpr ⟨differ, chain⟩, ?_⟩
      rw [List.cons_append, List.cons_append, List.getLastD_cons, List.getLastD_cons]
      exact same

end

section
variable {config : TimerConfig} {clock : Nat → Nat × Nat} {up down : Item}
  {before between after : List Item}

theorem erased_sublist {before between after : List Item} :
    (before ++ (between ++ after)).Sublist (before ++ up :: (between ++ down :: after)) := by
  apply List.Sublist.append_left
  apply List.Sublist.cons
  apply List.Sublist.append_left
  exact List.sublist_cons_self _ _

theorem Found.downs_between (found : Found up between down) (device : Nat) :
    ∀ isDown ∈ downs device (FromEvent.ofParams up.params) between, isDown = true := by
  intro isDown member
  obtain ⟨item, kept, rfl⟩ := List.mem_map.mp member
  obtain ⟨isEvent, -⟩ := List.mem_filter.mp kept
  obtain ⟨inside, known⟩ := List.mem_filter.mp isEvent
  rw [isEventOfKey, Bool.and_eq_true, decide_eq_true_iff] at known
  have notUp := found.noUp item inside known.2
  cases answer : item.params.iskeydown with
  | none => rw [answer] at known; simp at known
  | some isDown =>
      cases isDown with
      | true => simp [EventInputQueue.isDown, answer]
      | false => exact absurd answer notUp

/-- Where both events come from one device, its downs and ups have them side by side. -/
theorem Found.downs_own (found : Found up between down) (sameDevice : up.device = down.device)
    {pressed : Bool}
    (alternates : (pressed :: downs up.device (FromEvent.ofParams up.params)
      (before ++ up :: (between ++ down :: after))).IsChain (· ≠ ·)) :
    downs up.device (FromEvent.ofParams up.params)
        (before ++ up :: (between ++ down :: after)) =
      downs up.device (FromEvent.ofParams up.params) before ++ false :: true ::
        downs up.device (FromEvent.ofParams up.params) after ∧
    downs up.device (FromEvent.ofParams up.params) (before ++ (between ++ after)) =
      downs up.device (FromEvent.ofParams up.params) before ++
        downs up.device (FromEvent.ofParams up.params) after := by
  have whole : downs up.device (FromEvent.ofParams up.params)
      (before ++ up :: (between ++ down :: after)) =
        downs up.device (FromEvent.ofParams up.params) before ++ false ::
          (downs up.device (FromEvent.ofParams up.params) between ++ true ::
            downs up.device (FromEvent.ofParams up.params) after) := by
    simp [downs, eventsOfKey, isEventOfKey, EventInputQueue.isDown, found.isUp, found.isDown,
      found.sameKey, sameDevice]
  have empty : downs up.device (FromEvent.ofParams up.params) between = [] := by
    rw [whole] at alternates
    exact nil_of_downs (found.downs_between up.device) alternates
  rw [whole, empty]
  refine ⟨rfl, ?_⟩
  simp only [downs, eventsOfKey, List.filter_append, List.map_append] at empty ⊢
  rw [empty, List.nil_append]

theorem Found.downs_other (found : Found up between down) {device : Nat} {fromEvent : FromEvent}
    (other : fromEvent ≠ FromEvent.ofParams up.params ∨ device ≠ up.device ∧
      device ≠ down.device) :
    downs device fromEvent (before ++ (between ++ after)) =
      downs device fromEvent (before ++ up :: (between ++ down :: after)) := by
  rcases other with other | ⟨notUp, notDown⟩
  · simp [downs, eventsOfKey, isEventOfKey, found.sameKey, other.symm]
  · simp only [downs, eventsOfKey, List.filter_append, List.filter_cons, List.map_append]
    split <;> split <;> simp [notUp.symm, notDown.symm]

/-- One retry keeps each key of each device in step. -/
theorem Found.alternates (found : Found up between down) (sameDevice : up.device = down.device)
    (device : Nat) (fromEvent : FromEvent) (pressed : Bool)
    (alternates : (pressed :: downs device fromEvent
      (before ++ up :: (between ++ down :: after))).IsChain (· ≠ ·)) :
    (pressed :: downs device fromEvent (before ++ (between ++ after))).IsChain (· ≠ ·) ∧
      (downs device fromEvent (before ++ (between ++ after))).getLastD pressed =
        (downs device fromEvent (before ++ up :: (between ++ down :: after))).getLastD pressed := by
  by_cases own : fromEvent = FromEvent.ofParams up.params ∧ device = up.device
  · obtain ⟨rfl, rfl⟩ := own
    obtain ⟨old, new⟩ := found.downs_own sameDevice alternates
    rw [old] at alternates ⊢
    rw [new]
    exact isChain_erase alternates
  · have other : fromEvent ≠ FromEvent.ofParams up.params ∨
        device ≠ up.device ∧ device ≠ down.device := by
      rw [← sameDevice]
      by_cases key : fromEvent = FromEvent.ofParams up.params
      · exact .inr ⟨fun same => own ⟨key, same⟩, fun same => own ⟨key, same⟩⟩
      · exact .inl key
    have same : downs device fromEvent (before ++ (between ++ after)) =
        downs device fromEvent (before ++ up :: (between ++ down :: after)) :=
      found.downs_other other
    rw [same]
    exact ⟨alternates, rfl⟩

/-- What each retry leaves. -/
theorem ignoreBouncing_keeps (fuel made : Nat) (queue : List Item)
    (fair : ∀ comparison ∈ (config.ignoreBouncing clock fuel made queue).1,
      config.Fair comparison) :
    (config.ignoreBouncing clock fuel made queue).2.Sublist queue ∧
      ∀ device fromEvent pressed,
        (pressed :: downs device fromEvent queue).IsChain (· ≠ ·) →
          (pressed :: downs device fromEvent
              (config.ignoreBouncing clock fuel made queue).2).IsChain (· ≠ ·) ∧
            (downs device fromEvent
              (config.ignoreBouncing clock fuel made queue).2).getLastD pressed =
              (downs device fromEvent queue).getLastD pressed := by
  induction fuel generalizing queue made with
  | zero => exact ⟨.refl _, fun device fromEvent pressed alternates => ⟨alternates, rfl⟩⟩
  | succ fuel ih =>
      rw [TimerConfig.ignoreBouncing] at fair ⊢
      cases erased : (config.eraseBouncing clock made queue).left with
      | none =>
          exact ⟨.refl _, fun device fromEvent pressed alternates => ⟨alternates, rfl⟩⟩
      | some left =>
          simp only [erased] at fair ⊢
          obtain ⟨smaller, keeps⟩ := ih _ _ fun comparison member =>
            fair comparison (List.mem_append.mpr (.inr member))
          obtain ⟨before, up, between, down, after, rfl, rfl, found, readings, member, close⟩ :=
            eraseBouncing_some erased
          have sameDevice : up.device = down.device :=
            (fair _ (List.mem_append.mpr (.inl member))).sameDevice close
          refine ⟨smaller.trans erased_sublist, ?_⟩
          intro device fromEvent pressed alternates
          obtain ⟨chain, same⟩ :=
            found.alternates sameDevice device fromEvent pressed alternates
          obtain ⟨chain', same'⟩ := keeps device fromEvent pressed chain
          exact ⟨chain', same'.trans same⟩

theorem inStep_of_fair {queue : List Item}
    (fair : ∀ comparison ∈ (config.ignoreBouncing clock queue.length 0 queue).1,
      config.Fair comparison) :
    InStep config queue (config.ignoreBouncing clock queue.length 0 queue).2 := by
  have ends : Ended config clock 0 (config.ignoreBouncing clock queue.length 0 queue) :=
    ignoreBouncing_ends (Nat.le_refl _)
  obtain ⟨sublist, alternates⟩ := ignoreBouncing_keeps queue.length 0 queue fair
  refine ⟨sublist, alternates, ?_⟩
  intro before up between down after split_ isUp isDown sameKey sameDevice noUp
  obtain ⟨earlier, comparisons, last⟩ := ends
  obtain ⟨readings, member, far⟩ :=
    eraseBouncing_none last split_ ⟨isUp, sameKey, isDown, noUp⟩
  have compared := fair ⟨up, down, readings⟩ (by
    rw [comparisons]
    exact List.mem_append.mpr (.inr member))
  by_contra close
  have found : config.isBouncing ⟨up, down, readings⟩ = true :=
    compared.measured sameDevice.symm (Nat.lt_of_not_le close)
  rw [far] at found
  exact Bool.noConfusion found

theorem Timed.arrived_at {queue : List Item} (timed : Timed clock queue) (item : Item)
    (inside : item ∈ queue) (made : Nat) : item.ic.begun ≤ (clock made).1 := by
  induction made with
  | zero => exact timed.arrived item inside
  | succ made ih =>
      obtain ⟨first, second⟩ := timed.runs made
      omega

theorem Comparison.Of.sublist {comparison : Comparison} {queue larger : List Item}
    (compared : comparison.Of clock queue) (sublist : queue.Sublist larger) :
    comparison.Of clock larger :=
  { compared with inOrder := compared.inOrder.trans sublist }

theorem eraseKeyDown_of (isUp : up.params.iskeydown = some false) {made : Nat} {rest : List Item}
    {comparison : Comparison}
    (member : comparison ∈ (config.eraseKeyDown clock up made rest).comparisons) :
    comparison.Of clock (up :: rest) := by
  induction rest generalizing made with
  | nil => simp [TimerConfig.eraseKeyDown] at member
  | cons q rest ih =>
      have skip : (up :: rest).Sublist (up :: q :: rest) :=
        (List.sublist_cons_self q rest).cons_cons up
      rw [TimerConfig.eraseKeyDown] at member
      split at member
      · simp at member
      · split at member
        · next target =>
            rw [isTargetDownEvent_iff_down isUp] at target
            have here : Comparison.Of clock (up :: q :: rest) ⟨up, q, clock made⟩ :=
              ⟨(List.nil_sublist rest |>.cons_cons q).cons_cons up, target.1, made, rfl⟩
            split at member
            · rw [List.mem_singleton.mp member]
              exact here
            · rcases List.mem_cons.mp member with rfl | later
              · exact here
              · exact (ih later).sublist skip
        · exact (ih member).sublist skip

theorem eraseBouncing_of {made : Nat} {queue : List Item} {comparison : Comparison}
    (member : comparison ∈ (config.eraseBouncing clock made queue).comparisons) :
    comparison.Of clock queue := by
  induction queue generalizing made with
  | nil => simp [TimerConfig.eraseBouncing] at member
  | cons p rest ih =>
      have skip : rest.Sublist (p :: rest) := List.sublist_cons_self p rest
      rw [TimerConfig.eraseBouncing] at member
      split at member
      · next isUp =>
          cases here : (config.eraseKeyDown clock p made rest).left with
          | some left =>
              simp only [here] at member
              exact eraseKeyDown_of isUp member
          | none =>
              simp only [here] at member
              rcases List.mem_append.mp member with own | later
              · exact eraseKeyDown_of isUp own
              · exact (ih later).sublist skip
      · exact (ih member).sublist skip

/-- Every comparison of the loop is one of two items of the queue. -/
theorem ignoreBouncing_of {fuel made : Nat} {queue : List Item} {comparison : Comparison}
    (member : comparison ∈ (config.ignoreBouncing clock fuel made queue).1) :
    comparison.Of clock queue := by
  induction fuel generalizing queue made with
  | zero => simp [TimerConfig.ignoreBouncing] at member
  | succ fuel ih =>
      rw [TimerConfig.ignoreBouncing] at member
      cases erased : (config.eraseBouncing clock made queue).left with
      | none =>
          simp only [erased] at member
          exact eraseBouncing_of member
      | some left =>
          simp only [erased] at member
          rcases List.mem_append.mp member with here | later
          · exact eraseBouncing_of here
          · obtain ⟨before, up, between, down, after, rfl, rfl, -⟩ := eraseBouncing_some erased
            exact (ih later).sublist erased_sublist

theorem fair_of_clear {readings : Nat × Nat} (sameDevice : up.device = down.device)
    (order : up.ic.begun ≤ down.ic.begun) (arrived : down.ic.begun ≤ readings.1)
    (runs : readings.1 ≤ readings.2) (recent : readings.2 < up.ic.begun + 2147483000000)
    (clear : config.Clear up down readings) :
    config.Fair ⟨up, down, readings⟩ where
  sameDevice _ := sameDevice
  measured _ close := by
    unfold TimerConfig.Clear at clear
    dsimp only at close clear
    obtain ⟨below1, above1⟩ := @IntervalChecker.getmillisec_near up.ic readings.1
      (by omega) (by omega)
    obtain ⟨below2, above2⟩ := @IntervalChecker.getmillisec_near down.ic readings.2
      (by omega) (by omega)
    have later : down.ic.getmillisec readings.2 ≤ up.ic.getmillisec readings.1 := by
      rw [UInt32.le_iff_toNat_le]
      omega
    rw [TimerConfig.isBouncing, decide_eq_true_iff, Comparison.interval, UInt32.lt_iff_toNat_lt,
      UInt32.toNat_sub_of_le _ _ later]
    dsimp only
    omega

/-- Where each key is used on one device and the times are clear of the threshold, the removal
keeps everything in step. -/
theorem bounces_removed_of_clear {queue : List Item} (timed : Timed clock queue)
    (recent : ∀ item ∈ queue, ∀ made, (clock made).2 < item.ic.begun + 2147483000000)
    (one : ∀ item ∈ queue, ∀ other ∈ queue,
      FromEvent.ofParams item.params = FromEvent.ofParams other.params →
        item.device = other.device)
    (clear : ∀ up down made, [up, down].Sublist queue →
      FromEvent.ofParams down.params = FromEvent.ofParams up.params →
      config.Clear up down (clock made)) :
    InStep config queue (config.ignoreBouncing clock queue.length 0 queue).2 := by
  apply inStep_of_fair
  intro comparison member
  obtain ⟨inOrder, sameKey, made, reading⟩ := ignoreBouncing_of member
  have upInside := inOrder.subset (List.mem_cons_self ..)
  have downInside := inOrder.subset (List.mem_cons_of_mem _ (List.mem_cons_self ..))
  have order := timed.increasing.sublist (inOrder.map _)
  obtain ⟨up, down, readings⟩ := comparison
  obtain rfl := reading
  refine fair_of_clear (one up upInside down downInside sameKey.symm) ?_ ?_ ?_ ?_ ?_
  · simpa using order
  · exact timed.arrived_at down downInside made
  · exact (timed.runs made).1
  · exact recent up upInside made
  · exact clear up down made inOrder sameKey

end

/-- The retry loop ends. Where every comparison is fair, what it leaves is in step with the queue,
and no bounce is left. -/
theorem bounces_removed_in_step (config : TimerConfig) (clock : Nat → Nat × Nat)
    (queue : List Item)
    (fair : ∀ comparison ∈ (config.ignoreBouncing clock queue.length 0 queue).1,
      config.Fair comparison) :
    Ended config clock 0 (config.ignoreBouncing clock queue.length 0 queue) ∧
      InStep config queue (config.ignoreBouncing clock queue.length 0 queue).2 :=
  ⟨ignoreBouncing_ends (Nat.le_refl _), inStep_of_fair fair⟩

/-- Bounces of the keyboard within 100 ms are removed. -/
def bouncingConfig : TimerConfig where
  isSimultaneousKeyPressesEnabled := false
  general_ignore_bouncing_events := true
  simultaneouskeypresses_delay := 50
  simultaneouskeypresses_pointingbutton_delay := 50
  ignore_bouncing_threshold_for_keyboard := 100
  ignore_bouncing_threshold_for_mice := 100
  parameter_blockuntilkeyup_timeout := 300

/-- A bounces on one keyboard. -/
theorem bounces_removed_in_step_once :
    InStep bouncingConfig
      [(keyArrival 1 ⟨0⟩ false 10000).item, (keyArrival 1 ⟨0⟩ true 20000).item]
      (bouncingConfig.ignoreBouncing (fun _ => (30000, 30000)) 2 0
        [(keyArrival 1 ⟨0⟩ false 10000).item, (keyArrival 1 ⟨0⟩ true 20000).item]).2 :=
  (bounces_removed_in_step bouncingConfig (fun _ => (30000, 30000))
    [(keyArrival 1 ⟨0⟩ false 10000).item, (keyArrival 1 ⟨0⟩ true 20000).item] (by decide)).2

/-- A goes up on one keyboard, where it was held, and right after that down on another. On one
keyboard it goes down 99 ms after it went up, and the clock says 100 ms. -/
theorem bounces_out_of_step :
    (¬∀ (config : TimerConfig) (clock : Nat → Nat × Nat) (queue : List Item),
      Timed clock queue →
        InStep config queue (config.ignoreBouncing clock queue.length 0 queue).2) ∧
    ¬∀ (config : TimerConfig) (clock : Nat → Nat × Nat) (queue : List Item),
      Timed clock queue → (∀ item ∈ queue, item.device = 1) →
        InStep config queue (config.ignoreBouncing clock queue.length 0 queue).2 := by
  constructor
  · intro claim
    have inStep := claim bouncingConfig (fun _ => (30000, 30000))
      [(keyArrival 1 ⟨0⟩ false 10000).item, (keyArrival 2 ⟨0⟩ true 20000).item]
      ⟨by decide, by decide, fun _ => ⟨Nat.le_refl _, Nat.le_refl _⟩⟩
    have last := (inStep.alternates 1 (.KEY ⟨0⟩) true (by decide)).2
    exact absurd last (by decide)
  · intro claim
    have inStep := claim bouncingConfig (fun _ => (11060000, 11060000))
      [(keyArrival 1 ⟨0⟩ false 10950500).item, (keyArrival 1 ⟨0⟩ true 11049500).item]
      ⟨by decide, by decide, fun _ => ⟨Nat.le_refl _, Nat.le_refl _⟩⟩ (by decide)
    have apart := inStep.noBounce [] (keyArrival 1 ⟨0⟩ false 10950500).item []
      (keyArrival 1 ⟨0⟩ true 11049500).item [] (by decide) rfl rfl rfl rfl (by simp)
    exact absurd apart (by decide)

/-- Both keyboards then end as they began if the other key-up and key-down cross as well. -/
example : (bouncingConfig.ignoreBouncing (fun _ => (50000, 50000)) 4 0
    [(keyArrival 1 ⟨0⟩ false 10000).item, (keyArrival 2 ⟨0⟩ true 20000).item,
      (keyArrival 2 ⟨0⟩ false 30000).item, (keyArrival 1 ⟨0⟩ true 40000).item]).2 = [] := by
  decide

end Karabiner.EventInputQueue
