import Karabiner.DependingPressingPeriodKeyToKey
import Karabiner.SentCounters

set_option autoImplicit false

/- What DependingPressingPeriodKeyToKey takes from the from flags it gives back, and the downs and
ups of its KeyToKeys alternate, as long as one press ends before the next. -/
namespace Karabiner.DependingPressingPeriodKeyToKey

open Counters (offset)

/-- A ScopedSetter gives back what it takes, and stands around calls of others only. -/
def Effect.apply (effect : Effect) (status : FlagStatus) : FlagStatus :=
  match effect with
  | .flagStatus method selection => status.call method selection
  | _ => status

/-- The calls of FlagStatus in their order. -/
def applyAll (effects : List Effect) (status : FlagStatus) : FlagStatus :=
  effects.foldl (fun status effect => effect.apply status) status

/-- What the calls add to count_ of the modifiers, whatever else they are. -/
def Contributes (effects : List Effect) (change : ModifierFlag → Int) : Prop :=
  ∀ status, (applyAll effects status).counts = offset change status.counts

def Effect.callTo (inner : Inner) : Effect → Option EventType
  | .call_remap other eventType _ => if other = inner then some eventType else none
  | _ => none

def callsTo (inner : Inner) (effects : List Effect) : List EventType :=
  effects.filterMap (Effect.callTo inner)

/-- A down where it is up, or an up where it is down. -/
def alternate (isDown : Bool) (eventType : EventType) : Option Bool :=
  if eventType = (if isDown then EventType.UP else EventType.DOWN) then some !isDown else none

/-- The calls alternate from the first, which is a down. -/
def Alternates (calls : List EventType) (isDown : Bool) : Prop :=
  calls.foldlM alternate false = some isDown

section
variable (settings : Settings) (item : DependingPressingPeriodKeyToKey)

/-- An event that the item takes as a press. -/
def acceptsPress (readings : Readings) (params : Params) (isremapped : Bool) : Bool :=
  params.iskeydown = some true && !isremapped && item.fromEvent_.targetIsDown params = some true &&
    readings.flagStatus.isOn item.fromModifierFlags_

/-- Neither a press nor a reset comes while a press is held. -/
def Single (tracked : Tracked) : Step → Prop
  | .remap readings params isremapped _ =>
      acceptsPress item readings params isremapped = true → tracked.state.pressing = 0
  | .reset => tracked.state.pressing = 0
  | .prepare _ _ | .timer _ | .otherTarget _ => True

structure Balanced (tracked : Tracked) : Prop where
  own : ∃ change, Contributes tracked.sinceReset change ∧
    ∀ flag ∈ item.pureFromModifierFlags_ settings, flag ≠ ModifierFlag.CAPSLOCK →
      change flag = if tracked.state.isFromModifierDecreased_ then -1 else 0
  released : tracked.state.pressing = 0 → tracked.state.isFromModifierDecreased_ = false
  calls : ∀ inner, ∃ isDown, Alternates (callsTo inner tracked.effects) isDown ∧
    (tracked.state.pressing = 0 → isDown = false)

end

section
variable {first second : List Effect}

theorem Contributes.append {one other : ModifierFlag → Int} (left : Contributes first one)
    (right : Contributes second other) : Contributes (first ++ second) (one + other) := by
  intro status
  have split : applyAll (first ++ second) status = applyAll second (applyAll first status) :=
    List.foldl_append
  rw [split, right, left, Counters.offset_offset]

theorem contributes_call (method : FlagStatus.Method) (selection : FlagStatus.Selection) :
    Contributes [.flagStatus method selection] (selection.net method.step) :=
  FlagStatus.call_counts method selection

/-- No call of FlagStatus is among them. -/
def Silent (effects : List Effect) : Prop :=
  ∀ effect ∈ effects, ∀ status, effect.apply status = status

theorem Silent.contributes (silent : Silent first) : Contributes first 0 := by
  intro status
  have same : applyAll first status = status := by
    induction first with
    | nil => rfl
    | cons effect effects ih =>
        obtain ⟨here, rest⟩ := List.forall_mem_cons.mp silent
        show applyAll effects (effect.apply status) = status
        rw [here status]
        exact ih rest
  rw [same, Counters.offset_zero]

theorem callsTo_append (inner : Inner) :
    callsTo inner (first ++ second) = callsTo inner first ++ callsTo inner second :=
  List.filterMap_append

end

section
variable {settings : Settings} {item : DependingPressingPeriodKeyToKey}

/-- What was called down last. -/
def isDown (held : Bool) (state : State) : Inner → Bool
  | .SHORT_PERIOD => state.periodtype_ = .SHORT_PERIOD
  | .LONG_PERIOD => state.periodtype_ = .LONG_PERIOD
  | .LONG_LONG_PERIOD => state.periodtype_ = .LONG_LONG_PERIOD
  | .PRESSING_TARGET_KEY_ONLY => false
  | .beforeAfterKeys_ => held

def owed (state : State) : Int := if state.isFromModifierDecreased_ then -1 else 0

/-- The calls alternate from what is down before to what is down after. -/
def Passes (down next : Inner → Bool) (effects : List Effect) : Prop :=
  ∀ inner, (callsTo inner effects).foldlM alternate (down inner) = some (next inner)

theorem Passes.append {down middle next : Inner → Bool} {first second : List Effect}
    (left : Passes down middle first) (right : Passes middle next second) :
    Passes down next (first ++ second) := by
  intro inner
  rw [callsTo_append, List.foldlM_append, left inner]
  exact right inner

variable (settings item) in
/-- A computation that begins in the state. -/
structure Follows (down next : Inner → Bool) (state : State) (act : Act) : Prop where
  own : ∃ change, Contributes act.events change ∧
    ∀ flag ∈ item.pureFromModifierFlags_ settings, change flag = owed act.value - owed state
  calls : Passes down next act.events

theorem Follows.bind {down middle next : Inner → Bool} {state : State} {act : Act}
    {rest : State → Act} (left : Follows settings item down middle state act)
    (right : Follows settings item middle next act.value (rest act.value)) :
    Follows settings item down next state (act >>= rest) := by
  obtain ⟨one, first, same⟩ := left.own
  obtain ⟨other, second, same'⟩ := right.own
  refine ⟨⟨one + other, first.append second, fun flag member => ?_⟩,
    left.calls.append right.calls⟩
  show one flag + other flag = owed (rest act.value).value - owed state
  rw [same flag member, same' flag member]
  omega

/-- Calls that leave FlagStatus alone. -/
theorem follows_perform {down next : Inner → Bool} {before state : State} {effects : List Effect}
    (silent : Silent effects) (passes : Passes down next effects)
    (same : state.isFromModifierDecreased_ = before.isFromModifierDecreased_) :
    Follows settings item down next before (perform effects state) := by
  refine ⟨⟨0, silent.contributes, fun flag member => ?_⟩, passes⟩
  show 0 = owed state - owed before
  unfold owed
  rw [same, Int.sub_self]

theorem follows_pure {down : Inner → Bool} {before state : State}
    (same : state.isFromModifierDecreased_ = before.isFromModifierDecreased_) :
    Follows settings item down down before (pure state) :=
  follows_perform (fun _ none => absurd none List.not_mem_nil) (fun _ => rfl) same

/-- The state that a computation begins in counts for isFromModifierDecreased_ alone. -/
theorem Follows.of_same {down next : Inner → Bool} {before state : State} {act : Act}
    (follows : Follows settings item down next state act)
    (same : state.isFromModifierDecreased_ = before.isFromModifierDecreased_) :
    Follows settings item down next before act := by
  obtain ⟨⟨change, contributes, own⟩, calls⟩ := follows
  refine ⟨⟨change, contributes, fun flag member => ?_⟩, calls⟩
  rw [own flag member]
  unfold owed
  rw [same]

theorem net_pure {flag : ModifierFlag} (member : flag ∈ item.pureFromModifierFlags_ settings)
    (step : Int) :
    (FlagStatus.Selection.list (item.pureFromModifierFlags_ settings)).net step flag = step := by
  simp [FlagStatus.Selection.net, FlagStatus.Selection.selects, member]

/-- The flag of the key itself is not a pure from flag. -/
theorem net_own {flag : ModifierFlag} (member : flag ∈ item.pureFromModifierFlags_ settings)
    (step : Int) :
    (FlagStatus.Selection.flag (item.fromEvent_.getModifierFlag settings.pairs)).net step flag =
      0 := by
  have other : item.fromEvent_.getModifierFlag settings.pairs ≠ flag :=
    of_decide_eq_true (List.mem_filter.mp member).2
  simp [FlagStatus.Selection.net, FlagStatus.Selection.selects, other]

variable (settings item) in
/-- Nothing happens, or the flags are taken or given back. -/
inductive Manipulates (state : State) : Act → Prop
  | nothing : Manipulates state (pure state)
  | decrease : state.isFromModifierDecreased_ = false →
      Manipulates state
        (perform [.flagStatus .decrease (.list (item.pureFromModifierFlags_ settings))]
          { state with isFromModifierDecreased_ := true })
  | increase : state.isFromModifierDecreased_ = true →
      Manipulates state
        (perform [.flagStatus .increase (.list (item.pureFromModifierFlags_ settings))]
          { state with isFromModifierDecreased_ := false })

theorem manipulates (inner : Inner) (manipulation : Manipulation) (force : Bool)
    (state : State) :
    Manipulates settings item state
      (manipulatePureFromModifierFlags settings item inner manipulation force state) := by
  unfold manipulatePureFromModifierFlags
  split
  · exact .nothing
  · next notDecreased =>
    split
    · exact .nothing
    · next notIncreased =>
      extract_lets need
      cases need with
      | false => exact .nothing
      | true =>
          cases manipulation with
          | DECREASE => exact .decrease (by simpa using notDecreased)
          | INCREASE => exact .increase (by simpa using notIncreased)

theorem manipulate_follows (down : Inner → Bool) (inner : Inner) (manipulation : Manipulation)
    (force : Bool) (state : State) :
    Follows settings item down down state
      (manipulatePureFromModifierFlags settings item inner manipulation force state) := by
  have manipulates := @manipulates settings item inner manipulation force state
  generalize manipulatePureFromModifierFlags settings item inner manipulation force state = act
    at manipulates ⊢
  cases manipulates with
  | nothing => exact follows_pure rfl
  | decrease before =>
      refine ⟨⟨_, contributes_call _ _, fun flag member => ?_⟩, fun _ => rfl⟩
      rw [net_pure member]
      simp [perform, owed, before, FlagStatus.Method.step]
  | increase before =>
      refine ⟨⟨_, contributes_call _ _, fun flag member => ?_⟩, fun _ => rfl⟩
      rw [net_pure member]
      simp [perform, owed, before, FlagStatus.Method.step]

/-- Only isFromModifierDecreased_ differs. -/
def Same (before after : State) : Prop :=
  after = { before with isFromModifierDecreased_ := after.isFromModifierDecreased_ }

theorem Same.trans {before between after : State} (left : Same before between)
    (right : Same between after) : Same before after := by
  unfold Same at left right ⊢
  rw [left] at right
  exact right

theorem manipulate_same (inner : Inner) (manipulation : Manipulation) (force : Bool)
    (state : State) :
    Same state
      (manipulatePureFromModifierFlags settings item inner manipulation force state).value := by
  have manipulates := @manipulates settings item inner manipulation force state
  generalize manipulatePureFromModifierFlags settings item inner manipulation force state = act
    at manipulates ⊢
  cases manipulates with
  | nothing | decrease | increase => rfl

theorem manipulate_increase (inner : Inner) (state : State) :
    (manipulatePureFromModifierFlags settings item inner .INCREASE true
      state).value.isFromModifierDecreased_ = false := by
  unfold manipulatePureFromModifierFlags
  rw [if_neg (by simp)]
  split
  · next already => exact already.2
  · rfl

theorem Same.pressing {before after : State} (same : Same before after) :
    after.pressing = before.pressing := by
  rw [same]

theorem callWithSaved_follows {down next : Inner → Bool} {calls : List Effect} (inner : Inner)
    (silent : Silent calls) (passes : Passes down next calls) (state : State) :
    Follows settings item down next state (callWithSaved settings item inner calls state) := by
  have quiet : Silent (.setSaved :: calls ++ [.unsetSaved]) := by
    intro effect member
    rcases List.mem_append.mp member with first | last
    · rcases List.mem_cons.mp first with rfl | inside
      · exact fun _ => rfl
      · exact silent effect inside
    · rw [List.mem_singleton.mp last]
      exact fun _ => rfl
  have whole : Passes down next (.setSaved :: calls ++ [.unsetSaved]) := by
    have before : Passes down down [.setSaved] := fun _ => rfl
    have after : Passes next next [.unsetSaved] := fun _ => rfl
    exact (before.append passes).append after
  exact (manipulate_follows down inner .DECREASE false state).bind
    ((follows_perform quiet whole rfl).bind (manipulate_follows next inner .INCREASE false _))

theorem callWithSaved_same (inner : Inner) (calls : List Effect) (state : State) :
    Same state (callWithSaved settings item inner calls state).value :=
  (manipulate_same inner .DECREASE false state).trans (manipulate_same inner .INCREASE false _)

theorem callUp_follows {down next : Inner → Bool} (inner : Inner) (state : State)
    (passes : Passes down next [.call_remap inner .UP state.lastPhysicalEventType_]) :
    Follows settings item down next state (callUp settings item inner state) := by
  have quiet : Silent [.call_remap inner .UP state.lastPhysicalEventType_] := by
    intro effect member
    rw [List.mem_singleton.mp member]
    exact fun _ => rfl
  exact (follows_perform quiet passes rfl).bind
    (manipulate_follows next inner .INCREASE false state)

theorem callUp_same (inner : Inner) (state : State) :
    Same state (callUp settings item inner state).value :=
  manipulate_same inner .INCREASE false state

theorem isDown_congr {before after : State} (held : Bool)
    (same : after.periodtype_ = before.periodtype_) : isDown held after = isDown held before := by
  funext inner
  cases inner <;> simp [isDown, same]

theorem Same.isDown {before after : State} (same : Same before after) (held : Bool) :
    isDown held after = isDown held before :=
  isDown_congr held (by rw [same])

/-- The timer of this item runs while it is active. -/
def Timed (state : State) : Prop :=
  state.fire_timer_.active = true → state.isTarget = true → state.active_ = true

theorem dokeydown_idle {state : State} (idle : state.active_ = false)
    (physicalEventType : PhysicalEventType) :
    dokeydown settings item physicalEventType state = pure state := by
  unfold dokeydown
  rw [idle]
  rfl

/-- The state in which dokeydown looks at periodtype_. -/
def stopped (state : State) : State :=
  { state with
    active_ := false
    fire_timer_ :=
      if state.isTarget then state.fire_timer_.cancelTimeout else state.fire_timer_ }

theorem dokeydown_active {state : State} (active : state.active_ = true)
    (physicalEventType : PhysicalEventType) :
    dokeydown settings item physicalEventType state =
      if state.periodtype_ = .NONE then
        callWithSaved settings item .SHORT_PERIOD
          [.call_remap .SHORT_PERIOD .DOWN physicalEventType, .prepare .SHORT_PERIOD]
          { stopped state with periodtype_ := .SHORT_PERIOD }
      else pure (stopped state) := by
  unfold dokeydown stopped
  rw [active]
  by_cases target : state.isTarget = true
  · cases state.periodtype_ <;> simp [target]
  · cases state.periodtype_ <;> simp [target]

theorem dokeydown_follows (held : Bool) (physicalEventType : PhysicalEventType) (state : State) :
    Follows settings item (isDown held state)
      (isDown held (dokeydown settings item physicalEventType state).value) state
      (dokeydown settings item physicalEventType state) := by
  cases active : state.active_ with
  | false =>
      rw [dokeydown_idle active]
      exact follows_pure rfl
  | true =>
      rw [dokeydown_active active]
      split
      · next period =>
        rw [(callWithSaved_same _ _ _).isDown]
        refine (callWithSaved_follows _ ?_ ?_ _).of_same rfl
        · simp [Silent, Effect.apply]
        · intro inner
          cases inner <;>
            simp [callsTo, List.filterMap_cons, Effect.callTo, isDown, period, alternate]
      · exact follows_pure rfl

structure Stops (before after : State) : Prop where
  active : after.active_ = false
  pressing : after.pressing = before.pressing
  timed : Timed before → Timed after

theorem stops_stopped (state : State) : Stops state (stopped state) := by
  refine ⟨rfl, rfl, fun _ running target => ?_⟩
  unfold stopped at running target
  dsimp only at running target
  rw [if_pos target] at running
  exact absurd running (by simp [TimerWrapper.cancelTimeout])

theorem dokeydown_stops (physicalEventType : PhysicalEventType) (state : State) :
    Stops state (dokeydown settings item physicalEventType state).value := by
  cases active : state.active_ with
  | false =>
      rw [dokeydown_idle active]
      exact ⟨active, rfl, id⟩
  | true =>
      rw [dokeydown_active active]
      obtain ⟨idle, pressing, timed⟩ := stops_stopped state
      split
      · have same := @callWithSaved_same settings item .SHORT_PERIOD
          [.call_remap .SHORT_PERIOD .DOWN physicalEventType, .prepare .SHORT_PERIOD]
          { stopped state with periodtype_ := .SHORT_PERIOD }
        rw [same]
        exact ⟨idle, pressing, timed⟩
      · exact ⟨idle, pressing, timed⟩

/-- What an up does to what is down. -/
theorem passes_up {held : Bool} {state : State} {inner : Inner}
    (physicalEventType : PhysicalEventType) (down : isDown held state inner = true)
    (inside : inner ≠ .beforeAfterKeys_) :
    Passes (isDown held state) (isDown held { state with periodtype_ := .NONE })
      [.call_remap inner .UP physicalEventType] := by
  intro other
  cases inner with
  | beforeAfterKeys_ => exact absurd rfl inside
  | PRESSING_TARGET_KEY_ONLY => exact absurd down (by simp [isDown])
  | SHORT_PERIOD | LONG_PERIOD | LONG_LONG_PERIOD =>
      have period := of_decide_eq_true down
      cases other <;> simp [callsTo, Effect.callTo, isDown, period, alternate]

theorem pressTargetKeyOnly_follows (held : Bool) (readings : Readings) (state : State) :
    Follows settings item (isDown held state) (isDown held state) state
      (pressTargetKeyOnly settings item readings state) := by
  unfold pressTargetKeyOnly
  split
  · apply callWithSaved_follows
    · simp [Silent, Effect.apply]
    · intro inner
      cases inner <;> simp [callsTo, Effect.callTo, isDown, alternate]
  · exact follows_pure rfl

theorem pressTargetKeyOnly_same (readings : Readings) (state : State) :
    Same state (pressTargetKeyOnly settings item readings state).value := by
  unfold pressTargetKeyOnly
  split
  · exact callWithSaved_same _ _ _
  · rfl

theorem endPeriod_same (readings : Readings) (state : State) :
    Same { state with periodtype_ := .NONE } (endPeriod settings item readings state).value := by
  unfold endPeriod
  split
  · exact callUp_same _ _
  · exact (callUp_same _ _).trans (pressTargetKeyOnly_same readings _)
  · exact callUp_same _ _
  · next period =>
    show Same _ state
    rw [← period]
    rfl

theorem endPeriod_follows (held : Bool) (readings : Readings) (state : State) :
    Follows settings item (isDown held state) (isDown held { state with periodtype_ := .NONE })
      state (endPeriod settings item readings state) := by
  unfold endPeriod
  split
  · next period =>
    refine (callUp_follows _ _ (passes_up _ ?_ (by simp))).of_same rfl
    simp [isDown, period]
  · next period =>
    have first : Follows settings item (isDown held state)
        (isDown held { state with periodtype_ := .NONE }) state
        (callUp settings item .LONG_PERIOD { state with periodtype_ := .NONE }) := by
      refine (callUp_follows _ _ (passes_up _ ?_ (by simp))).of_same rfl
      simp [isDown, period]
    refine first.bind ?_
    have same := @callUp_same settings item .LONG_PERIOD { state with periodtype_ := .NONE }
    rw [← same.isDown held]
    exact pressTargetKeyOnly_follows held readings _
  · next period =>
    refine (callUp_follows _ _ (passes_up _ ?_ (by simp))).of_same rfl
    simp [isDown, period]
  · next period =>
    have same : isDown held { state with periodtype_ := .NONE } = isDown held state :=
      isDown_congr held period.symm
    rw [same]
    exact follows_pure rfl

theorem dokeyup_follows (held : Bool) (readings : Readings) (state : State) :
    Follows settings item (isDown held state) (isDown held { state with periodtype_ := .NONE })
      state (dokeyup settings item readings state) :=
  (endPeriod_follows held readings state).bind
    (follows_perform (by simp [Silent, Effect.apply]) (fun _ => rfl) rfl)

theorem dokeyup_same (readings : Readings) (state : State) :
    Same { state with periodtype_ := .NONE } (dokeyup settings item readings state).value :=
  endPeriod_same readings state

theorem silent_call (inner : Inner) (eventType : EventType)
    (physicalEventType : PhysicalEventType) :
    Silent [.call_remap inner eventType physicalEventType] := by
  simp [Silent, Effect.apply]

variable (settings item) in
/-- What is down after the computation is what its value tells. -/
def Tracks (held : Bool) (state : State) (act : Act) : Prop :=
  Follows settings item (isDown held state) (isDown held act.value) state act

theorem Tracks.bind {held : Bool} {state : State} {act : Act} {rest : State → Act}
    (left : Tracks settings item held state act)
    (right : Tracks settings item held act.value (rest act.value)) :
    Tracks settings item held state (act >>= rest) :=
  Follows.bind left right

theorem Tracks.of_same {held : Bool} {before state : State} {act : Act}
    (tracks : Tracks settings item held state act)
    (same : state.isFromModifierDecreased_ = before.isFromModifierDecreased_)
    (period : state.periodtype_ = before.periodtype_) : Tracks settings item held before act := by
  unfold Tracks at tracks ⊢
  rw [isDown_congr held period] at tracks
  exact tracks.of_same same

theorem tracks_perform {held : Bool} {before state : State} {effects : List Effect}
    (silent : Silent effects) (none : ∀ inner, callsTo inner effects = [])
    (same : state.isFromModifierDecreased_ = before.isFromModifierDecreased_)
    (period : state.periodtype_ = before.periodtype_) :
    Tracks settings item held before (perform effects state) := by
  refine follows_perform silent (fun inner => ?_) same
  rw [none inner,
    isDown_congr held (show (perform effects state).value.periodtype_ = _ from period)]
  rfl

theorem awaitLongLong_tracks (held : Bool) (readings : Readings) (state : State) :
    Tracks settings item held state (awaitLongLong item readings state) := by
  unfold awaitLongLong
  split
  · exact tracks_perform (by simp [Silent, Effect.apply]) (fun _ => rfl) rfl rfl
  · exact follows_pure rfl

/-- Neither what is active nor what is pressed changes. -/
def Keeps (before after : State) : Prop :=
  after.active_ = before.active_ ∧ after.pressing = before.pressing

theorem Keeps.trans {before between after : State} (left : Keeps before between)
    (right : Keeps between after) : Keeps before after :=
  ⟨right.1.trans left.1, right.2.trans left.2⟩

theorem Same.keeps {before after : State} (same : Same before after) : Keeps before after := by
  constructor <;> rw [same]

theorem awaitLongLong_keeps (readings : Readings) (state : State) :
    Keeps state (awaitLongLong item readings state).value := by
  unfold awaitLongLong
  split
  · exact ⟨rfl, rfl⟩
  · exact ⟨rfl, rfl⟩

theorem startPeriod_same (inner : Inner) (period : PeriodType) (state : State) :
    Same { state with periodtype_ := period }
      (startPeriod settings item inner period state).value :=
  callWithSaved_same _ _ _

theorem startPeriod_follows {held : Bool} {state : State} {inner : Inner} {period : PeriodType}
    (own : isDown held { state with periodtype_ := period } inner = true)
    (inside : inner ≠ .beforeAfterKeys_) :
    Follows settings item (isDown held { state with periodtype_ := .NONE })
      (isDown held (startPeriod settings item inner period state).value) state
      (startPeriod settings item inner period state) := by
  rw [(startPeriod_same inner period state).isDown]
  refine (callWithSaved_follows _ (silent_call _ _ _) (fun other => ?_) _).of_same rfl
  cases inner with
  | beforeAfterKeys_ => exact absurd rfl inside
  | PRESSING_TARGET_KEY_ONLY => exact absurd own (by simp [isDown])
  | SHORT_PERIOD | LONG_PERIOD | LONG_LONG_PERIOD =>
      have same := of_decide_eq_true own
      dsimp only at same
      subst same
      cases other <;> simp [callsTo, Effect.callTo, isDown, alternate]

theorem fire_timer_callback_keeps (readings : Readings) (state : State) :
    Keeps state (fire_timer_callback settings item readings state).value := by
  unfold fire_timer_callback
  split
  · have started := (@startPeriod_same settings item .LONG_PERIOD .LONG_PERIOD state).keeps
    have waiting := @awaitLongLong_keeps item readings
      (startPeriod settings item .LONG_PERIOD .LONG_PERIOD state).value
    exact started.trans waiting
  · have released := (@callUp_same settings item .LONG_PERIOD state).keeps
    dsimp only
    split
    · exact released
    · have started := (@startPeriod_same settings item .LONG_LONG_PERIOD .LONG_LONG_PERIOD
        (callUp settings item .LONG_PERIOD state).value).keeps
      exact released.trans started
  · exact ⟨rfl, rfl⟩
  · exact ⟨rfl, rfl⟩

theorem fire_timer_callback_tracks (held : Bool) (readings : Readings) (state : State) :
    Tracks settings item held state (fire_timer_callback settings item readings state) := by
  unfold fire_timer_callback
  split
  · next period =>
    have started : Tracks settings item held state
        (startPeriod settings item .LONG_PERIOD .LONG_PERIOD state) := by
      have none : isDown held state = isDown held { state with periodtype_ := .NONE } :=
        isDown_congr held period
      unfold Tracks
      rw [none]
      exact startPeriod_follows (by simp [isDown]) (by simp)
    exact started.bind ((tracks_perform (by simp [Silent, Effect.apply]) (fun _ => rfl) rfl
      rfl).bind (awaitLongLong_tracks held readings _))
  · next period =>
    have released : Follows settings item (isDown held state)
        (isDown held { state with periodtype_ := .NONE }) state
        (callUp settings item .LONG_PERIOD state) :=
      callUp_follows _ _ (passes_up _ (by simp [isDown, period]) (by simp))
    have none : isDown held { state with periodtype_ := .NONE } = isDown held
        { (callUp settings item .LONG_PERIOD state).value with periodtype_ := .NONE } :=
      isDown_congr held rfl
    rw [none] at released
    dsimp only
    split
    · exact released.bind (follows_pure rfl)
    · exact released.bind (startPeriod_follows (by simp [isDown]) (by simp))
  · exact follows_pure rfl
  · exact follows_pure rfl

/-- The flag and the button of the key itself. -/
theorem follows_own (down : Inner → Bool) (method : FlagStatus.Method) {button : Effect}
    (silent : Silent [button]) (none : ∀ inner, button.callTo inner = none)
    {before state : State}
    (same : state.isFromModifierDecreased_ = before.isFromModifierDecreased_) :
    Follows settings item down down before (perform [button,
      .flagStatus method (.flag (item.fromEvent_.getModifierFlag settings.pairs))] state) := by
  refine ⟨⟨_, silent.contributes.append (contributes_call method _), fun flag member => ?_⟩,
    fun inner => ?_⟩
  · show 0 + _ = owed state - owed before
    rw [net_own member, owed, owed, same]
    omega
  · show (callsTo inner ([button] ++ _)).foldlM alternate _ = _
    rw [callsTo_append, callsTo, List.filterMap_cons_none (none inner)]
    rfl

theorem awaitLong_tracks (held : Bool) (readings : Readings) (state : State) :
    Tracks settings item held state (awaitLong settings item readings state) := by
  unfold awaitLong
  dsimp only
  split
  · exact fire_timer_callback_tracks held readings state
  · exact follows_pure rfl

theorem awaitLong_keeps (readings : Readings) (state : State) :
    Keeps state (awaitLong settings item readings state).value := by
  unfold awaitLong
  dsimp only
  split
  · exact fire_timer_callback_keeps readings state
  · exact ⟨rfl, rfl⟩

theorem callBeforeAfter_follows {down next : Inner → Bool} {eventType : EventType}
    {behind : List Effect} (physicalEventType : PhysicalEventType) (silent : Silent behind)
    (none : ∀ inner, callsTo inner behind = [])
    (passes : Passes down next [.call_remap .beforeAfterKeys_ eventType physicalEventType])
    (state : State) :
    Follows settings item down next state
      (callBeforeAfter settings item eventType physicalEventType behind state) := by
  have quiet : Silent (.call_remap .beforeAfterKeys_ eventType physicalEventType :: behind) := by
    intro effect member
    cases List.mem_cons.mp member with
    | inl first =>
        rw [first]
        exact fun _ => rfl
    | inr later => exact silent effect later
  have after : Passes next next behind := fun inner => by
    rw [none inner]
    rfl
  exact (manipulate_follows down .beforeAfterKeys_ .DECREASE true state).bind
    ((follows_perform quiet (passes.append after) rfl).bind
      (manipulate_follows next .beforeAfterKeys_ .INCREASE true _))

theorem callBeforeAfter_same (eventType : EventType) (physicalEventType : PhysicalEventType)
    (behind : List Effect) (state : State) :
    Same state (callBeforeAfter settings item eventType physicalEventType behind state).value :=
  (manipulate_same .beforeAfterKeys_ .DECREASE true state).trans
    (manipulate_same .beforeAfterKeys_ .INCREASE true _)

theorem callBeforeAfter_given (eventType : EventType) (physicalEventType : PhysicalEventType)
    (behind : List Effect) (state : State) :
    (callBeforeAfter settings item eventType physicalEventType behind
      state).value.isFromModifierDecreased_ = false :=
  manipulate_increase .beforeAfterKeys_ _

/-- A down or an up of beforeAfterKeys_ alone. -/
theorem passes_beforeAfter (held : Bool) (state : State) (physicalEventType : PhysicalEventType) :
    Passes (isDown held state) (isDown (!held) state)
      [.call_remap .beforeAfterKeys_ (if held then .UP else .DOWN) physicalEventType] := by
  intro inner
  cases held <;> cases inner <;> simp [callsTo, Effect.callTo, isDown, alternate]

theorem remapDown_follows (readings : Readings) (physicalEventType : PhysicalEventType)
    (state : State) :
    Follows settings item (isDown false state.press)
      (isDown true (remapDown settings item readings physicalEventType state).value) state
      (remapDown settings item readings physicalEventType state) := by
  have own : Follows settings item (isDown false state.press) (isDown false state.press) state
      (perform [.decreaseButton item.fromEvent_.getPointingButton,
        .flagStatus .decrease (.flag (item.fromEvent_.getModifierFlag settings.pairs))]
        state.press) :=
    follows_own _ .decrease (by simp [Silent, Effect.apply]) (fun _ => rfl) rfl
  have before : Follows settings item (isDown false state.press) (isDown true state.press)
      state.press (callBeforeAfter settings item .DOWN physicalEventType
        [.saveFlagStatus, .setIgnorePhysicalUpEvent true] state.press) :=
    callBeforeAfter_follows _ (by simp [Silent, Effect.apply]) (fun _ => rfl)
      (passes_beforeAfter false _ _) _
  have same := @callBeforeAfter_same settings item .DOWN physicalEventType
    [.saveFlagStatus, .setIgnorePhysicalUpEvent true] state.press
  rw [← same.isDown true] at before
  have waiting := @awaitLong_tracks settings item true readings
    (callBeforeAfter settings item .DOWN physicalEventType
      [.saveFlagStatus, .setIgnorePhysicalUpEvent true] state.press).value
  exact own.bind (before.bind (Follows.bind waiting (follows_pure rfl)))

theorem remapDown_keeps (readings : Readings) (physicalEventType : PhysicalEventType)
    (state : State) :
    Keeps state.press (remapDown settings item readings physicalEventType state).value := by
  have same := (@callBeforeAfter_same settings item .DOWN physicalEventType
    [.saveFlagStatus, .setIgnorePhysicalUpEvent true] state.press).keeps
  exact same.trans (awaitLong_keeps readings _)

theorem remapUp_follows (readings : Readings) (physicalEventType : PhysicalEventType)
    (state : State) :
    Follows settings item (isDown true state)
      (isDown false (remapUp settings item readings physicalEventType state).value) state
      (remapUp settings item readings physicalEventType state) := by
  have own : Follows settings item (isDown true state) (isDown true state) state
      (perform [.increaseButton item.fromEvent_.getPointingButton,
        .flagStatus .increase (.flag (item.fromEvent_.getModifierFlag settings.pairs))] state) :=
    follows_own _ .increase (by simp [Silent, Effect.apply]) (fun _ => rfl) rfl
  have stopping := @dokeydown_follows settings item true physicalEventType state
  have ending := @dokeyup_follows settings item true readings
    (dokeydown settings item physicalEventType state).value
  have ended := @dokeyup_same settings item readings
    (dokeydown settings item physicalEventType state).value
  rw [← ended.isDown true] at ending
  have after (state : State) : Follows settings item (isDown true state) (isDown false state) state
      (callBeforeAfter settings item .UP physicalEventType [] state) :=
    callBeforeAfter_follows _ (by simp [Silent]) (fun _ => rfl) (passes_beforeAfter true _ _) _
  have last (state : State) := (@callBeforeAfter_same settings item .UP physicalEventType []
    state).isDown false
  refine own.bind (stopping.bind (ending.bind ?_))
  have finishing := after (dokeyup settings item readings
    (dokeydown settings item physicalEventType state).value).value
  rw [← last] at finishing
  exact finishing.bind (follows_pure rfl)

/-- Nothing of a press is left behind its up. -/
structure Idle (state : State) : Prop where
  active : state.active_ = false
  period : state.periodtype_ = .NONE
  decreased : state.isFromModifierDecreased_ = false

theorem remapUp_ends (readings : Readings) (physicalEventType : PhysicalEventType)
    (state : State) (timed : Timed state) :
    Idle (remapUp settings item readings physicalEventType state).value ∧
      (remapUp settings item readings physicalEventType state).value.pressing = state.pressing ∧
      Timed (remapUp settings item readings physicalEventType state).value := by
  obtain ⟨idle, pressing, running⟩ := @dokeydown_stops settings item physicalEventType state
  have ended := @dokeyup_same settings item readings
    (dokeydown settings item physicalEventType state).value
  have same := ended.trans (@callBeforeAfter_same settings item .UP physicalEventType [] _)
  have given := @callBeforeAfter_given settings item .UP physicalEventType []
    (dokeyup settings item readings (dokeydown settings item physicalEventType state).value).value
  have value : (remapUp settings item readings physicalEventType state).value =
      { (callBeforeAfter settings item .UP physicalEventType [] (dokeyup settings item readings
        (dokeydown settings item physicalEventType state).value).value).value with
          registered := false } := rfl
  rw [value]
  refine ⟨⟨?_, ?_, given⟩, ?_, ?_⟩
  · rw [same]
    exact idle
  · rw [same]
  · rw [same]
    exact pressing
  · rw [same]
    exact running timed

/-- At most one press is held, and nothing is left where none is. -/
structure Consistent (state : State) : Prop where
  pressing : state.pressing ≤ 1
  idle : state.pressing = 0 → Idle state
  timed : Timed state

variable (settings item) in
structure Ledger (tracked : Tracked) : Prop where
  consistent : Consistent tracked.state
  own : ∃ change, Contributes tracked.sinceReset change ∧
    ∀ flag ∈ item.pureFromModifierFlags_ settings, change flag = owed tracked.state
  calls : ∀ inner, Alternates (callsTo inner tracked.effects)
    (isDown (0 < tracked.state.pressing) tracked.state inner)

theorem Ledger.add {tracked : Tracked} {act : Act} (ledger : Ledger settings item tracked)
    (follows : Follows settings item (isDown (0 < tracked.state.pressing) tracked.state)
      (isDown (0 < act.value.pressing) act.value) tracked.state act)
    (consistent : Consistent act.value) : Ledger settings item (tracked.add act) := by
  obtain ⟨change, contributes, same⟩ := ledger.own
  obtain ⟨more, adds, same'⟩ := follows.own
  refine ⟨consistent, ⟨change + more, contributes.append adds, fun flag member => ?_⟩, ?_⟩
  · show change flag + more flag = owed act.value
    rw [same flag member, same' flag member]
    omega
  · intro inner
    show (callsTo inner (tracked.effects ++ act.events)).foldlM alternate false = _
    rw [callsTo_append, List.foldlM_append, ledger.calls inner]
    exact follows.calls inner

/-- A computation that keeps what is pressed. -/
theorem Ledger.addTracks {tracked : Tracked} {act : Act} (ledger : Ledger settings item tracked)
    (tracks : Tracks settings item (0 < tracked.state.pressing) tracked.state act)
    (pressing : act.value.pressing = tracked.state.pressing) (consistent : Consistent act.value) :
    Ledger settings item (tracked.add act) := by
  apply ledger.add _ consistent
  rw [pressing]
  exact tracks

theorem Ledger.addPure {tracked : Tracked} (ledger : Ledger settings item tracked) :
    Ledger settings item (tracked.add (pure tracked.state)) :=
  ledger.addTracks (follows_pure rfl) rfl ledger.consistent

theorem ledger_dokeydown {tracked : Tracked} (ledger : Ledger settings item tracked)
    (physicalEventType : PhysicalEventType) :
    Ledger settings item
      (tracked.add (dokeydown settings item physicalEventType tracked.state)) := by
  obtain ⟨idle, pressing, timed⟩ :=
    @dokeydown_stops settings item physicalEventType tracked.state
  by_cases none : tracked.state.pressing = 0
  · rw [dokeydown_idle (ledger.consistent.idle none).active]
    exact ledger.addPure
  · refine ledger.addTracks (dokeydown_follows _ _ _) pressing ⟨?_, ?_, ?_⟩
    · rw [pressing]
      exact ledger.consistent.pressing
    · intro zero
      exact absurd (pressing.symm.trans zero) none
    · exact timed ledger.consistent.timed

theorem ledger_prepare {tracked : Tracked} (ledger : Ledger settings item tracked)
    (params : Params) (physicalEventType : PhysicalEventType) :
    Ledger settings item
      (tracked.add (prepare settings item params physicalEventType tracked.state)) := by
  unfold prepare
  split
  · split
    · exact ledger_dokeydown ledger physicalEventType
    · exact ledger.addPure
  · split
    · exact ledger_dokeydown ledger physicalEventType
    · exact ledger.addPure

theorem ledger_timer {tracked : Tracked} (ledger : Ledger settings item tracked)
    (readings : Readings) :
    Ledger settings item (tracked.add (timerCallback settings item readings tracked.state)) := by
  obtain ⟨pressing, idle, timed⟩ := ledger.consistent
  unfold timerCallback
  split
  · next running =>
    dsimp only
    split
    · next target =>
      have active := timed running target
      have held : tracked.state.pressing = 1 := by
        by_contra other
        have stopped := (idle (by omega)).active
        rw [active] at stopped
        cases stopped
      have keeps := @fire_timer_callback_keeps settings item readings
        { tracked.state with fire_timer_ := { tracked.state.fire_timer_ with active := false } }
      obtain ⟨stays, presses⟩ := keeps
      refine ledger.addTracks ?_ presses ⟨?_, ?_, ?_⟩
      · exact (fire_timer_callback_tracks _ readings _).of_same rfl rfl
      · rw [presses]
        exact pressing
      · intro zero
        have same := presses.symm.trans zero
        dsimp only at same
        omega
      · intro _ _
        rw [stays]
        exact active
    · refine ledger.addTracks (follows_pure rfl) rfl
        ⟨pressing, fun none => ?_, fun stopped => ?_⟩
      · obtain ⟨active, period, decreased⟩ := idle none
        exact ⟨active, period, decreased⟩
      · cases stopped
  · exact ledger.addPure

theorem remap_bind (act : Act) :
    Prod.fst <$> (act >>= fun state => pure (state, true)) = act := by
  obtain ⟨value, events⟩ := act
  simp [Functor.map, bind, pure]

/-- What remap does with an event: nothing, a press or a release. -/
theorem remap_cases (readings : Readings) (params : Params) (isremapped : Bool)
    (physicalEventType : PhysicalEventType) (state : State) :
    let act := Prod.fst <$> remap settings item readings params isremapped physicalEventType state
    (acceptsPress item readings params isremapped = false ∧ act = pure state) ∨
      (acceptsPress item readings params isremapped = true ∧
        act = remapDown settings item readings physicalEventType
          { state with
            pressing := state.pressing + 1
            lastPhysicalEventType_ := physicalEventType }) ∨
      (acceptsPress item readings params isremapped = false ∧ state.pressing ≠ 0 ∧
        act = remapUp settings item readings physicalEventType
          { state with
            pressing := state.pressing - 1
            lastPhysicalEventType_ := physicalEventType }) := by
  unfold remap
  cases down : params.iskeydown with
  | none => exact .inl ⟨by simp [acceptsPress, down], rfl⟩
  | some iskeydown =>
      have target := FromEvent.targetIsDown_of_iskeydown down item.fromEvent_
      dsimp only
      split
      · next remapped => exact .inl ⟨by simp [acceptsPress, remapped], rfl⟩
      · next notRemapped =>
        cases aimed : item.fromEvent_.targetIsDown params with
        | none =>
            have changed : item.changePressingState readings.flagStatus params state = none := by
              rw [changePressingState, aimed]
            rw [changed]
            exact .inl ⟨by simp [acceptsPress, aimed], rfl⟩
        | some isDown =>
            have same : iskeydown = isDown := by grind
            subst same
            cases iskeydown with
            | true =>
                cases on : readings.flagStatus.isOn item.fromModifierFlags_ with
                | false =>
                    have changed : item.changePressingState readings.flagStatus params state =
                        none := by simp [changePressingState, aimed, on]
                    rw [changed]
                    exact .inl ⟨by simp [acceptsPress, on], rfl⟩
                | true =>
                    have changed : item.changePressingState readings.flagStatus params state =
                        some { state with pressing := state.pressing + 1 } := by
                      simp [changePressingState, aimed, on]
                    rw [changed]
                    refine .inr (.inl ⟨?_, remap_bind _⟩)
                    simp [acceptsPress, down, notRemapped, aimed, on]
            | false =>
                by_cases none : state.pressing = 0
                · have changed : item.changePressingState readings.flagStatus params state =
                      Option.none := by simp [changePressingState, aimed, none]
                  rw [changed]
                  exact .inl ⟨by simp [acceptsPress, aimed], rfl⟩
                · have changed : item.changePressingState readings.flagStatus params state =
                      some { state with pressing := state.pressing - 1 } := by
                    simp [changePressingState, aimed, none]
                  rw [changed]
                  exact .inr (.inr ⟨by simp [acceptsPress, aimed], none, remap_bind _⟩)

theorem ledger_remap {tracked : Tracked} (ledger : Ledger settings item tracked)
    (readings : Readings) (params : Params) (isremapped : Bool)
    (physicalEventType : PhysicalEventType)
    (single : acceptsPress item readings params isremapped = true →
      tracked.state.pressing = 0) :
    Ledger settings item (tracked.add (Prod.fst <$>
      remap settings item readings params isremapped physicalEventType tracked.state)) := by
  obtain ⟨pressing, idle, timed⟩ := ledger.consistent
  rcases @remap_cases settings item readings params isremapped physicalEventType tracked.state with
    ⟨-, same⟩ | ⟨accepted, same⟩ | ⟨-, held, same⟩
  · rw [same]
    exact ledger.addPure
  · rw [same]
    have free := single accepted
    have follows := @remapDown_follows settings item readings physicalEventType
      { tracked.state with
        pressing := tracked.state.pressing + 1
        lastPhysicalEventType_ := physicalEventType }
    obtain ⟨active, presses⟩ := @remapDown_keeps settings item readings physicalEventType
      { tracked.state with
        pressing := tracked.state.pressing + 1
        lastPhysicalEventType_ := physicalEventType }
    have one := presses.trans (congrArg (· + 1) free)
    have before : decide (0 < tracked.state.pressing) = false := by
      rw [free]
      rfl
    have after := congrArg (fun count => decide (0 < count)) one
    have period : isDown false tracked.state.press = isDown false tracked.state :=
      isDown_congr false (idle free).period.symm
    apply ledger.add
    · rw [before, after, ← period]
      exact follows.of_same rfl
    · refine ⟨Nat.le_of_eq one, fun zero => ?_, fun _ _ => active⟩
      exact absurd (one.symm.trans zero) Nat.one_ne_zero
  · rw [same]
    have follows := @remapUp_follows settings item readings physicalEventType
      { tracked.state with
        pressing := tracked.state.pressing - 1
        lastPhysicalEventType_ := physicalEventType }
    obtain ⟨ended, presses, running⟩ := @remapUp_ends settings item readings physicalEventType
      { tracked.state with
        pressing := tracked.state.pressing - 1
        lastPhysicalEventType_ := physicalEventType } timed
    have zero : tracked.state.pressing - 1 = 0 := by omega
    have none := presses.trans zero
    have before : decide (0 < tracked.state.pressing) = true := by
      rw [decide_eq_true_iff]
      omega
    have after := congrArg (fun count => decide (0 < count)) none
    apply ledger.add
    · rw [before, after]
      exact follows.of_same rfl
    · refine ⟨?_, fun _ => ended, running⟩
      rw [none]
      exact Nat.zero_le 1

theorem step_ledger (tracked : Tracked) (s : Step) (single : Single item tracked s)
    (ledger : Ledger settings item tracked) :
    Ledger settings item (step settings item tracked s) := by
  cases s with
  | prepare params physicalEventType =>
      unfold step
      dsimp only
      split
      · exact ledger_prepare ledger params physicalEventType
      · exact ledger
  | remap readings params isremapped physicalEventType =>
      exact ledger_remap ledger readings params isremapped physicalEventType single
  | timer readings => exact ledger_timer ledger readings
  | otherTarget fire_timer_ =>
      obtain ⟨pressing, idle, timed⟩ := ledger.consistent
      refine ⟨⟨pressing, fun none => ?_, fun _ target => ?_⟩, ledger.own, fun inner => ?_⟩
      · obtain ⟨active, period, decreased⟩ := idle none
        exact ⟨active, period, decreased⟩
      · cases target
      · have same : isDown (0 < tracked.state.pressing)
            (step settings item tracked (.otherTarget fire_timer_)).state =
            isDown (0 < tracked.state.pressing) tracked.state := isDown_congr _ rfl
        show Alternates _ (isDown (0 < tracked.state.pressing) _ inner)
        rw [same]
        exact ledger.calls inner
  | reset =>
      obtain ⟨pressing, idle, timed⟩ := ledger.consistent
      have same : { tracked.state with pressing := 0 } = tracked.state := by
        have free : tracked.state.pressing = 0 := single
        rw [← free]
      have stays : (step settings item tracked .reset).state = tracked.state := same
      refine ⟨?_, ⟨0, fun status => ?_, fun flag member => ?_⟩, ?_⟩
      · rw [stays]
        exact ledger.consistent
      · exact (Counters.offset_zero _).symm
      · rw [stays, owed, (idle single).decreased]
        rfl
      · rw [stays]
        exact ledger.calls

theorem Ledger.balanced {tracked : Tracked} (ledger : Ledger settings item tracked) :
    Balanced settings item tracked := by
  obtain ⟨change, contributes, same⟩ := ledger.own
  refine ⟨⟨change, contributes, fun flag member _ => same flag member⟩, fun none => ?_,
    fun inner => ⟨_, ledger.calls inner, fun none => ?_⟩⟩
  · exact (ledger.consistent.idle none).decreased
  · rw [none]
    have period := (ledger.consistent.idle none).period
    cases inner <;> simp [isDown, period]

/-- What goes from up to down cannot begin where it is down. -/
theorem alternate_twice {calls : List EventType} (up : calls.foldlM alternate false = some true) :
    calls.foldlM alternate true = none := by
  cases calls with
  | nil => cases up
  | cons first calls =>
      by_cases down : first = .DOWN
      · rw [down]
        rfl
      · have refused : alternate false first = Option.none := if_neg down
        rw [List.foldlM_cons, refused] at up
        cases up

theorem Alternates.unique {calls : List EventType} {one other : Bool} (left : Alternates calls one)
    (right : Alternates calls other) : one = other :=
  Option.some.inj (left.symm.trans right)

/-- What keeps the balance takes one press at a time. -/
theorem Ledger.single {tracked : Tracked} (ledger : Ledger settings item tracked) (s : Step)
    (balanced : Balanced settings item (step settings item tracked s)) :
    Single item tracked s := by
  obtain ⟨last, alternates, released⟩ := balanced.calls .beforeAfterKeys_
  have before := ledger.calls .beforeAfterKeys_
  cases s with
  | prepare | timer | otherTarget => trivial
  | reset =>
      have down := before.unique alternates
      have up := released rfl
      have free : ¬ 0 < tracked.state.pressing := of_decide_eq_false (down.trans up)
      exact Nat.eq_zero_of_not_pos free
  | remap readings params isremapped physicalEventType =>
      intro accepted
      rcases @remap_cases settings item readings params isremapped physicalEventType
        tracked.state with ⟨refused, -⟩ | ⟨-, same⟩ | ⟨refused, -⟩
      · rw [accepted] at refused
        cases refused
      · by_contra held
        have down : decide (0 < tracked.state.pressing) = true :=
          decide_eq_true (Nat.pos_of_ne_zero held)
        have follows := @remapDown_follows settings item readings physicalEventType
          { tracked.state with
            pressing := tracked.state.pressing + 1
            lastPhysicalEventType_ := physicalEventType }
        have stuck := alternate_twice (follows.calls .beforeAfterKeys_)
        unfold Alternates at alternates before
        rw [show isDown (0 < tracked.state.pressing) tracked.state .beforeAfterKeys_ = true from
          down] at before
        have whole : (step settings item tracked
            (.remap readings params isremapped physicalEventType)).effects =
            tracked.effects ++ (Prod.fst <$> remap settings item readings params isremapped
              physicalEventType tracked.state).events := rfl
        rw [whole, same, callsTo_append, List.foldlM_append, before] at alternates
        exact absurd (stuck.symm.trans alternates) (by simp)
      · rw [accepted] at refused
        cases refused

theorem ledger_start : Ledger settings item {} := by
  refine ⟨⟨Nat.zero_le 1, fun _ => ⟨rfl, rfl, rfl⟩, fun running =>
    absurd running (by decide)⟩,
    ⟨0, fun status => (Counters.offset_zero _).symm, fun _ _ => rfl⟩, fun inner => ?_⟩
  cases inner <;> rfl

end

/-- The item is balanced throughout a run if and only if one press ends before the next begins and
before everything is reset. -/
theorem always_balanced_iff (settings : Settings) (item : DependingPressingPeriodKeyToKey)
    (steps : List Step) :
    Transition.Always (step settings item) (Balanced settings item) {} steps ↔
      Transition.Along (step settings item) (Single item) {} steps :=
  Transition.always_iff_along (Ledger settings item)
    (fun tracked s single ledger => step_ledger tracked s single ledger)
    (fun _ ledger => ledger.balanced) (fun _ s ledger => ledger.single s) steps ledger_start

def normalSettings : Settings := .normal

/-- KeyOverlaidModifier from the key code 49. -/
def overlaid : DependingPressingPeriodKeyToKey where
  fromEvent_ := .KEY ⟨49⟩
  keytokey_ := fun _ => { address := 0, autogenId_ := 0 }
  periodMS_ := { mode_ := .KEY_OVERLAID_MODIFIER }

def overlaidDown : Step :=
  .remap
    { config := ⟨200, 0, 300, 1000⟩, flagStatus := .initialized normalSettings.pairs
      isAnyEventHappen := false, milliseconds := 0, keyboardRepeatID := 0 }
    (.keyboardEvent normalSettings.pairs .DOWN ⟨0⟩ ⟨49⟩ .MACBOOK false) false .DOWN

/-- The key goes down on one keyboard and then on another. -/
theorem two_keyboards_not_balanced :
    ¬∀ settings item steps,
      Transition.Always (step settings item) (Balanced settings item) {} steps := by
  intro claim
  obtain ⟨-, -, balanced⟩ := claim normalSettings overlaid [overlaidDown, overlaidDown]
  obtain ⟨last, alternates, -⟩ := balanced.calls .beforeAfterKeys_
  have calls : callsTo .beforeAfterKeys_ (step normalSettings overlaid
      (step normalSettings overlaid {} overlaidDown) overlaidDown).effects = [.DOWN, .DOWN] := by
    decide +kernel
  unfold Alternates at alternates
  rw [calls] at alternates
  cases alternates

end Karabiner.DependingPressingPeriodKeyToKey
