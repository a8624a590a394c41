import Karabiner.FireScrollWheel
import Karabiner.VirtualKey

set_option autoImplicit false

/- The keys that move the pointer or scroll: the directions that VK_MOUSEKEY keeps, and its
timer. -/
namespace Karabiner.VirtualKey.VK_MOUSEKEY

open EventOutputQueue

/-- What fire_timer_callback reads of the configuration. -/
structure TimerConfig where
  mousekey_high_speed_of_pointer : Int
  mousekey_high_speed_of_scroll : Int
  parameter_maximum_speed_of_pointer : Int
  parameter_maximum_speed_of_scroll : Int
  parameter_acceleration_of_pointer : Int
  parameter_acceleration_of_scroll : Int
  mousekey_repeat_wait_of_pointer : UInt32
  mousekey_repeat_wait_of_scroll : UInt32
  pointing_relative2scroll_rate : Int
  deriving DecidableEq, Repr

section
variable (settings : Settings) (config : TimerConfig)

/-- The event that the timer sends. -/
def fireMove (output : Output) : Output :=
  let mouseKey := output.mouseKey
  if !mouseKey.scrollmode_ then
    let s := if mouseKey.highspeed_ then config.mousekey_high_speed_of_pointer else mouseKey.scale_
    fireRelativePointer settings mouseKey.currentAutogenId_ mouseKey.lastPhysicalEventType_
      output.makeButtons (calculate_dx mouseKey * s) (calculate_dy mouseKey * s) output
  else
    let s := if mouseKey.highspeed_ then config.mousekey_high_speed_of_scroll else mouseKey.scale_
    let delta1 := calculate_dy mouseKey * s * DELTA_SCALE
    let delta2 := calculate_dx mouseKey * s * DELTA_SCALE
    let (delta1, delta2) :=
      if settings.mouse_key_scroll_not_natural_direction then (-delta1, -delta2)
      else (delta1, delta2)
    (FireScrollWheel.fireDeltas settings mouseKey.currentAutogenId_
      mouseKey.lastPhysicalEventType_ config.pointing_relative2scroll_rate delta1 delta2
      output).value

/-- The rest of fire_timer_callback. -/
def accelerate (mouseKey : MouseKey) : MouseKey :=
  let max :=
    if mouseKey.scrollmode_ then config.parameter_maximum_speed_of_scroll
    else config.parameter_maximum_speed_of_pointer
  let acceleration :=
    if mouseKey.scrollmode_ then config.parameter_acceleration_of_scroll
    else config.parameter_acceleration_of_pointer
  let acceleration := if acceleration < 0 then 0 else acceleration
  let wait :=
    if mouseKey.scrollmode_ then config.mousekey_repeat_wait_of_scroll
    else config.mousekey_repeat_wait_of_pointer
  { mouseKey with
    scale_ := if mouseKey.scale_ < max then mouseKey.scale_ + acceleration else mouseKey.scale_
    fire_timer_ := mouseKey.fire_timer_.setTimeoutMS wait true }

def fire_timer_callback (output : Output) : Output :=
  let output := fireMove settings config output
  { output with mouseKey := accelerate config output.mouseKey }

/-- TimerWrapper::callback_ clears the timer first. -/
def timerCallback (output : Output) : Output :=
  if output.mouseKey.fire_timer_.active then
    fire_timer_callback settings config
      { output with mouseKey :=
          { output.mouseKey with
            fire_timer_ := { output.mouseKey.fire_timer_ with active := false } } }
  else output

end

inductive Direction where
  | up
  | down
  | left
  | right
  deriving DecidableEq, Repr

def Move.has (move : Move) : Direction → Bool
  | .up => move.up
  | .down => move.down
  | .left => move.left
  | .right => move.right

/-- The key has the direction as a component. -/
def hasDirection (key : KeyCode) (direction : Direction) : Bool :=
  (moves.lookup key).any (·.has direction)

def moving (mouseKey : MouseKey) : Direction → Bool
  | .up => mouseKey.move_up_
  | .down => mouseKey.move_down_
  | .left => mouseKey.move_left_
  | .right => mouseKey.move_right_

/-- The state with the events that have come so far. -/
structure Tracked where
  output : Output
  events : List FireKeyCall

/-- Behind VK_MOUSEKEY::initialize. -/
def Tracked.start (output : Output) : Tracked := ⟨{ output with mouseKey := {} }, []⟩

inductive Step where
  | key (call : FireKeyCall)
  | fireTimer (config : TimerConfig)

def step (settings : Settings) (tracked : Tracked) : Step → Tracked
  | .key call =>
      ⟨(VK_MOUSEKEY.handle settings call tracked.output).1, tracked.events ++ [call]⟩
  | .fireTimer config => { tracked with output := timerCallback settings config tracked.output }

/-- The last event of the key is a press. -/
def Held (events : List FireKeyCall) (key : KeyCode) : Prop :=
  ((events.filter (·.params.key = key)).getLast?.any (·.params.ex_iskeydown)) = true

instance (events : List FireKeyCall) (key : KeyCode) : Decidable (Held events key) :=
  inferInstanceAs (Decidable (_ = true))

/-- Presses and releases of direction, diagonal and scroll keys that alternate for each key. -/
def Allowed (tracked : Tracked) : Step → Prop
  | .key call =>
      (moves.lookup call.params.key).isSome = true ∧ call.params.isRepeat = false ∧
        (call.params.ex_iskeydown = true ↔ ¬Held tracked.events call.params.key)
  | .fireTimer _ => True

instance (tracked : Tracked) : (step : Step) → Decidable (Allowed tracked step)
  | .key _ => inferInstanceAs (Decidable (_ ∧ _))
  | .fireTimer _ => inferInstanceAs (Decidable True)

/-- The timer is active exactly while the pointer moves. -/
def TimerFollows (mouseKey : MouseKey) : Prop :=
  mouseKey.fire_timer_.active = true ↔ calculate_dx mouseKey ≠ 0 ∨ calculate_dy mouseKey ≠ 0

/-- A held key has the direction, and no key that has it was released since its press. -/
def HeldSince (events : List FireKeyCall) (direction : Direction) : Prop :=
  ∃ before press after, events = before ++ press :: after ∧
    press.params.ex_iskeydown = true ∧ hasDirection press.params.key direction = true ∧
    Held events press.params.key ∧
    ∀ later ∈ after, hasDirection later.params.key direction = true →
      later.params.ex_iskeydown = true

section
variable {settings : Settings} {call : FireKeyCall} {move : Move}

theorem not_button (known : moves.lookup call.params.key = some move) :
    getPointingButton call.params.key = PointingButton.NONE := by
  obtain ⟨before, after, split, -⟩ := List.lookup_eq_some_iff.mp known
  have member : (call.params.key, move) ∈ moves := by simp [split]
  have all : ∀ pair ∈ moves, getPointingButton pair.1 = PointingButton.NONE := by decide +kernel
  exact all _ member

theorem handle_mouseKey (output : Output) (known : moves.lookup call.params.key = some move)
    (single : call.params.isRepeat = false) :
    (VK_MOUSEKEY.handle settings call output).1.mouseKey =
      startMove settings call (move.apply call.params.ex_iskeydown
        { output.mouseKey with lastPhysicalEventType_ := call.physicalEventType }) := by
  simp [VK_MOUSEKEY.handle, firstHandled, handle_button, not_button known, handle_move, known,
    single]

theorem moving_apply (iskeydown : Bool) (mouseKey : MouseKey) (direction : Direction) :
    moving (move.apply iskeydown mouseKey) direction =
      if move.has direction then iskeydown else moving mouseKey direction := by
  cases direction <;> rfl

theorem moving_startMove (mouseKey : MouseKey) (direction : Direction) :
    moving (startMove settings call mouseKey) direction = moving mouseKey direction := by
  unfold startMove
  dsimp only
  split <;> cases direction <;> rfl

theorem startMove_timer (mouseKey : MouseKey) :
    TimerFollows (startMove settings call mouseKey) := by
  unfold startMove TimerFollows
  dsimp only
  split
  · next moves => exact iff_of_true (TimerWrapper.setTimeoutMS_active _ _ _) moves
  · next stands => exact iff_of_false Bool.false_ne_true stands

end

section
variable (settings : Settings)

theorem push_mouseKey (params : Params) (autogenId : AutogenId) (output : Output) :
    (push params autogenId output).mouseKey = output.mouseKey := by
  unfold push
  dsimp only
  split <;> rfl

theorem fireCurrentModifiers_mouseKey (autogenId : AutogenId)
    (physicalEventType : PhysicalEventType) (output : Output) :
    (fireCurrentModifiers settings autogenId physicalEventType output).mouseKey =
      output.mouseKey := by
  unfold fireCurrentModifiers fireModifiers
  generalize FireModifiers.fire _ _ _ _ _ _ _ = fired
  have all (pushed : List Pushed) (output : Output) :
      (pushed.foldl (fun output pushed => push pushed.params pushed.autogenId output)
        output).mouseKey = output.mouseKey := by
    induction pushed generalizing output with
    | nil => rfl
    | cons pushed rest ih => rw [List.foldl_cons, ih, push_mouseKey]
  exact all fired.2 _

theorem fireRelativePointer_mouseKey (autogenId : AutogenId)
    (physicalEventType : PhysicalEventType) (toButtons : Buttons) (dx dy : Int)
    (output : Output) :
    (fireRelativePointer settings autogenId physicalEventType toButtons dx dy output).mouseKey =
      output.mouseKey := by
  unfold fireRelativePointer
  extract_lets isButtonReleased cleared modified clicked moved
  have modifiedSame : modified.mouseKey = output.mouseKey := by
    show (if isButtonReleased then cleared else fireCurrentModifiers settings autogenId
      physicalEventType cleared).mouseKey = _
    split
    · rfl
    · exact fireCurrentModifiers_mouseKey settings autogenId physicalEventType cleared
  have clickedSame : clicked.mouseKey = output.mouseKey := by
    show (if modified.lastButtons_ ≠ toButtons then _ else modified).mouseKey = _
    split
    · exact (push_mouseKey _ _ _).trans modifiedSame
    · exact modifiedSame
  have movedSame : moved.mouseKey = output.mouseKey := by
    show (if dx ≠ 0 ∨ dy ≠ 0 then _ else clicked).mouseKey = _
    split
    · exact (push_mouseKey _ _ _).trans clickedSame
    · exact clickedSame
  split
  · exact (fireCurrentModifiers_mouseKey settings autogenId physicalEventType moved).trans
      movedSame
  · exact movedSame

theorem fireScrollWheel_mouseKey (autogenId : AutogenId) (physicalEventType : PhysicalEventType)
    (params : ScrollWheelEventCallback) (output : Output) :
    (FireScrollWheel.fire settings autogenId physicalEventType params output).mouseKey =
      output.mouseKey := by
  unfold FireScrollWheel.fire
  dsimp only
  rw [push_mouseKey, fireCurrentModifiers_mouseKey]
  rfl

theorem fireMove_mouseKey (config : TimerConfig) (output : Output) :
    (fireMove settings config output).mouseKey = output.mouseKey := by
  unfold fireMove
  dsimp only
  split
  · exact fireRelativePointer_mouseKey settings _ _ _ _ _ output
  · exact fireScrollWheel_mouseKey settings _ _ _ output

/-- The timer goes on as it was, and so do the directions. -/
theorem timerCallback_mouseKey (config : TimerConfig) (output : Output) :
    (∀ direction, moving (timerCallback settings config output).mouseKey direction =
        moving output.mouseKey direction) ∧
      (timerCallback settings config output).mouseKey.fire_timer_.active =
        output.mouseKey.fire_timer_.active := by
  unfold timerCallback
  split
  · next active =>
      unfold fire_timer_callback
      dsimp only
      rw [fireMove_mouseKey, active]
      refine ⟨fun direction => ?_, TimerWrapper.setTimeoutMS_active _ _ _⟩
      cases direction <;> rfl
  · exact ⟨fun _ => rfl, rfl⟩

end

/-- The deltas are those of the directions. -/
theorem timerFollows_congr {mouseKey other : MouseKey}
    (directions : ∀ direction, moving other direction = moving mouseKey direction)
    (active : other.fire_timer_.active = mouseKey.fire_timer_.active)
    (follows : TimerFollows mouseKey) : TimerFollows other := by
  have up : other.move_up_ = mouseKey.move_up_ := directions .up
  have down : other.move_down_ = mouseKey.move_down_ := directions .down
  have left : other.move_left_ = mouseKey.move_left_ := directions .left
  have right : other.move_right_ = mouseKey.move_right_ := directions .right
  unfold TimerFollows calculate_dx calculate_dy at *
  rw [active, up, down, left, right]
  exact follows

section
variable {events : List FireKeyCall} {call : FireKeyCall} {direction : Direction}

theorem held_append {key : KeyCode} :
    Held (events ++ [call]) key ↔
      if call.params.key = key then call.params.ex_iskeydown = true else Held events key := by
  unfold Held
  by_cases own : call.params.key = key <;> simp [List.filter_append, own]

theorem heldSince_append :
    HeldSince (events ++ [call]) direction ↔
      if hasDirection call.params.key direction = true then call.params.ex_iskeydown = true
      else HeldSince events direction := by
  by_cases has : hasDirection call.params.key direction = true
  · rw [if_pos has]
    constructor
    · rintro ⟨before, press, after, split, down, -, -, kept⟩
      rcases List.eq_nil_or_concat after with rfl | ⟨earlier, last, rfl⟩
      · obtain ⟨-, same⟩ := List.append_inj' split rfl
        exact List.singleton_inj.mp same ▸ down
      · rw [List.concat_eq_append, ← List.cons_append, ← List.append_assoc] at split
        obtain ⟨-, same⟩ := List.append_inj' split rfl
        obtain rfl := List.singleton_inj.mp same
        exact kept call (by simp) has
    · intro down
      refine ⟨events, call, [], rfl, down, has, held_append.mpr ?_,
        fun _ member => by cases member⟩
      rwa [if_pos rfl]
  · rw [if_neg has]
    have apart {key : KeyCode} (own : hasDirection key direction = true) :
        call.params.key ≠ key := fun equal => has (equal ▸ own)
    constructor
    · rintro ⟨before, press, after, split, down, own, held, kept⟩
      rcases List.eq_nil_or_concat after with rfl | ⟨earlier, last, rfl⟩
      · obtain ⟨-, same⟩ := List.append_inj' split rfl
        exact absurd own (List.singleton_inj.mp same ▸ has)
      · rw [List.concat_eq_append, ← List.cons_append, ← List.append_assoc] at split
        obtain ⟨whole, -⟩ := List.append_inj' split rfl
        rw [held_append, if_neg (apart own)] at held
        exact ⟨before, press, earlier, whole, down, own, held,
          fun later member => kept later (by simp [member])⟩
    · rintro ⟨before, press, after, split, down, own, held, kept⟩
      refine ⟨before, press, after ++ [call], by simp [split], down, own, ?_, ?_⟩
      · rwa [held_append, if_neg (apart own)]
      · intro later member same
        rcases List.mem_append.mp member with earlier | last
        · exact kept later earlier same
        · exact absurd same (List.mem_singleton.mp last ▸ has)

end

/-- What holds behind each step of a run. -/
structure Consistent (tracked : Tracked) : Prop where
  moves : ∀ direction,
    moving tracked.output.mouseKey direction = true ↔ HeldSince tracked.events direction
  timer : TimerFollows tracked.output.mouseKey

theorem step_consistent {settings : Settings} {tracked : Tracked} {label : Step}
    (allowed : Allowed tracked label) (consistent : Consistent tracked) :
    Consistent (step settings tracked label) := by
  cases label with
  | key call =>
      obtain ⟨known, single, -⟩ := allowed
      obtain ⟨move, known⟩ := Option.isSome_iff_exists.mp known
      have mouseKey := @handle_mouseKey settings call move tracked.output known single
      have has (direction : Direction) : hasDirection call.params.key direction =
          move.has direction := by
        simp [hasDirection, known]
      constructor
      · intro direction
        show moving (VK_MOUSEKEY.handle settings call tracked.output).1.mouseKey
            direction = true ↔
          HeldSince (tracked.events ++ [call]) direction
        rw [mouseKey, moving_startMove, moving_apply, heldSince_append, has]
        by_cases own : move.has direction = true
        · rw [if_pos own, if_pos own]
        · rw [if_neg own, if_neg own, ← consistent.moves direction]
          cases direction <;> rfl
      · show TimerFollows (VK_MOUSEKEY.handle settings call tracked.output).1.mouseKey
        rw [mouseKey]
        exact startMove_timer _
  | fireTimer config =>
      obtain ⟨directions, active⟩ := timerCallback_mouseKey settings config tracked.output
      constructor
      · intro direction
        exact (directions direction ▸ consistent.moves direction)
      · exact timerFollows_congr directions active consistent.timer

/-- A release ends its directions, whichever other keys are held. -/
theorem moving_iff_heldSince (settings : Settings) (output : Output) (steps : List Step)
    (along : Transition.Along (step settings) Allowed (.start output) steps) :
    let tracked := Transition.run (step settings) (.start output) steps
    (∀ direction, moving tracked.output.mouseKey direction = true ↔
        HeldSince tracked.events direction) ∧
      TimerFollows tracked.output.mouseKey := by
  have start : Consistent (Tracked.start output) := by
    constructor
    · intro direction
      refine iff_of_false (by cases direction <;> simp [Tracked.start, moving]) ?_
      rintro ⟨before, press, after, split, -⟩
      simp [Tracked.start] at split
    · simp [Tracked.start, TimerFollows, calculate_dx, calculate_dy, TimerWrapper.idle]
  have consistent := Transition.invariant_of_along Consistent
    (fun _ _ allowed consistent => step_consistent allowed consistent) start along
  exact ⟨consistent.moves, consistent.timer⟩

def ordinary : Settings where
  extra := []
  virtual := Pairs.areVirtual_nil
  vkConfig := []
  repeat_initial_wait := 500
  repeat_consumer_initial_wait := 500
  repeat_wait := 83
  keytokey_delayed_action_timeout := 300
  mousekey_initial_wait_of_pointer := 20
  mousekey_initial_wait_of_scroll := 20
  fixed_distance_magnification := 10
  fixed_distance_scroll_magnification := 1
  mouse_key_scroll_not_natural_direction := false

def ordinaryOutput : Output := { flagStatus := .initialized Pairs.normal }

def press (key : KeyCode) : Step :=
  .key ⟨⟨.DOWN, ⟨0⟩, key, .MACBOOK, false, true⟩, 1, .DOWN⟩

def release (key : KeyCode) : Step :=
  .key ⟨⟨.UP, ⟨0⟩, key, .MACBOOK, false, false⟩, 1, .UP⟩

theorem moving_iff_heldSince_up :
    let steps := [press .VK_MOUSEKEY_UP, press .VK_MOUSEKEY_DIAGONAL_NE, release .VK_MOUSEKEY_UP]
    let tracked := Transition.run (step ordinary) (.start ordinaryOutput) steps
    (∀ direction, moving tracked.output.mouseKey direction = true ↔
        HeldSince tracked.events direction) ∧
      TimerFollows tracked.output.mouseKey :=
  moving_iff_heldSince ordinary ordinaryOutput _ (by decide +kernel)

/-- The release of the up key stops the upward half of a diagonal that is still held. -/
theorem not_moving_iff_held :
    ¬∀ (settings : Settings) (output : Output) (steps : List Step),
      Transition.Along (step settings) Allowed (.start output) steps →
        let tracked := Transition.run (step settings) (.start output) steps
        (∀ direction, moving tracked.output.mouseKey direction = true ↔
            ∃ key, Held tracked.events key ∧ hasDirection key direction = true) ∧
          TimerFollows tracked.output.mouseKey := by
  intro claim
  have follows := (claim ordinary ordinaryOutput
    [press .VK_MOUSEKEY_UP, press .VK_MOUSEKEY_DIAGONAL_NE, release .VK_MOUSEKEY_UP]
    (by decide +kernel)).1 .up
  exact absurd (follows.mpr ⟨.VK_MOUSEKEY_DIAGONAL_NE, by decide +kernel, by decide +kernel⟩)
    (by decide +kernel)

end Karabiner.VirtualKey.VK_MOUSEKEY
