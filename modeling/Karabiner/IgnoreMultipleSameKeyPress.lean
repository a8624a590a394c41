import Karabiner.ActivePresses
import Karabiner.Output

set_option autoImplicit false

/- IgnoreMultipleSameKeyPress ignores every press of its key but the first, until another event
comes. -/
namespace Karabiner.IgnoreMultipleSameKeyPress

open Remapping

variable {Environment : Type*}

/-- What remapping reads and writes. pressing is the number of entries of fromEvent_ in
PressingFromEvents, the environment is what filters look at. -/
structure World (Environment : Type*) where
  flagStatus : FlagStatus
  environment : Environment
  pressing : Nat
  needToIgnore_ : Bool

/-- The members that add sets. -/
structure Config where
  fromEvent_ : FromEvent
  fromModifierFlags_ : List ModifierFlag
  ignorePassThrough : Bool
  deriving DecidableEq, Repr

/-- FromEvent::changePressingState; nothing if the state does not change. -/
def changePressingState (config : Config) (params : Params) (world : World Environment) :
    Option (World Environment) :=
  match config.fromEvent_.targetIsDown params with
  | none => none
  | some true =>
      if world.flagStatus.isOn config.fromModifierFlags_ then
        some { world with pressing := world.pressing + 1 }
      else none
  | some false =>
      if world.pressing = 0 then none else some { world with pressing := world.pressing - 1 }

def remap (config : Config) (world : World Environment) (remapParams : RemapParams) :
    Outcome (World Environment) :=
  let nottargetevent : Outcome (World Environment) :=
    ⟨false, { world with needToIgnore_ := false }, remapParams.isremapped, []⟩
  if remapParams.isremapped then nottargetevent
  else
    match changePressingState config remapParams.params world with
    | none => nottargetevent
    | some world =>
        if world.needToIgnore_ then ⟨true, world, true, []⟩
        else if world.pressing = 0 then ⟨true, { world with needToIgnore_ := true }, false, []⟩
        else ⟨true, world, false, []⟩

/-- BRIDGE_REMAPTYPE_IGNOREMULTIPLESAMEKEYPRESS. -/
def REMAPTYPE : Nat := 31

def processor (config : Config) : RemapFuncBase (World Environment) where
  type := REMAPTYPE
  ignorePassThrough := config.ignorePassThrough
  remap := remap config

/-- The address of the item; there is no other in this model. -/
def itemId : ItemId := (0, 0)

/-- An event with what surrounds it: whether the loop over enabled_remapclasses_ comes to the
item, whether an item before it has remapped the event, and what its guards read. -/
structure Arrival (Environment : Type*) where
  params : Params
  visited : Bool
  isremapped : Bool
  passThroughEnabled : Bool
  enabled : Bool
  flagStatus : FlagStatus
  environment : Environment

/-- held tells of the press in progress whether its down was ignored, presses of the finished
ones whether the down was and whether the up was. -/
structure Tracked (Environment : Type*) where
  state : State (World Environment)
  held : Option Bool
  presses : List (Bool × Bool)

section
variable (config : Config) (filters : List (RemapFilterBase (World Environment)))

def item : Item (World Environment) := ⟨some (processor config), filters⟩

def State.surround (state : State (World Environment)) (arrival : Arrival Environment) :
    State (World Environment) :=
  { state with
    enabled := fun _ => arrival.enabled
    isremapped := arrival.isremapped
    world := { state.world with
      flagStatus := arrival.flagStatus
      environment := arrival.environment } }

/-- The event at the item. -/
def offer (state : State (World Environment)) (arrival : Arrival Environment) :
    State (World Environment) :=
  let state := State.surround state arrival
  if arrival.visited then
    (item config filters).remap itemId arrival.passThroughEnabled arrival.params state
  else state

/-- The item sets isremapped. -/
def ignores (state : State (World Environment)) (arrival : Arrival Environment) : Bool :=
  !arrival.isremapped && (offer config filters state arrival).isremapped

def step (tracked : Tracked Environment) (arrival : Arrival Environment) : Tracked Environment :=
  let state := offer config filters tracked.state arrival
  let ignored := ignores config filters tracked.state arrival
  match config.fromEvent_.targetIsDown arrival.params with
  | some true => { tracked with state, held := some ignored }
  | some false =>
      { state
        held := none
        presses := tracked.presses ++ [(tracked.held.getD false, ignored)] }
  | none => { tracked with state }

/-- The downs and ups of the key alternate. -/
def Alternates (tracked : Tracked Environment) (arrival : Arrival Environment) : Prop :=
  match config.fromEvent_.targetIsDown arrival.params with
  | some true => tracked.held = none
  | some false => tracked.held ≠ none
  | none => True

/-- The guards of the item let the event through, but for ActiveItems. -/
def Admits (state : State (World Environment)) (arrival : Arrival Environment) : Prop :=
  arrival.visited = true ∧
    match arrival.params.iskeydown with
    | some false => (item config filters).isblockedKeyup state.world = false
    | _ => ¬(arrival.passThroughEnabled = true ∧ config.ignorePassThrough = false) ∧
        arrival.enabled = true ∧ (item config filters).isblocked state.world = false

/-- The item hands the event to its processor. -/
def Reaches (state : State (World Environment)) (arrival : Arrival Environment) : Prop :=
  Admits config filters state arrival ∧
    (arrival.params.iskeydown = some false →
      (itemId, ActiveItems.Type.NORMAL) ∈ state.activeItems)

/-- While the key is down and needToIgnore_ set, its up comes through the guards and was not
remapped before, and no other event reaches the processor. -/
def Undisturbed (tracked : Tracked Environment) (arrival : Arrival Environment) : Prop :=
  let state := State.surround tracked.state arrival
  state.world.needToIgnore_ = true → 0 < state.world.pressing →
    match config.fromEvent_.targetIsDown arrival.params with
    | some _ => Admits config filters state arrival ∧ arrival.isremapped = false
    | none => ¬Reaches config filters state arrival

variable {config filters} in
instance (tracked : Tracked Environment) (arrival : Arrival Environment) :
    Decidable (Alternates config tracked arrival) := by
  unfold Alternates; split <;> infer_instance

variable {config filters} in
instance (state : State (World Environment)) (arrival : Arrival Environment) :
    Decidable (Admits config filters state arrival) := by
  unfold Admits; split <;> infer_instance

variable {config filters} in
instance (state : State (World Environment)) (arrival : Arrival Environment) :
    Decidable (Reaches config filters state arrival) :=
  inferInstanceAs (Decidable (_ ∧ _))

variable {config filters} in
instance (tracked : Tracked Environment) (arrival : Arrival Environment) :
    Decidable (Undisturbed config filters tracked arrival) := by
  unfold Undisturbed; dsimp only; split <;> infer_instance

end

def Tracked.start (flagStatus : FlagStatus) (environment : Environment) : Tracked Environment where
  state :=
    { enabled := fun _ => false
      enabledRemapclasses := []
      activeItems := []
      world := ⟨flagStatus, environment, 0, false⟩
      isremapped := false
      calls := []
      accepted := [] }
  held := none
  presses := []

/-- The up of a press is ignored if and only if its down was. -/
def WholePresses (tracked : Tracked Environment) : Prop :=
  ∀ press ∈ tracked.presses, (press.2 = true ↔ press.1 = true)

variable {config : Config} {filters : List (RemapFilterBase (World Environment))}

/-- A button that is none has no downs and ups for the guards. -/
theorem iskeydown_of_target {fromEvent : FromEvent} {params : Params} {isDown : Bool}
    (target : fromEvent.targetIsDown params = some isDown)
    (real : fromEvent ≠ .POINTING_BUTTON PointingButton.NONE) :
    params.iskeydown = some isDown := by
  cases fromEvent with
  | NONE => cases target
  | KEY key =>
      cases params with
      | keyboard params =>
          by_cases other : params.key = key <;> simp [FromEvent.targetIsDown, other] at target
          simp [Params.iskeydown, target]
      | _ => cases target
  | CONSUMER_KEY key =>
      cases params with
      | keyboardSpecial params =>
          by_cases other : params.key = key <;> simp [FromEvent.targetIsDown, other] at target
          simp [Params.iskeydown, target]
      | _ => cases target
  | POINTING_BUTTON button =>
      cases params with
      | relativePointer params =>
          by_cases other : params.ex_button = button <;>
            simp [FromEvent.targetIsDown, other] at target
          have notNone : params.ex_button ≠ PointingButton.NONE := fun equal =>
            real (congrArg _ (other.symm.trans equal))
          simp [Params.iskeydown, notNone, target]
      | _ => cases target

theorem iskeydown_of_none {params : Params} {isDown : Bool}
    (target : (FromEvent.POINTING_BUTTON PointingButton.NONE).targetIsDown params = some isDown) :
    params.iskeydown = none := by
  cases params with
  | relativePointer params =>
      by_cases other : params.ex_button = PointingButton.NONE
      · simp [Params.iskeydown, other]
      · simp [FromEvent.targetIsDown, other] at target
  | _ => cases target

section
variable {state : State (World Environment)} {arrival : Arrival Environment}

theorem reachesProcessor_iff (visited : arrival.visited = true) :
    (item config filters).reachesProcessor (processor config) itemId .NORMAL
        (arrival.params.iskeydown.getD true) arrival.passThroughEnabled
        (State.surround state arrival) = true ↔
      Reaches config filters (State.surround state arrival) arrival := by
  have enabled (index : Nat) : (State.surround state arrival).enabled index = arrival.enabled := rfl
  unfold Reaches Admits Item.reachesProcessor
  cases known : arrival.params.iskeydown with
  | none => simp [visited, enabled, processor]; grind
  | some isDown =>
      cases isDown with
      | false => simp [visited]; grind
      | true => simp [visited, enabled, processor]; grind

theorem offer_unreached (kept : ¬Reaches config filters (State.surround state arrival) arrival) :
    offer config filters state arrival = State.surround state arrival := by
  unfold offer
  by_cases visited : arrival.visited = true
  · rw [if_pos visited]
    exact if_neg (mt (reachesProcessor_iff visited).mp kept)
  · rw [if_neg visited]

/-- The event at the processor. -/
def outcome (config : Config) (state : State (World Environment))
    (arrival : Arrival Environment) : Outcome (World Environment) :=
  remap config (State.surround state arrival).world ⟨arrival.params, arrival.isremapped⟩

theorem offer_reached (reaches : Reaches config filters (State.surround state arrival) arrival) :
    offer config filters state arrival =
      Item.callRemap (processor config) itemId arrival.params (State.surround state arrival) := by
  unfold offer
  rw [if_pos reaches.1.1]
  exact if_pos ((reachesProcessor_iff reaches.1.1).mpr reaches)

theorem offer_world (reaches : Reaches config filters (State.surround state arrival) arrival) :
    (offer config filters state arrival).world = (outcome config state arrival).world := by
  rw [offer_reached reaches]
  unfold Item.callRemap
  dsimp only
  split <;> rfl

theorem offer_isremapped
    (reaches : Reaches config filters (State.surround state arrival) arrival) :
    (offer config filters state arrival).isremapped =
      (outcome config state arrival).isremapped := by
  rw [offer_reached reaches]
  unfold Item.callRemap
  dsimp only
  split <;> rfl

theorem offer_activeItems
    (reaches : Reaches config filters (State.surround state arrival) arrival) :
    (offer config filters state arrival).activeItems =
      if (outcome config state arrival).returns then
        match arrival.params.iskeydown with
        | none => state.activeItems
        | some iskeydown => Item.updateActiveItems itemId .NORMAL iskeydown state.activeItems
      else state.activeItems := by
  rw [offer_reached reaches]
  exact callRemap_activeItems (processor config) itemId arrival.params _

theorem outcome_rejected (why : arrival.isremapped = true ∨
      changePressingState config arrival.params (State.surround state arrival).world = none) :
    outcome config state arrival =
      ⟨false, { (State.surround state arrival).world with needToIgnore_ := false },
        arrival.isremapped, []⟩ := by
  unfold outcome remap
  rcases why with remapped | unchanged
  · exact if_pos remapped
  · simp only [unchanged, ite_self]

theorem outcome_accepted {changed : World Environment} (fresh : arrival.isremapped = false)
    (change : changePressingState config arrival.params (State.surround state arrival).world =
      some changed) :
    let outcome := outcome config state arrival
    outcome.returns = true ∧ outcome.isremapped = changed.needToIgnore_ ∧
      outcome.world.pressing = changed.pressing ∧
      outcome.world.needToIgnore_ =
        (changed.needToIgnore_ || decide (changed.pressing = 0)) := by
  simp only [outcome, remap, fresh, Bool.false_eq_true, if_false, change]
  cases ignoring : changed.needToIgnore_ with
  | true => simp [ignoring]
  | false => by_cases last : changed.pressing = 0 <;> simp [ignoring, last]

/-- ActiveItems behind an accepted event. -/
def activeBehind (arrival : Arrival Environment) (activeItems : ActiveItems) : ActiveItems :=
  match arrival.params.iskeydown with
  | none => activeItems
  | some iskeydown => Item.updateActiveItems itemId .NORMAL iskeydown activeItems

/-- Behind an event: the flag, the number of presses, ActiveItems, and whether it was ignored. -/
def Leaves (config : Config) (filters : List (RemapFilterBase (World Environment)))
    (state : State (World Environment)) (arrival : Arrival Environment) (needToIgnore_ : Bool)
    (pressing : Nat) (activeItems : ActiveItems) (ignored : Bool) : Prop :=
  let next := offer config filters state arrival
  next.world.needToIgnore_ = needToIgnore_ ∧ next.world.pressing = pressing ∧
    next.activeItems = activeItems ∧ ignores config filters state arrival = ignored

theorem leaves_unreached
    (kept : ¬Reaches config filters (State.surround state arrival) arrival) :
    Leaves config filters state arrival state.world.needToIgnore_ state.world.pressing
      state.activeItems false := by
  unfold Leaves ignores
  rw [offer_unreached kept]
  exact ⟨rfl, rfl, rfl, Bool.not_and_self _⟩

variable (reaches : Reaches config filters (State.surround state arrival) arrival)
include reaches

theorem leaves_rejected (why : arrival.isremapped = true ∨
      changePressingState config arrival.params (State.surround state arrival).world = none) :
    Leaves config filters state arrival false state.world.pressing state.activeItems false := by
  have active := offer_activeItems reaches
  unfold Leaves ignores
  dsimp only
  rw [offer_world reaches, offer_isremapped reaches, outcome_rejected why]
  rw [outcome_rejected why] at active
  exact ⟨rfl, rfl, active, Bool.not_and_self _⟩

theorem leaves_accepted {changed : World Environment} (fresh : arrival.isremapped = false)
    (change : changePressingState config arrival.params (State.surround state arrival).world =
      some changed) :
    Leaves config filters state arrival
      (changed.needToIgnore_ || decide (changed.pressing = 0)) changed.pressing
      (activeBehind arrival state.activeItems) changed.needToIgnore_ := by
  obtain ⟨returns, isremapped, pressing, needToIgnore⟩ := outcome_accepted fresh change
  have active := offer_activeItems reaches
  rw [returns] at active
  unfold Leaves ignores
  dsimp only
  rw [offer_world reaches, offer_isremapped reaches, isremapped, fresh]
  exact ⟨needToIgnore, pressing, active, Bool.true_and _⟩

omit reaches

/-- What an event can do: nothing, end the ignoring, or change the presses. -/
theorem offer_cases (config : Config) (filters : List (RemapFilterBase (World Environment)))
    (state : State (World Environment)) (arrival : Arrival Environment) :
    let needToIgnore_ := state.world.needToIgnore_
    let pressing := state.world.pressing
    let target := config.fromEvent_.targetIsDown arrival.params
    (¬Reaches config filters (State.surround state arrival) arrival ∧
        Leaves config filters state arrival needToIgnore_ pressing state.activeItems false) ∨
      (Reaches config filters (State.surround state arrival) arrival ∧
        (arrival.isremapped = true ∨ target = none ∨ target = some true ∨ pressing = 0) ∧
        Leaves config filters state arrival false pressing state.activeItems false) ∨
      (target = some true ∧
        Leaves config filters state arrival needToIgnore_ (pressing + 1)
          (activeBehind arrival state.activeItems) needToIgnore_) ∨
      (target = some false ∧ pressing ≠ 0 ∧
        Leaves config filters state arrival (needToIgnore_ || decide (pressing - 1 = 0))
          (pressing - 1) (activeBehind arrival state.activeItems) needToIgnore_) := by
  intro needToIgnore_ pressing target
  by_cases reaches : Reaches config filters (State.surround state arrival) arrival
  · cases remapped : arrival.isremapped with
    | true =>
        exact Or.inr (Or.inl ⟨reaches, Or.inl rfl, leaves_rejected reaches (Or.inl remapped)⟩)
    | false =>
        cases aimed : config.fromEvent_.targetIsDown arrival.params with
        | none =>
            refine Or.inr (Or.inl ⟨reaches, Or.inr (Or.inl aimed), leaves_rejected reaches ?_⟩)
            simp [changePressingState, aimed]
        | some isDown =>
            cases isDown with
            | true =>
                by_cases on : arrival.flagStatus.isOn config.fromModifierFlags_ = true
                · have change : changePressingState config arrival.params
                      (State.surround state arrival).world =
                      some { (State.surround state arrival).world with
                        pressing := pressing + 1 } := by
                    simp only [changePressingState, aimed]
                    exact if_pos on
                  have leaves := leaves_accepted reaches remapped change
                  simp only [Nat.add_one_ne_zero, decide_false, Bool.or_false] at leaves
                  exact Or.inr (Or.inr (Or.inl ⟨aimed, leaves⟩))
                · refine Or.inr (Or.inl ⟨reaches, Or.inr (Or.inr (Or.inl aimed)),
                    leaves_rejected reaches (Or.inr ?_)⟩)
                  simp only [changePressingState, aimed]
                  exact if_neg on
            | false =>
                by_cases none : pressing = 0
                · refine Or.inr (Or.inl ⟨reaches, Or.inr (Or.inr (Or.inr none)),
                    leaves_rejected reaches (Or.inr ?_)⟩)
                  simp only [changePressingState, aimed]
                  exact if_pos none
                · have change : changePressingState config arrival.params
                      (State.surround state arrival).world =
                      some { (State.surround state arrival).world with
                        pressing := pressing - 1 } := by
                    simp only [changePressingState, aimed]
                    exact if_neg none
                  have leaves := leaves_accepted reaches remapped change
                  exact Or.inr (Or.inr (Or.inr ⟨aimed, none, leaves⟩))
  · exact Or.inl ⟨reaches, leaves_unreached reaches⟩

end

/-- What holds before each event of a run. -/
structure Consistent (config : Config) (tracked : Tracked Environment) : Prop where
  active : config.fromEvent_ ≠ .POINTING_BUTTON PointingButton.NONE →
    tracked.state.activeItems.count (itemId, .NORMAL) = tracked.state.world.pressing
  held : tracked.held = some true ↔
    tracked.state.world.needToIgnore_ = true ∧ 0 < tracked.state.world.pressing
  once : tracked.held = some true → tracked.state.world.pressing = 1
  whole : WholePresses tracked

theorem start_consistent (flagStatus : FlagStatus) (environment : Environment) :
    Consistent config (.start flagStatus environment) where
  active _ := rfl
  held := by simp [Tracked.start]
  once held := by cases held
  whole _ member := by cases member

section
variable {tracked : Tracked Environment} {arrival : Arrival Environment}
  (consistent : Consistent config tracked)
include consistent

/-- An event of another key, or of a pointing device. -/
theorem step_other (other : config.fromEvent_.targetIsDown arrival.params = none)
    (undisturbed : Undisturbed config filters tracked arrival) :
    Consistent config (step config filters tracked arrival) := by
  have next : step config filters tracked arrival =
      { tracked with state := offer config filters tracked.state arrival } := by
    simp only [step, other]
  rw [next]
  rcases offer_cases config filters tracked.state arrival with ⟨-, need, pressing, active, -⟩ |
    ⟨reaches, -, need, pressing, active, -⟩ | ⟨aimed, -⟩ | ⟨aimed, -⟩
  · refine ⟨?_, ?_, ?_, consistent.whole⟩
    · rw [active, pressing]
      exact consistent.active
    · rw [need, pressing]
      exact consistent.held
    · rw [pressing]
      exact consistent.once
  · have notIgnored : tracked.held ≠ some true := by
      intro held
      obtain ⟨needed, pressed⟩ := consistent.held.mp held
      have kept := undisturbed needed pressed
      rw [other] at kept
      exact kept reaches
    refine ⟨?_, ?_, fun held => absurd held notIgnored, consistent.whole⟩
    · rw [active, pressing]
      exact consistent.active
    · simp [need, notIgnored]
  · simp [other] at aimed
  · simp [other] at aimed

theorem step_down (down : config.fromEvent_.targetIsDown arrival.params = some true)
    (alternates : Alternates config tracked arrival) :
    Consistent config (step config filters tracked arrival) := by
  have idle : tracked.held = none := by simpa only [Alternates, down] using alternates
  have free : ¬(tracked.state.world.needToIgnore_ = true ∧ 0 < tracked.state.world.pressing) :=
    fun ignoring => by simpa [idle] using consistent.held.mpr ignoring
  have next : step config filters tracked arrival =
      { tracked with
        state := offer config filters tracked.state arrival
        held := some (ignores config filters tracked.state arrival) } := by
    simp only [step, down]
  rw [next]
  rcases offer_cases config filters tracked.state arrival with
    ⟨-, need, pressing, active, ignored⟩ | ⟨-, -, need, pressing, active, ignored⟩ |
    ⟨-, need, pressing, active, ignored⟩ | ⟨aimed, -⟩
  · rw [ignored]
    refine ⟨?_, ?_, fun held => by simp at held, consistent.whole⟩
    · rw [active, pressing]
      exact consistent.active
    · rw [need, pressing]
      simpa using free
  · rw [ignored]
    refine ⟨?_, ?_, fun held => by simp at held, consistent.whole⟩
    · rw [active, pressing]
      exact consistent.active
    · simp [need]
  · rw [ignored]
    refine ⟨fun real => ?_, ?_, fun held => ?_, consistent.whole⟩
    · rw [active, pressing, activeBehind, iskeydown_of_target down real]
      simp [Item.updateActiveItems, consistent.active real]
    · rw [need, pressing]
      simp
    · rw [pressing]
      have needed : tracked.state.world.needToIgnore_ = true := Option.some.inj held
      have none : tracked.state.world.pressing = 0 := by
        by_contra some
        exact free ⟨needed, Nat.pos_of_ne_zero some⟩
      omega
  · simp [down] at aimed

/-- The up of an ignored press reaches the processor. -/
theorem up_reaches (up : config.fromEvent_.targetIsDown arrival.params = some false)
    (held : tracked.held = some true) (undisturbed : Undisturbed config filters tracked arrival) :
    Reaches config filters (State.surround tracked.state arrival) arrival ∧
      arrival.isremapped = false := by
  obtain ⟨needed, pressed⟩ := consistent.held.mp held
  have comes := undisturbed needed pressed
  rw [up] at comes
  refine ⟨⟨comes.1, fun known => ?_⟩, comes.2⟩
  have real : config.fromEvent_ ≠ .POINTING_BUTTON PointingButton.NONE := by
    intro none
    rw [none] at up
    simp [iskeydown_of_none up] at known
  have entries := consistent.active real
  rw [consistent.once held] at entries
  exact List.count_pos_iff.mp (entries ▸ Nat.one_pos)

theorem step_up (up : config.fromEvent_.targetIsDown arrival.params = some false)
    (alternates : Alternates config tracked arrival)
    (undisturbed : Undisturbed config filters tracked arrival) :
    Consistent config (step config filters tracked arrival) := by
  have pressed : tracked.held ≠ none := by simpa only [Alternates, up] using alternates
  obtain ⟨wasIgnored, held⟩ := Option.ne_none_iff_exists'.mp pressed
  have next : step config filters tracked arrival =
      ⟨offer config filters tracked.state arrival, none,
        tracked.presses ++ [(wasIgnored, ignores config filters tracked.state arrival)]⟩ := by
    simp only [step, up, held, Option.getD_some]
  have whole (same : ignores config filters tracked.state arrival = wasIgnored) :
      WholePresses (step config filters tracked arrival) := by
    rw [next]
    intro press member
    rcases List.mem_append.mp member with earlier | now
    · exact consistent.whole press earlier
    · rw [List.mem_singleton.mp now, same]
  have ignoring : wasIgnored = true ↔
      tracked.state.world.needToIgnore_ = true ∧ 0 < tracked.state.world.pressing := by
    simpa [held] using consistent.held
  have single : wasIgnored = true → tracked.state.world.pressing = 1 := by
    simpa [held] using consistent.once
  have reaches : wasIgnored = true →
      Reaches config filters (State.surround tracked.state arrival) arrival ∧
        arrival.isremapped = false := by
    intro ignored
    rw [ignored] at held
    exact up_reaches consistent up held undisturbed
  rcases offer_cases config filters tracked.state arrival with
    ⟨kept, need, pressing, active, ignored⟩ | ⟨-, why, need, pressing, active, ignored⟩ |
    ⟨aimed, -⟩ | ⟨-, some, need, pressing, active, ignored⟩
  · have notIgnored : wasIgnored = false :=
      Bool.eq_false_iff.mpr fun ignored => kept (reaches ignored).1
    refine ⟨?_, ?_, fun held => by simp [next] at held, whole (ignored.trans notIgnored.symm)⟩
    · rw [next, active, pressing]
      exact consistent.active
    · rw [next, need, pressing, ← ignoring, notIgnored]
      simp
  · have notIgnored : wasIgnored = false := by
      refine Bool.eq_false_iff.mpr fun ignored => ?_
      have one := single ignored
      have fresh := (reaches ignored).2
      rcases why with remapped | none | down | zero
      · simp [fresh] at remapped
      · simp [up] at none
      · simp [up] at down
      · omega
    refine ⟨?_, ?_, fun held => by simp [next] at held, whole (ignored.trans notIgnored.symm)⟩
    · rw [next, active, pressing]
      exact consistent.active
    · simp [next, need]
  · simp [up] at aimed
  · have same : tracked.state.world.needToIgnore_ = wasIgnored := by
      have positive := Nat.pos_of_ne_zero some
      rw [Bool.eq_iff_iff]
      simp [ignoring, positive]
    refine ⟨fun real => ?_, ?_, fun held => by simp [next] at held, whole (ignored.trans same)⟩
    · rw [next, active, pressing, activeBehind, iskeydown_of_target up real]
      simp [Item.updateActiveItems, consistent.active real]
    · rw [next, need, pressing, same]
      cases wasIgnored with
      | true => simp [single rfl]
      | false =>
          have none : ¬ (tracked.state.world.pressing - 1 = 0 ∧
              0 < tracked.state.world.pressing - 1) := by omega
          rw [Bool.false_or, decide_eq_true_iff]
          exact iff_of_false (by simp) none

end

theorem step_consistent {tracked : Tracked Environment} {arrival : Arrival Environment}
    (consistent : Consistent config tracked) (alternates : Alternates config tracked arrival)
    (undisturbed : Undisturbed config filters tracked arrival) :
    Consistent config (step config filters tracked arrival) := by
  cases target : config.fromEvent_.targetIsDown arrival.params with
  | none => exact step_other consistent target undisturbed
  | some isDown =>
      cases isDown with
      | true => exact step_down consistent target alternates
      | false => exact step_up consistent target alternates undisturbed

/-- Whole presses are ignored in every run in which nothing comes between the down of an ignored
press and its up. -/
theorem ignores_wholePresses (config : Config)
    (filters : List (RemapFilterBase (World Environment)))
    (flagStatus : FlagStatus) (environment : Environment)
    (arrivals : List (Arrival Environment))
    (along : Transition.Along (step config filters)
      (fun tracked arrival =>
        Alternates config tracked arrival ∧ Undisturbed config filters tracked arrival)
      (.start flagStatus environment) arrivals) :
    WholePresses (Transition.run (step config filters) (.start flagStatus environment) arrivals) :=
  (Transition.invariant_of_along (Consistent config)
    (fun _ _ allowed consistent => step_consistent consistent allowed.1 allowed.2)
    (start_consistent flagStatus environment) along).whole

def kana : Config := ⟨.KEY ⟨0x68⟩, [], false⟩

def noModifier : FlagStatus := .initialized Pairs.normal

def arrival (eventType : EventType) (key : KeyCode) : Arrival Unit where
  params := .keyboardEvent Pairs.normal eventType ⟨0⟩ key ⟨42⟩ false
  visited := true
  isremapped := false
  passThroughEnabled := false
  enabled := true
  flagStatus := noModifier
  environment := ()

theorem ignores_wholePresses_twice :
    WholePresses (Transition.run (step kana []) (.start noModifier ())
      [arrival .DOWN ⟨0x68⟩, arrival .UP ⟨0x68⟩, arrival .DOWN ⟨0x68⟩,
        arrival .UP ⟨0x68⟩]) :=
  ignores_wholePresses kana [] noModifier () _ (by decide +kernel)

/-- Another key comes while the second press is held: its down was ignored, its up is not. -/
theorem not_ignores_wholePresses :
    ¬∀ (config : Config) (filters : List (RemapFilterBase (World Unit)))
      (flagStatus : FlagStatus)
      (environment : Unit) (arrivals : List (Arrival Unit)),
      Transition.Along (step config filters) (Alternates config) (.start flagStatus environment)
        arrivals →
      WholePresses
        (Transition.run (step config filters) (.start flagStatus environment) arrivals) := by
  intro claim
  have whole := claim kana [] noModifier ()
    [arrival .DOWN ⟨0x68⟩, arrival .UP ⟨0x68⟩, arrival .DOWN ⟨0x68⟩,
      arrival .DOWN ⟨0⟩,
      arrival .UP ⟨0x68⟩] (by decide +kernel)
  have same := whole (true, false) (by decide +kernel)
  exact absurd (same.mpr rfl) (by decide)

end Karabiner.IgnoreMultipleSameKeyPress
