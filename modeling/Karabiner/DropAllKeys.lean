import Karabiner.ActivePresses
import Karabiner.Output

set_option autoImplicit false

/- DropAllKeys. It does not drop an event when it remaps it, but at each pass of the timer of
EventOutputQueue, which offers it everything that is still queued. -/
namespace Karabiner

structure DropAllKeys where
  autogenId_ : Nat
  fromModifierFlags_ : List ModifierFlag
  dropKey_ : Bool
  dropConsumerKey_ : Bool
  dropPointingButton_ : Bool
  targetSerialNumbers_ : List Nat := []
  modifierMatched_ : Bool := false
  doCancel_ : Bool := false
  dropped_ : List FromEvent := []
  deriving DecidableEq, Repr

/-- What RemapClass::Item asks before it offers events: whether a pass-through turns the item
off, whether its RemapClass is enabled, and its filters. -/
structure Guards where
  passThrough : Bool
  enabled : Bool
  isblocked : Bool
  isblocked_keyup : Bool
  deriving DecidableEq, Repr

namespace DropAllKeys

open EventOutputQueue (Event Item)

/-- The state of the modifiers and the serial number are those of the event. -/
def remap (this : DropAllKeys) (flagStatus : FlagStatus) (currentSerialNumber : Nat) :
    DropAllKeys :=
  let helper :=
    Remapping.registerSerialNumber ⟨currentSerialNumber, this.targetSerialNumbers_⟩
  let this := { this with targetSerialNumbers_ := helper.targetSerialNumbers }
  if this.fromModifierFlags_.isEmpty then
    { this with modifierMatched_ := false, doCancel_ := false }
  else
    { this with
      modifierMatched_ := flagStatus.isOn this.fromModifierFlags_
      doCancel_ := true }

def isTarget (this : DropAllKeys) (item : Item) : Bool :=
  this.targetSerialNumbers_.contains item.eventInputQueueSerialNumber

/-- The private dropKey: the item is cancelled where the flag is true. -/
def dropKey (this : DropAllKeys) (params : Params) : DropAllKeys × Bool :=
  match params.iskeydown with
  | none => (this, false)
  | some iskeydown =>
      if iskeydown then
        if !params.isRepeat then
          if this.modifierMatched_ then
            ({ this with dropped_ := this.dropped_ ++ [FromEvent.ofParams params] }, true)
          else (this, false)
        else (this, this.dropped_.any (·.isTargetEvent params))
      else
        ({ this with dropped_ := this.dropped_.filter fun fromEvent =>
            !fromEvent.isTargetEvent params },
          this.dropped_.any (·.isTargetEvent params))

/-- cancelEventOutputQueueItems of the processor, for one item. -/
def cancelItem (pairs : Pairs) (this : DropAllKeys) (item : Item) : DropAllKeys × Item :=
  if !this.isTarget item then (this, item)
  else if !this.doCancel_ then (this, item)
  else if item.autogenId < this.autogenId_ then (this, item)
  else if item.event.isModifier pairs then (this, item)
  else
    let cancel (result : DropAllKeys × Bool) : DropAllKeys × Item :=
      (result.1, if result.2 then { item with canceled := true } else item)
    match item.event with
    | .params (.keyboard params) =>
        if this.dropKey_ then cancel (this.dropKey (.keyboard params)) else (this, item)
    | .params (.keyboardSpecial params) =>
        if this.dropConsumerKey_ then cancel (this.dropKey (.keyboardSpecial params))
        else (this, item)
    | .params (.relativePointer params) =>
        cancel (this,
          this.dropPointingButton_ && this.modifierMatched_ && params.buttons != ⟨0⟩)
    | .params (.scrollWheel _) => (this, item)
    | .wait _ => (this, item)

/-- RemapClass::Item::cancelEventOutputQueueItems, for one item. -/
def offer (pairs : Pairs) (guards : Guards) (this : DropAllKeys) (item : Item) :
    DropAllKeys × Item :=
  let (iskeydown, isRepeat) :=
    match item.event with
    | .params params => (params.iskeydown.getD true, params.isRepeat)
    | .wait _ => (true, false)
  if guards.passThrough then (this, item)
  else if iskeydown && !isRepeat then
    if !guards.enabled then (this, item)
    else if guards.isblocked then (this, item)
    else cancelItem pairs this item
  else if guards.isblocked_keyup then (this, item)
  else cancelItem pairs this item

end DropAllKeys

/-- All events of the queue are offered. -/
def Guards.OffersAll (guards : Guards) : Prop :=
  guards.passThrough = false ∧ guards.enabled = true ∧ guards.isblocked = false ∧
    guards.isblocked_keyup = false

instance (guards : Guards) : Decidable guards.OffersAll :=
  inferInstanceAs (Decidable (_ ∧ _))

/-- What an event is for the press of a key. -/
inductive Phase where
  | down
  | repeats
  | up
  deriving DecidableEq, Repr

def Params.phase (params : Params) : Option Phase :=
  params.iskeydown.map fun iskeydown =>
    if iskeydown then if params.isRepeat then .repeats else .down else .up

/-- The key of an event and its part in the press; nothing for a modifier, a pointing device
and a wait. -/
def EventOutputQueue.Event.keyEvent (pairs : Pairs) (event : EventOutputQueue.Event) :
    Option (FromEvent × Phase) :=
  if event.isModifier pairs then none
  else
    match event with
    | .params (.keyboard key) =>
        (Params.keyboard key).phase.map (FromEvent.ofParams (.keyboard key), ·)
    | .params (.keyboardSpecial key) =>
        (Params.keyboardSpecial key).phase.map (FromEvent.ofParams (.keyboardSpecial key), ·)
    | _ => none

namespace DropAllKeys

open EventOutputQueue (Event Item)

/-- Whether events of the key can be cancelled. -/
def Drops (this : DropAllKeys) : FromEvent → Prop
  | .KEY _ => this.doCancel_ = true ∧ this.dropKey_ = true
  | .CONSUMER_KEY _ => this.doCancel_ = true ∧ this.dropConsumerKey_ = true
  | _ => False

instance (this : DropAllKeys) : (key : FromEvent) → Decidable (this.Drops key)
  | .KEY _ => inferInstanceAs (Decidable (_ ∧ _))
  | .CONSUMER_KEY _ => inferInstanceAs (Decidable (_ ∧ _))
  | .NONE => inferInstanceAs (Decidable False)
  | .POINTING_BUTTON _ => inferInstanceAs (Decidable False)

/-- Whether an event of a key is cancelled, and dropped_ behind it. -/
def verdict (this : DropAllKeys) (key : FromEvent) : Phase → Bool × List FromEvent
  | .down =>
      if this.modifierMatched_ then (true, this.dropped_ ++ [key]) else (false, this.dropped_)
  | .repeats => (key ∈ this.dropped_, this.dropped_)
  | .up => (key ∈ this.dropped_, this.dropped_.filter (· ≠ key))

def judge (this : DropAllKeys) (key : FromEvent) (phase : Phase) : Bool × List FromEvent :=
  if this.Drops key then this.verdict key phase else (false, this.dropped_)

variable {pairs : Pairs} {this : DropAllKeys} {guards : Guards} {item : Item}

theorem isTargetEvent_eq {params : Params} {iskeydown : Bool}
    (known : params.iskeydown = some iskeydown) (fromEvent : FromEvent) :
    fromEvent.isTargetEvent params = decide (fromEvent = FromEvent.ofParams params) := by
  have same := FromEvent.isTargetEvent_iff known fromEvent
  by_cases target : fromEvent = FromEvent.ofParams params
  · rw [same.mpr target, decide_eq_true target]
  · rw [decide_eq_false target, Bool.eq_false_iff]
    exact fun holds => target (same.mp holds)

theorem dropKey_eq {params : Params} {phase : Phase} (known : params.phase = some phase) :
    this.dropKey params =
      ({ this with dropped_ := (this.verdict (FromEvent.ofParams params) phase).2 },
        (this.verdict (FromEvent.ofParams params) phase).1) := by
  obtain ⟨iskeydown, down, rfl⟩ := Option.map_eq_some_iff.mp known
  have targets := isTargetEvent_eq down
  have found : this.dropped_.any (·.isTargetEvent params) =
      decide (FromEvent.ofParams params ∈ this.dropped_) := by
    simp only [targets, List.any_eq, decide_eq_true_eq, exists_eq_right]
  have others : (fun fromEvent : FromEvent => !fromEvent.isTargetEvent params) =
      fun fromEvent => decide (fromEvent ≠ FromEvent.ofParams params) := by
    funext fromEvent
    rw [targets, decide_not]
  unfold dropKey
  simp only [down, found, others]
  cases iskeydown with
  | false => rfl
  | true =>
      cases params.isRepeat with
      | true => rfl
      | false =>
          by_cases matched : this.modifierMatched_ = true
          · have here : this.verdict (FromEvent.ofParams params) .down =
                (true, this.dropped_ ++ [FromEvent.ofParams params]) := if_pos matched
            exact here ▸ if_pos matched
          · have here : this.verdict (FromEvent.ofParams params) .down = (false, this.dropped_) :=
              if_neg matched
            exact here ▸ if_neg matched

theorem offer_of_offersAll (all : guards.OffersAll) :
    offer pairs guards this item = cancelItem pairs this item := by
  obtain ⟨passThrough, enabled, isblocked, isblocked_keyup⟩ := all
  simp only [offer, passThrough, enabled, isblocked, isblocked_keyup, Bool.not_true,
    Bool.false_eq_true, if_false, ite_self]

theorem judge_of_not {key : FromEvent} {phase : Phase} (kept : ¬this.Drops key) :
    this.judge key phase = (false, this.dropped_) := if_neg kept

/-- What happens to an event of a key. -/
theorem cancelItem_key {key : FromEvent} {phase : Phase} (target : this.isTarget item = true)
    (later : this.autogenId_ ≤ item.autogenId)
    (known : item.event.keyEvent pairs = some (key, phase)) :
    cancelItem pairs this item =
      ({ this with dropped_ := (this.judge key phase).2 },
        { item with canceled := item.canceled || (this.judge key phase).1 }) := by
  have ordinary : item.event.isModifier pairs = false := by
    by_contra modifier
    simp [EventOutputQueue.Event.keyEvent, modifier] at known
  have notEarlier : ¬item.autogenId < this.autogenId_ := Nat.not_lt.mpr later
  have unchanged (kept : ¬this.Drops key) :
      (this, item) = ({ this with dropped_ := (this.judge key phase).2 },
        { item with canceled := item.canceled || (this.judge key phase).1 }) := by
    rw [judge_of_not kept, Bool.or_false]
  have changed {params : Params} (phaseOf : params.phase = some phase)
      (same : FromEvent.ofParams params = key) (drops : this.Drops key) :
      ((this.dropKey params).1,
          if (this.dropKey params).2 = true then { item with canceled := true } else item) =
        ({ this with dropped_ := (this.judge key phase).2 },
          { item with canceled := item.canceled || (this.judge key phase).1 }) := by
    rw [dropKey_eq phaseOf, same, judge, if_pos drops]
    cases (this.verdict key phase).1 <;> simp
  simp only [EventOutputQueue.Event.keyEvent, ordinary, Bool.false_eq_true, if_false] at known
  rw [cancelItem, if_neg (by simp [target])]
  by_cases active : this.doCancel_ = true
  · rw [if_neg (by simp [active]), if_neg notEarlier, if_neg (by simp [ordinary])]
    obtain ⟨event, autogenId, serialNumber, canceled⟩ := item
    cases event with
    | wait _ => simp at known
    | params params =>
        cases params with
        | relativePointer _ | scrollWheel _ => simp at known
        | keyboard params =>
            obtain ⟨_, phaseOf, same⟩ := Option.map_eq_some_iff.mp known
            obtain ⟨rfl, rfl⟩ := Prod.mk.inj same
            by_cases kind : this.dropKey_ = true
            · exact (if_pos kind).trans (changed phaseOf rfl ⟨active, kind⟩)
            · exact (if_neg kind).trans (unchanged fun drops => kind drops.2)
        | keyboardSpecial params =>
            obtain ⟨_, phaseOf, same⟩ := Option.map_eq_some_iff.mp known
            obtain ⟨rfl, rfl⟩ := Prod.mk.inj same
            by_cases kind : this.dropConsumerKey_ = true
            · exact (if_pos kind).trans (changed phaseOf rfl ⟨active, kind⟩)
            · exact (if_neg kind).trans (unchanged fun drops => kind drops.2)
  · rw [if_pos (by simp [active])]
    refine unchanged fun drops => ?_
    cases key <;> simp [Drops, active] at drops

/-- The pointing events with a button are cancelled like downs. -/
def dropsButtons (this : DropAllKeys) : Event → Bool
  | .params (.relativePointer params) =>
      this.doCancel_ &&
      (this.dropPointingButton_ && this.modifierMatched_ && params.buttons != ⟨0⟩)
  | _ => false

theorem cancelItem_other (target : this.isTarget item = true)
    (later : this.autogenId_ ≤ item.autogenId) (other : item.event.keyEvent pairs = none) :
    cancelItem pairs this item =
      (this, { item with canceled := item.canceled || this.dropsButtons item.event }) := by
  have notEarlier : ¬item.autogenId < this.autogenId_ := Nat.not_lt.mpr later
  obtain ⟨event, autogenId, serialNumber, canceled⟩ := item
  have kept (none : this.dropsButtons event = false) :
      (this, (⟨event, autogenId, serialNumber, canceled⟩ : Item)) =
        (this, ⟨event, autogenId, serialNumber, canceled || this.dropsButtons event⟩) := by
    rw [none, Bool.or_false]
  rw [cancelItem, if_neg (by simp [target])]
  by_cases active : this.doCancel_ = true
  · rw [if_neg (by simp [active]), if_neg notEarlier]
    by_cases modifier : event.isModifier pairs = true
    · rw [if_pos modifier]
      apply kept
      cases event with
      | wait _ => rfl
      | params params => cases params <;> first | rfl | cases modifier
    · rw [if_neg modifier]
      simp only [EventOutputQueue.Event.keyEvent, if_neg modifier] at other
      cases event with
      | wait _ => exact kept rfl
      | params params =>
          cases params with
          | keyboard _ | keyboardSpecial _ => simp [Params.phase, Params.iskeydown] at other
          | scrollWheel _ => exact kept rfl
          | relativePointer params =>
              simp only [dropsButtons, active, Bool.true_and]
              cases (this.dropPointingButton_ && this.modifierMatched_ &&
                params.buttons != ⟨0⟩) <;> simp
  · rw [if_pos (by simp [active])]
    apply kept
    rw [Bool.not_eq_true] at active
    cases event with
    | wait _ => rfl
    | params params => cases params <;> simp [dropsButtons, active]

/-- Whether an event that is offered is cancelled, and dropped_ behind it. -/
def ruling (pairs : Pairs) (this : DropAllKeys) (event : Event) : Bool × List FromEvent :=
  match event.keyEvent pairs with
  | some (key, phase) => this.judge key phase
  | none => (this.dropsButtons event, this.dropped_)

theorem cancelItem_eq (target : this.isTarget item = true)
    (later : this.autogenId_ ≤ item.autogenId) :
    cancelItem pairs this item =
      ({ this with dropped_ := (ruling pairs this item.event).2 },
        { item with canceled := item.canceled || (ruling pairs this item.event).1 }) := by
  unfold ruling
  cases known : item.event.keyEvent pairs with
  | none => exact cancelItem_other target later known
  | some keyEvent => exact cancelItem_key target later known

section
variable {key other : FromEvent} {phase : Phase}

@[simp] theorem drops_dropped (dropped_ : List FromEvent) :
    ({ this with dropped_ } : DropAllKeys).Drops key ↔ this.Drops key := by
  cases key <;> rfl

theorem drops_of_judge (canceled : (this.judge key phase).1 = true) : this.Drops key := by
  by_contra kept
  rw [judge_of_not kept] at canceled
  cases canceled

theorem mem_judge_other (apart : other ≠ key) :
    other ∈ (this.judge key phase).2 ↔ other ∈ this.dropped_ := by
  unfold judge
  by_cases drops : this.Drops key
  · rw [if_pos drops]
    cases phase with
    | down => by_cases matched : this.modifierMatched_ = true <;> simp [verdict, matched, apart]
    | repeats => rfl
    | up => simp [verdict, apart]
  · rw [if_neg drops]

theorem mem_judge_down :
    key ∈ (this.judge key .down).2 ↔ key ∈ this.dropped_ ∨
    (this.judge key .down).1 = true := by
  unfold judge
  by_cases drops : this.Drops key
  · by_cases matched : this.modifierMatched_ = true <;> simp [verdict, drops, matched]
  · simp [drops]

variable (droppable : key ∈ this.dropped_ → this.Drops key)
include droppable

theorem judge_repeats :
    ((this.judge key .repeats).1 = true ↔ key ∈ this.dropped_) ∧
      (key ∈ (this.judge key .repeats).2 ↔ key ∈ this.dropped_) := by
  unfold judge
  by_cases drops : this.Drops key
  · simp [verdict, drops]
  · have absent : key ∉ this.dropped_ := fun present => drops (droppable present)
    simp [drops, absent]

theorem judge_up :
    ((this.judge key .up).1 = true ↔ key ∈ this.dropped_) ∧
    key ∉ (this.judge key .up).2 := by
  unfold judge
  by_cases drops : this.Drops key
  · simp [verdict, drops]
  · have absent : key ∉ this.dropped_ := fun present => drops (droppable present)
    simp [drops, absent]

end

end DropAllKeys

end Karabiner
