import Karabiner.DropAllKeys

set_option autoImplicit false

/- Runs of DropAllKeys with the queue that it drops from, and when it drops whole presses. -/
namespace Karabiner.DropAllKeys

open EventOutputQueue (Event Item)

/-- An item of the queue with its place among all that was pushed, and the place of the down of
its press. -/
structure Queued where
  item : Item
  position : Nat
  press : Nat
  deriving DecidableEq, Repr

def Queued.keyEvent (pairs : Pairs) (queued : Queued) : Option (FromEvent × Phase) :=
  queued.item.event.keyEvent pairs

/-- held: the place of the down of a key's press in progress. canceled and sent are what has
left the queue. -/
structure State where
  this : DropAllKeys
  queue_ : List Queued
  canceled : List Queued
  sent : List Queued
  held : FromEvent → Option Nat
  count : Nat

def State.start (this : DropAllKeys) : State := ⟨this, [], [], [], fun _ => none, 0⟩

inductive Step where
  | push (event : Event) (autogenId serialNumber : Nat)
  | remap (flagStatus : FlagStatus) (currentSerialNumber : Nat)
  | fireTimer (guards : Guards)

/-- held behind an event. -/
def held (keyEvent : Option (FromEvent × Phase)) (position : Nat)
    (before : FromEvent → Option Nat) : FromEvent → Option Nat :=
  match keyEvent with
  | some (key, .down) => Function.update before key (some position)
  | some (key, .up) => Function.update before key none
  | _ => before

/-- The place of the down of an event's press. -/
def pressOf (keyEvent : Option (FromEvent × Phase)) (position : Nat)
    (held : FromEvent → Option Nat) : Nat :=
  match keyEvent with
  | some (_, .down) => position
  | some (key, _) => (held key).getD position
  | none => position

section
variable (pairs : Pairs)

def push (event : Event) (autogenId serialNumber : Nat) (state : State) : State :=
  let keyEvent := event.keyEvent pairs
  { state with
    queue_ := state.queue_ ++
      [⟨⟨event, autogenId, serialNumber, false⟩, state.count,
        pressOf keyEvent state.count state.held⟩]
    held := DropAllKeys.held keyEvent state.count state.held
    count := state.count + 1 }

def offerAll (guards : Guards) (this : DropAllKeys) : List Queued → DropAllKeys × List Queued
  | [] => (this, [])
  | queued :: rest =>
      let (this, item) := offer pairs guards this queued.item
      let (this, rest) := offerAll guards this rest
      (this, { queued with item } :: rest)

/-- EventOutputQueue::fire_timer_callback. -/
def fireTimer (guards : Guards) (state : State) : State :=
  let (this, offered) := offerAll pairs guards state.this state.queue_
  let canceled := state.canceled ++ offered.filter (·.item.canceled)
  match offered.filter (!·.item.canceled) with
  | [] => { state with this, queue_ := [], canceled }
  | front :: rest => { state with this, queue_ := rest, canceled, sent := state.sent ++ [front] }

def step (state : State) : Step → State
  | .push event autogenId serialNumber => push pairs event autogenId serialNumber state
  | .remap flagStatus currentSerialNumber =>
      { state with this := state.this.remap flagStatus currentSerialNumber }
  | .fireTimer guards => fireTimer pairs guards state

/-- The events of a key come as down, repeats, up. -/
def Fits (keyEvent : Option (FromEvent × Phase)) (held : FromEvent → Option Nat) : Prop :=
  match keyEvent with
  | some (key, .down) => held key = none
  | some (key, _) => held key ≠ none
  | none => True

instance (keyEvent : Option (FromEvent × Phase)) (held : FromEvent → Option Nat) :
    Decidable (Fits keyEvent held) := by
  unfold Fits; split <;> infer_instance

/-- The presses are whole, an event is not older than the item, and each pass offers all that
is queued, with its serial number still registered. -/
def Regular (state : State) : Step → Prop
  | .push event autogenId _ =>
      Fits (event.keyEvent pairs) state.held ∧ state.this.autogenId_ ≤ autogenId
  | .remap _ _ => True
  | .fireTimer guards =>
      guards.OffersAll ∧ ∀ queued ∈ state.queue_, state.this.isTarget queued.item = true

instance (state : State) : (step : Step) → Decidable (Regular pairs state step)
  | .push _ _ _ => inferInstanceAs (Decidable (_ ∧ _))
  | .remap _ _ => inferInstanceAs (Decidable True)
  | .fireTimer _ => inferInstanceAs (Decidable (_ ∧ _))

/-- A repeat or an up that has left the queue was cancelled if and only if the down of its press
was. -/
def WholePresses (state : State) : Prop :=
  ∀ queued ∈ state.canceled ++ state.sent, ∀ key phase,
    queued.keyEvent pairs = some (key, phase) → phase ≠ .down →
      (queued ∈ state.canceled ↔ ∃ down ∈ state.canceled, down.position = queued.press)

/-- What a pass with modifierMatched_ leaves in the queue: of a key, the events of a press whose
down was sent. -/
def Stays (state : State) (queued : Queued) : Prop :=
  match queued.keyEvent pairs with
  | some (key, _) =>
      state.this.Drops key →
        key ∉ state.this.dropped_ ∧ ∀ down ∈ state.queue_, down.position ≠ queued.press
  | none => state.this.dropsButtons queued.item.event = false

instance (state : State) (queued : Queued) : Decidable (Stays pairs state queued) := by
  unfold Stays; split <;> infer_instance

/-- A press in progress of the key has its down in the queue, and what the pass leaves in the
queue behind the front that it sends has an event of an earlier press of the key. -/
def Overtaken (state : State) (key : FromEvent) : Prop :=
  state.this.modifierMatched_ = true ∧ state.this.Drops key ∧ key ∉ state.this.dropped_ ∧
    (∃ down ∈ state.queue_, state.held key = some down.position) ∧
    ∃ queued ∈ (state.queue_.filter (Stays pairs state ·)).tail,
      ∃ phase, queued.keyEvent pairs = some (key, phase)

/-- No pass sees an overtaken key. -/
def Clear (state : State) : Step → Prop
  | .fireTimer _ => ∀ key, ¬Overtaken pairs state key
  | _ => True

end

end Karabiner.DropAllKeys
