import Karabiner.Params
import Karabiner.RemapClassLoad
import Karabiner.Transition

set_option autoImplicit false

/- RemapClass::Item, ActiveItems and RemapClassManager at run time. A processor and a filter
are functions of the world: everything else that remapping reads and writes. -/
namespace Karabiner.Remapping

variable {World : Type*}

def REMAPTYPE_PASSTHROUGH : Nat := 20

/-- What VK_CONFIG does to a RemapClass. -/
inductive EnabledChange where
  | toggleEnabled (index : Nat)
  | setEnabled (index : Nat) (newval : Bool)
  deriving DecidableEq, Repr

def EnabledChange.apply (enabled : Nat → Bool) : EnabledChange → Nat → Bool
  | .toggleEnabled index => Function.update enabled index (!enabled index)
  | .setEnabled index newval => Function.update enabled index newval

structure RemapParams where
  params : Params
  isremapped : Bool

/-- returns is the value of remap. A key that it sends may be one of VK_CONFIG. -/
structure Outcome (World : Type*) where
  returns : Bool
  world : World
  isremapped : Bool
  configs : List EnabledChange

inductive RemapSimultaneousKeyPressesResult where
  | NOT_CHANGED
  | APPLIED
  | QUEUE_CHANGED
  deriving DecidableEq, Repr

/-- RemapFuncBase with its virtual functions. -/
structure RemapFuncBase (World : Type*) where
  type : Nat
  ignorePassThrough : Bool := false
  remap : World → RemapParams → Outcome World :=
    fun world remapParams => ⟨false, world, remapParams.isremapped, []⟩
  remapSimultaneousKeyPresses : World → RemapSimultaneousKeyPressesResult × World :=
    fun world => (.NOT_CHANGED, world)

structure RemapFilterBase (World : Type*) where
  type : Nat
  isblocked : World → Bool

namespace RemapFilterBase

def isDeviceFilter (filter : RemapFilterBase World) : Bool :=
  filter.type == Bridge.FILTERTYPE_DEVICE_NOT || filter.type == Bridge.FILTERTYPE_DEVICE_ONLY

/-- Only DeviceFilter overrides isblocked_keyup. -/
def isblockedKeyup (filter : RemapFilterBase World) (world : World) : Bool :=
  filter.isDeviceFilter && filter.isblocked world

end RemapFilterBase

structure Item (World : Type*) where
  processor : Option (RemapFuncBase World)
  filters : List (RemapFilterBase World) := []

structure RemapClass (World : Type*) where
  items : List (Item World)

/-- The class in remapclasses_ and the item in it stand for the address of the item. -/
abbrev ItemId := Nat × Nat

inductive ActiveItems.Type where
  | NORMAL
  | SIMULTANEOUSBUTTONPRESSES
  deriving DecidableEq, Repr

abbrev ActiveItems := List (ItemId × ActiveItems.Type)

/-- calls and accepted record, for the current event, whose processor was called and whose
remap returned true. -/
structure State (World : Type*) where
  enabled : Nat → Bool
  enabledRemapclasses : List Nat
  activeItems : ActiveItems
  world : World
  isremapped : Bool
  calls : List ItemId
  accepted : List ItemId

namespace Item

def isblocked (item : Item World) (world : World) : Bool :=
  item.filters.any (·.isblocked world)

def isblockedKeyup (item : Item World) (world : World) : Bool :=
  item.filters.any (·.isblockedKeyup world)

/-- The tests in front of a call of the processor. The type is the one of ActiveItems that
stands for a key-down that the item has taken. -/
def reachesProcessor (item : Item World) (processor : RemapFuncBase World) (id : ItemId)
    (type : ActiveItems.Type) (iskeydown passThroughEnabled : Bool) (state : State World) : Bool :=
  if iskeydown then
    if passThroughEnabled && !processor.ignorePassThrough then false
    else if !state.enabled id.1 then false
    else !item.isblocked state.world
  else
    if !state.activeItems.contains (id, type) then false
    else !item.isblockedKeyup state.world

/-- The end of remap: what an accepted event does to ActiveItems. -/
def updateActiveItems (id : ItemId) (type : ActiveItems.Type) (iskeydown : Bool)
    (activeItems : ActiveItems) : ActiveItems :=
  if iskeydown then activeItems ++ [(id, type)] else activeItems.erase (id, type)

def callRemap (processor : RemapFuncBase World) (id : ItemId) (params : Params)
    (state : State World) : State World :=
  let outcome := processor.remap state.world ⟨params, state.isremapped⟩
  let state :=
    { state with
      world := outcome.world
      isremapped := outcome.isremapped
      enabled := outcome.configs.foldl EnabledChange.apply state.enabled
      calls := state.calls ++ [id] }
  if !outcome.returns then state
  else
    { state with
      accepted := state.accepted ++ [id]
      activeItems :=
        match params.iskeydown with
        | none => state.activeItems
        | some iskeydown => updateActiveItems id .NORMAL iskeydown state.activeItems }

def remap (id : ItemId) (item : Item World) (passThroughEnabled : Bool) (params : Params)
    (state : State World) : State World :=
  match item.processor with
  | none => state
  | some processor =>
      if item.reachesProcessor processor id .NORMAL (params.iskeydown.getD true)
          passThroughEnabled state then
        callRemap processor id params state
      else state

/-- The Bool tells whether the queue has changed. -/
def remapSimultaneousKeyPresses (id : ItemId) (item : Item World)
    (iskeydown passThroughEnabled : Bool) (state : State World) : Bool × State World :=
  match item.processor with
  | none => (false, state)
  | some processor =>
      if item.reachesProcessor processor id .SIMULTANEOUSBUTTONPRESSES iskeydown
          passThroughEnabled state then
        let (result, world) := processor.remapSimultaneousKeyPresses state.world
        let state := { state with world }
        match result with
        | .NOT_CHANGED => (false, state)
        | .QUEUE_CHANGED => (true, state)
        | .APPLIED =>
            (true, { state with
              activeItems :=
                updateActiveItems id .SIMULTANEOUSBUTTONPRESSES iskeydown state.activeItems })
      else (false, state)

def isPassThroughEnabled (id : ItemId) (item : Item World) (state : State World) : Bool :=
  match item.processor with
  | none => false
  | some processor =>
      if item.isblocked state.world then false
      else if !state.enabled id.1 then false
      else processor.type == REMAPTYPE_PASSTHROUGH

end Item

/-- The items of the class at the index, in their order. -/
def itemsOf (remapclasses : List (RemapClass World)) (index : Nat) :
    List (ItemId × Item World) :=
  match remapclasses[index]? with
  | none => []
  | some remapclass => remapclass.items.mapIdx fun i item => ((index, i), item)

namespace State

variable (remapclasses : List (RemapClass World))

/-- The items that the loops over enabled_remapclasses_ come to. -/
def visited (state : State World) : List (ItemId × Item World) :=
  state.enabledRemapclasses.flatMap (itemsOf remapclasses)

def isPassThroughEnabled (state : State World) : Bool :=
  (state.visited remapclasses).any fun (id, item) => item.isPassThroughEnabled id state

def visit (passThroughEnabled : Bool) (params : Params) (state : State World)
    (visited : ItemId × Item World) : State World :=
  visited.2.remap visited.1 passThroughEnabled params state

/-- A new RemapParams. -/
def begin (state : State World) : State World :=
  { state with isremapped := false, calls := [], accepted := [] }

def remap (state : State World) (params : Params) : State World :=
  Transition.run (visit (state.isPassThroughEnabled remapclasses) params) state.begin
    (state.visited remapclasses)

def visitSimultaneous (iskeydown passThroughEnabled : Bool) (progress : Bool × State World)
    (visited : ItemId × Item World) : Bool × State World :=
  let (itemChanged, state) :=
    visited.2.remapSimultaneousKeyPresses visited.1 iskeydown passThroughEnabled progress.2
  (progress.1 || itemChanged, state)

def remapSimultaneousKeyPresses (state : State World) (iskeydown : Bool) : Bool × State World :=
  Transition.run (visitSimultaneous iskeydown (state.isPassThroughEnabled remapclasses))
    (false, state) (state.visited remapclasses)

def hasActiveItem (state : State World) (index : Nat) : Bool :=
  (itemsOf remapclasses index).any fun (id, _) =>
    state.activeItems.contains (id, .NORMAL) ||
      state.activeItems.contains (id, .SIMULTANEOUSBUTTONPRESSES)

/-- refresh_timer_callback. The status message is left out. -/
def refresh (state : State World) : State World :=
  { state with
    enabledRemapclasses := (List.range remapclasses.length).filter fun index =>
      state.enabled index || state.hasActiveItem remapclasses index }

/-- The values are those after the essential configuration, a wrong size changes nothing. -/
def setConfig (state : State World) (values : List Int) : State World :=
  if values.length ≠ remapclasses.length then state
  else
    { state with
      enabled := fun index => (values[index]?.map (· != 0)).getD (state.enabled index) }

def setConfigOne (state : State World) (isEssentialConfig : Bool) (index : Nat) (value : Int) :
    State World :=
  if isEssentialConfig then state
  else if remapclasses.length ≤ index then state
  else { state with enabled := Function.update state.enabled index (value != 0) }

end State

end Karabiner.Remapping
