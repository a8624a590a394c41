import Karabiner.FilterDecode
import Karabiner.Output
import Karabiner.RemapClass

set_option autoImplicit false

/- isblocked of the filters, and what they read of CommonData, RemapClassManager, FlagStatus
and ListHookedDevice. -/
namespace Karabiner

def DeviceProduct.ANY : Nat := 0
def DeviceLocation.ANY : Nat := 0

def DeviceIdentifier.isEqual (identifier v : DeviceIdentifier) : Bool :=
  if identifier.vendor ≠ v.vendor then false
  else if DeviceProduct.ANY ≠ v.product ∧ identifier.product ≠ v.product then false
  else if DeviceLocation.ANY ≠ v.locationId ∧ identifier.locationId ≠ v.locationId then false
  else true

def EventType.NONE : EventType := ⟨0⟩

namespace FlagStatus

/-- The loop that isLocked and isStuck share. -/
def allOn (counter : Item → Int) (status : FlagStatus)
    (modifierFlags : List ModifierFlag) : Bool :=
  status.item.all fun it =>
    it.flag = ModifierFlag.ZERO || it.flag = ModifierFlag.NONE ||
      !(it.flag ∈ modifierFlags && counter it ≤ 0)

def isLocked (status : FlagStatus) (modifierFlags : List ModifierFlag) : Bool :=
  status.allOn Item.lockCount modifierFlags

def isStuck (status : FlagStatus) (modifierFlags : List ModifierFlag) : Bool :=
  status.allOn Item.stickyCount modifierFlags

end FlagStatus

/-- LastPressedPhysicalKey or LastReleasedPhysicalKey, and what get_milliseconds returns. -/
structure LastPhysicalKey where
  datatype : Nat
  value : Nat
  milliseconds : Nat
  deriving DecidableEq, Repr

structure LastSentEvent where
  datatype : Nat
  value : Nat
  eventtype : EventType
  deriving DecidableEq, Repr

/-- The enabled_ of remapclasses_ stand for the classes. -/
structure FilterState where
  workspaceAppIds : List Nat
  workspaceWindowNameIds : List Nat
  workspaceUIElementRoleId : Nat
  workspaceInputSourceIds : List Nat
  remapclasses : List Bool
  deviceIdentifier : DeviceIdentifier
  flagStatus : FlagStatus
  lastPressedPhysicalKey : LastPhysicalKey
  lastReleasedPhysicalKey : LastPhysicalKey
  lastSentEvent : LastSentEvent
  pressingPhysicalKeysCountAll : Nat

def FilterState.isEnabled (state : FilterState) (configindex : Nat) : Bool :=
  state.remapclasses.getD configindex false

namespace RemapFilter

open Bridge

/-- targets_ of the filters that read one word for each. -/
def values (filter : RemapFilter) : List Nat := filter.targets.flatten.map UInt32.toNat

def pair : List UInt32 → Option (Nat × Nat)
  | [datatype, newval] => some (datatype.toNat, newval.toNat)
  | _ => none

/-- targets_ of the filters that read AddValueWithDataType. -/
def pairs (filter : RemapFilter) : List (Nat × Nat) := filter.targets.filterMap pair

/-- The loop over targets_ of the filters that come as _NOT and _ONLY. -/
def scan {Target : Type} (isnot : Bool) (matched : Target → Bool) : List Target → Bool
  | [] => if isnot then false else true
  | target :: targets =>
      if matched target then if isnot then true else false else scan isnot matched targets

end RemapFilter

open Bridge RemapFilter

section

variable (filter : RemapFilter) (state : FilterState)

def ApplicationFilter.isblocked : Bool :=
  if filter.type = FILTERTYPE_APPLICATION_NOT ∨ filter.type = FILTERTYPE_APPLICATION_ONLY then
    scan (filter.type = FILTERTYPE_APPLICATION_NOT) (· ∈ state.workspaceAppIds) filter.values
  else false

def WindowNameFilter.isblocked : Bool :=
  if filter.type = FILTERTYPE_WINDOWNAME_NOT ∨ filter.type = FILTERTYPE_WINDOWNAME_ONLY then
    scan (filter.type = FILTERTYPE_WINDOWNAME_NOT) (· ∈ state.workspaceWindowNameIds)
    filter.values
  else false

def UIElementRoleFilter.isblocked : Bool :=
  if filter.type = FILTERTYPE_UIELEMENTROLE_NOT ∨ filter.type = FILTERTYPE_UIELEMENTROLE_ONLY then
    scan (filter.type = FILTERTYPE_UIELEMENTROLE_NOT) (· = state.workspaceUIElementRoleId)
      filter.values
  else false

def InputSourceFilter.isblocked : Bool :=
  if filter.type = FILTERTYPE_INPUTSOURCE_NOT ∨ filter.type = FILTERTYPE_INPUTSOURCE_ONLY then
    scan (filter.type = FILTERTYPE_INPUTSOURCE_NOT) (· ∈ state.workspaceInputSourceIds)
      filter.values
  else false

def ConfigFilter.isblocked : Bool :=
  if filter.type = FILTERTYPE_CONFIG_NOT ∨ filter.type = FILTERTYPE_CONFIG_ONLY then
    scan (filter.type = FILTERTYPE_CONFIG_NOT) state.isEnabled filter.values
  else false

def DeviceFilter.isblocked : Bool :=
  if filter.type = FILTERTYPE_DEVICE_NOT ∨ filter.type = FILTERTYPE_DEVICE_ONLY then
    scan (filter.type = FILTERTYPE_DEVICE_NOT) state.deviceIdentifier.isEqual
      (DeviceFilter.targets filter)
  else false

namespace ModifierFilter

def matched (modifierFlags : List ModifierFlag) : Bool :=
  if modifierFlags.isEmpty then false
  else
    (filter.type = FILTERTYPE_MODIFIER_NOT || filter.type = FILTERTYPE_MODIFIER_ONLY) &&
        state.flagStatus.isOn modifierFlags ||
      (filter.type = FILTERTYPE_MODIFIER_LOCKED_NOT ||
          filter.type = FILTERTYPE_MODIFIER_LOCKED_ONLY) &&
        state.flagStatus.isLocked modifierFlags ||
      (filter.type = FILTERTYPE_MODIFIER_STUCK_NOT ||
          filter.type = FILTERTYPE_MODIFIER_STUCK_ONLY) &&
        state.flagStatus.isStuck modifierFlags

def isblocked : Bool :=
  if FilterVector.isModifier filter.type then
    scan (filter.type = FILTERTYPE_MODIFIER_NOT || filter.type = FILTERTYPE_MODIFIER_LOCKED_NOT ||
      filter.type = FILTERTYPE_MODIFIER_STUCK_NOT) (matched filter state) (targets filter)
  else false

end ModifierFilter

/-- LastPressedPhysicalKeyFilter and LastReleasedPhysicalKeyFilter differ in the key that they
look at. -/
def LastPhysicalKey.isblocked (typeNot typeOnly : Nat) (current : LastPhysicalKey) : Bool :=
  if filter.type = typeNot ∨ filter.type = typeOnly then
    if current.datatype = DATATYPE_NONE then false
    else
      scan (filter.type = typeNot)
        (fun target => target.1 = current.datatype && target.2 = current.value) filter.pairs
  else false

def LastPressedPhysicalKeyFilter.isblocked : Bool :=
  LastPhysicalKey.isblocked filter FILTERTYPE_LASTPRESSEDPHYSICALKEY_NOT
    FILTERTYPE_LASTPRESSEDPHYSICALKEY_ONLY state.lastPressedPhysicalKey

def LastReleasedPhysicalKeyFilter.isblocked : Bool :=
  LastPhysicalKey.isblocked filter FILTERTYPE_LASTRELEASEDPHYSICALKEY_NOT
    FILTERTYPE_LASTRELEASEDPHYSICALKEY_ONLY state.lastReleasedPhysicalKey

/-- ElapsedTimeSinceLastPressedFilter and ElapsedTimeSinceLastReleasedFilter. A target of
another datatype is passed over. -/
def LastPhysicalKey.isblockedByTime (greaterThan lessThan : Nat) (current : LastPhysicalKey) :
    Bool :=
  if current.datatype = DATATYPE_NONE then false
  else if filter.type = greaterThan ∨ filter.type = lessThan then
    filter.pairs.any fun target =>
      target.1 = DATATYPE_MILLISECOND &&
        (filter.type = greaterThan && target.2 ≥ current.milliseconds ||
          filter.type = lessThan && target.2 ≤ current.milliseconds)
  else false

def ElapsedTimeSinceLastPressedFilter.isblocked : Bool :=
  LastPhysicalKey.isblockedByTime filter FILTERTYPE_ELAPSEDTIMESINCELASTPRESSED_GREATERTHAN
    FILTERTYPE_ELAPSEDTIMESINCELASTPRESSED_LESSTHAN state.lastPressedPhysicalKey

def ElapsedTimeSinceLastReleasedFilter.isblocked : Bool :=
  LastPhysicalKey.isblockedByTime filter FILTERTYPE_ELAPSEDTIMESINCELASTRELEASED_GREATERTHAN
    FILTERTYPE_ELAPSEDTIMESINCELASTRELEASED_LESSTHAN state.lastReleasedPhysicalKey

namespace LastSentEventFilter

structure Item where
  dataType : Nat
  value : Nat
  eventType : EventType := .NONE

def item : List UInt32 → Option Item
  | [dataType, value] => some { dataType := dataType.toNat, value := value.toNat }
  | [dataType, value, eventType] =>
      some { dataType := dataType.toNat, value := value.toNat, eventType := ⟨eventType.toNat⟩ }
  | _ => none

/-- targets_. -/
def items : List Item := filter.targets.filterMap item

def isblocked : Bool :=
  if filter.type = FILTERTYPE_LASTSENTEVENT_NOT ∨ filter.type = FILTERTYPE_LASTSENTEVENT_ONLY then
    let current := state.lastSentEvent
    if current.datatype = DATATYPE_NONE then false
    else
      scan (filter.type = FILTERTYPE_LASTSENTEVENT_NOT) (fun target =>
        target.dataType = current.datatype && target.value = current.value &&
          (target.eventType = current.eventtype || target.eventType = .NONE)) (items filter)
  else false

end LastSentEventFilter

namespace PressingPhysicalKeysFilter

/-- count_: the constructor keeps the last word. -/
def count : Nat := filter.values.foldl (fun _ word => word) 0

def isblocked : Bool :=
  let current := state.pressingPhysicalKeysCountAll
  if filter.type = FILTERTYPE_PRESSINGPHYSICALKEYS_GREATERTHAN ∨
      filter.type = FILTERTYPE_PRESSINGPHYSICALKEYS_LESSTHAN then
    if filter.type = FILTERTYPE_PRESSINGPHYSICALKEYS_GREATERTHAN ∧
      count filter ≥ current then true
    else filter.type = FILTERTYPE_PRESSINGPHYSICALKEYS_LESSTHAN && count filter ≤ current
  else false

end PressingPhysicalKeysFilter

namespace RemapFilter

/-- The class that RemapFilterFactory makes of the type. -/
def isblocked : Bool :=
  let type := filter.type
  if type = FILTERTYPE_APPLICATION_NOT ∨ type = FILTERTYPE_APPLICATION_ONLY then
    ApplicationFilter.isblocked filter state
  else if type = FILTERTYPE_CONFIG_NOT ∨ type = FILTERTYPE_CONFIG_ONLY then
    ConfigFilter.isblocked filter state
  else if type = FILTERTYPE_DEVICE_NOT ∨ type = FILTERTYPE_DEVICE_ONLY then
    DeviceFilter.isblocked filter state
  else if type = FILTERTYPE_ELAPSEDTIMESINCELASTPRESSED_GREATERTHAN ∨
      type = FILTERTYPE_ELAPSEDTIMESINCELASTPRESSED_LESSTHAN then
    ElapsedTimeSinceLastPressedFilter.isblocked filter state
  else if type = FILTERTYPE_ELAPSEDTIMESINCELASTRELEASED_GREATERTHAN ∨
      type = FILTERTYPE_ELAPSEDTIMESINCELASTRELEASED_LESSTHAN then
    ElapsedTimeSinceLastReleasedFilter.isblocked filter state
  else if type = FILTERTYPE_INPUTSOURCE_NOT ∨ type = FILTERTYPE_INPUTSOURCE_ONLY then
    InputSourceFilter.isblocked filter state
  else if type = FILTERTYPE_LASTPRESSEDPHYSICALKEY_NOT ∨
      type = FILTERTYPE_LASTPRESSEDPHYSICALKEY_ONLY then
    LastPressedPhysicalKeyFilter.isblocked filter state
  else if type = FILTERTYPE_LASTRELEASEDPHYSICALKEY_NOT ∨
      type = FILTERTYPE_LASTRELEASEDPHYSICALKEY_ONLY then
    LastReleasedPhysicalKeyFilter.isblocked filter state
  else if type = FILTERTYPE_LASTSENTEVENT_NOT ∨ type = FILTERTYPE_LASTSENTEVENT_ONLY then
    LastSentEventFilter.isblocked filter state
  else if FilterVector.isModifier type then ModifierFilter.isblocked filter state
  else if type = FILTERTYPE_PRESSINGPHYSICALKEYS_GREATERTHAN ∨
      type = FILTERTYPE_PRESSINGPHYSICALKEYS_LESSTHAN then
    PressingPhysicalKeysFilter.isblocked filter state
  else if type = FILTERTYPE_WINDOWNAME_NOT ∨ type = FILTERTYPE_WINDOWNAME_ONLY then
    WindowNameFilter.isblocked filter state
  else if type = FILTERTYPE_UIELEMENTROLE_NOT ∨ type = FILTERTYPE_UIELEMENTROLE_ONLY then
    UIElementRoleFilter.isblocked filter state
  else false

/-- The filter as RemapClass::Item sees it, where the state is a part of the world. -/
def inWorld {World : Type*} (read : World → FilterState) (filter : RemapFilter) :
    Remapping.RemapFilterBase World where
  type := filter.type
  isblocked world := filter.isblocked (read world)

end RemapFilter

end

end Karabiner
