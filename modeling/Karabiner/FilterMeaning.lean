import Karabiner.ArgumentBlock
import Karabiner.RelatedLists
import Karabiner.RemapFilters

set_option autoImplicit false

/- What the element of a filter says, and that the filter which the kernel extension makes of
it blocks exactly then. -/
namespace Karabiner

/-- Each element with the one behind it, where that qualifies it. -/
def qualified {α : Type} (qualifies : α → Bool) : List α → List (α × Option α)
  | [] => []
  | [first] => [(first, none)]
  | first :: second :: rest =>
      if qualifies second then (first, some second) :: qualified qualifies rest
      else (first, none) :: qualified qualifies (second :: rest)

theorem qualified_forall₂ {α β : Type} {R : α → β → Prop} {first : α → Bool}
    {second : β → Bool}
    (agree : ∀ a b, R a b → first a = second b) :
    ∀ {as : List α} {bs : List β}, List.Forall₂ R as bs →
      List.Forall₂ (fun a b => R a.1 b.1 ∧ Option.Rel R a.2 b.2) (qualified first as)
        (qualified second bs)
  | _, _, .nil => .nil
  | _, _, .cons own .nil => .cons ⟨own, .none⟩ .nil
  | _, _, .cons own (.cons next rest) => by
      rw [qualified, qualified, agree _ _ next]
      split
      · exact .cons ⟨own, .some next⟩ (qualified_forall₂ agree rest)
      · exact .cons ⟨own, .none⟩ (qualified_forall₂ agree (.cons next rest))

namespace FilterMeaning

open FilterVector (Names DeviceGroup Decodes)

/-- What the names of a filter are compared with. -/
inductive Listing where
  | application
  | windowName
  | uiElementRole
  | inputSource
  | config
  deriving DecidableEq

inductive Counter where
  | on
  | locked
  | stuck
  deriving DecidableEq

inductive Direction where
  | pressed
  | released
  deriving DecidableEq

/-- What an element is about. A filter with isnot blocks where it is matched, and one without
blocks where it is not. -/
inductive Meaning where
  | listing (isnot : Bool) (listing : Listing)
  | device (isnot : Bool)
  | modifier (isnot : Bool) (counter : Counter)
  | lastPhysicalKey (isnot : Bool) (direction : Direction)
  | lastSentEvent (isnot : Bool)
  | elapsedTime (greaterThan : Bool) (direction : Direction)
  | pressingPhysicalKeys (greaterThan : Bool)
  deriving DecidableEq

/-- The tags that name a filter. -/
def tags : List (String × Meaning) :=
  [("not", .listing true .application),
    ("only", .listing false .application),
    ("windowname_not", .listing true .windowName),
    ("windowname_only", .listing false .windowName),
    ("uielementrole_not", .listing true .uiElementRole),
    ("uielementrole_only", .listing false .uiElementRole),
    ("config_not", .listing true .config),
    ("config_only", .listing false .config),
    ("device_not", .device true),
    ("device_only", .device false),
    ("elapsedtimesincelastpressed_greaterthan", .elapsedTime true .pressed),
    ("elapsedtimesincelastpressed_lessthan", .elapsedTime false .pressed),
    ("elapsedtimesincelastreleased_greaterthan", .elapsedTime true .released),
    ("elapsedtimesincelastreleased_lessthan", .elapsedTime false .released),
    ("modifier_not", .modifier true .on),
    ("modifier_only", .modifier false .on),
    ("modifierlocked_not", .modifier true .locked),
    ("modifierlocked_only", .modifier false .locked),
    ("modifierstuck_not", .modifier true .stuck),
    ("modifierstuck_only", .modifier false .stuck),
    ("inputsource_not", .listing true .inputSource),
    ("inputmode_not", .listing true .inputSource),
    ("inputsourcedetail_not", .listing true .inputSource),
    ("inputmodedetail_not", .listing true .inputSource),
    ("inputsource_only", .listing false .inputSource),
    ("inputmode_only", .listing false .inputSource),
    ("inputsourcedetail_only", .listing false .inputSource),
    ("inputmodedetail_only", .listing false .inputSource),
    ("lastpressedphysicalkey_not", .lastPhysicalKey true .pressed),
    ("lastpressedphysicalkey_only", .lastPhysicalKey false .pressed),
    ("lastreleasedphysicalkey_not", .lastPhysicalKey true .released),
    ("lastreleasedphysicalkey_only", .lastPhysicalKey false .released),
    ("lastsentevent_not", .lastSentEvent true),
    ("lastsentevent_only", .lastSentEvent false),
    ("pressingphysicalkeys_greaterthan", .pressingPhysicalKeys true),
    ("pressingphysicalkeys_lessthan", .pressingPhysicalKeys false)]

def describe (tag : String) : Option Meaning := tags.lookup tag

/-- The arguments of an element. -/
def arguments (element : Tree) : List (List Char) :=
  Text.tokens ',' (Text.removeWhitespaces element.data).toList

/-- What a name of the listing is prefixed with. -/
def Listing.scope : Listing → String
  | .application => "ApplicationType::"
  | .windowName => "WindowName::"
  | .uiElementRole => "UIElementRole::"
  | .inputSource => "InputSource::"
  | .config => "ConfigIndex::"

def Listing.Has (state : FilterState) : Listing → Nat → Prop
  | .application, value => value ∈ state.workspaceAppIds
  | .windowName, value => value ∈ state.workspaceWindowNameIds
  | .uiElementRole, value => value = state.workspaceUIElementRoleId
  | .inputSource, value => value ∈ state.workspaceInputSourceIds
  | .config, value => state.isEnabled value = true

def Counter.Holds (flagStatus : FlagStatus) : Counter → List ModifierFlag → Prop
  | .on, flags => flagStatus.isOn flags = true
  | .locked, flags => flagStatus.isLocked flags = true
  | .stuck, flags => flagStatus.isStuck flags = true

def Direction.key (state : FilterState) : Direction → LastPhysicalKey
  | .pressed => state.lastPressedPhysicalKey
  | .released => state.lastReleasedPhysicalKey

/-- The type that a name with its own scope has. -/
def datatype (token : List Char) : Nat :=
  Utilities.getDatatype (Text.normalizeIdentifier (.ofList token))

def isEventType (token : List Char) : Bool := datatype token = Bridge.DATATYPE_EVENTTYPE

section

variable (symbolMap : SymbolMap)

/-- ANY stands for every product and location. -/
structure NamesAny : Prop where
  product : symbolMap.get "DeviceProduct::ANY" = .ok 0
  location : symbolMap.get "DeviceLocation::ANY" = .ok 0

/-- A part of a device is any, is omitted or is the one that is named. -/
def Fits (part : Option (List Char)) (value : Nat) : Prop :=
  ∀ token ∈ part, Names symbolMap token 0 ∨ Names symbolMap token value

structure Describes (group : DeviceGroup) (device : DeviceIdentifier) : Prop where
  vendor : Names symbolMap group.vendor device.vendor
  product : Fits symbolMap group.product device.product
  location : Fits symbolMap group.location device.locationId

def Regular (args : List (List Char)) : Prop :=
  ∃ groups : List DeviceGroup, args = groups.flatMap DeviceGroup.tokens

variable (state : FilterState) (args : List (List Char))

def Listed (isnot : Bool) (matched : Prop) : Prop := if isnot then matched else ¬ matched

/-- The bound is not passed. -/
def Bounded (greaterThan : Bool) (current bound : Nat) : Prop :=
  if greaterThan then current ≤ bound else bound ≤ current

/-- A filter with the arguments blocks in the state. -/
def Blocks : Meaning → Prop
  | .listing isnot listing =>
      Listed isnot (∃ token ∈ args, ∃ value,
        Names symbolMap (listing.scope.toList ++ token) value ∧ listing.Has state value)
  | .device isnot =>
      Listed isnot (∃ groups : List DeviceGroup, args = groups.flatMap DeviceGroup.tokens ∧
        ∃ group ∈ groups, Describes symbolMap group state.deviceIdentifier)
  | .modifier isnot counter =>
      Listed isnot (∃ arg ∈ args, ∃ flags : List ModifierFlag, flags ≠ [] ∧
        List.Forall₂ (fun token flag => Names symbolMap token flag.value) (Text.tokens '|' arg)
          flags ∧ counter.Holds state.flagStatus flags)
  | .lastPhysicalKey isnot direction =>
      let last := direction.key state
      last.datatype ≠ Bridge.DATATYPE_NONE ∧
        Listed isnot (∃ token ∈ args, datatype token = last.datatype ∧
          Names symbolMap token last.value)
  | .lastSentEvent isnot =>
      let last := state.lastSentEvent
      last.datatype ≠ Bridge.DATATYPE_NONE ∧
        Listed isnot (∃ item ∈ qualified isEventType args, datatype item.1 = last.datatype ∧
          Names symbolMap item.1 last.value ∧ ∀ event ∈ item.2,
            Names symbolMap event last.eventtype.value ∨ Names symbolMap event 0)
  | .elapsedTime greaterThan direction =>
      let last := direction.key state
      last.datatype ≠ Bridge.DATATYPE_NONE ∧
        ∃ token ∈ args, datatype token = Bridge.DATATYPE_MILLISECOND ∧
          ∃ bound, Names symbolMap token bound ∧ Bounded greaterThan last.milliseconds bound
  | .pressingPhysicalKeys greaterThan =>
      ∃ token ∈ args.getLast?, ∃ bound,
        Names symbolMap ("Count::RawValue::".toList ++ token) bound ∧
          Bounded greaterThan state.pressingPhysicalKeysCountAll bound

end

open FilterVector (NamesOr)

variable {symbolMap : SymbolMap}

theorem names_unique {token : List Char} {a b : Nat} (first : Names symbolMap token a)
    (second : Names symbolMap token b) : a = b := by
  obtain ⟨v, found, rfl⟩ := first
  obtain ⟨w, again, rfl⟩ := second
  rw [found] at again
  rw [Except.ok.inj again]

theorem fits_iff {any : String} {part : Option (List Char)} {named value : Nat}
    (zero : symbolMap.get any = .ok 0) (names : NamesOr symbolMap any part named) :
    Fits symbolMap part value ↔ named = 0 ∨ value = named := by
  cases part with
  | none =>
      obtain ⟨v, found, rfl⟩ := names
      rw [zero] at found
      obtain rfl := Except.ok.inj found
      exact ⟨fun _ => .inl rfl, fun _ _ member => (Option.not_mem_none _ member).elim⟩
  | some token =>
      show (∀ other ∈ some token, _) ↔ _
      constructor
      · intro fits
        rcases fits token rfl with any | same
        · exact .inl (names_unique names any)
        · exact .inr (names_unique same names)
      · intro same other member
        obtain rfl := Option.mem_some.1 member
        rcases same with rfl | rfl
        · exact .inl names
        · exact .inr names

theorem isEqual_iff {identifier v : DeviceIdentifier} :
    identifier.isEqual v = true ↔ identifier.vendor = v.vendor ∧
      (v.product = 0 ∨ identifier.product = v.product) ∧
      (v.locationId = 0 ∨ identifier.locationId = v.locationId) := by
  simp only [DeviceIdentifier.isEqual, DeviceProduct.ANY, DeviceLocation.ANY]
  grind

theorem describes_iff {group : DeviceGroup} {v device : DeviceIdentifier}
    (any : NamesAny symbolMap) (means : group.Means symbolMap v) :
    Describes symbolMap group device ↔ device.isEqual v = true := by
  rw [isEqual_iff, ← fits_iff any.product means.product, ← fits_iff any.location means.location]
  constructor
  · intro describes
    exact ⟨names_unique describes.vendor means.vendor, describes.product, describes.location⟩
  · intro ⟨vendor, product, location⟩
    exact ⟨vendor ▸ means.vendor, product, location⟩

theorem scan_iff {Target : Type} {isnot : Bool} {matched : Target → Bool}
    {targets : List Target} :
    RemapFilter.scan isnot matched targets = true ↔
      Listed isnot (∃ target ∈ targets, matched target = true) := by
  induction targets with
  | nil => cases isnot <;> simp [RemapFilter.scan, Listed]
  | cons target targets ih =>
      rw [RemapFilter.scan, List.exists_mem_cons_iff]
      by_cases here : matched target = true
      · rw [if_pos here]
        cases isnot <;> simp [Listed, here]
      · rw [if_neg here, ih]
        simp [Listed, here]

theorem listed_congr {isnot : Bool} {first second : Prop} (same : first ↔ second) :
    Listed isnot first ↔ Listed isnot second := by
  rw [Listed, Listed, same]

/-- The type of the filter in the bridge. -/
def Meaning.filterType : Meaning → Nat
  | .listing true .application => Bridge.FILTERTYPE_APPLICATION_NOT
  | .listing false .application => Bridge.FILTERTYPE_APPLICATION_ONLY
  | .listing true .windowName => Bridge.FILTERTYPE_WINDOWNAME_NOT
  | .listing false .windowName => Bridge.FILTERTYPE_WINDOWNAME_ONLY
  | .listing true .uiElementRole => Bridge.FILTERTYPE_UIELEMENTROLE_NOT
  | .listing false .uiElementRole => Bridge.FILTERTYPE_UIELEMENTROLE_ONLY
  | .listing true .inputSource => Bridge.FILTERTYPE_INPUTSOURCE_NOT
  | .listing false .inputSource => Bridge.FILTERTYPE_INPUTSOURCE_ONLY
  | .listing true .config => Bridge.FILTERTYPE_CONFIG_NOT
  | .listing false .config => Bridge.FILTERTYPE_CONFIG_ONLY
  | .device true => Bridge.FILTERTYPE_DEVICE_NOT
  | .device false => Bridge.FILTERTYPE_DEVICE_ONLY
  | .modifier true .on => Bridge.FILTERTYPE_MODIFIER_NOT
  | .modifier false .on => Bridge.FILTERTYPE_MODIFIER_ONLY
  | .modifier true .locked => Bridge.FILTERTYPE_MODIFIER_LOCKED_NOT
  | .modifier false .locked => Bridge.FILTERTYPE_MODIFIER_LOCKED_ONLY
  | .modifier true .stuck => Bridge.FILTERTYPE_MODIFIER_STUCK_NOT
  | .modifier false .stuck => Bridge.FILTERTYPE_MODIFIER_STUCK_ONLY
  | .lastPhysicalKey true .pressed => Bridge.FILTERTYPE_LASTPRESSEDPHYSICALKEY_NOT
  | .lastPhysicalKey false .pressed => Bridge.FILTERTYPE_LASTPRESSEDPHYSICALKEY_ONLY
  | .lastPhysicalKey true .released => Bridge.FILTERTYPE_LASTRELEASEDPHYSICALKEY_NOT
  | .lastPhysicalKey false .released => Bridge.FILTERTYPE_LASTRELEASEDPHYSICALKEY_ONLY
  | .lastSentEvent true => Bridge.FILTERTYPE_LASTSENTEVENT_NOT
  | .lastSentEvent false => Bridge.FILTERTYPE_LASTSENTEVENT_ONLY
  | .elapsedTime true .pressed => Bridge.FILTERTYPE_ELAPSEDTIMESINCELASTPRESSED_GREATERTHAN
  | .elapsedTime false .pressed => Bridge.FILTERTYPE_ELAPSEDTIMESINCELASTPRESSED_LESSTHAN
  | .elapsedTime true .released => Bridge.FILTERTYPE_ELAPSEDTIMESINCELASTRELEASED_GREATERTHAN
  | .elapsedTime false .released => Bridge.FILTERTYPE_ELAPSEDTIMESINCELASTRELEASED_LESSTHAN
  | .pressingPhysicalKeys true => Bridge.FILTERTYPE_PRESSINGPHYSICALKEYS_GREATERTHAN
  | .pressingPhysicalKeys false => Bridge.FILTERTYPE_PRESSINGPHYSICALKEYS_LESSTHAN

/-- What the arguments of the element are prefixed with. -/
def Meaning.scope : Meaning → String
  | .listing _ names => names.scope
  | .pressingPhysicalKeys _ => "Count::RawValue::"
  | _ => ""

def Meaning.isDevice : Meaning → Bool
  | .device _ => true
  | _ => false

theorem isDevice_filterType (meaning : Meaning) :
    FilterVector.isDevice meaning.filterType = meaning.isDevice := by
  cases meaning with
  | listing isnot names => cases isnot <;> cases names <;> rfl
  | modifier isnot counter => cases isnot <;> cases counter <;> rfl
  | lastPhysicalKey isnot direction => cases isnot <;> cases direction <;> rfl
  | elapsedTime greaterThan direction => cases greaterThan <;> cases direction <;> rfl
  | device isnot => cases isnot <;> rfl
  | lastSentEvent isnot => cases isnot <;> rfl
  | pressingPhysicalKeys greaterThan => cases greaterThan <;> rfl

/-- The table of the compiler says the same as the one of the tags. -/
theorem typeOf_eq (tag : String) :
    FilterVector.typeOf tag = (describe tag).map fun meaning =>
      (meaning.filterType, meaning.scope) := by
  rw [describe, ← Related.lookup_map, FilterVector.typeOf]
  simp only [tags, List.map, Meaning.filterType, Meaning.scope, Listing.scope]

section

variable {state : FilterState} {filter : RemapFilter} {args : List (List Char)}

/-- The names of a filter are compared with what they mean. -/
theorem blocks_listing {isnot : Bool} {listing : Listing}
    (type : filter.type = (Meaning.listing isnot listing).filterType)
    (means : List.Forall₂
      (fun token value => Names symbolMap (listing.scope.toList ++ token) value)
      args filter.values) :
    filter.isblocked state = true ↔ Blocks symbolMap state args (.listing isnot listing) := by
  obtain ⟨_, targets⟩ := filter
  subst type
  have scanned : ∃ matched : Nat → Bool,
      (∀ value, matched value = true ↔ listing.Has state value) ∧
      RemapFilter.isblocked ⟨(Meaning.listing isnot listing).filterType, targets⟩ state =
        RemapFilter.scan isnot matched
          (RemapFilter.values ⟨(Meaning.listing isnot listing).filterType, targets⟩) := by
    cases listing with
    | application =>
        exact ⟨(· ∈ state.workspaceAppIds), fun _ =>
          decide_eq_true_iff, by cases isnot <;> rfl⟩
    | windowName =>
        exact ⟨(· ∈ state.workspaceWindowNameIds), fun _ => decide_eq_true_iff,
          by cases isnot <;> rfl⟩
    | uiElementRole =>
        exact ⟨(· = state.workspaceUIElementRoleId), fun _ => decide_eq_true_iff,
          by cases isnot <;> rfl⟩
    | inputSource =>
        exact ⟨(· ∈ state.workspaceInputSourceIds), fun _ => decide_eq_true_iff,
          by cases isnot <;> rfl⟩
    | config => exact ⟨state.isEnabled, fun _ => Iff.rfl, by cases isnot <;> rfl⟩
  obtain ⟨matched, agree, scanned⟩ := scanned
  rw [scanned, scan_iff, Blocks]
  apply listed_congr
  symm
  apply Related.exists_iff _ means
  intro token value named
  rw [agree]
  constructor
  · intro ⟨other, same, has⟩
    rwa [names_unique named same]
  · intro has
    exact ⟨value, named, has⟩

theorem blocks_device {isnot : Bool} (any : NamesAny symbolMap)
    (type : filter.type = (Meaning.device isnot).filterType) (regular : Regular args)
    (means : ∀ groups : List DeviceGroup, args = groups.flatMap DeviceGroup.tokens →
      List.Forall₂ (DeviceGroup.Means symbolMap) groups (DeviceFilter.targets filter)) :
    filter.isblocked state = true ↔ Blocks symbolMap state args (.device isnot) := by
  obtain ⟨_, targets⟩ := filter
  subst type
  have scanned : RemapFilter.isblocked ⟨(Meaning.device isnot).filterType, targets⟩ state =
      RemapFilter.scan isnot state.deviceIdentifier.isEqual
        (DeviceFilter.targets ⟨(Meaning.device isnot).filterType, targets⟩) := by
    cases isnot <;> rfl
  rw [scanned, scan_iff, Blocks]
  apply listed_congr
  have same (groups : List DeviceGroup) (made : args = groups.flatMap DeviceGroup.tokens) :=
    Related.exists_iff (p := fun group => Describes symbolMap group state.deviceIdentifier)
      (fun _ _ own => describes_iff any own) (means groups made)
  constructor
  · intro matched
    obtain ⟨groups, made⟩ := regular
    exact ⟨groups, made, (same groups made).2 matched⟩
  · intro ⟨groups, made, matched⟩
    exact (same groups made).1 matched

theorem names_flags_unique {tokens : List (List Char)} {first second : List ModifierFlag}
    (one : List.Forall₂ (fun token flag => Names symbolMap token flag.value) tokens first)
    (two : List.Forall₂ (fun token flag => Names symbolMap token flag.value) tokens second) :
    first = second := by
  refine Relator.RightUnique.forall₂ ?_ one two
  intro token a b left right
  cases a
  cases b
  exact congrArg ModifierFlag.mk (names_unique left right)

theorem blocks_modifier {isnot : Bool} {counter : Counter}
    (type : filter.type = (Meaning.modifier isnot counter).filterType)
    (means : List.Forall₂ (List.Forall₂ fun token flag => Names symbolMap token flag.value)
      ((args.map (Text.tokens '|')).filter (!·.isEmpty))
      ((ModifierFilter.targets filter).filter (!·.isEmpty))) :
    filter.isblocked state = true ↔ Blocks symbolMap state args (.modifier isnot counter) := by
  obtain ⟨_, targets⟩ := filter
  subst type
  have scanned :
      RemapFilter.isblocked ⟨(Meaning.modifier isnot counter).filterType, targets⟩ state =
      RemapFilter.scan isnot
        (ModifierFilter.matched ⟨(Meaning.modifier isnot counter).filterType, targets⟩ state)
        (ModifierFilter.targets ⟨(Meaning.modifier isnot counter).filterType, targets⟩) := by
    cases isnot <;> cases counter <;> rfl
  have matched_iff (flags : List ModifierFlag) :
      ModifierFilter.matched ⟨(Meaning.modifier isnot counter).filterType, targets⟩
      state flags =
        true ↔ flags ≠ [] ∧ counter.Holds state.flagStatus flags := by
    cases flags with
    | nil => simp [ModifierFilter.matched]
    | cons flag flags =>
        rw [ModifierFilter.matched, if_neg (by simp)]
        cases isnot <;> cases counter <;>
          simp [Meaning.filterType, Counter.Holds, Bridge.FILTERTYPE_MODIFIER_NOT,
            Bridge.FILTERTYPE_MODIFIER_ONLY, Bridge.FILTERTYPE_MODIFIER_LOCKED_NOT,
            Bridge.FILTERTYPE_MODIFIER_LOCKED_ONLY, Bridge.FILTERTYPE_MODIFIER_STUCK_NOT,
            Bridge.FILTERTYPE_MODIFIER_STUCK_ONLY]
  rw [scanned, scan_iff, Blocks]
  apply listed_congr
  -- Empty targets are never matched, and an argument without flags names none.
  have same := Related.exists_iff (p := fun tokens => ∃ flags : List ModifierFlag,
      flags ≠ [] ∧ List.Forall₂ (fun token flag => Names symbolMap token flag.value)
      tokens flags ∧
        counter.Holds state.flagStatus flags)
    (q := fun flags => flags ≠ [] ∧ counter.Holds state.flagStatus flags) (by
      intro tokens flags named
      constructor
      · intro ⟨other, nonempty, again, holds⟩
        rw [names_flags_unique named again]
        exact ⟨nonempty, holds⟩
      · intro ⟨nonempty, holds⟩
        exact ⟨flags, nonempty, named, holds⟩) means
  simp only [matched_iff]
  constructor
  · intro ⟨flags, member, nonempty, holds⟩
    obtain ⟨tokens, inside, found⟩ := same.2
      ⟨flags, List.mem_filter.2 ⟨member, by simpa using nonempty⟩, nonempty, holds⟩
    obtain ⟨arg, written, rfl⟩ := List.mem_map.1 (List.mem_filter.1 inside).1
    exact ⟨arg, written, found⟩
  · intro ⟨arg, written, flags, nonempty, named, holds⟩
    have some_token : Text.tokens '|' arg ≠ [] := by
      intro none
      rw [none] at named
      cases named
      exact nonempty rfl
    obtain ⟨target, inside, found⟩ := same.1 ⟨Text.tokens '|' arg,
      List.mem_filter.2 ⟨List.mem_map_of_mem written, by simpa using some_token⟩,
      flags, nonempty, named, holds⟩
    exact ⟨target, (List.mem_filter.1 inside).1, found⟩

/-- A target with the datatype and the value of a name. -/
def Typed (symbolMap : SymbolMap) (token : List Char) (target : Nat × Nat) : Prop :=
  target.1 = datatype token ∧ Names symbolMap token target.2

theorem blocks_lastPhysicalKey {isnot : Bool} {direction : Direction}
    (type : filter.type = (Meaning.lastPhysicalKey isnot direction).filterType)
    (means : List.Forall₂ (Typed symbolMap) args filter.pairs) :
    filter.isblocked state = true ↔
      Blocks symbolMap state args (.lastPhysicalKey isnot direction) := by
  obtain ⟨_, targets⟩ := filter
  subst type
  have scanned : RemapFilter.isblocked ⟨(Meaning.lastPhysicalKey isnot direction).filterType,
      targets⟩ state =
      if (direction.key state).datatype = Bridge.DATATYPE_NONE then false
      else RemapFilter.scan isnot
        (fun target => target.1 = (direction.key state).datatype &&
          target.2 = (direction.key state).value)
        (RemapFilter.pairs
          ⟨(Meaning.lastPhysicalKey isnot direction).filterType, targets⟩) := by
    cases isnot <;> cases direction <;> rfl
  rw [scanned, Blocks]
  split
  · next none => exact ⟨nofun, fun blocks => (blocks.1 none).elim⟩
  · next known =>
      rw [scan_iff, and_iff_right known]
      apply listed_congr
      symm
      apply Related.exists_iff _ means
      intro token target typed
      rw [Bool.and_eq_true, decide_eq_true_iff, decide_eq_true_iff, typed.1]
      apply and_congr_right
      intro _
      constructor
      · intro named
        exact names_unique typed.2 named
      · intro same
        exact same ▸ typed.2

theorem blocks_elapsedTime {greaterThan : Bool} {direction : Direction}
    (type : filter.type = (Meaning.elapsedTime greaterThan direction).filterType)
    (means : List.Forall₂ (Typed symbolMap) args filter.pairs) :
    filter.isblocked state = true ↔
      Blocks symbolMap state args (.elapsedTime greaterThan direction) := by
  obtain ⟨_, targets⟩ := filter
  subst type
  have compared : RemapFilter.isblocked ⟨(Meaning.elapsedTime greaterThan direction).filterType,
      targets⟩ state = true ↔
      (direction.key state).datatype ≠ Bridge.DATATYPE_NONE ∧
        ∃ target ∈ RemapFilter.pairs ⟨(Meaning.elapsedTime greaterThan direction).filterType,
            targets⟩,
          target.1 = Bridge.DATATYPE_MILLISECOND ∧
            Bounded greaterThan (direction.key state).milliseconds target.2 := by
    have unfolded : RemapFilter.isblocked ⟨(Meaning.elapsedTime greaterThan direction).filterType,
        targets⟩ state =
        if (direction.key state).datatype = Bridge.DATATYPE_NONE then false
        else (RemapFilter.pairs ⟨(Meaning.elapsedTime greaterThan direction).filterType,
            targets⟩).any fun target => target.1 = Bridge.DATATYPE_MILLISECOND &&
          (greaterThan && target.2 ≥ (direction.key state).milliseconds ||
            !greaterThan && target.2 ≤ (direction.key state).milliseconds) := by
      cases greaterThan <;> cases direction <;> rfl
    rw [unfolded]
    split
    · next none => exact ⟨nofun, fun blocks => (blocks.1 none).elim⟩
    · next known =>
        rw [and_iff_right known, List.any_eq_true]
        cases greaterThan <;> simp [Bounded]
  rw [compared, Blocks]
  apply and_congr_right
  intro _
  symm
  apply Related.exists_iff _ means
  intro token target typed
  rw [typed.1]
  apply and_congr_right
  intro _
  constructor
  · intro ⟨bound, named, bounded⟩
    rwa [names_unique typed.2 named]
  · intro bounded
    exact ⟨target.2, typed.2, bounded⟩

/-- The same of a name and of the event type that may be behind it. -/
structure TypedEvent (symbolMap : SymbolMap) (source : List Char × Option (List Char))
    (item : LastSentEventFilter.Item) : Prop where
  dataType : item.dataType = datatype source.1
  value : Names symbolMap source.1 item.value
  eventType : source.2.elim (item.eventType = .NONE) fun event =>
    Names symbolMap event item.eventType.value

theorem TypedEvent.takes_iff {source : List Char × Option (List Char)}
    {item : LastSentEventFilter.Item} (typed : TypedEvent symbolMap source item)
    (eventtype : EventType) :
    (∀ event ∈ source.2, Names symbolMap event eventtype.value ∨ Names symbolMap event 0) ↔
      item.eventType = eventtype ∨ item.eventType = .NONE := by
  obtain ⟨token, event⟩ := source
  have named := typed.eventType
  cases event with
  | none => exact ⟨fun _ => .inr named, fun _ _ member => (Option.not_mem_none _ member).elim⟩
  | some event =>
      change Names symbolMap event item.eventType.value at named
      constructor
      · intro all
        rcases all event rfl with same | zero
        · exact .inl (congrArg EventType.mk (names_unique named same))
        · exact .inr (congrArg EventType.mk (names_unique named zero))
      · intro either other member
        obtain rfl := Option.mem_some.1 member
        rcases either with same | zero
        · exact .inl (same ▸ named)
        · exact .inr (by rwa [zero] at named)

theorem blocks_lastSentEvent {isnot : Bool}
    (type : filter.type = (Meaning.lastSentEvent isnot).filterType)
    (means : List.Forall₂ (TypedEvent symbolMap) (qualified isEventType args)
      (LastSentEventFilter.items filter)) :
    filter.isblocked state = true ↔ Blocks symbolMap state args (.lastSentEvent isnot) := by
  obtain ⟨_, targets⟩ := filter
  subst type
  have scanned :
      RemapFilter.isblocked ⟨(Meaning.lastSentEvent isnot).filterType, targets⟩ state =
      if state.lastSentEvent.datatype = Bridge.DATATYPE_NONE then false
      else RemapFilter.scan isnot (fun target =>
          target.dataType = state.lastSentEvent.datatype &&
            target.value = state.lastSentEvent.value &&
              (target.eventType = state.lastSentEvent.eventtype || target.eventType = .NONE))
        (LastSentEventFilter.items ⟨(Meaning.lastSentEvent isnot).filterType, targets⟩) := by
    cases isnot <;> rfl
  rw [scanned, Blocks]
  split
  · next none => exact ⟨nofun, fun blocks => (blocks.1 none).elim⟩
  · next known =>
      rw [scan_iff, and_iff_right known]
      apply listed_congr
      symm
      apply Related.exists_iff _ means
      intro source item typed
      rw [typed.takes_iff, ← typed.dataType, Bool.and_eq_true, Bool.and_eq_true, Bool.or_eq_true]
      simp only [decide_eq_true_iff, and_assoc]
      apply and_congr_right
      intro _
      apply and_congr_left
      intro _
      constructor
      · intro named
        exact names_unique typed.value named
      · intro same
        exact same ▸ typed.value

/-- Only the last of the names counts. -/
theorem blocks_pressingPhysicalKeys {greaterThan : Bool} (written : args ≠ [])
    (type : filter.type = (Meaning.pressingPhysicalKeys greaterThan).filterType)
    (means : List.Forall₂ (fun token value =>
      Names symbolMap ("Count::RawValue::".toList ++ token) value) args filter.values) :
    filter.isblocked state = true ↔
      Blocks symbolMap state args (.pressingPhysicalKeys greaterThan) := by
  obtain ⟨_, targets⟩ := filter
  subst type
  have compared : RemapFilter.isblocked ⟨(Meaning.pressingPhysicalKeys greaterThan).filterType,
      targets⟩ state = true ↔ Bounded greaterThan state.pressingPhysicalKeysCountAll
        (PressingPhysicalKeysFilter.count
          ⟨(Meaning.pressingPhysicalKeys greaterThan).filterType, targets⟩) := by
    have unfolded : RemapFilter.isblocked ⟨(Meaning.pressingPhysicalKeys greaterThan).filterType,
        targets⟩ state = PressingPhysicalKeysFilter.isblocked
          ⟨(Meaning.pressingPhysicalKeys greaterThan).filterType, targets⟩ state := by
      cases greaterThan <;> rfl
    rw [unfolded]
    cases greaterThan with
    | true =>
        rw [PressingPhysicalKeysFilter.isblocked, Bounded]
        simp [Bridge.FILTERTYPE_PRESSINGPHYSICALKEYS_LESSTHAN, Meaning.filterType,
          Bridge.FILTERTYPE_PRESSINGPHYSICALKEYS_GREATERTHAN]
    | false => exact decide_eq_true_iff
  rw [compared, PressingPhysicalKeysFilter.count, Related.foldl_last, Blocks]
  cases own : args.getLast? with
  | none => exact (written (List.getLast?_eq_none_iff.1 own)).elim
  | some token =>
      obtain ⟨value, last, named⟩ := Related.exists_getLast means own
      rw [last]
      simp only [Option.getD_some, Option.mem_some_iff, exists_eq_left']
      constructor
      · intro bounded
        exact ⟨value, named, bounded⟩
      · intro ⟨bound, again, bounded⟩
        rwa [names_unique named again]

end

end FilterMeaning

end Karabiner
