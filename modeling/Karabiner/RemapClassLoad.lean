import Karabiner.KeyCode
import Karabiner.StrlcpyUtf8
import Karabiner.VectorBuffer

set_option autoImplicit false

/- RemapClassManager::load_remapclasses_initialize_vector and what it constructs. A
pointer into the vector is the index of a word; remap functions and filters keep the
words they are constructed from. -/
namespace Karabiner

namespace Bridge

def DATATYPE_OPTION : Nat := 12
def DATATYPE_EVENTTYPE : Nat := 18
def REMAPTYPE_NONE : Nat := 19
def REMAPTYPE_SIMULTANEOUSKEYPRESSES : Nat := 36
def REMAPTYPE_END : Nat := 41
def FILTERTYPE_NONE : Nat := 42
def FILTERTYPE_APPLICATION_NOT : Nat := 43
def FILTERTYPE_APPLICATION_ONLY : Nat := 44
def FILTERTYPE_WINDOWNAME_NOT : Nat := 45
def FILTERTYPE_WINDOWNAME_ONLY : Nat := 46
def FILTERTYPE_UIELEMENTROLE_NOT : Nat := 47
def FILTERTYPE_UIELEMENTROLE_ONLY : Nat := 48
def FILTERTYPE_CONFIG_NOT : Nat := 49
def FILTERTYPE_CONFIG_ONLY : Nat := 50
def FILTERTYPE_DEVICE_NOT : Nat := 51
def FILTERTYPE_DEVICE_ONLY : Nat := 52
def FILTERTYPE_INPUTSOURCE_NOT : Nat := 57
def FILTERTYPE_INPUTSOURCE_ONLY : Nat := 58
def FILTERTYPE_LASTSENTEVENT_NOT : Nat := 63
def FILTERTYPE_LASTSENTEVENT_ONLY : Nat := 64
def FILTERTYPE_PRESSINGPHYSICALKEYS_GREATERTHAN : Nat := 71
def FILTERTYPE_PRESSINGPHYSICALKEYS_LESSTHAN : Nat := 72
def FILTERTYPE_END : Nat := 73
def STATUSMESSAGE : Nat := 80
def MODIFIERNAME : Nat := 81
def VK_MODIFIER : Nat := 82
def VK_CONFIG : Nat := 83
def VK_CHANGE_INPUTSOURCE : Nat := 84
def VK_OPEN_URL : Nat := 85

def USERCLIENT_STATUS_MESSAGE_MAXLEN : Nat := 128
def USERCLIENT_NOTIFICATION_TYPE_CHANGE_INPUT_SOURCE : Nat := 3
def USERCLIENT_NOTIFICATION_TYPE_OPEN_URL : Nat := 4

end Bridge

def Option_IGNORE_PASSTHROUGH : Nat := 1

def MAX_CONFIG_COUNT : Nat := 10000
def MAX_ALLOCATION_COUNT : Nat := 8 * 1024 * 1024 / 4

open VectorBuffer (Decode)

structure RemapFunc where
  type : Nat
  parameters : List (UInt32 × UInt32) := []
  ignorePassThrough : Bool := false
  deriving DecidableEq, Repr

namespace RemapFunc

/-- The loop of RemapFuncFactory::create over the parameters, which it reads in pairs. -/
def addAll (buffer : VectorBuffer) (vec length : Nat) : Nat → Nat → RemapFunc →
    Decode RemapFunc
  | 0, _, p => pure p
  | fuel + 1, i, p =>
      if i + 1 ≥ length then pure p
      else do
        let datatype ← buffer.readWord (vec + i)
        let newval ← buffer.readWord (vec + (i + 1))
        if datatype.toNat = Bridge.DATATYPE_OPTION ∧ newval.toNat = Option_IGNORE_PASSTHROUGH then
          addAll buffer vec length fuel (i + 2) { p with ignorePassThrough := true }
        else
          addAll buffer vec length fuel (i + 2)
            { p with parameters := p.parameters ++ [(datatype, newval)] }

/-- RemapFuncFactory::create. Its switch has a case for every type between
BRIDGE_REMAPTYPE_NONE and BRIDGE_REMAPTYPE_END. -/
def create (buffer : VectorBuffer) (vec length : Nat) : Decode (Option RemapFunc) :=
  if length = 0 then pure none
  else do
    let type ← buffer.readWord vec
    if Bridge.REMAPTYPE_NONE < type.toNat ∧ type.toNat < Bridge.REMAPTYPE_END then
      some <$> addAll buffer vec length length 1 { type := type.toNat }
    else pure none

end RemapFunc

structure RemapFilter where
  type : Nat
  targets : List (List UInt32) := []
  deriving DecidableEq, Repr

namespace RemapFilter

def readWords (buffer : VectorBuffer) (p : Nat) : Nat → Decode (List UInt32)
  | 0 => pure []
  | n + 1 => do
      let word ← buffer.readWord p
      (word :: ·) <$> readWords buffer (p + 1) n

/-- The constructors that read their targets in groups of one, two or three words. -/
def readGroups (buffer : VectorBuffer) (group vec length : Nat) :
    Nat → Nat → List (List UInt32) → Decode (List (List UInt32))
  | 0, _, targets => pure targets
  | fuel + 1, i, targets =>
      if i + group ≤ length then do
        let target ← readWords buffer (vec + i) group
        readGroups buffer group vec length fuel (i + group) (targets ++ [target])
      else pure targets

/-- LastSentEventFilter: a pair may be followed by the event type it is restricted to. -/
def readLastSentEvents (buffer : VectorBuffer) (vec length : Nat) :
    Nat → Nat → List (List UInt32) → Decode (List (List UInt32))
  | 0, _, targets => pure targets
  | fuel + 1, i, targets =>
      if i + 1 < length then do
        let datatype ← buffer.readWord (vec + i)
        let newval ← buffer.readWord (vec + (i + 1))
        if i + 3 < length then do
          let next ← buffer.readWord (vec + (i + 2))
          if next.toNat = Bridge.DATATYPE_EVENTTYPE then do
            let eventType ← buffer.readWord (vec + (i + 3))
            readLastSentEvents buffer vec length fuel (i + 4)
              (targets ++ [[datatype, newval, eventType]])
          else
            readLastSentEvents buffer vec length fuel (i + 2) (targets ++ [[datatype, newval]])
        else
          readLastSentEvents buffer vec length fuel (i + 2) (targets ++ [[datatype, newval]])
      else pure targets

/-- How many words make a target of the filter. -/
def groupOf (type : Nat) : Nat :=
  if type ∈ [Bridge.FILTERTYPE_APPLICATION_NOT, Bridge.FILTERTYPE_APPLICATION_ONLY,
      Bridge.FILTERTYPE_CONFIG_NOT, Bridge.FILTERTYPE_CONFIG_ONLY,
      Bridge.FILTERTYPE_INPUTSOURCE_NOT, Bridge.FILTERTYPE_INPUTSOURCE_ONLY,
      Bridge.FILTERTYPE_PRESSINGPHYSICALKEYS_GREATERTHAN,
      Bridge.FILTERTYPE_PRESSINGPHYSICALKEYS_LESSTHAN,
      Bridge.FILTERTYPE_WINDOWNAME_NOT, Bridge.FILTERTYPE_WINDOWNAME_ONLY,
      Bridge.FILTERTYPE_UIELEMENTROLE_NOT, Bridge.FILTERTYPE_UIELEMENTROLE_ONLY] then 1
  else if type = Bridge.FILTERTYPE_DEVICE_NOT ∨ type = Bridge.FILTERTYPE_DEVICE_ONLY then 3
  else 2

/-- RemapFilterFactory::create. Its switch has a case for every type between
BRIDGE_FILTERTYPE_NONE and BRIDGE_FILTERTYPE_END. -/
def create (buffer : VectorBuffer) (vec length : Nat) : Decode (Option RemapFilter) :=
  if length = 0 then pure none
  else do
    let type ← buffer.readWord vec
    let type := type.toNat
    let vec := vec + 1
    let length := length - 1
    if Bridge.FILTERTYPE_NONE < type ∧ type < Bridge.FILTERTYPE_END then
      if type = Bridge.FILTERTYPE_LASTSENTEVENT_NOT ∨
          type = Bridge.FILTERTYPE_LASTSENTEVENT_ONLY then do
        let targets ← readLastSentEvents buffer vec length length 0 []
        pure (some { type, targets })
      else do
        let targets ← readGroups buffer (groupOf type) vec length length 0 []
        pure (some { type, targets })
    else pure none

end RemapFilter

structure RemapClass.Item where
  processor : Option RemapFunc
  filters : List RemapFilter := []
  deriving DecidableEq, Repr

/-- An object of the class; the identity stands for its address. -/
structure RemapClass where
  identity : Nat
  items : List RemapClass.Item := []
  statusmessage : Option (List UInt8) := none
  enabled : Bool := false
  isSimultaneouskeypresses : Bool := false
  configindex : Nat
  deriving DecidableEq, Repr

structure ModifierName where
  modifierFlag : ModifierFlag
  name : List UInt8
  deriving DecidableEq, Repr

structure VkConfig where
  remapclass : Nat
  keycodeToggle : KeyCode
  keycodeForceOn : KeyCode
  keycodeForceOff : KeyCode
  keycodeSyncKeydownup : KeyCode
  deriving DecidableEq, Repr

structure VkDefinedInUserspace where
  remapclass : Nat
  keycode : KeyCode
  notificationType : Nat
  deriving DecidableEq, Repr

/-- What a load writes: the manager's lists, the tables that the constructor of RemapClass
registers in, and the objects that are alive. Lists of pointers hold identities. -/
structure RemapClassManager where
  remapclasses : List (Option RemapClass) := []
  enabledRemapclasses : List Nat := []
  prepareTargetItems : List (Nat × Nat) := []
  pairs : Pairs := .normal
  virtualModifierNames : List ModifierName := []
  vkConfig : List VkConfig := []
  vkDefinedInUserspace : List VkDefinedInUserspace := []
  allocationCount : Nat := 0
  live : List Nat := []
  nextIdentity : Nat := 0

namespace RemapClass

open Bridge

/-- The state after an entry, and whether the constructor returns there. -/
structure Progress where
  remapclass : RemapClass
  manager : RemapClassManager
  returns : Bool

@[reducible] def Progress.next (remapclass : RemapClass) (manager : RemapClassManager) : Progress :=
  ⟨remapclass, manager, false⟩

@[reducible] def Progress.stop (remapclass : RemapClass) (manager : RemapClassManager) : Progress :=
  ⟨remapclass, manager, true⟩

def appendFilter (items : List Item) (filter : Option RemapFilter) : List Item :=
  match items.getLast?, filter with
  | some back, some filter =>
      items.dropLast ++ [{ back with filters := back.filters ++ [filter] }]
  | _, _ => items

def vkModifierTypes : List KeyCodeType :=
  [.KEYCODE, .VK_LOCK, .VK_LOCK_FORCE_ON, .VK_LOCK_FORCE_OFF, .VK_NEGATIVE_LOCK,
    .VK_NEGATIVE_LOCK_FORCE_ON, .VK_NEGATIVE_LOCK_FORCE_OFF, .VK_STICKY, .VK_STICKY_FORCE_ON,
    .VK_STICKY_FORCE_OFF]

inductive EntryKind where
  | item
  | filter
  | statusMessage
  | modifierName
  | vkModifier
  | vkConfig
  | vkDefinedInUserspace (notificationType : Nat)
  | unknown

/-- The branches on the type of an entry, in the order of the constructor. -/
def entryKind (type : Nat) : EntryKind :=
  if REMAPTYPE_NONE < type ∧ type < REMAPTYPE_END then .item
  else if FILTERTYPE_NONE < type ∧ type < FILTERTYPE_END then .filter
  else if type = STATUSMESSAGE then .statusMessage
  else if type = MODIFIERNAME then .modifierName
  else if type = VK_MODIFIER then .vkModifier
  else if type = VK_CONFIG then .vkConfig
  else if type = VK_CHANGE_INPUTSOURCE then
    .vkDefinedInUserspace USERCLIENT_NOTIFICATION_TYPE_CHANGE_INPUT_SOURCE
  else if type = VK_OPEN_URL then
    .vkDefinedInUserspace USERCLIENT_NOTIFICATION_TYPE_OPEN_URL
  else .unknown

section

variable (buffer : VectorBuffer) (p size : Nat) (remapclass : RemapClass)
  (manager : RemapClassManager)

def addItem (type : Nat) : Decode Progress := do
  let processor ← RemapFunc.create buffer p size
  let isSimultaneouskeypresses :=
    remapclass.isSimultaneouskeypresses || type = REMAPTYPE_SIMULTANEOUSKEYPRESSES
  pure (.next { remapclass with
    items := remapclass.items ++ [{ processor }], isSimultaneouskeypresses } manager)

def addFilter : Decode Progress :=
  if remapclass.items.length = 0 then pure (.stop remapclass manager)
  else do
    let filter ← RemapFilter.create buffer p size
    pure (.next { remapclass with items := appendFilter remapclass.items filter } manager)

/-- The size of the entry is not looked at. -/
def addStatusMessage : Decode Progress := do
  let message ← buffer.readCString (4 * (p + 1))
  let dst := remapclass.statusmessage.getD (List.replicate USERCLIENT_STATUS_MESSAGE_MAXLEN 0)
  pure (.next { remapclass with statusmessage := some (StrlcpyUtf8.strlcpy dst message) } manager)

def addModifierName : Decode Progress :=
  if size < 3 then pure (.stop remapclass manager)
  else do
    let modifierFlag ← buffer.readWord (p + 1)
    let name ← buffer.readCString (4 * (p + 2))
    let name := StrlcpyUtf8.strlcpy (List.replicate 32 0) name
    pure (.next remapclass { manager with
      virtualModifierNames :=
        manager.virtualModifierNames ++ [⟨⟨modifierFlag.toNat⟩, name⟩] })

def addVkModifier : Decode Progress :=
  if size ≠ 12 then pure (.stop remapclass manager)
  else do
    let words ← RemapFilter.readWords buffer (p + 1) 11
    let keyCode (type : KeyCodeType) : KeyCode :=
      ⟨(words.getD (vkModifierTypes.idxOf type + 1) 0).toNat⟩
    let pair : Pair := ⟨⟨(words.getD 0 0).toNat⟩, keyCode⟩
    pure (.next remapclass { manager with pairs := manager.pairs ++ [pair] })

def addVkConfig : Decode Progress :=
  if size ≠ 5 then pure (.stop remapclass manager)
  else do
    let keycodeToggle ← buffer.readWord (p + 1)
    let keycodeForceOn ← buffer.readWord (p + 2)
    let keycodeForceOff ← buffer.readWord (p + 3)
    let keycodeSyncKeydownup ← buffer.readWord (p + 4)
    pure (.next remapclass { manager with
      vkConfig := manager.vkConfig ++ [⟨remapclass.identity, ⟨keycodeToggle.toNat⟩,
        ⟨keycodeForceOn.toNat⟩, ⟨keycodeForceOff.toNat⟩,
        ⟨keycodeSyncKeydownup.toNat⟩⟩] })

def addVkDefinedInUserspace (notificationType : Nat) : Decode Progress :=
  if size ≠ 2 then pure (.stop remapclass manager)
  else do
    let keycode ← buffer.readWord (p + 1)
    pure (.next remapclass { manager with
      vkDefinedInUserspace := manager.vkDefinedInUserspace ++
        [⟨remapclass.identity, ⟨keycode.toNat⟩, notificationType⟩] })

def addEntryOfType (type : Nat) : Decode Progress :=
  match entryKind type with
  | .item => addItem buffer p size remapclass manager type
  | .filter => addFilter buffer p size remapclass manager
  | .statusMessage => addStatusMessage buffer p remapclass manager
  | .modifierName => addModifierName buffer p size remapclass manager
  | .vkModifier => addVkModifier buffer p size remapclass manager
  | .vkConfig => addVkConfig buffer p size remapclass manager
  | .vkDefinedInUserspace notificationType =>
      addVkDefinedInUserspace buffer p size remapclass manager notificationType
  | .unknown => pure (.stop remapclass manager)

/-- One entry of the initialize vector: size > 0 words from p on. -/
def addEntry : Decode Progress := do
  let type ← buffer.readWord p
  addEntryOfType buffer p size remapclass manager type.toNat

end

/-- The loop of the constructor. Every round moves p on, so the number of words is fuel
enough. -/
def addEntries (buffer : VectorBuffer) (finish : Nat) :
    Nat → Nat → RemapClass → RemapClassManager → Decode (RemapClass × RemapClassManager)
  | 0, _, remapclass, manager => pure (remapclass, manager)
  | fuel + 1, p, remapclass, manager =>
      if p = finish then pure (remapclass, manager)
      else if p > finish then pure (remapclass, manager)
      else do
        let size ← buffer.readWord p
        let size := size.toNat
        let p := p + 1
        if p + size > finish then pure (remapclass, manager)
        else if size > 0 then do
          let progress ← addEntry buffer p size remapclass manager
          if progress.returns then pure (progress.remapclass, progress.manager)
          else addEntries buffer finish fuel (p + size) progress.remapclass progress.manager
        else addEntries buffer finish fuel p remapclass manager

/-- The constructor. The new object is alive from here on, even when it returns early. -/
def construct (buffer : VectorBuffer) (initializeVector vectorSize configindex : Nat)
    (manager : RemapClassManager) : Decode (RemapClass × RemapClassManager) :=
  let remapclass : RemapClass := { identity := manager.nextIdentity, configindex }
  let manager := { manager with
    live := manager.live ++ [remapclass.identity], nextIdentity := manager.nextIdentity + 1 }
  if manager.allocationCount + vectorSize > MAX_ALLOCATION_COUNT then pure (remapclass, manager)
  else
    addEntries buffer (initializeVector + vectorSize) vectorSize initializeVector remapclass
      { manager with allocationCount := manager.allocationCount + vectorSize }

end RemapClass

namespace RemapClassManager

/-- clear_remapclasses; it deletes the objects that remapclasses_ points to. -/
def clearRemapclasses (manager : RemapClassManager) : RemapClassManager :=
  { manager with
    remapclasses := []
    enabledRemapclasses := []
    prepareTargetItems := []
    pairs := .normal
    virtualModifierNames := []
    vkConfig := []
    vkDefinedInUserspace := []
    live := manager.live.filter fun identity =>
      ¬ ∃ remapclass ∈ manager.remapclasses.filterMap id, remapclass.identity = identity }

/-- Step (2) of the load for the remaining entries; none when it goes to error. -/
def loadEntries (buffer : VectorBuffer) (vectorSize : Nat) :
    Nat → Nat → RemapClassManager → Decode (Bool × RemapClassManager)
  | 0, _, manager => pure (true, manager)
  | remaining + 1, p, manager =>
      if p ≥ vectorSize then pure (false, manager)
      else do
        let size ← buffer.readWord p
        let size := size.toNat
        let p := p + 1
        if p + size > vectorSize then pure (false, manager)
        else if size = 0 then pure (false, manager)
        else do
          let configindex ← buffer.readWord p
          let configindex := configindex.toNat
          let p := p + 1
          let size := size - 1
          if configindex ≥ manager.remapclasses.length then pure (false, manager)
          else do
            let (newp, manager) ← RemapClass.construct buffer p size configindex manager
            loadEntries buffer vectorSize remaining (p + size)
              { manager with remapclasses := manager.remapclasses.set configindex (some newp) }

/-- The part of the load between its size checks and the error label. -/
def loadVector (buffer : VectorBuffer) (vectorSize : Nat) (manager : RemapClassManager) :
    Decode (Bool × RemapClassManager) := do
  let count ← buffer.readWord 0
  let count := count.toNat
  if count > MAX_CONFIG_COUNT then pure (false, manager)
  else do
    let (loaded, manager) ← loadEntries buffer vectorSize count 1
      { manager with allocationCount := 0, remapclasses := List.replicate count none }
    pure (loaded && manager.remapclasses.all (·.isSome), manager)

/-- load_remapclasses_initialize_vector, with the reads of the vector that it makes. -/
def loadRemapclassesInitializeVector (buffer : VectorBuffer) (manager : RemapClassManager) :
    Decode (Bool × RemapClassManager) :=
  let manager := manager.clearRemapclasses
  if buffer.size % 4 ≠ 0 then pure (false, manager.clearRemapclasses)
  else
    let vectorSize := buffer.size / 4
    if vectorSize < 2 then pure (false, manager.clearRemapclasses)
    else if vectorSize > MAX_ALLOCATION_COUNT then pure (false, manager.clearRemapclasses)
    else do
      let (loaded, manager) ← loadVector buffer vectorSize manager
      if loaded then pure (true, manager) else pure (false, manager.clearRemapclasses)

end RemapClassManager

end Karabiner
