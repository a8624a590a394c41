import Karabiner.KeyToKeyBalance
import Karabiner.PointingRelativeToScroll

set_option autoImplicit false

/- The remap functions that press and release KeyToKeys of their own: KeyDownUpToKey,
DoublePressModifier, ScrollWheelToKey and PointingRelativeToKey. EventWatcher is not part of this
model. -/
namespace Karabiner

def Option.SEPARATOR : Nat := 29

namespace KeyToKey

variable (settings : Settings) (keyToKey : KeyToKey)

/-- What the objects that have a KeyToKey send to it in the place of an event. -/
def call_remap_with_VK_PSEUDO_KEY (eventType : EventType) (physicalEventType : PhysicalEventType)
    (kext : Kext) : Kext :=
  let kext := kext.onSending (·.onFlagStatus
    (if eventType = EventType.DOWN then FlagStatus.lazyEnable else FlagStatus.lazyDisableIfOff))
  let params := Params.keyboardEvent settings.pairs eventType kext.output.makeFlags
    KeyCode.VK_PSEUDO_KEY kext.output.keyboardType false
  (remap settings keyToKey params physicalEventType false kext).getD kext

def downup (physicalEventType : PhysicalEventType) (kext : Kext) : Kext :=
  call_remap_with_VK_PSEUDO_KEY settings keyToKey .UP physicalEventType
    (call_remap_with_VK_PSEUDO_KEY settings keyToKey .DOWN physicalEventType kext)

def isPressing (kext : Kext) : Bool := keyToKey.address ∈ kext.pressingFromEvents

def addKey (pairs : Pairs) (key : KeyCode) (keyToKey : KeyToKey) : KeyToKey :=
  keyToKey.add pairs Bridge.DATATYPE_KEYCODE key.value

def clearToKeys (keyToKey : KeyToKey) : KeyToKey :=
  { keyToKey with
    index_ := min keyToKey.index_ 1
    toKeys_ := []
    beforeKeys_ := []
    afterKeys_ := []
    delayedActionKeys_ := []
    delayedActionCanceledDefaultKeys_ := []
    delayedActionCanceledByKeys_ := []
    increaseModifierFlags_ := []
    currentToEvent_ := .TO_KEYS }

/-- No option has been added. -/
def Plain (keyToKey : KeyToKey) : Prop :=
  keyToKey.currentToEvent_ = .TO_KEYS ∧ keyToKey.hasDelayedAction = false

variable {keyToKey}

theorem clearToKeys_plain : keyToKey.clearToKeys.Plain := ⟨rfl, rfl⟩

theorem onCurrentToEvent_plain (change : List ToEvent → List ToEvent) (plain : keyToKey.Plain) :
    (keyToKey.onCurrentToEvent change).Plain := by
  obtain ⟨current, undelayed⟩ := plain
  simp only [onCurrentToEvent, current]
  exact ⟨rfl, undelayed⟩

theorem add_plain (pairs : Pairs) {datatype : Nat} (newval : Nat)
    (other : datatype ≠ Bridge.DATATYPE_OPTION) (plain : keyToKey.Plain) :
    (keyToKey.add pairs datatype newval).Plain := by
  have flags (flag : ModifierFlag) : (keyToKey.addModifierFlag pairs flag).Plain := by
    unfold addModifierFlag
    split
    · exact plain
    · exact plain
    · exact onCurrentToEvent_plain _ plain
  have event : (keyToKey.addEvent datatype newval).Plain := by
    unfold addEvent
    dsimp only
    split
    · exact plain
    · exact onCurrentToEvent_plain _ plain
  unfold add
  split
  · exact event
  · split
    · exact flags _
    · split
      · exact flags _
      · split
        · exact plain
        · split
          · exact plain
          · exact plain

theorem addKey_plain (pairs : Pairs) (key : KeyCode) (plain : keyToKey.Plain) :
    (keyToKey.addKey pairs key).Plain := add_plain pairs key.value (by decide) plain

end KeyToKey

inductive ScrollWheel where
  | NONE | UP | DOWN | LEFT | RIGHT
  deriving DecidableEq, Repr

def ScrollWheel.getScrollWheelFromDelta (fixedDelta1 fixedDelta2 : Int) : ScrollWheel :=
  if fixedDelta1 = 0 ∧ fixedDelta2 = 0 then .NONE
  else if fixedDelta2.natAbs > fixedDelta1.natAbs then
    if fixedDelta2 > 0 then .LEFT else .RIGHT
  else if fixedDelta1 > 0 then .UP
  else .DOWN

inductive PointingRelative where
  | NONE | UP | DOWN | LEFT | RIGHT
  deriving DecidableEq, Repr

/-- Diagonal directions are none. -/
def PointingRelative.getPointingRelativeFromDelta (dx dy : Int) : PointingRelative :=
  if dx = 0 ∧ dy = 0 then .NONE
  else if dx.natAbs > dy.natAbs then
    if dy.natAbs * 3 > dx.natAbs then .NONE
    else if dx < 0 then .LEFT
    else .RIGHT
  else if dx.natAbs * 3 > dy.natAbs then .NONE
  else if dy < 0 then .UP
  else .DOWN

structure DeltaBuffer where
  buffer_ : List Int := List.replicate 5 0
  count_ : Nat := 0
  sign_ : Int := 0
  deriving DecidableEq, Repr

namespace DeltaBuffer

def BUFFER_LENGTH : Nat := 5

def push (newval : Int) (deltaBuffer : DeltaBuffer) : DeltaBuffer :=
  let turned := (newval > 0 ∧ deltaBuffer.sign_ < 0) ∨ (newval < 0 ∧ deltaBuffer.sign_ > 0)
  let deltaBuffer := if turned then {} else deltaBuffer
  { buffer_ := deltaBuffer.buffer_.tail ++ [newval]
    count_ := if deltaBuffer.count_ < BUFFER_LENGTH then deltaBuffer.count_ + 1
      else deltaBuffer.count_
    sign_ := if newval < 0 then -1 else if newval > 0 then 1 else deltaBuffer.sign_ }

def isFull (deltaBuffer : DeltaBuffer) : Bool := deltaBuffer.count_ ≥ BUFFER_LENGTH

def sum (deltaBuffer : DeltaBuffer) : Int := deltaBuffer.buffer_.foldl (· + ·) 0

end DeltaBuffer

/-- No option of a KeyToKey can be added to the members. -/
structure KeyDownUpToKey where
  address : Nat
  keytokey_from_ : KeyToKey
  keytokey_downup_ : KeyToKey
  keytokey_interrupted_ : KeyToKey
  undelayed : ∀ keyToKey ∈ [keytokey_from_, keytokey_downup_, keytokey_interrupted_],
    keyToKey.hasDelayedAction = false

namespace KeyDownUpToKey

inductive IndexType where
  | NONE | FROM | DOWNUP | INTERRUPTED
  deriving DecidableEq, Repr

/-- The members that add changes. -/
structure Added where
  keytokey_from_ : KeyToKey
  keytokey_downup_ : KeyToKey
  keytokey_interrupted_ : KeyToKey
  indexType_ : IndexType := .NONE
  needClearInterruptedToKeys_ : Bool := false
  deriving DecidableEq, Repr

def addEvent (pairs : Pairs) (datatype newval : Nat) (added : Added) : Added :=
  match added.indexType_ with
  | .NONE =>
      { added with
        indexType_ := .FROM
        keytokey_from_ := added.keytokey_from_.add pairs datatype newval
        keytokey_downup_ := added.keytokey_downup_.addKey pairs .VK_PSEUDO_KEY
        keytokey_interrupted_ :=
          (added.keytokey_interrupted_.addKey pairs .VK_PSEUDO_KEY).add pairs datatype newval }
  | .FROM | .DOWNUP =>
      { added with
        indexType_ := .DOWNUP
        keytokey_downup_ := added.keytokey_downup_.add pairs datatype newval }
  | .INTERRUPTED =>
      let keytokey_interrupted_ :=
        if added.needClearInterruptedToKeys_ then added.keytokey_interrupted_.clearToKeys
        else added.keytokey_interrupted_
      { added with keytokey_interrupted_ := keytokey_interrupted_.add pairs datatype newval }

def addModifierFlag (pairs : Pairs) (datatype newval : Nat) (added : Added) : Added :=
  match added.indexType_ with
  | .NONE => added
  | .FROM =>
      { added with
        keytokey_from_ := added.keytokey_from_.add pairs datatype newval
        keytokey_downup_ := added.keytokey_downup_.add pairs datatype newval
        keytokey_interrupted_ := added.keytokey_interrupted_.add pairs datatype newval }
  | .DOWNUP =>
      { added with keytokey_downup_ := added.keytokey_downup_.add pairs datatype newval }
  | .INTERRUPTED =>
      { added with
        keytokey_interrupted_ := added.keytokey_interrupted_.add pairs datatype newval }

def add (pairs : Pairs) (added : Added) (value : Nat × Nat) : Added :=
  let (datatype, newval) := value
  if datatype ∈ [Bridge.DATATYPE_KEYCODE, Bridge.DATATYPE_CONSUMERKEYCODE,
      Bridge.DATATYPE_POINTINGBUTTON] then
    addEvent pairs datatype newval added
  else if datatype ∈ [Bridge.DATATYPE_MODIFIERFLAG, Bridge.DATATYPE_MODIFIERFLAGS_END] then
    addModifierFlag pairs datatype newval added
  else if datatype = Bridge.DATATYPE_OPTION ∧ newval = Option.SEPARATOR then
    { added with indexType_ := .INTERRUPTED, needClearInterruptedToKeys_ := true }
  else added

/-- No option of KeyToKey comes to the members. -/
structure Plain (added : Added) : Prop where
  keytokey_from_ : added.keytokey_from_.Plain
  keytokey_downup_ : added.keytokey_downup_.Plain
  keytokey_interrupted_ : added.keytokey_interrupted_.Plain

open KeyToKey (add_plain addKey_plain clearToKeys_plain)

theorem addEvent_plain (pairs : Pairs) {datatype : Nat} (newval : Nat)
    (other : datatype ≠ Bridge.DATATYPE_OPTION) {added : Added} (plain : Plain added) :
    Plain (addEvent pairs datatype newval added) := by
  obtain ⟨first, second, third⟩ := plain
  unfold addEvent
  split
  · exact ⟨add_plain pairs newval other first, addKey_plain pairs _ second,
      add_plain pairs newval other (addKey_plain pairs _ third)⟩
  · exact ⟨first, add_plain pairs newval other second, third⟩
  · exact ⟨first, add_plain pairs newval other second, third⟩
  · refine ⟨first, second, add_plain pairs newval other ?_⟩
    split
    · exact clearToKeys_plain
    · exact third

theorem addModifierFlag_plain (pairs : Pairs) {datatype : Nat} (newval : Nat)
    (other : datatype ≠ Bridge.DATATYPE_OPTION) {added : Added} (plain : Plain added) :
    Plain (addModifierFlag pairs datatype newval added) := by
  obtain ⟨first, second, third⟩ := plain
  unfold addModifierFlag
  split
  · exact ⟨first, second, third⟩
  · exact ⟨add_plain pairs newval other first, add_plain pairs newval other second,
      add_plain pairs newval other third⟩
  · exact ⟨first, add_plain pairs newval other second, third⟩
  · exact ⟨first, second, add_plain pairs newval other third⟩

theorem addValue_plain (pairs : Pairs) {added : Added} (value : Nat × Nat) (plain : Plain added) :
    Plain (add pairs added value) := by
  obtain ⟨datatype, newval⟩ := value
  unfold add
  dsimp only
  split
  · next event =>
    exact addEvent_plain pairs newval (fun same => absurd (same ▸ event) (by decide)) plain
  · split
    · next flags =>
      exact addModifierFlag_plain pairs newval
        (fun same => absurd (same ▸ flags) (by decide)) plain
    · split
      · exact ⟨plain.keytokey_from_, plain.keytokey_downup_, plain.keytokey_interrupted_⟩
      · exact plain

/-- Interrupted keys have no autogen. -/
def constructor (keytokey_from_ keytokey_downup_ keytokey_interrupted_ : Nat)
    (autogenId : AutogenId) : Added where
  keytokey_from_ := { address := keytokey_from_, autogenId_ := autogenId }
  keytokey_downup_ := { address := keytokey_downup_, autogenId_ := autogenId }
  keytokey_interrupted_ :=
    { address := keytokey_interrupted_, autogenId_ := AutogenId.maxValue }

/-- The members behind any calls of add. -/
def addAll (pairs : Pairs) (values : List (Nat × Nat)) (added : Added) : Added :=
  values.foldl (add pairs) added

theorem addAll_plain (pairs : Pairs) (values : List (Nat × Nat)) {added : Added}
    (plain : Plain added) : Plain (addAll pairs values added) := by
  induction values generalizing added with
  | nil => exact plain
  | cons value values ih => exact ih (addValue_plain pairs value plain)

theorem Plain.undelayed {added : Added} (plain : Plain added) : ∀ keyToKey ∈
    [added.keytokey_from_, added.keytokey_downup_, added.keytokey_interrupted_],
    keyToKey.hasDelayedAction = false := by
  simp only [List.forall_mem_cons]
  exact ⟨plain.keytokey_from_.2, plain.keytokey_downup_.2, plain.keytokey_interrupted_.2,
    List.forall_mem_nil _⟩

def ofAdded (address : Nat) (added : Added) (plain : Plain added) : KeyDownUpToKey where
  address := address
  keytokey_from_ := added.keytokey_from_
  keytokey_downup_ := added.keytokey_downup_
  keytokey_interrupted_ := added.keytokey_interrupted_
  undelayed := plain.undelayed

theorem constructor_plain (keytokey_from_ keytokey_downup_ keytokey_interrupted_ : Nat)
    (autogenId : AutogenId) :
    Plain (constructor keytokey_from_ keytokey_downup_ keytokey_interrupted_ autogenId) :=
  ⟨⟨rfl, rfl⟩, ⟨rfl, rfl⟩, ⟨rfl, rfl⟩⟩

end KeyDownUpToKey

structure DoublePressModifier where
  address : Nat
  keytokey_ : KeyToKey
  keytokey_fire_ : KeyToKey

structure ScrollWheelToKey where
  address : Nat
  fromModifierFlags_ : List ModifierFlag
  fromScrollWheel_ : ScrollWheel
  keytokey_ : KeyToKey

/-- The members of the array for the directions. -/
structure PointingRelativeToKey where
  address : Nat
  fromModifierFlags_ : List ModifierFlag
  keytokey_up : KeyToKey
  keytokey_down : KeyToKey
  keytokey_left : KeyToKey
  keytokey_right : KeyToKey

def PointingRelativeToKey.keytokey_ (item : PointingRelativeToKey) :
    PointingRelative → Option KeyToKey
  | .NONE => none
  | .UP => some item.keytokey_up
  | .DOWN => some item.keytokey_down
  | .LEFT => some item.keytokey_left
  | .RIGHT => some item.keytokey_right

inductive RemapFuncItem where
  | keyToKey (item : KeyToKey)
  | keyDownUpToKey (item : KeyDownUpToKey)
  | doublePressModifier (item : DoublePressModifier)
  | scrollWheelToKey (item : ScrollWheelToKey)
  | pointingRelativeToKey (item : PointingRelativeToKey)

/-- The essential configurations that are read. -/
structure ComposedConfig where
  parameter_doublepressmodifier_threshold : Int
  parameter_scrollwheeltokey_keyrepeat_wait : Int
  parameter_pointingrelativetokey_detection_interval : Int
  repeat_consumer_wait : Int

structure ScrollWheelToKey.Members where
  continuousScrollEvent_ic_ : IntervalChecker := ⟨0⟩
  firstScrollWheelEvent_ : ScrollWheel := .NONE
  isContinuousScrollEventRemapped_ : Bool := false
  keyrepeat_ic_ : IntervalChecker := ⟨0⟩

structure PointingRelativeToKey.Members where
  deltaBuffer_dx_ : DeltaBuffer := {}
  deltaBuffer_dy_ : DeltaBuffer := {}
  keyrepeat_ic_ : IntervalChecker := ⟨0⟩

namespace RemapFuncItem

/-- The members that change, for the objects at their addresses, and the parts of the kernel
extension that they use. -/
structure State where
  kext : Kext
  interrupted_ : Nat → Bool := fun _ => false
  pressCount_ : Nat → Int := fun _ => 0
  ic_ : Nat → IntervalChecker := fun _ => ⟨0⟩
  scrollWheelToKey : Nat → ScrollWheelToKey.Members := fun _ => {}
  pointingRelativeToKey : Nat → PointingRelativeToKey.Members := fun _ => {}

def State.onKext (change : Kext → Kext) (state : State) : State :=
  { state with kext := change state.kext }

/-- RemapParams, with the time at which the event comes. -/
structure Arriving where
  params : Params
  physicalEventType : PhysicalEventType
  now : Nat

variable (settings : Settings) (config : ComposedConfig)

/-- All that remap and prepare return: the members, and isremapped. -/
abbrev Result := State × Bool

/-- keytokey.remap(remapParams); nothing if it returns false. -/
def callRemap (keyToKey : KeyToKey) (arriving : Arriving) (result : Result) : Option Result :=
  (keyToKey.remap settings arriving.params arriving.physicalEventType result.2 result.1.kext).map
    fun kext => ({ result.1 with kext }, true)

def pseudo (keyToKey : KeyToKey) (eventType : EventType) (arriving : Arriving) (result : Result) :
    Result :=
  (result.1.onKext
    (keyToKey.call_remap_with_VK_PSEUDO_KEY settings eventType arriving.physicalEventType),
    result.2)

def downup (keyToKey : KeyToKey) (arriving : Arriving) (result : Result) : Result :=
  (result.1.onKext (keyToKey.downup settings arriving.physicalEventType), result.2)

namespace KeyDownUpToKey

def setInterrupted (item : KeyDownUpToKey) (interrupted_ : Bool) (result : Result) : Result :=
  ({ result.1 with
    interrupted_ := Function.update result.1.interrupted_ item.address interrupted_ },
    result.2)

def prepare (item : KeyDownUpToKey) (arriving : Arriving) (result : Result) : Result :=
  match arriving.params.iskeydown with
  | none => result
  | some _ =>
      let result :=
        match callRemap settings item.keytokey_from_ arriving result with
        | some result => downup settings item.keytokey_downup_ arriving result
        | none =>
            setInterrupted item true
              (pseudo settings item.keytokey_interrupted_ .DOWN arriving result)
      (result.1.onKext (·.unregisterPrepareTargetItem item.address), result.2)

def remap (item : KeyDownUpToKey) (arriving : Arriving) (result : Result) : Result :=
  match callRemap settings item.keytokey_from_ arriving result with
  | none => result
  | some result =>
      let result :=
        if result.1.interrupted_ item.address then
          pseudo settings item.keytokey_interrupted_ .UP arriving (setInterrupted item false result)
        else result
      if item.keytokey_from_.isPressing result.1.kext then
        setInterrupted item false
          (result.1.onKext (·.registerPrepareTargetItem item.address), result.2)
      else result

end KeyDownUpToKey

namespace DoublePressModifier

def setPressCount (item : DoublePressModifier) (pressCount_ : Int) (result : Result) : Result :=
  ({ result.1 with pressCount_ := Function.update result.1.pressCount_ item.address pressCount_ },
    result.2)

def begin (item : DoublePressModifier) (now : Nat) (result : Result) : Result :=
  ({ result.1 with ic_ := Function.update result.1.ic_ item.address ⟨now⟩ }, result.2)

def remap (item : DoublePressModifier) (arriving : Arriving) (result : Result) : Result :=
  match arriving.params.iskeydown with
  | none => result
  | some iskeydown =>
      match callRemap settings item.keytokey_ arriving result with
      | none => setPressCount item 0 result
      | some result =>
          let late := (result.1.ic_ item.address).getmillisec arriving.now >
            UInt32.ofInt config.parameter_doublepressmodifier_threshold
          let result := if late then setPressCount item 0 result else result
          let result := begin item arriving.now result
          let pressCount_ := result.1.pressCount_ item.address
          if iskeydown then setPressCount item (pressCount_ + 1) result
          else if pressCount_ ≥ 2 then
            let result := setPressCount item 0 result
            let result :=
              (result.1.onKext (·.onSending (·.onFlagStatus FlagStatus.set)), result.2)
            downup settings item.keytokey_fire_ arriving result
          else result

end DoublePressModifier

namespace ScrollWheelToKey

def CONTINUOUS_SCROLLWHEEL_EVENT_THRESHOLD : Int := 20

def setMembers (item : ScrollWheelToKey) (members : ScrollWheelToKey.Members) (result : Result) :
    Result :=
  ({ result.1 with
      scrollWheelToKey := Function.update result.1.scrollWheelToKey item.address members },
    result.2)

def remap (item : ScrollWheelToKey) (arriving : Arriving) (result : Result) : Result :=
  match arriving.params with
  | .scrollWheel params =>
      let members := result.1.scrollWheelToKey item.address
      -- The value is assigned to an int.
      let millisec := VirtualKey.VK_MOUSEKEY.toInt
        (members.continuousScrollEvent_ic_.getmillisec arriving.now).toNat
      let members := { members with continuousScrollEvent_ic_ := ⟨arriving.now⟩ }
      if millisec < CONTINUOUS_SCROLLWHEEL_EVENT_THRESHOLD ∧
          members.firstScrollWheelEvent_ ≠ .NONE then
        let result := setMembers item members result
        if members.isContinuousScrollEventRemapped_ then (result.1, true) else result
      else
        let first := ScrollWheel.getScrollWheelFromDelta params.fixedDelta1 params.fixedDelta2
        let members := { members with
          isContinuousScrollEventRemapped_ := false, firstScrollWheelEvent_ := first }
        if first = .NONE then setMembers item members result
        else if result.2 then setMembers item members result
        else if !result.1.kext.flagStatus.isOn item.fromModifierFlags_ then
          setMembers item members result
        else if item.fromScrollWheel_ ≠ first then setMembers item members result
        else
          let members := { members with isContinuousScrollEventRemapped_ := true }
          let result := (result.1, true)
          if members.keyrepeat_ic_.getmillisec arriving.now >
              UInt32.ofInt config.parameter_scrollwheeltokey_keyrepeat_wait then
            downup settings item.keytokey_ arriving
              (setMembers item { members with keyrepeat_ic_ := ⟨arriving.now⟩ } result)
          else setMembers item members result
  | _ => result

end ScrollWheelToKey

namespace PointingRelativeToKey

def setMembers (item : PointingRelativeToKey) (members : PointingRelativeToKey.Members)
    (result : Result) : Result :=
  ({ result.1 with
      pointingRelativeToKey :=
        Function.update result.1.pointingRelativeToKey item.address members },
    result.2)

def remap (item : PointingRelativeToKey) (arriving : Arriving) (result : Result) : Result :=
  match arriving.params with
  | .relativePointer params =>
      if result.2 then result
      else if !result.1.kext.flagStatus.isOn item.fromModifierFlags_ then result
      else if params.ex_button ≠ PointingButton.NONE then result
      else
        let result := (result.1, true)
        let members := result.1.pointingRelativeToKey item.address
        let members :=
          if members.keyrepeat_ic_.getmillisec arriving.now >
              UInt32.ofInt config.parameter_pointingrelativetokey_detection_interval then
            { members with
              deltaBuffer_dx_ := members.deltaBuffer_dx_.push params.dx
              deltaBuffer_dy_ := members.deltaBuffer_dy_.push params.dy }
          else members
        let pr :=
          if members.deltaBuffer_dx_.isFull || members.deltaBuffer_dy_.isFull then
            PointingRelative.getPointingRelativeFromDelta members.deltaBuffer_dx_.sum
              members.deltaBuffer_dy_.sum
          else .NONE
        match item.keytokey_ pr with
        | none => setMembers item members result
        | some pressed =>
            let result := downup settings pressed arriving result
            let result :=
              (result.1.onKext (·.onSending (·.onFlagStatus FlagStatus.set)), result.2)
            setMembers item { keyrepeat_ic_ := ⟨arriving.now⟩ } result
  | _ => result

end PointingRelativeToKey

/-- Where the object is, with the KeyToKeys that are its members. -/
def address : RemapFuncItem → Nat
  | keyToKey item => item.address
  | keyDownUpToKey item => item.address
  | doublePressModifier item => item.address
  | scrollWheelToKey item => item.address
  | pointingRelativeToKey item => item.address

def keyToKeys : RemapFuncItem → List KeyToKey
  | keyToKey item => [item]
  | keyDownUpToKey item =>
      [item.keytokey_from_, item.keytokey_downup_, item.keytokey_interrupted_]
  | doublePressModifier item => [item.keytokey_, item.keytokey_fire_]
  | scrollWheelToKey item => [item.keytokey_]
  | pointingRelativeToKey item =>
      [item.keytokey_up, item.keytokey_down, item.keytokey_left, item.keytokey_right]

def addresses : RemapFuncItem → List Nat
  | keyToKey item => [item.address]
  | item => item.address :: item.keyToKeys.map (·.address)

theorem map_address_sublist (item : RemapFuncItem) :
    List.Sublist (item.keyToKeys.map (·.address)) item.addresses := by
  cases item with
  | keyToKey item => exact List.Sublist.refl _
  | keyDownUpToKey item => exact List.sublist_cons_self _ _
  | doublePressModifier item => exact List.sublist_cons_self _ _
  | scrollWheelToKey item => exact List.sublist_cons_self _ _
  | pointingRelativeToKey item => exact List.sublist_cons_self _ _

/-- RemapFuncBase::prepare does nothing. -/
def prepare (item : RemapFuncItem) (arriving : Arriving) (result : Result) : Result :=
  match item with
  | keyToKey item =>
      (result.1.onKext (item.prepare settings arriving.params), result.2)
  | keyDownUpToKey item => KeyDownUpToKey.prepare settings item arriving result
  | doublePressModifier _ | scrollWheelToKey _ | pointingRelativeToKey _ => result

def remap (item : RemapFuncItem) (arriving : Arriving) (result : Result) : Result :=
  match item with
  | keyToKey item => (callRemap settings item arriving result).getD result
  | keyDownUpToKey item => KeyDownUpToKey.remap settings item arriving result
  | doublePressModifier item => DoublePressModifier.remap settings config item arriving result
  | scrollWheelToKey item => ScrollWheelToKey.remap settings config item arriving result
  | pointingRelativeToKey item => PointingRelativeToKey.remap settings config item arriving result

end RemapFuncItem

end Karabiner
