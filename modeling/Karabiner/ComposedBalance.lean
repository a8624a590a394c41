import Karabiner.Core
import Karabiner.DelayedActions
import Karabiner.KeyRepeat

set_option autoImplicit false

/- The KeyToKeys of the composed items, over whole runs of Core. What they press is released with
the key that the item is for. -/
namespace Karabiner

namespace KeyToKey

variable {settings : Settings} {keyToKey : KeyToKey}

/-- Only startDelayedAction is about the delayed actions, and it registers the item. -/
theorem remapAccepted_registered (iskeydown : Bool) (physicalEventType : PhysicalEventType)
    (kext : Kext) :
    (remapAccepted settings keyToKey iskeydown physicalEventType kext).prepareTargetItems_ =
      if iskeydown && keyToKey.hasDelayedAction then
        (kext.registerPrepareTargetItem keyToKey.address).prepareTargetItems_
      else kext.prepareTargetItems_ := by
  obtain ⟨counted, before, after⟩ := @remapAccepted_sameDelayed settings keyToKey iskeydown
    physicalEventType kext
  rw [after.prepareTargetItems_]
  cases iskeydown with
  | false => exact before.prepareTargetItems_
  | true =>
      rw [if_pos rfl, Bool.true_and]
      unfold startDelayedAction
      split
      · show (counted.prepareTargetItems_.filter _) ++ _ = _
        rw [before.prepareTargetItems_]
        rfl
      · exact before.prepareTargetItems_

theorem prepare_registered (params : Params) (kext : Kext) :
    (prepare settings keyToKey params kext).prepareTargetItems_ =
      if params.iskeydown = some true then
        (kext.unregisterPrepareTargetItem keyToKey.address).prepareTargetItems_
      else kext.prepareTargetItems_ := by
  unfold prepare
  by_cases down : params.iskeydown = some true
  · rw [if_neg (by simp [down]), if_pos down]
    extract_lets unregistered stopped cleared canceled
    split
    · rfl
    · exact (@doDelayedAction_sameDelayed settings keyToKey canceled.1 canceled.2
        cleared).prepareTargetItems_
  · rw [if_pos down, if_neg down]

/-- What an accepted call leaves behind of the keys that are pressed. -/
structure Accepted (keyToKey : KeyToKey) (params : Params) (iskeydown : Bool)
    (before after : Kext) : Prop where
  known : params.iskeydown = some iskeydown
  fromEvent_ : keyToKey.fromEvent_ = FromEvent.ofParams params
  pressing : after.pressingFromEvents =
    if iskeydown then before.pressingFromEvents ++ [keyToKey.address]
    else before.pressingFromEvents.erase keyToKey.address
  released : iskeydown = false → keyToKey.address ∈ before.pressingFromEvents
  registered : after.prepareTargetItems_ =
    if iskeydown && keyToKey.hasDelayedAction then
      (before.registerPrepareTargetItem keyToKey.address).prepareTargetItems_
    else before.prepareTargetItems_

theorem remap_accepted (apart : settings.ButtonKeysApart) {params : Params}
    {physicalEventType : PhysicalEventType} {isremapped : Bool} {before after : Kext}
    (accepted : keyToKey.remap settings params physicalEventType isremapped before = some after) :
    isremapped = false ∧ ∃ iskeydown, Accepted keyToKey params iskeydown before after := by
  unfold KeyToKey.remap at accepted
  split at accepted
  · cases accepted
  · next unmapped =>
    split at accepted
    · cases accepted
    · next iskeydown known =>
      refine ⟨Bool.eq_false_of_not_eq_true unmapped, iskeydown, ?_⟩
      obtain ⟨pressed, changed, rfl⟩ := Option.map_eq_some_iff.1 accepted
      obtain ⟨rfl, fromEvent_, released⟩ := changePressingState_some known changed
      have same := (@remapAccepted_shifts settings keyToKey apart iskeydown physicalEventType
        { before with pressingFromEvents :=
            if iskeydown then before.pressingFromEvents ++ [keyToKey.address]
            else before.pressingFromEvents.erase keyToKey.address }).pressing
      exact ⟨known, fromEvent_, same, released, remapAccepted_registered _ _ _⟩

/-- The key-up of a key that is pressed is accepted. -/
theorem remap_released {params : Params} (known : params.iskeydown = some false)
    (fromEvent_ : keyToKey.fromEvent_ = FromEvent.ofParams params)
    (physicalEventType : PhysicalEventType) {kext : Kext}
    (pressed : keyToKey.address ∈ kext.pressingFromEvents) :
    (keyToKey.remap settings params physicalEventType false kext).isSome = true := by
  unfold KeyToKey.remap
  rw [if_neg Bool.false_ne_true, known]
  dsimp only
  have target : keyToKey.fromEvent_.targetIsDown params = some false := by
    rw [FromEvent.targetIsDown_of_iskeydown known, if_pos fromEvent_]
  unfold changePressingState
  rw [target]
  dsimp only
  rw [if_pos pressed]
  rfl

/-- The events that the composed items send to their KeyToKeys. -/
def pseudoParams (settings : Settings) (iskeydown : Bool) (kext : Kext) : Params :=
  .keyboardEvent settings.pairs (if iskeydown then .DOWN else .UP) kext.output.makeFlags
    .VK_PSEUDO_KEY kext.output.keyboardType false

theorem pseudoParams_iskeydown (iskeydown : Bool) (kext : Kext) :
    (pseudoParams settings iskeydown kext).iskeydown = some iskeydown :=
  congrArg some (ToEvent.isKeyDownOrModifierDown_eq settings.pairs iskeydown _ _)

def lazied (iskeydown : Bool) (kext : Kext) : Kext :=
  kext.onSending (·.onFlagStatus
    (if iskeydown then FlagStatus.lazyEnable else FlagStatus.lazyDisableIfOff))

theorem lazied_shifts (iskeydown : Bool) (kext : Kext) :
    Kext.Shifts 0 kext (lazied iskeydown kext) := by
  apply Kext.shifts_onSending
  refine Sending.shifts_zero ?_ rfl
  cases iskeydown with
  | true => exact @FlagStatus.perform_counts .lazyEnable rfl Pairs.normal _
  | false => exact @FlagStatus.perform_counts .lazyDisableIfOff rfl Pairs.normal _

theorem call_remap_eq (iskeydown : Bool) (physicalEventType : PhysicalEventType) (kext : Kext) :
    keyToKey.call_remap_with_VK_PSEUDO_KEY settings (if iskeydown then .DOWN else .UP)
        physicalEventType kext =
      (keyToKey.remap settings (pseudoParams settings iskeydown (lazied iskeydown kext))
        physicalEventType false (lazied iskeydown kext)).getD (lazied iskeydown kext) := by
  cases iskeydown <;> rfl

/-- The call is accepted, or nothing of the keys that are pressed changes. -/
theorem call_remap_cases (apart : settings.ButtonKeysApart) (iskeydown : Bool)
    (physicalEventType : PhysicalEventType) (kext : Kext) :
    let after := keyToKey.call_remap_with_VK_PSEUDO_KEY settings
      (if iskeydown then .DOWN else .UP) physicalEventType kext
    (after.pressingFromEvents = kext.pressingFromEvents ∧
        after.prepareTargetItems_ = kext.prepareTargetItems_ ∧
        (iskeydown = false → keyToKey.fromEvent_ = .KEY .VK_PSEUDO_KEY →
          keyToKey.address ∉ kext.pressingFromEvents)) ∨
      ∃ params, FromEvent.ofParams params = .KEY .VK_PSEUDO_KEY ∧
        Accepted keyToKey params iskeydown kext after := by
  let lazied := lazied iskeydown kext
  let params := pseudoParams settings iskeydown lazied
  have calls := @call_remap_eq settings keyToKey iskeydown physicalEventType kext
  intro after
  cases accepted : keyToKey.remap settings params physicalEventType false lazied with
  | none =>
      have same : after = lazied := calls.trans (by rw [accepted]; rfl)
      refine .inl ⟨by rw [same]; rfl, by rw [same]; rfl, fun up fromEvent_ pressed => ?_⟩
      subst up
      have taken := @remap_released settings keyToKey params
        (pseudoParams_iskeydown false lazied) fromEvent_ physicalEventType lazied pressed
      rw [accepted] at taken
      cases taken
  | some later =>
      have same : after = later := calls.trans (by rw [accepted]; rfl)
      obtain ⟨-, down, taken⟩ := remap_accepted apart accepted
      have known := taken.known
      rw [pseudoParams_iskeydown] at known
      cases Option.some_inj.1 known
      rw [same]
      exact .inr ⟨params, rfl, taken.known, taken.fromEvent_, taken.pressing, taken.released,
        taken.registered⟩

theorem call_remap_counted (apart : settings.ButtonKeysApart) {items : KeyToKeys}
    (member : keyToKey ∈ items.list) (iskeydown : Bool) (physicalEventType : PhysicalEventType)
    {physical : Net} {kext : Kext} (counted : KeyToKeys.Counted settings items physical kext) :
    KeyToKeys.Counted settings items physical (keyToKey.call_remap_with_VK_PSEUDO_KEY settings
      (if iskeydown then .DOWN else .UP) physicalEventType kext) := by
  have still := counted.of_shifts (lazied_shifts iskeydown kext)
  rw [call_remap_eq]
  cases accepted : keyToKey.remap settings
      (pseudoParams settings iskeydown (lazied iskeydown kext)) physicalEventType false
      (lazied iskeydown kext) with
  | none => exact still
  | some after => exact KeyToKeys.remap_counted apart member still accepted

theorem call_remap_repeating (iskeydown : Bool) (physicalEventType : PhysicalEventType)
    {kext : Kext} (repeating : kext.toSending.Repeating settings) :
    (keyToKey.call_remap_with_VK_PSEUDO_KEY settings (if iskeydown then .DOWN else .UP)
      physicalEventType kext).toSending.Repeating settings := by
  have still : (lazied iskeydown kext).toSending.Repeating settings := repeating
  rw [call_remap_eq]
  cases accepted : keyToKey.remap settings
      (pseudoParams settings iskeydown (lazied iskeydown kext)) physicalEventType false
      (lazied iskeydown kext) with
  | none => exact still
  | some after => exact remap_repeating still accepted

end KeyToKey

namespace RemapFuncItem

/-- How often the key of a KeyToKey is pressed. -/
def State.count (state : State) (address : Nat) : Nat :=
  state.kext.pressingFromEvents.count address

def State.Registered (state : State) (address : Nat) : Prop :=
  address ∈ state.kext.prepareTargetItems_

/-- Only what is about the addresses changes, and the counters go on to be counted. -/
structure Within (settings : Settings) (items : Remappings) (addresses : List Nat)
    (before after : State) : Prop where
  pressing : ∀ address ∉ addresses, after.count address = before.count address
  registered : ∀ address ∉ addresses, (after.Registered address ↔ before.Registered address)
  interrupted : ∀ address ∉ addresses, after.interrupted_ address = before.interrupted_ address
  nodup : before.kext.prepareTargetItems_.Nodup → after.kext.prepareTargetItems_.Nodup
  counted : ∀ physical, KeyToKeys.Counted settings items.keyToKeys physical before.kext →
    KeyToKeys.Counted settings items.keyToKeys physical after.kext
  repeating : before.kext.toSending.Repeating settings → after.kext.toSending.Repeating settings

section

variable {settings : Settings} {items : Remappings} {addresses : List Nat}
  {before middle after : State}

theorem Within.refl (state : State) : Within settings items addresses state state :=
  ⟨fun _ _ => rfl, fun _ _ => Iff.rfl, fun _ _ => rfl, id, fun _ => id, id⟩

theorem Within.trans (left : Within settings items addresses before middle)
    (right : Within settings items addresses middle after) :
    Within settings items addresses before after where
  pressing address other := (right.pressing address other).trans (left.pressing address other)
  registered address other :=
    (right.registered address other).trans (left.registered address other)
  interrupted address other :=
    (right.interrupted address other).trans (left.interrupted address other)
  nodup distinct := right.nodup (left.nodup distinct)
  counted physical counted := right.counted physical (left.counted physical counted)
  repeating repeating := right.repeating (left.repeating repeating)

theorem Within.mono {larger : List Nat} (inside : addresses ⊆ larger)
    (within : Within settings items addresses before after) :
    Within settings items larger before after where
  pressing address other := within.pressing address fun member => other (inside member)
  registered address other := within.registered address fun member => other (inside member)
  interrupted address other := within.interrupted address fun member => other (inside member)
  nodup := within.nodup
  counted := within.counted
  repeating := within.repeating

theorem Within.among {address : Nat} (member : address ∈ addresses)
    (within : Within settings items [address] before after) :
    Within settings items addresses before after :=
  within.mono fun _ single => List.mem_singleton.1 single ▸ member

theorem within_of_same
    (pressing : after.kext.pressingFromEvents = before.kext.pressingFromEvents)
    (registered : after.kext.prepareTargetItems_ = before.kext.prepareTargetItems_)
    (interrupted : after.interrupted_ = before.interrupted_)
    (counted : ∀ physical, KeyToKeys.Counted settings items.keyToKeys physical before.kext →
      KeyToKeys.Counted settings items.keyToKeys physical after.kext)
    (repeating : before.kext.toSending.Repeating settings →
      after.kext.toSending.Repeating settings) :
    Within settings items addresses before after where
  pressing address _ := congrArg (List.count address) pressing
  registered address _ := by rw [State.Registered, State.Registered, registered]
  interrupted address _ := congrFun interrupted address
  nodup distinct := registered ▸ distinct
  counted := counted
  repeating := repeating

/-- A change of the kernel extension that is nothing to the KeyToKeys. -/
theorem within_of_shifts (shifts : Kext.Shifts 0 before.kext after.kext)
    (registered : after.kext.prepareTargetItems_ = before.kext.prepareTargetItems_)
    (interrupted : after.interrupted_ = before.interrupted_)
    (same : after.kext.keyboardRepeat = before.kext.keyboardRepeat) :
    Within settings items addresses before after :=
  within_of_same shifts.pressing registered interrupted
    (fun _ counted => counted.of_shifts shifts)
    (congrArg (KeyboardRepeat.Repeating settings.pairs) same).mpr

/-- A change of members that only their own class reads. -/
theorem within_of_kext (same : after.kext = before.kext)
    (interrupted : after.interrupted_ = before.interrupted_) :
    Within settings items addresses before after :=
  within_of_shifts (same ▸ Kext.Shifts.refl _) (by rw [same]) interrupted (by rw [same])

theorem nodup_registered (address : Nat) {kext : Kext}
    (distinct : kext.prepareTargetItems_.Nodup) :
    (kext.registerPrepareTargetItem address).prepareTargetItems_.Nodup := by
  have rest := distinct.filter (fun other => decide (other ≠ address))
  show (kext.prepareTargetItems_.filter _ ++ [address]).Nodup
  refine List.nodup_append.2 ⟨rest, List.nodup_singleton address, ?_⟩
  intro other listed last same
  simp_all [List.mem_filter]

theorem mem_registered {address other : Nat} (different : other ≠ address) (kext : Kext) :
    other ∈ (kext.registerPrepareTargetItem address).prepareTargetItems_ ↔
      other ∈ kext.prepareTargetItems_ := by
  show other ∈ kext.prepareTargetItems_.filter _ ++ [address] ↔ _
  simp [List.mem_filter, different]

theorem mem_unregistered {address other : Nat} (different : other ≠ address) (kext : Kext) :
    other ∈ (kext.unregisterPrepareTargetItem address).prepareTargetItems_ ↔
      other ∈ kext.prepareTargetItems_ := by
  show other ∈ kext.prepareTargetItems_.filter _ ↔ _
  simp [List.mem_filter, different]

/-- An accepted call is about its own KeyToKey. -/
theorem within_of_accepted {keyToKey : KeyToKey} {params : Params} {iskeydown : Bool}
    (accepted : KeyToKey.Accepted keyToKey params iskeydown before.kext after.kext)
    (interrupted : after.interrupted_ = before.interrupted_)
    (counted : ∀ physical, KeyToKeys.Counted settings items.keyToKeys physical before.kext →
      KeyToKeys.Counted settings items.keyToKeys physical after.kext)
    (repeating : before.kext.toSending.Repeating settings →
      after.kext.toSending.Repeating settings) :
    Within settings items [keyToKey.address] before after where
  pressing address other := by
    have different : address ≠ keyToKey.address := by simpa using other
    unfold State.count
    rw [accepted.pressing]
    cases iskeydown with
    | true => simp [Ne.symm different]
    | false => exact List.count_erase_of_ne different
  registered address other := by
    have different : address ≠ keyToKey.address := by simpa using other
    unfold State.Registered
    rw [accepted.registered]
    split
    · exact mem_registered different before.kext
    · exact Iff.rfl
  interrupted address _ := congrFun interrupted address
  nodup distinct := by
    rw [accepted.registered]
    split
    · exact nodup_registered _ distinct
    · exact distinct
  counted := counted
  repeating := repeating

end

section

variable {settings : Settings} (apart : settings.ButtonKeysApart) {items : Remappings}
  {keyToKey : KeyToKey} {arriving : Arriving} {result after : Result}
include apart

theorem callRemap_accepted
    (accepted : callRemap settings keyToKey arriving result = some after) :
    result.2 = false ∧ after.2 = true ∧ after.1 = { result.1 with kext := after.1.kext } ∧
      ∃ iskeydown,
        KeyToKey.Accepted keyToKey arriving.params iskeydown result.1.kext after.1.kext := by
  obtain ⟨kext, remapped, rfl⟩ := Option.map_eq_some_iff.1 accepted
  obtain ⟨unmapped, taken⟩ := KeyToKey.remap_accepted apart remapped
  exact ⟨unmapped, rfl, rfl, taken⟩

variable (member : keyToKey ∈ items.keyToKeys.list)
include member

theorem callRemap_within
    (accepted : callRemap settings keyToKey arriving result = some after) :
    Within settings items [keyToKey.address] result.1 after.1 := by
  obtain ⟨-, -, -, iskeydown, taken⟩ := callRemap_accepted apart accepted
  obtain ⟨kext, remapped, rfl⟩ := Option.map_eq_some_iff.1 accepted
  exact within_of_accepted taken rfl
    (fun _ counted => KeyToKeys.remap_counted apart member counted remapped)
    (fun repeating => KeyToKey.remap_repeating repeating remapped)

theorem pseudo_within (iskeydown : Bool) :
    Within settings items [keyToKey.address] result.1
      (pseudo settings keyToKey (if iskeydown then .DOWN else .UP) arriving result).1 := by
  have counted (physical : Net)
      (counted : KeyToKeys.Counted settings items.keyToKeys physical result.1.kext) :=
    KeyToKey.call_remap_counted apart member iskeydown arriving.physicalEventType counted
  have repeating := @KeyToKey.call_remap_repeating settings keyToKey iskeydown
    arriving.physicalEventType result.1.kext
  obtain ⟨pressing, registered, -⟩ | ⟨params, -, accepted⟩ :=
    @KeyToKey.call_remap_cases settings keyToKey apart iskeydown arriving.physicalEventType
      result.1.kext
  · exact within_of_same pressing registered rfl counted repeating
  · exact within_of_accepted accepted rfl counted repeating

theorem downup_within :
    Within settings items [keyToKey.address] result.1
      (downup settings keyToKey arriving result).1 :=
  (pseudo_within apart member true).trans (pseudo_within apart member false)

end

section

variable {settings : Settings} (apart : settings.ButtonKeysApart) {items : Remappings}
  {keyToKey : KeyToKey} {arriving : Arriving} {result : Result}
include apart

theorem pseudo_down_count :
    let after := (pseudo settings keyToKey .DOWN arriving result).1.count keyToKey.address
    after = result.1.count keyToKey.address ∨
      (keyToKey.fromEvent_ = .KEY .VK_PSEUDO_KEY ∧
        after = result.1.count keyToKey.address + 1) := by
  obtain ⟨pressing, -, -⟩ | ⟨params, pressed, accepted⟩ :=
    @KeyToKey.call_remap_cases settings keyToKey apart true arriving.physicalEventType
      result.1.kext
  · exact .inl (congrArg (List.count keyToKey.address) pressing)
  · refine .inr ⟨accepted.fromEvent_.trans pressed, ?_⟩
    refine (congrArg (List.count keyToKey.address) accepted.pressing).trans ?_
    simp [State.count]

theorem pseudo_up_count :
    let after := (pseudo settings keyToKey .UP arriving result).1.count keyToKey.address
    after = result.1.count keyToKey.address - 1 ∨
      (keyToKey.fromEvent_ ≠ .KEY .VK_PSEUDO_KEY ∧
        after = result.1.count keyToKey.address) := by
  obtain ⟨pressing, -, released⟩ | ⟨params, -, accepted⟩ :=
    @KeyToKey.call_remap_cases settings keyToKey apart false arriving.physicalEventType
      result.1.kext
  · have same := congrArg (List.count keyToKey.address) pressing
    by_cases fromEvent_ : keyToKey.fromEvent_ = .KEY .VK_PSEUDO_KEY
    · have none : result.1.count keyToKey.address = 0 :=
        List.count_eq_zero.2 (released rfl fromEvent_)
      left
      rw [none]
      exact same.trans none
    · exact .inr ⟨fromEvent_, same⟩
  · left
    refine (congrArg (List.count keyToKey.address) accepted.pressing).trans ?_
    exact List.count_erase_self

/-- A key that is tapped is released again. -/
theorem downup_count (none : result.1.count keyToKey.address = 0) :
    (downup settings keyToKey arriving result).1.count keyToKey.address = 0 := by
  have down := @pseudo_down_count settings apart keyToKey arriving result
  have up := @pseudo_up_count settings apart keyToKey arriving
    (pseudo settings keyToKey .DOWN arriving result)
  rw [none] at down
  show (pseudo settings keyToKey .UP arriving
    (pseudo settings keyToKey .DOWN arriving result)).1.count keyToKey.address = 0
  obtain same | ⟨fromEvent_, pressed⟩ := down
  · omega
  · obtain released | ⟨other, -⟩ := up
    · omega
    · exact absurd fromEvent_ other

end

namespace KeyDownUpToKey

/-- What holds of an item between two calls. The key that is pressed when another key interrupts
is pressed at most once, and only while the key of the item is. -/
structure Kept (item : KeyDownUpToKey) (state : State) : Prop where
  itself : state.count item.address = 0
  tapped : state.count item.keytokey_downup_.address = 0
  once : state.count item.keytokey_interrupted_.address ≤ 1
  interrupted : 0 < state.count item.keytokey_interrupted_.address →
    state.interrupted_ item.address = true ∧
      item.keytokey_interrupted_.fromEvent_ = .KEY .VK_PSEUDO_KEY
  pressing : state.interrupted_ item.address = true →
    0 < state.count item.keytokey_from_.address
  registered : state.Registered item.address →
    0 < state.count item.keytokey_from_.address ∧ state.interrupted_ item.address = false

/-- Nothing is pressed for the item but its own key, and it does not wait. -/
structure Settled (item : KeyDownUpToKey) (state : State) : Prop where
  itself : state.count item.address = 0
  tapped : state.count item.keytokey_downup_.address = 0
  none : state.count item.keytokey_interrupted_.address = 0
  off : state.interrupted_ item.address = false
  idle : ¬ state.Registered item.address

theorem Settled.kept {item : KeyDownUpToKey} {state : State} (settled : Settled item state) :
    Kept item state where
  itself := settled.itself
  tapped := settled.tapped
  once := settled.none.le.trans (Nat.zero_le 1)
  interrupted some := absurd settled.none some.ne'
  pressing on := absurd on (by simp [settled.off])
  registered listed := absurd listed settled.idle

section

variable {settings : Settings} (apart : settings.ButtonKeysApart) {items : Remappings}
  {item : KeyDownUpToKey} {arriving : Arriving} {result : Result}
  (distinct : (keyDownUpToKey item).addresses.Nodup)
  (members : ∀ keyToKey ∈ (keyDownUpToKey item).keyToKeys, keyToKey ∈ items.keyToKeys.list)

theorem setInterrupted_within (interrupted_ : Bool) :
    Within settings items [item.address] result.1
      (setInterrupted item interrupted_ result).1 where
  pressing _ _ := rfl
  registered _ _ := Iff.rfl
  interrupted _ other := Function.update_of_ne (by simpa using other) _ _
  nodup := id
  counted _ := id
  repeating := id

theorem unregister_within (address : Nat) (state : State) :
    Within settings items [address] state
      (state.onKext (·.unregisterPrepareTargetItem address)) where
  pressing _ _ := rfl
  registered _ other := mem_unregistered (by simpa using other) _
  interrupted _ _ := rfl
  nodup distinct := distinct.filter _
  counted _ counted := counted.of_shifts (Kext.shifts_of_eq rfl rfl)
  repeating := id

theorem register_within (address : Nat) (state : State) :
    Within settings items [address] state
      (state.onKext (·.registerPrepareTargetItem address)) where
  pressing _ _ := rfl
  registered _ other := mem_registered (by simpa using other) _
  interrupted _ _ := rfl
  nodup distinct := nodup_registered _ distinct
  counted _ counted := counted.of_shifts (Kext.shifts_of_eq rfl rfl)
  repeating := id

include distinct in
theorem addresses_ne : item.address ≠ item.keytokey_from_.address ∧
    item.address ≠ item.keytokey_downup_.address ∧
    item.address ≠ item.keytokey_interrupted_.address ∧
    item.keytokey_from_.address ≠ item.keytokey_downup_.address ∧
    item.keytokey_from_.address ≠ item.keytokey_interrupted_.address ∧
    item.keytokey_downup_.address ≠ item.keytokey_interrupted_.address := by
  simp only [addresses, keyToKeys, address, List.map_cons, List.map_nil, List.nodup_cons,
    List.mem_cons,
    List.not_mem_nil, or_false, not_or] at distinct
  tauto

theorem not_registered (address : Nat) (state : State) :
    ¬ (state.onKext (·.unregisterPrepareTargetItem address)).Registered address := by
  intro listed
  have different := of_decide_eq_true (List.mem_filter.1 listed).2
  exact different rfl

theorem Kept.none_interrupted {state : State} (kept : Kept item state)
    (off : state.interrupted_ item.address = false) :
    state.count item.keytokey_interrupted_.address = 0 := by
  by_contra pressed
  have on := (kept.interrupted (Nat.pos_of_ne_zero pressed)).1
  rw [off] at on
  cases on

include apart distinct members

theorem prepare_kept (kept : Kept item result.1) (registered : result.1.Registered item.address) :
    let after := (prepare settings item arriving result).1
    Within settings items (keyDownUpToKey item).addresses result.1 after ∧ Kept item after ∧
      (arriving.params.iskeydown ≠ none → ¬ after.Registered item.address) := by
  obtain ⟨notFrom, notDownup, notInterrupted, fromDownup, fromInterrupted, downupInterrupted⟩ :=
    addresses_ne distinct
  obtain ⟨pressed, off⟩ := kept.registered registered
  have none_interrupted := kept.none_interrupted off
  unfold prepare
  cases known : arriving.params.iskeydown with
  | none => exact ⟨.refl _, kept, fun impossible => absurd rfl impossible⟩
  | some iskeydown =>
      cases accepted : callRemap settings item.keytokey_from_ arriving result with
      | some taken =>
          let tapped := downup settings item.keytokey_downup_ arriving taken
          let after := tapped.1.onKext (·.unregisterPrepareTargetItem item.address)
          have first : Within settings items [item.keytokey_from_.address] result.1 taken.1 :=
            callRemap_within apart (members _ (by simp [keyToKeys])) accepted
          have second : Within settings items [item.keytokey_downup_.address] taken.1 tapped.1 :=
            downup_within apart (members _ (by simp [keyToKeys]))
          have third : Within settings items [item.address] tapped.1 after :=
            unregister_within item.address tapped.1
          have unregistered : ¬ after.Registered item.address := not_registered _ _
          have noneTapped : after.count item.keytokey_downup_.address = 0 := by
            apply downup_count apart
            rw [first.pressing _ (by simpa using fromDownup.symm)]
            exact kept.tapped
          have stillOff : after.interrupted_ item.address = false :=
            ((second.interrupted _ (by simpa using notDownup)).trans
              (first.interrupted _ (by simpa using notFrom))).trans off
          have stillNone : after.count item.keytokey_interrupted_.address = 0 :=
            ((second.pressing _ (by simpa using downupInterrupted.symm)).trans
              (first.pressing _ (by simpa using fromInterrupted.symm))).trans none_interrupted
          refine ⟨?_, ?_, fun _ => unregistered⟩
          · exact ((first.among (by simp [addresses, keyToKeys, address])).trans
              (second.among (by simp [addresses, keyToKeys, address]))).trans
              (third.among (by simp [addresses, keyToKeys, address]))
          · have settled : Settled item after :=
              { itself := ((second.pressing _ (by simpa using notDownup)).trans
                  (first.pressing _ (by simpa using notFrom))).trans kept.itself
                tapped := noneTapped
                none := stillNone
                off := stillOff
                idle := unregistered }
            exact settled.kept
      | none =>
          let down := pseudo settings item.keytokey_interrupted_ .DOWN arriving result
          let set := setInterrupted item true down
          let after := set.1.onKext (·.unregisterPrepareTargetItem item.address)
          have first : Within settings items [item.keytokey_interrupted_.address] result.1 down.1 :=
            pseudo_within apart (members _ (by simp [keyToKeys])) true
          have second : Within settings items [item.address] down.1 set.1 :=
            setInterrupted_within true
          have third : Within settings items [item.address] set.1 after :=
            unregister_within item.address set.1
          have unregistered : ¬ after.Registered item.address := not_registered _ _
          have on : after.interrupted_ item.address = true := Function.update_self _ _ _
          have counted : after.count item.keytokey_interrupted_.address = 0 ∨
              (item.keytokey_interrupted_.fromEvent_ = .KEY .VK_PSEUDO_KEY ∧
                after.count item.keytokey_interrupted_.address = 1) := by
            have down :=
              @pseudo_down_count settings apart item.keytokey_interrupted_ arriving result
            rw [none_interrupted] at down
            exact down
          refine ⟨?_, ?_, fun _ => unregistered⟩
          · exact ((first.among (by simp [addresses, keyToKeys, address])).trans
              (second.among (by simp [addresses, keyToKeys, address]))).trans
              (third.among (by simp [addresses, keyToKeys, address]))
          · constructor
            · exact (first.pressing _ (by simpa using notInterrupted)).trans kept.itself
            · exact (first.pressing _ (by simpa using downupInterrupted)).trans kept.tapped
            · obtain none | ⟨-, one⟩ := counted
              · exact none.le.trans (Nat.zero_le 1)
              · exact one.le
            · intro some
              refine ⟨on, ?_⟩
              obtain none | ⟨fromEvent_, -⟩ := counted
              · exact absurd none some.ne'
              · exact fromEvent_
            · intro _
              have same : after.count item.keytokey_from_.address =
                  result.1.count item.keytokey_from_.address :=
                first.pressing _ (by simpa using fromInterrupted)
              exact same ▸ pressed
            · exact fun listed => absurd listed unregistered

omit distinct members in
/-- Without a delayed action, a KeyToKey is not registered. -/
theorem pseudo_registered {keyToKey : KeyToKey} (undelayed : keyToKey.hasDelayedAction = false)
    (iskeydown : Bool) (result : Result) :
    (pseudo settings keyToKey (if iskeydown then .DOWN else .UP) arriving
      result).1.kext.prepareTargetItems_ = result.1.kext.prepareTargetItems_ := by
  obtain ⟨-, registered, -⟩ | ⟨params, -, accepted⟩ :=
    @KeyToKey.call_remap_cases settings keyToKey apart iskeydown arriving.physicalEventType
      result.1.kext
  · exact registered
  · refine accepted.registered.trans ?_
    rw [undelayed, Bool.and_false]
    rfl

omit distinct members in
/-- And so prepare only takes the item itself from the list. -/
theorem prepare_registered (other : Nat) :
    (prepare settings item arriving result).1.Registered other → result.1.Registered other := by
  unfold prepare
  split
  · exact id
  · intro listed
    have before := List.mem_of_mem_filter listed
    revert before
    cases accepted : callRemap settings item.keytokey_from_ arriving result with
    | some taken =>
        obtain ⟨-, -, -, iskeydown, remapped⟩ := callRemap_accepted apart accepted
        have first := remapped.registered
        rw [item.undelayed _ (by simp), Bool.and_false] at first
        have undelayed := item.undelayed item.keytokey_downup_ (by simp)
        have second := @pseudo_registered settings apart arriving item.keytokey_downup_ undelayed
          true taken
        have third := @pseudo_registered settings apart arriving item.keytokey_downup_ undelayed
          false (pseudo settings item.keytokey_downup_ .DOWN arriving taken)
        have same := (third.trans second).trans first
        exact fun before => (congrArg (other ∈ ·) same).mp before
    | none =>
        have same := @pseudo_registered settings apart arriving item.keytokey_interrupted_
          (item.undelayed _ (by simp)) true result
        exact fun before => (congrArg (other ∈ ·) same).mp before

/-- The end of remap for a key that is accepted: what was interrupted ends. -/
theorem interrupted_ends (itself : result.1.count item.address = 0)
    (tapped : result.1.count item.keytokey_downup_.address = 0)
    (once : result.1.count item.keytokey_interrupted_.address ≤ 1)
    (interrupted : 0 < result.1.count item.keytokey_interrupted_.address →
      result.1.interrupted_ item.address = true ∧
        item.keytokey_interrupted_.fromEvent_ = .KEY .VK_PSEUDO_KEY)
    (idle : ¬ result.1.Registered item.address) :
    let ended := if result.1.interrupted_ item.address then
        pseudo settings item.keytokey_interrupted_ .UP arriving
          (setInterrupted item false result)
      else result
    Within settings items (keyDownUpToKey item).addresses result.1 ended.1 ∧
      Settled item ended.1 := by
  obtain ⟨notFrom, notDownup, notInterrupted, fromDownup, fromInterrupted, downupInterrupted⟩ :=
    addresses_ne distinct
  intro ended
  by_cases on : result.1.interrupted_ item.address = true
  · let set := setInterrupted item false result
    have taken : ended = pseudo settings item.keytokey_interrupted_ .UP arriving set := if_pos on
    have first : Within settings items [item.address] result.1 set.1 := setInterrupted_within false
    have second : Within settings items [item.keytokey_interrupted_.address] set.1 ended.1 := by
      rw [taken]
      exact pseudo_within apart (members _ (by simp [keyToKeys])) false
    have none : ended.1.count item.keytokey_interrupted_.address = 0 := by
      have up := @pseudo_up_count settings apart item.keytokey_interrupted_ arriving set
      rw [← taken] at up
      have same : set.1.count item.keytokey_interrupted_.address =
          result.1.count item.keytokey_interrupted_.address := rfl
      obtain released | ⟨other, still⟩ := up
      · omega
      · by_contra pressed
        exact other (interrupted (by omega)).2
    refine ⟨(first.among (by simp [addresses, keyToKeys, address])).trans
      (second.among (by simp [addresses, keyToKeys, address])), ?_⟩
    constructor
    · exact (second.pressing _ (by simpa using notInterrupted)).trans itself
    · exact (second.pressing _ (by simpa using downupInterrupted)).trans tapped
    · exact none
    · exact (second.interrupted _ (by simpa using notInterrupted)).trans
        (Function.update_self _ _ _)
    · exact fun listed => idle ((second.registered _ (by simpa using notInterrupted)).1 listed)
  · have taken : ended = result := if_neg on
    rw [taken]
    refine ⟨.refl _, itself, tapped, ?_, Bool.eq_false_of_not_eq_true on, idle⟩
    by_contra pressed
    exact on (interrupted (Nat.pos_of_ne_zero pressed)).1

/-- In the code, prepare comes first, and so the item is not registered when it takes an event. -/
theorem remap_kept (kept : Kept item result.1)
    (ready : result.2 = false → arriving.params.iskeydown ≠ none →
      ¬ result.1.Registered item.address) :
    let after := remap settings item arriving result
    Within settings items (keyDownUpToKey item).addresses result.1 after.1 ∧ Kept item after.1 ∧
      (after.2 = false → after = result) := by
  obtain ⟨notFrom, notDownup, notInterrupted, fromDownup, fromInterrupted, downupInterrupted⟩ :=
    addresses_ne distinct
  unfold remap
  cases accepted : callRemap settings item.keytokey_from_ arriving result with
  | none => exact ⟨.refl _, kept, fun _ => rfl⟩
  | some taken =>
      obtain ⟨unmapped, mapped, -, iskeydown, remapped⟩ := callRemap_accepted apart accepted
      have unregistered : ¬ result.1.Registered item.address :=
        ready unmapped (by simp [remapped.known])
      have first : Within settings items [item.keytokey_from_.address] result.1 taken.1 :=
        callRemap_within apart (members _ (by simp [keyToKeys])) accepted
      have idle : ¬ taken.1.Registered item.address := fun listed =>
        unregistered ((first.registered _ (by simpa using notFrom)).1 listed)
      have sameOn := first.interrupted _ (by simpa using notFrom : item.address ∉ [_])
      have sameCount := first.pressing _
        (by simpa using fromInterrupted.symm : item.keytokey_interrupted_.address ∉ [_])
      obtain ⟨second, settled⟩ := @interrupted_ends settings apart items item arriving taken
        distinct members ((first.pressing _ (by simpa using notFrom)).trans kept.itself)
        ((first.pressing _ (by simpa using fromDownup.symm)).trans kept.tapped)
        (sameCount ▸ kept.once)
        (fun some => sameOn ▸ kept.interrupted (sameCount ▸ some)) idle
      dsimp only
      revert second settled
      generalize ended_eq : (if taken.1.interrupted_ item.address = true then
          pseudo settings item.keytokey_interrupted_ .UP arriving
            (setInterrupted item false taken)
        else taken) = ended
      intro second settled
      have endedMapped : ended.2 = true := by
        rw [← ended_eq]
        split
        · exact mapped
        · exact mapped
      have before := (first.among (by simp [addresses, keyToKeys, address])).trans second
      split
      · next pressing =>
        let registered : Result :=
          (ended.1.onKext (·.registerPrepareTargetItem item.address), ended.2)
        let after := setInterrupted item false registered
        have third : Within settings items [item.address] ended.1 registered.1 :=
          register_within item.address ended.1
        have fourth : Within settings items [item.address] registered.1 after.1 :=
          setInterrupted_within false
        have pressed : 0 < after.1.count item.keytokey_from_.address :=
          List.count_pos_iff.2 (of_decide_eq_true pressing)
        have off : after.1.interrupted_ item.address = false := Function.update_self _ _ _
        refine ⟨(before.trans (third.among (by simp [addresses, keyToKeys, address]))).trans
          (fourth.among (by simp [addresses, keyToKeys, address])), ?_, ?_⟩
        · constructor
          · exact settled.itself
          · exact settled.tapped
          · exact settled.none.le.trans (Nat.zero_le 1)
          · exact fun some => absurd settled.none some.ne'
          · intro on
            rw [off] at on
            cases on
          · exact fun _ => ⟨pressed, off⟩
        · intro unmapped
          exact absurd (unmapped.symm.trans endedMapped) Bool.false_ne_true
      · refine ⟨before, settled.kept, fun unmapped => ?_⟩
        exact absurd (unmapped.symm.trans endedMapped) Bool.false_ne_true

end

end KeyDownUpToKey

section

variable {settings : Settings} {items : Remappings} {arriving : Arriving} {result : Result}
  {addresses tapped : List Nat}

/-- A call of which only keys that are tapped can remain. -/
structure Taps (settings : Settings) (items : Remappings) (addresses tapped : List Nat)
    (before after : Result) : Prop where
  within : Within settings items addresses before.1 after.1
  none : (∀ address ∈ tapped, before.1.count address = 0) →
    ∀ address ∈ tapped, after.1.count address = 0
  mapped : before.2 = true → after.2 = true

theorem Taps.refl (result : Result) : Taps settings items addresses tapped result result :=
  ⟨.refl _, id, id⟩

theorem Taps.trans {before middle after : Result}
    (left : Taps settings items addresses tapped before middle)
    (right : Taps settings items addresses tapped middle after) :
    Taps settings items addresses tapped before after :=
  ⟨left.within.trans right.within, fun none => right.none (left.none none),
    fun mapped => right.mapped (left.mapped mapped)⟩

/-- The members that count time and presses, and isremapped. -/
theorem taps_of_kext {before after : Result} (same : after.1.kext = before.1.kext)
    (interrupted : after.1.interrupted_ = before.1.interrupted_)
    (mapped : before.2 = true → after.2 = true) :
    Taps settings items addresses tapped before after where
  within := within_of_kext same interrupted
  none none address member := by
    unfold State.count
    rw [same]
    exact none address member
  mapped := mapped

theorem taps_set (result : Result) : Taps settings items addresses tapped result
    (result.1.onKext (·.onSending (·.onFlagStatus FlagStatus.set)), result.2) where
  within := within_of_shifts (Kext.shifts_onSending (Sending.shifts_set _)) rfl rfl rfl
  none := id
  mapped := id

theorem taps_downup (apart : settings.ButtonKeysApart) {keyToKey : KeyToKey}
    (member : keyToKey ∈ items.keyToKeys.list) (inside : keyToKey.address ∈ addresses) :
    Taps settings items addresses tapped result (downup settings keyToKey arriving result) where
  within := (downup_within apart member).among inside
  none none address member' := by
    by_cases same : address = keyToKey.address
    · subst same
      exact downup_count apart (none _ member')
    · rw [(downup_within apart member).pressing address (by simpa using same)]
      exact none address member'
  mapped := id

theorem taps_callRemap (apart : settings.ButtonKeysApart) {keyToKey : KeyToKey}
    (member : keyToKey ∈ items.keyToKeys.list) (inside : keyToKey.address ∈ addresses)
    (other : keyToKey.address ∉ tapped) {after : Result}
    (accepted : callRemap settings keyToKey arriving result = some after) :
    Taps settings items addresses tapped result after where
  within := (callRemap_within apart member accepted).among inside
  none none address member' := by
    have different : address ≠ keyToKey.address := fun same => other (same ▸ member')
    rw [(callRemap_within apart member accepted).pressing address (by simpa using different)]
    exact none address member'
  mapped _ := (callRemap_accepted apart accepted).2.1

theorem DoublePressModifier.remap_taps (apart : settings.ButtonKeysApart)
    {config : ComposedConfig} {item : DoublePressModifier}
    (members : ∀ keyToKey ∈ (doublePressModifier item).keyToKeys,
      keyToKey ∈ items.keyToKeys.list)
    (other : item.keytokey_.address ∉ [item.address, item.keytokey_fire_.address]) :
    Taps settings items (doublePressModifier item).addresses
      [item.address, item.keytokey_fire_.address] result
      (DoublePressModifier.remap settings config item arriving result) := by
  unfold DoublePressModifier.remap
  split
  · exact .refl result
  · next iskeydown known =>
    split
    · exact taps_of_kext rfl rfl id
    · next taken accepted =>
      extract_lets late counted begun pressCount_ cleared set
      have first : Taps settings items (doublePressModifier item).addresses
          [item.address, item.keytokey_fire_.address] result taken :=
        taps_callRemap apart (members _ (by simp [keyToKeys]))
          (by simp [addresses, keyToKeys]) other accepted
      have second : Taps settings items (doublePressModifier item).addresses
          [item.address, item.keytokey_fire_.address] taken counted := by
        unfold counted
        split
        · exact taps_of_kext rfl rfl id
        · exact .refl taken
      have third : Taps settings items (doublePressModifier item).addresses
          [item.address, item.keytokey_fire_.address] counted begun := taps_of_kext rfl rfl id
      have before := (first.trans second).trans third
      split
      · exact before.trans (taps_of_kext rfl rfl id)
      · split
        · have fourth : Taps settings items (doublePressModifier item).addresses
              [item.address, item.keytokey_fire_.address] begun cleared :=
            taps_of_kext rfl rfl id
          exact ((before.trans fourth).trans (taps_set cleared)).trans
            (taps_downup apart (members _ (by simp [keyToKeys])) (by simp [addresses, keyToKeys]))
        · exact before

theorem ScrollWheelToKey.remap_taps (apart : settings.ButtonKeysApart)
    {config : ComposedConfig} {item : ScrollWheelToKey}
    (members : ∀ keyToKey ∈ (scrollWheelToKey item).keyToKeys,
      keyToKey ∈ items.keyToKeys.list) :
    Taps settings items (scrollWheelToKey item).addresses (scrollWheelToKey item).addresses result
      (ScrollWheelToKey.remap settings config item arriving result) := by
  have set (members : ScrollWheelToKey.Members) (result : Result) : Taps settings items
      (scrollWheelToKey item).addresses (scrollWheelToKey item).addresses result
      (setMembers item members result) := taps_of_kext rfl rfl id
  unfold ScrollWheelToKey.remap
  split
  · extract_lets members' millisec begun continued first unmapped fired mapped
    have marked : Taps settings items (scrollWheelToKey item).addresses
        (scrollWheelToKey item).addresses result mapped := taps_of_kext rfl rfl fun _ => rfl
    split
    · split
      · exact taps_of_kext rfl rfl fun _ => rfl
      · exact set begun result
    · split
      · exact set unmapped result
      · split
        · exact set unmapped result
        · split
          · exact set unmapped result
          · split
            · exact set unmapped result
            · split
              · exact (marked.trans (set _ mapped)).trans
                  (taps_downup apart (members _ (by simp [keyToKeys]))
                    (by simp [addresses, keyToKeys]))
              · exact marked.trans (set fired mapped)
  · exact .refl result

theorem PointingRelativeToKey.remap_taps (apart : settings.ButtonKeysApart)
    {config : ComposedConfig} {item : PointingRelativeToKey}
    (members : ∀ keyToKey ∈ (pointingRelativeToKey item).keyToKeys,
      keyToKey ∈ items.keyToKeys.list) :
    Taps settings items (pointingRelativeToKey item).addresses
      (pointingRelativeToKey item).addresses result
      (PointingRelativeToKey.remap settings config item arriving result) := by
  have set (members : PointingRelativeToKey.Members) (result : Result) : Taps settings items
      (pointingRelativeToKey item).addresses (pointingRelativeToKey item).addresses result
      (setMembers item members result) := taps_of_kext rfl rfl id
  unfold PointingRelativeToKey.remap
  split
  · next params _ =>
    split
    · exact .refl result
    · split
      · exact .refl result
      · split
        · exact .refl result
        · extract_lets mapped members' pushed pr
          have marked : Taps settings items (pointingRelativeToKey item).addresses
              (pointingRelativeToKey item).addresses result mapped :=
            taps_of_kext rfl rfl fun _ => rfl
          split
          · exact marked.trans (set pushed mapped)
          · next keyToKey found =>
            have listed : keyToKey ∈ (pointingRelativeToKey item).keyToKeys := by
              revert found
              cases pr <;>
                simp +contextual [PointingRelativeToKey.keytokey_, keyToKeys, eq_comm]
            have inside : keyToKey.address ∈ (pointingRelativeToKey item).addresses :=
              List.mem_cons_of_mem _ (List.mem_map_of_mem listed)
            exact ((marked.trans (taps_downup apart (members _ listed) inside)).trans
              (taps_set _)).trans (set _ _)
  · exact .refl result

end

end RemapFuncItem

end Karabiner
