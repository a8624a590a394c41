import Karabiner.ComposedBalance

set_option autoImplicit false

/- Runs of Core over any items: whatever comes, the counters hold what the physical keys and the
keys that the items hold have added, and an item holds nothing without the key it is for. -/
namespace Karabiner

namespace RemapFuncItem

/-- The keys for which the item can hold others. -/
def fromAddresses : RemapFuncItem → List Nat
  | keyToKey item => [item.address]
  | keyDownUpToKey item => [item.keytokey_from_.address]
  | doublePressModifier item => [item.keytokey_.address]
  | scrollWheelToKey _ | pointingRelativeToKey _ => []

/-- The keys that are only tapped, with the address that is no key. -/
def tapped : RemapFuncItem → List Nat
  | keyToKey _ => []
  | keyDownUpToKey item => [item.address, item.keytokey_downup_.address]
  | doublePressModifier item => [item.address, item.keytokey_fire_.address]
  | scrollWheelToKey item => (scrollWheelToKey item).addresses
  | pointingRelativeToKey item => (pointingRelativeToKey item).addresses

/-- What holds of an item between two calls. -/
def Kept : RemapFuncItem → State → Prop
  | keyDownUpToKey item, state => KeyDownUpToKey.Kept item state
  | item, state => ∀ address ∈ item.tapped, state.count address = 0

section

variable {settings : Settings} {items : Remappings} {item : RemapFuncItem} {addresses : List Nat}
  {before after : State}

theorem tapped_subset (item : RemapFuncItem) : item.tapped ⊆ item.addresses := by
  cases item with
  | keyToKey item => exact List.nil_subset _
  | keyDownUpToKey item => intro; simp [tapped, RemapFuncItem.addresses, keyToKeys, address]; tauto
  | doublePressModifier item =>
      intro; simp [tapped, RemapFuncItem.addresses, keyToKeys, address]; tauto
  | scrollWheelToKey item => exact List.Subset.refl _
  | pointingRelativeToKey item => exact List.Subset.refl _

/-- Where the same is pressed and registered, and the same is interrupted, the item is kept. -/
theorem Kept.of_same
    (pressing : ∀ address ∈ item.addresses, after.count address = before.count address)
    (registered : ∀ downup, item = keyDownUpToKey downup →
      (after.Registered downup.address ↔ before.Registered downup.address))
    (interrupted : after.interrupted_ item.address = before.interrupted_ item.address)
    (kept : Kept item before) : Kept item after := by
  have tapped (none : ∀ address ∈ item.tapped, before.count address = 0) :
      ∀ address ∈ item.tapped, after.count address = 0 := fun address member =>
    (pressing address (tapped_subset item member)).trans (none address member)
  cases item with
  | keyToKey item => exact tapped kept
  | keyDownUpToKey item =>
      have same (address : Nat) (member : address ∈ (keyDownUpToKey item).addresses) :=
        pressing address member
      obtain ⟨itself, tapped, once, interrupted', pressing', registered'⟩ := kept
      have itself_mem : item.address ∈ (keyDownUpToKey item).addresses := List.mem_cons_self
      have from_mem : item.keytokey_from_.address ∈ (keyDownUpToKey item).addresses := by
        simp [RemapFuncItem.addresses, keyToKeys]
      have downup_mem : item.keytokey_downup_.address ∈ (keyDownUpToKey item).addresses := by
        simp [RemapFuncItem.addresses, keyToKeys]
      have interrupted_mem :
          item.keytokey_interrupted_.address ∈ (keyDownUpToKey item).addresses := by
        simp [RemapFuncItem.addresses, keyToKeys]
      have on : after.interrupted_ item.address = before.interrupted_ item.address := interrupted
      have listed := registered item rfl
      constructor
      · rwa [same _ itself_mem]
      · rwa [same _ downup_mem]
      · rwa [same _ interrupted_mem]
      · rwa [same _ interrupted_mem, on]
      · rwa [same _ from_mem, on]
      · rwa [same _ from_mem, on, listed]
  | doublePressModifier item => exact tapped kept
  | scrollWheelToKey item => exact tapped kept
  | pointingRelativeToKey item => exact tapped kept

theorem Kept.of_within (within : Within settings items addresses before after)
    (apart : ∀ address ∈ item.addresses, address ∉ addresses) (kept : Kept item before) :
    Kept item after := by
  have itself : item.address ∉ addresses := apart _ (by
    cases item <;> simp [RemapFuncItem.addresses, address])
  exact kept.of_same (fun address member => within.pressing address (apart address member))
    (fun _ same => within.registered _ (by subst same; exact itself))
    (within.interrupted _ itself)

/-- An item holds a key only with the key that it is for. -/
theorem Kept.pressing (kept : Kept item before) {address : Nat}
    (member : address ∈ item.addresses) (pressed : 0 < before.count address) :
    ∃ other ∈ item.fromAddresses, 0 < before.count other := by
  have not_tapped (none : ∀ address ∈ item.tapped, before.count address = 0)
      (tapped : address ∈ item.tapped) : False := absurd (none address tapped) pressed.ne'
  cases item with
  | keyToKey item =>
      have same : address = item.address := by simpa [RemapFuncItem.addresses] using member
      exact ⟨item.address, List.mem_singleton_self _, same ▸ pressed⟩
  | keyDownUpToKey item =>
      refine ⟨item.keytokey_from_.address, List.mem_singleton_self _, ?_⟩
      simp only [RemapFuncItem.addresses, keyToKeys, RemapFuncItem.address, List.map_cons,
        List.map_nil, List.mem_cons, List.not_mem_nil, or_false] at member
      obtain rfl | rfl | rfl | rfl := member
      · exact absurd kept.itself pressed.ne'
      · exact pressed
      · exact absurd kept.tapped pressed.ne'
      · exact kept.pressing (kept.interrupted pressed).1
  | doublePressModifier item =>
      refine ⟨item.keytokey_.address, List.mem_singleton_self _, ?_⟩
      simp only [RemapFuncItem.addresses, keyToKeys, RemapFuncItem.address, List.map_cons,
        List.map_nil, List.mem_cons, List.not_mem_nil, or_false] at member
      obtain rfl | rfl | rfl := member
      · exact (not_tapped kept (by simp [tapped])).elim
      · exact pressed
      · exact (not_tapped kept (by simp [tapped])).elim
  | scrollWheelToKey item => exact (not_tapped kept member).elim
  | pointingRelativeToKey item => exact (not_tapped kept member).elim

end

section

variable {settings : Settings} (apart : settings.ButtonKeysApart) {config : ComposedConfig}
  {items : Remappings} {item : RemapFuncItem} {arriving : Arriving} {result : Result}
  (distinct : item.addresses.Nodup)
  (members : ∀ keyToKey ∈ item.keyToKeys, keyToKey ∈ items.keyToKeys.list)
include apart distinct members

theorem remap_kept (kept : Kept item result.1)
    (ready : ∀ downup, item = keyDownUpToKey downup → result.2 = false →
      arriving.params.iskeydown ≠ none → ¬ result.1.Registered downup.address) :
    let after := remap settings config item arriving result
    Within settings items item.addresses result.1 after.1 ∧ Kept item after.1 ∧
      (result.2 = true → after.2 = true) ∧
      (after.2 = false → ∀ downup, item = keyDownUpToKey downup → after = result) := by
  cases item with
  | keyToKey item =>
      have taps : Taps settings items (keyToKey item).addresses (keyToKey item).tapped result
          ((callRemap settings item arriving result).getD result) := by
        cases accepted : callRemap settings item arriving result with
        | none => exact .refl result
        | some after =>
            exact taps_callRemap apart (members _ (by simp [keyToKeys])) (by simp [addresses])
              List.not_mem_nil accepted
      exact ⟨taps.within, taps.none kept, taps.mapped, fun _ _ impossible => by
        cases impossible⟩
  | keyDownUpToKey item =>
      obtain ⟨within, after_kept, unmapped⟩ :=
        KeyDownUpToKey.remap_kept apart distinct members kept (ready item rfl)
      refine ⟨within, after_kept, fun mapped => ?_, fun later _ _ => unmapped later⟩
      by_contra later
      have same := unmapped (Bool.eq_false_of_not_eq_true later)
      exact later ((congrArg Prod.snd same).trans mapped)
  | doublePressModifier item =>
      have other : item.keytokey_.address ∉ [item.address, item.keytokey_fire_.address] := by
        simp only [addresses, keyToKeys, address, List.map_cons, List.map_nil, List.nodup_cons,
          List.mem_cons, List.not_mem_nil, or_false, not_or] at distinct
        simp only [List.mem_cons, List.not_mem_nil, or_false, not_or]
        exact ⟨fun same => distinct.1.1 same.symm, distinct.2.1⟩
      have taps : Taps settings items (doublePressModifier item).addresses
          (doublePressModifier item).tapped result
          (DoublePressModifier.remap settings config item arriving result) :=
        DoublePressModifier.remap_taps apart members other
      exact ⟨taps.within, taps.none kept, taps.mapped, fun _ _ impossible => by
        cases impossible⟩
  | scrollWheelToKey item =>
      have taps : Taps settings items (scrollWheelToKey item).addresses
          (scrollWheelToKey item).tapped result
          (ScrollWheelToKey.remap settings config item arriving result) :=
        ScrollWheelToKey.remap_taps apart members
      exact ⟨taps.within, taps.none kept, taps.mapped, fun _ _ impossible => by
        cases impossible⟩
  | pointingRelativeToKey item =>
      have taps : Taps settings items (pointingRelativeToKey item).addresses
          (pointingRelativeToKey item).tapped result
          (PointingRelativeToKey.remap settings config item arriving result) :=
        PointingRelativeToKey.remap_taps apart members
      exact ⟨taps.within, taps.none kept, taps.mapped, fun _ _ impossible => by
        cases impossible⟩

end

/-- KeyToKey::prepare only takes its own object from the list. -/
theorem keyToKey_prepare_within {settings : Settings} (apart : settings.ButtonKeysApart)
    {items : Remappings} (keyToKey : KeyToKey) (params : Params) (state : State) :
    Within settings items [keyToKey.address] state
      (state.onKext (keyToKey.prepare settings params)) where
  pressing address _ := congrArg (List.count address)
    (KeyToKey.prepare_shifts apart params state.kext).pressing
  registered address other := by
    unfold State.Registered
    show address ∈ (keyToKey.prepare settings params state.kext).prepareTargetItems_ ↔ _
    rw [KeyToKey.prepare_registered]
    split
    · exact mem_unregistered (by simpa using other) _
    · exact Iff.rfl
  interrupted _ _ := rfl
  nodup distinct := by
    show (keyToKey.prepare settings params state.kext).prepareTargetItems_.Nodup
    rw [KeyToKey.prepare_registered]
    split
    · exact distinct.filter _
    · exact distinct
  counted _ counted := counted.of_shifts (KeyToKey.prepare_shifts apart params state.kext)
  repeating := (congrArg (KeyboardRepeat.Repeating settings.pairs)
    (KeyToKey.prepare_keyboardRepeat params state.kext)).mpr

end RemapFuncItem

open RemapFuncItem

namespace Remappings

variable {items : Remappings}

theorem item_distinct {item : RemapFuncItem} (member : item ∈ items.list) :
    item.addresses.Nodup :=
  (List.nodup_flatMap.1 items.distinct).1 item member

theorem item_members {item : RemapFuncItem} (member : item ∈ items.list) :
    ∀ keyToKey ∈ item.keyToKeys, keyToKey ∈ items.keyToKeys.list :=
  fun _ inside => List.mem_flatMap.2 ⟨item, member, inside⟩

theorem item_apart {item other : RemapFuncItem} (member : item ∈ items.list)
    (otherMember : other ∈ items.list) (different : item ≠ other) :
    ∀ address ∈ item.addresses, address ∉ other.addresses := by
  have pairs := (List.nodup_flatMap.1 items.distinct).2
  have symmetric : Std.Symm (Function.onFun List.Disjoint RemapFuncItem.addresses) :=
    ⟨fun _ _ apart _ first second => apart second first⟩
  have disjoint := pairs.forall member otherMember different
  exact fun address inside otherInside => disjoint inside otherInside

theorem address_mem (item : RemapFuncItem) : item.address ∈ item.addresses := by
  cases item <;> simp [RemapFuncItem.addresses, RemapFuncItem.address]

theorem address_inj {item other : RemapFuncItem} (member : item ∈ items.list)
    (otherMember : other ∈ items.list) (same : item.address = other.address) : item = other := by
  by_contra different
  exact item_apart member otherMember different _ (address_mem item) (same ▸ address_mem other)

/-- A composed item is not where one of its KeyToKeys is. -/
theorem downup_address_ne {downup : KeyDownUpToKey} (member : keyDownUpToKey downup ∈ items.list)
    {keyToKey : KeyToKey} (listed : keyToKey ∈ items.keyToKeys.list) :
    downup.address ≠ keyToKey.address := by
  obtain ⟨item, itemMember, inside⟩ := List.mem_flatMap.1 listed
  have there : keyToKey.address ∈ item.addresses :=
    (map_address_sublist item).subset (List.mem_map_of_mem inside)
  intro same
  by_cases itself : item = keyDownUpToKey downup
  · subst itself
    have listed : downup.address ∈ (keyDownUpToKey downup).keyToKeys.map (·.address) := by
      rw [same]
      exact List.mem_map_of_mem inside
    exact (List.nodup_cons.1 (item_distinct member)).1 listed
  · rw [← same] at there
    exact item_apart itemMember member itself _ there List.mem_cons_self

end Remappings

namespace Core

/-- What holds between two calls. -/
structure Invariant (settings : Settings) (items : Remappings) (state : State) : Prop where
  kept : ∀ item ∈ items.list, Kept item state
  known : ∀ address ∈ state.kext.pressingFromEvents,
    address ∈ items.list.flatMap RemapFuncItem.addresses
  nodup : state.kext.prepareTargetItems_.Nodup
  repeating : state.kext.toSending.Repeating settings

variable {settings : Settings} {config : ComposedConfig} {items : Remappings}
  {arriving : Arriving} {before after : State}

theorem Invariant.of_item (invariant : Invariant settings items before) {item : RemapFuncItem}
    (member : item ∈ items.list) (within : Within settings items item.addresses before after)
    (kept : Kept item after) : Invariant settings items after where
  kept other otherMember := by
    by_cases same : other = item
    · exact same ▸ kept
    · exact (invariant.kept other otherMember).of_within within
        (Remappings.item_apart otherMember member same)
  known address pressed := by
    by_cases inside : address ∈ item.addresses
    · exact List.mem_flatMap.2 ⟨item, member, inside⟩
    · refine invariant.known address (List.count_pos_iff.1 ?_)
      have same := within.pressing address inside
      exact (List.count_pos_iff.2 pressed).trans_eq same
  nodup := within.nodup invariant.nodup
  repeating := within.repeating invariant.repeating

/-- What is nothing to the items. -/
theorem Invariant.of_same (invariant : Invariant settings items before)
    (pressing : after.kext.pressingFromEvents = before.kext.pressingFromEvents)
    (registered : after.kext.prepareTargetItems_ = before.kext.prepareTargetItems_)
    (interrupted : after.interrupted_ = before.interrupted_)
    (repeating : before.kext.toSending.Repeating settings →
      after.kext.toSending.Repeating settings) : Invariant settings items after where
  kept item member := (invariant.kept item member).of_same
    (fun address _ => congrArg (List.count address) pressing)
    (fun _ _ => by rw [State.Registered, State.Registered, registered]) (congrFun interrupted _)
  known := pressing ▸ invariant.known
  nodup := registered ▸ invariant.nodup
  repeating := repeating invariant.repeating

/-- In the loop of prepare, the items that registered are those of which the turn is to come. -/
structure Preparing (settings : Settings) (items : Remappings) (arriving : Arriving)
    (remaining : List Nat) (state : State) : Prop where
  invariant : Invariant settings items state
  waiting : ∀ downup, keyDownUpToKey downup ∈ items.list → downup.address ∈ remaining →
    state.Registered downup.address
  left : arriving.params.iskeydown ≠ none → ∀ downup, keyDownUpToKey downup ∈ items.list →
    state.Registered downup.address → downup.address ∈ remaining

/-- The turn of an object that is no KeyDownUpToKey. -/
theorem Preparing.passed {address : Nat} {remaining : List Nat}
    (preparing : Preparing settings items arriving (address :: remaining) before)
    (invariant : Invariant settings items after)
    (registered : ∀ downup, keyDownUpToKey downup ∈ items.list →
      (after.Registered downup.address ↔ before.Registered downup.address))
    (other : ∀ downup, keyDownUpToKey downup ∈ items.list → downup.address ≠ address) :
    Preparing settings items arriving remaining after where
  invariant := invariant
  waiting downup member inside :=
    (registered downup member).2 (preparing.waiting downup member (List.mem_cons_of_mem _ inside))
  left known downup member listed := by
    have inside := preparing.left known downup member ((registered downup member).1 listed)
    exact (List.mem_cons.1 inside).resolve_left (other downup member)

/-- The turn of a KeyToKey, which may be a member of an item. -/
theorem Preparing.prepared (apart : settings.ButtonKeysApart) {keyToKey : KeyToKey}
    (listed : keyToKey ∈ items.keyToKeys.list) {remaining : List Nat}
    (preparing : Preparing settings items arriving (keyToKey.address :: remaining) before) :
    Preparing settings items arriving remaining
      (before.onKext (keyToKey.prepare settings arriving.params)) := by
  have within := @keyToKey_prepare_within settings apart items keyToKey arriving.params before
  have different (downup : KeyDownUpToKey) (member : keyDownUpToKey downup ∈ items.list) :
      downup.address ≠ keyToKey.address := Remappings.downup_address_ne member listed
  have registered (downup : KeyDownUpToKey) (member : keyDownUpToKey downup ∈ items.list) :=
    within.registered downup.address (by simpa using different downup member)
  have pressing := (@KeyToKey.prepare_shifts settings keyToKey apart arriving.params
    before.kext).pressing
  refine preparing.passed ?_ registered different
  constructor
  · intro item member
    exact (preparing.invariant.kept item member).of_same
      (fun address _ => congrArg (List.count address) pressing)
      (fun downup same => registered downup (same ▸ member)) rfl
  · exact fun address pressed => preparing.invariant.known address (pressing ▸ pressed)
  · exact within.nodup preparing.invariant.nodup
  · exact within.repeating preparing.invariant.repeating

theorem prepareItem_preparing (apart : settings.ButtonKeysApart) {address : Nat}
    {remaining : List Nat} (distinct : (address :: remaining).Nodup) {result : Result}
    (preparing : Preparing settings items arriving (address :: remaining) result.1) :
    let after := RemapClassManager.prepareItem settings items arriving result address
    Preparing settings items arriving remaining after.1 ∧
      ∀ physical, KeyToKeys.Counted settings items.keyToKeys physical result.1.kext →
        KeyToKeys.Counted settings items.keyToKeys physical after.1.kext := by
  unfold RemapClassManager.prepareItem
  split
  · next item found =>
    have member := List.mem_of_find?_eq_some found
    have turn : item.address = address := by simpa using List.find?_some found
    have passed (others : ∀ downup, item ≠ keyDownUpToKey downup) : ∀ downup,
        keyDownUpToKey downup ∈ items.list → downup.address ≠ address :=
          fun downup listed same =>
      others downup (Remappings.address_inj member listed (turn.trans same.symm))
    cases item with
    | keyToKey item =>
        cases turn
        have listed := Remappings.item_members member item (by simp [keyToKeys])
        exact ⟨preparing.prepared apart listed, fun _ counted =>
          counted.of_shifts (KeyToKey.prepare_shifts apart arriving.params _)⟩
    | keyDownUpToKey item =>
        cases turn
        obtain ⟨within, kept, unregistered⟩ := @KeyDownUpToKey.prepare_kept settings apart items
          item arriving result (Remappings.item_distinct member) (Remappings.item_members member)
          (preparing.invariant.kept _ member) (preparing.waiting item member List.mem_cons_self)
        have still (downup : KeyDownUpToKey) (listed : keyDownUpToKey downup ∈ items.list)
            (different : downup.address ≠ item.address) :=
          within.registered downup.address (Remappings.item_apart listed member
            (fun same => different (congrArg RemapFuncItem.address same)) _ List.mem_cons_self)
        refine ⟨⟨preparing.invariant.of_item member within kept, ?_, ?_⟩, within.counted⟩
        · intro downup listed inside
          have different : downup.address ≠ item.address := fun same =>
            (List.nodup_cons.1 distinct).1
              (show item.address ∈ remaining from same ▸ inside)
          exact (still downup listed different).2
            (preparing.waiting downup listed (List.mem_cons_of_mem _ inside))
        · intro known downup listed registered
          have different : downup.address ≠ item.address := fun same =>
            unregistered known (same ▸ registered)
          have inside := preparing.left known downup listed
            ((still downup listed different).1 registered)
          exact (List.mem_cons.1 inside).resolve_left different
    | doublePressModifier item =>
        exact ⟨preparing.passed preparing.invariant (fun _ _ => Iff.rfl)
          (passed fun _ impossible => by cases impossible), fun _ => id⟩
    | scrollWheelToKey item =>
        exact ⟨preparing.passed preparing.invariant (fun _ _ => Iff.rfl)
          (passed fun _ impossible => by cases impossible), fun _ => id⟩
    | pointingRelativeToKey item =>
        exact ⟨preparing.passed preparing.invariant (fun _ _ => Iff.rfl)
          (passed fun _ impossible => by cases impossible), fun _ => id⟩
  · next none =>
    have other : ∀ downup, keyDownUpToKey downup ∈ items.list →
        downup.address ≠ address := by
      intro downup listed same
      have passed := List.find?_eq_none.1 none _ listed
      exact passed (decide_eq_true same)
    split
    · next keyToKey found =>
      have listed := List.mem_of_find?_eq_some found
      have turn : keyToKey.address = address := by simpa using List.find?_some found
      cases turn
      exact ⟨preparing.prepared apart listed, fun _ counted =>
        counted.of_shifts (KeyToKey.prepare_shifts apart arriving.params _)⟩
    · exact ⟨preparing.passed preparing.invariant (fun _ _ => Iff.rfl) other, fun _ => id⟩

theorem foldl_prepareItem (apart : settings.ButtonKeysApart) (remaining : List Nat)
    (distinct : remaining.Nodup) (result : Result)
    (preparing : Preparing settings items arriving remaining result.1) :
    let after := remaining.foldl (RemapClassManager.prepareItem settings items arriving) result
    Preparing settings items arriving [] after.1 ∧
      ∀ physical, KeyToKeys.Counted settings items.keyToKeys physical result.1.kext →
        KeyToKeys.Counted settings items.keyToKeys physical after.1.kext := by
  induction remaining generalizing result with
  | nil => exact ⟨preparing, fun _ => id⟩
  | cons address remaining ih =>
      obtain ⟨here, counted⟩ := prepareItem_preparing apart distinct preparing
      obtain ⟨rest, restCounted⟩ := ih (List.nodup_cons.1 distinct).2 _ here
      exact ⟨rest, fun physical before => restCounted physical (counted physical before)⟩

/-- While the items are offered an event, none of them waits, until one has taken it. -/
structure Offering (settings : Settings) (items : Remappings) (arriving : Arriving)
    (result : Result) : Prop where
  invariant : Invariant settings items result.1
  ready : result.2 = false → arriving.params.iskeydown ≠ none →
    ∀ downup, keyDownUpToKey downup ∈ items.list → ¬ result.1.Registered downup.address

theorem prepare_offering (apart : settings.ButtonKeysApart) (state : State)
    (invariant : Invariant settings items state) :
    let prepared := RemapClassManager.prepare settings items arriving state
    Offering settings items arriving prepared ∧
      ∀ physical, KeyToKeys.Counted settings items.keyToKeys physical state.kext →
        KeyToKeys.Counted settings items.keyToKeys physical prepared.1.kext := by
  let cleared := state.onKext
    (·.onSending (·.onOutput fun output => { output with needToDrop_ := false }))
  have start : Preparing settings items arriving cleared.kext.prepareTargetItems_ cleared :=
    ⟨invariant.of_same rfl rfl rfl id, fun _ _ => id, fun _ _ _ => id⟩
  obtain ⟨preparing, counted⟩ := @foldl_prepareItem settings items arriving apart
    cleared.kext.prepareTargetItems_ invariant.nodup (cleared, false) start
  refine ⟨⟨preparing.invariant, fun _ known downup member listed => ?_⟩,
    fun physical before => ?_⟩
  · exact List.not_mem_nil (preparing.left known downup member listed)
  · have same : Kext.Shifts 0 state.kext cleared.kext :=
      Kext.shifts_onSending (Sending.shifts_zero rfl rfl)
    exact counted physical (before.of_shifts same)

theorem remapItem_offering (apart : settings.ButtonKeysApart) {result : Result}
    (offering : Offering settings items arriving result) {item : RemapFuncItem}
    (member : item ∈ items.list) :
    let after := item.remap settings config arriving result
    Offering settings items arriving after ∧
      ∀ physical, KeyToKeys.Counted settings items.keyToKeys physical result.1.kext →
        KeyToKeys.Counted settings items.keyToKeys physical after.1.kext := by
  obtain ⟨within, kept, mapped, unmapped⟩ :=
    @remap_kept settings apart config items item arriving
    result (Remappings.item_distinct member) (Remappings.item_members member)
    (offering.invariant.kept item member)
    (fun downup same unmapped known => offering.ready unmapped known downup (same ▸ member))
  refine ⟨⟨offering.invariant.of_item member within kept, ?_⟩, within.counted⟩
  intro later known downup listed
  by_cases same : item = keyDownUpToKey downup
  · have nothing := unmapped later downup same
    rw [nothing] at later ⊢
    exact offering.ready later known downup listed
  · have before : result.2 = false := by
      by_contra already
      rw [mapped (Bool.eq_true_of_not_eq_false already)] at later
      cases later
    have apart := Remappings.item_apart listed member (Ne.symm same) _ List.mem_cons_self
    exact fun registered => offering.ready before known downup listed
      ((within.registered downup.address apart).1 registered)

theorem remap_offering (apart : settings.ButtonKeysApart)
    (offered : List { item // item ∈ items.list }) (result : Result)
    (offering : Offering settings items arriving result) :
    let after := RemapClassManager.remap settings config offered arriving result
    Offering settings items arriving after ∧
      ∀ physical, KeyToKeys.Counted settings items.keyToKeys physical result.1.kext →
        KeyToKeys.Counted settings items.keyToKeys physical after.1.kext := by
  induction offered generalizing result with
  | nil => exact ⟨offering, fun _ => id⟩
  | cons item offered ih =>
      obtain ⟨here, counted⟩ := @remapItem_offering settings config items arriving apart result
        offering item.1 item.2
      obtain ⟨rest, restCounted⟩ := ih _ here
      exact ⟨rest, fun physical before => restCounted physical (counted physical before)⟩

section

variable (settings config)

/-- An event, the timers of the delayed actions and of KeyboardRepeat, or
resetInternalStateIfNeeded. -/
inductive Event (items : Remappings) where
  | event (arrival : Arrival items)
  | timer
  | keyRepeat
  | reset

def step (state : State) : Event items → State
  | .event arrival => deliver settings config arrival state
  | .timer => state.onKext fun kext =>
      if kext.fire_timer_.active then KeyToKey.fire_timer_callback settings kext else kext
  | .keyRepeat => state.onKext fun kext =>
      if kext.keyboardRepeat.fire_timer_.active then
        kext.onSending (KeyboardRepeat.fire_timer_callback settings)
      else kext
  | .reset => state.onKext (KeyToKeys.reset settings)

def start : State := { kext := KeyToKeys.start settings }

/-- The internal state is reset while all keys are released. -/
def Released (state : State) : Event items → Prop
  | .reset => state.kext.pressingFromEvents = []
  | _ => True

/-- What an event adds before the items are offered it. -/
def physicalNet : Params → Net
  | .keyboard params => (FlagStatus.keyNet settings.pairs params.key params.flags, 0)
  | .relativePointer params => (0, ButtonStatus.setNet params.ex_button params.ex_isbuttondown)
  | _ => 0

/-- What the physical keys alone have added since the last reset. -/
def physicalStep (net : Net) : Event items → Net
  | .event arrival => net + physicalNet settings arrival.params
  | .timer | .keyRepeat => net
  | .reset => 0

end

/-- What is sent for an event that no item takes. -/
structure Sends (settings : Settings) (send : Sending → Sending) : Prop where
  shifts : ∀ sending, Sending.Shifts 0 sending (send sending)
  repeating : ∀ sending : Sending, sending.Repeating settings →
    (send sending).Repeating settings

theorem sendKey_shifts (apart : settings.ButtonKeysApart) {params : KeyboardEventCallBack}
    (physical : params.key ∉ VirtualKey.VK_MOUSEKEY.buttonKeys)
    (physicalEventType : PhysicalEventType) (sending : Sending) :
    Sending.Shifts 0 sending (sendKey settings params physicalEventType sending) := by
  have other : VirtualKey.VK_MOUSEKEY.getPointingButton params.key = PointingButton.NONE := by
    by_contra button
    exact physical (VirtualKey.VK_MOUSEKEY.mem_buttonKeys button)
  have none : ToEvent.keyNet params.key = 0 := if_pos other
  unfold sendKey
  extract_lets flags sent repeated
  have first : Sending.Shifts 0 sending repeated := Sending.shifts_onRepeat _ sending
  have second :=
    @ToEvent.fireKey_shifts settings AutogenId.maxValue physicalEventType apart sent rfl
    false (fun button => absurd other button) repeated
  have same : ToEvent.keyNet sent.key = 0 := none
  rw [same, Net.signed_zero] at second
  exact first.thenSame second

theorem sendKey_sends (apart : settings.ButtonKeysApart) {params : KeyboardEventCallBack}
    (physical : params.key ∉ VirtualKey.VK_MOUSEKEY.buttonKeys)
    (physicalEventType : PhysicalEventType) :
    Sends settings (sendKey settings params physicalEventType) where
  shifts := sendKey_shifts apart physical physicalEventType
  repeating _ repeating := KeyboardRepeat.set_repeating _ _ _ _ repeating

theorem sendScrollWheel_shifts (params : ScrollWheelEventCallback)
    (physicalEventType : PhysicalEventType) (sending : Sending) :
    Sending.Shifts 0 sending (sendScrollWheel settings params physicalEventType sending) := by
  let cleared := sending.output.setIgnorePhysicalUpEvent false
  have changes : settings.Changes Settings.Sends sending.output
      (EventOutputQueue.FireScrollWheel.fire settings AutogenId.maxValue physicalEventType params
        sending.output) :=
    (EventOutputQueue.fireCurrentModifiers_changes AutogenId.maxValue physicalEventType
      cleared).trans (EventOutputQueue.push_changes _ _ _)
  exact Sending.shifts_zero
    (FlagStatus.counts_of_via changes fun _ sends => Settings.Sends.quiet sends)
    (congrArg ButtonStatus.counts
      (@EventOutputQueue.fireScrollWheel_leavesKeys settings _ _ params _).buttonStatus)

theorem send_same {send : Sending → Sending} (sends : Sends settings send) (result : Result)
    (invariant : Invariant settings items result.1) :
    Invariant settings items (sendUnlessRemapped send result) ∧
      ∀ physical, KeyToKeys.Counted settings items.keyToKeys physical result.1.kext →
        KeyToKeys.Counted settings items.keyToKeys physical
          (sendUnlessRemapped send result).kext := by
  unfold sendUnlessRemapped
  split
  · exact ⟨invariant, fun _ => id⟩
  · exact ⟨invariant.of_same rfl rfl rfl (sends.repeating _), fun _ counted =>
      counted.of_shifts (Kext.shifts_onSending (sends.shifts _))⟩

/-- The items are offered the event, and it is sent if none takes it. -/
theorem offer_invariant (apart : settings.ButtonKeysApart)
    (offered : List { item // item ∈ items.list }) {send : Sending → Sending}
    (sends : Sends settings send) {result : Result}
    (offering : Offering settings items arriving result) :
    let after := sendUnlessRemapped send
      (RemapClassManager.remap settings config offered arriving result)
    Invariant settings items after ∧
      ∀ physical, KeyToKeys.Counted settings items.keyToKeys physical result.1.kext →
        KeyToKeys.Counted settings items.keyToKeys physical after.kext := by
  obtain ⟨remapped, remapCounted⟩ :=
    @remap_offering settings config items arriving apart offered
    result offering
  obtain ⟨sent, sendCounted⟩ := @send_same settings items send sends _ remapped.invariant
  exact ⟨sent, fun physical before => sendCounted physical (remapCounted physical before)⟩

theorem deliver_invariant (apart : settings.ButtonKeysApart) (arrival : Arrival items)
    (state : State) (invariant : Invariant settings items state) :
    let after := deliver settings config arrival state
    Invariant settings items after ∧
      ∀ physical, KeyToKeys.Counted settings items.keyToKeys physical state.kext →
        KeyToKeys.Counted settings items.keyToKeys
          (physical + physicalNet settings arrival.params) after.kext := by
  obtain ⟨params, now, offered, physicalKey⟩ := arrival
  cases params with
  | keyboard params =>
      let physicalEventType := if params.ex_iskeydown then PhysicalEventType.DOWN else .UP
      let arriving : Arriving := ⟨.keyboard params, physicalEventType, now⟩
      obtain ⟨prepared, prepareCounted⟩ := @prepare_offering settings items arriving apart state
        invariant
      let result := RemapClassManager.prepare settings items arriving state
      let known : Result := (result.1.onKext (·.onSending
        (·.onFlagStatus (·.setKey settings.pairs params.key params.flags))), result.2)
      have offering : Offering settings items arriving known :=
        ⟨prepared.invariant.of_same rfl rfl rfl id, prepared.ready⟩
      obtain ⟨sent, sendCounted⟩ :=
        @offer_invariant settings config items arriving apart offered _
        (sendKey_sends apart (physicalKey params.key rfl) physicalEventType) known offering
      refine ⟨sent, fun physical before => sendCounted _ ?_⟩
      exact KeyToKeys.Counted.added (prepareCounted physical before)
        ⟨FlagStatus.setKey_counts _ _ _ _, (Counters.offset_zero _).symm⟩
  | keyboardSpecial params =>
      let physicalEventType := if params.ex_iskeydown then PhysicalEventType.DOWN else .UP
      let arriving : Arriving := ⟨.keyboardSpecial params, physicalEventType, now⟩
      obtain ⟨prepared, prepareCounted⟩ := @prepare_offering settings items arriving apart state
        invariant
      obtain ⟨sent, sendCounted⟩ :=
        @offer_invariant settings config items arriving apart offered
        (sendConsumer settings config params physicalEventType)
        ⟨fun sending => (Sending.shifts_onRepeat _ sending).thenSame
          (ToEvent.fireConsumer_shifts _ _ _ _),
          fun _ repeating => KeyboardRepeat.setConsumer_repeating _ _ _ _ repeating⟩ _ prepared
      refine ⟨sent, fun physical before => ?_⟩
      show KeyToKeys.Counted _ _ (physical + 0) _
      rw [add_zero]
      exact sendCounted _ (prepareCounted physical before)
  | relativePointer params =>
      let set := state.onKext
        (·.onSending (·.onButtonStatus (·.set params.ex_button params.ex_isbuttondown)))
      let physicalEventType :=
        if params.ex_button ≠ PointingButton.NONE ∧ params.ex_isbuttondown then
          PhysicalEventType.DOWN
        else .UP
      let arriving : Arriving := ⟨.relativePointer params, physicalEventType, now⟩
      obtain ⟨prepared, prepareCounted⟩ := @prepare_offering settings items arriving apart set
        (invariant.of_same rfl rfl rfl id)
      obtain ⟨sent, sendCounted⟩ :=
        @offer_invariant settings config items arriving apart offered
        (sendPointer settings params physicalEventType)
        ⟨fun sending => ToEvent.fireRelativePointer_shifts _ _ _ _ _ sending, fun _ => id⟩ _
        prepared
      refine ⟨sent, fun physical before => sendCounted _ (prepareCounted _ ?_)⟩
      exact KeyToKeys.Counted.added before
        ⟨(Counters.offset_zero _).symm, ButtonStatus.set_counts _ _ _⟩
  | scrollWheel params =>
      let arriving : Arriving := ⟨.scrollWheel params, .DOWN, now⟩
      obtain ⟨prepared, prepareCounted⟩ := @prepare_offering settings items arriving apart state
        invariant
      obtain ⟨sent, sendCounted⟩ :=
        @offer_invariant settings config items arriving apart offered
        (sendScrollWheel settings params .DOWN)
        ⟨sendScrollWheel_shifts params .DOWN, fun _ => id⟩ _ prepared
      refine ⟨sent, fun physical before => ?_⟩
      show KeyToKeys.Counted _ _ (physical + 0) _
      rw [add_zero]
      exact sendCounted _ (prepareCounted physical before)

/-- The counters are those of what is physical and what is held, and the items are kept. -/
def Balanced (settings : Settings) (items : Remappings) (physical : Net) (state : State) : Prop :=
  Invariant settings items state ∧ KeyToKeys.Counted settings items.keyToKeys physical state.kext

theorem step_balanced (apart : settings.ButtonKeysApart) {physical : Net} (state : State)
    (event : Event items) (released : Released state event)
    (balanced : Balanced settings items physical state) :
    Balanced settings items (physicalStep settings physical event)
      (step settings config state event) := by
  obtain ⟨invariant, counted⟩ := balanced
  cases event with
  | event arrival =>
      obtain ⟨after, afterCounted⟩ :=
        @deliver_invariant settings config items apart arrival state
        invariant
      exact ⟨after, afterCounted physical counted⟩
  | timer =>
      unfold step State.onKext
      dsimp only
      split
      · have shifts := @KeyToKey.fire_timer_callback_shifts settings apart state.kext
        refine ⟨invariant.of_same shifts.pressing ?_ rfl ?_, counted.of_shifts shifts⟩
        · unfold KeyToKey.fire_timer_callback
          dsimp only
          split
          · rfl
          · exact (KeyToKey.doDelayedAction_sameDelayed _ _ _).prepareTargetItems_
        · exact (congrArg (KeyboardRepeat.Repeating settings.pairs)
            (KeyToKey.fire_timer_callback_keyboardRepeat state.kext)).mpr
      · exact ⟨invariant, counted⟩
  | keyRepeat =>
      unfold step State.onKext
      dsimp only
      split
      · have shifts := KeyboardRepeat.fire_timer_callback_shifts apart invariant.repeating
        exact ⟨invariant.of_same rfl rfl rfl KeyboardRepeat.fire_timer_callback_repeating,
          counted.of_shifts (Kext.shifts_onSending shifts)⟩
      · exact ⟨invariant, counted⟩
  | reset =>
      exact ⟨invariant.of_same released.symm rfl rfl fun _ => KeyboardRepeat.cancel_repeating,
        KeyToKeys.reset_counted counted⟩

theorem start_balanced : Balanced settings items 0 (start settings) := by
  refine ⟨⟨?_, fun _ pressed => absurd pressed List.not_mem_nil, List.nodup_nil, .inr .nil⟩,
    ?_⟩
  · intro item member
    cases item with
    | keyDownUpToKey item =>
        exact KeyDownUpToKey.Settled.kept ⟨rfl, rfl, rfl, rfl, List.not_mem_nil⟩
    | keyToKey | doublePressModifier | scrollWheelToKey | pointingRelativeToKey =>
        exact fun _ _ => rfl
  · unfold KeyToKeys.Counted
    have none : (0 : Net) + KeyToKeys.held settings items.keyToKeys (start settings).kext = 0 :=
      zero_add 0
    rw [none]
    exact Output.Shifts.refl _

theorem run_balanced (apart : settings.ButtonKeysApart) (events : List (Event items))
    (physical : Net) (state : State) (balanced : Balanced settings items physical state)
    (released : Transition.Along (step settings config) Released state events) :
    Balanced settings items (events.foldl (physicalStep settings) physical)
      (Transition.run (step settings config) state events) := by
  induction events generalizing physical state with
  | nil => exact balanced
  | cons event events ih =>
      exact ih _ _ (step_balanced apart state event released.1 balanced) released.2

/-- In every run, the counters hold what the physical keys have added and what the items hold. A key
that is pressed while another interrupts is held once, and with its own key. When every key for
which an item holds others is released, the physical keys are all that counts. -/
theorem run_released (apart : settings.ButtonKeysApart) (events : List (Event items))
    (released : Transition.Along (step settings config) Released (start settings) events) :
    let state := Transition.run (step settings config) (start settings) events
    let physical := events.foldl (physicalStep settings) 0
    Output.Shifts (physical + KeyToKeys.held settings items.keyToKeys state.kext)
        (start settings).kext.output state.kext.output ∧
      (∀ downup, keyDownUpToKey downup ∈ items.list →
        state.count downup.keytokey_interrupted_.address ≤ 1 ∧
          (0 < state.count downup.keytokey_interrupted_.address →
            0 < state.count downup.keytokey_from_.address)) ∧
      ((∀ item ∈ items.list, ∀ address ∈ item.fromAddresses, state.count address = 0) →
        state.kext.pressingFromEvents = [] ∧
          Output.Shifts physical (start settings).kext.output state.kext.output) := by
  intro state physical
  obtain ⟨invariant, counted⟩ :=
    run_balanced apart events 0 (start settings) start_balanced released
  refine ⟨counted, fun downup member => ?_, fun none => ?_⟩
  · have kept : KeyDownUpToKey.Kept downup state := invariant.kept _ member
    exact ⟨kept.once, fun pressed => kept.pressing (kept.interrupted pressed).1⟩
  · have nothing : state.kext.pressingFromEvents = [] := by
      refine List.eq_nil_iff_forall_not_mem.2 fun address pressed => ?_
      obtain ⟨item, member, inside⟩ := List.mem_flatMap.1 (invariant.known address pressed)
      obtain ⟨other, fromAddress, held⟩ :=
        (invariant.kept item member).pressing inside (List.count_pos_iff.2 pressed)
      exact absurd (none item member other fromAddress) held.ne'
    refine ⟨nothing, ?_⟩
    have nothingHeld : KeyToKeys.held settings items.keyToKeys state.kext = 0 := by
      unfold KeyToKeys.held
      rw [nothing]
      rfl
    have whole : Output.Shifts (physical + KeyToKeys.held settings items.keyToKeys state.kext)
      (start settings).kext.output state.kext.output := counted
    rwa [nothingHeld, add_zero] at whole

/-- __KeyDownUpToKey__ from the key code 0, with the space key and the left command key. -/
def spaceOrCommand : KeyDownUpToKey :=
  .ofAdded 0
    (KeyDownUpToKey.addAll KeyToKey.normalSettings.pairs
      [(Bridge.DATATYPE_KEYCODE, 0), (Bridge.DATATYPE_KEYCODE, 49),
        (Bridge.DATATYPE_OPTION, Option.SEPARATOR), (Bridge.DATATYPE_KEYCODE, 55)]
      (KeyDownUpToKey.constructor 1 2 3 0))
    (KeyDownUpToKey.addAll_plain _ _ (KeyDownUpToKey.constructor_plain 1 2 3 0))

def spaceOrCommandItems : Remappings where
  list := [keyDownUpToKey spaceOrCommand]
  distinct := by decide

def readConfig : ComposedConfig := ⟨300, 50, 100, 83⟩

theorem keyEvent_physical {key : KeyCode} (physical : key ∉ VirtualKey.VK_MOUSEKEY.buttonKeys)
    (eventType : EventType) :
    ∀ other ∈ (Params.keyboardEvent KeyToKey.normalSettings.pairs eventType ⟨0⟩ key .MACBOOK
      false).keyboardKey, other ∉ VirtualKey.VK_MOUSEKEY.buttonKeys := by
  intro other same
  cases same
  exact physical

def keyArrival (eventType : EventType) (key : KeyCode)
    (physical : key ∉ VirtualKey.VK_MOUSEKEY.buttonKeys) : Event spaceOrCommandItems :=
  .event
    { params := .keyboardEvent KeyToKey.normalSettings.pairs eventType ⟨0⟩ key .MACBOOK false
      now := 0
      offered := [⟨keyDownUpToKey spaceOrCommand, List.mem_singleton_self _⟩]
      physical := keyEvent_physical physical eventType }

def interruptIt : List (Event spaceOrCommandItems) :=
  [keyArrival .DOWN ⟨0⟩ (by decide), keyArrival .DOWN ⟨1⟩ (by decide)]

theorem run_released_spaceOrCommand :
    let settings := KeyToKey.normalSettings
    let state := Transition.run (step settings readConfig) (start settings) interruptIt
    settings.ButtonKeysApart ∧
      Transition.Along (step settings readConfig) Released (start settings) interruptIt ∧
      (0 < state.count 3 → 0 < state.count 1) ∧ state.kext.pressingFromEvents = [1, 3] := by
  have along : Transition.Along (step KeyToKey.normalSettings readConfig) Released
      (start KeyToKey.normalSettings) interruptIt := ⟨trivial, trivial, trivial⟩
  refine ⟨KeyToKeys.normalSettings_apart, along, ?_, by decide +kernel⟩
  exact ((run_released KeyToKeys.normalSettings_apart interruptIt along).2.1 spaceOrCommand
    (List.mem_singleton_self _)).2

end Core

end Karabiner
