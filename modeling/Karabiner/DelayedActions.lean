import Karabiner.KeyToKeyBalance
import Karabiner.Traced

set_option autoImplicit false

/- The delayed actions of KeyToKey items: all of them share one timer, one target and the list of
the items that have to prepare. -/
namespace Karabiner

/-- An accepted key-down starts to wait, and one of its outcomes ends the waiting. -/
inductive DelayedActions.Happening where
  | armed (keyToKey : KeyToKey)
  | acted (keyToKey : KeyToKey) (keys : List ToEvent) (delayedActionCanceledBy : Bool)

open DelayedActions (Happening)

namespace KeyToKey

section

variable (settings : Settings) (keyToKey : KeyToKey)

/-- The keys that doDelayedAction can be called with. -/
def outcomes : List (List ToEvent × Bool) :=
  (keyToKey.delayedActionKeys_, false) :: (keyToKey.delayedActionCanceledDefaultKeys_, false) ::
    keyToKey.delayedActionCanceledByKeys_.map fun keys => (keys, true)

def acting (keys : List ToEvent) (delayedActionCanceledBy : Bool) (kext : Kext) :
    Traced Happening Kext :=
  .emit [.acted keyToKey keys delayedActionCanceledBy]
    (doDelayedAction settings keyToKey keys delayedActionCanceledBy kext)

/-- prepare, with the outcome that it causes. -/
def preparing (params : Params) (kext : Kext) : Traced Happening Kext :=
  if params.iskeydown ≠ some true then pure kext
  else
    let kext := kext.unregisterPrepareTargetItem keyToKey.address
    if !kext.fire_timer_.active then pure kext
    else
      let kext := { kext with fire_timer_ := kext.fire_timer_.cancelTimeout }
      let kext := kext.onSending (·.onFlagStatus FlagStatus.set)
      let canceled := keyToKey.canceledKeys params kext.flagStatus
      acting settings keyToKey canceled.1 canceled.2 kext

/-- fire_timer_callback, with the outcome that it causes. -/
def expiring (kext : Kext) : Traced Happening Kext :=
  let kext := { kext with fire_timer_ := kext.fire_timer_.cancelTimeout }
  match kext.target_ with
  | none => pure kext
  | some target => acting settings target target.delayedActionKeys_ false kext

/-- remap; an accepted key-down with a delayed action starts to wait. -/
def remapping (params : Params) (physicalEventType : PhysicalEventType) (isremapped : Bool)
    (kext : Kext) : Traced Happening (Option Kext) :=
  let remapped := remap settings keyToKey params physicalEventType isremapped kext
  let arms := remapped.isSome && params.iskeydown = some true && keyToKey.hasDelayedAction
  .emit (if arms then [.armed keyToKey] else []) remapped

end

variable {settings : Settings} {keyToKey : KeyToKey}

theorem preparing_value (params : Params) (kext : Kext) :
    (preparing settings keyToKey params kext).value = prepare settings keyToKey params kext := by
  unfold preparing prepare
  split
  · rfl
  · extract_lets unregistered stopped cleared canceled
    split <;> rfl

theorem expiring_value (kext : Kext) :
    (expiring settings kext).value = fire_timer_callback settings kext := by
  unfold expiring fire_timer_callback
  dsimp only
  cases kext.target_ <;> rfl

theorem canceledKeys_mem_outcomes (params : Params) (status : FlagStatus) :
    keyToKey.canceledKeys params status ∈ keyToKey.outcomes := by
  unfold canceledKeys outcomes
  split
  · next found =>
    have listed := List.mem_of_find?_eq_some found
    exact List.mem_cons_of_mem _ (List.mem_cons_of_mem _ (List.mem_map_of_mem listed))
  · split
    · exact List.mem_cons_self
    · exact List.mem_cons_of_mem _ List.mem_cons_self

end KeyToKey

/-- What the delayed actions are about is the same. -/
structure Kext.SameDelayed (before after : Kext) : Prop where
  fire_timer_ : after.fire_timer_ = before.fire_timer_
  target_ : after.target_ = before.target_
  prepareTargetItems_ : after.prepareTargetItems_ = before.prepareTargetItems_

namespace Kext

theorem SameDelayed.refl (kext : Kext) : SameDelayed kext kext := ⟨rfl, rfl, rfl⟩

theorem SameDelayed.trans {first second third : Kext} (left : SameDelayed first second)
    (right : SameDelayed second third) : SameDelayed first third :=
  ⟨right.fire_timer_.trans left.fire_timer_, right.target_.trans left.target_,
    right.prepareTargetItems_.trans left.prepareTargetItems_⟩

theorem sameDelayed_onSending (change : Sending → Sending) (kext : Kext) :
    SameDelayed kext (kext.onSending change) := ⟨rfl, rfl, rfl⟩

/-- The item that waits for its outcome. -/
def pending (kext : Kext) : Option KeyToKey :=
  if kext.fire_timer_.active then kext.target_ else none

theorem SameDelayed.pending {before after : Kext} (same : SameDelayed before after) :
    after.pending = before.pending := by
  unfold Kext.pending
  rw [same.fire_timer_, same.target_]

end Kext

namespace KeyToKey

open Kext (SameDelayed)

variable {settings : Settings} {keyToKey : KeyToKey}

theorem doDelayedAction_sameDelayed (keys : List ToEvent) (delayedActionCanceledBy : Bool)
    (kext : Kext) :
    SameDelayed kext (doDelayedAction settings keyToKey keys delayedActionCanceledBy kext) := by
  cases keys with
  | nil => exact .refl kext
  | cons first rest => exact ⟨rfl, rfl, rfl⟩

theorem fireToKeys_sameDelayed (iskeydown : Bool) (physicalEventType : PhysicalEventType)
    (toKeys : List ToEvent) (lastToEvent : ToEvent) (kext : Kext) :
    SameDelayed kext
      (fireToKeys settings keyToKey iskeydown physicalEventType toKeys lastToEvent kext) := by
  unfold fireToKeys
  extract_lets isModifier canceled lowered fired keysFired started
  cases iskeydown with
  | true =>
      rw [if_pos rfl]
      split
      · exact ⟨rfl, rfl, rfl⟩
      · split
        · exact ⟨rfl, rfl, rfl⟩
        · exact ⟨rfl, rfl, rfl⟩
  | false =>
      rw [if_neg Bool.false_ne_true]
      split
      · exact ⟨rfl, rfl, rfl⟩
      · split
        · exact ⟨rfl, rfl, rfl⟩
        · exact .refl kext

/-- Only startDelayedAction is about the delayed actions. -/
theorem remapAccepted_sameDelayed (iskeydown : Bool) (physicalEventType : PhysicalEventType)
    (kext : Kext) :
    ∃ counted, SameDelayed kext counted ∧ SameDelayed
      (if iskeydown then startDelayedAction settings keyToKey counted else counted)
      (remapAccepted settings keyToKey iskeydown physicalEventType kext) := by
  unfold remapAccepted
  extract_lets known counted prepared fired
  refine ⟨counted, ⟨rfl, rfl, rfl⟩, ?_⟩
  have first : SameDelayed
      (if iskeydown then startDelayedAction settings keyToKey counted else counted) prepared := by
    unfold prepared
    split
    · exact Kext.sameDelayed_onSending _ _
    · exact .refl counted
  have second : SameDelayed prepared fired := by
    unfold fired
    split
    · exact .refl prepared
    · exact Kext.sameDelayed_onSending _ _
    · exact fireToKeys_sameDelayed _ _ _ _ prepared
  have third : SameDelayed fired (if iskeydown then fired else fired.onSending
      (fireAfterKeys settings keyToKey physicalEventType keyToKey.afterKeys_)) := by
    split
    · exact .refl fired
    · exact Kext.sameDelayed_onSending _ fired
  exact (first.trans second).trans third

end KeyToKey

namespace DelayedActions

/-- Each accepted key-down with a delayed action has one outcome, and the next comes after it. The
options are the items that wait before and behind what happens. -/
inductive Outcomes : Option KeyToKey → List Happening → Option KeyToKey → Prop where
  | nil (pending : Option KeyToKey) : Outcomes pending [] pending
  | armed {keyToKey : KeyToKey} {happenings : List Happening} {final : Option KeyToKey}
      (rest : Outcomes (some keyToKey) happenings final) :
      Outcomes none (.armed keyToKey :: happenings) final
  | acted {keyToKey : KeyToKey} {keys : List ToEvent} {delayedActionCanceledBy : Bool}
      {happenings : List Happening} {final : Option KeyToKey}
      (known : (keys, delayedActionCanceledBy) ∈ keyToKey.outcomes)
      (rest : Outcomes none happenings final) :
      Outcomes (some keyToKey) (.acted keyToKey keys delayedActionCanceledBy :: happenings) final

theorem Outcomes.append {first second : List Happening} {before middle after : Option KeyToKey}
    (left : Outcomes before first middle) (right : Outcomes middle second after) :
    Outcomes before (first ++ second) after := by
  induction left with
  | nil => exact right
  | armed _ ih => exact .armed (ih right)
  | acted known _ ih => exact .acted known (ih right)

/-- What the other parts of the kernel extension do, if it is nothing to the delayed actions. -/
structure Elsewhere where
  change : Kext → Kext
  keeps : ∀ kext, Kext.SameDelayed kext (change kext)

/-- FlagStatus is counted, as between prepare and remap. -/
def Elsewhere.counting (change : FlagStatus → FlagStatus) : Elsewhere where
  change := Kext.onSending (Sending.onFlagStatus change)
  keeps := Kext.sameDelayed_onSending _

/-- An event that comes to the items: `between` is what is done between prepare and remap, `offered`
are the items that filters, enabled configurations and ActiveItems let it come to. -/
structure Arrival (items : KeyToKeys) where
  params : Params
  physicalEventType : PhysicalEventType
  between : Elsewhere
  offered : List { keyToKey // keyToKey ∈ items.list }

inductive Label (items : KeyToKeys) where
  | event (arrival : Arrival items)
  | timer
  | elsewhere (other : Elsewhere)

section

variable (settings : Settings) {items : KeyToKeys}

/-- RemapClassManager::prepare. -/
def prepare (items : KeyToKeys) (params : Params) (kext : Kext) : Kext :=
  let kext := kext.onSending (·.onOutput fun output => { output with needToDrop_ := false })
  kext.prepareTargetItems_.foldl (fun kext address =>
    ((items.list.find? (·.address = address)).map
      (KeyToKey.prepare settings · params kext)).getD kext) kext

/-- RemapClassManager::remap; the flag is isremapped. -/
def remap (arrival : Arrival items) (kext : Kext) : Kext × Bool :=
  arrival.offered.foldl (fun state keyToKey =>
    ((keyToKey.1.remap settings arrival.params arrival.physicalEventType state.2 state.1).map
      (·, true)).getD state) (kext, kext.output.needToDrop_)

def deliver (kext : Kext) : Label items → Kext
  | .event arrival =>
      (remap settings arrival (arrival.between.change
        (prepare settings items arrival.params kext))).1
  | .timer => if kext.fire_timer_.active then KeyToKey.fire_timer_callback settings kext else kext
  | .elsewhere other => other.change kext

/-- One round of the loop of RemapClassManager::prepare, with the outcome that it causes. -/
def prepareItem (items : KeyToKeys) (params : Params) (kext : Kext) (address : Nat) :
    Traced Happening Kext :=
  match items.list.find? (·.address = address) with
  | none => pure kext
  | some keyToKey => keyToKey.preparing settings params kext

def prepareAll (items : KeyToKeys) (params : Params) (kext : Kext) : Traced Happening Kext :=
  let kext := kext.onSending (·.onOutput fun output => { output with needToDrop_ := false })
  kext.prepareTargetItems_.foldlM (prepareItem settings items params) kext

/-- One item of RemapClassManager::remap. -/
def offer (arrival : Arrival items) (state : Kext × Bool)
    (keyToKey : { keyToKey // keyToKey ∈ items.list }) : Traced Happening (Kext × Bool) :=
  (fun
    | none => state
    | some kext => (kext, true)) <$>
    keyToKey.1.remapping settings arrival.params arrival.physicalEventType state.2 state.1

def remapAll (arrival : Arrival items) (kext : Kext) : Traced Happening (Kext × Bool) :=
  arrival.offered.foldlM (offer settings arrival) (kext, kext.output.needToDrop_)

/-- deliver, with the outcomes that it causes. -/
def step (kext : Kext) : Label items → Traced Happening Kext
  | .event arrival => do
      let kext ← prepareAll settings items arrival.params kext
      let final ← remapAll settings arrival (arrival.between.change kext)
      pure final.1
  | .timer =>
      if kext.fire_timer_.active then KeyToKey.expiring settings kext else pure kext
  | .elsewhere other => pure (other.change kext)

def run (kext : Kext) (labels : List (Label items)) : Traced Happening Kext :=
  labels.foldlM (step settings) kext

end

/-- What ends the waiting at the latest. -/
def Label.ends {items : KeyToKeys} : Label items → Bool
  | .event arrival => arrival.params.iskeydown = some true
  | .timer => true
  | .elsewhere _ => false

/-- Who waits is the only one that has to prepare. -/
structure Invariant (items : KeyToKeys) (kext : Kext) : Prop where
  known : ∀ address ∈ kext.prepareTargetItems_, ∃ keyToKey ∈ items.list,
    keyToKey.address = address
  waits : kext.fire_timer_.active = true → ∃ keyToKey ∈ items.list,
    kext.target_ = some keyToKey ∧ kext.prepareTargetItems_ = [keyToKey.address]

variable {settings : Settings} {items : KeyToKeys}

theorem prepareAll_value (params : Params) (kext : Kext) :
    (prepareAll settings items params kext).value = prepare settings items params kext := by
  apply Traced.value_foldlM
  intro kext address
  unfold prepareItem
  split
  · next none => rw [none]; rfl
  · next keyToKey found =>
    rw [found]
    exact KeyToKey.preparing_value params kext

theorem remapAll_value (arrival : Arrival items) (kext : Kext) :
    (remapAll settings arrival kext).value = remap settings arrival kext := by
  apply Traced.value_foldlM
  intro state keyToKey
  unfold offer KeyToKey.remapping
  rw [Traced.value_map]
  dsimp only
  rw [Traced.value_emit]
  cases keyToKey.1.remap settings arrival.params arrival.physicalEventType state.2 state.1 <;> rfl

theorem step_value (kext : Kext) (label : Label items) :
    (step settings kext label).value = deliver settings kext label := by
  cases label with
  | event arrival =>
      show (remapAll settings arrival (arrival.between.change
        (prepareAll settings items arrival.params kext).value)).value.1 = _
      rw [remapAll_value, prepareAll_value]
      rfl
  | timer =>
      unfold step deliver
      dsimp only
      split
      · exact KeyToKey.expiring_value kext
      · rfl
  | elsewhere other => rfl

theorem Outcomes.armed_mem {before final : Option KeyToKey} {happenings : List Happening}
    (outcomes : Outcomes before happenings final) {keyToKey : KeyToKey}
    (waits : final = some keyToKey) : before = some keyToKey ∨
    .armed keyToKey ∈ happenings := by
  induction outcomes with
  | nil => exact .inl waits
  | armed _ ih =>
      cases ih waits with
      | inl same => exact .inr (List.mem_cons.2 (.inl (by rw [Option.some_inj.1 same])))
      | inr later => exact .inr (List.mem_cons_of_mem _ later)
  | acted _ _ ih =>
      cases ih waits with
      | inl none => cases none
      | inr later => exact .inr (List.mem_cons_of_mem _ later)

theorem Invariant.of_same {before after : Kext} (invariant : Invariant items before)
    (same : Kext.SameDelayed before after) : Invariant items after := by
  constructor
  · rw [same.prepareTargetItems_]
    exact invariant.known
  · rw [same.fire_timer_, same.target_, same.prepareTargetItems_]
    exact invariant.waits

theorem pending_of_inactive {kext : Kext} (inactive : kext.fire_timer_.active = false) :
    kext.pending = none := by
  unfold Kext.pending
  rw [inactive]
  rfl

/-- Nothing is registered, and nobody waits. -/
def Idle (kext : Kext) : Prop :=
  kext.fire_timer_.active = false ∧ kext.prepareTargetItems_ = []

theorem Idle.invariant {kext : Kext} (idle : Idle kext) : Invariant items kext := by
  constructor
  · rw [idle.2]
    exact fun _ member => absurd member List.not_mem_nil
  · intro active
    rw [idle.1] at active
    cases active

/-- The loop of prepare at a key-down: only the item that waits acts. -/
theorem foldlM_prepare {params : Params} (down : params.iskeydown = some true)
    (addresses : List Nat) (kext : Kext)
    (known : ∀ address ∈ addresses, ∃ keyToKey ∈ items.list, keyToKey.address = address)
    (left : ∀ address ∈ kext.prepareTargetItems_, address ∈ addresses)
    (waits : kext.fire_timer_.active = true → ∃ keyToKey ∈ items.list,
      kext.target_ = some keyToKey ∧ addresses = [keyToKey.address]) :
    let prepared := addresses.foldlM (prepareItem settings items params) kext
    Outcomes kext.pending prepared.events none ∧ Idle prepared.value := by
  induction addresses generalizing kext with
  | nil =>
      have inactive : kext.fire_timer_.active = false := by
        by_contra active
        obtain ⟨keyToKey, _, _, impossible⟩ := waits (Bool.eq_true_of_not_eq_false active)
        cases impossible
      have none : kext.prepareTargetItems_ = [] :=
        List.eq_nil_iff_forall_not_mem.2 fun address member =>
          absurd (left address member) List.not_mem_nil
      rw [pending_of_inactive inactive]
      exact ⟨.nil _, inactive, none⟩
  | cons address addresses ih =>
      obtain ⟨keyToKey, member, rfl⟩ := known address List.mem_cons_self
      have others := fun other later => known other (List.mem_cons_of_mem _ later)
      let unregistered := kext.unregisterPrepareTargetItem keyToKey.address
      have remaining : ∀ other ∈ unregistered.prepareTargetItems_, other ∈ addresses := by
        intro other listed
        obtain ⟨before, different⟩ := List.mem_filter.1 listed
        cases List.mem_cons.1 (left other before) with
        | inl same => exact absurd same (of_decide_eq_true different)
        | inr later => exact later
      have found := KeyToKeys.find_address member
      have turn : prepareItem settings items params kext keyToKey.address =
          keyToKey.preparing settings params kext := by
        unfold prepareItem
        rw [found]
      by_cases active : kext.fire_timer_.active = true
      · obtain ⟨waiting, listed, target, only⟩ := waits active
        obtain ⟨same, rfl⟩ := List.cons.inj only
        have itself : waiting = keyToKey := by
          have alsoFound := KeyToKeys.find_address listed
          rw [← same, found] at alsoFound
          exact (Option.some_inj.1 alsoFound).symm
        subst itself
        let cleared : Kext := { unregistered with
          fire_timer_ := unregistered.fire_timer_.cancelTimeout }.onSending
            (·.onFlagStatus FlagStatus.set)
        let canceled := waiting.canceledKeys params cleared.flagStatus
        have acts : waiting.preparing settings params kext =
            waiting.acting settings canceled.1 canceled.2 cleared := by
          unfold KeyToKey.preparing
          rw [if_neg (by simp [down])]
          exact if_neg (by simp [Kext.unregisterPrepareTargetItem, active])
        have pending : kext.pending = some waiting := by
          unfold Kext.pending
          rw [if_pos active, target]
        have same := @KeyToKey.doDelayedAction_sameDelayed settings waiting canceled.1 canceled.2
          cleared
        simp only [List.foldlM_cons, List.foldlM_nil, turn, acts]
        rw [pending]
        refine ⟨.acted (KeyToKey.canceledKeys_mem_outcomes params _) (.nil none), ?_, ?_⟩
        · exact congrArg TimerWrapper.active same.fire_timer_
        · refine same.prepareTargetItems_.trans ?_
          exact List.eq_nil_iff_forall_not_mem.2 fun other listed =>
            absurd (remaining other listed) List.not_mem_nil
      · have passes : keyToKey.preparing settings params kext = pure unregistered := by
          unfold KeyToKey.preparing
          rw [if_neg (by simp [down])]
          exact if_pos (by simpa [Kext.unregisterPrepareTargetItem] using active)
        have still : unregistered.pending = kext.pending := rfl
        have rest := ih unregistered others remaining fun later => absurd later active
        simp only [List.foldlM_cons, turn, passes]
        rw [← still]
        exact rest

/-- Behind prepare, a key-down finds that nobody waits any more. -/
theorem prepareAll_outcomes {kext : Kext} (invariant : Invariant items kext) (params : Params) :
    let prepared := prepareAll settings items params kext
    Outcomes kext.pending prepared.events prepared.value.pending ∧
      Invariant items prepared.value ∧
      (params.iskeydown = some true → Idle prepared.value) := by
  intro prepared
  let cleared := kext.onSending (·.onOutput fun output => { output with needToDrop_ := false })
  by_cases down : params.iskeydown = some true
  · obtain ⟨outcomes, idle⟩ := @foldlM_prepare settings items params down
      kext.prepareTargetItems_ cleared invariant.known (fun _ member => member) invariant.waits
    have none : prepared.value.pending = none := pending_of_inactive idle.1
    rw [none]
    exact ⟨outcomes, idle.invariant, fun _ => idle⟩
  · obtain ⟨same, outcomes⟩ := @Traced.related_foldlM Happening Kext Nat
      (prepareItem settings items params) (Kext.SameDelayed cleared)
      (fun before happenings after => Outcomes before.pending happenings after.pending)
      (fun _ => .nil _) Outcomes.append kext.prepareTargetItems_
      (fun address _ other same => by
        have passes : prepareItem settings items params other address = pure other := by
          unfold prepareItem
          split
          · rfl
          · exact if_pos down
        rw [passes]
        exact ⟨same, .nil _⟩)
      cleared (Kext.SameDelayed.refl cleared)
    have whole : Kext.SameDelayed kext prepared.value :=
      (Kext.sameDelayed_onSending _ kext).trans same
    exact ⟨outcomes, invariant.of_same whole, fun now => absurd now down⟩

/-- What remap knows of the items: at a key-down nobody waits, until one has accepted. -/
structure Offering (items : KeyToKeys) (params : Params) (state : Kext × Bool) : Prop where
  invariant : Invariant items state.1
  idle : params.iskeydown = some true → state.2 = false → Idle state.1

theorem remapping_events {keyToKey : KeyToKey} {params : Params} {iskeydown : Bool}
    (known : params.iskeydown = some iskeydown) {physicalEventType : PhysicalEventType}
    {isremapped : Bool} {kext after : Kext}
    (accepted : keyToKey.remap settings params physicalEventType isremapped kext = some after) :
    (keyToKey.remapping settings params physicalEventType isremapped kext).events =
      if iskeydown && keyToKey.hasDelayedAction then [.armed keyToKey] else [] := by
  unfold KeyToKey.remapping
  rw [accepted, known]
  cases iskeydown <;> simp [Traced.emit]

/-- The accepted key-down of an item with a delayed action, where nobody waits. -/
theorem startDelayedAction_pending {keyToKey : KeyToKey} (member : keyToKey ∈ items.list)
    (delayed : keyToKey.hasDelayedAction = true) {kext after : Kext} (idle : Idle kext)
    (same : Kext.SameDelayed (keyToKey.startDelayedAction settings kext) after) :
    Invariant items after ∧ after.pending = some keyToKey := by
  have started : (keyToKey.startDelayedAction settings kext).target_ = some keyToKey ∧
      (keyToKey.startDelayedAction settings kext).prepareTargetItems_ = [keyToKey.address] ∧
      (keyToKey.startDelayedAction settings kext).fire_timer_.active = true := by
    unfold KeyToKey.startDelayedAction
    rw [if_pos delayed]
    refine ⟨rfl, ?_, TimerWrapper.setTimeoutMS_active _ _ _⟩
    simp [Kext.registerPrepareTargetItem, Kext.unregisterPrepareTargetItem, idle.2]
  obtain ⟨target, registered, active⟩ := started
  rw [← same.target_] at target
  rw [← same.prepareTargetItems_] at registered
  rw [← same.fire_timer_] at active
  refine ⟨⟨?_, fun _ => ⟨keyToKey, member, target, registered⟩⟩, ?_⟩
  · rw [registered]
    intro address listed
    exact ⟨keyToKey, member, (List.mem_singleton.1 listed).symm⟩
  · unfold Kext.pending
    rw [if_pos active, target]

theorem remapping_outcomes {keyToKey : KeyToKey} (member : keyToKey ∈ items.list)
    {params : Params} {physicalEventType : PhysicalEventType} {state : Kext × Bool}
    (offering : Offering items params state) {after : Kext}
    (accepted : keyToKey.remap settings params physicalEventType state.2 state.1 = some after) :
    Offering items params (after, true) ∧
      Outcomes state.1.pending
        (keyToKey.remapping settings params physicalEventType state.2 state.1).events
        after.pending := by
  have happened := @remapping_events settings keyToKey params
  have whole := accepted
  unfold KeyToKey.remap at accepted
  split at accepted
  · cases accepted
  · next unmapped =>
    split at accepted
    · cases accepted
    · next iskeydown known =>
      rw [happened known whole]
      obtain ⟨pressed, changed, rfl⟩ := Option.map_eq_some_iff.1 accepted
      have pressedSame : Kext.SameDelayed state.1 pressed := by
        unfold KeyToKey.changePressingState at changed
        split at changed
        · cases changed
        · split at changed
          · cases changed
            exact ⟨rfl, rfl, rfl⟩
          · cases changed
        · split at changed
          · cases changed
            exact ⟨rfl, rfl, rfl⟩
          · cases changed
      obtain ⟨counted, countedSame, final⟩ :=
        @KeyToKey.remapAccepted_sameDelayed settings keyToKey
        iskeydown physicalEventType pressed
      have before := pressedSame.trans countedSame
      cases arms : iskeydown && keyToKey.hasDelayedAction with
      | false =>
          have same : Kext.SameDelayed state.1
              (keyToKey.remapAccepted settings iskeydown physicalEventType pressed) := by
            refine before.trans ?_
            split at final
            · next down =>
              have undelayed : ¬ keyToKey.hasDelayedAction = true := by simpa [down] using arms
              unfold KeyToKey.startDelayedAction at final
              rwa [if_neg undelayed] at final
            · exact final
          rw [if_neg Bool.false_ne_true, same.pending]
          refine ⟨⟨offering.invariant.of_same same, fun _ later => absurd later (by simp)⟩,
            .nil _⟩
      | true =>
          obtain ⟨rfl, delayed⟩ := (Bool.and_eq_true _ _ ▸ arms : iskeydown = true ∧ _)
          have idle := offering.idle known (Bool.eq_false_of_not_eq_true unmapped)
          have countedIdle : Idle counted :=
            ⟨(congrArg TimerWrapper.active before.fire_timer_).trans idle.1,
              before.prepareTargetItems_.trans idle.2⟩
          rw [if_pos rfl] at final
          obtain ⟨invariant, pending⟩ :=
            startDelayedAction_pending member delayed countedIdle final
          rw [if_pos rfl, pending, pending_of_inactive idle.1]
          exact ⟨⟨invariant, fun _ later => absurd later (by simp)⟩, .armed (.nil _)⟩

theorem remapAll_outcomes (arrival : Arrival items) {kext : Kext}
    (offering : Offering items arrival.params (kext, kext.output.needToDrop_)) :
    let final := remapAll settings arrival kext
    Outcomes kext.pending final.events final.value.1.pending ∧ Invariant items final.value.1 := by
  obtain ⟨last, outcomes⟩ := @Traced.related_foldlM Happening (Kext × Bool)
    { keyToKey // keyToKey ∈ items.list } (offer settings arrival) (Offering items arrival.params)
    (fun before happenings after => Outcomes before.1.pending happenings after.1.pending)
    (fun _ => .nil _) Outcomes.append arrival.offered
    (fun keyToKey _ state offering => by
      cases accepted : keyToKey.1.remap settings arrival.params arrival.physicalEventType state.2
          state.1 with
      | none =>
          have passes : offer settings arrival state keyToKey = ⟨state, []⟩ := by
            unfold offer KeyToKey.remapping
            rw [accepted]
            rfl
          rw [passes]
          exact ⟨offering, .nil _⟩
      | some after =>
          have takes : offer settings arrival state keyToKey = ⟨(after, true),
              (keyToKey.1.remapping settings arrival.params arrival.physicalEventType state.2
                state.1).events⟩ := by
            unfold offer KeyToKey.remapping
            rw [accepted]
            simp [Functor.map, Traced.emit]
          rw [takes]
          exact remapping_outcomes keyToKey.2 offering accepted)
    (kext, kext.output.needToDrop_) offering
  exact ⟨outcomes, last.invariant⟩

theorem expiring_outcomes {kext : Kext} (invariant : Invariant items kext)
    (active : kext.fire_timer_.active = true) :
    let expired := KeyToKey.expiring settings kext
    Outcomes kext.pending expired.events expired.value.pending ∧
      Invariant items expired.value ∧ expired.value.pending = none := by
  obtain ⟨keyToKey, member, target, registered⟩ := invariant.waits active
  let stopped : Kext := { kext with fire_timer_ := kext.fire_timer_.cancelTimeout }
  have acts : KeyToKey.expiring settings kext =
      keyToKey.acting settings keyToKey.delayedActionKeys_ false stopped := by
    unfold KeyToKey.expiring
    dsimp only
    split
    · next none => exact absurd (target.symm.trans none) (by simp)
    · next found known =>
      cases Option.some_inj.1 (target.symm.trans known)
      rfl
  have same := @KeyToKey.doDelayedAction_sameDelayed settings keyToKey keyToKey.delayedActionKeys_
    false stopped
  have pending : kext.pending = some keyToKey := by
    unfold Kext.pending
    rw [if_pos active, target]
  have inactive : (keyToKey.doDelayedAction settings keyToKey.delayedActionKeys_ false
      stopped).fire_timer_.active = false := congrArg TimerWrapper.active same.fire_timer_
  have none : (keyToKey.doDelayedAction settings keyToKey.delayedActionKeys_ false
      stopped).pending = none := pending_of_inactive inactive
  rw [acts, pending]
  refine ⟨?_, ⟨?_, fun again => ?_⟩, none⟩
  · show Outcomes _ _ (keyToKey.doDelayedAction settings keyToKey.delayedActionKeys_ false
      stopped).pending
    rw [none]
    exact .acted List.mem_cons_self (.nil _)
  · intro address listed
    exact invariant.known address (same.prepareTargetItems_ ▸ listed)
  · exact absurd (inactive.symm.trans again) Bool.false_ne_true

/-- One step: whoever has waited acts at the latest at a key-down and when the timer expires. -/
theorem step_outcomes {kext : Kext} (invariant : Invariant items kext) (label : Label items) :
    let final := step settings kext label
    Outcomes kext.pending final.events final.value.pending ∧ Invariant items final.value ∧
      (label.ends = true → ∀ keyToKey, final.value.pending = some keyToKey →
        .armed keyToKey ∈ final.events) := by
  cases label with
  | event arrival =>
      obtain ⟨first, prepared, down⟩ := @prepareAll_outcomes settings items kext invariant
        arrival.params
      let before := (prepareAll settings items arrival.params kext).value
      have same := arrival.between.keeps before
      have offering : Offering items arrival.params (arrival.between.change before,
          (arrival.between.change before).output.needToDrop_) := by
        refine ⟨prepared.of_same same, fun now _ => ?_⟩
        have idle := down now
        exact ⟨(congrArg TimerWrapper.active same.fire_timer_).trans idle.1,
          same.prepareTargetItems_.trans idle.2⟩
      obtain ⟨second, last⟩ := @remapAll_outcomes settings items arrival _ offering
      rw [same.pending] at second
      have happened : (step settings kext (.event arrival)).events =
          (prepareAll settings items arrival.params kext).events ++
            ((remapAll settings arrival (arrival.between.change before)).events ++ []) := rfl
      rw [List.append_nil] at happened
      refine ⟨?_, last, fun ends keyToKey waits => ?_⟩
      · rw [happened]
        exact first.append second
      · have idle := down (of_decide_eq_true ends)
        have armed := second.armed_mem waits
        rw [pending_of_inactive idle.1] at armed
        rw [happened]
        exact List.mem_append_right _ (armed.resolve_left (by simp))
  | timer =>
      unfold step
      dsimp only
      split
      · next active =>
        obtain ⟨outcomes, kept, none⟩ := @expiring_outcomes settings items kext invariant active
        refine ⟨outcomes, kept, fun _ keyToKey waits => ?_⟩
        rw [none] at waits
        cases waits
      · next inactive =>
        refine ⟨.nil _, invariant, fun _ keyToKey waits => ?_⟩
        have none : kext.pending = none :=
          pending_of_inactive (Bool.eq_false_of_not_eq_true inactive)
        exact absurd (none.symm.trans waits) (by simp)
  | elsewhere other =>
      have same := other.keeps kext
      refine ⟨?_, invariant.of_same same, fun ends => by cases ends⟩
      show Outcomes _ [] (other.change kext).pending
      rw [same.pending]
      exact .nil _

/-- In every run, each accepted key-down with a delayed action has exactly one of its outcomes
before the next one is accepted, and has it when the next key is pressed or the timer expires. -/
theorem run_outcomes (settings : Settings) (items : KeyToKeys) (labels : List (Label items)) :
    let final := run settings (KeyToKeys.start settings) labels
    final.value = Transition.run (deliver settings) (KeyToKeys.start settings) labels ∧
      Outcomes none final.events final.value.pending ∧
      ∀ label : Label items, label.ends = true → ∀ keyToKey,
        (step settings final.value label).value.pending = some keyToKey →
          .armed keyToKey ∈ (step settings final.value label).events := by
  have start : Invariant items (KeyToKeys.start settings) := Idle.invariant ⟨rfl, rfl⟩
  obtain ⟨invariant, outcomes⟩ := @Traced.related_foldlM Happening Kext (Label items)
    (step settings) (Invariant items)
    (fun before happenings after => Outcomes before.pending happenings after.pending)
    (fun _ => .nil _) Outcomes.append labels
    (fun label _ kext invariant =>
      have one := step_outcomes invariant label
      ⟨one.2.1, one.1⟩)
    (KeyToKeys.start settings) start
  exact ⟨Traced.value_foldlM step_value labels _, outcomes,
    fun label => (step_outcomes invariant label).2.2⟩

/-- From the key code 0 to 11. Later comes 8, or 9 where another key is pressed before. -/
def delayedKey : KeyToKey where
  address := 0
  autogenId_ := 0
  fromEvent_ := .KEY ⟨0⟩
  toKeys_ := [⟨.KEY ⟨11⟩, []⟩]
  delayedActionKeys_ := [⟨.KEY ⟨8⟩, []⟩]
  delayedActionCanceledDefaultKeys_ := [⟨.KEY ⟨9⟩, []⟩]

def delayedKeys : KeyToKeys := ⟨[delayedKey], by decide⟩

def arriving (eventType : EventType) (key : KeyCode) : Label delayedKeys :=
  .event {
    params := .keyboardEvent Settings.normal.pairs eventType ⟨0⟩ key .MACBOOK false
    physicalEventType := if eventType = .DOWN then .DOWN else .UP
    between := .counting (FlagStatus.setKey Settings.normal.pairs key ⟨0⟩)
    offered := [⟨delayedKey, List.mem_singleton_self _⟩] }

/-- One outcome of the timer, then one of another key. -/
example : (run .normal (KeyToKeys.start .normal)
    [arriving .DOWN ⟨0⟩, .timer, arriving .UP ⟨0⟩, arriving .DOWN ⟨0⟩, arriving .DOWN ⟨1⟩,
      .timer]).events.map
        (fun | .armed _ => none | .acted _ keys canceled => some (keys, canceled)) =
      [none, some (delayedKey.delayedActionKeys_, false), none,
        some (delayedKey.delayedActionCanceledDefaultKeys_, false)] := by
  decide +kernel

end DelayedActions

end Karabiner
