import Karabiner.CapsLock

set_option autoImplicit false

/- KeyToKey and the lock of CapsLock, from an accepted key-down to behind its key-up and its delayed
action. -/
namespace Karabiner

open FlagStatus (Selection)
open Sending (Toggles)

namespace KeyToKey

variable (settings : Settings) (keyToKey : KeyToKey)

/-- All keys that are sent. -/
def keys : List ToEvent :=
  keyToKey.toKeys_ ++ keyToKey.beforeKeys_ ++ keyToKey.afterKeys_.flatten ++
    keyToKey.delayedActionKeys_ ++ keyToKey.delayedActionCanceledDefaultKeys_ ++
    keyToKey.delayedActionCanceledByKeys_.flatten

/-- No key of the configuration is one for CapsLock. The modifiers may be. -/
structure DoesNotAsk : Prop where
  fromEvent : keyToKey.fromEvent_.getModifierFlag settings.pairs ≠ ModifierFlag.CAPSLOCK
  keys : ∀ key ∈ keyToKey.keys, key.isCapsLockKey settings = false

def capsLockToggles (modifierFlags : List ModifierFlag) : Nat :=
  if ModifierFlag.CAPSLOCK ∈ modifierFlags then 1 else 0

/-- The last of toKeys_, if it is pressed and released like a modifier. -/
def lastModifier : Option ToEvent :=
  keyToKey.toKeys_.getLast?.filter (isModifierOrLikeModifier settings)

/-- How often an accepted key-down toggles the lock: for the modifiers of
KEYTOKEY_INCREASE_MODIFIER_FLAGS, and for those of a last key that is like a modifier. -/
def downToggles : Nat :=
  ((keyToKey.increaseModifierFlags_.getLast?.map (·.modifierFlags_)).elim 0 capsLockToggles) +
    ((keyToKey.lastModifier settings).map (·.modifierFlags_)).elim 0 capsLockToggles

/-- How often an accepted key-up toggles it: for the modifiers that are given back. -/
def upToggles : Nat :=
  if (keyToKey.lastModifier settings).isSome then capsLockToggles keyToKey.pureFromModifierFlags_
  else 0

section

variable {settings} {keyToKey}

theorem toggles_list (modifierFlags : List ModifierFlag) :
    (Selection.list modifierFlags).toggles = capsLockToggles modifierFlags := by
  simp [Selection.toggles, Selection.selects, capsLockToggles]

theorem toggles_flag {flag : ModifierFlag} (other : flag ≠ ModifierFlag.CAPSLOCK) :
    (Selection.flag flag).toggles = 0 := by
  simp [Selection.toggles, Selection.selects, other]

theorem toggles_flagAnd {flag : ModifierFlag} (other : flag ≠ ModifierFlag.CAPSLOCK)
    (modifierFlags : List ModifierFlag) :
    (Selection.flagAnd flag modifierFlags).toggles = capsLockToggles modifierFlags := by
  simp [Selection.toggles, Selection.selects, capsLockToggles, other]

theorem getModifierFlag_ne {toKey : ToEvent} (unasked : toKey.isCapsLockKey settings = false) :
    toKey.getModifierFlag settings ≠ ModifierFlag.CAPSLOCK := by
  unfold ToEvent.isCapsLockKey at unasked
  unfold ToEvent.getModifierFlag
  split
  · next key type =>
    rw [type] at unasked
    exact Settings.flag_ne_capsLock unasked (by simp)
  · decide

theorem handleModifiers_toggles (asks : keyToKey.DoesNotAsk settings) (iskeydown : Bool)
    (sending : Sending) :
    Toggles settings (if iskeydown then
        (keyToKey.increaseModifierFlags_.getLast?.map (·.modifierFlags_)).elim 0 capsLockToggles
      else 0) sending (handleModifiers settings keyToKey iskeydown sending) := by
  unfold handleModifiers
  generalize keyToKey.increaseModifierFlags_.getLast?.map (·.modifierFlags_) = last
  extract_lets fromFlag fromButton increased released pressed decreased restored
  have first : Toggles settings 0 sending released :=
    Sending.toggles_call sending .decrease (.flag fromFlag) rfl
  cases iskeydown with
  | true =>
      have start : Toggles settings 0 sending pressed :=
        first.trans (Sending.toggles_onButtonStatus _ _)
      cases last with
      | none => exact start
      | some flags =>
          have whole := start.trans (Sending.toggles_increase pressed (.list flags))
          rw [toggles_list, Nat.zero_add] at whole
          exact whole
  | false =>
      have given : Toggles settings 0 sending decreased := by
        have whole : Toggles settings _ sending decreased :=
          Sending.toggles_increase sending (.flag fromFlag)
        rwa [toggles_flag asks.fromEvent] at whole
      have start : Toggles settings 0 sending restored :=
        given.trans (Sending.toggles_onButtonStatus _ _)
      cases last with
      | none => exact start
      | some flags => exact start.trans (Sending.toggles_call restored .decrease (.list flags) rfl)

theorem fireWithFlags_toggles {event : ToEvent} (unasked : event.isCapsLockKey settings = false)
    (physicalEventType : PhysicalEventType) (add_to_keyrepeat : Bool) (sending : Sending) :
    Toggles settings 0 sending
      (fireWithFlags settings keyToKey physicalEventType add_to_keyrepeat sending event) :=
  ((Sending.toggles_call sending .temporaryIncrease (.list event.modifierFlags_) rfl).trans
    (ToEvent.fire_downup_toggles _ physicalEventType unasked _ _)).trans
    (Sending.toggles_call _ .temporaryDecrease (.list event.modifierFlags_) rfl)

theorem fireBeforeKeys_toggles (asks : keyToKey.DoesNotAsk settings)
    (physicalEventType : PhysicalEventType) (sending : Sending) :
    Toggles settings 0 sending (fireBeforeKeys settings keyToKey physicalEventType sending) := by
  have each : ∀ event ∈ keyToKey.beforeKeys_, ∀ sending, Toggles settings 0 sending
      (fireWithFlags settings keyToKey physicalEventType false sending event) := by
    intro event member sending
    exact fireWithFlags_toggles (asks.keys event (by simp [keys, member])) _ _ sending
  exact ((Sending.toggles_call sending .temporaryDecrease
    (.list keyToKey.pureFromModifierFlags_) rfl).trans (Sending.toggles_foldl each _)).trans
    (Sending.toggles_call _ .temporaryIncrease (.list keyToKey.pureFromModifierFlags_) rfl)

theorem modifierDown_toggles {toKey : ToEvent} (unasked : toKey.isCapsLockKey settings = false)
    (sending : Sending) :
    Toggles settings (capsLockToggles toKey.modifierFlags_) sending
      (modifierDown settings keyToKey toKey sending) := by
  have increased : Toggles settings _ sending _ := Sending.toggles_increase sending
    (.flagAnd (toKey.getModifierFlag settings) toKey.modifierFlags_)
  rw [toggles_flagAnd (getModifierFlag_ne unasked)] at increased
  exact increased.trans
    (Sending.toggles_call _ .decrease (.list keyToKey.pureFromModifierFlags_) rfl)

theorem modifierUp_toggles (toKey : ToEvent) (sending : Sending) :
    Toggles settings (capsLockToggles keyToKey.pureFromModifierFlags_) sending
      (modifierUp settings keyToKey toKey sending) := by
  have decreased : Toggles settings 0 sending _ := Sending.toggles_call sending .decrease
    (.flagAnd (toKey.getModifierFlag settings) toKey.modifierFlags_) rfl
  have increased := decreased.trans
    (Sending.toggles_increase _ (.list keyToKey.pureFromModifierFlags_))
  rw [toggles_list, Nat.zero_add] at increased
  exact increased.trans
    (Sending.toggles_call _ .temporaryDecrease (.list keyToKey.pureFromModifierFlags_) rfl)

theorem fire_toggles {event : ToEvent} (unasked : event.isCapsLockKey settings = false)
    (physicalEventType : PhysicalEventType) (eventType : EventType) (flags : Flags)
    (add_to_keyrepeat : Bool) (delayUntilRepeat keyRepeat : Int) (sending : Sending) :
    Toggles settings 0 sending (event.fire settings keyToKey.autogenId_ physicalEventType eventType
      flags add_to_keyrepeat delayUntilRepeat keyRepeat sending) :=
  ToEvent.fire_toggles _ _ unasked eventType flags add_to_keyrepeat delayUntilRepeat
  keyRepeat sending

/-- How often the lock is toggled for the last of toKeys_. -/
def lastToggles (settings : Settings) (keyToKey : KeyToKey) (iskeydown : Bool)
    (lastToEvent : ToEvent) : Nat :=
  if !isModifierOrLikeModifier settings lastToEvent then 0
  else if iskeydown then capsLockToggles lastToEvent.modifierFlags_
  else capsLockToggles keyToKey.pureFromModifierFlags_

theorem fireToKey_toggles {toKey : ToEvent} (unasked : toKey.isCapsLockKey settings = false)
    (iskeydown : Bool) (physicalEventType : PhysicalEventType) (sending : Sending) :
    Toggles settings (lastToggles settings keyToKey iskeydown toKey) sending
      (fireToKey settings keyToKey iskeydown physicalEventType toKey sending) := by
  unfold fireToKey
  extract_lets add_to_keyrepeat newEventType readied fired
  have ready : Toggles settings (lastToggles settings keyToKey iskeydown toKey) sending
      readied := by
    unfold readied lastToggles
    split
    · exact (Sending.toggles_call sending .temporaryDecrease _ rfl).trans
        (Sending.toggles_call _ .temporaryIncrease _ rfl)
    · split
      · exact modifierDown_toggles unasked sending
      · exact (modifierUp_toggles toKey sending).trans
          (Sending.toggles_call _ .temporaryIncrease _ rfl)
  have whole : Toggles settings (lastToggles settings keyToKey iskeydown toKey) sending fired :=
    ready.trans (fire_toggles unasked _ _ _ _ _ _ readied)
  exact whole.thenRepeat

theorem fireLastModifier_toggles {lastToEvent : ToEvent}
    (unasked : lastToEvent.isCapsLockKey settings = false) (iskeydown : Bool)
    (physicalEventType : PhysicalEventType) (sending : Sending) :
    Toggles settings 0 sending
      (fireLastModifier settings keyToKey iskeydown physicalEventType lastToEvent sending) := by
  unfold fireLastModifier
  split
  · exact fire_toggles unasked _ _ _ _ _ _ sending
  · exact Sending.toggles_changes sending
      (EventOutputQueue.fireCurrentModifiers_changes _ _ sending.output)
      fun _ sends => Settings.Sends.keepsCapsLock sends

theorem fireAfterKeys_toggles (physicalEventType : PhysicalEventType)
    {afterKeys : List (List ToEvent)}
    (unasked : ∀ key ∈ afterKeys.flatten, key.isCapsLockKey settings = false)
    (sending : Sending) :
    Toggles settings 0 sending
      (fireAfterKeys settings keyToKey physicalEventType afterKeys sending) := by
  induction afterKeys generalizing sending with
  | nil => exact FlagStatus.Toggles.refl _
  | cons toEvents afterKeys ih =>
      have rest := ih fun key member => unasked key (List.mem_append_right _ member)
      have cleared : Toggles settings 0 sending (sending.onFlagStatus FlagStatus.set) :=
        FlagStatus.toggles_set _
      unfold fireAfterKeys
      dsimp only
      split
      · exact cleared.trans (rest _)
      · next condition events =>
        split
        · exact cleared.trans (rest _)
        · have each : ∀ event ∈ events, ∀ sending, Toggles settings 0 sending
              (fireWithFlags settings keyToKey physicalEventType false sending event) := by
            intro event member sending
            apply fireWithFlags_toggles
            exact unasked event (List.mem_append_left _ (List.mem_cons_of_mem _ member))
          exact ((((cleared.trans (Sending.toggles_call _ .temporaryDecrease _ rfl)).trans
            (Sending.toggles_call _ .temporaryDecrease _ rfl)).trans
            (Sending.toggles_foldl each _)).trans
            (Sending.toggles_call _ .temporaryIncrease _ rfl)).trans
            (Sending.toggles_call _ .temporaryIncrease _ rfl)

end

end KeyToKey

/-- FlagStatus is what the operations can make of the registered modifiers, and so is the copy of it
that a delayed action waits with. -/
structure Kext.Reached (settings : Settings) (kext : Kext) : Prop where
  flagStatus : FlagStatus.Reachable settings.pairs kext.flagStatus
  saved : kext.fire_timer_.active = true →
    FlagStatus.Reachable settings.pairs kext.flagStatusForDelayedActionKeys_

/-- How often the lock is toggled between two states that can be reached. -/
structure Kext.Toggles (settings : Settings) (n : Nat) (before after : Kext) : Prop where
  sending : Sending.Toggles settings n before.toSending after.toSending
  reached : before.Reached settings → after.Reached settings

namespace Kext

variable {settings : Settings} {m n : Nat}

theorem Toggles.refl (kext : Kext) : Kext.Toggles settings 0 kext kext :=
  ⟨FlagStatus.Toggles.refl _, id⟩

theorem Toggles.trans {first second third : Kext} (left : Kext.Toggles settings m first second)
    (right : Kext.Toggles settings n second third) : Kext.Toggles settings (m + n) first third :=
  ⟨left.sending.trans right.sending, fun reached => right.reached (left.reached reached)⟩

theorem toggles_onSending {change : Sending → Sending} {kext : Kext}
    (sending : Sending.Toggles settings n kext.toSending (change kext.toSending)) :
    Kext.Toggles settings n kext (kext.onSending change) where
  sending := sending
  reached before :=
    { flagStatus := FlagStatus.Toggles.reachable sending before.flagStatus
      saved := before.saved }

/-- The other fields do not matter, and a timer can be stopped. -/
theorem toggles_of_eq {before after : Kext} (same : after.toSending = before.toSending)
    (timer : after.fire_timer_.active = true → before.fire_timer_.active = true)
    (saved : after.flagStatusForDelayedActionKeys_ = before.flagStatusForDelayedActionKeys_) :
    Kext.Toggles settings 0 before after where
  sending := by
    rw [Sending.Toggles, same]
    exact FlagStatus.Toggles.refl _
  reached reached :=
    { flagStatus := by
        rw [same]
        exact reached.flagStatus
      saved := fun active => by
        rw [saved]
        exact reached.saved (timer active) }

theorem toggles_keyboardRepeatID (keyboardRepeatID_ : Nat → Int) (kext : Kext) :
    Kext.Toggles settings 0 kext { kext with keyboardRepeatID_ } :=
  toggles_of_eq rfl id rfl

end Kext

namespace KeyToKey

variable {settings : Settings} {keyToKey : KeyToKey}

theorem startDelayedAction_toggles (kext : Kext) :
    Kext.Toggles settings 0 kext (startDelayedAction settings keyToKey kext) := by
  unfold startDelayedAction
  split
  · refine ⟨FlagStatus.Toggles.refl _, fun reached => ⟨reached.flagStatus, fun _ => ?_⟩⟩
    have copied : FlagStatus.Toggles settings.pairs 0 kext.flagStatus
        (kext.flagStatus.decrease (.list keyToKey.pureFromModifierFlags_)) :=
      FlagStatus.toggles_call kext.flagStatus (.list keyToKey.pureFromModifierFlags_) rfl
    exact copied.reachable reached.flagStatus
  · exact Kext.Toggles.refl kext

theorem fireToKeys_toggles {toKeys : List ToEvent} {lastToEvent : ToEvent}
    (unasked : ∀ key ∈ toKeys, key.isCapsLockKey settings = false)
    (isLast : lastToEvent ∈ toKeys) (iskeydown : Bool) (physicalEventType : PhysicalEventType)
    (kext : Kext) :
    Kext.Toggles settings (lastToggles settings keyToKey iskeydown lastToEvent) kext
      (fireToKeys settings keyToKey iskeydown physicalEventType toKeys lastToEvent kext) := by
  have last := unasked lastToEvent isLast
  unfold fireToKeys
  extract_lets isModifier canceled lowered fired keysFired started
  cases iskeydown with
  | true =>
      have each : ∀ event ∈ fired, ∀ sending, Sending.Toggles settings 0 sending
          (fireWithFlags settings keyToKey physicalEventType true sending event) := by
        intro event member sending
        apply fireWithFlags_toggles
        unfold fired at member
        split at member
        · exact unasked event (List.dropLast_subset toKeys member)
        · exact unasked event member
      have first : Kext.Toggles settings 0 kext canceled :=
        Kext.toggles_onSending (Sending.toggles_onRepeat _ _)
      have second : Kext.Toggles settings 0 canceled lowered :=
        Kext.toggles_onSending (Sending.toggles_call _ .temporaryDecrease _ rfl)
      have third : Kext.Toggles settings 0 lowered keysFired :=
        Kext.toggles_onSending (Sending.toggles_foldl each lowered.toSending)
      have start := (first.trans second).trans third
      rw [if_pos rfl]
      by_cases modifier : isModifier = true
      · rw [if_pos modifier]
        have toggles : lastToggles settings keyToKey true lastToEvent =
            capsLockToggles lastToEvent.modifierFlags_ := by
          simp [lastToggles, show isModifierOrLikeModifier settings lastToEvent = true
            from modifier]
        rw [toggles, ← Nat.zero_add (capsLockToggles _)]
        refine start.trans (Kext.toggles_onSending ?_)
        have raised : Sending.Toggles settings 0 keysFired.toSending _ :=
          Sending.toggles_call keysFired.toSending .temporaryIncrease
            (.list keyToKey.pureFromModifierFlags_) rfl
        have pressed := raised.trans (@modifierDown_toggles settings keyToKey _ last _)
        rw [Nat.zero_add] at pressed
        exact (pressed.trans (fireLastModifier_toggles last true physicalEventType _)).trans
          (Sending.toggles_onRepeat _ _)
      · have toggles : lastToggles settings keyToKey true lastToEvent = 0 := by
          have other : isModifierOrLikeModifier settings lastToEvent = false := by
            simpa using modifier
          simp [lastToggles, other]
        rw [if_neg modifier, toggles]
        split
        · have repeats : Kext.Toggles settings 0 keysFired started :=
            Kext.toggles_onSending (Sending.toggles_onRepeat _ _)
          exact (start.trans repeats).trans (Kext.toggles_keyboardRepeatID _ started)
        · exact start.trans (Kext.toggles_keyboardRepeatID _ keysFired)
  | false =>
      rw [if_neg Bool.false_ne_true]
      by_cases modifier : isModifier = true
      · have toggles : lastToggles settings keyToKey false lastToEvent =
            capsLockToggles keyToKey.pureFromModifierFlags_ := by
          simp [lastToggles, show isModifierOrLikeModifier settings lastToEvent = true
            from modifier]
        rw [if_pos modifier, toggles]
        apply Kext.toggles_onSending
        exact (modifierUp_toggles lastToEvent kext.toSending).trans
          (fireLastModifier_toggles last false physicalEventType _)
      · have toggles : lastToggles settings keyToKey false lastToEvent = 0 := by
          have other : isModifierOrLikeModifier settings lastToEvent = false := by
            simpa using modifier
          simp [lastToggles, other]
        rw [if_neg modifier, toggles]
        split
        · exact Kext.toggles_onSending (Sending.toggles_onRepeat _ _)
        · exact Kext.Toggles.refl kext

/-- How often the lock is toggled for toKeys_. -/
def keysToggles (settings : Settings) (keyToKey : KeyToKey) (iskeydown : Bool) : Nat :=
  if iskeydown then
    ((keyToKey.lastModifier settings).map (·.modifierFlags_)).elim 0 capsLockToggles
  else keyToKey.upToggles settings

theorem lastToggles_of_last {lastToEvent : ToEvent}
    (last : keyToKey.toKeys_.getLast? = some lastToEvent) (iskeydown : Bool) :
    lastToggles settings keyToKey iskeydown lastToEvent =
      keysToggles settings keyToKey iskeydown := by
  unfold lastToggles keysToggles upToggles lastModifier
  rw [last]
  cases modifier : isModifierOrLikeModifier settings lastToEvent <;> cases iskeydown <;>
    simp [Option.filter, modifier]

theorem toKeys_toggles (asks : keyToKey.DoesNotAsk settings) (iskeydown : Bool)
    (physicalEventType : PhysicalEventType) (kext : Kext) :
    Kext.Toggles settings (keysToggles settings keyToKey iskeydown) kext
      (match keyToKey.toKeys_ with
        | [] => kext
        | [toKey] =>
            kext.onSending (fireToKey settings keyToKey iskeydown physicalEventType toKey)
        | first :: second :: rest =>
            fireToKeys settings keyToKey iskeydown physicalEventType (first :: second :: rest)
              (rest.getLastD second) kext) := by
  have unasked : ∀ key ∈ keyToKey.toKeys_, key.isCapsLockKey settings = false :=
    fun key member => asks.keys key (by simp [keys, member])
  split
  · next none =>
    have nothing : keysToggles settings keyToKey iskeydown = 0 := by
      simp [keysToggles, lastModifier, upToggles, none]
    rw [nothing]
    exact Kext.Toggles.refl kext
  · next toKey one =>
    have last : keyToKey.toKeys_.getLast? = some toKey := by simp [one]
    rw [← lastToggles_of_last last]
    apply Kext.toggles_onSending
    exact fireToKey_toggles (unasked toKey (by simp [one])) iskeydown physicalEventType _
  · next first second rest several =>
    have last : keyToKey.toKeys_.getLast? = some (rest.getLastD second) := by
      rw [several, List.getLast?_cons_cons, List.getLast?_cons, List.getLastD_eq_getLast?]
    rw [← lastToggles_of_last last]
    rw [several] at unasked last
    exact fireToKeys_toggles unasked (List.mem_of_getLast? last) iskeydown physicalEventType kext

/-- An accepted event toggles the lock as often as the configuration says. -/
theorem remapAccepted_toggles (asks : keyToKey.DoesNotAsk settings) (iskeydown : Bool)
    (physicalEventType : PhysicalEventType) (kext : Kext) :
    Kext.Toggles settings
      (if iskeydown then keyToKey.downToggles settings else keyToKey.upToggles settings) kext
      (remapAccepted settings keyToKey iskeydown physicalEventType kext) := by
  unfold remapAccepted
  extract_lets known counted prepared fired
  have first : Kext.Toggles settings 0 kext known := Kext.toggles_of_eq rfl id rfl
  have second := first.trans
    (Kext.toggles_onSending (handleModifiers_toggles asks iskeydown known.toSending))
  have third : Kext.Toggles settings 0 counted prepared := by
    unfold prepared
    split
    · exact (startDelayedAction_toggles counted).trans
        (Kext.toggles_onSending (fireBeforeKeys_toggles asks physicalEventType _))
    · exact Kext.Toggles.refl counted
  have keysFired : Kext.Toggles settings (keysToggles settings keyToKey iskeydown) prepared fired :=
    toKeys_toggles asks iskeydown physicalEventType prepared
  have whole := (second.trans third).trans keysFired
  cases iskeydown with
  | true =>
      simp only [keysToggles, if_true, Nat.add_zero, Nat.zero_add] at whole
      exact whole
  | false =>
      simp only [keysToggles, Bool.false_eq_true, if_false, Nat.zero_add] at whole
      have unasked : ∀ key ∈ keyToKey.afterKeys_.flatten, key.isCapsLockKey settings = false :=
        fun key member =>
          asks.keys key (by simp only [keys, List.mem_append, member, true_or, or_true])
      have last : Kext.Toggles settings 0 fired
          (fired.onSending
            (fireAfterKeys settings keyToKey physicalEventType keyToKey.afterKeys_)) :=
        Kext.toggles_onSending (fireAfterKeys_toggles physicalEventType unasked _)
      exact whole.trans last

theorem doDelayedAction_toggles {keys : List ToEvent}
    (unasked : ∀ key ∈ keys, key.isCapsLockKey settings = false)
    (delayedActionCanceledBy : Bool)
    (registered : settings.pairs.flags.Nodup) {kext : Kext}
    (reachable : FlagStatus.Reachable settings.pairs kext.flagStatus)
    (saved : FlagStatus.Reachable settings.pairs kext.flagStatusForDelayedActionKeys_) :
    Kext.Toggles settings
      (if keys = [] then 0
        else kext.flagStatus.capsLockExcess kext.flagStatusForDelayedActionKeys_)
      kext (doDelayedAction settings keyToKey keys delayedActionCanceledBy kext) := by
  cases keys with
  | nil => exact Kext.Toggles.refl kext
  | cons first rest =>
      have same := reachable.flags_eq.trans saved.flags_eq.symm
      have distinct : kext.flagStatus.flags.Nodup := reachable.flags_eq ▸ registered
      have capsLock : ModifierFlag.CAPSLOCK ∈ kext.flagStatus.flags := by
        rw [reachable.flags_eq, Settings.pairs, Pairs.flags, List.map_append]
        exact List.mem_append_left _ (by decide)
      rw [if_neg (List.cons_ne_nil first rest),
        ← FlagStatus.count_capsLock_excess same distinct capsLock]
      unfold doDelayedAction
      dsimp only
      apply Kext.toggles_onSending
      have constructed : Toggles settings _ kext.toSending (kext.toSending.onFlagStatus fun _ =>
          (FlagStatus.ScopedSetter.construct kext.flagStatus
            kext.flagStatusForDelayedActionKeys_).2) :=
        FlagStatus.toggles_construct kext.flagStatus kext.flagStatusForDelayedActionKeys_
      have destructed (sending : Sending) : Toggles settings
          ((kext.flagStatus.subtract kext.flagStatusForDelayedActionKeys_).count
            ModifierFlag.CAPSLOCK) sending
          (sending.onFlagStatus (FlagStatus.ScopedSetter.construct kext.flagStatus
            kext.flagStatusForDelayedActionKeys_).1.destruct) :=
        FlagStatus.toggles_destruct (FlagStatus.ScopedSetter.construct kext.flagStatus
          kext.flagStatusForDelayedActionKeys_).1 sending.flagStatus
      have flags (method : FlagStatus.Method) (keeps : method.keepsLock = true)
          (sending : Sending) : Toggles settings 0 sending
            (if delayedActionCanceledBy then
              sending.callFlagStatus method (.list first.modifierFlags_)
            else sending) := by
        split
        · exact Sending.toggles_call sending method _ keeps
        · exact FlagStatus.Toggles.refl _
      have each :
          ∀ key ∈ (if delayedActionCanceledBy then rest else first :: rest), ∀ sending,
          Toggles settings 0 sending (fireDelayedKey settings keyToKey
            (kext.lastPhysicalEventType_ keyToKey.address) sending key) := by
        intro key member sending
        have other : key.isCapsLockKey settings = false := by
          split at member
          · exact unasked key (List.mem_cons_of_mem first member)
          · exact unasked key member
        unfold fireDelayedKey
        dsimp only
        have dropped : Toggles settings 0 sending
            (if key.isKey .VK_KEYTOKEY_DELAYED_ACTION_DROP_EVENT then
              sending.onOutput fun output => { output with needToDrop_ := true }
            else sending) := by
          split <;> exact FlagStatus.Toggles.refl _
        exact dropped.trans (fireWithFlags_toggles other _ _ _)
      exact (((constructed.trans (flags .temporaryDecrease rfl _)).trans
        (Sending.toggles_foldl each _)).trans (flags .temporaryIncrease rfl _)).trans
        (destructed _)

/-- What the other parts of the kernel extension do meanwhile, if it is nothing to the lock. -/
structure Elsewhere (settings : Settings) where
  change : Kext → Kext
  keeps : ∀ kext, (change kext).flagStatus.capsLock = kext.flagStatus.capsLock
  reached : ∀ kext, kext.Reached settings → (change kext).Reached settings

/-- An operation of FlagStatus that keeps the lock, like those of a key that is not CapsLock. -/
def Elsewhere.operating {settings : Settings} (operation : FlagStatus.Operation)
    (kept : operation.KeepsCapsLock settings.pairs) : Elsewhere settings where
  change := Kext.onSending (Sending.onFlagStatus (·.perform settings.pairs operation))
  keeps kext := by
    have toggles := kept.toggles kext.flagStatus
    show (kext.flagStatus.perform settings.pairs operation).capsLock = _
    simpa using toggles.capsLock
  reached kext := by
    have toggles : Sending.Toggles settings 0 kext.toSending
        (kext.toSending.onFlagStatus (·.perform settings.pairs operation)) :=
      kept.toggles kext.flagStatus
    exact (Kext.toggles_onSending toggles).reached

/-- What can happen around the two accepted events: another event or the timer starts the delayed
action. -/
inductive Moment (settings : Settings) where
  | prepare (params : Params)
  | timer
  | elsewhere (other : Elsewhere settings)

section

variable (settings : Settings) (keyToKey : KeyToKey)

/-- The timer belongs to the KeyToKey that has started it last. -/
def isTimerOf (kext : Kext) : Bool :=
  kext.fire_timer_.active && kext.target_ = some keyToKey

def step (kext : Kext) : Moment settings → Kext
  | .prepare params => prepare settings keyToKey params kext
  | .timer => if keyToKey.isTimerOf kext then fire_timer_callback settings kext else kext
  | .elsewhere other => other.change kext

/-- How often a delayed action with the keys toggles the lock: as often as the sum of CapsLock
differs from the one in the copy. -/
def actionToggles (keys : List ToEvent) (status saved : FlagStatus) : Nat :=
  if keys = [] then 0 else status.capsLockExcess saved

def momentToggles (kext : Kext) : Moment settings → Nat
  | .prepare params =>
      if params.iskeydown = some true ∧ kext.fire_timer_.active = true then
        actionToggles (keyToKey.canceledKeys params kext.flagStatus.set).1 kext.flagStatus.set
          kext.flagStatusForDelayedActionKeys_
      else 0
  | .timer =>
      if keyToKey.isTimerOf kext then
        actionToggles keyToKey.delayedActionKeys_ kext.flagStatus
          kext.flagStatusForDelayedActionKeys_
      else 0
  | .elsewhere _ => 0

def run (kext : Kext) (moments : List (Moment settings)) : Kext :=
  Transition.run (step settings keyToKey) kext moments

def runToggles : Kext → List (Moment settings) → Nat
  | _, [] => 0
  | kext, moment :: moments =>
      momentToggles settings keyToKey kext moment +
        runToggles (step settings keyToKey kext moment) moments

end

/-- There is nothing to send later. -/
theorem runToggles_of_undelayed (undelayed : keyToKey.hasDelayedAction = false) (kext : Kext)
    (moments : List (Moment settings)) : runToggles settings keyToKey kext moments = 0 := by
  have none : (keyToKey.delayedActionKeys_ = [] ∧
      keyToKey.delayedActionCanceledDefaultKeys_ = []) ∧
        keyToKey.delayedActionCanceledByKeys_ = [] := by
    simpa [hasDelayedAction] using undelayed
  obtain ⟨⟨noKeys, noDefault⟩, noCanceledBy⟩ := none
  have idle (kext : Kext) (moment : Moment settings) :
      momentToggles settings keyToKey kext moment = 0 := by
    cases moment with
    | prepare params =>
        have canceled : (keyToKey.canceledKeys params kext.flagStatus.set).1 = [] := by
          simp [canceledKeys, noKeys, noDefault, noCanceledBy]
        simp [momentToggles, actionToggles, canceled]
    | timer => simp [momentToggles, actionToggles, noKeys]
    | elsewhere other => rfl
  induction moments generalizing kext with
  | nil => rfl
  | cons moment moments ih => rw [runToggles, idle, ih]

theorem canceledKeys_subset (params : Params) (status : FlagStatus) :
    ∀ key ∈ (keyToKey.canceledKeys params status).1, key ∈ keyToKey.keys := by
  intro key member
  unfold canceledKeys at member
  split at member
  · next found =>
    have listed := List.mem_of_find?_eq_some found
    exact List.mem_append_right _ (List.mem_flatten.2 ⟨_, listed, member⟩)
  · split at member
    · simp only [keys, List.mem_append, member, true_or, or_true]
    · simp only [keys, List.mem_append, member, true_or, or_true]

/-- A moment toggles the lock as often as it says. What happens elsewhere is only known not to
change it. -/
theorem step_toggles (asks : keyToKey.DoesNotAsk settings)
    (registered : settings.pairs.flags.Nodup) {kext : Kext} (reached : kext.Reached settings)
    (moment : Moment settings) :
    (step settings keyToKey kext moment).flagStatus.capsLock =
        kext.flagStatus.capsLock.map
          FlagStatus.Item.toggle^[momentToggles settings keyToKey kext moment] ∧
      (step settings keyToKey kext moment).Reached settings := by
  have of_toggles {n : Nat} {after : Kext} (toggles : Kext.Toggles settings n kext after) :
      after.flagStatus.capsLock = kext.flagStatus.capsLock.map FlagStatus.Item.toggle^[n] ∧
        after.Reached settings :=
    ⟨toggles.sending.capsLock, toggles.reached reached⟩
  cases moment with
  | elsewhere other =>
      refine ⟨?_, other.reached kext reached⟩
      show (other.change kext).flagStatus.capsLock = _
      rw [other.keeps]
      simp [momentToggles]
  | timer =>
      unfold step momentToggles
      by_cases mine : keyToKey.isTimerOf kext = true
      · simp only [mine, if_true]
        obtain ⟨active, target⟩ : kext.fire_timer_.active = true ∧
            kext.target_ = some keyToKey := by
          simpa [isTimerOf] using mine
        have stopped : Kext.Toggles settings 0 kext
            { kext with fire_timer_ := kext.fire_timer_.cancelTimeout } :=
          Kext.toggles_of_eq rfl (fun ended => absurd ended Bool.false_ne_true) rfl
        have unasked : ∀ key ∈ keyToKey.delayedActionKeys_,
            key.isCapsLockKey settings = false :=
          fun key member => asks.keys key
            (by simp only [keys, List.mem_append, member, true_or, or_true])
        have action := @doDelayedAction_toggles settings keyToKey _ unasked false registered
          { kext with fire_timer_ := kext.fire_timer_.cancelTimeout } reached.flagStatus
          (reached.saved active)
        have whole := stopped.trans action
        rw [Nat.zero_add] at whole
        have result : fire_timer_callback settings kext =
            doDelayedAction settings keyToKey keyToKey.delayedActionKeys_ false
              { kext with fire_timer_ := kext.fire_timer_.cancelTimeout } := by
          unfold fire_timer_callback
          simp only [target]
        rw [result]
        exact of_toggles whole
      · simp only [mine, Bool.false_eq_true, if_false]
        exact of_toggles (Kext.Toggles.refl kext)
  | prepare params =>
      unfold step momentToggles
      dsimp only
      by_cases starts : params.iskeydown = some true ∧ kext.fire_timer_.active = true
      · obtain ⟨down, active⟩ := starts
        rw [if_pos ⟨down, active⟩]
        let stopped : Kext := { kext.unregisterPrepareTargetItem keyToKey.address with
          fire_timer_ := kext.fire_timer_.cancelTimeout }
        let cleared : Kext := stopped.onSending (·.onFlagStatus FlagStatus.set)
        have first : Kext.Toggles settings 0 kext stopped :=
          Kext.toggles_of_eq rfl (fun ended => absurd ended Bool.false_ne_true) rfl
        have second : Kext.Toggles settings 0 stopped cleared :=
          Kext.toggles_onSending (FlagStatus.toggles_set _)
        have unasked : ∀ key ∈ (keyToKey.canceledKeys params kext.flagStatus.set).1,
            key.isCapsLockKey settings = false :=
          fun key member => asks.keys key (canceledKeys_subset params _ key member)
        have action := @doDelayedAction_toggles settings keyToKey _ unasked
          (keyToKey.canceledKeys params kext.flagStatus.set).2 registered cleared
          ((first.trans second).reached reached).flagStatus (reached.saved active)
        have whole := (first.trans second).trans action
        rw [Nat.zero_add] at whole
        have result : prepare settings keyToKey params kext =
            doDelayedAction settings keyToKey
              (keyToKey.canceledKeys params kext.flagStatus.set).1
              (keyToKey.canceledKeys params kext.flagStatus.set).2 cleared := by
          unfold prepare
          rw [if_neg (by simp [down])]
          exact if_neg (by simp [Kext.unregisterPrepareTargetItem, active])
        rw [result]
        exact of_toggles whole
      · rw [if_neg starts]
        apply of_toggles
        unfold prepare
        split
        · exact Kext.Toggles.refl kext
        · next down =>
          have idle : ¬ kext.fire_timer_.active = true :=
            fun active => starts ⟨not_not.1 down, active⟩
          dsimp only
          rw [if_pos (by simpa [Kext.unregisterPrepareTargetItem] using idle)]
          exact Kext.toggles_of_eq rfl id rfl

theorem run_toggles (asks : keyToKey.DoesNotAsk settings)
    (registered : settings.pairs.flags.Nodup) {kext : Kext} (reached : kext.Reached settings)
    (moments : List (Moment settings)) :
    (run settings keyToKey kext moments).flagStatus.capsLock =
        kext.flagStatus.capsLock.map
          FlagStatus.Item.toggle^[runToggles settings keyToKey kext moments] ∧
      (run settings keyToKey kext moments).Reached settings := by
  induction moments generalizing kext with
  | nil => exact ⟨by simp [run, runToggles], reached⟩
  | cons moment moments ih =>
      obtain ⟨here, next⟩ := step_toggles asks registered reached moment
      obtain ⟨later, final⟩ := ih next
      refine ⟨?_, final⟩
      show (run settings keyToKey (step settings keyToKey kext moment)
          moments).flagStatus.capsLock = _
      rw [later, here, Option.map_map, runToggles, Nat.add_comm, Function.iterate_add]

/-- An accepted event is one of remapAccepted behind changePressingState, which leaves FlagStatus
alone. -/
theorem remap_toggles (asks : keyToKey.DoesNotAsk settings) {params : Params} {iskeydown : Bool}
    (known : params.iskeydown = some iskeydown) {physicalEventType : PhysicalEventType}
    {isremapped : Bool} {kext after : Kext}
    (accepted : remap settings keyToKey params physicalEventType isremapped kext = some after) :
    Kext.Toggles settings
      (if iskeydown then keyToKey.downToggles settings else keyToKey.upToggles settings) kext
      after := by
  unfold remap at accepted
  split at accepted
  · cases accepted
  · rw [known] at accepted
    obtain ⟨pressed, changed, rfl⟩ := Option.map_eq_some_iff.1 accepted
    have kept : Kext.Toggles settings 0 kext pressed := by
      unfold changePressingState at changed
      split at changed
      · cases changed
      · split at changed
        · cases changed
          exact Kext.toggles_of_eq rfl id rfl
        · cases changed
      · split at changed
        · cases changed
          exact Kext.toggles_of_eq rfl id rfl
        · cases changed
    have whole := kept.trans (remapAccepted_toggles asks iskeydown physicalEventType pressed)
    rwa [Nat.zero_add] at whole

section

variable (asks : keyToKey.DoesNotAsk settings) (registered : settings.pairs.flags.Nodup)
  {start pressed released : Kext} (reached : start.Reached settings) {down up : Params}
  {downType upType : PhysicalEventType} (isDown : down.iskeydown = some true)
  (isUp : up.iskeydown = some false) (between after : List (Moment settings))
  (accepted : remap settings keyToKey down downType false start = some pressed)
  (ended : remap settings keyToKey up upType false (run settings keyToKey pressed between) =
    some released)

include asks registered reached isDown isUp accepted ended

theorem capsLock_toggled :
    ∃ lock, start.flagStatus.capsLock = some lock ∧ (lock = 0 ∨ lock = 1) ∧
      (run settings keyToKey released after).flagStatus.capsLock =
        some (FlagStatus.Item.toggle^[keyToKey.downToggles settings +
          runToggles settings keyToKey pressed between + keyToKey.upToggles settings +
            runToggles settings keyToKey released after] lock) := by
  have first := remap_toggles asks isDown accepted
  obtain ⟨second, middle⟩ := run_toggles asks registered (first.reached reached) between
  have third := remap_toggles asks isUp ended
  obtain ⟨fourth, -⟩ := run_toggles asks registered (third.reached middle) after
  obtain ⟨lock, found, bit⟩ := reached.flagStatus.capsLock_eq
  have pressedLock : pressed.flagStatus.capsLock = start.flagStatus.capsLock.map _ :=
    first.sending.capsLock
  have releasedLock : released.flagStatus.capsLock =
      (run settings keyToKey pressed between).flagStatus.capsLock.map _ := third.sending.capsLock
  refine ⟨lock, found, bit, ?_⟩
  rw [fourth, releasedLock, second, pressedLock, found, Option.map_some, Option.map_some,
    Option.map_some, Option.map_some, Option.some_inj, ← Function.iterate_add_apply,
    ← Function.iterate_add_apply, ← Function.iterate_add_apply]
  have order (a b c d : Nat) : d + c + b + a = a + b + c + d := by omega
  rw [order]
  rfl

/-- After an accepted key-down, its key-up and the delayed action, the lock of CapsLock is what it
was if and only if it was toggled an even number of times: for the modifiers that are increased,
for those of a last key that is like a modifier, for the ones that the key-up gives back behind
such a key, and where a delayed action starts with another sum of CapsLock than it was waiting
with. -/
theorem capsLock_kept_iff :
    (run settings keyToKey released after).flagStatus.capsLock = start.flagStatus.capsLock ↔
      Even (keyToKey.downToggles settings + runToggles settings keyToKey pressed between +
        keyToKey.upToggles settings + runToggles settings keyToKey released after) := by
  obtain ⟨lock, found, bit, toggled⟩ :=
    capsLock_toggled asks registered reached isDown isUp between after accepted ended
  rw [toggled, found, Option.some_inj, FlagStatus.Item.iterate_toggle_eq_iff bit]

/-- Without a delayed action the configuration alone tells. -/
theorem capsLock_kept_iff_of_undelayed (undelayed : keyToKey.hasDelayedAction = false) :
    (run settings keyToKey released after).flagStatus.capsLock = start.flagStatus.capsLock ↔
      Even (keyToKey.downToggles settings + keyToKey.upToggles settings) := by
  obtain ⟨lock, found, bit, toggled⟩ :=
    capsLock_toggled asks registered reached isDown isUp between after accepted ended
  rw [toggled, found, Option.some_inj, FlagStatus.Item.iterate_toggle_eq_iff bit,
    runToggles_of_undelayed undelayed, runToggles_of_undelayed undelayed, Nat.add_zero,
    Nat.add_zero]

end

section

def normalSettings : Settings := .normal

def startKext : Kext where
  output := { flagStatus := FlagStatus.initialized normalSettings.pairs }
  flagStatusForDelayedActionKeys_ := FlagStatus.initialized normalSettings.pairs

theorem startKext_reached : startKext.Reached normalSettings :=
  ⟨⟨[], rfl⟩, fun _ => ⟨[], rfl⟩⟩

/-- From the key code 0 to the key code 11, with an option and the modifier CapsLock behind it. -/
def withOption (option : Nat) : KeyToKey :=
  [(Bridge.DATATYPE_KEYCODE, 0), (Bridge.DATATYPE_KEYCODE, 11), (Bridge.DATATYPE_OPTION, option),
      (Bridge.DATATYPE_MODIFIERFLAG, ModifierFlag.CAPSLOCK.value)].foldl
    (fun keyToKey value => keyToKey.add normalSettings.pairs value.1 value.2)
    { address := 0, autogenId_ := 0 }

def keyEvent (eventType : EventType) : Params :=
  .keyboardEvent normalSettings.pairs eventType ⟨0⟩ ⟨0⟩ .MACBOOK false

def pressAndRelease (keyToKey : KeyToKey) : Option Kext :=
  (remap normalSettings keyToKey (keyEvent .DOWN) .DOWN false startKext).bind
    (remap normalSettings keyToKey (keyEvent .UP) .UP false)

theorem withOption_doesNotAsk :
    (withOption Option.KEYTOKEY_INCREASE_MODIFIER_FLAGS).DoesNotAsk normalSettings :=
  ⟨by decide, by decide⟩

/-- The key-down increases CapsLock, which locks it, and the key-up cannot decrease it. -/
theorem capsLock_not_kept :
    (withOption Option.KEYTOKEY_INCREASE_MODIFIER_FLAGS).DoesNotAsk normalSettings ∧
      startKext.Reached normalSettings ∧ startKext.flagStatus.capsLock = some 0 ∧
      (pressAndRelease (withOption Option.KEYTOKEY_INCREASE_MODIFIER_FLAGS)).map
        (·.flagStatus.capsLock) = some (some 1) :=
  ⟨withOption_doesNotAsk, startKext_reached, by decide +kernel, by decide +kernel⟩

/-- From the key code 0 to the key code 11 with CapsLock, and later to the key code 8. -/
def delayedToKey : KeyToKey :=
  [(Bridge.DATATYPE_KEYCODE, 0), (Bridge.DATATYPE_KEYCODE, 11),
      (Bridge.DATATYPE_MODIFIERFLAG, ModifierFlag.CAPSLOCK.value),
      (Bridge.DATATYPE_OPTION, Option.KEYTOKEY_DELAYED_ACTION), (Bridge.DATATYPE_KEYCODE, 8)].foldl
    (fun keyToKey value => keyToKey.add normalSettings.pairs value.1 value.2)
    { address := 0, autogenId_ := 0 }

/-- Before the timer expires, FlagStatus::set clears the temporary counters. -/
def meanwhile : List (Moment normalSettings) :=
  [.elsewhere (.operating .set fun _ _ => rfl), .timer]

/-- As a modifier of the key that is sent, CapsLock is only counted for the time of the event, and
is as it was when the delayed action starts. -/
theorem capsLock_kept_for_toKey :
    ∃ pressed released,
      remap normalSettings delayedToKey (keyEvent .DOWN) .DOWN false startKext = some pressed ∧
      remap normalSettings delayedToKey (keyEvent .UP) .UP false
        (run normalSettings delayedToKey pressed meanwhile) = some released ∧
      (run normalSettings delayedToKey released []).flagStatus.capsLock =
        startKext.flagStatus.capsLock := by
  have both : (((remap normalSettings delayedToKey (keyEvent .DOWN) .DOWN false startKext).map
      (run normalSettings delayedToKey · meanwhile)).bind
        (remap normalSettings delayedToKey (keyEvent .UP) .UP false)).isSome := by decide +kernel
  obtain ⟨released, found⟩ := Option.isSome_iff_exists.1 both
  obtain ⟨middle, waited, up⟩ := Option.bind_eq_some_iff.1 found
  obtain ⟨pressed, down, rfl⟩ := Option.map_eq_some_iff.1 waited
  have asks : delayedToKey.DoesNotAsk normalSettings := ⟨by decide, by decide⟩
  refine ⟨pressed, released, down, up, ?_⟩
  refine (capsLock_kept_iff asks FlagStatus.normal_flags_nodup startKext_reached (by decide)
    (by decide) meanwhile [] down up).2 ?_
  have pressedToggles : delayedToKey.downToggles normalSettings = 0 := by decide
  have releasedToggles : delayedToKey.upToggles normalSettings = 0 := by decide
  have delayedToggles : (remap normalSettings delayedToKey (keyEvent .DOWN) .DOWN false
      startKext).map (runToggles normalSettings delayedToKey · meanwhile) = some 0 := by
    decide +kernel
  rw [down, Option.map_some, Option.some_inj] at delayedToggles
  simp [pressedToggles, delayedToggles, releasedToggles, runToggles]

end

end KeyToKey

end Karabiner
