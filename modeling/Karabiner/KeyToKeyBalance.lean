import Karabiner.InternalReset
import Karabiner.KeyToKeyCapsLock
import Karabiner.SendingShifts

set_option autoImplicit false

/- KeyToKey and count_ of the modifiers and of the buttons. What the key-downs of any items add is
what their key-ups take back, whatever happens in between. -/
namespace Karabiner

open FlagStatus (Selection)
open Sending

/-- count_ changes by the net, and no key-down or key-up is accepted. -/
structure Kext.Shifts (net : Net) (before after : Kext) : Prop where
  sending : Sending.Shifts net before.toSending after.toSending
  pressing : after.pressingFromEvents = before.pressingFromEvents

namespace Kext

variable {first second : Net} {before middle after : Kext}

theorem Shifts.refl (kext : Kext) : Kext.Shifts 0 kext kext :=
  ⟨Sending.Shifts.refl _, rfl⟩

theorem Shifts.trans (left : Kext.Shifts first before middle)
    (right : Kext.Shifts second middle after) : Kext.Shifts (first + second) before after :=
  ⟨left.sending.trans right.sending, right.pressing.trans left.pressing⟩

theorem Shifts.thenSame (left : Kext.Shifts first before middle)
    (right : Kext.Shifts 0 middle after) : Kext.Shifts first before after :=
  ⟨left.sending.thenSame right.sending, right.pressing.trans left.pressing⟩

theorem shifts_onSending {net : Net} {change : Sending → Sending} {kext : Kext}
    (shifts : Sending.Shifts net kext.toSending (change kext.toSending)) :
    Kext.Shifts net kext (kext.onSending change) :=
  ⟨shifts, rfl⟩

/-- The other fields do not count. -/
theorem shifts_of_eq (same : after.toSending = before.toSending)
    (pressing : after.pressingFromEvents = before.pressingFromEvents) :
    Kext.Shifts 0 before after :=
  ⟨same ▸ Sending.Shifts.refl _, pressing⟩

end Kext

namespace KeyToKey

section

variable (settings : Settings) (keyToKey : KeyToKey)

/-- What the first part of remap adds for a key-down: the key itself is taken away, and the
modifiers of KEYTOKEY_INCREASE_MODIFIER_FLAGS are given. -/
def handledNet : Net :=
  -Net.ofSelection (.flag (keyToKey.fromEvent_.getModifierFlag settings.pairs)) -
      Net.ofButtons (.ofButton keyToKey.fromEvent_.getPointingButton) +
    (keyToKey.increaseModifierFlags_.getLast?.map (·.modifierFlags_)).elim 0
      fun flags => Net.ofSelection (.list flags)

/-- What a last key adds that is pressed and released like a modifier. -/
def lastNet (toKey : ToEvent) : Net :=
  if isModifierOrLikeModifier settings toKey then
    Net.ofSelection (.flagAnd (toKey.getModifierFlag settings) toKey.modifierFlags_) -
      Net.ofSelection (.list keyToKey.pureFromModifierFlags_) + toKey.net
  else 0

/-- What an accepted key-down adds. -/
def net : Net :=
  keyToKey.handledNet settings + keyToKey.toKeys_.getLast?.elim 0 (keyToKey.lastNet settings)

end

variable {settings : Settings} {keyToKey : KeyToKey}

theorem handleModifiers_shifts (iskeydown : Bool) (sending : Sending) :
    Shifts (Net.signed iskeydown (keyToKey.handledNet settings)) sending
      (handleModifiers settings keyToKey iskeydown sending) := by
  unfold handleModifiers handledNet
  generalize keyToKey.increaseModifierFlags_.getLast?.map (·.modifierFlags_) = last
  extract_lets fromFlag fromButton increased released pressed decreased restored
  cases iskeydown with
  | true =>
      have start : Shifts (-Net.ofSelection (.flag fromFlag) - Net.ofButtons fromButton) sending
          pressed := by
        rw [sub_eq_add_neg]
        exact (shifts_decrease (.flag fromFlag) sending).trans
          (shifts_buttons false fromButton released)
      cases last with
      | none =>
          show Shifts (_ + 0) sending pressed
          rwa [add_zero]
      | some flags => exact start.trans (shifts_increase (.list flags) pressed)
  | false =>
      have start : Shifts (Net.ofSelection (.flag fromFlag) + Net.ofButtons fromButton) sending
          restored :=
        (shifts_increase (.flag fromFlag) sending).trans
          (shifts_buttons true fromButton decreased)
      cases last with
      | none =>
          have same : Net.signed false (-Net.ofSelection (.flag fromFlag) -
              Net.ofButtons fromButton + 0) =
              Net.ofSelection (.flag fromFlag) + Net.ofButtons fromButton := by
            simp only [Net.signed, Bool.false_eq_true, if_false]
            abel
          show Shifts (Net.signed false (_ + 0)) sending restored
          rwa [same]
      | some flags =>
          have same : Net.signed false (-Net.ofSelection (.flag fromFlag) -
              Net.ofButtons fromButton + Net.ofSelection (.list flags)) =
              Net.ofSelection (.flag fromFlag) + Net.ofButtons fromButton +
                -Net.ofSelection (.list flags) := by
            simp only [Net.signed, Bool.false_eq_true, if_false]
            abel
          show Shifts (Net.signed false (_ + Net.ofSelection (.list flags))) sending _
          rw [same]
          exact start.trans (shifts_decrease (.list flags) restored)

/-- What is counted for a last key that is pressed and released like a modifier. -/
def modifierNet (settings : Settings) (keyToKey : KeyToKey) (toKey : ToEvent) : Net :=
  Net.ofSelection (.flagAnd (toKey.getModifierFlag settings) toKey.modifierFlags_) -
    Net.ofSelection (.list keyToKey.pureFromModifierFlags_)

theorem modifierDown_shifts (toKey : ToEvent) (sending : Sending) :
    Shifts (Net.signed true (modifierNet settings keyToKey toKey)) sending
      (modifierDown settings keyToKey toKey sending) := by
  unfold modifierNet
  rw [sub_eq_add_neg]
  exact (shifts_increase _ sending).trans (shifts_decrease _ _)

theorem modifierUp_shifts (toKey : ToEvent) (sending : Sending) :
    Shifts (Net.signed false (modifierNet settings keyToKey toKey)) sending
      (modifierUp settings keyToKey toKey sending) := by
  have same : Net.signed false (modifierNet settings keyToKey toKey) =
      -Net.ofSelection (.flagAnd (toKey.getModifierFlag settings) toKey.modifierFlags_) +
        Net.ofSelection (.list keyToKey.pureFromModifierFlags_) := by
    simp only [Net.signed, Bool.false_eq_true, if_false, modifierNet]
    abel
  rw [same]
  exact ((shifts_decrease _ sending).trans (shifts_increase _ _)).thenSame (shifts_same rfl _ _)

/-- A key that is not like a modifier is no key of a button. -/
theorem net_eq_zero {toKey : ToEvent} (other : toKey.isEventLikeModifier settings = false) :
    toKey.net = 0 := by
  obtain ⟨type, modifierFlags⟩ := toKey
  cases type with
  | NONE | CONSUMER_KEY => rfl
  | POINTING_BUTTON button => cases other
  | KEY key =>
      simp only [ToEvent.isEventLikeModifier, VirtualKey.isKeyLikeModifier,
        VirtualKey.VK_MOUSEKEY.isKeyLikeModifier, Bool.or_eq_false_iff, decide_eq_false_iff_not,
        not_not] at other
      exact if_pos other.2.1.1

section

variable (apart : settings.ButtonKeysApart)
include apart

theorem fireWithFlags_shifts (event : ToEvent) (physicalEventType : PhysicalEventType)
    (add_to_keyrepeat : Bool) (sending : Sending) :
    Shifts 0 sending
      (fireWithFlags settings keyToKey physicalEventType add_to_keyrepeat sending event) :=
  ((shifts_same rfl (.list event.modifierFlags_) sending).thenSame
    (ToEvent.fire_downup_shifts _ physicalEventType apart event _ _)).thenSame
    (shifts_same rfl (.list event.modifierFlags_) _)

theorem foldl_fireWithFlags_shifts (physicalEventType : PhysicalEventType)
    (add_to_keyrepeat : Bool) (events : List ToEvent) (sending : Sending) :
    Shifts 0 sending (events.foldl
      (fireWithFlags settings keyToKey physicalEventType add_to_keyrepeat) sending) :=
  shifts_foldl (fun event _ => fireWithFlags_shifts apart event physicalEventType add_to_keyrepeat)
    sending

theorem fireBeforeKeys_shifts (physicalEventType : PhysicalEventType) (sending : Sending) :
    Shifts 0 sending (fireBeforeKeys settings keyToKey physicalEventType sending) :=
  ((shifts_same rfl (.list keyToKey.pureFromModifierFlags_) sending).thenSame
    (foldl_fireWithFlags_shifts apart physicalEventType false _ _)).thenSame
    (shifts_same rfl (.list keyToKey.pureFromModifierFlags_) _)

theorem fireToKey_shifts (iskeydown : Bool) (physicalEventType : PhysicalEventType)
    (toKey : ToEvent) (sending : Sending) :
    Shifts (Net.signed iskeydown (keyToKey.lastNet settings toKey)) sending
      (fireToKey settings keyToKey iskeydown physicalEventType toKey sending) := by
  unfold fireToKey lastNet
  extract_lets add_to_keyrepeat newEventType readied fired
  have sent : Shifts (Net.signed iskeydown toKey.net) readied fired := by
    refine ToEvent.fire_shifts _ _ apart toKey ?_ _ _ _ _ readied
    unfold newEventType
    split
    · next modifier => exact .inr modifier
    · exact .inl rfl
  have fired_shifts {net : Net} (shifts : Shifts net sending fired) : Shifts net sending
      (if !add_to_keyrepeat then fired.onRepeat KeyboardRepeat.cancel else fired) :=
    shifts.thenRepeat
  apply fired_shifts
  cases modifier : isModifierOrLikeModifier settings toKey with
  | false =>
      have ready : Shifts 0 sending readied := by
        unfold readied
        rw [if_pos (by rw [modifier]; rfl)]
        exact (shifts_same rfl _ sending).thenSame (shifts_same rfl _ _)
      have other : toKey.isEventLikeModifier settings = false :=
        (Bool.or_eq_false_iff.1 modifier).2
      have whole := ready.trans sent
      rw [net_eq_zero other, Net.signed_zero, add_zero] at whole
      rw [if_neg Bool.false_ne_true, Net.signed_zero]
      exact whole
  | true =>
      have ready : Shifts (Net.signed iskeydown (modifierNet settings keyToKey toKey)) sending
          readied := by
        unfold readied
        rw [if_neg (by rw [modifier]; exact Bool.false_ne_true)]
        cases iskeydown with
        | true => exact modifierDown_shifts toKey sending
        | false => exact (modifierUp_shifts toKey sending).thenSame (shifts_same rfl _ _)
      rw [if_pos rfl, Net.signed_add]
      exact ready.trans sent

theorem fireLastModifier_shifts (iskeydown : Bool) (physicalEventType : PhysicalEventType)
    (lastToEvent : ToEvent) (sending : Sending) :
    Shifts (Net.signed iskeydown lastToEvent.net) sending
      (fireLastModifier settings keyToKey iskeydown physicalEventType lastToEvent sending) := by
  unfold fireLastModifier
  split
  · exact ToEvent.fire_shifts _ _ apart lastToEvent (.inl rfl) _ _ _ _ sending
  · next other =>
    rw [net_eq_zero (Bool.eq_false_of_not_eq_true other), Net.signed_zero]
    exact ToEvent.fireCurrentModifiers_shifts _ physicalEventType sending

theorem fireAfterKeys_shifts (physicalEventType : PhysicalEventType)
    (afterKeys : List (List ToEvent)) (sending : Sending) :
    Shifts 0 sending (fireAfterKeys settings keyToKey physicalEventType afterKeys sending) := by
  induction afterKeys generalizing sending with
  | nil => exact Shifts.refl sending
  | cons toEvents afterKeys ih =>
      have cleared := shifts_set sending
      unfold fireAfterKeys
      dsimp only
      split
      · exact cleared.thenSame (ih _)
      · next condition events =>
        split
        · exact cleared.thenSame (ih _)
        · exact ((((cleared.thenSame (shifts_same rfl _ _)).thenSame
            (shifts_same rfl _ _)).thenSame
            (foldl_fireWithFlags_shifts apart physicalEventType false events _)).thenSame
            (shifts_same rfl _ _)).thenSame (shifts_same rfl _ _)

theorem fireToKeys_shifts (iskeydown : Bool) (physicalEventType : PhysicalEventType)
    (toKeys : List ToEvent) (lastToEvent : ToEvent) (kext : Kext) :
    Kext.Shifts (Net.signed iskeydown (keyToKey.lastNet settings lastToEvent)) kext
      (fireToKeys settings keyToKey iskeydown physicalEventType toKeys lastToEvent kext) := by
  unfold fireToKeys
  extract_lets isModifier canceled lowered fired keysFired started
  have pressed (sending : Sending) : Shifts (Net.signed iskeydown
      (modifierNet settings keyToKey lastToEvent + lastToEvent.net)) sending
      (fireLastModifier settings keyToKey iskeydown physicalEventType lastToEvent
        (if iskeydown then modifierDown settings keyToKey lastToEvent sending
          else modifierUp settings keyToKey lastToEvent sending)) := by
    rw [Net.signed_add]
    refine Shifts.trans ?_ (fireLastModifier_shifts apart iskeydown physicalEventType lastToEvent _)
    cases iskeydown with
    | true => exact modifierDown_shifts lastToEvent sending
    | false => exact modifierUp_shifts lastToEvent sending
  have modifierLast (modifier : isModifier = true) : keyToKey.lastNet settings lastToEvent =
      modifierNet settings keyToKey lastToEvent + lastToEvent.net := if_pos modifier
  have ordinaryLast (ordinary : ¬ isModifier = true) :
      keyToKey.lastNet settings lastToEvent = 0 := if_neg ordinary
  cases iskeydown with
  | true =>
      have ended : Kext.Shifts 0 kext canceled := Kext.shifts_onSending (shifts_onRepeat _ _)
      have first : Kext.Shifts 0 kext lowered :=
        ended.thenSame (Kext.shifts_onSending (shifts_same rfl _ _))
      have start : Kext.Shifts 0 kext keysFired := first.thenSame (Kext.shifts_onSending
        (foldl_fireWithFlags_shifts apart physicalEventType true fired lowered.toSending))
      rw [if_pos rfl]
      split
      · next modifier =>
        rw [modifierLast modifier, ← zero_add (Net.signed true _)]
        refine start.trans (Kext.shifts_onSending ?_)
        have raised : Shifts 0 keysFired.toSending (keysFired.toSending.callFlagStatus
            .temporaryIncrease (.list keyToKey.pureFromModifierFlags_)) :=
          shifts_same rfl _ keysFired.toSending
        have whole := raised.trans (pressed _)
        rw [zero_add] at whole
        exact whole.thenSame (shifts_onRepeat _ _)
      · next ordinary =>
        rw [ordinaryLast ordinary, Net.signed_zero]
        split
        · have repeats : Kext.Shifts 0 keysFired started :=
            Kext.shifts_onSending (shifts_onRepeat _ _)
          exact (start.thenSame repeats).thenSame (Kext.shifts_of_eq rfl rfl)
        · exact start.thenSame (Kext.shifts_of_eq rfl rfl)
  | false =>
      rw [if_neg Bool.false_ne_true]
      split
      · next modifier =>
        rw [modifierLast modifier]
        exact Kext.shifts_onSending (pressed _)
      · next ordinary =>
        rw [ordinaryLast ordinary, Net.signed_zero]
        split
        · exact Kext.shifts_onSending (shifts_onRepeat _ _)
        · exact Kext.Shifts.refl kext

theorem toKeys_shifts (iskeydown : Bool) (physicalEventType : PhysicalEventType) (kext : Kext) :
    Kext.Shifts
      (Net.signed iskeydown (keyToKey.toKeys_.getLast?.elim 0 (keyToKey.lastNet settings))) kext
      (match keyToKey.toKeys_ with
        | [] => kext
        | [toKey] =>
            kext.onSending (fireToKey settings keyToKey iskeydown physicalEventType toKey)
        | first :: second :: rest =>
            fireToKeys settings keyToKey iskeydown physicalEventType (first :: second :: rest)
              (rest.getLastD second) kext) := by
  split
  · next none =>
    have nothing : keyToKey.toKeys_.getLast?.elim 0 (keyToKey.lastNet settings) = 0 := by
      rw [none]
      rfl
    rw [nothing, Net.signed_zero]
    exact Kext.Shifts.refl kext
  · next toKey one =>
    have last : keyToKey.toKeys_.getLast? = some toKey := by simp [one]
    rw [last]
    exact Kext.shifts_onSending (fireToKey_shifts apart iskeydown physicalEventType toKey _)
  · next first second rest several =>
    have last : keyToKey.toKeys_.getLast? = some (rest.getLastD second) := by
      rw [several, List.getLast?_cons_cons, List.getLast?_cons, List.getLastD_eq_getLast?]
    rw [last]
    exact fireToKeys_shifts apart iskeydown physicalEventType _ _ kext

/-- An accepted key-down adds what the configuration says, and an accepted key-up takes as much. -/
theorem remapAccepted_shifts (iskeydown : Bool) (physicalEventType : PhysicalEventType)
    (kext : Kext) :
    Kext.Shifts (Net.signed iskeydown (keyToKey.net settings)) kext
      (remapAccepted settings keyToKey iskeydown physicalEventType kext) := by
  unfold remapAccepted net
  extract_lets known counted prepared fired
  have first : Kext.Shifts (Net.signed iskeydown (keyToKey.handledNet settings)) known counted :=
    Kext.shifts_onSending (handleModifiers_shifts iskeydown known.toSending)
  have second : Kext.Shifts 0 counted prepared := by
    unfold prepared
    split
    · have started : Kext.Shifts 0 counted (startDelayedAction settings keyToKey counted) := by
        unfold startDelayedAction
        split
        · exact Kext.shifts_of_eq rfl rfl
        · exact Kext.Shifts.refl counted
      exact started.thenSame
        (Kext.shifts_onSending (fireBeforeKeys_shifts apart physicalEventType _))
    · exact Kext.Shifts.refl counted
  have third := @toKeys_shifts settings keyToKey apart iskeydown physicalEventType prepared
  have start : Kext.Shifts 0 kext known := Kext.shifts_of_eq rfl rfl
  have whole := start.trans ((first.thenSame second).trans third)
  rw [zero_add, ← Net.signed_add] at whole
  split
  · exact whole
  · exact whole.thenSame
      (Kext.shifts_onSending (fireAfterKeys_shifts apart physicalEventType _ _))

theorem fireDelayedKey_shifts (physicalEventType : PhysicalEventType) (event : ToEvent)
    (sending : Sending) :
    Shifts 0 sending (fireDelayedKey settings keyToKey physicalEventType sending event) := by
  unfold fireDelayedKey
  extract_lets marked
  have first : Shifts 0 sending marked := by
    unfold marked
    split
    · exact shifts_zero rfl rfl
    · exact Shifts.refl sending
  exact first.thenSame (fireWithFlags_shifts apart event physicalEventType false marked)

/-- What ScopedSetter takes for the time of the action, it gives back. -/
theorem doDelayedAction_shifts (keys : List ToEvent) (delayedActionCanceledBy : Bool)
    (kext : Kext) :
    Kext.Shifts 0 kext (doDelayedAction settings keyToKey keys delayedActionCanceledBy kext) := by
  cases keys with
  | nil => exact Kext.Shifts.refl kext
  | cons first rest =>
      unfold doDelayedAction
      dsimp only
      apply Kext.shifts_onSending
      let setter := (FlagStatus.ScopedSetter.construct kext.flagStatus
        kext.flagStatusForDelayedActionKeys_).1
      let taken := FlagStatus.flagsNet setter.added
      let given := FlagStatus.flagsNet setter.removed
      have constructed : Shifts (-taken + given, 0) kext.toSending (kext.toSending.onFlagStatus
          fun _ => (FlagStatus.ScopedSetter.construct kext.flagStatus
            kext.flagStatusForDelayedActionKeys_).2) :=
        ⟨FlagStatus.construct_counts _ _, (Counters.offset_zero _).symm⟩
      have destructed (sending : Sending) :
          Shifts (taken + -given, 0) sending (sending.onFlagStatus setter.destruct) :=
        ⟨FlagStatus.destruct_counts setter _, (Counters.offset_zero _).symm⟩
      have flags (method : FlagStatus.Method) (still : method.step = 0) (sending : Sending) :
          Shifts 0 sending (if delayedActionCanceledBy then
              sending.callFlagStatus method (.list first.modifierFlags_)
            else sending) := by
        split
        · exact shifts_same still _ sending
        · exact Shifts.refl sending
      have undone : ((-taken + given, 0) : Net) + (taken + -given, 0) = 0 := by
        have sum : -taken + given + (taken + -given) = 0 := by abel
        rw [Prod.mk_add_mk, add_zero, sum]
        rfl
      rw [← undone]
      exact (((constructed.thenSame (flags .temporaryDecrease rfl _)).thenSame
        (shifts_foldl (fun event _ => fireDelayedKey_shifts apart _ event) _)).thenSame
        (flags .temporaryIncrease rfl _)).trans (destructed _)

theorem prepare_shifts (params : Params) (kext : Kext) :
    Kext.Shifts 0 kext (prepare settings keyToKey params kext) := by
  unfold prepare
  split
  · exact Kext.Shifts.refl kext
  · extract_lets unregistered stopped cleared canceled
    have first : Kext.Shifts 0 kext unregistered := Kext.shifts_of_eq rfl rfl
    split
    · exact first
    · have second : Kext.Shifts 0 unregistered stopped := Kext.shifts_of_eq rfl rfl
      have third : Kext.Shifts 0 stopped cleared := Kext.shifts_onSending (shifts_set _)
      exact ((first.thenSame second).thenSame third).thenSame
        (doDelayedAction_shifts apart canceled.1 canceled.2 cleared)

theorem fire_timer_callback_shifts (kext : Kext) :
    Kext.Shifts 0 kext (fire_timer_callback settings kext) := by
  unfold fire_timer_callback
  extract_lets stopped
  have first : Kext.Shifts 0 kext stopped := Kext.shifts_of_eq rfl rfl
  split
  · exact first
  · next target _ => exact first.thenSame (doDelayedAction_shifts apart _ false stopped)

end

/-- What changePressingState does if it does something. -/
theorem changePressingState_some {params : Params} {iskeydown : Bool}
    (known : params.iskeydown = some iskeydown) {before after : Kext}
    (changed : changePressingState keyToKey params before = some after) :
    after = { before with pressingFromEvents :=
        if iskeydown then before.pressingFromEvents ++ [keyToKey.address]
        else before.pressingFromEvents.erase keyToKey.address } ∧
      keyToKey.fromEvent_ = FromEvent.ofParams params ∧
      (iskeydown = false → keyToKey.address ∈ before.pressingFromEvents) := by
  unfold changePressingState at changed
  rw [FromEvent.targetIsDown_of_iskeydown known] at changed
  by_cases same : keyToKey.fromEvent_ = FromEvent.ofParams params
  · rw [if_pos same] at changed
    cases iskeydown with
    | true =>
        dsimp only at changed
        split at changed
        · cases changed
          exact ⟨rfl, same, fun impossible => absurd impossible (by simp)⟩
        · cases changed
    | false =>
        dsimp only at changed
        split at changed
        · next pressing =>
          cases changed
          exact ⟨rfl, same, fun _ => pressing⟩
        · cases changed
  · rw [if_neg same] at changed
    cases changed

end KeyToKey

/-- The items of a configuration are different objects. -/
structure KeyToKeys where
  list : List KeyToKey
  distinct : (list.map (·.address)).Nodup

namespace KeyToKeys

/-- What can happen to the items, to the physical keys and to the counters. -/
inductive Event (items : KeyToKeys) where
  | remap (keyToKey : { keyToKey // keyToKey ∈ items.list }) (params : Params)
      (physicalEventType : PhysicalEventType) (isremapped : Bool)
  | prepare (keyToKey : { keyToKey // keyToKey ∈ items.list }) (params : Params)
  | timer
  | key (key : KeyCode) (flags : Flags)
  | button (button : PointingButton) (isbuttondown : Bool)
  | set
  | reset

section

variable (settings : Settings) {items : KeyToKeys}

def start : Kext where
  output := { flagStatus := .initialized settings.pairs }
  flagStatusForDelayedActionKeys_ := .initialized settings.pairs

/-- The part of resetInternalStateIfNeeded that is about KeyToKey and the counters. -/
def reset (kext : Kext) : Kext :=
  { kext with
    output := EventInputQueue.resetOutput settings kext.output
    keyboardRepeat := kext.keyboardRepeat.cancel
    pressingFromEvents := [] }

def step (kext : Kext) : Event items → Kext
  | .remap keyToKey params physicalEventType isremapped =>
      (keyToKey.1.remap settings params physicalEventType isremapped kext).getD kext
  | .prepare keyToKey params => keyToKey.1.prepare settings params kext
  | .timer => if kext.fire_timer_.active then KeyToKey.fire_timer_callback settings kext else kext
  | .key key flags => kext.onSending (·.onFlagStatus (·.setKey settings.pairs key flags))
  | .button button isbuttondown => kext.onSending (·.onButtonStatus (·.set button isbuttondown))
  | .set => kext.onSending (·.onFlagStatus FlagStatus.set)
  | .reset => reset settings kext

/-- What the physical keys alone have added since the last reset. -/
def physicalStep (net : Net) : Event items → Net
  | .key key flags => net + (FlagStatus.keyNet settings.pairs key flags, 0)
  | .button button isbuttondown => net + (0, ButtonStatus.setNet button isbuttondown)
  | .reset => 0
  | _ => net

/-- What the item of an address adds for each of its key-downs. -/
def netOf (items : KeyToKeys) (address : Nat) : Net :=
  (items.list.find? (·.address = address)).elim 0 (·.net settings)

/-- What the key-downs add whose key-ups are still to come. -/
def held (items : KeyToKeys) (kext : Kext) : Net :=
  (kext.pressingFromEvents.map (netOf settings items)).sum

end

variable {settings : Settings} {items : KeyToKeys}

theorem find_address {keyToKey : KeyToKey} (member : keyToKey ∈ items.list) :
    items.list.find? (·.address = keyToKey.address) = some keyToKey := by
  obtain ⟨list, distinct⟩ := items
  induction list with
  | nil => cases member
  | cons first rest ih =>
      rw [List.map_cons, List.nodup_cons] at distinct
      cases List.mem_cons.1 member with
      | inl same =>
          rw [List.find?_cons_of_pos (by simp [same]), same]
      | inr later =>
          have other : first.address ≠ keyToKey.address := fun same =>
            distinct.1 (same ▸ List.mem_map_of_mem later)
          rw [List.find?_cons_of_neg (by simpa using other)]
          exact ih distinct.2 later

theorem netOf_address {keyToKey : KeyToKey} (member : keyToKey ∈ items.list) :
    netOf settings items keyToKey.address = keyToKey.net settings := by
  unfold netOf
  rw [find_address member]
  rfl

theorem map_erase_sum (addresses : List Nat) {address : Nat} (member : address ∈ addresses) :
    ((addresses.erase address).map (netOf settings items)).sum =
      (addresses.map (netOf settings items)).sum + -netOf settings items address := by
  induction addresses with
  | nil => cases member
  | cons first rest ih =>
      by_cases same : first = address
      · subst same
        rw [List.erase_cons_head, List.map_cons, List.sum_cons]
        abel
      · have later : address ∈ rest := (List.mem_cons.1 member).resolve_left (Ne.symm same)
        rw [List.erase_cons_tail (by simpa using same), List.map_cons, List.map_cons,
          List.sum_cons, List.sum_cons, ih later, add_assoc]

/-- The counters hold what the physical keys and the key-downs of the items have added. -/
def Counted (settings : Settings) (items : KeyToKeys) (physical : Net) (kext : Kext) : Prop :=
  Output.Shifts (physical + held settings items kext) (start settings).output kext.output

theorem Counted.of_shifts {physical : Net} {before after : Kext}
    (counted : Counted settings items physical before) (shifts : Kext.Shifts 0 before after) :
    Counted settings items physical after := by
  have whole := counted.trans shifts.sending
  unfold Counted held
  rw [shifts.pressing]
  rwa [add_zero] at whole

theorem remap_counted (apart : settings.ButtonKeysApart) {keyToKey : KeyToKey}
    (member : keyToKey ∈ items.list) {params : Params} {physicalEventType : PhysicalEventType}
    {isremapped : Bool} {physical : Net} {before after : Kext}
    (counted : Counted settings items physical before)
    (accepted : keyToKey.remap settings params physicalEventType isremapped before = some after) :
    Counted settings items physical after := by
  unfold KeyToKey.remap at accepted
  split at accepted
  · cases accepted
  · split at accepted
    · cases accepted
    · next iskeydown known =>
      obtain ⟨pressed, changed, rfl⟩ := Option.map_eq_some_iff.1 accepted
      obtain ⟨rfl, -, released⟩ := KeyToKey.changePressingState_some known changed
      let pressed : Kext := { before with pressingFromEvents :=
        if iskeydown then before.pressingFromEvents ++ [keyToKey.address]
        else before.pressingFromEvents.erase keyToKey.address }
      have shifts := @KeyToKey.remapAccepted_shifts settings keyToKey apart iskeydown
        physicalEventType pressed
      have added : held settings items pressed =
          held settings items before + Net.signed iskeydown (keyToKey.net settings) := by
        cases iskeydown with
        | true => simp [held, pressed, netOf_address member, Net.signed]
        | false =>
            show (List.map _ (List.erase _ _)).sum = _
            rw [map_erase_sum _ (released rfl), netOf_address member]
            rfl
      have whole : Output.Shifts (physical + held settings items before +
          Net.signed iskeydown (keyToKey.net settings)) (start settings).output _ :=
        counted.trans shifts.sending
      unfold Counted
      have same : held settings items
          (KeyToKey.remapAccepted settings keyToKey iskeydown physicalEventType pressed) =
          held settings items pressed := by
        unfold held
        rw [shifts.pressing]
      rw [same, added, ← add_assoc]
      exact whole

theorem resetOutput_counts (output : Output) :
    (EventInputQueue.resetOutput settings output).flagStatus.counts =
        Counters.zeroed output.flagStatus.counts ∧
      (EventInputQueue.resetOutput settings output).buttonStatus.counts =
        Counters.zeroed output.buttonStatus.counts := by
  unfold EventInputQueue.resetOutput
  extract_lets counted modifiers pointer
  have cleared := @clear_sameCounters settings pointer
  have first := @FlagStatus.counts_of_via settings.pairs Settings.Sends _ _
    (EventOutputQueue.fireModifiers_changes AutogenId.maxValue .UP counted.makeFlags
      counted.keyboardType counted) fun _ sends => Settings.Sends.quiet sends
  have second := @FlagStatus.counts_of_via settings.pairs Settings.Sends _ _
    (EventOutputQueue.fireRelativePointer_changes AutogenId.maxValue .UP modifiers.makeButtons 0 0
      modifiers) fun _ sends => Settings.Sends.quiet sends
  have firstButtons : modifiers.buttonStatus = counted.buttonStatus :=
    (@EventOutputQueue.fireModifiers_leavesKeys settings _ _ _ _ _).buttonStatus
  have secondButtons : pointer.buttonStatus = modifiers.buttonStatus :=
    (@EventOutputQueue.fireRelativePointer_leavesKeys settings _ _ _ _ _ _).buttonStatus
  constructor
  · rw [cleared.flagStatus]
    exact second.trans (first.trans (FlagStatus.reset_counts output.flagStatus))
  · rw [cleared.buttonStatus, secondButtons, firstButtons]
    exact ButtonStatus.reset_counts output.buttonStatus

/-- The counters start from zero, and a reset takes them there. -/
theorem reset_counted {physical : Net} {kext : Kext}
    (counted : Counted settings items physical kext) :
    Counted settings items 0 (reset settings kext) := by
  have flags : (start settings).output.flagStatus.counts =
      Counters.zeroed (start settings).output.flagStatus.counts := by
    have same : (FlagStatus.initialized settings.pairs).reset =
        FlagStatus.initialized settings.pairs := by
      simp [FlagStatus.reset, FlagStatus.initialized, FlagStatus.onItems, FlagStatus.Item.reset]
    rw [← FlagStatus.reset_counts]
    exact congrArg FlagStatus.counts same.symm
  have buttons : (start settings).output.buttonStatus.counts =
      Counters.zeroed (start settings).output.buttonStatus.counts := by
    have same : ButtonStatus.initialized.reset = ButtonStatus.initialized := by decide
    rw [← ButtonStatus.reset_counts]
    exact congrArg ButtonStatus.counts same.symm
  obtain ⟨flagsBack, buttonsBack⟩ := @resetOutput_counts settings kext.output
  unfold Counted
  have none : (0 : Net) + held settings items (reset settings kext) = 0 := zero_add 0
  rw [none]
  constructor
  · refine flagsBack.trans ?_
    rw [counted.flags, Counters.zeroed_offset, ← flags]
    exact (Counters.offset_zero _).symm
  · refine buttonsBack.trans ?_
    rw [counted.buttons, Counters.zeroed_offset, ← buttons]
    exact (Counters.offset_zero _).symm

/-- One more physical key or button. -/
theorem Counted.added {physical net : Net} {change : Sending → Sending} {kext : Kext}
    (counted : Counted settings items physical kext)
    (shifts : Shifts net kext.toSending (change kext.toSending)) :
    Counted settings items (physical + net) (kext.onSending change) := by
  have whole := Output.Shifts.trans counted shifts
  rwa [add_right_comm] at whole

theorem step_counted (apart : settings.ButtonKeysApart) {physical : Net} (kext : Kext)
    (event : Event items) (counted : Counted settings items physical kext) :
    Counted settings items (physicalStep settings physical event) (step settings kext event) := by
  cases event with
  | remap keyToKey params physicalEventType isremapped =>
      show Counted settings items physical
        ((keyToKey.1.remap settings params physicalEventType isremapped kext).getD kext)
      cases accepted : keyToKey.1.remap settings params physicalEventType isremapped kext with
      | none => exact counted
      | some after => exact remap_counted apart keyToKey.2 counted accepted
  | prepare keyToKey params =>
      exact counted.of_shifts (KeyToKey.prepare_shifts apart params kext)
  | timer =>
      show Counted settings items physical
        (if kext.fire_timer_.active then KeyToKey.fire_timer_callback settings kext else kext)
      split
      · exact counted.of_shifts (KeyToKey.fire_timer_callback_shifts apart kext)
      · exact counted
  | key key flags =>
      exact counted.added
        ⟨FlagStatus.setKey_counts _ key flags _, (Counters.offset_zero _).symm⟩
  | button button isbuttondown =>
      exact counted.added
        ⟨(Counters.offset_zero _).symm, ButtonStatus.set_counts button isbuttondown _⟩
  | set => exact counted.of_shifts (Kext.shifts_onSending (shifts_set _))
  | reset => exact reset_counted counted

/-- In every run, count_ of each modifier but CapsLock and of each button is what the physical keys
have added, with what the items add for the key-downs that are not yet released. -/
theorem run_counted (apart : settings.ButtonKeysApart) (events : List (Event items)) :
    Output.Shifts
      (events.foldl (physicalStep settings) 0 +
        held settings items (Transition.run (step settings) (start settings) events))
      (start settings).output
      (Transition.run (step settings) (start settings) events).output := by
  have all (events : List (Event items)) (physical : Net) (kext : Kext)
      (counted : Counted settings items physical kext) :
      Counted settings items (events.foldl (physicalStep settings) physical)
        (Transition.run (step settings) kext events) := by
    induction events generalizing physical kext with
    | nil => exact counted
    | cons event events ih => exact ih _ _ (step_counted apart kext event counted)
  apply all events 0 (start settings)
  unfold Counted
  have none : (0 : Net) + held settings items (start settings) = 0 := zero_add 0
  rw [none]
  exact Output.Shifts.refl _

theorem normalSettings_apart : KeyToKey.normalSettings.ButtonKeysApart where
  config := fun _ _ item listed => absurd listed List.not_mem_nil
  modifier := by
    intro key member pair registered type
    revert key pair
    cases type <;> decide

/-- From the key code 0 to the left button. -/
def leftClick : KeyToKeys where
  list := [[(Bridge.DATATYPE_KEYCODE, 0), (Bridge.DATATYPE_POINTINGBUTTON, 4)].foldl
    (fun keyToKey value => keyToKey.add KeyToKey.normalSettings.pairs value.1 value.2)
    { address := 0, autogenId_ := 0 }]
  distinct := by decide

def pressLeftClick : List (Event leftClick) :=
  [.remap ⟨leftClick.list.head (List.cons_ne_nil _ _), List.head_mem _⟩
    (KeyToKey.keyEvent .DOWN)
    .DOWN false]

/-- While the key is down, the button is counted. -/
theorem run_counted_leftClick :
    let pressed := Transition.run (step KeyToKey.normalSettings) (start KeyToKey.normalSettings)
      pressLeftClick
    KeyToKey.normalSettings.ButtonKeysApart ∧
      Output.Shifts (pressLeftClick.foldl (physicalStep KeyToKey.normalSettings) 0 +
        held KeyToKey.normalSettings leftClick pressed)
        (start KeyToKey.normalSettings).output pressed.output ∧
      pressed.pressingFromEvents = [0] ∧
      pressed.output.buttonStatus.item[2]? = some { button := .LEFT, count := 1 } :=
  ⟨normalSettings_apart, run_counted normalSettings_apart pressLeftClick, by decide +kernel,
    by decide +kernel⟩

end KeyToKeys

end Karabiner
