import Karabiner.KeyOperations
import Karabiner.KeyToKey
import Mathlib.Algebra.Group.Nat.Even
import Mathlib.Logic.Function.Iterate

set_option autoImplicit false

/- increase toggles the lock of CapsLock and decrease does nothing to it. What KeyToKey does to
that lock is the number of the increases that select it. -/
namespace Karabiner

open Transition (Via)

namespace FlagStatus

def capsLockItem (status : FlagStatus) : Option Item :=
  status.item.find? (·.flag = ModifierFlag.CAPSLOCK)

/-- lock_count_ of the CapsLock item. -/
def capsLock (status : FlagStatus) : Option Int := status.capsLockItem.map (·.lockCount)

theorem capsLockItem_onItems {change : Item → Item} (same : ∀ it, (change it).flag = it.flag)
    (status : FlagStatus) :
    (status.onItems change).capsLockItem = status.capsLockItem.map change := by
  unfold capsLockItem onItems
  rw [List.find?_map]
  congr 2
  funext it
  simp [same]

theorem capsLockItem_flag {status : FlagStatus} {it : Item}
    (found : status.capsLockItem = some it) : it.flag = ModifierFlag.CAPSLOCK := by
  simpa using List.find?_some found

/-- The operations that lead from one status to another toggle the lock so many times. -/
structure Toggles (pairs : Pairs) (n : Nat) (before after : FlagStatus) : Prop where
  via : Via (perform pairs) (fun _ => True) before after
  capsLock : after.capsLock = before.capsLock.map Item.toggle^[n]

namespace Toggles

variable {pairs : Pairs} {m n : Nat} {before middle after : FlagStatus}

theorem refl (status : FlagStatus) : Toggles pairs 0 status status :=
  ⟨Via.refl status, by simp⟩

theorem trans (first : Toggles pairs m before middle) (second : Toggles pairs n middle after) :
    Toggles pairs (m + n) before after where
  via := first.via.trans second.via
  capsLock := by
    rw [second.capsLock, first.capsLock, Option.map_map, Nat.add_comm, Function.iterate_add]

theorem perform {operation : Operation}
    (toggles : ∀ it : Item, it.flag = ModifierFlag.CAPSLOCK →
      (operation.onItem pairs it).lockCount = Item.toggle^[n] it.lockCount) :
    Toggles pairs n before (before.perform pairs operation) where
  via := Via.single trivial
  capsLock := by
    rw [perform_eq_onItems, FlagStatus.capsLock,
      capsLockItem_onItems (operation.onItem_flag pairs), FlagStatus.capsLock, Option.map_map,
      Option.map_map]
    cases found : before.capsLockItem with
    | none => rfl
    | some it => simp [toggles it (capsLockItem_flag found)]

end Toggles

/-- The operation keeps the lock of CapsLock. -/
def Operation.KeepsCapsLock (pairs : Pairs) (operation : Operation) : Prop :=
  ∀ it : Item, it.flag = ModifierFlag.CAPSLOCK →
    (operation.onItem pairs it).lockCount = it.lockCount

theorem Operation.KeepsCapsLock.toggles {pairs : Pairs} {operation : Operation}
    (kept : operation.KeepsCapsLock pairs) (status : FlagStatus) :
    Toggles pairs 0 status (status.perform pairs operation) :=
  Toggles.perform (n := 0) kept

theorem Toggles.of_via {pairs : Pairs} {allowed : Operation → Prop} {before after : FlagStatus}
    (via : Via (FlagStatus.perform pairs) allowed before after)
    (keeps : ∀ operation, allowed operation → operation.KeepsCapsLock pairs) :
    Toggles pairs 0 before after :=
  via.induction (Toggles pairs 0) Toggles.refl (fun _ _ _ first second => first.trans second)
    fun status operation permitted => (keeps operation permitted).toggles status

/-- How often a call of a method toggles the lock. -/
def Selection.toggles (selection : Selection) : Nat :=
  if selection.selects ModifierFlag.CAPSLOCK then 1 else 0

/-- The methods that do not change lock_count_, of CapsLock or of another item. -/
def Method.keepsLock : Method → Bool
  | .increase | .lockIncrease | .lockDecrease | .lockToggle => false
  | _ => true

theorem Operation.keepsCapsLock_call {pairs : Pairs} {method : Method} {selection : Selection}
    (unlocked : method.keepsLock = true ∨ selection.selects ModifierFlag.CAPSLOCK = false) :
    (Operation.call method selection).KeepsCapsLock pairs := by
  intro it capsLock
  show (if selection.selects it.flag then method.call it else it).lockCount = it.lockCount
  by_cases selected : selection.selects it.flag = true
  · have keeps : method.keepsLock = true := by
      rcases unlocked with keeps | other
      · exact keeps
      · rw [capsLock, other] at selected
        exact absurd selected Bool.false_ne_true
    rw [if_pos selected]
    cases method <;> first | rfl | (simp only [Method.keepsLock] at keeps; contradiction) | skip
    show it.decrease.lockCount = it.lockCount
    rw [Item.decrease, if_pos capsLock]
  · rw [if_neg selected]

section

variable {pairs : Pairs} (status : FlagStatus) (selection : Selection)

theorem toggles_increase :
    Toggles pairs selection.toggles status (status.call .increase selection) := by
  have toggles : ∀ it : Item, it.flag = ModifierFlag.CAPSLOCK →
      ((Operation.call .increase selection).onItem pairs it).lockCount =
        Item.toggle^[selection.toggles] it.lockCount := by
    intro it capsLock
    show (if selection.selects it.flag then it.increase else it).lockCount = _
    rw [capsLock, Selection.toggles]
    by_cases selected : selection.selects ModifierFlag.CAPSLOCK = true
    · rw [if_pos selected, if_pos selected, Item.increase, if_pos capsLock]
      rfl
    · rw [if_neg selected, if_neg selected]
      rfl
  exact Toggles.perform toggles

/-- Every other method that KeyToKey calls. -/
theorem toggles_call {method : Method} (keeps : method.keepsLock = true) :
    Toggles pairs 0 status (status.call method selection) := by
  have kept : (Operation.call method selection).KeepsCapsLock pairs :=
    Operation.keepsCapsLock_call (.inl keeps)
  exact kept.toggles status

theorem toggles_set : Toggles pairs 0 status status.set := by
  have kept : Operation.set.KeepsCapsLock pairs := fun _ _ => rfl
  exact kept.toggles status

theorem toggles_foldl_increase (flags : List ModifierFlag) (status : FlagStatus) :
    Toggles pairs (flags.count ModifierFlag.CAPSLOCK) status
      (flags.foldl (fun status flag => status.increase (.flag flag)) status) := by
  induction flags generalizing status with
  | nil => exact Toggles.refl status
  | cons flag flags ih =>
      have first : Toggles pairs _ status (status.increase (.flag flag)) :=
        toggles_increase status (.flag flag)
      have whole := first.trans (ih _)
      have count : (flag :: flags).count ModifierFlag.CAPSLOCK =
          (Selection.flag flag).toggles + flags.count ModifierFlag.CAPSLOCK := by
        rw [List.count_cons, Nat.add_comm]
        simp [Selection.toggles, Selection.selects]
      rw [count]
      exact whole

theorem toggles_foldl_decrease (flags : List ModifierFlag) (status : FlagStatus) :
    Toggles pairs 0 status
      (flags.foldl (fun status flag => status.decrease (.flag flag)) status) := by
  induction flags generalizing status with
  | nil => exact Toggles.refl status
  | cons flag flags ih =>
      have first : Toggles pairs 0 status (status.decrease (.flag flag)) :=
        toggles_call status (.flag flag) rfl
      exact first.trans (ih _)

/-- The constructor of ScopedSetter cannot take the lock away, but it can set it. -/
theorem toggles_construct (status newval : FlagStatus) :
    Toggles pairs ((newval.subtract status).count ModifierFlag.CAPSLOCK) status
      (ScopedSetter.construct status newval).2 := by
  have added : Toggles pairs 0 status _ :=
    toggles_foldl_decrease (status.subtract newval) status
  have removed := added.trans (toggles_foldl_increase (newval.subtract status) _)
  rw [Nat.zero_add] at removed
  exact removed

theorem toggles_destruct (setter : ScopedSetter) (status : FlagStatus) :
    Toggles pairs (setter.added.count ModifierFlag.CAPSLOCK) status (setter.destruct status) := by
  have added : Toggles pairs _ status _ := toggles_foldl_increase setter.added status
  exact added.trans (toggles_foldl_decrease setter.removed _)

end

/-- The sum of the CapsLock item. -/
def capsLockSum (status : FlagStatus) : Int := (status.capsLockItem.map (·.sum true)).getD 0

/-- The CapsLock items of two values stand in the same place. -/
theorem capsLockItem_zip {status other : FlagStatus} (same : status.flags = other.flags)
    (registered : ModifierFlag.CAPSLOCK ∈ status.flags) :
    ∃ it otherIt, status.capsLockItem = some it ∧ other.capsLockItem = some otherIt ∧
      (it, otherIt) ∈ status.item.zip other.item := by
  obtain ⟨items⟩ := status
  obtain ⟨others⟩ := other
  unfold capsLockItem
  simp only [flags] at same registered ⊢
  induction items generalizing others with
  | nil => exact absurd registered List.not_mem_nil
  | cons it items ih =>
      cases others with
      | nil => cases same
      | cons otherIt others =>
          rw [List.map_cons, List.map_cons, List.cons.injEq] at same
          by_cases here : it.flag = ModifierFlag.CAPSLOCK
          · refine ⟨it, otherIt, ?_, ?_, List.mem_cons_self⟩
            · rw [List.find?_cons_of_pos (by simpa using here)]
            · rw [List.find?_cons_of_pos (by simpa using same.1 ▸ here)]
          · have later : ModifierFlag.CAPSLOCK ∈ items.map (·.flag) := by
              cases List.mem_cons.1 registered with
              | inl first => exact absurd first.symm here
              | inr rest => exact rest
            obtain ⟨found, otherFound, left, right, paired⟩ := ih later others same.2
            refine ⟨found, otherFound, ?_, ?_, List.mem_cons_of_mem _ paired⟩
            · rw [List.find?_cons_of_neg (by simpa using here), left]
            · rw [List.find?_cons_of_neg (by simpa using same.1 ▸ here), right]

/-- The difference vectors hold CapsLock as often as its sums differ. -/
theorem count_capsLock_subtract {status other : FlagStatus} (same : status.flags = other.flags)
    (distinct : status.flags.Nodup) (registered : ModifierFlag.CAPSLOCK ∈ status.flags) :
    (status.subtract other).count ModifierFlag.CAPSLOCK =
      (status.capsLockSum - other.capsLockSum).toNat := by
  obtain ⟨it, otherIt, found, otherFound, paired⟩ := capsLockItem_zip same registered
  have count := subtract_count same distinct paired
  rw [capsLockItem_flag found] at count
  simp [count, capsLockSum, found, otherFound]

/-- How often the lock is toggled when another value is put in the place of the status and the
status is put back. -/
def capsLockExcess (status saved : FlagStatus) : Nat :=
  (status.capsLockSum - saved.capsLockSum).natAbs

theorem count_capsLock_excess {status saved : FlagStatus} (same : status.flags = saved.flags)
    (distinct : status.flags.Nodup) (registered : ModifierFlag.CAPSLOCK ∈ status.flags) :
    (saved.subtract status).count ModifierFlag.CAPSLOCK +
      (status.subtract saved).count ModifierFlag.CAPSLOCK = status.capsLockExcess saved := by
  rw [count_capsLock_subtract same distinct registered,
    count_capsLock_subtract same.symm (same ▸ distinct) (same ▸ registered), capsLockExcess]
  omega

theorem Item.toggle_eq (n : Int) : Item.toggle n = 0 ∨ Item.toggle n = 1 := by
  unfold Item.toggle
  split
  · exact .inr rfl
  · exact .inl rfl

theorem Item.lockCount_increase {it : Item} (bit : it.lockCount = 0 ∨ it.lockCount = 1) :
    it.increase.lockCount = 0 ∨ it.increase.lockCount = 1 := by
  unfold Item.increase
  split
  · exact Item.toggle_eq it.lockCount
  · exact bit

theorem Item.lockCount_decrease (it : Item) : it.decrease.lockCount = it.lockCount := by
  unfold Item.decrease
  split <;> rfl

theorem Operation.onItem_lockCount {pairs : Pairs} (operation : Operation) {it : Item}
    (bit : it.lockCount = 0 ∨ it.lockCount = 1) :
    (operation.onItem pairs it).lockCount = 0 ∨ (operation.onItem pairs it).lockCount = 1 := by
  cases operation with
  | call method selection =>
      show (if selection.selects it.flag then method.call it else it).lockCount = 0 ∨
        (if selection.selects it.flag then method.call it else it).lockCount = 1
      split
      · cases method with
        | increase => exact Item.lockCount_increase bit
        | decrease => exact (Item.lockCount_decrease it).symm ▸ bit
        | lockIncrease => exact .inr rfl
        | lockDecrease => exact .inl rfl
        | lockToggle => exact Item.toggle_eq it.lockCount
        | _ => exact bit
      · exact bit
  | setKey key flags =>
      show (it.setKey pairs key flags).lockCount = 0 ∨ (it.setKey pairs key flags).lockCount = 1
      unfold Item.setKey
      dsimp only
      split
      · exact bit
      · split
        · split
          · exact .inr rfl
          · exact .inl rfl
        · split
          · exact Item.lockCount_increase bit
          · exact (Item.lockCount_decrease _).symm ▸ bit
  | lockClear =>
      show (if it.lockCount ≠ 0 then it.lockDecrease else it).lockCount = 0 ∨ _
      split
      · exact .inl rfl
      · next clear => exact .inl (not_not.1 clear)
  | lazyDisableIfOff =>
      show it.lazyDisableIfOff.lockCount = 0 ∨ it.lazyDisableIfOff.lockCount = 1
      unfold Item.lazyDisableIfOff
      split <;> exact bit
  | stickyActiveModifiersToggle | stickyActiveModifiersIncrease | stickyActiveModifiersDecrease
  | negativeLockClear =>
      unfold Operation.onItem
      dsimp only
      split <;> exact bit
  | set | reset | stickyClear | lazyEnable => exact bit

/-- In every reachable status the lock of CapsLock is 0 or 1. -/
theorem Reachable.capsLock_eq {settings : Settings} {status : FlagStatus}
    (reachable : Reachable settings.pairs status) :
    ∃ lock, status.capsLock = some lock ∧ (lock = 0 ∨ lock = 1) := by
  refine Transition.Reachable.invariant
    (fun status => ∃ lock, status.capsLock = some lock ∧ (lock = 0 ∨ lock = 1)) ?_ reachable
    ⟨0, rfl, .inl rfl⟩
  intro state operation known
  obtain ⟨lock, found, bit⟩ := known
  unfold capsLock at found ⊢
  rw [perform_eq_onItems, capsLockItem_onItems (operation.onItem_flag settings.pairs)]
  cases item : state.capsLockItem with
  | none =>
      rw [item] at found
      cases found
  | some it =>
      rw [item] at found
      have same : it.lockCount = lock := by simpa using found
      exact ⟨_, rfl, operation.onItem_lockCount (same ▸ bit)⟩

/-- A lock that is 0 or 1 comes back after an even number of toggles and after no other. -/
theorem Item.iterate_toggle_eq_iff {lock : Int} (bit : lock = 0 ∨ lock = 1) (n : Nat) :
    Item.toggle^[n] lock = lock ↔ Even n := by
  induction n generalizing lock with
  | zero => simp
  | succ n ih =>
      have other : Item.toggle lock = 1 - lock := by
        rcases bit with rfl | rfl <;> rfl
      have bits : 1 - lock = 0 ∨ 1 - lock = 1 := by omega
      have next := ih bits
      rw [Function.iterate_succ_apply, other, Nat.even_add_one, ← next]
      have result : Item.toggle^[n] (1 - lock) = 0 ∨ Item.toggle^[n] (1 - lock) = 1 := by
        cases n with
        | zero => exact bits
        | succ n =>
            rw [Function.iterate_succ_apply']
            exact Item.toggle_eq _
      omega

theorem Toggles.reachable {pairs : Pairs} {n : Nat} {before after : FlagStatus}
    (toggles : Toggles pairs n before after) (reachable : Reachable pairs before) :
    Reachable pairs after := by
  obtain ⟨operations, rfl⟩ := reachable
  obtain ⟨others, -, same⟩ := toggles.via
  exact ⟨operations ++ others, by rw [same, Transition.run_append]⟩

end FlagStatus

/-- The key is CapsLock itself, or one of the virtual keys that lock it or take its lock away. -/
def Settings.isCapsLockKey (settings : Settings) (key : KeyCode) : Bool :=
  key = KeyCode.VK_LOCK_ALL_FORCE_OFF ||
    [KeyCodeType.KEYCODE, .VK_LOCK, .VK_LOCK_FORCE_ON, .VK_LOCK_FORCE_OFF].any fun type =>
      settings.pairs.getModifierFlag key type = ModifierFlag.CAPSLOCK

namespace Settings

open FlagStatus (Operation)

variable {settings : Settings}

/-- A flag of modifierdef.xml is not CapsLock. -/
theorem getModifierFlag_capsLock {key : KeyCode} {type : KeyCodeType}
    (capsLock : settings.pairs.getModifierFlag key type = ModifierFlag.CAPSLOCK) :
    key = Pairs.normal.getKeyCode .CAPSLOCK type := by
  unfold Pairs.getModifierFlag at capsLock
  split at capsLock
  · next pair found =>
    have member := List.mem_of_find?_eq_some found
    have code : pair.keyCode type = key := by simpa using List.find?_some found
    cases List.mem_append.1 member with
    | inl normal =>
        have only : ∀ pair ∈ Pairs.normal, pair.modifierFlag = ModifierFlag.CAPSLOCK →
            pair.keyCode = fun type => Pairs.normal.getKeyCode .CAPSLOCK type := by
          intro pair normal
          simp only [Pairs.normal, List.mem_cons, List.not_mem_nil, or_false] at normal
          rcases normal with rfl | rfl | rfl | rfl | rfl | rfl | rfl | rfl | rfl | rfl <;>
            first | (intro _; funext type; cases type <;> rfl) | (intro other; cases other)
        rw [← code, only pair normal capsLock]
    | inr extra =>
        have bits := settings.virtual pair extra
        rw [capsLock] at bits
        exact absurd bits (by decide)
  · cases capsLock

theorem isCapsLockKey_replacements {key : KeyCode} (replaced : key ∈ VirtualKey.replacements) :
    settings.isCapsLockKey key = false := by
  have off : key ≠ KeyCode.VK_LOCK_ALL_FORCE_OFF := by
    revert key
    decide
  have codes : ∀ type ∈ [KeyCodeType.KEYCODE, .VK_LOCK, .VK_LOCK_FORCE_ON, .VK_LOCK_FORCE_OFF],
      key ≠ Pairs.normal.getKeyCode .CAPSLOCK type := by
    revert key
    decide
  unfold isCapsLockKey
  simp only [off, decide_false, Bool.false_or, List.any_eq_false, decide_eq_true_eq]
  exact fun type member capsLock => codes type member (getModifierFlag_capsLock capsLock)

theorem flag_ne_capsLock {key : KeyCode} (other : settings.isCapsLockKey key = false)
    {type : KeyCodeType}
    (lock : type ∈ [KeyCodeType.KEYCODE, .VK_LOCK, .VK_LOCK_FORCE_ON, .VK_LOCK_FORCE_OFF]) :
    settings.pairs.getModifierFlag key type ≠ ModifierFlag.CAPSLOCK := by
  intro capsLock
  have found : settings.isCapsLockKey key = true := by
    rw [isCapsLockKey, Bool.or_eq_true, List.any_eq_true]
    exact .inr ⟨type, lock, by simpa using capsLock⟩
  rw [other] at found
  cases found

theorem keepsCapsLock_operations {key : KeyCode} (other : settings.isCapsLockKey key = false)
    {operation : Operation} (performed : operation ∈ settings.operations key) :
    operation.KeepsCapsLock settings.pairs := by
  have quiet {method : FlagStatus.Method} {flag : ModifierFlag}
      (unlocked : method.keepsLock = true ∨ flag ≠ ModifierFlag.CAPSLOCK) :
      (Operation.call method (.flag flag)).KeepsCapsLock settings.pairs := by
    apply FlagStatus.Operation.keepsCapsLock_call
    cases unlocked with
    | inl keeps => exact .inl keeps
    | inr distinct => exact .inr (by simpa [FlagStatus.Selection.selects] using distinct)
  have off : key ≠ KeyCode.VK_LOCK_ALL_FORCE_OFF := by
    intro same
    simp [isCapsLockKey, same] at other
  unfold operations at performed
  rcases List.mem_append.1 performed with first | all
  · rcases List.mem_append.1 first with lazy | rows
    · simp only [List.mem_cons, List.not_mem_nil, or_false] at lazy
      rcases lazy with rfl | rfl
      · exact quiet (.inl rfl)
      · exact quiet (.inl rfl)
    · obtain ⟨row, member, rfl⟩ := List.mem_map.1 rows
      simp only [VirtualKey.VK_LOCK.methods, VirtualKey.VK_STICKY.methods, List.mem_append,
        List.mem_cons, List.not_mem_nil, or_false] at member
      -- Only the first three rows change lock_count_, and they are about another modifier.
      rcases member with (rfl | rfl | rfl | rfl | rfl | rfl) | (rfl | rfl | rfl)
      · exact quiet (.inr (flag_ne_capsLock other (by simp)))
      · exact quiet (.inr (flag_ne_capsLock other (by simp)))
      · exact quiet (.inr (flag_ne_capsLock other (by simp)))
      all_goals exact quiet (.inl rfl)
  · obtain ⟨row, member, rfl⟩ := List.mem_map.1 all
    obtain ⟨listed, same⟩ := List.mem_filter.1 member
    simp only [VirtualKey.VK_LOCK.operations, VirtualKey.VK_STICKY.operations, List.mem_append,
      List.mem_cons, List.not_mem_nil, or_false] at listed
    have sameKey : row.1 = key := by simpa using same
    rcases listed with (rfl | rfl) | (rfl | rfl | rfl | rfl)
    · exact absurd sameKey.symm off
    · intro it _
      show (if it.negativeLockCount ≠ 0 then it.negativeLockDecrease else it).lockCount = _
      split <;> rfl
    · intro it _
      show (if it.sum true > 0 then it.stickyToggle else it).lockCount = _
      split <;> rfl
    · intro it _
      show (if it.sum true > 0 then it.stickyIncrease else it).lockCount = _
      split <;> rfl
    · intro it _
      show (if it.sum true > 0 then it.stickyDecrease else it).lockCount = _
      split <;> rfl
    · exact fun _ _ => rfl

theorem Sends.keepsCapsLock {operation : Operation} (sends : Sends operation) :
    operation.KeepsCapsLock settings.pairs := by
  cases sends
  exact fun _ _ => rfl

theorem SendsKey.keepsCapsLock {key : KeyCode} (other : settings.isCapsLockKey key = false)
    {operation : Operation} (sends : settings.SendsKey key operation) :
    operation.KeepsCapsLock settings.pairs := by
  rcases sends with sticky | ⟨sent, member, performed⟩
  · exact Sends.keepsCapsLock sticky
  · cases List.mem_cons.1 member with
    | inl same => exact keepsCapsLock_operations (same ▸ other) performed
    | inr replaced => exact keepsCapsLock_operations (isCapsLockKey_replacements replaced) performed

end Settings

/-- The key of an event that is sent. -/
def ToEvent.isCapsLockKey (settings : Settings) (event : ToEvent) : Bool :=
  match event.type_ with
  | .KEY key => settings.isCapsLockKey key
  | _ => false

namespace Sending

/-- How often the lock is toggled between two states. -/
def Toggles (settings : Settings) (n : Nat) (before after : Sending) : Prop :=
  FlagStatus.Toggles settings.pairs n before.flagStatus after.flagStatus

variable {settings : Settings} (sending : Sending)

theorem toggles_changes {allowed : FlagStatus.Operation → Prop} {change : Output → Output}
    (changes : settings.Changes allowed sending.output (change sending.output))
    (keeps : ∀ operation, allowed operation → operation.KeepsCapsLock settings.pairs) :
    Toggles settings 0 sending (sending.onOutput change) :=
  FlagStatus.Toggles.of_via changes keeps

theorem toggles_onRepeat (change : KeyboardRepeat → KeyboardRepeat) :
    Toggles settings 0 sending (sending.onRepeat change) :=
  FlagStatus.Toggles.refl _

theorem toggles_onButtonStatus (change : ButtonStatus → ButtonStatus) :
    Toggles settings 0 sending (sending.onButtonStatus change) :=
  FlagStatus.Toggles.refl _

theorem toggles_increase (selection : FlagStatus.Selection) :
    Toggles settings selection.toggles sending (sending.callFlagStatus .increase selection) :=
  FlagStatus.toggles_increase _ selection

theorem toggles_call (method : FlagStatus.Method) (selection : FlagStatus.Selection)
    (keeps : method.keepsLock = true) :
    Toggles settings 0 sending (sending.callFlagStatus method selection) :=
  FlagStatus.toggles_call _ selection keeps

variable {sending}

theorem Toggles.trans {m n : Nat} {first second third : Sending}
    (left : Toggles settings m first second) (right : Toggles settings n second third) :
    Toggles settings (m + n) first third :=
  FlagStatus.Toggles.trans left right

/-- A repetition follows the sending of a key, if it is wanted. -/
theorem Toggles.thenRepeat {n : Nat} {before after : Sending}
    {change : KeyboardRepeat → KeyboardRepeat}
    {wanted : Bool} (toggles : Toggles settings n before after) :
    Toggles settings n before (if wanted then after.onRepeat change else after) := by
  cases wanted
  · exact toggles
  · exact toggles

theorem toggles_foldl {body : Sending → ToEvent → Sending} {events : List ToEvent}
    (each : ∀ event ∈ events, ∀ sending, Toggles settings 0 sending (body sending event))
    (sending : Sending) : Toggles settings 0 sending (events.foldl body sending) := by
  induction events generalizing sending with
  | nil => exact FlagStatus.Toggles.refl _
  | cons event events ih =>
      have first := each event List.mem_cons_self sending
      have rest := ih (fun other member => each other (List.mem_cons_of_mem _ member))
        (body sending event)
      exact first.trans rest

end Sending

namespace ToEvent

open Settings Sending

variable {settings : Settings} {event : ToEvent} (autogenId : AutogenId)
  (physicalEventType : PhysicalEventType)

theorem fireKey_toggles {params : KeyboardEventCallBack}
    (other : settings.isCapsLockKey params.key = false) (sending : Sending) :
    Toggles settings 0 sending (sending.onOutput
      (EventOutputQueue.fireKey settings ⟨params, autogenId, physicalEventType⟩)) :=
  toggles_changes sending (EventOutputQueue.fireKey_changes settings _ _)
    fun _ sends => SendsKey.keepsCapsLock other sends

theorem fireConsumer_toggles (params : KeyboardSpecialEventCallback) (sending : Sending) :
    Toggles settings 0 sending (sending.onOutput
      (EventOutputQueue.fireConsumer settings autogenId physicalEventType params)) :=
  toggles_changes sending (EventOutputQueue.fireConsumer_changes _ _ params _)
    fun _ sends => Sends.keepsCapsLock sends

theorem fireButton_changes (isDown : Bool) (button : PointingButton) (output : Output) :
    settings.Changes Sends output
      (fireButton settings autogenId physicalEventType isDown button output) := by
  let counted := output.onButtonStatus
    ((if isDown then ButtonStatus.increase else ButtonStatus.decrease) (.ofButton button))
  have first : settings.Changes Sends output counted := EventOutputQueue.changes_of_eq rfl
  have second : settings.Changes Sends counted (EventOutputQueue.fireRelativePointer settings
      autogenId physicalEventType counted.makeButtons 0 0 counted) :=
    EventOutputQueue.fireRelativePointer_changes _ _ _ _ _ _
  exact first.trans second

theorem fireButton_toggles (isDown : Bool) (button : PointingButton) (sending : Sending) :
    Toggles settings 0 sending
      (sending.onOutput (fireButton settings autogenId physicalEventType isDown button)) :=
  toggles_changes sending (fireButton_changes autogenId physicalEventType isDown button _)
    fun _ sends => Sends.keepsCapsLock sends

theorem fire_toggles (unasked : event.isCapsLockKey settings = false) (eventType : EventType)
    (flags : Flags) (add_to_keyrepeat : Bool) (delayUntilRepeat keyRepeat : Int)
    (sending : Sending) :
    Toggles settings 0 sending (event.fire settings autogenId physicalEventType eventType flags
      add_to_keyrepeat delayUntilRepeat keyRepeat sending) := by
  unfold isCapsLockKey at unasked
  unfold fire
  split
  · exact FlagStatus.Toggles.refl _
  · next key type =>
    rw [type] at unasked
    exact (fireKey_toggles autogenId physicalEventType unasked sending).thenRepeat
  · exact (fireConsumer_toggles autogenId physicalEventType _ sending).thenRepeat
  · exact fireButton_toggles autogenId physicalEventType _ _ sending

theorem fire_downup_toggles (unasked : event.isCapsLockKey settings = false)
    (add_to_keyrepeat : Bool) (sending : Sending) :
    Toggles settings 0 sending
      (event.fire_downup settings autogenId physicalEventType add_to_keyrepeat sending) := by
  unfold isCapsLockKey at unasked
  unfold fire_downup
  split
  · exact FlagStatus.Toggles.refl _
  · next key type =>
    rw [type] at unasked
    have call (eventType : EventType) (flags : Flags) (sending : Sending) :
        Toggles settings 0 sending (callFireKey settings autogenId physicalEventType
          add_to_keyrepeat eventType flags key sending) :=
      (fireKey_toggles autogenId physicalEventType unasked sending).thenRepeat
    dsimp only
    split
    · have other : settings.pairs.getModifierFlag key .KEYCODE ≠ ModifierFlag.CAPSLOCK :=
        flag_ne_capsLock unasked (by simp)
      have increased : (FlagStatus.Selection.flag
          (settings.pairs.getModifierFlag key .KEYCODE)).toggles = 0 := by
        simp [FlagStatus.Selection.toggles, FlagStatus.Selection.selects, other]
      have down : Toggles settings _ sending _ := toggles_increase sending
        (.flag (settings.pairs.getModifierFlag key .KEYCODE))
      rw [increased] at down
      exact ((down.trans (call _ _ _)).trans (toggles_call _ .decrease _ rfl)).trans (call _ _ _)
    · exact (call _ _ sending).trans (call _ _ _)
  · have call (eventType : EventType) (flags : Flags) (key : ConsumerKeyCode) (sending : Sending) :
        Toggles settings 0 sending (callFireConsumer settings autogenId physicalEventType
          add_to_keyrepeat eventType flags key sending) :=
      (fireConsumer_toggles autogenId physicalEventType _ sending).thenRepeat
    exact (call _ _ _ sending).trans (call _ _ _ _)
  · have call (isDown : Bool) (button : PointingButton) (sending : Sending) :
        Toggles settings 0 sending (callFireButton settings autogenId physicalEventType
          add_to_keyrepeat isDown button sending) :=
      (fireButton_toggles autogenId physicalEventType _ _ sending).thenRepeat
    exact (call _ _ sending).trans (call _ _ _)

end ToEvent

end Karabiner
