import Karabiner.KeyCode
import Karabiner.Transition

set_option autoImplicit false

/- The modifier counters of the kernel extension. The status messages that these
operations refresh are not part of this model. -/
namespace Karabiner

structure FlagStatus.Item where
  flag : ModifierFlag
  count : Int := 0
  temporaryCount : Int := 0
  lockCount : Int := 0
  negativeLockCount : Int := 0
  stickyCount : Int := 0
  lazyCount : Int := 0
  lazyEnabled : Bool := false
  deriving DecidableEq, Repr

structure FlagStatus where
  item : List FlagStatus.Item
  deriving DecidableEq, Repr

namespace FlagStatus

namespace Item

def sum (it : Item) (forceEnableLazy : Bool) : Int :=
  let sum := it.count + it.temporaryCount + it.lockCount - it.negativeLockCount + it.stickyCount
  if forceEnableLazy || it.lazyEnabled then sum + it.lazyCount else sum

/-- The logical not of C, on the 0/1 counters. -/
def toggle (n : Int) : Int := if n = 0 then 1 else 0

def increase (it : Item) : Item :=
  if it.flag = ModifierFlag.CAPSLOCK then { it with lockCount := toggle it.lockCount }
  else { it with count := it.count + 1 }

/-- CapsLock is toggled by increase, so nothing happens to it here. -/
def decrease (it : Item) : Item :=
  if it.flag = ModifierFlag.CAPSLOCK then it else { it with count := it.count - 1 }

def temporaryIncrease (it : Item) : Item := { it with temporaryCount := it.temporaryCount + 1 }
def temporaryDecrease (it : Item) : Item := { it with temporaryCount := it.temporaryCount - 1 }
def lockIncrease (it : Item) : Item := { it with lockCount := 1 }
def lockDecrease (it : Item) : Item := { it with lockCount := 0 }
def lockToggle (it : Item) : Item := { it with lockCount := toggle it.lockCount }
def negativeLockIncrease (it : Item) : Item := { it with negativeLockCount := 1 }
def negativeLockDecrease (it : Item) : Item := { it with negativeLockCount := 0 }
def negativeLockToggle (it : Item) : Item :=
  { it with negativeLockCount := toggle it.negativeLockCount }
def stickyIncrease (it : Item) : Item := { it with stickyCount := 1 }
def stickyDecrease (it : Item) : Item := { it with stickyCount := 0 }
def stickyToggle (it : Item) : Item := { it with stickyCount := toggle it.stickyCount }
def lazyIncrease (it : Item) : Item := { it with lazyCount := it.lazyCount + 1 }
def lazyDecrease (it : Item) : Item := { it with lazyCount := it.lazyCount - 1 }
def lazyEnable (it : Item) : Item := { it with lazyEnabled := true }

def lazyDisableIfOff (it : Item) : Item :=
  if it.sum true ≤ 0 then { it with lazyEnabled := false } else it

def set (it : Item) : Item := { it with temporaryCount := 0 }

def setKey (pairs : Pairs) (key : KeyCode) (flags : Flags) (it : Item) : Item :=
  let it := { it with temporaryCount := 0 }
  if key ≠ pairs.getKeyCode it.flag .KEYCODE then it
  else if it.flag = ModifierFlag.CAPSLOCK then
    { it with lockCount := if flags.isOn it.flag then 1 else 0 }
  else if flags.isOn it.flag then it.increase
  else it.decrease

/-- The lock, negative lock and sticky counters outlive a reset. -/
def reset (it : Item) : Item :=
  { it with count := 0, temporaryCount := 0, lazyCount := 0, lazyEnabled := false }

end Item

/-- The item methods that DEFINE_METHODS lifts to the whole status. -/
inductive Method where
  | increase | decrease
  | temporaryIncrease | temporaryDecrease
  | lazyIncrease | lazyDecrease
  | lockIncrease | lockDecrease | lockToggle
  | negativeLockIncrease | negativeLockDecrease | negativeLockToggle
  | stickyIncrease | stickyDecrease | stickyToggle
  deriving DecidableEq, Repr

def Method.call : Method → Item → Item
  | .increase => Item.increase
  | .decrease => Item.decrease
  | .temporaryIncrease => Item.temporaryIncrease
  | .temporaryDecrease => Item.temporaryDecrease
  | .lazyIncrease => Item.lazyIncrease
  | .lazyDecrease => Item.lazyDecrease
  | .lockIncrease => Item.lockIncrease
  | .lockDecrease => Item.lockDecrease
  | .lockToggle => Item.lockToggle
  | .negativeLockIncrease => Item.negativeLockIncrease
  | .negativeLockDecrease => Item.negativeLockDecrease
  | .negativeLockToggle => Item.negativeLockToggle
  | .stickyIncrease => Item.stickyIncrease
  | .stickyDecrease => Item.stickyDecrease
  | .stickyToggle => Item.stickyToggle

/-- The three overloads of a lifted method. -/
inductive Selection where
  | flag (modifierFlag : ModifierFlag)
  | flagAnd (modifierFlag : ModifierFlag) (modifierFlags : List ModifierFlag)
  | list (modifierFlags : List ModifierFlag)
  deriving Repr

def Selection.selects : Selection → ModifierFlag → Bool
  | .flag modifierFlag, f => modifierFlag = f
  | .flagAnd modifierFlag modifierFlags, f => modifierFlag = f || f ∈ modifierFlags
  | .list modifierFlags, f => f ∈ modifierFlags

/-- Every operation on the status is a loop over its items. -/
def onItems (f : Item → Item) (status : FlagStatus) : FlagStatus := ⟨status.item.map f⟩

def initialized (pairs : Pairs) : FlagStatus :=
  ⟨pairs.map fun pair => { flag := pair.modifierFlag }⟩

def call (method : Method) (selection : Selection) (status : FlagStatus) : FlagStatus :=
  status.onItems fun it => if selection.selects it.flag then method.call it else it

def increase (selection : Selection) (status : FlagStatus) : FlagStatus :=
  status.call .increase selection

def decrease (selection : Selection) (status : FlagStatus) : FlagStatus :=
  status.call .decrease selection

def set (status : FlagStatus) : FlagStatus := status.onItems Item.set

def setKey (pairs : Pairs) (key : KeyCode) (flags : Flags) (status : FlagStatus) : FlagStatus :=
  status.onItems (Item.setKey pairs key flags)

def reset (status : FlagStatus) : FlagStatus := status.onItems Item.reset

/-- STICKY_ACTIVE_MODIFIERS_METHOD. -/
def stickyActiveModifiers (method : Item → Item) (status : FlagStatus) : FlagStatus :=
  status.onItems fun it => if it.sum true > 0 then method it else it

def stickyActiveModifiersToggle (status : FlagStatus) : FlagStatus :=
  status.stickyActiveModifiers Item.stickyToggle

def stickyActiveModifiersIncrease (status : FlagStatus) : FlagStatus :=
  status.stickyActiveModifiers Item.stickyIncrease

def stickyActiveModifiersDecrease (status : FlagStatus) : FlagStatus :=
  status.stickyActiveModifiers Item.stickyDecrease

def stickyClear (status : FlagStatus) : FlagStatus := status.onItems Item.stickyDecrease

def lockClear (status : FlagStatus) : FlagStatus :=
  status.onItems fun it => if it.lockCount ≠ 0 then it.lockDecrease else it

def negativeLockClear (status : FlagStatus) : FlagStatus :=
  status.onItems fun it => if it.negativeLockCount ≠ 0 then it.negativeLockDecrease else it

def lazyEnable (status : FlagStatus) : FlagStatus := status.onItems Item.lazyEnable

def lazyDisableIfOff (status : FlagStatus) : FlagStatus := status.onItems Item.lazyDisableIfOff

/-- The mutators of the class, other than the one that builds the items. -/
inductive Operation where
  | call (method : Method) (selection : Selection)
  | set
  | setKey (key : KeyCode) (flags : Flags)
  | reset
  | stickyActiveModifiersToggle
  | stickyActiveModifiersIncrease
  | stickyActiveModifiersDecrease
  | stickyClear
  | lockClear
  | negativeLockClear
  | lazyEnable
  | lazyDisableIfOff
  deriving Repr

def perform (pairs : Pairs) (status : FlagStatus) : Operation → FlagStatus
  | .call method selection => status.call method selection
  | .set => status.set
  | .setKey key flags => status.setKey pairs key flags
  | .reset => status.reset
  | .stickyActiveModifiersToggle => status.stickyActiveModifiersToggle
  | .stickyActiveModifiersIncrease => status.stickyActiveModifiersIncrease
  | .stickyActiveModifiersDecrease => status.stickyActiveModifiersDecrease
  | .stickyClear => status.stickyClear
  | .lockClear => status.lockClear
  | .negativeLockClear => status.negativeLockClear
  | .lazyEnable => status.lazyEnable
  | .lazyDisableIfOff => status.lazyDisableIfOff

def Reachable (pairs : Pairs) (status : FlagStatus) : Prop :=
  Transition.Reachable (perform pairs) (initialized pairs) status

def flags (status : FlagStatus) : List ModifierFlag := status.item.map (·.flag)

/-- What one operation does to one item. -/
def Operation.onItem (pairs : Pairs) : Operation → Item → Item
  | .call method selection, it => if selection.selects it.flag then method.call it else it
  | .set, it => it.set
  | .setKey key flags, it => it.setKey pairs key flags
  | .reset, it => it.reset
  | .stickyActiveModifiersToggle, it => if it.sum true > 0 then it.stickyToggle else it
  | .stickyActiveModifiersIncrease, it => if it.sum true > 0 then it.stickyIncrease else it
  | .stickyActiveModifiersDecrease, it => if it.sum true > 0 then it.stickyDecrease else it
  | .stickyClear, it => it.stickyDecrease
  | .lockClear, it => if it.lockCount ≠ 0 then it.lockDecrease else it
  | .negativeLockClear, it => if it.negativeLockCount ≠ 0 then it.negativeLockDecrease else it
  | .lazyEnable, it => it.lazyEnable
  | .lazyDisableIfOff, it => it.lazyDisableIfOff

theorem perform_eq_onItems (pairs : Pairs) (status : FlagStatus) (operation : Operation) :
    status.perform pairs operation = status.onItems (operation.onItem pairs) := by
  cases operation <;> rfl

theorem onItems_onItems (f g : Item → Item) (status : FlagStatus) :
    (status.onItems f).onItems g = status.onItems fun it => g (f it) := by
  simp [onItems]

theorem onItems_congr {f g : Item → Item} {status : FlagStatus}
    (same : ∀ it ∈ status.item, f it = g it) : status.onItems f = status.onItems g := by
  simp only [onItems, List.map_congr_left same]

theorem onItems_id (status : FlagStatus) : status.onItems (fun it => it) = status := by
  simp [onItems]

@[simp] theorem Item.increase_flag (it : Item) : it.increase.flag = it.flag := by
  unfold Item.increase; split <;> rfl

@[simp] theorem Item.decrease_flag (it : Item) : it.decrease.flag = it.flag := by
  unfold Item.decrease; split <;> rfl

@[simp] theorem Method.call_flag (method : Method) (it : Item) :
    (method.call it).flag = it.flag := by
  cases method <;> simp only [Method.call, Item.increase_flag, Item.decrease_flag] <;> rfl

@[simp] theorem Item.setKey_flag (pairs : Pairs) (key : KeyCode) (flags : Flags) (it : Item) :
    (it.setKey pairs key flags).flag = it.flag := by
  simp only [Item.setKey]
  repeat' split
  all_goals simp

@[simp] theorem Operation.onItem_flag (pairs : Pairs) (operation : Operation) (it : Item) :
    (operation.onItem pairs it).flag = it.flag := by
  cases operation <;> simp only [Operation.onItem]
  case call => split <;> simp
  case setKey => simp
  case lazyDisableIfOff => unfold Item.lazyDisableIfOff; split <;> rfl
  all_goals first | rfl | (split <;> rfl)

theorem onItems_flags {f : Item → Item} (same : ∀ it, (f it).flag = it.flag)
    (status : FlagStatus) : (status.onItems f).flags = status.flags := by
  simp [flags, onItems, same]

@[simp] theorem perform_flags (pairs : Pairs) (status : FlagStatus) (operation : Operation) :
    (status.perform pairs operation).flags = status.flags := by
  rw [perform_eq_onItems]
  exact onItems_flags (operation.onItem_flag pairs) status

theorem initialized_flags (pairs : Pairs) : (initialized pairs).flags = pairs.flags := by
  simp [flags, initialized, Pairs.flags]

/-- The list of items is fixed by the registered modifiers. -/
theorem Reachable.flags_eq {pairs : Pairs} {status : FlagStatus}
    (reachable : Reachable pairs status) : status.flags = pairs.flags := by
  refine Transition.Reachable.invariant (fun s => s.flags = pairs.flags) ?_
    reachable (initialized_flags pairs)
  intro state operation same
  rw [perform_flags, same]

end FlagStatus

end Karabiner
