import Karabiner.FlagStatus
import Mathlib.Logic.Function.Iterate
import Mathlib.Data.List.Nodup
import Mathlib.Data.List.Zip
import Mathlib.Tactic.Common

set_option autoImplicit false

/- FlagStatus::ScopedSetter replays difference vectors with increase and decrease.
They are inverse to each other on every item except CapsLock. -/
namespace Karabiner.FlagStatus

/-- The flags whose sum is the larger one, each as often as it exceeds the other. -/
def subtract (status other : FlagStatus) : List ModifierFlag :=
  if status.item.length = other.item.length then
    (status.item.zip other.item).flatMap fun (it, otherIt) =>
      let sum1 := it.sum true
      let sum2 := otherIt.sum true
      if sum1 > sum2 then List.replicate (sum1 - sum2).toNat it.flag else []
  else []

structure ScopedSetter where
  added : List ModifierFlag
  removed : List ModifierFlag
  deriving Repr

namespace ScopedSetter

/-- The constructor, with the status it leaves behind. -/
def construct (status newval : FlagStatus) : ScopedSetter × FlagStatus :=
  let added := status.subtract newval
  let removed := newval.subtract status
  let status := added.foldl (fun status flag => status.decrease (.flag flag)) status
  let status := removed.foldl (fun status flag => status.increase (.flag flag)) status
  (⟨added, removed⟩, status)

def destruct (setter : ScopedSetter) (status : FlagStatus) : FlagStatus :=
  let status := setter.added.foldl (fun status flag => status.increase (.flag flag)) status
  setter.removed.foldl (fun status flag => status.decrease (.flag flag)) status

end ScopedSetter

def sums (status : FlagStatus) : List Int := status.item.map (·.sum true)

/-- What ScopedSetter is for: inside the scope the sums are those of the new value, and
leaving it gives what the operations inside give without the setter. -/
def ScopedSetter.Restores (pairs : Pairs) (status newval : FlagStatus) : Prop :=
  (construct status newval).2.sums = newval.sums ∧
    ∀ operations, (construct status newval).1.destruct
        (Transition.run (perform pairs) (construct status newval).2 operations) =
      Transition.run (perform pairs) status operations

/-- The status inside the scope, and the one that the same operations give without the setter. -/
structure Compared where
  inside : FlagStatus
  outside : FlagStatus

def Compared.perform (pairs : Pairs) (compared : Compared) (operation : Operation) : Compared where
  inside := compared.inside.perform pairs operation
  outside := compared.outside.perform pairs operation

/-- The same for one list of operations, at whichever of them the scope ends. -/
def ScopedSetter.RestoresDuring (pairs : Pairs) (status newval : FlagStatus)
    (operations : List Operation) : Prop :=
  (construct status newval).2.sums = newval.sums ∧
    Transition.Always (Compared.perform pairs)
      (fun compared => (construct status newval).1.destruct compared.inside = compared.outside)
      ⟨(construct status newval).2, status⟩ operations

/-- CapsLock has the same sum in both values. -/
def CapsLockAgrees (status newval : FlagStatus) : Prop :=
  ∀ pair ∈ status.item.zip newval.item,
    pair.1.flag = ModifierFlag.CAPSLOCK → pair.1.sum true = pair.2.sum true

instance (status newval : FlagStatus) : Decidable (CapsLockAgrees status newval) :=
  inferInstanceAs (Decidable (∀ pair ∈ status.item.zip newval.item,
    pair.1.flag = ModifierFlag.CAPSLOCK → pair.1.sum true = pair.2.sum true))

/-- Zero stands for a modifier that is not registered. -/
def sumOf (status : FlagStatus) (flag : ModifierFlag) : Int :=
  ((status.item.find? (·.flag = flag)).map (·.sum true)).getD 0

/-- How far the setter has to move the sum of a modifier. -/
def difference (status newval : FlagStatus) (flag : ModifierFlag) : Int :=
  newval.sumOf flag - status.sumOf flag

/-- The operation does the same to an item if its sum is moved: it does not read what is moved, or
it decides alike, or what it would change is as wanted already. -/
def Operation.Unmoved (difference : Int) (it : Item) : Operation → Prop
  | .reset => difference = 0
  | .stickyActiveModifiersToggle => 0 < it.sum true + difference ↔ 0 < it.sum true
  | .stickyActiveModifiersIncrease =>
      it.stickyCount = 1 ∨ (0 < it.sum true + difference ↔ 0 < it.sum true)
  | .stickyActiveModifiersDecrease =>
      it.stickyCount = 0 ∨ (0 < it.sum true + difference ↔ 0 < it.sum true)
  | .lazyDisableIfOff =>
      it.lazyEnabled = false ∨ (0 < it.sum true + difference ↔ 0 < it.sum true)
  | _ => True

def UnmovedOn (difference : ModifierFlag → Int) (status : FlagStatus)
    (operation : Operation) : Prop :=
  ∀ it ∈ status.item, operation.Unmoved (difference it.flag) it

instance (difference : Int) (it : Item) :
    (operation : Operation) → Decidable (operation.Unmoved difference it)
  | .reset => inferInstanceAs (Decidable (difference = 0))
  | .stickyActiveModifiersToggle =>
      inferInstanceAs (Decidable (0 < it.sum true + difference ↔ 0 < it.sum true))
  | .stickyActiveModifiersIncrease =>
      inferInstanceAs (Decidable
        (it.stickyCount = 1 ∨ (0 < it.sum true + difference ↔ 0 < it.sum true)))
  | .stickyActiveModifiersDecrease =>
      inferInstanceAs (Decidable
        (it.stickyCount = 0 ∨ (0 < it.sum true + difference ↔ 0 < it.sum true)))
  | .lazyDisableIfOff =>
      inferInstanceAs (Decidable
        (it.lazyEnabled = false ∨ (0 < it.sum true + difference ↔ 0 < it.sum true)))
  | .call _ _ | .set | .setKey _ _ | .stickyClear | .lockClear | .negativeLockClear
  | .lazyEnable => isTrue trivial

instance (difference : ModifierFlag → Int) (status : FlagStatus) (operation : Operation) :
    Decidable (UnmovedOn difference status operation) :=
  inferInstanceAs (Decidable (∀ it ∈ status.item, operation.Unmoved (difference it.flag) it))

def Item.shift (n : Int) (it : Item) : Item := { it with count := it.count + n }

namespace Item

@[simp] theorem shift_flag (n : Int) (it : Item) : (it.shift n).flag = it.flag := rfl

@[simp] theorem shift_zero (it : Item) : it.shift 0 = it := by
  simp [shift]

@[simp] theorem shift_shift (m n : Int) (it : Item) : (it.shift m).shift n = it.shift (m + n) := by
  simp [shift, Int.add_assoc]

theorem sum_shift (n : Int) (it : Item) (lazy : Bool) :
    (it.shift n).sum lazy = it.sum lazy + n := by
  cases enabled : lazy || it.lazyEnabled <;> simp [sum, shift, enabled] <;> omega

theorem iterate_increase {it : Item} (ordinary : it.flag ≠ ModifierFlag.CAPSLOCK) (n : Nat) :
    increase^[n] it = it.shift n := by
  induction n generalizing it with
  | zero => simp
  | succ n ih =>
      have step : it.increase = it.shift 1 := by simp [increase, shift, ordinary]
      rw [Function.iterate_succ_apply, step, ih (by exact ordinary), shift_shift]
      congr 1
      omega

theorem iterate_decrease {it : Item} (ordinary : it.flag ≠ ModifierFlag.CAPSLOCK) (n : Nat) :
    decrease^[n] it = it.shift (-n) := by
  induction n generalizing it with
  | zero => simp
  | succ n ih =>
      have step : it.decrease = it.shift (-1) := by
        simp [decrease, shift, ordinary, Int.sub_eq_add_neg]
      rw [Function.iterate_succ_apply, step, ih (by exact ordinary), shift_shift]
      congr 1
      omega

theorem iterate_decrease_capsLock {it : Item} (capsLock : it.flag = ModifierFlag.CAPSLOCK)
    (n : Nat) : decrease^[n] it = it := by
  have fixed : it.decrease = it := by simp [decrease, capsLock]
  exact Function.iterate_fixed fixed n

theorem iterate_flag (method : Method) (n : Nat) (it : Item) :
    (method.call^[n] it).flag = it.flag := by
  induction n generalizing it with
  | zero => rfl
  | succ n ih => rw [Function.iterate_succ_apply, ih, Method.call_flag]

theorem call_shift (method : Method) {it : Item} (ordinary : it.flag ≠ ModifierFlag.CAPSLOCK)
    (n : Int) : method.call (it.shift n) = (method.call it).shift n := by
  cases method <;>
    simp [Method.call, shift, increase, decrease, ordinary, temporaryIncrease, temporaryDecrease,
      lazyIncrease, lazyDecrease, lockIncrease, lockDecrease, lockToggle, negativeLockIncrease,
      negativeLockDecrease, negativeLockToggle, stickyIncrease, stickyDecrease, stickyToggle] <;>
    omega

theorem setKey_shift (pairs : Pairs) (key : KeyCode) (flags : Flags) {it : Item}
    (ordinary : it.flag ≠ ModifierFlag.CAPSLOCK) (n : Int) :
    (it.shift n).setKey pairs key flags = (it.setKey pairs key flags).shift n := by
  by_cases other : key ≠ pairs.getKeyCode it.flag .KEYCODE
  · simp [setKey, shift, other]
  · by_cases on : flags.isOn it.flag
    · simp [setKey, shift, other, ordinary, on, increase]
      omega
    · simp [setKey, shift, other, ordinary, on, decrease]
      omega

theorem shift_inj {n : Int} {first second : Item} (same : first.shift n = second.shift n) :
    first = second := by
  have back := congrArg (shift (-n)) same
  simpa only [shift_shift, Int.add_right_neg, shift_zero] using back

/-- A method that is called where the sum is positive. -/
theorem ifActive_shift {method : Item → Item}
    (commutes : ∀ n it, method (shift n it) = (method it).shift n) (n : Int) (it : Item) :
    (if (it.shift n).sum true > 0 then method (it.shift n) else it.shift n) =
        (if it.sum true > 0 then method it else it).shift n ↔
      method it = it ∨ (0 < it.sum true + n ↔ 0 < it.sum true) := by
  rw [sum_shift]
  by_cases active : it.sum true > 0
  · by_cases moved : it.sum true + n > 0
    · rw [if_pos active, if_pos moved, commutes]
      exact iff_of_true rfl (.inr (iff_of_true moved active))
    · rw [if_pos active, if_neg moved]
      constructor
      · exact fun same => .inl (shift_inj same).symm
      · rintro (same | alike)
        · rw [same]
        · exact absurd (alike.2 active) moved
  · by_cases moved : it.sum true + n > 0
    · rw [if_neg active, if_pos moved, commutes]
      constructor
      · exact fun same => .inl (shift_inj same)
      · rintro (same | alike)
        · rw [same]
        · exact absurd (alike.1 moved) active
    · rw [if_neg active, if_neg moved]
      exact iff_of_true rfl (.inr (iff_of_false moved active))

theorem stickyToggle_ne (it : Item) : it.stickyToggle ≠ it := by
  intro same
  have sticky : toggle it.stickyCount = it.stickyCount := congrArg stickyCount same
  unfold toggle at sticky
  split at sticky
  · omega
  · omega

theorem stickyIncrease_eq_iff (it : Item) : it.stickyIncrease = it ↔ it.stickyCount = 1 := by
  constructor
  · exact fun same => (congrArg stickyCount same).symm
  · intro sticky
    unfold stickyIncrease
    rw [← sticky]

theorem stickyDecrease_eq_iff (it : Item) : it.stickyDecrease = it ↔ it.stickyCount = 0 := by
  constructor
  · exact fun same => (congrArg stickyCount same).symm
  · intro sticky
    unfold stickyDecrease
    rw [← sticky]

theorem reset_shift_iff (n : Int) (it : Item) :
    (it.shift n).reset = it.reset.shift n ↔ n = 0 := by
  constructor
  · intro same
    have counts : (0 : Int) = 0 + n := congrArg count same
    omega
  · rintro rfl
    rw [shift_zero, shift_zero]

theorem lazyDisableIfOff_shift_iff (n : Int) (it : Item) :
    (it.shift n).lazyDisableIfOff = it.lazyDisableIfOff.shift n ↔
      it.lazyEnabled = false ∨ (0 < it.sum true + n ↔ 0 < it.sum true) := by
  unfold lazyDisableIfOff
  rw [sum_shift]
  by_cases off : it.sum true ≤ 0
  · by_cases moved : it.sum true + n ≤ 0
    · rw [if_pos off, if_pos moved]
      exact iff_of_true rfl (.inr (iff_of_false (by omega) (by omega)))
    · rw [if_pos off, if_neg moved]
      constructor
      · exact fun same => .inl (congrArg lazyEnabled same)
      · rintro (disabled | alike)
        · unfold shift
          rw [disabled]
        · omega
  · by_cases moved : it.sum true + n ≤ 0
    · rw [if_neg off, if_pos moved]
      constructor
      · exact fun same => .inl (congrArg lazyEnabled same).symm
      · rintro (disabled | alike)
        · unfold shift
          rw [disabled]
        · omega
    · rw [if_neg off, if_neg moved]
      exact iff_of_true rfl (.inr (iff_of_true (by omega) (by omega)))

/-- A shift of the count passes through the operations that it does not affect. -/
theorem onItem_shift_iff (pairs : Pairs) (operation : Operation) {it : Item} {n : Int}
    (ordinary : it.flag ≠ ModifierFlag.CAPSLOCK) :
    operation.onItem pairs (it.shift n) = (operation.onItem pairs it).shift n ↔
      operation.Unmoved n it := by
  cases operation with
  | call method selection =>
      refine iff_of_true ?_ trivial
      by_cases selected : selection.selects it.flag
      · simpa [Operation.onItem, selected] using call_shift method ordinary n
      · simp [Operation.onItem, selected]
  | setKey key flags => exact iff_of_true (setKey_shift pairs key flags ordinary n) trivial
  | reset => exact reset_shift_iff n it
  | stickyActiveModifiersToggle =>
      refine (ifActive_shift (fun _ _ => rfl) n it).trans ?_
      exact or_iff_right (stickyToggle_ne it)
  | stickyActiveModifiersIncrease =>
      refine (ifActive_shift (fun _ _ => rfl) n it).trans ?_
      exact or_congr_left (stickyIncrease_eq_iff it)
  | stickyActiveModifiersDecrease =>
      refine (ifActive_shift (fun _ _ => rfl) n it).trans ?_
      exact or_congr_left (stickyDecrease_eq_iff it)
  | lockClear =>
      refine iff_of_true ?_ trivial
      by_cases locked : it.lockCount = 0 <;>
        simp [Operation.onItem, shift, lockDecrease, locked]
  | negativeLockClear =>
      refine iff_of_true ?_ trivial
      by_cases locked : it.negativeLockCount = 0 <;>
        simp [Operation.onItem, shift, negativeLockDecrease, locked]
  | lazyDisableIfOff => exact lazyDisableIfOff_shift_iff n it
  | set | stickyClear | lazyEnable => exact iff_of_true rfl trivial

end Item

/-- Where nothing is moved, nothing is affected. -/
theorem Operation.unmoved_zero (it : Item) (operation : Operation) : operation.Unmoved 0 it := by
  have alike : 0 < it.sum true + 0 ↔ 0 < it.sum true := by rw [Int.add_zero]
  cases operation with
  | reset => rfl
  | stickyActiveModifiersToggle => exact alike
  | stickyActiveModifiersIncrease | stickyActiveModifiersDecrease | lazyDisableIfOff =>
      exact .inr alike
  | call | set | setKey | stickyClear | lockClear | negativeLockClear | lazyEnable => trivial

def shift (amount : ModifierFlag → Int) (status : FlagStatus) : FlagStatus :=
  status.onItems fun it => it.shift (amount it.flag)

theorem shift_neg_shift (amount : ModifierFlag → Int) (status : FlagStatus) :
    (status.shift amount).shift (fun flag => -amount flag) = status := by
  simp only [shift, onItems_onItems, Item.shift_flag, Item.shift_shift, Int.add_right_neg,
    Item.shift_zero, onItems_id]

theorem shift_shift_neg (amount : ModifierFlag → Int) (status : FlagStatus) :
    (status.shift fun flag => -amount flag).shift amount = status := by
  simp only [shift, onItems_onItems, Item.shift_flag, Item.shift_shift, Int.add_left_neg,
    Item.shift_zero, onItems_id]

theorem perform_shift_iff (pairs : Pairs) (operation : Operation) {amount : ModifierFlag → Int}
    (capsLock : amount ModifierFlag.CAPSLOCK = 0) {status : FlagStatus} :
    (status.shift amount).perform pairs operation =
        (status.perform pairs operation).shift amount ↔
      UnmovedOn amount status operation := by
  simp only [perform_eq_onItems, shift, onItems_onItems, Operation.onItem_flag]
  rw [onItems, onItems, FlagStatus.mk.injEq, List.map_inj_left]
  refine forall₂_congr fun it member => ?_
  by_cases ordinary : it.flag = ModifierFlag.CAPSLOCK
  · rw [ordinary, capsLock, Item.shift_zero, Item.shift_zero]
    exact iff_of_true rfl (operation.unmoved_zero it)
  · exact Item.onItem_shift_iff pairs operation ordinary

theorem foldl_call (method : Method) (modifierFlags : List ModifierFlag) (status : FlagStatus) :
    modifierFlags.foldl (fun status flag => status.call method (.flag flag)) status =
      status.onItems fun it => method.call^[modifierFlags.count it.flag] it := by
  induction modifierFlags generalizing status with
  | nil => exact (onItems_id status).symm
  | cons flag rest ih =>
      rw [List.foldl_cons, ih, call, onItems_onItems]
      refine onItems_congr fun it _ => ?_
      by_cases selected : flag = it.flag
      · simp [Selection.selects, selected, Function.iterate_succ_apply]
      · simp [Selection.selects, selected]

theorem construct_eq (status newval : FlagStatus) :
    (ScopedSetter.construct status newval).2 = status.onItems fun it =>
      Item.increase^[(newval.subtract status).count it.flag]
        (Item.decrease^[(status.subtract newval).count it.flag] it) := by
  have flags : ∀ n it, (Item.decrease^[n] it).flag = it.flag := Item.iterate_flag .decrease
  simp only [ScopedSetter.construct, decrease, increase, foldl_call, onItems_onItems,
    Method.call, flags]

theorem destruct_eq (setter : ScopedSetter) (status : FlagStatus) :
    setter.destruct status = status.onItems fun it =>
      Item.decrease^[setter.removed.count it.flag]
        (Item.increase^[setter.added.count it.flag] it) := by
  have flags : ∀ n it, (Item.increase^[n] it).flag = it.flag := Item.iterate_flag .increase
  simp only [ScopedSetter.destruct, decrease, increase, foldl_call, onItems_onItems,
    Method.call, flags]

private theorem count_flatMap_replicate {α β : Type*} [DecidableEq β] (key : α → β)
    (copies : α → Nat) {entries : List α} (distinct : (entries.map key).Nodup) {entry : α}
    (member : entry ∈ entries) :
    (entries.flatMap fun e => List.replicate (copies e) (key e)).count (key entry) =
      copies entry := by
  induction entries with
  | nil => cases member
  | cons first rest ih =>
      obtain ⟨fresh, distinct⟩ := List.nodup_cons.1 distinct
      rw [List.flatMap_cons, List.count_append, List.count_replicate]
      rcases List.mem_cons.1 member with rfl | member
      · have absent : key entry ∉ rest.flatMap fun e => List.replicate (copies e) (key e) := by
          intro present
          obtain ⟨e, inside, copied⟩ := List.mem_flatMap.1 present
          exact fresh (List.eq_of_mem_replicate copied ▸ List.mem_map_of_mem inside)
        simp [List.count_eq_zero_of_not_mem absent]
      · have other : key first ≠ key entry := by
          intro same
          exact fresh (same ▸ List.mem_map_of_mem member)
        simp [other, ih distinct member]

private theorem map_eq_map_iff_zip {α β : Type*} {f g : α → β} {left right : List α}
    (lengths : left.length = right.length) :
    left.map f = right.map g ↔ ∀ pair ∈ left.zip right, f pair.1 = g pair.2 := by
  induction left generalizing right with
  | nil => cases right <;> simp_all
  | cons first rest ih =>
      cases right with
      | nil => simp at lengths
      | cons second others =>
          have lengths : rest.length = others.length := by simpa using lengths
          simp [ih lengths]

private theorem exists_mem_zip {α : Type*} {left right : List α}
    (lengths : left.length = right.length) {a : α} (member : a ∈ left) :
    ∃ b, (a, b) ∈ left.zip right := by
  rw [← List.map_fst_zip (Nat.le_of_eq lengths)] at member
  obtain ⟨pair, paired, rfl⟩ := List.mem_map.1 member
  exact ⟨pair.2, paired⟩

private theorem mem_zip_swap {α : Type*} {left right : List α} {a b : α}
    (member : (a, b) ∈ left.zip right) : (b, a) ∈ right.zip left := by
  rw [← List.zip_swap]
  exact List.mem_map.2 ⟨(a, b), member, rfl⟩

theorem length_eq_of_flags {status other : FlagStatus} (same : status.flags = other.flags) :
    status.item.length = other.item.length := by
  simpa [flags] using congrArg List.length same

theorem flag_eq_of_zip {status other : FlagStatus} (same : status.flags = other.flags)
    {it otherIt : Item} (paired : (it, otherIt) ∈ status.item.zip other.item) :
    it.flag = otherIt.flag :=
  (map_eq_map_iff_zip (length_eq_of_flags same)).1 same _ paired

theorem subtract_eq {status other : FlagStatus} (same : status.flags = other.flags) :
    status.subtract other = (status.item.zip other.item).flatMap fun pair =>
      List.replicate (pair.1.sum true - pair.2.sum true).toNat pair.1.flag := by
  rw [subtract, if_pos (length_eq_of_flags same)]
  congr 1
  funext ⟨it, otherIt⟩
  dsimp only
  split
  · rfl
  · rw [Int.toNat_of_nonpos (by omega), List.replicate_zero]

/-- The difference vector holds the excess of each item in unary. -/
theorem subtract_count {status other : FlagStatus} (same : status.flags = other.flags)
    (distinct : status.flags.Nodup) {it otherIt : Item}
    (paired : (it, otherIt) ∈ status.item.zip other.item) :
    (status.subtract other).count it.flag = (it.sum true - otherIt.sum true).toNat := by
  have keys : (status.item.zip other.item).map (fun pair => pair.1.flag) = status.flags := by
    have items := List.map_fst_zip (Nat.le_of_eq (length_eq_of_flags same))
    rw [flags, ← items, List.map_map, items]
    rfl
  rw [subtract_eq same]
  exact count_flatMap_replicate (fun pair : Item × Item => pair.1.flag) _
    (keys ▸ distinct) paired

theorem capsLock_not_mem_subtract {status other : FlagStatus}
    (same : status.flags = other.flags) (agrees : CapsLockAgrees status other) :
    (status.subtract other).count ModifierFlag.CAPSLOCK = 0 := by
  refine List.count_eq_zero_of_not_mem fun present => ?_
  rw [subtract_eq same] at present
  obtain ⟨pair, paired, copied⟩ := List.mem_flatMap.1 present
  obtain ⟨positive, flag⟩ := List.mem_replicate.1 copied
  have equal := agrees pair paired flag.symm
  omega

theorem CapsLockAgrees.symm {status other : FlagStatus} (same : status.flags = other.flags)
    (agrees : CapsLockAgrees status other) : CapsLockAgrees other status := by
  rintro ⟨it, otherIt⟩ paired capsLock
  have swapped := mem_zip_swap paired
  exact (agrees _ swapped ((flag_eq_of_zip same swapped).trans capsLock)).symm

theorem count_subtract_eq_zero {status other : FlagStatus} (same : status.flags = other.flags)
    {flag : ModifierFlag} (other_flags : flag ∉ status.flags) :
    (status.subtract other).count flag = 0 := by
  refine List.count_eq_zero_of_not_mem fun present => ?_
  rw [subtract_eq same] at present
  obtain ⟨⟨it, otherIt⟩, paired, copied⟩ := List.mem_flatMap.1 present
  obtain ⟨-, rfl⟩ := List.mem_replicate.1 copied
  exact other_flags (List.mem_map_of_mem (List.of_mem_zip paired).1)

theorem sumOf_eq {status : FlagStatus} {it : Item} (distinct : status.flags.Nodup)
    (member : it ∈ status.item) : status.sumOf it.flag = it.sum true := by
  have found : status.item.find? (·.flag = it.flag) = some it := by
    obtain ⟨before, after, parts⟩ := List.append_of_mem member
    rw [List.find?_eq_some_iff_append]
    refine ⟨by simp, before, after, parts, fun other inside => ?_⟩
    rw [flags, parts, List.map_append, List.map_cons] at distinct
    have apart := (List.nodup_append.1 distinct).2.2 other.flag (List.mem_map_of_mem inside)
      it.flag List.mem_cons_self
    simpa using apart
  rw [sumOf, found]
  rfl

theorem sumOf_eq_zero {status : FlagStatus} {flag : ModifierFlag}
    (other : flag ∉ status.flags) : status.sumOf flag = 0 := by
  have none : status.item.find? (·.flag = flag) = none := by
    rw [List.find?_eq_none]
    intro it member
    simpa using fun same : it.flag = flag => other (same ▸ List.mem_map_of_mem member)
  rw [sumOf, none]
  rfl

/-- The amount by which the setter moves the count of a flag. -/
def ScopedSetter.amount (setter : ScopedSetter) (flag : ModifierFlag) : Int :=
  setter.removed.count flag - setter.added.count flag

section

variable {status newval : FlagStatus} (same : status.flags = newval.flags)
include same

theorem construct_eq_shift (agrees : CapsLockAgrees status newval) :
    (ScopedSetter.construct status newval).2 =
      status.shift (ScopedSetter.construct status newval).1.amount := by
  rw [construct_eq]
  refine onItems_congr fun it _ => ?_
  by_cases ordinary : it.flag = ModifierFlag.CAPSLOCK
  · simp [ScopedSetter.amount, ScopedSetter.construct, ordinary,
      capsLock_not_mem_subtract same agrees, capsLock_not_mem_subtract same.symm (agrees.symm same)]
  · rw [Item.iterate_decrease ordinary, Item.iterate_increase (by exact ordinary),
      Item.shift_shift]
    congr 1
    simp only [ScopedSetter.amount, ScopedSetter.construct]
    omega

theorem destruct_eq_shift (agrees : CapsLockAgrees status newval) (after : FlagStatus) :
    (ScopedSetter.construct status newval).1.destruct after =
      after.shift fun flag => -(ScopedSetter.construct status newval).1.amount flag := by
  rw [destruct_eq]
  refine onItems_congr fun it _ => ?_
  by_cases ordinary : it.flag = ModifierFlag.CAPSLOCK
  · simp [ScopedSetter.amount, ScopedSetter.construct, ordinary,
      capsLock_not_mem_subtract same agrees, capsLock_not_mem_subtract same.symm (agrees.symm same)]
  · rw [Item.iterate_increase ordinary, Item.iterate_decrease (by exact ordinary),
      Item.shift_shift]
    congr 1
    simp only [ScopedSetter.amount, ScopedSetter.construct]
    omega

/-- The setter moves each sum to the new one. -/
theorem amount_eq_difference (distinct : status.flags.Nodup) (flag : ModifierFlag) :
    (ScopedSetter.construct status newval).1.amount flag = difference status newval flag := by
  simp only [ScopedSetter.amount, ScopedSetter.construct, difference]
  by_cases registered : flag ∈ status.flags
  · obtain ⟨it, member, rfl⟩ := List.mem_map.1 registered
    obtain ⟨newIt, paired⟩ := exists_mem_zip (length_eq_of_flags same) member
    have flag := flag_eq_of_zip same paired
    have added := subtract_count same distinct paired
    have removed := subtract_count same.symm (same ▸ distinct) (mem_zip_swap paired)
    have newSum := sumOf_eq (same ▸ distinct) (List.of_mem_zip paired).2
    rw [← flag] at removed newSum
    rw [added, removed, newSum, sumOf_eq distinct member]
    omega
  · rw [count_subtract_eq_zero same registered, sumOf_eq_zero registered,
      count_subtract_eq_zero same.symm (same ▸ registered), sumOf_eq_zero (same ▸ registered)]
    rfl

theorem construct_sums (distinct : status.flags.Nodup) (agrees : CapsLockAgrees status newval) :
    (ScopedSetter.construct status newval).2.sums = newval.sums := by
  rw [construct_eq_shift same agrees, sums, shift, onItems, List.map_map, sums,
    map_eq_map_iff_zip (length_eq_of_flags same)]
  rintro ⟨it, newIt⟩ paired
  have newSum := sumOf_eq (same ▸ distinct) (List.of_mem_zip paired).2
  rw [← flag_eq_of_zip same paired] at newSum
  simp only [Function.comp_apply, Item.sum_shift, amount_eq_difference same distinct, difference,
    newSum, sumOf_eq distinct (List.of_mem_zip paired).1]
  omega

/-- If the sum inside the scope is the new one, CapsLock must have been toggled, and the
destructor does not toggle it back. -/
theorem capsLock_agrees_of_restores (distinct : status.flags.Nodup)
    (inside : (ScopedSetter.construct status newval).2.sums = newval.sums)
    (nothing : (ScopedSetter.construct status newval).1.destruct
      (ScopedSetter.construct status newval).2 = status) : CapsLockAgrees status newval := by
  rintro ⟨it, newIt⟩ paired capsLock
  have added := subtract_count same distinct paired
  have removed := subtract_count same.symm (same ▸ distinct) (mem_zip_swap paired)
  rw [← flag_eq_of_zip same paired] at removed
  rw [construct_eq, sums, onItems, List.map_map, sums,
    map_eq_map_iff_zip (length_eq_of_flags same)] at inside
  have inside := inside _ paired
  simp only [Function.comp_apply, Item.iterate_decrease_capsLock capsLock, added,
    removed] at inside
  rw [construct_eq, destruct_eq, onItems_onItems] at nothing
  have back := List.map_inj_left.1
    ((congrArg FlagStatus.item nothing).trans (List.map_id status.item).symm) it
    (List.of_mem_zip paired).1
  have kept : ∀ n, (Item.increase^[n] it).flag = ModifierFlag.CAPSLOCK := fun n =>
    (Item.iterate_flag .increase n it).trans capsLock
  simp only [Item.iterate_decrease_capsLock capsLock, kept, ScopedSetter.construct,
    ← capsLock, added, removed] at back
  by_cases lower : it.sum true ≤ newIt.sum true
  · rw [Int.toNat_of_nonpos (by omega : it.sum true - newIt.sum true ≤ 0),
      Function.iterate_zero_apply, Item.iterate_decrease_capsLock (kept _)] at back
    rwa [back] at inside
  · rw [Int.toNat_of_nonpos (by omega : newIt.sum true - it.sum true ≤ 0)] at inside
    exact inside

end

/-- A condition on the status without the setter. -/
theorem along_outside {pairs : Pairs} {allowed : FlagStatus → Operation → Prop}
    {compared : Compared} {operations : List Operation} :
    Transition.Along (Compared.perform pairs)
        (fun compared operation => allowed compared.outside operation) compared operations ↔
      Transition.Along (perform pairs) allowed compared.outside operations := by
  induction operations generalizing compared with
  | nil => exact Iff.rfl
  | cons operation operations ih => exact and_congr_right fun _ => ih

/-- The setter restores exactly if CapsLock has the same sum in both values and no operation in the
scope is affected by the sums that it moves. -/
theorem scopedSetter_restores_iff {pairs : Pairs} (registered : pairs.flags.Nodup)
    {status newval : FlagStatus} (reachable : Reachable pairs status)
    (reachableNew : Reachable pairs newval) (operations : List Operation) :
    ScopedSetter.RestoresDuring pairs status newval operations ↔
      CapsLockAgrees status newval ∧
        Transition.Along (perform pairs) (UnmovedOn (difference status newval)) status
          operations := by
  have same := reachable.flags_eq.trans reachableNew.flags_eq.symm
  have distinct : status.flags.Nodup := reachable.flags_eq ▸ registered
  have amounts : (ScopedSetter.construct status newval).1.amount = difference status newval :=
    funext (amount_eq_difference same distinct)
  have during (agrees : CapsLockAgrees status newval) :
      Transition.Always (Compared.perform pairs)
          (fun compared => (ScopedSetter.construct status newval).1.destruct compared.inside =
            compared.outside)
          ⟨(ScopedSetter.construct status newval).2, status⟩ operations ↔
        Transition.Along (perform pairs) (UnmovedOn (difference status newval)) status
          operations := by
    have capsLock : difference status newval ModifierFlag.CAPSLOCK = 0 := by
      rw [← amounts]
      simp [ScopedSetter.amount, ScopedSetter.construct, capsLock_not_mem_subtract same agrees,
        capsLock_not_mem_subtract same.symm (agrees.symm same)]
    have inside := construct_eq_shift same agrees
    rw [← @along_outside pairs _ ⟨_, status⟩]
    refine Transition.always_iff_along
      (fun compared => compared.inside = compared.outside.shift (difference status newval))
      ?_ ?_ ?_ operations (amounts ▸ inside)
    · intro compared operation unmoved shifted
      show compared.inside.perform pairs operation = _
      rw [shifted]
      exact (perform_shift_iff pairs operation capsLock).2 unmoved
    · intro compared shifted
      rw [destruct_eq_shift same agrees, shifted, amounts, shift_neg_shift]
    · intro compared operation shifted restored
      apply (perform_shift_iff pairs operation capsLock).1
      rw [destruct_eq_shift same agrees, amounts] at restored
      change (compared.inside.perform pairs operation).shift _ =
        compared.outside.perform pairs operation at restored
      rw [shifted] at restored
      rw [← restored, shift_shift_neg]
  constructor
  · rintro ⟨sums, always⟩
    have agrees := capsLock_agrees_of_restores same distinct sums always.holds
    exact ⟨agrees, (during agrees).1 always⟩
  · rintro ⟨agrees, along⟩
    exact ⟨construct_sums same distinct agrees, (during agrees).2 along⟩

theorem normal_flags_nodup : Pairs.normal.flags.Nodup := by decide

/-- Shift is held now, Command was held when the setter's value was taken. Control becomes sticky
inside. -/
theorem scopedSetter_restores_shift :
    ScopedSetter.RestoresDuring Pairs.normal
      ((initialized Pairs.normal).increase (.flag .SHIFT_L))
      ((initialized Pairs.normal).increase (.flag .COMMAND_L))
      [.call .stickyIncrease (.flag .SHIFT_L), .call .stickyIncrease (.flag .COMMAND_L),
        .call .increase (.flag .CONTROL_L), .stickyActiveModifiersToggle, .lazyDisableIfOff] :=
  (scopedSetter_restores_iff normal_flags_nodup
    ⟨[.call .increase (.flag .SHIFT_L)], rfl⟩
    ⟨[.call .increase (.flag .COMMAND_L)], rfl⟩ _).2 (by decide)

/-- CapsLock is locked now and was not when the setter's value was taken. The setter
cannot turn it off, and its destructor turns it off instead. Shift that is hidden in the scope
does not become sticky there. -/
theorem scopedSetter_loses_capsLock :
    let status := (initialized Pairs.normal).increase (.flag .CAPSLOCK)
    let newval := initialized Pairs.normal
    Reachable Pairs.normal status ∧ Reachable Pairs.normal newval ∧
      (ScopedSetter.construct status newval).2.sums ≠ newval.sums ∧
      (ScopedSetter.construct status newval).1.destruct
          (ScopedSetter.construct status newval).2 ≠ status ∧
      ¬ ScopedSetter.Restores Pairs.normal status newval ∧
      ¬ ScopedSetter.Restores Pairs.normal
        ((initialized Pairs.normal).increase (.flag .SHIFT_L)) newval := by
  refine ⟨⟨[.call .increase (.flag .CAPSLOCK)], rfl⟩,
    ⟨[], rfl⟩, by decide, by decide, ?_, ?_⟩
  · rintro ⟨inside, -⟩
    exact absurd inside (by decide)
  · rintro ⟨-, restored⟩
    exact absurd (restored [.stickyActiveModifiersToggle]) (by decide)

end Karabiner.FlagStatus
