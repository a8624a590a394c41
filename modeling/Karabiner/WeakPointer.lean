import Karabiner.Transition
import Mathlib.Algebra.Group.Nat.Defs
import Mathlib.Algebra.Ring.Int.Defs
import Mathlib.Data.List.Nodup
import Mathlib.Logic.Function.Basic

set_option autoImplicit false

/- WeakPointerManager and WeakPointer. The list is the sequence of its items. An object has a number
of its own, which no other object gets, while its address is used again after its destruction. -/
namespace Karabiner

structure WeakPointerManager.Item where
  pointer : Nat
  id : Int32
  deriving DecidableEq, Repr

structure WeakPointerManager where
  list_ : List WeakPointerManager.Item := []
  lastid_ : Int32 := 0
  deriving DecidableEq, Repr

namespace WeakPointerManager

/-- Where new fails, the number is used up all the same. -/
def add (pointer : Nat) (allocated : Bool) (manager : WeakPointerManager) : WeakPointerManager :=
  let lastid_ := manager.lastid_ + 1
  { list_ := if allocated then manager.list_ ++ [⟨pointer, lastid_⟩]
    else manager.list_, lastid_ }

def remove (pointer : Nat) (manager : WeakPointerManager) : WeakPointerManager :=
  { manager with list_ := manager.list_.eraseP (·.pointer = pointer) }

def expired (pointer : Nat) (id : Int32) (manager : WeakPointerManager) : Bool :=
  !manager.list_.any fun p => p.pointer = pointer && p.id = id

def getid (pointer : Nat) (manager : WeakPointerManager) : Int32 :=
  match manager.list_.find? (·.pointer = pointer) with
  | some p => p.id
  | none => -1

end WeakPointerManager

/-- The pointer, and the number of the object that it was created for. -/
structure WeakPointer where
  pointer_ : Nat
  id_ : Int32
  object : Nat
  deriving DecidableEq, Repr

def WeakPointer.expired (weakPointer : WeakPointer) (manager : WeakPointerManager) : Bool :=
  manager.expired weakPointer.pointer_ weakPointer.id_

namespace WeakPointerManager

/-- An object that is alive, and whether its constructor could register it. -/
structure Object where
  number : Nat
  registered : Bool
  deriving DecidableEq, Repr

structure World where
  manager : WeakPointerManager := {}
  objects : Nat → Option Object := fun _ => none
  constructed : Nat := 0
  weakPointers : List WeakPointer := []

inductive Step where
  | construct (pointer : Nat) (allocated : Bool)
  | destruct (pointer : Nat)
  | createWeakPointer (pointer : Nat)
  deriving DecidableEq, Repr

def step (world : World) : Step → World
  | .construct pointer allocated =>
      { world with
        manager := world.manager.add pointer allocated
        objects := Function.update world.objects pointer (some ⟨world.constructed, allocated⟩)
        constructed := world.constructed + 1 }
  | .destruct pointer =>
      { world with
        manager := world.manager.remove pointer
        objects := Function.update world.objects pointer none }
  | .createWeakPointer pointer =>
      match world.objects pointer with
      | some object =>
          { world with weakPointers := world.weakPointers ++
              [⟨pointer, world.manager.getid pointer, object.number⟩] }
      | none => world

/-- An address is used again only after the object there is destroyed, and weak pointers are to live
registered objects. -/
def Allowed (world : World) : Step → Prop
  | .construct pointer _ => world.objects pointer = none
  | .destruct pointer => (world.objects pointer).isSome = true
  | .createWeakPointer pointer => (world.objects pointer).any (·.registered) = true

instance (world : World) : (step : Step) → Decidable (Allowed world step)
  | .construct _ _ => inferInstanceAs (Decidable (_ = _))
  | .destruct _ => inferInstanceAs (Decidable (_ = _))
  | .createWeakPointer _ => inferInstanceAs (Decidable (_ = _))

def Alive (world : World) (number : Nat) : Prop :=
  ∃ pointer object, world.objects pointer = some object ∧ object.number = number

/-- The id is that of the object, which is at the pointer as long as it lives. -/
structure Refers (world : World) (weakPointer : WeakPointer) : Prop where
  earlier : weakPointer.object < world.constructed
  id : weakPointer.id_.toInt = weakPointer.object + 1
  place : ∀ pointer object, world.objects pointer = some object →
    object.number = weakPointer.object →
      pointer = weakPointer.pointer_ ∧ object.registered = true

/-- The registry has the live registered objects, each with its number. -/
structure Registers (world : World) : Prop where
  lastid : world.manager.lastid_.toInt = world.constructed
  items : ∀ item ∈ world.manager.list_, ∃ object, world.objects item.pointer = some object ∧
    object.registered = true ∧ item.id.toInt = object.number + 1
  pointers : (world.manager.list_.map (·.pointer)).Nodup
  registered : ∀ pointer object, world.objects pointer = some object →
    object.registered = true → ∃ item ∈ world.manager.list_, item.pointer = pointer
  numbers : ∀ pointer object, world.objects pointer = some object →
    object.number < world.constructed
  distinct : ∀ left right first second, world.objects left = some first →
    world.objects right = some second → first.number = second.number → left = right
  weakPointers : ∀ weakPointer ∈ world.weakPointers, Refers world weakPointer

theorem registers_start : Registers {} := by
  constructor <;> simp

/-- The loop of remove stops at the first item, and there is no other. -/
theorem eraseP_eq_filter {list : List Item} (pointer : Nat)
    (nodup : (list.map (·.pointer)).Nodup) :
    list.eraseP (·.pointer = pointer) = list.filter (·.pointer ≠ pointer) := by
  induction list with
  | nil => rfl
  | cons item rest ih =>
      obtain ⟨apart, others⟩ := List.nodup_cons.mp nodup
      by_cases own : item.pointer = pointer
      · subst own
        have kept : ∀ other ∈ rest, other.pointer ≠ item.pointer := by
          intro other member same
          exact apart (List.mem_map.mpr ⟨other, member, same⟩)
        rw [List.eraseP_cons_of_pos (by simp), List.filter_cons_of_neg (by simp)]
        exact (List.filter_eq_self.mpr fun other member => by simpa using kept other member).symm
      · rw [List.eraseP_cons_of_neg (by simpa using own),
          List.filter_cons_of_pos (by simpa using own), ih others]

theorem update_eq_some {objects : Nat → Option Object} {pointer other : Nat}
    {new : Option Object} {object : Object}
    (found : Function.update objects pointer new other = some object) :
    other = pointer ∧ new = some object ∨ other ≠ pointer ∧
    objects other = some object := by
  by_cases own : other = pointer
  · subst own
    exact Or.inl ⟨rfl, (Function.update_self other new objects).symm.trans found⟩
  · exact Or.inr ⟨own, (Function.update_of_ne own new objects).symm.trans found⟩

theorem toInt_succ {id : Int32} {constructed : Nat} (same : id.toInt = constructed)
    (few : constructed + 1 < 2 ^ 31) : (id + 1).toInt = constructed + 1 := by
  have one : (1 : Int32).toInt = 1 := rfl
  rw [Int32.toInt_add, same, one]
  apply Int.bmod_eq_of_le
  · omega
  · omega

section
variable {world : World} (registers : Registers world)
include registers

theorem mem_remove_iff {pointer : Nat} {item : Item} :
    item ∈ (world.manager.remove pointer).list_ ↔
      item ∈ world.manager.list_ ∧ item.pointer ≠ pointer := by
  have same : (world.manager.remove pointer).list_ =
      world.manager.list_.filter (·.pointer ≠ pointer) :=
    eraseP_eq_filter pointer registers.pointers
  rw [same, List.mem_filter]
  simp

/-- The number that a weak pointer to a live registered object gets. -/
theorem getid_toInt {pointer : Nat} {object : Object}
    (alive : world.objects pointer = some object) (known : object.registered = true) :
    (world.manager.getid pointer).toInt = object.number + 1 := by
  obtain ⟨item, member, same⟩ := registers.registered pointer object alive known
  unfold getid
  cases found : world.manager.list_.find? (·.pointer = pointer) with
  | none => simpa [same] using List.find?_eq_none.mp found item member
  | some first =>
      have firstSame : first.pointer = pointer := by simpa using List.find?_some found
      obtain ⟨other, there, -, number⟩ :=
        registers.items first (List.mem_of_find?_eq_some found)
      rw [firstSame, alive] at there
      rw [number, Option.some.inj there]

theorem registers_construct {pointer : Nat} (allocated : Bool)
    (free : world.objects pointer = none) (few : world.constructed + 1 < 2 ^ 31) :
    Registers (step world (.construct pointer allocated)) := by
  have lastid := toInt_succ registers.lastid few
  have other {item : Item} (member : item ∈ world.manager.list_) : item.pointer ≠ pointer := by
    intro same
    obtain ⟨object, there, -⟩ := registers.items item member
    rw [same, free] at there
    cases there
  have listed {item : Item}
      (member : item ∈ (step world (.construct pointer allocated)).manager.list_) :
      item ∈ world.manager.list_ ∨
        allocated = true ∧ item = ⟨pointer, world.manager.lastid_ + 1⟩ := by
    cases allocated with
    | false => exact Or.inl member
    | true =>
        cases List.mem_append.mp member with
        | inl earlier => exact Or.inl earlier
        | inr new => exact Or.inr ⟨rfl, List.mem_singleton.mp new⟩
  have kept {item : Item} (member : item ∈ world.manager.list_) :
      item ∈ (step world (.construct pointer allocated)).manager.list_ := by
    cases allocated with
    | false => exact member
    | true => exact List.mem_append_left _ member
  constructor
  case lastid => exact_mod_cast lastid
  case items =>
    intro item member
    rcases listed member with earlier | ⟨rfl, rfl⟩
    · obtain ⟨object, there, known, number⟩ := registers.items item earlier
      exact ⟨object, (Function.update_of_ne (other earlier) _ _).trans there, known, number⟩
    · exact ⟨_, Function.update_self pointer _ _, rfl, lastid⟩
  case pointers =>
    cases allocated with
    | false => exact registers.pointers
    | true =>
        have nodup : (world.manager.list_.map (·.pointer) ++ [pointer]).Nodup := by
          rw [List.nodup_append]
          refine ⟨registers.pointers, List.nodup_singleton _,
            fun left leftIn right rightIn => ?_⟩
          obtain ⟨item, member, rfl⟩ := List.mem_map.mp leftIn
          rw [List.mem_singleton.mp rightIn]
          exact other member
        have listed : ((step world (.construct pointer true)).manager.list_.map (·.pointer)) =
            world.manager.list_.map (·.pointer) ++ [pointer] := List.map_append
        rw [listed]
        exact nodup
  case registered =>
    intro address object there known
    rcases update_eq_some there with ⟨own, new⟩ | ⟨-, before⟩
    · rw [← Option.some.inj new] at known
      dsimp only at known
      subst known
      exact ⟨_, List.mem_append_right _ List.mem_cons_self, own.symm⟩
    · obtain ⟨item, member, same⟩ := registers.registered address object before known
      exact ⟨item, kept member, same⟩
  case numbers =>
    intro address object there
    show object.number < world.constructed + 1
    rcases update_eq_some there with ⟨-, new⟩ | ⟨-, before⟩
    · rw [← Option.some.inj new]
      exact Nat.lt_succ_self _
    · exact Nat.lt_succ_of_lt (registers.numbers address object before)
  case distinct =>
    intro left right first second leftThere rightThere same
    rcases update_eq_some leftThere with ⟨leftOwn, leftNew⟩ | ⟨-, leftBefore⟩ <;>
      rcases update_eq_some rightThere with ⟨rightOwn, rightNew⟩ | ⟨-, rightBefore⟩
    · exact leftOwn.trans rightOwn.symm
    · have bound := registers.numbers right second rightBefore
      rw [← same, ← Option.some.inj leftNew] at bound
      exact absurd bound (Nat.lt_irrefl _)
    · have bound := registers.numbers left first leftBefore
      rw [same, ← Option.some.inj rightNew] at bound
      exact absurd bound (Nat.lt_irrefl _)
    · exact registers.distinct left right first second leftBefore rightBefore same
  case weakPointers =>
    intro weakPointer member
    obtain ⟨earlier, number, place⟩ := registers.weakPointers weakPointer member
    refine ⟨Nat.lt_succ_of_lt earlier, number, fun address object there same => ?_⟩
    rcases update_eq_some there with ⟨-, new⟩ | ⟨-, before⟩
    · rw [← same, ← Option.some.inj new] at earlier
      exact absurd earlier (Nat.lt_irrefl _)
    · exact place address object before same

theorem registers_destruct (pointer : Nat) : Registers (step world (.destruct pointer)) := by
  have before {address : Nat} {object : Object}
      (there : (step world (.destruct pointer)).objects address = some object) :
      address ≠ pointer ∧ world.objects address = some object := by
    rcases update_eq_some there with ⟨-, none⟩ | other
    · cases none
    · exact other
  constructor
  case lastid => exact registers.lastid
  case items =>
    intro item member
    obtain ⟨earlier, other⟩ := (mem_remove_iff registers).mp member
    obtain ⟨object, there, known, number⟩ := registers.items item earlier
    exact ⟨object, (Function.update_of_ne other _ _).trans there, known, number⟩
  case pointers =>
    exact registers.pointers.sublist (List.eraseP_sublist.map _)
  case registered =>
    intro address object there known
    obtain ⟨other, earlier⟩ := before there
    obtain ⟨item, member, same⟩ := registers.registered address object earlier known
    exact ⟨item, (mem_remove_iff registers).mpr ⟨member, same ▸ other⟩, same⟩
  case numbers =>
    intro address object there
    exact registers.numbers address object (before there).2
  case distinct =>
    intro left right first second leftThere rightThere
    exact registers.distinct left right first second (before leftThere).2 (before rightThere).2
  case weakPointers =>
    intro weakPointer member
    obtain ⟨earlier, number, place⟩ := registers.weakPointers weakPointer member
    exact ⟨earlier, number, fun address object there => place address object (before there).2⟩

theorem registers_createWeakPointer {pointer : Nat}
    (known : (world.objects pointer).any (·.registered) = true) :
    Registers (step world (.createWeakPointer pointer)) := by
  cases there : world.objects pointer with
  | none =>
      rw [there] at known
      cases known
  | some object =>
      rw [there, Option.any_some] at known
      have refers : Refers world ⟨pointer, world.manager.getid pointer, object.number⟩ := by
        refine ⟨registers.numbers pointer object there, getid_toInt registers there known, ?_⟩
        intro address other otherThere same
        obtain rfl := registers.distinct address pointer other object otherThere there same
        rw [there] at otherThere
        exact ⟨rfl, Option.some.inj otherThere ▸ known⟩
      have stepped : step world (.createWeakPointer pointer) =
          { world with weakPointers := world.weakPointers ++
              [⟨pointer, world.manager.getid pointer, object.number⟩] } := by
        rw [step, there]
      rw [stepped]
      refine ⟨registers.lastid, registers.items, registers.pointers, registers.registered,
        registers.numbers, registers.distinct, fun weakPointer member => ?_⟩
      cases List.mem_append.mp member with
      | inl earlier =>
          obtain ⟨before, id, place⟩ := registers.weakPointers weakPointer earlier
          exact ⟨before, id, place⟩
      | inr new =>
          rw [List.mem_singleton.mp new]
          exact ⟨refers.earlier, refers.id, refers.place⟩

/-- A weak pointer finds the item of its own object and no other. -/
theorem expired_iff {weakPointer : WeakPointer} (member : weakPointer ∈ world.weakPointers) :
    weakPointer.expired world.manager = false ↔ Alive world weakPointer.object := by
  obtain ⟨-, number, place⟩ := registers.weakPointers weakPointer member
  have found : weakPointer.expired world.manager = false ↔ ∃ item ∈ world.manager.list_,
      item.pointer = weakPointer.pointer_ ∧ item.id = weakPointer.id_ := by
    simp [WeakPointer.expired, expired]
  rw [found]
  constructor
  · rintro ⟨item, listed, -, sameId⟩
    obtain ⟨object, there, -, itemNumber⟩ := registers.items item listed
    rw [sameId, number] at itemNumber
    exact ⟨item.pointer, object, there, by omega⟩
  · rintro ⟨pointer, object, there, same⟩
    obtain ⟨rfl, known⟩ := place pointer object there same
    obtain ⟨item, listed, samePointer⟩ := registers.registered _ object there known
    obtain ⟨other, otherThere, -, itemNumber⟩ := registers.items item listed
    rw [samePointer, there] at otherThere
    obtain rfl := Option.some.inj otherThere
    refine ⟨item, listed, samePointer, Int32.toInt_inj.mp ?_⟩
    rw [itemNumber, number, same]

end

theorem constructed_le (world : World) (label : Step) :
    world.constructed ≤ (step world label).constructed := by
  cases label with
  | construct pointer allocated => exact Nat.le_succ _
  | destruct pointer => exact Nat.le_refl _
  | createWeakPointer pointer =>
      rw [step]
      split
      · exact Nat.le_refl _
      · exact Nat.le_refl _

theorem registers_step {world : World} {label : Step} (registers : Registers world)
    (allowed : Allowed world label) (few : (step world label).constructed < 2 ^ 31) :
    Registers (step world label) := by
  cases label with
  | construct pointer allocated => exact registers_construct registers allocated allowed few
  | destruct pointer => exact registers_destruct registers pointer
  | createWeakPointer pointer => exact registers_createWeakPointer registers allowed

theorem registers_run {world : World} {steps : List Step} (registers : Registers world)
    (allowed : Transition.Along step Allowed world steps)
    (few : (Transition.run step world steps).constructed < 2 ^ 31) :
    Registers (Transition.run step world steps) := by
  have more : (Transition.run step world steps).constructed < 2 ^ 31 →
      Registers (Transition.run step world steps) := by
    refine Transition.invariant_of_along (fun world => world.constructed < 2 ^ 31 →
      Registers world) ?_ (fun _ => registers) allowed
    intro state label permitted holds bound
    have before := constructed_le state label
    exact registers_step (holds (by omega)) permitted bound
  exact more few

/-- While there are fewer than 2^31 constructions, a weak pointer is expired exactly if the object
that it was created for is destroyed. -/
theorem run_expired_iff (steps : List Step) (allowed : Transition.Along step Allowed {} steps)
    (few : (Transition.run step {} steps).constructed < 2 ^ 31) :
    ∀ weakPointer ∈ (Transition.run step {} steps).weakPointers,
      (weakPointer.expired (Transition.run step {} steps).manager = false ↔
        Alive (Transition.run step {} steps) weakPointer.object) := by
  intro weakPointer member
  exact expired_iff (registers_run registers_start allowed few) member

/-- The address is used again for an object that has a weak pointer too. -/
def reuse : List Step :=
  [.construct 16 true, .createWeakPointer 16, .destruct 16, .construct 16 true,
    .createWeakPointer 16]

theorem run_expired_iff_reuse :
    Transition.Along step Allowed {} reuse ∧
      ∀ weakPointer ∈ (Transition.run step {} reuse).weakPointers,
        (weakPointer.expired (Transition.run step {} reuse).manager = false ↔
          Alive (Transition.run step {} reuse) weakPointer.object) := by
  have allowed : Transition.Along step Allowed {} reuse := by decide +kernel
  exact ⟨allowed, run_expired_iff reuse allowed (by decide +kernel)⟩

end WeakPointerManager

end Karabiner
