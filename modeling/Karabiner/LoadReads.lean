import Karabiner.RemapClassLoad
import Mathlib.Tactic.Common

set_option autoImplicit false

/- Where the load reads. Every word it reads lies inside the vector; only the strings of
status messages and modifier names can lead out of it. -/
namespace Karabiner

open VectorBuffer (Decode)
open Bridge

namespace RemapClass

/-- The byte at which an entry hands a string to strlcpy. -/
def stringStart (kind : EntryKind) (size p : Nat) : Option Nat :=
  match kind with
  | .statusMessage => some (4 * (p + 1))
  | .modifierName => if size < 3 then none else some (4 * (p + 2))
  | _ => none

/-- The constructor goes on after the entry. -/
def continues (kind : EntryKind) (size : Nat) (hasItem : Bool) : Bool :=
  match kind with
  | .item | .statusMessage => true
  | .filter => hasItem
  | .modifierName => 3 ≤ size
  | .vkModifier => size = 12
  | .vkConfig => size = 5
  | .vkDefinedInUserspace _ => size = 2
  | .unknown => false

def addsItem : EntryKind → Bool
  | .item => true
  | _ => false

/-- The strings of the entries that the constructor reaches. -/
def strings (buffer : VectorBuffer) (finish : Nat) : Nat → Nat → Bool → List Nat
  | 0, _, _ => []
  | fuel + 1, p, hasItem =>
      if p ≥ finish then []
      else
        let size := (buffer.word p).toNat
        let kind := entryKind (buffer.word (p + 1)).toNat
        if p + 1 + size > finish then []
        else if size = 0 then strings buffer finish fuel (p + 1) hasItem
        else (stringStart kind size (p + 1)).toList ++
          if continues kind size hasItem then
            strings buffer finish fuel (p + 1 + size) (hasItem || addsItem kind)
          else []

end RemapClass

namespace RemapClassManager

/-- The strings of the remaining entries that the load reaches. -/
def entryStrings (buffer : VectorBuffer) (vectorSize count : Nat) : Nat → Nat → List Nat
  | 0, _ => []
  | remaining + 1, p =>
      let size := (buffer.word p).toNat
      if p ≥ vectorSize ∨ p + 1 + size > vectorSize ∨ size = 0 then []
      else if (buffer.word (p + 1)).toNat ≥ count then []
      else RemapClass.strings buffer (p + 1 + size) (size - 1) (p + 2) false ++
        entryStrings buffer vectorSize count remaining (p + 1 + size)

/-- The starts of all strings that the load reaches, as byte offsets. -/
def vectorStrings (buffer : VectorBuffer) : List Nat :=
  let vectorSize := buffer.size / 4
  let count := (buffer.word 0).toNat
  if buffer.size % 4 ≠ 0 ∨ vectorSize < 2 ∨ vectorSize > MAX_ALLOCATION_COUNT ∨
      count > MAX_CONFIG_COUNT then []
  else entryStrings buffer vectorSize count count 1

end RemapClassManager

theorem RemapFilter.readWords_inside {buffer : VectorBuffer} {p n : Nat}
    (fits : 4 * (p + n) ≤ buffer.size) : (readWords buffer p n).All buffer.Inside := by
  induction n generalizing p with
  | zero => exact Traced.all_pure _ _
  | succ n ih =>
      rw [readWords, Traced.all_bind, Traced.all_map, VectorBuffer.readWord_inside]
      exact ⟨by omega, ih (by omega)⟩

section

variable {buffer : VectorBuffer} {vec length : Nat} (fits : 4 * (vec + length) ≤ buffer.size)
include fits

theorem readWord_of_fits {i : Nat} (inside : i < length) :
    (buffer.readWord (vec + i)).All buffer.Inside := by
  rw [VectorBuffer.readWord_inside]
  omega

theorem RemapFunc.addAll_inside (fuel i : Nat) (p : RemapFunc) :
    (addAll buffer vec length fuel i p).All buffer.Inside := by
  induction fuel generalizing i p with
  | zero => exact Traced.all_pure _ _
  | succ fuel ih =>
      unfold addAll
      by_cases done : i + 1 ≥ length
      · rw [if_pos done]
        exact Traced.all_pure _ _
      · rw [if_neg done, Traced.all_bind, Traced.all_bind]
        refine ⟨readWord_of_fits fits (by omega), readWord_of_fits fits (by omega), ?_⟩
        split
        · exact ih _ _
        · exact ih _ _

theorem RemapFunc.create_inside : (create buffer vec length).All buffer.Inside := by
  unfold create
  by_cases empty : length = 0
  · rw [if_pos empty]
    exact Traced.all_pure _ _
  · rw [if_neg empty, Traced.all_bind]
    refine ⟨readWord_of_fits fits (i := 0) (by omega), ?_⟩
    split
    · rw [Traced.all_map]
      exact addAll_inside fits _ _ _
    · exact Traced.all_pure _ _

theorem RemapFilter.readGroups_inside (group fuel i : Nat) (targets : List (List UInt32)) :
    (readGroups buffer group vec length fuel i targets).All buffer.Inside := by
  induction fuel generalizing i targets with
  | zero => exact Traced.all_pure _ _
  | succ fuel ih =>
      unfold readGroups
      by_cases more : i + group ≤ length
      · rw [if_pos more, Traced.all_bind]
        exact ⟨readWords_inside (by omega), ih _ _⟩
      · rw [if_neg more]
        exact Traced.all_pure _ _

theorem RemapFilter.readLastSentEvents_inside (fuel i : Nat) (targets : List (List UInt32)) :
    (readLastSentEvents buffer vec length fuel i targets).All buffer.Inside := by
  induction fuel generalizing i targets with
  | zero => exact Traced.all_pure _ _
  | succ fuel ih =>
      unfold readLastSentEvents
      by_cases pair : i + 1 < length
      · rw [if_pos pair, Traced.all_bind, Traced.all_bind]
        refine ⟨readWord_of_fits fits (by omega), readWord_of_fits fits (by omega), ?_⟩
        by_cases more : i + 3 < length
        · rw [if_pos more, Traced.all_bind]
          refine ⟨readWord_of_fits fits (by omega), ?_⟩
          split
          · rw [Traced.all_bind]
            exact ⟨readWord_of_fits fits (by omega), ih _ _⟩
          · exact ih _ _
        · rw [if_neg more]
          exact ih _ _
      · rw [if_neg pair]
        exact Traced.all_pure _ _

theorem RemapFilter.create_inside : (create buffer vec length).All buffer.Inside := by
  unfold create
  by_cases empty : length = 0
  · rw [if_pos empty]
    exact Traced.all_pure _ _
  · rw [if_neg empty, Traced.all_bind]
    have rest : 4 * (vec + 1 + (length - 1)) ≤ buffer.size := by omega
    refine ⟨readWord_of_fits fits (i := 0) (by omega), ?_⟩
    dsimp only
    split
    · split
      · rw [Traced.all_bind]
        exact ⟨readLastSentEvents_inside rest _ _ _, Traced.all_pure _ _⟩
      · rw [Traced.all_bind]
        exact ⟨readGroups_inside rest _ _ _ _, Traced.all_pure _ _⟩
    · exact Traced.all_pure _ _

end

namespace RemapClass

def hasItem (remapclass : RemapClass) : Bool := !remapclass.items.isEmpty

/-- What the loop of the constructor goes on with, if it does. -/
structure Progress.Follows (kind : EntryKind) (size : Nat) (remapclass : RemapClass)
    (progress : Progress) : Prop where
  returns : progress.returns = !continues kind size remapclass.hasItem
  hasItem : progress.returns = false →
    progress.remapclass.hasItem = (remapclass.hasItem || addsItem kind)

theorem appendFilter_isEmpty (items : List Item) (filter : Option RemapFilter) :
    (appendFilter items filter).isEmpty = items.isEmpty := by
  unfold appendFilter
  split
  · rename_i back _ last
    cases items with
    | nil => simp at last
    | cons => simp
  · rfl

theorem addEntryOfType_follows (buffer : VectorBuffer) (p size type : Nat)
    (remapclass : RemapClass) (manager : RemapClassManager) :
    (addEntryOfType buffer p size remapclass manager type).value.Follows (entryKind type) size
      remapclass := by
  unfold addEntryOfType
  cases entryKind type with
  | item => constructor <;> simp [addItem, continues, addsItem, hasItem]
  | filter =>
      unfold addFilter
      by_cases empty : remapclass.items.length = 0
      · have none : remapclass.items = [] := List.length_eq_zero_iff.1 empty
        constructor <;> simp [continues, hasItem, none]
      · have some : remapclass.items ≠ [] := fun none => empty (by simp [none])
        constructor <;> simp [continues, hasItem, addsItem, some, appendFilter_isEmpty]
  | statusMessage => constructor <;> simp [addStatusMessage, continues, addsItem, hasItem]
  | modifierName =>
      unfold addModifierName
      by_cases short : size < 3
      · constructor <;> simp [continues, short]
      · constructor <;> simp [continues, addsItem, short]
        omega
  | vkModifier =>
      unfold addVkModifier
      by_cases fixed : size = 12 <;> constructor <;> simp [continues, addsItem, fixed]
  | vkConfig =>
      unfold addVkConfig
      by_cases fixed : size = 5 <;> constructor <;> simp [continues, addsItem, fixed]
  | vkDefinedInUserspace notificationType =>
      unfold addVkDefinedInUserspace
      by_cases fixed : size = 2 <;> constructor <;> simp [continues, addsItem, fixed]
  | unknown => constructor <;> simp [continues]

theorem addEntryOfType_inside {buffer : VectorBuffer} {p size : Nat}
    (fits : 4 * (p + size) ≤ buffer.size) (remapclass : RemapClass)
    (manager : RemapClassManager) (type : Nat) :
    (addEntryOfType buffer p size remapclass manager type).All buffer.Inside ↔
      ∀ start ∈ stringStart (entryKind type) size p, buffer.Terminated start := by
  have word {i : Nat} (inside : i < size) : 4 * (p + i) + 4 ≤ buffer.size := by omega
  unfold addEntryOfType
  cases entryKind type with
  | item => simp [addItem, stringStart, RemapFunc.create_inside fits]
  | filter =>
      unfold addFilter
      by_cases empty : remapclass.items.length = 0
      · rw [if_pos empty]
        simp [stringStart]
      · rw [if_neg empty]
        simp [stringStart, RemapFilter.create_inside fits]
  | statusMessage => simp [addStatusMessage, stringStart, VectorBuffer.readCString_inside]
  | modifierName =>
      unfold addModifierName
      by_cases short : size < 3
      · simp [stringStart, short]
      · simp [stringStart, short, VectorBuffer.readCString_inside,
          VectorBuffer.readWord_inside, word (i := 1) (by omega)]
  | vkModifier =>
      unfold addVkModifier
      by_cases fixed : size = 12
      · have words : (RemapFilter.readWords buffer (p + 1) 11).All buffer.Inside :=
          RemapFilter.readWords_inside (by omega)
        simp [stringStart, fixed, words]
      · simp [stringStart, fixed]
  | vkConfig =>
      unfold addVkConfig
      by_cases fixed : size = 5
      · simp [stringStart, fixed, VectorBuffer.readWord_inside, word (i := 1) (by omega),
          word (i := 2) (by omega), word (i := 3) (by omega), word (i := 4) (by omega)]
      · simp [stringStart, fixed]
  | vkDefinedInUserspace notificationType =>
      unfold addVkDefinedInUserspace
      by_cases fixed : size = 2
      · simp [stringStart, fixed, VectorBuffer.readWord_inside, word (i := 1) (by omega)]
      · simp [stringStart, fixed]
  | unknown => simp [stringStart]

/-- An entry registers in tables only. -/
structure RegistersOnly (before after : RemapClassManager) : Prop where
  remapclasses : after.remapclasses = before.remapclasses
  allocationCount : after.allocationCount = before.allocationCount

theorem RegistersOnly.trans {first second third : RemapClassManager}
    (left : RegistersOnly first second) (right : RegistersOnly second third) :
    RegistersOnly first third :=
  ⟨right.1.trans left.1, right.2.trans left.2⟩

theorem addEntryOfType_registersOnly (buffer : VectorBuffer) (p size type : Nat)
    (remapclass : RemapClass) (manager : RemapClassManager) :
    RegistersOnly manager (addEntryOfType buffer p size remapclass manager type).value.manager := by
  unfold addEntryOfType
  cases entryKind type with
  | item => exact ⟨rfl, rfl⟩
  | filter => simp only [addFilter]; split <;> exact ⟨rfl, rfl⟩
  | statusMessage => exact ⟨rfl, rfl⟩
  | modifierName => simp only [addModifierName]; split <;> exact ⟨rfl, rfl⟩
  | vkModifier => simp only [addVkModifier]; split <;> exact ⟨rfl, rfl⟩
  | vkConfig => simp only [addVkConfig]; split <;> exact ⟨rfl, rfl⟩
  | vkDefinedInUserspace _ => simp only [addVkDefinedInUserspace]; split <;> exact ⟨rfl, rfl⟩
  | unknown => exact ⟨rfl, rfl⟩

theorem addEntries_registersOnly (buffer : VectorBuffer) (finish fuel p : Nat)
    (remapclass : RemapClass) (manager : RemapClassManager) :
    RegistersOnly manager (addEntries buffer finish fuel p remapclass manager).value.2 := by
  induction fuel generalizing p remapclass manager with
  | zero => exact ⟨rfl, rfl⟩
  | succ fuel ih =>
      rw [addEntries]
      by_cases ended : p = finish
      · rw [if_pos ended]
        exact ⟨rfl, rfl⟩
      by_cases beyond : p > finish
      · rw [if_neg ended, if_pos beyond]
        exact ⟨rfl, rfl⟩
      rw [if_neg ended, if_neg beyond, Traced.value_bind]
      by_cases long : p + 1 + (buffer.readWord p).value.toNat > finish
      · rw [if_pos long]
        exact ⟨rfl, rfl⟩
      rw [if_neg long]
      by_cases empty : (buffer.readWord p).value.toNat > 0
      · have registers := addEntryOfType_registersOnly buffer (p + 1)
          (buffer.readWord p).value.toNat (buffer.word (p + 1)).toNat remapclass manager
        rw [if_pos empty, Traced.value_bind, addEntry, Traced.value_bind,
          VectorBuffer.readWord_value]
        split
        · exact registers
        · exact registers.trans (ih _ _ _)
      · rw [if_neg empty]
        exact ih _ _ _

/-- The loop reads inside the vector exactly if the strings that it reaches end there. -/
theorem addEntries_inside {buffer : VectorBuffer} {finish : Nat}
    (fits : 4 * finish ≤ buffer.size) (fuel p : Nat) (remapclass : RemapClass)
    (manager : RemapClassManager) :
    (addEntries buffer finish fuel p remapclass manager).All buffer.Inside ↔
      ∀ start ∈ strings buffer finish fuel p remapclass.hasItem, buffer.Terminated start := by
  induction fuel generalizing p remapclass manager with
  | zero => simp [addEntries, strings]
  | succ fuel ih =>
      rw [addEntries, strings]
      by_cases ended : p ≥ finish
      · rw [if_pos ended]
        split
        · simp
        · rw [if_pos (by omega)]
          simp
      rw [if_neg (by omega), if_neg (by omega), if_neg ended, Traced.all_bind,
        VectorBuffer.readWord_inside, and_iff_right (by omega), VectorBuffer.readWord_value]
      dsimp only
      by_cases long : p + 1 + (buffer.word p).toNat > finish
      · rw [if_pos long, if_pos long]
        simp
      rw [if_neg long, if_neg long]
      by_cases empty : (buffer.word p).toNat = 0
      · rw [if_neg (by omega), if_pos empty]
        exact ih _ _ _
      have typeInside : 4 * (p + 1) + 4 ≤ buffer.size := by omega
      rw [if_pos (by omega), if_neg empty, Traced.all_bind, addEntry, Traced.all_bind,
        VectorBuffer.readWord_inside, and_iff_right typeInside, Traced.value_bind,
        VectorBuffer.readWord_value, addEntryOfType_inside (by omega), List.forall_mem_append]
      simp only [Option.mem_toList]
      obtain ⟨returns, following⟩ := addEntryOfType_follows buffer (p + 1)
        (buffer.word p).toNat (buffer.word (p + 1)).toNat remapclass manager
      refine and_congr_right fun _ => ?_
      by_cases goes : continues (entryKind (buffer.word (p + 1)).toNat) (buffer.word p).toNat
          remapclass.hasItem
      · rw [goes, Bool.not_true] at returns
        rw [if_pos goes, returns, if_neg Bool.false_ne_true, ih, following returns]
      · rw [Bool.not_eq_true] at goes
        rw [goes, Bool.not_false] at returns
        rw [goes, returns]
        simp

theorem construct_inside {buffer : VectorBuffer} {initializeVector vectorSize : Nat}
    (fits : 4 * (initializeVector + vectorSize) ≤ buffer.size) (configindex : Nat)
    {manager : RemapClassManager}
    (allocatable : manager.allocationCount + vectorSize ≤ MAX_ALLOCATION_COUNT) :
    (construct buffer initializeVector vectorSize configindex manager).All buffer.Inside ↔
      ∀ start ∈ strings buffer (initializeVector + vectorSize) vectorSize
        initializeVector false,
        buffer.Terminated start := by
  rw [construct]
  dsimp only
  rw [if_neg (by omega), addEntries_inside fits]
  rfl

theorem construct_manager (buffer : VectorBuffer) (initializeVector : Nat) {vectorSize : Nat}
    (configindex : Nat) {manager : RemapClassManager}
    (allocatable : manager.allocationCount + vectorSize ≤ MAX_ALLOCATION_COUNT) :
    (construct buffer initializeVector vectorSize configindex manager).value.2.remapclasses =
        manager.remapclasses ∧
      (construct buffer initializeVector vectorSize configindex manager).value.2.allocationCount =
        manager.allocationCount + vectorSize := by
  rw [construct]
  dsimp only
  rw [if_neg (by omega)]
  obtain ⟨remapclasses, allocationCount⟩ := addEntries_registersOnly buffer
    (initializeVector + vectorSize) vectorSize initializeVector
    { identity := manager.nextIdentity, configindex }
    { manager with
      live := manager.live ++ [manager.nextIdentity], nextIdentity := manager.nextIdentity + 1,
      allocationCount := manager.allocationCount + vectorSize }
  exact ⟨remapclasses, allocationCount⟩

end RemapClass

namespace RemapClassManager

open RemapClass (construct_inside construct_manager)

/-- The objects constructed so far used no more words than were read, so the allocation
limit is never met. -/
theorem loadEntries_inside {buffer : VectorBuffer} {vectorSize : Nat}
    (fits : 4 * vectorSize ≤ buffer.size) (limited : vectorSize ≤ MAX_ALLOCATION_COUNT)
    (remaining p : Nat) {manager : RemapClassManager} (allocated : manager.allocationCount ≤ p) :
    (loadEntries buffer vectorSize remaining p manager).All buffer.Inside ↔
      ∀ start ∈ entryStrings buffer vectorSize manager.remapclasses.length remaining p,
        buffer.Terminated start := by
  induction remaining generalizing p manager with
  | zero => simp [loadEntries, entryStrings]
  | succ remaining ih =>
      rw [loadEntries, entryStrings]
      dsimp only
      by_cases ended : p ≥ vectorSize
      · rw [if_pos ended, if_pos (.inl ended)]
        simp
      rw [if_neg ended, Traced.all_bind, VectorBuffer.readWord_inside,
        and_iff_right (by omega), VectorBuffer.readWord_value]
      generalize sizeEq : (buffer.word p).toNat = size
      by_cases long : p + 1 + size > vectorSize
      · rw [if_pos long, if_pos (.inr (.inl long))]
        simp
      by_cases empty : size = 0
      · rw [if_neg long, if_pos empty, if_pos (.inr (.inr empty))]
        simp
      rw [if_neg long, if_neg empty, if_neg (by omega), Traced.all_bind,
        VectorBuffer.readWord_inside, and_iff_right (by omega), VectorBuffer.readWord_value]
      by_cases invalid : (buffer.word (p + 1)).toNat ≥ manager.remapclasses.length
      · rw [if_pos invalid, if_pos invalid]
        simp
      have finish : p + 1 + 1 + (size - 1) = p + 1 + size := by omega
      have allocatable : manager.allocationCount + (size - 1) ≤ MAX_ALLOCATION_COUNT := by omega
      obtain ⟨classes, allocation⟩ := construct_manager buffer (p + 1 + 1)
        (buffer.word (p + 1)).toNat allocatable
      rw [if_neg invalid, if_neg invalid, Traced.all_bind,
        construct_inside (by omega) _ allocatable, List.forall_mem_append, finish,
        ih (p + 1 + size) (by dsimp only; omega), List.length_set, classes]

theorem loadVector_inside {buffer : VectorBuffer} {vectorSize : Nat}
    (fits : 4 * vectorSize ≤ buffer.size) (nonempty : 0 < vectorSize)
    (limited : vectorSize ≤ MAX_ALLOCATION_COUNT) (manager : RemapClassManager) :
    (loadVector buffer vectorSize manager).All buffer.Inside ↔
      ((buffer.word 0).toNat ≤ MAX_CONFIG_COUNT →
        ∀ start ∈ entryStrings buffer vectorSize (buffer.word 0).toNat (buffer.word 0).toNat 1,
          buffer.Terminated start) := by
  rw [loadVector, Traced.all_bind, VectorBuffer.readWord_inside,
    and_iff_right (by omega), VectorBuffer.readWord_value]
  dsimp only
  by_cases many : (buffer.word 0).toNat > MAX_CONFIG_COUNT
  · rw [if_pos many]
    simp only [Traced.all_pure, true_iff]
    omega
  · rw [if_neg many, Traced.all_bind, loadEntries_inside fits limited _ _ (Nat.zero_le _),
      List.length_replicate]
    simp only [Traced.all_pure, and_true]
    exact ⟨fun all _ => all, fun all => all (by omega)⟩

/-- The load stays inside the vector exactly if every string that it reaches ends there. -/
theorem load_inside_iff (buffer : VectorBuffer) (manager : RemapClassManager) :
    (loadRemapclassesInitializeVector buffer manager).All buffer.Inside ↔
      ∀ start ∈ vectorStrings buffer, buffer.Terminated start := by
  rw [loadRemapclassesInitializeVector, vectorStrings]
  dsimp only
  by_cases ragged : buffer.size % 4 ≠ 0
  · rw [if_pos ragged, if_pos (.inl ragged)]
    simp
  by_cases short : buffer.size / 4 < 2
  · rw [if_neg ragged, if_pos short, if_pos (.inr (.inl short))]
    simp
  by_cases large : buffer.size / 4 > MAX_ALLOCATION_COUNT
  · rw [if_neg ragged, if_neg short, if_pos large, if_pos (.inr (.inr (.inl large)))]
    simp
  have outcome (loaded : Bool × RemapClassManager) :
      (if loaded.1 then pure (true, loaded.2)
        else pure (false, loaded.2.clearRemapclasses) : Decode _).All buffer.Inside := by
    split <;> exact Traced.all_pure _ _
  rw [if_neg ragged, if_neg short, if_neg large, Traced.all_bind,
    loadVector_inside (by omega) (by omega) (by omega), and_iff_left (outcome _)]
  by_cases many : (buffer.word 0).toNat > MAX_CONFIG_COUNT
  · rw [if_pos (.inr (.inr (.inr many)))]
    simp [Nat.not_le.2 many]
  · rw [if_neg (by tauto)]
    exact ⟨fun all => all (by omega), fun all _ => all⟩

/-- One class with an entry of one word, the type of a status message. Its string starts
at the end of the vector. -/
def emptyStatusMessage : VectorBuffer :=
  ⟨[1, 0, 0, 0, 3, 0, 0, 0, 0, 0, 0, 0, 1, 0, 0, 0, 80, 0, 0, 0]⟩

theorem emptyStatusMessage_outside :
    VectorBuffer.Read.byte
    20 ∈ (loadRemapclassesInitializeVector emptyStatusMessage {}).events ∧
      ¬ (loadRemapclassesInitializeVector emptyStatusMessage {}).All
        emptyStatusMessage.Inside := by
  have outside : VectorBuffer.Read.byte 20 ∈
      (loadRemapclassesInitializeVector emptyStatusMessage {}).events := by decide
  exact ⟨outside, fun all => absurd (all _ outside) (by decide)⟩

end RemapClassManager

end Karabiner
