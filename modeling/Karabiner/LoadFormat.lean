import Karabiner.LoadAccepts
import Mathlib.Data.List.Nodup
import Mathlib.Data.List.Perm.Subperm
import Mathlib.Data.List.Range
import Mathlib.Data.Option.Basic

set_option autoImplicit false

/- The load accepts the vectors of its format and no others, and leaves nothing registered
when it refuses one. -/
namespace Karabiner

namespace RemapClass

theorem addEntryOfType_configindex (buffer : VectorBuffer) (p size type : Nat)
    (remapclass : RemapClass) (manager : RemapClassManager) :
    (addEntryOfType buffer p size remapclass manager type).value.remapclass.configindex =
      remapclass.configindex := by
  unfold addEntryOfType
  cases entryKind type with
  | item => rfl
  | filter => simp only [addFilter]; split <;> rfl
  | statusMessage => rfl
  | modifierName => simp only [addModifierName]; split <;> rfl
  | vkModifier => simp only [addVkModifier]; split <;> rfl
  | vkConfig => simp only [addVkConfig]; split <;> rfl
  | vkDefinedInUserspace _ => simp only [addVkDefinedInUserspace]; split <;> rfl
  | unknown => rfl

theorem addEntries_configindex (buffer : VectorBuffer) (finish fuel p : Nat)
    (remapclass : RemapClass) (manager : RemapClassManager) :
    (addEntries buffer finish fuel p remapclass manager).value.1.configindex =
      remapclass.configindex := by
  induction fuel generalizing p remapclass manager with
  | zero => rfl
  | succ fuel ih =>
      rw [addEntries]
      by_cases ended : p = finish
      · rw [if_pos ended]
        rfl
      by_cases beyond : p > finish
      · rw [if_neg ended, if_pos beyond]
        rfl
      rw [if_neg ended, if_neg beyond, Traced.value_bind]
      by_cases long : p + 1 + (buffer.readWord p).value.toNat > finish
      · rw [if_pos long]
        rfl
      rw [if_neg long]
      by_cases empty : (buffer.readWord p).value.toNat > 0
      · have same := addEntryOfType_configindex buffer (p + 1)
          (buffer.readWord p).value.toNat (buffer.word (p + 1)).toNat remapclass manager
        rw [if_pos empty, Traced.value_bind, addEntry, Traced.value_bind,
          VectorBuffer.readWord_value]
        split
        · exact same
        · rw [ih]
          exact same
      · rw [if_neg empty]
        exact ih _ _ _

theorem construct_configindex (buffer : VectorBuffer)
    (initializeVector vectorSize configindex : Nat) (manager : RemapClassManager) :
    (construct buffer initializeVector vectorSize configindex manager).value.1.configindex =
      configindex := by
  rw [construct]
  dsimp only
  split
  · rfl
  · exact addEntries_configindex _ _ _ _ _ _

theorem construct_remapclasses (buffer : VectorBuffer)
    (initializeVector vectorSize configindex : Nat) (manager : RemapClassManager) :
    (construct buffer initializeVector vectorSize configindex manager).value.2.remapclasses =
      manager.remapclasses := by
  rw [construct]
  dsimp only
  split
  · rfl
  · exact (addEntries_registersOnly _ _ _ _ _ _).remapclasses

end RemapClass

namespace RemapClassManager

open RemapClass (construct_configindex construct_remapclasses)

/-- The config index of an entry. -/
def configindexOf (entry : List UInt32) : Option Nat := entry.head?.map UInt32.toNat

/-- What the load accepts: a count, and so many entries, each behind a word for its size,
whose config indices are all those below the count. Words behind them are not looked at. -/
structure Format (words : List UInt32) : Prop where
  room : 2 ≤ words.length
  limited : words.length ≤ MAX_ALLOCATION_COUNT
  few : (words.headD 0).toNat ≤ MAX_CONFIG_COUNT
  entries : ∃ entries rest,
    Framing.split UInt32.toNat (words.headD 0).toNat words.tail = some (entries, rest) ∧
      (entries.map configindexOf).Perm ((List.range (words.headD 0).toNat).map some)

/-- A class in every slot, each with the config index of its slot. -/
structure Loaded (count : Nat) (manager : RemapClassManager) : Prop where
  length : manager.remapclasses.length = count
  slot : ∀ i < count, ∃ remapclass,
    manager.remapclasses[i]? = some (some remapclass) ∧ remapclass.configindex = i

/-- Nothing is loaded and nothing is registered. -/
structure Cleared (manager : RemapClassManager) : Prop where
  remapclasses : manager.remapclasses = []
  enabledRemapclasses : manager.enabledRemapclasses = []
  prepareTargetItems : manager.prepareTargetItems = []
  vkConfig : manager.vkConfig = []
  vkDefinedInUserspace : manager.vkDefinedInUserspace = []
  pairs : manager.pairs = .normal
  virtualModifierNames : manager.virtualModifierNames = []

theorem clearRemapclasses_cleared (manager : RemapClassManager) :
    Cleared manager.clearRemapclasses := by
  constructor <;> rfl

theorem hasIndex_iff (body : List UInt32) (i : Nat) :
    HasIndex body i ↔ configindexOf body = some i := by
  simp [HasIndex, configindexOf]

def SlotsIndexed (remapclasses : List (Option RemapClass)) : Prop :=
  ∀ i remapclass, remapclasses[(i : Nat)]? = some (some remapclass) → remapclass.configindex = i

theorem slotsIndexed_set {remapclasses : List (Option RemapClass)} {configindex : Nat}
    {remapclass : RemapClass} (indexed : SlotsIndexed remapclasses)
    (same : remapclass.configindex = configindex) :
    SlotsIndexed (remapclasses.set configindex (some remapclass)) := by
  intro i other there
  by_cases equal : configindex = i
  · subst equal
    rw [List.getElem?_set] at there
    simp only [if_true] at there
    split at there
    · rw [Option.some.injEq, Option.some.injEq] at there
      rw [← there, same]
    · cases there
  · rw [List.getElem?_set_ne equal] at there
    exact indexed i other there

/-- What a load that reaches its end has read and filled in. -/
structure Filling (buffer : VectorBuffer) (remaining p : Nat) (before after : RemapClassManager) :
    Prop where
  length : after.remapclasses.length = before.remapclasses.length
  indexed : SlotsIndexed before.remapclasses → SlotsIndexed after.remapclasses
  entries : ∃ entries rest,
    Framing.split UInt32.toNat remaining (buffer.words.drop p) = some (entries, rest) ∧
      (∀ entry ∈ entries, ∃ i < before.remapclasses.length, HasIndex entry i) ∧
      ∀ i, Filled after.remapclasses i → Filled before.remapclasses i ∨
        ∃ entry ∈ entries, HasIndex entry i

/-- One more entry in front. -/
theorem Filling.cons {buffer : VectorBuffer} {remaining p : Nat}
    {before middle after : RemapClassManager} {remapclass : RemapClass}
    (nonempty : (buffer.word p).toNat ≠ 0)
    (long : p + 1 + (buffer.word p).toNat ≤ buffer.size / 4)
    (valid : (buffer.word (p + 1)).toNat < before.remapclasses.length)
    (slots : middle.remapclasses =
      before.remapclasses.set (buffer.word (p + 1)).toNat (some remapclass))
    (same : remapclass.configindex = (buffer.word (p + 1)).toNat)
    (rest : Filling buffer remaining (p + 1 + (buffer.word p).toNat) middle after) :
    Filling buffer (remaining + 1) p before after := by
  obtain ⟨entries, left, split_eq, valids, filled⟩ := rest.entries
  have here : buffer.words.drop p =
      buffer.word p :: buffer.word (p + 1) :: buffer.words.drop (p + 1 + 1) := by
    rw [VectorBuffer.words_drop (by omega), VectorBuffer.words_drop (by omega)]
  have head : HasIndex ((buffer.words.drop (p + 1)).take (buffer.word p).toNat)
      (buffer.word (p + 1)).toNat := by
    rw [VectorBuffer.words_drop (by omega), List.take_cons (by omega)]
    exact ⟨_, rfl, rfl⟩
  have split_here : Framing.split UInt32.toNat (remaining + 1) (buffer.words.drop p) =
      some ((buffer.words.drop (p + 1)).take (buffer.word p).toNat :: entries, left) := by
    rw [VectorBuffer.words_drop (by omega), Framing.split, if_pos (by
      rw [List.length_drop, VectorBuffer.words_length]; omega), List.drop_drop, split_eq]
    rfl
  rw [slots, List.length_set] at valids
  constructor
  · rw [rest.length, slots, List.length_set]
  · intro indexed
    apply rest.indexed
    rw [slots]
    exact slotsIndexed_set indexed same
  · refine ⟨_, left, split_here, ?_, ?_⟩
    · intro entry member
      rcases List.mem_cons.1 member with rfl | member
      · exact ⟨_, valid, head⟩
      · exact valids entry member
    · intro i occupied
      rcases filled i occupied with before_filled | ⟨entry, member, index⟩
      · rw [slots, filled_set valid] at before_filled
        rcases before_filled with rfl | before_filled
        · exact .inr ⟨_, List.mem_cons_self, head⟩
        · exact .inl before_filled
      · exact .inr ⟨entry, List.mem_cons_of_mem _ member, index⟩

theorem loadEntries_filling {buffer : VectorBuffer} {remaining p : Nat}
    {manager : RemapClassManager}
    (accepted : (loadEntries buffer (buffer.size / 4) remaining p manager).value.1 = true) :
    Filling buffer remaining p manager
      (loadEntries buffer (buffer.size / 4) remaining p manager).value.2 := by
  induction remaining generalizing p manager with
  | zero =>
      constructor
      · rfl
      · exact id
      · exact ⟨[], _, rfl, by simp, fun i occupied => .inl occupied⟩
  | succ remaining ih =>
      rw [loadEntries] at accepted ⊢
      by_cases ended : p ≥ buffer.size / 4
      · rw [if_pos ended] at accepted
        cases accepted
      rw [if_neg ended, Traced.value_bind, VectorBuffer.readWord_value] at accepted ⊢
      dsimp only at accepted ⊢
      by_cases long : p + 1 + (buffer.word p).toNat > buffer.size / 4
      · rw [if_pos long] at accepted
        cases accepted
      rw [if_neg long] at accepted ⊢
      by_cases empty : (buffer.word p).toNat = 0
      · rw [if_pos empty] at accepted
        cases accepted
      rw [if_neg empty, Traced.value_bind, VectorBuffer.readWord_value] at accepted ⊢
      by_cases invalid : (buffer.word (p + 1)).toNat ≥ manager.remapclasses.length
      · rw [if_pos invalid] at accepted
        cases accepted
      have finish : p + 1 + 1 + ((buffer.word p).toNat - 1) = p + 1 + (buffer.word p).toNat := by
        omega
      rw [if_neg invalid, Traced.value_bind, finish] at accepted ⊢
      have classes := construct_remapclasses buffer (p + 1 + 1) ((buffer.word p).toNat - 1)
        (buffer.word (p + 1)).toNat manager
      have same := construct_configindex buffer (p + 1 + 1) ((buffer.word p).toNat - 1)
        (buffer.word (p + 1)).toNat manager
      generalize (RemapClass.construct buffer (p + 1 + 1) ((buffer.word p).toNat - 1)
        (buffer.word (p + 1)).toNat manager).value = built at accepted classes same ⊢
      refine Filling.cons empty (by omega) (by omega) ?_ same (ih accepted)
      dsimp only
      rw [classes]

theorem allSome_iff {remapclasses : List (Option RemapClass)} :
    remapclasses.all (·.isSome) = true ↔ ∀ i < remapclasses.length, Filled remapclasses i := by
  rw [List.all_eq_true]
  constructor
  · intro every i inside
    have some := every remapclasses[i] (List.getElem_mem inside)
    obtain ⟨remapclass, there⟩ := Option.isSome_iff_exists.1 some
    exact ⟨remapclass, by rw [List.getElem?_eq_getElem inside, there]⟩
  · intro every slot member
    obtain ⟨i, inside, rfl⟩ := List.mem_iff_getElem.1 member
    obtain ⟨remapclass, there⟩ := every i inside
    rw [List.getElem?_eq_getElem inside, Option.some.injEq] at there
    rw [there, Option.isSome_some]

/-- So many entries as indices that cover all the indices are a permutation of them. -/
theorem perm_of_covers {entries : List (List UInt32)} {count : Nat}
    (length : entries.length = count)
    (covered : ∀ i < count, ∃ entry ∈ entries, HasIndex entry i) :
    (entries.map configindexOf).Perm ((List.range count).map some) := by
  have distinct : ((List.range count).map some).Nodup :=
    List.nodup_range.map (Option.some_injective Nat)
  have inside : (List.range count).map some ⊆ entries.map configindexOf := by
    intro index member
    obtain ⟨i, below, rfl⟩ := List.mem_map.1 member
    obtain ⟨entry, there, indexed⟩ := covered i (List.mem_range.1 below)
    exact List.mem_map.2 ⟨entry, there, (hasIndex_iff entry i).1 indexed⟩
  have smaller := List.subperm_of_subset distinct inside
  exact (smaller.perm_of_length_le (by simp [length])).symm

theorem hasIndex_of_perm {entries : List (List UInt32)} {count : Nat}
    (perm : (entries.map configindexOf).Perm ((List.range count).map some)) :
    (∀ entry ∈ entries, ∃ i < count, HasIndex entry i) ∧
      ∀ i < count, ∃ entry ∈ entries, HasIndex entry i := by
  constructor
  · intro entry member
    have there := perm.mem_iff.1 (List.mem_map_of_mem member)
    obtain ⟨i, below, index⟩ := List.mem_map.1 there
    exact ⟨i, List.mem_range.1 below, (hasIndex_iff entry i).2 index.symm⟩
  · intro i below
    have there := perm.mem_iff.2 (List.mem_map_of_mem (List.mem_range.2 below))
    obtain ⟨entry, member, index⟩ := List.mem_map.1 there
    exact ⟨entry, member, (hasIndex_iff entry i).2 index⟩

section

variable (buffer : VectorBuffer) (manager : RemapClassManager)

/-- The state in which the entries are read. -/
def startOf : RemapClassManager :=
  { manager.clearRemapclasses with
    allocationCount := 0
    remapclasses := List.replicate (buffer.word 0).toNat none }

def loadedOf : Bool × RemapClassManager :=
  (loadEntries buffer (buffer.size / 4) (buffer.word 0).toNat 1 (startOf buffer manager)).value

/-- What decides the load. -/
def Accepts : Prop :=
  buffer.size % 4 = 0 ∧ 2 ≤ buffer.size / 4 ∧ buffer.size / 4 ≤ MAX_ALLOCATION_COUNT ∧
    (buffer.word 0).toNat ≤ MAX_CONFIG_COUNT ∧ (loadedOf buffer manager).1 = true ∧
    (loadedOf buffer manager).2.remapclasses.all (·.isSome) = true

theorem load_value :
    (Accepts buffer manager →
      (loadRemapclassesInitializeVector buffer manager).value =
        (true, (loadedOf buffer manager).2)) ∧
    (¬ Accepts buffer manager →
      (loadRemapclassesInitializeVector buffer manager).value.1 = false ∧
        Cleared (loadRemapclassesInitializeVector buffer manager).value.2) := by
  rw [loadRemapclassesInitializeVector]
  dsimp only
  by_cases broken : buffer.size % 4 ≠ 0
  · rw [if_pos broken]
    exact ⟨fun accepts => absurd accepts.1 broken,
      fun _ => ⟨rfl, clearRemapclasses_cleared _⟩⟩
  rw [if_neg broken]
  by_cases small : buffer.size / 4 < 2
  · rw [if_pos small]
    exact ⟨fun accepts => absurd accepts.2.1 (by omega),
      fun _ => ⟨rfl, clearRemapclasses_cleared _⟩⟩
  rw [if_neg small]
  by_cases large : buffer.size / 4 > MAX_ALLOCATION_COUNT
  · rw [if_pos large]
    exact ⟨fun accepts => absurd accepts.2.2.1 (by omega),
      fun _ => ⟨rfl, clearRemapclasses_cleared _⟩⟩
  rw [if_neg large, Traced.value_bind, loadVector, Traced.value_bind,
    VectorBuffer.readWord_value]
  dsimp only
  by_cases many : (buffer.word 0).toNat > MAX_CONFIG_COUNT
  · rw [if_pos many]
    exact ⟨fun accepts => absurd accepts.2.2.2.1 (by omega),
      fun _ => ⟨rfl, clearRemapclasses_cleared _⟩⟩
  rw [if_neg many, Traced.value_bind]
  have reads : (loadEntries buffer (buffer.size / 4) (buffer.word 0).toNat 1
      { manager.clearRemapclasses with
        allocationCount := 0
        remapclasses := List.replicate (buffer.word 0).toNat none }).value =
      loadedOf buffer manager := rfl
  rw [reads]
  by_cases complete : ((loadedOf buffer manager).1 &&
      (loadedOf buffer manager).2.remapclasses.all (·.isSome)) = true
  · simp only [Traced.value_pure, complete, if_true]
    constructor
    · intro accepts
      trivial
    · intro refuses
      rw [Bool.and_eq_true] at complete
      exact absurd ⟨by omega, by omega, by omega, by omega, complete⟩ refuses
  · simp only [Traced.value_pure, complete]
    constructor
    · intro accepts
      exact absurd (by rw [Bool.and_eq_true]; exact accepts.2.2.2.2) complete
    · intro refuses
      exact ⟨rfl, clearRemapclasses_cleared _⟩

variable {buffer manager}

theorem words_eq_cons (room : 2 ≤ buffer.size / 4) :
    buffer.words = buffer.word 0 :: buffer.words.drop 1 := by
  have head : buffer.words.drop 0 = buffer.word 0 :: buffer.words.drop (0 + 1) :=
    VectorBuffer.words_drop (by omega)
  rwa [List.drop_zero] at head

theorem accepts_format (accepts : Accepts buffer manager) :
    Format buffer.words ∧ Loaded (buffer.words.headD 0).toNat (loadedOf buffer manager).2 := by
  obtain ⟨whole, room, limited, few, accepted, complete⟩ := accepts
  have filling : Filling buffer (buffer.word 0).toNat 1 (startOf buffer manager)
      (loadedOf buffer manager).2 := loadEntries_filling accepted
  obtain ⟨entries, rest, split_eq, -, filled⟩ := filling.entries
  have head : buffer.words.headD 0 = buffer.word 0 := by
    rw [words_eq_cons room, List.headD_cons]
  have length : (loadedOf buffer manager).2.remapclasses.length = (buffer.word 0).toNat := by
    rw [filling.length, startOf, List.length_replicate]
  have nothing : ∀ i, ¬ Filled (startOf buffer manager).remapclasses i := by
    intro i ⟨remapclass, there⟩
    rw [startOf, List.getElem?_replicate] at there
    split at there <;> cases there
  have indexed : SlotsIndexed (loadedOf buffer manager).2.remapclasses :=
    filling.indexed fun i remapclass there => absurd ⟨remapclass, there⟩ (nothing i)
  rw [allSome_iff, length] at complete
  have covered : ∀ i < (buffer.word 0).toNat, ∃ entry ∈ entries, HasIndex entry i := by
    intro i inside
    rcases filled i (complete i inside) with before | found
    · exact absurd before (nothing i)
    · exact found
  constructor
  · constructor
    · rwa [VectorBuffer.words_length]
    · rwa [VectorBuffer.words_length]
    · rwa [head]
    · refine ⟨entries, rest, ?_, ?_⟩
      · rw [head, ← List.drop_one, split_eq]
      · rw [head]
        exact perm_of_covers (Framing.split_length split_eq) covered
  · rw [head]
    refine ⟨length, fun i inside => ?_⟩
    obtain ⟨remapclass, there⟩ := complete i inside
    exact ⟨remapclass, there, indexed i remapclass there⟩

theorem format_accepts (whole : buffer.size % 4 = 0) (format : Format buffer.words) :
    Accepts buffer manager := by
  have room := format.room
  have limited := format.limited
  rw [VectorBuffer.words_length] at room limited
  have head : buffer.words.headD 0 = buffer.word 0 := by
    rw [words_eq_cons room, List.headD_cons]
  have few := format.few
  obtain ⟨entries, rest, split_eq, perm⟩ := format.entries
  rw [head] at few split_eq perm
  rw [← List.drop_one] at split_eq
  obtain ⟨valid, covered⟩ := hasIndex_of_perm perm
  have length : (startOf buffer manager).remapclasses.length = (buffer.word 0).toNat := by
    rw [startOf, List.length_replicate]
  rw [← length] at valid
  obtain ⟨accepted, same, filled⟩ := loadEntries_accepts limited split_eq valid (Nat.zero_le 1)
  refine ⟨whole, room, limited, few, accepted, ?_⟩
  rw [allSome_iff]
  intro i inside
  rw [loadedOf, same, length] at inside
  exact filled i (.inr (covered i inside))

end

/-- The load accepts its format and nothing else. When it does, every slot has a class with
its own config index; when it does not, nothing that was loaded or half built is left. -/
theorem load_accepts_exactly (buffer : VectorBuffer) (manager : RemapClassManager) :
    let after := (loadRemapclassesInitializeVector buffer manager).value
    (after.1 = true ↔ buffer.size % 4 = 0 ∧ Format buffer.words) ∧
      (after.1 = true → Loaded (buffer.words.headD 0).toNat after.2) ∧
      (after.1 = false → Cleared after.2) := by
  obtain ⟨takes, refuses⟩ := load_value buffer manager
  dsimp only
  by_cases accepts : Accepts buffer manager
  · obtain ⟨format, loaded⟩ := accepts_format accepts
    rw [takes accepts]
    refine ⟨?_, fun _ => loaded, fun refused => by cases refused⟩
    exact ⟨fun _ => ⟨accepts.1, format⟩, fun _ => rfl⟩
  · obtain ⟨refused, cleared⟩ := refuses accepts
    rw [refused]
    refine ⟨?_, fun accepted => (by cases accepted), fun _ => cleared⟩
    constructor
    · intro accepted
      cases accepted
    · intro format
      exact absurd (format_accepts format.1 format.2) accepts

end RemapClassManager

end Karabiner
