import Karabiner.LoadReads
import Mathlib.Data.List.Nodup
import Mathlib.Data.List.Perm.Subperm

set_option autoImplicit false

/- The objects that a load constructs: which of them remapclasses_ keeps, and which are destroyed
with it. -/
namespace Karabiner

namespace RemapClass

/-- What an entry leaves: the address of the object, and what is alive. -/
structure KeepsObjects (identity : Nat) (before after : RemapClassManager) : Prop where
  remapclasses : after.remapclasses = before.remapclasses
  live : after.live = before.live
  nextIdentity : after.nextIdentity = before.nextIdentity
  vkConfig : ∀ config ∈ after.vkConfig, config ∈ before.vkConfig ∨
    config.remapclass = identity

theorem KeepsObjects.refl (identity : Nat) (manager : RemapClassManager) :
    KeepsObjects identity manager manager :=
  ⟨rfl, rfl, rfl, fun _ => Or.inl⟩

theorem KeepsObjects.trans {identity : Nat} {first second third : RemapClassManager}
    (left : KeepsObjects identity first second) (right : KeepsObjects identity second third) :
    KeepsObjects identity first third :=
  ⟨right.1.trans left.1, right.2.trans left.2, right.3.trans left.3, fun config member =>
    (right.4 config member).elim (left.4 config) Or.inr⟩

theorem addEntryOfType_keeps (buffer : VectorBuffer) (p size type : Nat)
    (remapclass : RemapClass) (manager : RemapClassManager) :
    let progress := (addEntryOfType buffer p size remapclass manager type).value
    progress.remapclass.identity = remapclass.identity ∧
      KeepsObjects remapclass.identity manager progress.manager := by
  have refl := KeepsObjects.refl remapclass.identity manager
  unfold addEntryOfType
  cases entryKind type with
  | item => exact ⟨rfl, refl⟩
  | filter => simp only [addFilter]; split <;> exact ⟨rfl, refl⟩
  | statusMessage => exact ⟨rfl, refl⟩
  | modifierName => simp only [addModifierName]; split <;>
      exact ⟨rfl, ⟨rfl, rfl, rfl, refl.4⟩⟩
  | vkModifier => simp only [addVkModifier]; split <;> exact ⟨rfl, ⟨rfl, rfl, rfl, refl.4⟩⟩
  | vkConfig =>
      simp only [addVkConfig]
      split
      · exact ⟨rfl, refl⟩
      · refine ⟨rfl, ⟨rfl, rfl, rfl, fun config member => ?_⟩⟩
        rcases List.mem_append.mp member with earlier | new
        · exact Or.inl earlier
        · exact Or.inr (List.mem_singleton.mp new ▸ rfl)
  | vkDefinedInUserspace _ =>
      simp only [addVkDefinedInUserspace]
      split <;> exact ⟨rfl, ⟨rfl, rfl, rfl, refl.4⟩⟩
  | unknown => exact ⟨rfl, refl⟩

theorem addEntries_keeps (buffer : VectorBuffer) (finish fuel p : Nat)
    (remapclass : RemapClass) (manager : RemapClassManager) :
    let result := (addEntries buffer finish fuel p remapclass manager).value
    result.1.identity = remapclass.identity ∧
      KeepsObjects remapclass.identity manager result.2 := by
  induction fuel generalizing p remapclass manager with
  | zero => exact ⟨rfl, .refl _ _⟩
  | succ fuel ih =>
      rw [addEntries]
      by_cases ended : p = finish
      · rw [if_pos ended]
        exact ⟨rfl, .refl _ _⟩
      by_cases beyond : p > finish
      · rw [if_neg ended, if_pos beyond]
        exact ⟨rfl, .refl _ _⟩
      rw [if_neg ended, if_neg beyond, Traced.value_bind]
      by_cases long : p + 1 + (buffer.readWord p).value.toNat > finish
      · rw [if_pos long]
        exact ⟨rfl, .refl _ _⟩
      rw [if_neg long]
      by_cases empty : (buffer.readWord p).value.toNat > 0
      · obtain ⟨identity, keeps⟩ := addEntryOfType_keeps buffer (p + 1)
          (buffer.readWord p).value.toNat (buffer.word (p + 1)).toNat remapclass manager
        rw [if_pos empty, Traced.value_bind, addEntry, Traced.value_bind,
          VectorBuffer.readWord_value]
        split
        · exact ⟨identity, keeps⟩
        · obtain ⟨later, rest⟩ := ih (p + 1 + (buffer.readWord p).value.toNat) _ _
          rw [identity] at later rest
          exact ⟨later, keeps.trans rest⟩
      · rw [if_neg empty]
        exact ih _ _ _

/-- The constructor makes one object at a new address. -/
theorem construct_keeps (buffer : VectorBuffer) (initializeVector vectorSize configindex : Nat)
    (manager : RemapClassManager) :
    let result := (construct buffer initializeVector vectorSize configindex manager).value
    result.1.identity = manager.nextIdentity ∧
      KeepsObjects manager.nextIdentity
        { manager with
          live := manager.live ++ [manager.nextIdentity]
          nextIdentity := manager.nextIdentity + 1 } result.2 := by
  rw [construct]
  dsimp only
  split
  · exact ⟨rfl, .refl _ _⟩
  · obtain ⟨identity, keeps⟩ :=
      addEntries_keeps buffer (initializeVector + vectorSize) vectorSize
      initializeVector { identity := manager.nextIdentity, configindex }
      { manager with
        live := manager.live ++ [manager.nextIdentity], nextIdentity := manager.nextIdentity + 1,
        allocationCount := manager.allocationCount + vectorSize }
    exact ⟨identity, ⟨keeps.1, keeps.2, keeps.3, keeps.4⟩⟩

end RemapClass

namespace RemapClassManager

/-- The config indices of the entries that the load constructs objects for. -/
def entryIndices (buffer : VectorBuffer) (vectorSize count : Nat) : Nat → Nat → List Nat
  | 0, _ => []
  | remaining + 1, p =>
      let size := (buffer.word p).toNat
      let configindex := (buffer.word (p + 1)).toNat
      if p ≥ vectorSize ∨ p + 1 + size > vectorSize ∨ size = 0 then []
      else if configindex ≥ count then []
      else configindex :: entryIndices buffer vectorSize count remaining (p + 1 + size)

/-- The same for the whole vector. -/
def configIndices (buffer : VectorBuffer) : List Nat :=
  let vectorSize := buffer.size / 4
  let count := (buffer.word 0).toNat
  if buffer.size % 4 ≠ 0 ∨ vectorSize < 2 ∨ vectorSize > MAX_ALLOCATION_COUNT ∨
      count > MAX_CONFIG_COUNT then []
  else entryIndices buffer vectorSize count count 1

/-- Every object constructed by the load is in remapclasses_ or destroyed, and every registration
of VK_CONFIG is of an object in remapclasses_. -/
def NoLeak (before after : RemapClassManager) : Prop :=
  (∀ identity, before.nextIdentity ≤ identity → identity < after.nextIdentity →
      (∃ remapclass, some remapclass ∈ after.remapclasses ∧
        remapclass.identity = identity) ∨
        identity ∉ after.live) ∧
    ∀ config ∈ after.vkConfig,
      ∃ remapclass, some remapclass ∈ after.remapclasses ∧
        remapclass.identity = config.remapclass

/-- The objects of entries, each at its index. -/
def place (remapclasses : List (Option RemapClass)) (entries : List (Nat × RemapClass)) :
    List (Option RemapClass) :=
  entries.foldl (fun remapclasses entry => remapclasses.set entry.1 (some entry.2)) remapclasses

def identities (entries : List (Nat × RemapClass)) : List Nat := entries.map (·.2.identity)

/-- What the load of entries does. -/
structure Places (before after : RemapClassManager) (entries : List (Nat × RemapClass)) :
    Prop where
  remapclasses : after.remapclasses = place before.remapclasses entries
  live : after.live = before.live ++ identities entries
  new : identities entries = List.range' before.nextIdentity entries.length
  nextIdentity : after.nextIdentity = before.nextIdentity + entries.length
  vkConfig : ∀ config ∈ after.vkConfig,
    config ∈ before.vkConfig ∨ config.remapclass ∈ identities entries

theorem Places.refl (manager : RemapClassManager) : Places manager manager [] :=
  ⟨rfl, (List.append_nil _).symm, rfl, rfl, fun _ => Or.inl⟩

/-- The load of one entry before the others. -/
theorem Places.cons {before after : RemapClassManager} {entries : List (Nat × RemapClass)}
    {configindex : Nat} {newp : RemapClass} {constructed : RemapClassManager}
    (identity : newp.identity = before.nextIdentity)
    (keeps : RemapClass.KeepsObjects before.nextIdentity
      { before with
        live := before.live ++ [before.nextIdentity]
        nextIdentity := before.nextIdentity + 1 } constructed)
    (rest : Places
      { constructed with remapclasses := constructed.remapclasses.set configindex (some newp) }
      after entries) :
    Places before after ((configindex, newp) :: entries) := by
  have next : constructed.nextIdentity = before.nextIdentity + 1 := keeps.nextIdentity
  constructor
  · rw [rest.remapclasses, keeps.remapclasses]
    rfl
  · rw [rest.live]
    show constructed.live ++ _ = _
    rw [keeps.live]
    simp [identities, identity]
  · have new := rest.new
    rw [show (_ : RemapClassManager).nextIdentity = _ from next] at new
    simp only [identities, List.map_cons, List.length_cons, List.range'_succ] at new ⊢
    rw [identity, new]
  · rw [rest.nextIdentity]
    show constructed.nextIdentity + _ = _
    rw [next, List.length_cons]
    omega
  · intro config member
    rcases rest.vkConfig config member with earlier | later
    · rcases keeps.vkConfig config earlier with before | own
      · exact Or.inl before
      · exact Or.inr (by simp [identities, identity, own])
    · exact Or.inr (List.mem_cons_of_mem _ later)

theorem loadEntries_places (buffer : VectorBuffer) (vectorSize remaining p : Nat)
    (manager : RemapClassManager) :
    let result := (loadEntries buffer vectorSize remaining p manager).value
    ∃ entries : List (Nat × RemapClass),
      entries.map (·.1) =
          entryIndices buffer vectorSize manager.remapclasses.length remaining p ∧
        Places manager result.2 entries ∧ (result.1 = true → entries.length = remaining) := by
  induction remaining generalizing p manager with
  | zero => exact ⟨[], rfl, .refl _, fun _ => rfl⟩
  | succ remaining ih =>
      have stops (result : VectorBuffer.Decode (Bool × RemapClassManager))
          (same : result.value = (false, manager)) :
          ∃ entries : List (Nat × RemapClass), entries.map (·.1) = [] ∧
            Places manager result.value.2 entries ∧
              (result.value.1 = true → entries.length = remaining + 1) := by
        rw [same]
        exact ⟨[], rfl, .refl _, fun loaded => absurd loaded Bool.false_ne_true⟩
      rw [loadEntries, entryIndices]
      dsimp only
      by_cases ended : p ≥ vectorSize
      · rw [if_pos ended, if_pos (.inl ended)]
        exact stops _ rfl
      rw [if_neg ended, Traced.value_bind, VectorBuffer.readWord_value]
      generalize sizeEq : (buffer.word p).toNat = size
      by_cases long : p + 1 + size > vectorSize
      · rw [if_pos long, if_pos (.inr (.inl long))]
        exact stops _ rfl
      by_cases empty : size = 0
      · rw [if_neg long, if_pos empty, if_pos (.inr (.inr empty))]
        exact stops _ rfl
      rw [if_neg long, if_neg empty, if_neg (by omega), Traced.value_bind,
        VectorBuffer.readWord_value]
      by_cases invalid : (buffer.word (p + 1)).toNat ≥ manager.remapclasses.length
      · rw [if_pos invalid, if_pos invalid]
        exact stops _ rfl
      rw [if_neg invalid, if_neg invalid, Traced.value_bind]
      have finish : p + 1 + 1 + (size - 1) = p + 1 + size := by omega
      obtain ⟨identity, keeps⟩ := RemapClass.construct_keeps buffer (p + 1 + 1) (size - 1)
        (buffer.word (p + 1)).toNat manager
      generalize (RemapClass.construct buffer (p + 1 + 1) (size - 1) (buffer.word (p + 1)).toNat
        manager).value = constructed at identity keeps ⊢
      obtain ⟨entries, indices, places, complete⟩ := ih (p + 1 + size)
        { constructed.2 with
          remapclasses :=
            constructed.2.remapclasses.set (buffer.word (p + 1)).toNat (some constructed.1) }
      have count : (constructed.2.remapclasses.set (buffer.word (p + 1)).toNat
          (some constructed.1)).length = manager.remapclasses.length := by
        rw [List.length_set, keeps.remapclasses]
      rw [count] at indices
      rw [finish]
      refine ⟨((buffer.word (p + 1)).toNat, constructed.1) :: entries, ?_,
        places.cons identity keeps, fun loaded => ?_⟩
      · rw [List.map_cons, indices]
      · rw [List.length_cons, complete loaded]

section
variable {remapclasses : List (Option RemapClass)} {entries : List (Nat × RemapClass)}

@[simp] theorem length_place :
    (place remapclasses entries).length = remapclasses.length := by
  induction entries generalizing remapclasses with
  | nil => rfl
  | cons entry rest ih => exact ih.trans List.length_set

theorem place_other {k : Nat} (apart : k ∉ entries.map (·.1)) :
    (place remapclasses entries)[k]? = remapclasses[k]? := by
  induction entries generalizing remapclasses with
  | nil => rfl
  | cons entry rest ih =>
      have here : k ≠ entry.1 := fun same => apart (same ▸ List.mem_cons_self)
      have later : k ∉ rest.map (·.1) := fun among => apart (List.mem_cons_of_mem _ among)
      exact (ih later).trans (List.getElem?_set_ne here.symm)

/-- An object is nowhere but at its index. -/
theorem mem_of_place {k : Nat} {remapclass : RemapClass}
    (found : (place remapclasses entries)[k]? = some (some remapclass)) :
    (k, remapclass) ∈ entries ∨ remapclasses[k]? = some (some remapclass) := by
  induction entries generalizing remapclasses with
  | nil => exact Or.inr found
  | cons entry rest ih =>
      rcases @ih (remapclasses.set entry.1 (some entry.2)) found with later | here
      · exact Or.inl (List.mem_cons_of_mem _ later)
      · by_cases own : entry.1 = k
        · subst own
          by_cases inside : entry.1 < remapclasses.length
          · rw [List.getElem?_set_self inside] at here
            obtain rfl := Option.some.inj (Option.some.inj here)
            exact Or.inl List.mem_cons_self
          · rw [List.getElem?_eq_none (by simpa using inside)] at here
            cases here
        · rw [List.getElem?_set_ne own] at here
          exact Or.inr here

theorem place_get (distinct : (entries.map (·.1)).Nodup)
    (inside : ∀ entry ∈ entries, entry.1 < remapclasses.length) :
    ∀ entry ∈ entries, (place remapclasses entries)[entry.1]? = some (some entry.2) := by
  induction entries generalizing remapclasses with
  | nil => exact fun _ member => absurd member List.not_mem_nil
  | cons first rest ih =>
      obtain ⟨apart, others⟩ := List.nodup_cons.mp distinct
      intro entry member
      rcases List.mem_cons.mp member with rfl | later
      · refine (place_other apart).trans ?_
        exact List.getElem?_set_self (inside entry List.mem_cons_self)
      · refine ih others (fun other among => ?_) entry later
        rw [List.length_set]
        exact inside other (List.mem_cons_of_mem _ among)

/-- Behind the entries all objects are in the list. -/
def AllKept (count : Nat) (entries : List (Nat × RemapClass)) : Prop :=
  ∀ entry ∈ entries, ∃ remapclass,
    some remapclass ∈ place (List.replicate count none) entries ∧
    remapclass.identity = entry.2.identity

theorem entry_of_placed {count : Nat} {remapclass : RemapClass}
    (kept : some remapclass ∈ place (List.replicate count none) entries) :
    ∃ k, k < count ∧
      (place (List.replicate count none) entries)[k]? = some (some remapclass) ∧
      (k, remapclass) ∈ entries := by
  obtain ⟨k, inside, at'⟩ := List.getElem_of_mem kept
  have found := List.getElem?_eq_some_iff.mpr ⟨inside, at'⟩
  rw [length_place, List.length_replicate] at inside
  refine ⟨k, inside, found, (mem_of_place found).resolve_right fun before => ?_⟩
  simp [inside] at before

/-- An object is lost exactly where another entry has its index. -/
theorem allKept_iff {count : Nat} (inside : ∀ entry ∈ entries, entry.1 < count)
    (distinct : (identities entries).Nodup) :
    AllKept count entries ↔ (entries.map (·.1)).Nodup := by
  have byIdentity : ∀ left ∈ entries, ∀ right ∈ entries,
      left.2.identity = right.2.identity → left = right :=
    fun left leftIn right rightIn same => List.inj_on_of_nodup_map distinct leftIn rightIn same
  constructor
  · intro kept
    have found : ∀ entry ∈ entries,
        (place (List.replicate count none) entries)[entry.1]? = some (some entry.2) := by
      intro entry member
      obtain ⟨remapclass, placed, same⟩ := kept entry member
      obtain ⟨k, -, at', entryIn⟩ := entry_of_placed placed
      obtain rfl := byIdentity (k, remapclass) entryIn entry member same
      exact at'
    refine List.Nodup.map_on (fun left leftIn right rightIn same => ?_)
      (List.Nodup.of_map _ distinct)
    have leftAt := found left leftIn
    rw [same, found right rightIn] at leftAt
    have object := Option.some.inj (Option.some.inj leftAt)
    exact byIdentity left leftIn right rightIn (by rw [object])
  · intro nodup entry member
    have placed := @place_get (List.replicate count none) entries nodup
      (by simpa using inside) entry member
    exact ⟨entry.2, List.mem_of_getElem? placed, rfl⟩

/-- As many entries as indices, and an object for each. -/
theorem nodup_of_full {count : Nat} (complete : entries.length = count)
    (full : (place (List.replicate count none) entries).all (·.isSome) = true) :
    (entries.map (·.1)).Nodup := by
  have covers : List.range count ⊆ entries.map (·.1) := by
    intro k member
    have inside := List.mem_range.mp member
    have bound : k < (place (List.replicate count none) entries).length := by simpa using inside
    obtain ⟨remapclass, at'⟩ := Option.isSome_iff_exists.mp
      (List.all_eq_true.mp full _ (List.getElem_mem bound))
    have found := List.getElem?_eq_some_iff.mpr ⟨bound, at'⟩
    rcases mem_of_place found with entryIn | before
    · exact List.mem_map_of_mem entryIn
    · simp [inside] at before
  have sub := List.subperm_of_subset List.nodup_range covers
  have perm := sub.perm_of_length_le (by simp [complete])
  exact perm.nodup_iff.mp List.nodup_range

end

theorem entryIndices_lt (buffer : VectorBuffer) (vectorSize count remaining p : Nat) :
    ∀ index ∈ entryIndices buffer vectorSize count remaining p, index < count := by
  induction remaining generalizing p with
  | zero => exact fun _ member => absurd member List.not_mem_nil
  | succ remaining ih =>
      intro index member
      rw [entryIndices] at member
      split at member
      · cases member
      · split at member
        · cases member
        · next valid =>
            rcases List.mem_cons.mp member with rfl | later
            · omega
            · exact ih _ index later

/-- Without a new object there is nothing to lose. -/
theorem noLeak_of_nothing {before after : RemapClassManager}
    (same : after.nextIdentity = before.nextIdentity) (none : after.vkConfig = []) :
    NoLeak before after := by
  refine ⟨fun identity lower upper => ?_, fun config member => ?_⟩
  · omega
  · simp [none] at member

section
variable {before loaded : RemapClassManager} {entries : List (Nat × RemapClass)} {count : Nat}
  (places : Places before loaded entries)
  (empty : before.remapclasses = List.replicate count none)
include places

theorem mem_identities {identity : Nat} :
    identity ∈ identities entries ↔
      before.nextIdentity ≤ identity ∧ identity < loaded.nextIdentity := by
  rw [places.new, places.nextIdentity, List.mem_range'_1]

include empty

/-- A load that succeeds keeps all. -/
theorem noLeak_of_allKept (registered : before.vkConfig = []) (kept : AllKept count entries) :
    NoLeak before loaded := by
  have holds : ∀ identity ∈ identities entries,
      ∃ remapclass, some remapclass ∈ loaded.remapclasses ∧
        remapclass.identity = identity := by
    intro identity member
    obtain ⟨entry, inside, rfl⟩ := List.mem_map.mp member
    rw [places.remapclasses, empty]
    exact kept entry inside
  refine ⟨fun identity lower upper => Or.inl ?_, fun config member => ?_⟩
  · exact holds identity ((mem_identities places).mpr ⟨lower, upper⟩)
  · rcases places.vkConfig config member with earlier | new
    · simp [registered] at earlier
    · exact holds _ new

/-- A load that fails destroys what remapclasses_ holds, and nothing else. -/
theorem noLeak_clear_iff :
    NoLeak before loaded.clearRemapclasses ↔ AllKept count entries := by
  have destroyed (identity : Nat) (member : identity ∈ identities entries) :
      identity ∉ loaded.clearRemapclasses.live ↔
        ∃ remapclass, some remapclass ∈ place (List.replicate count none) entries ∧
          remapclass.identity = identity := by
    have alive : identity ∈ loaded.live := by
      rw [places.live]
      exact List.mem_append_right _ member
    simp [clearRemapclasses, alive, places.remapclasses, empty]
  constructor
  · rintro ⟨objects, -⟩ entry member
    have new : entry.2.identity ∈ identities entries := List.mem_map_of_mem member
    obtain ⟨lower, upper⟩ := (mem_identities places).mp new
    rcases objects _ lower upper with ⟨remapclass, none, -⟩ | gone
    · cases none
    · exact (destroyed _ new).mp gone
  · intro kept
    refine ⟨fun identity lower upper => Or.inr ?_, fun config member => by cases member⟩
    have new := (mem_identities places).mpr ⟨lower, upper⟩
    obtain ⟨entry, inside, rfl⟩ := List.mem_map.mp new
    exact (destroyed _ new).mpr (kept entry inside)

end

/-- A load loses an object exactly where two of the entries that it comes to have one config
index. -/
theorem noLeak_iff (buffer : VectorBuffer) (manager : RemapClassManager) :
    NoLeak manager (loadRemapclassesInitializeVector buffer manager).value.2 ↔
      (configIndices buffer).Nodup := by
  have nothing (none : configIndices buffer = [])
      (same : (loadRemapclassesInitializeVector buffer manager).value.2 =
        manager.clearRemapclasses.clearRemapclasses) :
      NoLeak manager (loadRemapclassesInitializeVector buffer manager).value.2 ↔
        (configIndices buffer).Nodup := by
    rw [same, none]
    exact iff_of_true (noLeak_of_nothing rfl rfl) List.nodup_nil
  by_cases ragged : buffer.size % 4 ≠ 0
  · exact nothing (if_pos (.inl ragged)) (by simp [loadRemapclassesInitializeVector, ragged])
  by_cases short : buffer.size / 4 < 2
  · exact nothing (if_pos (.inr (.inl short)))
      (by simp [loadRemapclassesInitializeVector, ragged, short])
  by_cases large : buffer.size / 4 > MAX_ALLOCATION_COUNT
  · exact nothing (if_pos (.inr (.inr (.inl large))))
      (by simp [loadRemapclassesInitializeVector, ragged, short, large])
  by_cases many : (buffer.word 0).toNat > MAX_CONFIG_COUNT
  · exact nothing (if_pos (.inr (.inr (.inr many))))
      (by simp [loadRemapclassesInitializeVector, loadVector, ragged, short, large, many])
  have walked : configIndices buffer =
      entryIndices buffer (buffer.size / 4) (buffer.word 0).toNat (buffer.word 0).toNat 1 :=
    if_neg (by tauto)
  let empty : RemapClassManager :=
    { manager.clearRemapclasses with
      allocationCount := 0, remapclasses := List.replicate (buffer.word 0).toNat none }
  obtain ⟨entries, indices, places, complete⟩ :=
    loadEntries_places buffer (buffer.size / 4) (buffer.word 0).toNat 1 empty
  have value : (loadRemapclassesInitializeVector buffer manager).value.2 =
      let loaded := (loadEntries buffer (buffer.size / 4) (buffer.word 0).toNat 1 empty).value
      if loaded.1 && loaded.2.remapclasses.all (·.isSome) then loaded.2
      else loaded.2.clearRemapclasses := by
    have loaded : (loadVector buffer (buffer.size / 4) manager.clearRemapclasses).value =
        let loaded := (loadEntries buffer (buffer.size / 4) (buffer.word 0).toNat 1 empty).value
        (loaded.1 && loaded.2.remapclasses.all (·.isSome), loaded.2) := by
      rw [loadVector, Traced.value_bind, VectorBuffer.readWord_value]
      dsimp only
      rw [if_neg many]
      rfl
    rw [loadRemapclassesInitializeVector]
    dsimp only
    rw [if_neg ragged, if_neg short, if_neg large, Traced.value_bind, loaded]
    dsimp only
    split <;> rfl
  generalize (loadEntries buffer (buffer.size / 4) (buffer.word 0).toNat 1 empty).value = result
    at places complete value
  have count : empty.remapclasses.length = (buffer.word 0).toNat := List.length_replicate
  rw [count] at indices
  have inside : ∀ entry ∈ entries, entry.1 < (buffer.word 0).toNat := by
    intro entry member
    apply entryIndices_lt buffer (buffer.size / 4) _ (buffer.word 0).toNat 1
    rw [← indices]
    exact List.mem_map_of_mem member
  have distinct : (identities entries).Nodup := by
    rw [places.new]
    exact List.nodup_range'
  have kept := allKept_iff inside distinct
  rw [value, walked, ← indices]
  dsimp only
  by_cases all : (result.1 && result.2.remapclasses.all (·.isSome)) = true
  · rw [if_pos all]
    obtain ⟨loaded, full⟩ := Bool.and_eq_true_iff.mp all
    rw [places.remapclasses] at full
    have nodup := nodup_of_full (complete loaded) full
    have holds : NoLeak empty result.2 :=
      noLeak_of_allKept places rfl rfl (kept.mpr nodup)
    exact iff_of_true holds nodup
  · rw [if_neg all, ← kept]
    have holds : NoLeak empty result.2.clearRemapclasses ↔
        AllKept (buffer.word 0).toNat entries := noLeak_clear_iff places rfl
    exact holds

/-- Two entries for the index 0, none for the index 1. -/
def twice : VectorBuffer :=
  ⟨[2, 0, 0, 0, 1, 0, 0, 0, 0, 0, 0, 0, 1, 0, 0, 0, 0, 0, 0, 0]⟩

/-- The second object takes the place of the first, and only the second is destroyed when the load
fails. -/
theorem not_noLeak_twice :
    ¬∀ (buffer : VectorBuffer) (manager : RemapClassManager),
      NoLeak manager (loadRemapclassesInitializeVector buffer manager).value.2 := by
  intro claim
  obtain ⟨objects, -⟩ := claim twice {}
  rcases objects 0 (Nat.le_refl _) (by decide +kernel) with ⟨remapclass, kept, -⟩ | destroyed
  · have none : (loadRemapclassesInitializeVector twice {}).value.2.remapclasses = [] := by
      decide +kernel
    rw [none] at kept
    cases kept
  · exact destroyed (by decide +kernel)

end RemapClassManager

end Karabiner
