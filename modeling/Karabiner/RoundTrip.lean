import Karabiner.InitializeVector
import Karabiner.LoadAccepts
import Mathlib.Data.List.Perm.Basic
import Mathlib.Data.List.Range
import Mathlib.Data.List.Nodup

set_option autoImplicit false

/- From the calls of the loaders in the compiler to the load in the kernel extension. -/
namespace Karabiner

open InitializeVector (Call Permitted)
open RemapClassManager (HasIndex loadRemapclassesInitializeVector)

/-- After the loop of freeze the config indices are 0..max, each once. -/
theorem Entries.added_perm {vector : InitializeVector} {entries filled : Entries}
    (holds : vector.Holds entries) (nonempty : entries.completed ≠ [])
    (distinct : filled.added.Nodup)
    (members : ∀ index, index ∈ filled.added ↔ index ∈ entries.added ∨
      ∃ i ∈ List.range vector.maxConfigIndex.toNat, index = UInt32.ofNat i) :
    (filled.added.map UInt32.toNat).Perm (List.range (vector.maxConfigIndex.toNat + 1)) := by
  have bound := vector.maxConfigIndex.toNat_lt
  rw [List.perm_ext_iff_of_nodup (List.Nodup.map (fun _ _ => UInt32.toNat_inj.1) distinct)
    List.nodup_range]
  intro i
  rw [List.mem_range, List.mem_map]
  constructor
  · rintro ⟨index, member, rfl⟩
    rcases (members index).1 member with old | ⟨j, inside, rfl⟩
    · exact Nat.lt_succ_of_le (UInt32.le_iff_toNat_le.1 (holds.maximal index old))
    · rw [List.mem_range] at inside
      rw [UInt32.toNat_ofNat']
      omega
  · intro inside
    rcases Nat.lt_succ_iff_lt_or_eq.1 inside with below | last
    · refine ⟨UInt32.ofNat i, (members _).2 (.inr ⟨i, List.mem_range.2 below, rfl⟩), ?_⟩
      rw [UInt32.toNat_ofNat']
      omega
    · refine ⟨vector.maxConfigIndex, (members _).2 (.inl ?_), last.symm⟩
      rcases holds.attained with attained | ⟨none, _⟩
      · exact attained
      · exact absurd (List.map_eq_nil_iff.1 none) nonempty

/-- The load accepts the words of entries whose config indices are an initial segment. -/
theorem Entries.words_accepted {entries : List (UInt32 × List UInt32)}
    (nonempty : entries ≠ [])
    (indices : (entries.map fun entry => entry.1.toNat).Perm (List.range entries.length))
    (few : entries.length ≤ MAX_CONFIG_COUNT) {words : List UInt32}
    (words_eq : words = UInt32.ofNat entries.length :: entries.flatMap frame)
    (limited : words.length ≤ MAX_ALLOCATION_COUNT) (manager : RemapClassManager) :
    (loadRemapclassesInitializeVector (.ofWords words) manager).value.1 = true := by
  have size : (VectorBuffer.ofWords words).size = 4 * words.length := VectorBuffer.ofWords_size _
  have counted : (UInt32.ofNat entries.length).toNat = entries.length := by
    simp only [MAX_CONFIG_COUNT] at few
    rw [UInt32.toNat_ofNat']
    omega
  have index {i : Nat} : i < entries.length ↔
      ∃ body ∈ entries.map fun entry => entry.1 :: entry.2, HasIndex body i := by
    rw [← List.mem_range, ← indices.mem_iff, List.mem_map]
    simp [HasIndex]
  have frames : (entries.map fun entry => entry.1 :: entry.2).flatMap
      (Framing.frame UInt32.ofNat) = entries.flatMap frame := by
    rw [List.flatMap_map]
    rfl
  refine @RemapClassManager.load_accepts (.ofWords words) (UInt32.ofNat entries.length)
    (entries.map fun entry => entry.1 :: entry.2) ?_ ?_ ?_ ?_ ?_ ?_ ?_ ?_ manager
  · omega
  · rw [VectorBuffer.ofWords_words, words_eq, frames]
  · rw [VectorBuffer.ofWords_words, words_eq]
    obtain ⟨entry, rest, rfl⟩ := List.exists_cons_of_ne_nil nonempty
    simp
  · rwa [VectorBuffer.ofWords_words]
  · rw [counted, List.length_map]
  · rwa [counted]
  · intro body member
    obtain ⟨entry, inside, rfl⟩ := List.mem_map.1 member
    refine ⟨entry.1.toNat, ?_, entry.1, rfl, rfl⟩
    rw [counted, ← List.mem_range, ← indices.mem_iff]
    exact List.mem_map_of_mem (f := fun entry : UInt32 × List UInt32 => entry.1.toNat) inside
  · intro i inside
    exact index.1 (counted ▸ inside)

/-- Whatever the loaders call, freezing gives a vector that consists of the completed
entries as they were built and of empty ones for the indices in between, and that the load
of the kernel extension accepts. -/
theorem freeze_round_trip (calls : List Call)
    (permitted : Transition.Along InitializeVector.perform Permitted .cleared calls)
    (some_completed : (Transition.run Entries.perform {} calls).completed ≠ []) :
    ∃ frozen, ∃ gaps : List UInt32,
      (Transition.run InitializeVector.perform .cleared calls).freeze = .ok frozen ∧
      let entries := (Transition.run Entries.perform {} calls).completed ++ gaps.map (·, [])
      frozen.data = UInt32.ofNat entries.length :: entries.flatMap Entries.frame ∧
      (entries.map fun entry => entry.1.toNat).Perm (List.range entries.length) ∧
      (entries.length ≤ MAX_CONFIG_COUNT → frozen.data.length ≤ MAX_ALLOCATION_COUNT →
        (UInt32.ofNat entries.length).toNat = entries.length ∧
        ∀ manager,
          (loadRemapclassesInitializeVector (.ofWords frozen.data) manager).value.1) := by
  have holds := InitializeVector.run_holds InitializeVector.cleared_holds permitted
  have clean := InitializeVector.cleanup_holds holds
  generalize Transition.run InitializeVector.perform .cleared calls = vector at holds clean ⊢
  generalize Transition.run Entries.perform {} calls = built at holds clean some_completed ⊢
  obtain ⟨filled, fill_eq, fills⟩ := InitializeVector.foldlM_fillGap_holds clean rfl
    (List.range vector.cleanup.maxConfigIndex.toNat)
  obtain ⟨⟨gaps, completed⟩, members⟩ := Entries.foldl_fill { built with current := none }
    (List.range vector.cleanup.maxConfigIndex.toNat)
  have perm := Entries.added_perm clean some_completed fills.distinct members
  rw [completed] at fills perm
  have length := perm.length_eq
  simp only [Entries.added, List.length_map, List.length_range, List.map_map] at length perm
  rw [← length] at perm
  refine ⟨{ filled with freezed := true }, gaps, ?_, ?_, perm, fun few limited => ⟨?_, ?_⟩⟩
  · simp [InitializeVector.freeze, fill_eq]
  · rw [fills.data, Entries.words]
    simp
  · simp only [MAX_CONFIG_COUNT] at few
    rw [UInt32.toNat_ofNat']
    omega
  · refine Entries.words_accepted ?_ perm few ?_ limited
    · simp [some_completed]
    · rw [fills.data, Entries.words]
      simp

/-- An entry of index 2 is built in the middle and completed, one of index 0 is abandoned. -/
def abandonedCalls : List Call :=
  [.start 2 "b", .pushBack 7, .insert 3 5, .update 4 9, .pushString [104, 105], .finishEntry,
    .start 0 "a", .pushBack 1]

theorem freeze_round_trip_abandoned :
    ∃ frozen, ∃ gaps : List UInt32,
      (Transition.run InitializeVector.perform .cleared abandonedCalls).freeze = .ok frozen ∧
      frozen.data = UInt32.ofNat (gaps.length + 1) ::
        ([4, 2, 5, 9, 26984] ++ (gaps.map (·, [])).flatMap Entries.frame) := by
  obtain ⟨frozen, gaps, frozen_eq, data, -, -⟩ := freeze_round_trip abandonedCalls
    (by decide) (by decide)
  have completed : (Transition.run Entries.perform {} abandonedCalls).completed =
      [(2, [5, 9, 26984])] := by decide
  refine ⟨frozen, gaps, frozen_eq, ?_⟩
  rw [data, completed]
  simp [Nat.add_comm]

end Karabiner
