import Karabiner.Framing
import Karabiner.LoadReads

set_option autoImplicit false

/- The load accepts a vector whose words after the first split into frames that each begin
with a config index. -/
namespace Karabiner

namespace RemapClassManager

open RemapClass (construct_manager)

def Filled (remapclasses : List (Option RemapClass)) (i : Nat) : Prop :=
  ∃ remapclass, remapclasses[i]? = some (some remapclass)

/-- The config index of the frame of a class; its body begins with it. -/
def HasIndex (body : List UInt32) (i : Nat) : Prop := ∃ index, body.head? = some index ∧
  index.toNat = i

theorem filled_set {remapclasses : List (Option RemapClass)} {configindex : Nat}
    (inside : configindex < remapclasses.length) (remapclass : RemapClass) (i : Nat) :
    Filled (remapclasses.set configindex (some remapclass)) i ↔
      configindex = i ∨ Filled remapclasses i := by
  unfold Filled
  by_cases same : configindex = i
  · subst same
    simp [inside]
  · simp [List.getElem?_set_ne same, same]

/-- The first frame of a split, at the position where the load stands. -/
theorem split_first {buffer : VectorBuffer} {remaining p : Nat} {bodies : List (List UInt32)}
    {rest : List UInt32}
    (frames : Framing.split UInt32.toNat (remaining + 1) (buffer.words.drop p) =
      some (bodies, rest))
    (indexed : ∀ body ∈ bodies, ∃ i, HasIndex body i) :
    ∃ body tail, bodies = body :: tail ∧ 0 < (buffer.word p).toNat ∧
      p + 1 + (buffer.word p).toNat ≤ buffer.size / 4 ∧
      HasIndex body (buffer.word (p + 1)).toNat ∧
      Framing.split UInt32.toNat remaining (buffer.words.drop (p + 1 + (buffer.word p).toNat)) =
        some (tail, rest) := by
  by_cases ended : p ≥ buffer.size / 4
  · rw [List.drop_eq_nil_of_le (by rwa [VectorBuffer.words_length])] at frames
    cases frames
  rw [VectorBuffer.words_drop (by omega), Framing.split] at frames
  split at frames
  case isFalse => cases frames
  rename_i long
  rw [List.length_drop, VectorBuffer.words_length] at long
  obtain ⟨⟨tail, left⟩, tail_eq, pair⟩ := Option.map_eq_some_iff.1 frames
  simp only [Prod.mk.injEq] at pair
  obtain ⟨bodies_eq, rfl⟩ := pair
  rw [List.drop_drop] at tail_eq
  obtain ⟨i, index, head, index_eq⟩ := indexed _ (bodies_eq ▸ List.mem_cons_self)
  have nonempty : 0 < (buffer.word p).toNat := by
    rcases Nat.eq_zero_or_pos (buffer.word p).toNat with zero | positive
    · rw [zero, List.take_zero] at head
      cases head
    · exact positive
  refine ⟨_, tail, bodies_eq.symm, nonempty, by omega, ⟨index, head, ?_⟩, tail_eq⟩
  rw [VectorBuffer.words_drop (by omega), List.take_cons nonempty] at head
  exact congrArg UInt32.toNat (Option.some.inj head).symm

theorem loadEntries_accepts {buffer : VectorBuffer}
    (limited : buffer.size / 4 ≤ MAX_ALLOCATION_COUNT) {remaining p : Nat}
    {manager : RemapClassManager} {bodies : List (List UInt32)} {rest : List UInt32}
    (frames : Framing.split UInt32.toNat remaining (buffer.words.drop p) = some (bodies, rest))
    (indexed : ∀ body ∈ bodies, ∃ i < manager.remapclasses.length, HasIndex body i)
    (allocated : manager.allocationCount ≤ p) :
    (loadEntries buffer (buffer.size / 4) remaining p manager).value.1 = true ∧
      (loadEntries buffer (buffer.size / 4) remaining p manager).value.2.remapclasses.length =
        manager.remapclasses.length ∧
      ∀ i, Filled manager.remapclasses i ∨ (∃ body ∈ bodies, HasIndex body i) →
        Filled (loadEntries buffer (buffer.size / 4) remaining p manager).value.2.remapclasses
          i := by
  induction remaining generalizing p manager bodies with
  | zero =>
      simp only [Framing.split, Option.some.injEq, Prod.mk.injEq] at frames
      simp [← frames.1, loadEntries]
  | succ remaining ih =>
      obtain ⟨body, tail, rfl, nonempty, long, index, tail_eq⟩ := split_first frames
        fun body member => (indexed body member).imp fun _ valid => valid.2
      obtain ⟨i, valid, index', head, value⟩ := indexed body List.mem_cons_self
      have invalid : ¬ (buffer.word (p + 1)).toNat ≥ manager.remapclasses.length := by
        obtain ⟨index, head', value'⟩ := index
        rw [head', Option.some.injEq] at head
        rw [← value', head, value]
        omega
      have allocatable : manager.allocationCount + ((buffer.word p).toNat - 1) ≤
          MAX_ALLOCATION_COUNT := by omega
      obtain ⟨classes, allocation⟩ := construct_manager buffer (p + 1 + 1)
        (buffer.word (p + 1)).toNat allocatable
      have finish : p + 1 + 1 + ((buffer.word p).toNat - 1) = p + 1 + (buffer.word p).toNat := by
        omega
      rw [loadEntries, if_neg (by omega), Traced.value_bind, VectorBuffer.readWord_value]
      dsimp only
      rw [if_neg (by omega), if_neg (by omega), Traced.value_bind, VectorBuffer.readWord_value]
      rw [if_neg invalid, Traced.value_bind, finish]
      generalize (RemapClass.construct buffer (p + 1 + 1) ((buffer.word p).toNat - 1)
        (buffer.word (p + 1)).toNat manager).value = built at classes allocation
      have slot : (buffer.word (p + 1)).toNat < built.2.remapclasses.length := by
        rw [classes]
        omega
      obtain ⟨accepted, length, filled⟩ := @ih (p + 1 + (buffer.word p).toNat)
        { built.2 with
          remapclasses := built.2.remapclasses.set (buffer.word (p + 1)).toNat (some built.1) }
        tail tail_eq
        (fun other member => by
          simpa [classes] using indexed other (List.mem_cons_of_mem _ member))
        (by dsimp only; omega)
      refine ⟨accepted, by simpa [classes] using length, fun i occupied => filled i ?_⟩
      rw [filled_set slot, classes]
      rcases occupied with before | ⟨other, member, otherIndex⟩
      · exact .inl (.inr before)
      · rcases List.mem_cons.1 member with rfl | member
        · obtain ⟨first, head', value'⟩ := index
          obtain ⟨second, head'', value''⟩ := otherIndex
          rw [head', Option.some.injEq] at head''
          exact .inl (.inl (by rw [← value', head'', value'']))
        · exact .inr ⟨other, member, otherIndex⟩

/-- A vector of frames whose config indices are below the count and cover it is loaded. -/
theorem load_accepts {buffer : VectorBuffer} {count : UInt32} {bodies : List (List UInt32)}
    (whole : buffer.size % 4 = 0) (words : buffer.words = count :: bodies.flatMap
      (Framing.frame UInt32.ofNat))
    (room : 2 ≤ buffer.words.length) (limited : buffer.words.length ≤ MAX_ALLOCATION_COUNT)
    (counted : count.toNat = bodies.length) (few : count.toNat ≤ MAX_CONFIG_COUNT)
    (indexed : ∀ body ∈ bodies, ∃ i < count.toNat, HasIndex body i)
    (covered : ∀ i < count.toNat, ∃ body ∈ bodies, HasIndex body i)
    (manager : RemapClassManager) :
    (loadRemapclassesInitializeVector buffer manager).value.1 = true := by
  rw [VectorBuffer.words_length] at room limited
  have faithful : ∀ body ∈ bodies, (UInt32.ofNat body.length).toNat = body.length := by
    intro body member
    have inside : (Framing.frame UInt32.ofNat body).length ≤ buffer.words.length := by
      rw [words, List.length_cons]
      exact Nat.le_succ_of_le (List.sublist_flatten_of_mem
        (List.mem_map_of_mem member)).length_le
    rw [Framing.frame_length, VectorBuffer.words_length] at inside
    simp only [MAX_ALLOCATION_COUNT] at limited
    rw [UInt32.toNat_ofNat']
    omega
  have first : buffer.word 0 = count := by
    have head : buffer.words.drop 0 = buffer.word 0 :: buffer.words.drop (0 + 1) :=
      VectorBuffer.words_drop (by omega)
    rw [List.drop_zero, words, List.cons.injEq] at head
    exact head.1.symm
  have frames : Framing.split UInt32.toNat count.toNat (buffer.words.drop 1) =
      some (bodies, []) := by
    have split := Framing.split_append faithful []
    rw [List.append_nil, ← counted] at split
    rwa [words, List.drop_succ_cons, List.drop_zero]
  obtain ⟨accepted, length, filled⟩ := @loadEntries_accepts buffer limited count.toNat 1
    { manager.clearRemapclasses with
      allocationCount := 0, remapclasses := List.replicate count.toNat none }
    bodies [] frames (by simpa using indexed) (Nat.zero_le _)
  dsimp only at accepted length filled
  rw [List.length_replicate] at length
  have many : ¬ count.toNat > MAX_CONFIG_COUNT := by omega
  rw [loadRemapclassesInitializeVector]
  dsimp only
  rw [if_neg (by omega), if_neg (by omega), if_neg (by omega), Traced.value_bind, loadVector,
    Traced.value_bind, VectorBuffer.readWord_value, first]
  dsimp only
  rw [if_neg many, Traced.value_bind]
  generalize (loadEntries buffer (buffer.size / 4) count.toNat 1 _).value = loaded
    at accepted length filled
  have complete : loaded.2.remapclasses.all (·.isSome) = true := by
    rw [List.all_eq_true]
    intro slot member
    obtain ⟨i, inside, rfl⟩ := List.mem_iff_getElem.1 member
    obtain ⟨remapclass, there⟩ := filled i (.inr (covered i (length ▸ inside)))
    rw [List.getElem?_eq_getElem inside, Option.some.injEq] at there
    rw [there, Option.isSome_some]
  simp only [Traced.value_pure, accepted, complete, Bool.and_self, if_true]

end RemapClassManager

end Karabiner
