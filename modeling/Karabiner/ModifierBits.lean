import Karabiner.KeyCode
import Mathlib.Tactic.Common

set_option autoImplicit false

/- Flags as a union of raw bits. The left and the right modifier of a kind share a bit, but
each modifier has one bit of its own. -/
namespace Karabiner

namespace Flags

/-- The constructor from a Vector_ModifierFlag. -/
def ofModifierFlags (modifierFlags : List ModifierFlag) : Flags :=
  ⟨modifierFlags.foldl (fun value flag => value ||| flag.getRawBits) 0⟩

/-- The bits of the other modifiers are restored from the old value. -/
def remove (pairs : Pairs) (flags : Flags) (flag : ModifierFlag) : Flags :=
  let old := flags
  ⟨pairs.foldl
    (fun value pair =>
      let f := pair.modifierFlag
      if f = flag then value
      else if !old.isOn f then value
      else value ||| f.getRawBits)
    (flags.value &&& ~~~flag.getRawBits)⟩

def stripNUMPAD (pairs : Pairs) (flags : Flags) : Flags := flags.remove pairs ModifierFlag.NUMPAD

end Flags

namespace ModifierFlag

/-- The modifiers that have raw bits. -/
def withRawBits : List ModifierFlag :=
  [CAPSLOCK, SHIFT_L, SHIFT_R, CONTROL_L, CONTROL_R, OPTION_L, OPTION_R, COMMAND_L, COMMAND_R,
    NUMPAD, FN]

/-- The bit that no other modifier has. -/
def ownBit (flag : ModifierFlag) : Nat :=
  if flag = CAPSLOCK then 16
  else if flag = SHIFT_L then 1
  else if flag = SHIFT_R then 2
  else if flag = CONTROL_L then 0
  else if flag = CONTROL_R then 13
  else if flag = OPTION_L then 5
  else if flag = OPTION_R then 6
  else if flag = COMMAND_L then 3
  else if flag = COMMAND_R then 4
  else if flag = NUMPAD then 21
  else 23

theorem getRawBits_eq_zero {flag : ModifierFlag} (virtual : flag ∉ withRawBits) :
    flag.getRawBits = 0 := by
  simp only [withRawBits, List.mem_cons, List.not_mem_nil, or_false, not_or] at virtual
  simp [getRawBits, virtual]

theorem mem_withRawBits {flag : ModifierFlag} (raw : flag.getRawBits ≠ 0) :
    flag ∈ withRawBits := by
  by_contra virtual
  exact raw (getRawBits_eq_zero virtual)

theorem getRawBits_ownBit {flag : ModifierFlag} (raw : flag.getRawBits ≠ 0)
    (other : ModifierFlag) :
    other.getRawBits.getLsbD flag.ownBit = decide (other = flag) := by
  have each : ∀ flag ∈ withRawBits, ∀ other ∈ withRawBits,
      other.getRawBits.getLsbD flag.ownBit = decide (other = flag) := by decide
  have known := mem_withRawBits raw
  by_cases virtual : other ∈ withRawBits
  · exact each flag known other virtual
  · have different : other ≠ flag := by
      intro same
      exact virtual (same ▸ known)
    simp [getRawBits_eq_zero virtual, different]

/-- NUMPAD shares no bit with another modifier. -/
theorem getRawBits_and_numpad {flag : ModifierFlag} (other : flag ≠ NUMPAD) (i : Nat)
    (numpad : NUMPAD.getRawBits.getLsbD i = true) : flag.getRawBits.getLsbD i = false := by
  have apart : ∀ flag ∈ withRawBits, flag ≠ NUMPAD →
      flag.getRawBits &&& NUMPAD.getRawBits = 0 := by decide
  by_cases virtual : flag ∈ withRawBits
  · have bit := congrArg (BitVec.getLsbD · i) (apart flag virtual other)
    simpa [BitVec.getLsbD_and, numpad] using bit
  · simp [getRawBits_eq_zero virtual]

end ModifierFlag

namespace Flags

open ModifierFlag (getRawBits_ownBit)

theorem getLsbD_ofModifierFlags (modifierFlags : List ModifierFlag) (i : Nat) :
    (ofModifierFlags modifierFlags).value.getLsbD i =
      modifierFlags.any fun flag => flag.getRawBits.getLsbD i := by
  have step : ∀ value : BitVec 32,
      (modifierFlags.foldl (fun value flag => value ||| flag.getRawBits) value).getLsbD i =
        (value.getLsbD i || modifierFlags.any fun flag => flag.getRawBits.getLsbD i) := by
    induction modifierFlags with
    | nil => simp
    | cons flag modifierFlags ih =>
        intro value
        rw [List.foldl_cons, ih, BitVec.getLsbD_or, List.any_cons, Bool.or_assoc]
  simp [ofModifierFlags, step]

theorem getRawBits_ne_zero {flag : ModifierFlag} {i : Nat}
    (bit : flag.getRawBits.getLsbD i = true) : flag.getRawBits ≠ 0 := by
  intro zero
  simp [zero] at bit

/-- Virtual modifiers do not count. -/
theorem ofModifierFlags_eq {first second : List ModifierFlag}
    (same : ∀ flag, flag.getRawBits ≠ 0 → (flag ∈ first ↔ flag ∈ second)) :
    ofModifierFlags first = ofModifierFlags second := by
  have bits : (ofModifierFlags first).value = (ofModifierFlags second).value := by
    apply BitVec.eq_of_getLsbD_eq
    intro i _
    rw [getLsbD_ofModifierFlags, getLsbD_ofModifierFlags, Bool.eq_iff_iff, List.any_eq_true,
      List.any_eq_true]
    constructor
    · rintro ⟨flag, member, bit⟩
      exact ⟨flag, (same flag (getRawBits_ne_zero bit)).mp member, bit⟩
    · rintro ⟨flag, member, bit⟩
      exact ⟨flag, (same flag (getRawBits_ne_zero bit)).mpr member, bit⟩
  exact congrArg Flags.mk bits

theorem isOn_iff_bits {flags : Flags} {flag : ModifierFlag} (raw : flag.getRawBits ≠ 0) :
    flags.isOn flag = true ↔
      ∀ i, flag.getRawBits.getLsbD i = true → flags.value.getLsbD i = true := by
  have other : flag ≠ ModifierFlag.ZERO := by
    rintro rfl
    exact raw (by decide)
  rw [isOn, if_neg other]
  simp only [raw, if_false, beq_iff_eq]
  constructor
  · intro all i bit
    rw [← all, BitVec.getLsbD_and, Bool.and_eq_true] at bit
    exact bit.1
  · intro all
    apply BitVec.eq_of_getLsbD_eq
    intro i _
    rw [BitVec.getLsbD_and]
    cases bit : flag.getRawBits.getLsbD i with
    | false => simp
    | true => simp [all i bit]

/-- In a union of raw bits exactly its members are on. -/
theorem isOn_ofModifierFlags {flag : ModifierFlag} (raw : flag.getRawBits ≠ 0)
    (modifierFlags : List ModifierFlag) :
    (ofModifierFlags modifierFlags).isOn flag = decide (flag ∈ modifierFlags) := by
  rw [Bool.eq_iff_iff, isOn_iff_bits raw, decide_eq_true_iff]
  constructor
  · intro all
    have own := getRawBits_ownBit raw flag
    have bit := all flag.ownBit (by rw [own]; simp)
    rw [getLsbD_ofModifierFlags, List.any_eq_true] at bit
    obtain ⟨other, member, bit⟩ := bit
    rw [getRawBits_ownBit raw, decide_eq_true_iff] at bit
    rwa [← bit]
  · intro member i bit
    rw [getLsbD_ofModifierFlags, List.any_eq_true]
    exact ⟨flag, member, bit⟩

theorem add_ofModifierFlags (modifierFlags : List ModifierFlag) (flag : ModifierFlag) :
    (ofModifierFlags modifierFlags).add flag = ofModifierFlags (modifierFlags ++ [flag]) := by
  simp [add, ofModifierFlags]

theorem getLsbD_remove (pairs : Pairs) (flags : Flags) (flag : ModifierFlag) {i : Nat}
    (inside : i < 32) :
    (flags.remove pairs flag).value.getLsbD i =
      (flags.value.getLsbD i && !flag.getRawBits.getLsbD i ||
        pairs.flags.any fun f =>
          decide (f ≠ flag) && flags.isOn f && f.getRawBits.getLsbD i) := by
  have step : ∀ value : BitVec 32,
      (pairs.foldl
        (fun value pair =>
          let f := pair.modifierFlag
          if f = flag then value
          else if !flags.isOn f then value
          else value ||| f.getRawBits) value).getLsbD i =
        (value.getLsbD i || pairs.flags.any fun f =>
          decide (f ≠ flag) && flags.isOn f && f.getRawBits.getLsbD i) := by
    induction pairs with
    | nil => simp [Pairs.flags]
    | cons pair pairs ih =>
        intro value
        have tail := ih
        simp only [Pairs.flags, List.map_cons, List.any_cons, List.foldl_cons] at tail ⊢
        rw [tail]
        by_cases same : pair.modifierFlag = flag
        · simp [same]
        · cases on : flags.isOn pair.modifierFlag <;> simp [same, Bool.or_assoc]
  show (pairs.foldl _ (flags.value &&& ~~~flag.getRawBits)).getLsbD i = _
  rw [step, BitVec.getLsbD_and, BitVec.getLsbD_not]
  simp [inside]

end Flags

/-- The table has the ten modifiers of clearVirtualModifiers. -/
def Pairs.HasNormal (pairs : Pairs) : Prop := ∀ flag ∈ Pairs.normal.flags, flag ∈ pairs.flags

namespace Flags

theorem mem_normal_or_numpad {flag : ModifierFlag} (raw : flag.getRawBits ≠ 0) :
    flag ∈ Pairs.normal.flags ∨ flag = ModifierFlag.NUMPAD := by
  have each : ∀ flag ∈ ModifierFlag.withRawBits,
      flag ∈ Pairs.normal.flags ∨ flag = ModifierFlag.NUMPAD := by decide
  exact each flag (ModifierFlag.mem_withRawBits raw)

/-- Removing a modifier from a union leaves the union of the others. -/
theorem remove_ofModifierFlags {pairs : Pairs} (hasNormal : pairs.HasNormal)
    (modifierFlags : List ModifierFlag) (flag : ModifierFlag) :
    (ofModifierFlags modifierFlags).remove pairs flag =
      ofModifierFlags (modifierFlags.filter (· ≠ flag)) := by
  have bits : ((ofModifierFlags modifierFlags).remove pairs flag).value =
      (ofModifierFlags (modifierFlags.filter (· ≠ flag))).value := by
    apply BitVec.eq_of_getLsbD_eq
    intro i inside
    rw [getLsbD_remove _ _ _ inside, getLsbD_ofModifierFlags, getLsbD_ofModifierFlags,
      Bool.eq_iff_iff]
    simp only [Bool.or_eq_true, Bool.and_eq_true, Bool.not_eq_true', List.any_eq_true,
      List.mem_filter, decide_eq_true_eq, and_assoc]
    constructor
    · rintro (⟨⟨f, member, bit⟩, off⟩ | ⟨f, -, other, on, bit⟩)
      · have other : f ≠ flag := by
          rintro rfl
          rw [bit] at off
          exact Bool.noConfusion off
        exact ⟨f, member, other, bit⟩
      · rw [isOn_ofModifierFlags (getRawBits_ne_zero bit), decide_eq_true_iff] at on
        exact ⟨f, on, other, bit⟩
    · rintro ⟨f, member, other, bit⟩
      have raw := getRawBits_ne_zero bit
      rcases mem_normal_or_numpad raw with normal | rfl
      · right
        have on : (ofModifierFlags modifierFlags).isOn f = true := by
          rw [isOn_ofModifierFlags raw, decide_eq_true_iff]
          exact member
        exact ⟨f, hasNormal f normal, other, on, bit⟩
      · left
        exact ⟨⟨_, member, bit⟩, ModifierFlag.getRawBits_and_numpad (Ne.symm other) i bit⟩
  exact congrArg Flags.mk bits

/-- Stripping NUMPAD keeps every other modifier as it is, whatever the flags are. -/
theorem isOn_stripNUMPAD (pairs : Pairs) (flags : Flags) {flag : ModifierFlag}
    (other : flag ≠ ModifierFlag.NUMPAD) :
    (flags.stripNUMPAD pairs).isOn flag = flags.isOn flag := by
  by_cases raw : flag.getRawBits = 0
  · simp [isOn, raw]
  · rw [Bool.eq_iff_iff, isOn_iff_bits raw, isOn_iff_bits raw]
    have same : ∀ i < 32, flag.getRawBits.getLsbD i = true →
        (flags.stripNUMPAD pairs).value.getLsbD i = flags.value.getLsbD i := by
      intro i inside bit
      have apart : ModifierFlag.NUMPAD.getRawBits.getLsbD i = false := by
        by_contra numpad
        have off := ModifierFlag.getRawBits_and_numpad other i (by simpa using numpad)
        rw [bit] at off
        exact Bool.noConfusion off
      rw [stripNUMPAD, getLsbD_remove _ _ _ inside, apart, Bool.eq_iff_iff]
      simp only [Bool.not_false, Bool.and_true, Bool.or_eq_true, List.any_eq_true,
        Bool.and_eq_true, or_iff_left_iff_imp]
      rintro ⟨f, -, ⟨-, on⟩, bit⟩
      exact (isOn_iff_bits (getRawBits_ne_zero bit)).mp on i bit
    constructor
    · intro all i bit
      have inside := BitVec.lt_of_getLsbD bit
      rw [← same i inside bit]
      exact all i bit
    · intro all i bit
      have inside := BitVec.lt_of_getLsbD bit
      rw [same i inside bit]
      exact all i bit

end Flags

end Karabiner
