import Karabiner.Output
import Karabiner.Traced
import Mathlib.Algebra.Ring.Int.Defs

set_option autoImplicit false

/- EventOutputQueue::FireScrollWheel. The events are the results of the arithmetic, as numbers that
may not fit in an int. -/
namespace Karabiner.EventOutputQueue.FireScrollWheel

def POINTING_FIXED_SCALE : Int := 65536
def POINTING_POINT_SCALE : Int := 10
def DELTA_SCALE : Int := 128

def result (value : Int) : Traced Int Int := .emit [value] value

/-- The conversion to short. -/
def short (value : Int) : Int := value.bmod (2 ^ 16)

def deltaAxis (delta rate : Int) : Traced Int Int := do
  let product ← result (delta * rate)
  let scaled ← result (product.tdiv 1024)
  let quotient ← result (scaled.tdiv DELTA_SCALE)
  return short quotient

def fixedDelta (delta rate : Int) : Traced Int Int := do
  let product ← result (delta * rate)
  let scaled ← result (product * (POINTING_FIXED_SCALE.tdiv 1024))
  result (scaled.tdiv DELTA_SCALE)

def pointDelta (delta rate : Int) : Traced Int Int := do
  let points ← result (delta * POINTING_POINT_SCALE)
  let product ← result (points * rate)
  let scaled ← result (product.tdiv 1024)
  result (scaled.tdiv DELTA_SCALE)

def kScrollTypeContinuous_ : Int := 1

/-- The params that fire makes of two deltas. -/
def scrollParams (relative2scroll_rate delta1 delta2 : Int) :
    Traced Int ScrollWheelEventCallback := do
  let deltaAxis1 ← deltaAxis delta1 relative2scroll_rate
  let deltaAxis2 ← deltaAxis delta2 relative2scroll_rate
  let fixedDelta1 ← fixedDelta delta1 relative2scroll_rate
  let fixedDelta2 ← fixedDelta delta2 relative2scroll_rate
  let pointDelta1 ← pointDelta delta1 relative2scroll_rate
  let pointDelta2 ← pointDelta delta2 relative2scroll_rate
  return ⟨deltaAxis1, deltaAxis2, 0, fixedDelta1, fixedDelta2, 0, pointDelta1, pointDelta2, 0,
    kScrollTypeContinuous_⟩

section

variable (settings : Settings) (autogenId : AutogenId) (physicalEventType : PhysicalEventType)

def fire (params : ScrollWheelEventCallback) (output : Output) : Output :=
  let output := output.setIgnorePhysicalUpEvent false
  let output := fireCurrentModifiers settings autogenId physicalEventType output
  push (.scrollWheel params) autogenId output

def fireDeltas (relative2scroll_rate delta1 delta2 : Int) (output : Output) :
    Traced Int Output := do
  let params ← scrollParams relative2scroll_rate delta1 delta2
  return fire settings autogenId physicalEventType params output

end

/-- An int has 32 bits. -/
def Fits (value : Int) : Prop := -2 ^ 31 ≤ value ∧ value < 2 ^ 31

instance (value : Int) : Decidable (Fits value) := inferInstanceAs (Decidable (_ ∧ _))

def SameSign (delta value : Int) : Prop :=
  (0 ≤ delta → 0 ≤ value) ∧ (delta ≤ 0 → value ≤ 0)

/-- The quotients of the exact product, truncated toward zero. -/
structure Converts (rate delta axis fixed point : Int) : Prop where
  deltaAxis : axis = (delta * rate).tdiv (1024 * DELTA_SCALE)
  fixedDelta : fixed = (delta * rate * POINTING_FIXED_SCALE).tdiv (1024 * DELTA_SCALE)
  pointDelta : point = (delta * rate * POINTING_POINT_SCALE).tdiv (1024 * DELTA_SCALE)
  signs : SameSign delta axis ∧ SameSign delta fixed ∧ SameSign delta point

/-- The arithmetic for two deltas stays in its range and is exact. -/
structure Exact (rate delta1 delta2 : Int) : Prop where
  fits : (scrollParams rate delta1 delta2).All Fits
  first : Converts rate delta1 (scrollParams rate delta1 delta2).value.deltaAxis1
    (scrollParams rate delta1 delta2).value.fixedDelta1
    (scrollParams rate delta1 delta2).value.pointDelta1
  second : Converts rate delta2 (scrollParams rate delta1 delta2).value.deltaAxis2
    (scrollParams rate delta1 delta2).value.fixedDelta2
    (scrollParams rate delta1 delta2).value.pointDelta2

section

variable {rate delta : Int}

/-- Division in C, by the sign of the dividend. -/
theorem tdiv_cases (value divisor : Int) :
    (0 ≤ value ∧ value.tdiv divisor = value / divisor) ∨
      (value ≤ 0 ∧ value.tdiv divisor = -((-value) / divisor)) := by
  by_cases sign : 0 ≤ value
  · exact .inl ⟨sign, Int.tdiv_eq_ediv_of_nonneg sign⟩
  · refine .inr ⟨by omega, ?_⟩
    rw [← Int.tdiv_eq_ediv_of_nonneg (by omega), Int.neg_tdiv, Int.neg_neg]

/-- Truncating twice is truncating once. -/
theorem tdiv_twice (value : Int) : (value.tdiv 1024).tdiv 128 = value.tdiv 131072 := by
  have whole := tdiv_cases value 131072
  have first := tdiv_cases value 1024
  have second := tdiv_cases (value.tdiv 1024) 128
  omega

theorem SameSign.trans {first second third : Int} (left : SameSign first second)
    (right : SameSign second third) : SameSign first third :=
  ⟨fun sign => right.1 (left.1 sign), fun sign => right.2 (left.2 sign)⟩

theorem sameSign_mul (delta : Int) {factor : Int} (nonneg : 0 ≤ factor) :
    SameSign delta (delta * factor) :=
  ⟨fun sign => Int.mul_nonneg sign nonneg, fun sign =>
    Int.mul_nonpos_of_nonpos_of_nonneg sign nonneg⟩

theorem sameSign_tdiv (value : Int) {divisor : Int} (nonneg : 0 ≤ divisor) :
    SameSign value (value.tdiv divisor) := by
  constructor
  · intro sign
    exact Int.tdiv_nonneg sign nonneg
  · intro sign
    have opposite := Int.tdiv_nonneg (show 0 ≤ -value by omega) nonneg
    rw [Int.neg_tdiv] at opposite
    omega

theorem fits_tdiv {value divisor : Int} (fits : Fits value) (nonneg : 0 ≤ divisor) :
    Fits (value.tdiv divisor) := by
  have smaller := Int.natAbs_tdiv_le_natAbs value divisor
  obtain ⟨positive, negative⟩ := sameSign_tdiv value nonneg
  unfold Fits at fits ⊢
  omega

theorem all_deltaAxis : (deltaAxis delta rate).All Fits ↔ Fits (delta * rate) := by
  simp only [deltaAxis, result, Traced.all_bind, Traced.all_emit, Traced.value_emit,
    Traced.all_pure, List.mem_singleton, forall_eq, and_true]
  constructor
  · exact fun all => all.1
  · exact fun fits =>
      ⟨fits, fits_tdiv fits (by decide), fits_tdiv (fits_tdiv fits (by decide)) (by decide)⟩

theorem all_fixedDelta :
    (fixedDelta delta rate).All Fits ↔ Fits (delta * rate) ∧ Fits (delta * rate * 64) := by
  have scale : POINTING_FIXED_SCALE.tdiv 1024 = 64 := by decide
  simp only [fixedDelta, result, Traced.all_bind, Traced.all_emit, Traced.value_emit,
    List.mem_singleton, forall_eq, scale]
  constructor
  · exact fun all => ⟨all.1, all.2.1⟩
  · exact fun both => ⟨both.1, both.2, fits_tdiv both.2 (by decide)⟩

theorem all_pointDelta : (pointDelta delta rate).All Fits ↔
    Fits (delta * POINTING_POINT_SCALE) ∧ Fits (delta * POINTING_POINT_SCALE * rate) := by
  simp only [pointDelta, result, Traced.all_bind, Traced.all_emit, Traced.value_emit,
    List.mem_singleton, forall_eq]
  constructor
  · exact fun all => ⟨all.1, all.2.1⟩
  · exact fun both => ⟨both.1, both.2, fits_tdiv both.2 (by decide),
      fits_tdiv (fits_tdiv both.2 (by decide)) (by decide)⟩

theorem deltaAxis_value : (deltaAxis delta rate).value =
    short ((delta * rate).tdiv 131072) := by
  rw [← tdiv_twice]
  rfl

theorem fixedDelta_value : (fixedDelta delta rate).value = (delta * rate * 64).tdiv 128 := rfl

theorem pointDelta_value :
    (pointDelta delta rate).value = (delta * POINTING_POINT_SCALE * rate).tdiv 131072 := by
  rw [← tdiv_twice]
  rfl

/-- What the largest product allows is enough for all of them. -/
theorem converts_of_fits (nonneg : 0 ≤ rate) (fits : Fits (delta * rate * 64)) :
    Converts rate delta (deltaAxis delta rate).value (fixedDelta delta rate).value
      (pointDelta delta rate).value := by
  have swap : delta * POINTING_POINT_SCALE * rate = delta * rate * 10 := Int.mul_right_comm _ _ _
  have product := sameSign_mul delta nonneg
  have whole : 1024 * DELTA_SCALE = 131072 := by decide
  rw [deltaAxis_value, fixedDelta_value, pointDelta_value, swap, short]
  generalize same : delta * rate = value at fits product ⊢
  have axis := tdiv_cases value 131072
  unfold Fits at fits
  have narrow : (value.tdiv 131072).bmod (2 ^ 16) = value.tdiv 131072 := by
    apply Int.bmod_eq_of_le
    · omega
    · omega
  rw [narrow]
  refine ⟨by rw [whole, same], ?_, by rw [whole, same]; rfl, ?_, ?_, ?_⟩
  · rw [whole, same]
    have exact := @Int.mul_tdiv_mul_of_pos_left (value * 64) 1024 128 (by decide)
    rw [← exact, Int.mul_assoc]
    rfl
  · exact product.trans (sameSign_tdiv value (by decide))
  · exact product.trans ((sameSign_mul value (by decide)).trans (sameSign_tdiv _ (by decide)))
  · exact product.trans ((sameSign_mul value (by decide)).trans (sameSign_tdiv _ (by decide)))

/-- A delta is converted without overflow if and only if its fixed point product fits. -/
theorem all_scrollParams {rate delta1 delta2 : Int}
    (small1 : -2 ^ 22 ≤ delta1 ∧ delta1 ≤ 2 ^ 22)
    (small2 : -2 ^ 22 ≤ delta2 ∧ delta2 ≤ 2 ^ 22) :
    (scrollParams rate delta1 delta2).All Fits ↔
      Fits (delta1 * rate * 64) ∧ Fits (delta2 * rate * 64) := by
  have one {delta : Int} (small : -2 ^ 22 ≤ delta ∧ delta ≤ 2 ^ 22) :
      ((deltaAxis delta rate).All Fits ∧ (fixedDelta delta rate).All Fits ∧
        (pointDelta delta rate).All Fits) ↔ Fits (delta * rate * 64) := by
    have swap : delta * POINTING_POINT_SCALE * rate = delta * rate * 10 := Int.mul_right_comm _ _ _
    have ten : POINTING_POINT_SCALE = 10 := rfl
    rw [all_deltaAxis, all_fixedDelta, all_pointDelta, swap, ten]
    generalize delta * rate = value
    unfold Fits
    omega
  rw [← one small1, ← one small2]
  simp only [scrollParams, Traced.all_bind, Traced.all_pure, and_true]
  tauto

theorem exact_iff {rate delta1 delta2 : Int} (nonneg : 0 ≤ rate)
    (small1 : -2 ^ 22 ≤ delta1 ∧ delta1 ≤ 2 ^ 22)
    (small2 : -2 ^ 22 ≤ delta2 ∧ delta2 ≤ 2 ^ 22) :
    Exact rate delta1 delta2 ↔ Fits (delta1 * rate * 64) ∧ Fits (delta2 * rate * 64) := by
  constructor
  · intro exact
    exact (all_scrollParams small1 small2).1 exact.fits
  · intro fits
    exact ⟨(all_scrollParams small1 small2).2 fits, converts_of_fits nonneg fits.1,
      converts_of_fits nonneg fits.2⟩

end

/-- For the deltas of a pointer, which are scaled before they get here. -/
theorem exact_scaled_iff (rate delta1 delta2 : Int) (nonneg : 0 ≤ rate)
    (short1 : -2 ^ 15 ≤ delta1 ∧ delta1 ≤ 2 ^ 15)
    (short2 : -2 ^ 15 ≤ delta2 ∧ delta2 ≤ 2 ^ 15) :
    Exact rate (delta1 * DELTA_SCALE) (delta2 * DELTA_SCALE) ↔
      (-2 ^ 18 ≤ delta1 * rate ∧ delta1 * rate < 2 ^ 18) ∧
        (-2 ^ 18 ≤ delta2 * rate ∧ delta2 * rate < 2 ^ 18) := by
  have scale : DELTA_SCALE = 128 := rfl
  have one (delta : Int) : Fits (delta * DELTA_SCALE * rate * 64) ↔
      (-2 ^ 18 ≤ delta * rate ∧ delta * rate < 2 ^ 18) := by
    rw [scale, Int.mul_right_comm delta 128 rate]
    generalize delta * rate = value
    unfold Fits
    omega
  rw [exact_iff nonneg (by rw [scale]; omega) (by rw [scale]; omega), one, one]

/-- A long move at the default rate. -/
theorem exact_scaled_ordinary : Exact 150 (1000 * DELTA_SCALE) (-1000 * DELTA_SCALE) :=
  (exact_scaled_iff 150 1000 (-1000) (by decide) (by decide) (by decide)).2 (by decide)

/-- At the highest rate, moving by 256 is too far. -/
theorem not_exact_256 : ¬ Exact 1024 (256 * DELTA_SCALE) (0 * DELTA_SCALE) := by
  intro exact
  have product : 2 ^ 31 ∈ (scrollParams 1024 (256 * DELTA_SCALE) (0 * DELTA_SCALE)).events := by
    decide +kernel
  exact absurd (exact.fits _ product) (by decide)

end Karabiner.EventOutputQueue.FireScrollWheel
