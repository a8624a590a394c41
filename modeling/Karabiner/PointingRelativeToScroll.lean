import Karabiner.FireScrollWheel

set_option autoImplicit false

/- What PointingRelativeToScroll makes of the moves of a pointer: a queue of deltas and the calls
of FireScrollWheel::fire from its timer. -/
namespace Karabiner

/-- The essential configurations that are read. -/
structure ScrollConfig where
  pointing_relative2scroll_rate : Int
  option_pointing_disable_vertical_scroll : Bool
  option_pointing_disable_horizontal_scroll : Bool
  option_pointing_enable_scrollwheel_fixation : Bool
  option_pointing_reverse_vertical_scrolling : Bool
  option_pointing_reverse_horizontal_scrolling : Bool
  option_pointing_disable_momentum_scroll : Bool
  deriving DecidableEq, Repr

structure PointingRelativeToScroll where
  absolute_distance_ : Nat := 0
  chained_ic_ : IntervalChecker
  chained_delta1_ : Int := 0
  chained_delta2_ : Int := 0
  fixation_ic_ : IntervalChecker
  fixation_begin_ic_ : IntervalChecker
  fixation_delta1_ : Int := 0
  fixation_delta2_ : Int := 0
  queue_ : List (Int × Int) := []
  deriving DecidableEq, Repr

namespace PointingRelativeToScroll

open EventOutputQueue.FireScrollWheel

def cancelScroll (scroll : PointingRelativeToScroll) : PointingRelativeToScroll :=
  { scroll with queue_ := [] }

/-- The deltas of a move without the much smaller one of the two. -/
def majorDeltas (config : ScrollConfig) (dx dy : Int) : Int × Int :=
  let delta1 := if config.option_pointing_disable_vertical_scroll then 0 else -dy
  let delta2 := if config.option_pointing_disable_horizontal_scroll then 0 else -dx
  let abs1 := delta1.natAbs
  let abs2 := delta2.natAbs
  (if abs2 > abs1 * 2 then 0 else delta1, if abs1 > abs2 * 2 then 0 else delta2)

def FIXATION_MILLISEC : UInt32 := 300
def FIXATION_EARLY_MILLISEC : UInt32 := 1000
def CANCEL_THRESHOLD : UInt32 := 100

/-- Fixation processing. -/
def fixate (now : Nat) (abs1 abs2 : Nat) (deltas : Int × Int) (scroll : PointingRelativeToScroll) :
    PointingRelativeToScroll × Int × Int :=
  let scroll :=
    if scroll.fixation_ic_.getmillisec now > FIXATION_MILLISEC then
      { scroll with
        fixation_begin_ic_ := ⟨now⟩
        fixation_delta1_ := 0
        fixation_delta2_ := 0 }
    else scroll
  let scroll := { scroll with fixation_ic_ := ⟨now⟩ }
  let delta2 := if scroll.fixation_delta1_ > scroll.fixation_delta2_ * 2 then 0 else deltas.2
  let delta1 := if scroll.fixation_delta2_ > scroll.fixation_delta1_ * 2 then 0 else deltas.1
  let scroll :=
    if scroll.fixation_begin_ic_.getmillisec now < FIXATION_EARLY_MILLISEC then
      { scroll with
        fixation_delta2_ :=
          if delta1 = 0 then scroll.fixation_delta2_ + abs2 else scroll.fixation_delta2_
        fixation_delta1_ :=
          if delta2 = 0 then scroll.fixation_delta1_ + abs1 else scroll.fixation_delta1_ }
    else scroll
  (scroll, delta1, delta2)

def fixateIfEnabled (config : ScrollConfig) (now abs1 abs2 : Nat) (deltas : Int × Int)
    (scroll : PointingRelativeToScroll) : PointingRelativeToScroll × Int × Int :=
  if config.option_pointing_enable_scrollwheel_fixation then fixate now abs1 abs2 deltas scroll
  else (scroll, deltas)

/-- The greater delta is kept while the direction stays. -/
def chain (delta1 delta2 : Int) (scroll : PointingRelativeToScroll) : PointingRelativeToScroll :=
  if 0 > delta1 * scroll.chained_delta1_ ∨ 0 > delta2 * scroll.chained_delta2_ then
    { scroll with queue_ := [], chained_delta1_ := delta1, chained_delta2_ := delta2 }
  else if delta1.natAbs > scroll.chained_delta1_.natAbs ∨
      delta2.natAbs > scroll.chained_delta2_.natAbs then
    { scroll with chained_delta1_ := delta1, chained_delta2_ := delta2 }
  else scroll

/-- A pause ends the chain. -/
def beginChain (now : Nat) (scroll : PointingRelativeToScroll) : PointingRelativeToScroll :=
  let scroll :=
    if scroll.chained_ic_.getmillisec now > CANCEL_THRESHOLD then
      cancelScroll { scroll with chained_delta1_ := 0, chained_delta2_ := 0 }
    else scroll
  { scroll with chained_ic_ := ⟨now⟩ }

def pushChained (scroll : PointingRelativeToScroll) : PointingRelativeToScroll :=
  { scroll with
    absolute_distance_ := (scroll.absolute_distance_ + (scroll.chained_delta1_.natAbs +
      scroll.chained_delta2_.natAbs)) % 2 ^ 32
    queue_ := scroll.queue_ ++
      [(scroll.chained_delta1_ * DELTA_SCALE, scroll.chained_delta2_ * DELTA_SCALE)] }

def toscroll (config : ScrollConfig) (now : Nat) (dx dy : Int)
    (scroll : PointingRelativeToScroll) : PointingRelativeToScroll :=
  let scroll := scroll.beginChain now
  let own1 := if config.option_pointing_disable_vertical_scroll then 0 else -dy
  let own2 := if config.option_pointing_disable_horizontal_scroll then 0 else -dx
  let (scroll, delta1, delta2) :=
    fixateIfEnabled config now own1.natAbs own2.natAbs (majorDeltas config dx dy) scroll
  (scroll.chain delta1 delta2).pushChained

/-- The arguments of the call of FireScrollWheel::fire, if there is one. -/
def timer_callback (config : ScrollConfig) (scroll : PointingRelativeToScroll) :
    PointingRelativeToScroll × Option (Int × Int) :=
  match scroll.queue_ with
  | [] => (scroll, none)
  | (delta1, delta2) :: queue =>
      let d1 := if config.option_pointing_reverse_vertical_scrolling then -delta1 else delta1
      let d2 := if config.option_pointing_reverse_horizontal_scrolling then -delta2 else delta2
      let momentum :=
        !config.option_pointing_disable_momentum_scroll ∧ (delta1 ≠ 0 ∨ delta2 ≠ 0)
      ({ scroll with queue_ :=
          if momentum then queue ++ [(delta1.tdiv 2, delta2.tdiv 2)] else queue }, some (d1, d2))

/-- What happens to a scroll: moves, its timer, and its button going down and up. -/
inductive Step where
  | move (now : Nat) (dx dy : Int)
  | timer
  | press (now : Nat)
  | release
  deriving DecidableEq, Repr

/-- The calls of FireScrollWheel::fire come with the state. -/
def step (config : ScrollConfig) (scroll : PointingRelativeToScroll) :
    Step → PointingRelativeToScroll × List (Int × Int)
  | .move now dx dy => (scroll.toscroll config now dx dy, [])
  | .timer => (scroll.timer_callback config).map id Option.toList
  | .press now =>
      ({ scroll with
          absolute_distance_ := 0, chained_ic_ := ⟨now⟩, chained_delta1_ := 0
          chained_delta2_ := 0 }, [])
  | .release => (scroll.cancelScroll, [])

def run (config : ScrollConfig) (scroll : PointingRelativeToScroll) : List Step →
    List (Int × Int)
  | [] => []
  | s :: steps =>
      let (next, fired) := scroll.step config s
      fired ++ run config next steps

/-- A delta, scaled or not, that the rate does not take out of range. -/
def InReach (rate : Int) (scale : Nat) (delta : Int) : Prop :=
  delta.natAbs ≤ scale * 2 ^ 15 ∧ delta.natAbs * rate.natAbs < scale * 2 ^ 18

section

variable {rate delta : Int} {scale : Nat} {config : ScrollConfig}

theorem inReach_zero (positive : 0 < scale) : InReach rate scale 0 := by
  unfold InReach
  simp
  exact positive

theorem InReach.smaller {other : Int} (reach : InReach rate scale delta)
    (smaller : other.natAbs ≤ delta.natAbs) : InReach rate scale other :=
  ⟨Nat.le_trans smaller reach.1,
    Nat.lt_of_le_of_lt (Nat.mul_le_mul_right rate.natAbs smaller) reach.2⟩

theorem InReach.scaled (reach : InReach rate 1 delta) : InReach rate 128 (delta * DELTA_SCALE) := by
  unfold InReach at reach ⊢
  have scale : (delta * DELTA_SCALE).natAbs = delta.natAbs * 128 := Int.natAbs_mul _ _
  rw [scale, Nat.mul_right_comm]
  omega

theorem InReach.fits (reach : InReach rate 128 delta) : Fits (delta * rate * 64) := by
  have bound := reach.2
  rw [← Int.natAbs_mul] at bound
  unfold Fits
  omega

/-- Both deltas that are chained are in reach, and both of every pair in the queue. -/
structure Reaching (rate : Int) (scroll : PointingRelativeToScroll) : Prop where
  chained : InReach rate 1 scroll.chained_delta1_ ∧ InReach rate 1 scroll.chained_delta2_
  queue : ∀ item ∈ scroll.queue_, InReach rate 128 item.1 ∧ InReach rate 128 item.2

variable {scroll : PointingRelativeToScroll}

/-- Deltas that are dropped are zero. -/
theorem InReach.orZero {condition : Prop} [Decidable condition] (reach : InReach rate 1 delta) :
    InReach rate 1 (if condition then 0 else delta) := by
  split
  · exact inReach_zero Nat.one_pos
  · exact reach

theorem majorDeltas_reach {dx dy : Int} (reach : InReach rate 1 dx ∧ InReach rate 1 dy) :
    InReach rate 1 (majorDeltas config dx dy).1 ∧
    InReach rate 1 (majorDeltas config dx dy).2 := by
  have first : InReach rate 1 (-dy) := reach.2.smaller (by rw [Int.natAbs_neg])
  have second : InReach rate 1 (-dx) := reach.1.smaller (by rw [Int.natAbs_neg])
  exact ⟨first.orZero.orZero, second.orZero.orZero⟩

/-- Fixation keeps what is chained and queued, and drops deltas at most. -/
theorem fixate_reach {now abs1 abs2 : Nat} {deltas : Int × Int} (reaching : Reaching rate scroll)
    (reach : InReach rate 1 deltas.1 ∧ InReach rate 1 deltas.2) :
    Reaching rate (fixate now abs1 abs2 deltas scroll).1 ∧
      InReach rate 1 (fixate now abs1 abs2 deltas scroll).2.1 ∧
      InReach rate 1 (fixate now abs1 abs2 deltas scroll).2.2 := by
  refine ⟨?_, reach.1.orZero, reach.2.orZero⟩
  unfold fixate
  dsimp only
  split <;> split <;> exact ⟨reaching.chained, reaching.queue⟩

theorem fixateIfEnabled_reach {now abs1 abs2 : Nat} {deltas : Int × Int}
    (reaching : Reaching rate scroll)
    (reach : InReach rate 1 deltas.1 ∧ InReach rate 1 deltas.2) :
    Reaching rate (fixateIfEnabled config now abs1 abs2 deltas scroll).1 ∧
      InReach rate 1 (fixateIfEnabled config now abs1 abs2 deltas scroll).2.1 ∧
      InReach rate 1 (fixateIfEnabled config now abs1 abs2 deltas scroll).2.2 := by
  unfold fixateIfEnabled
  split
  · exact fixate_reach reaching reach
  · exact ⟨reaching, reach⟩

theorem chain_reach {delta1 delta2 : Int} (reaching : Reaching rate scroll)
    (reach : InReach rate 1 delta1 ∧ InReach rate 1 delta2) :
    Reaching rate (scroll.chain delta1 delta2) := by
  unfold chain
  split
  · exact ⟨reach, fun item none => absurd none List.not_mem_nil⟩
  · split
    · exact ⟨reach, reaching.queue⟩
    · exact reaching

theorem beginChain_reach {now : Nat} (reaching : Reaching rate scroll) :
    Reaching rate (scroll.beginChain now) := by
  have zero := @inReach_zero rate 1 Nat.one_pos
  unfold beginChain
  dsimp only
  split
  · exact ⟨⟨zero, zero⟩, fun item none => absurd none List.not_mem_nil⟩
  · exact ⟨reaching.chained, reaching.queue⟩

theorem pushChained_reach (reaching : Reaching rate scroll) :
    Reaching rate scroll.pushChained := by
  refine ⟨reaching.chained, fun item member => ?_⟩
  cases List.mem_append.1 member with
  | inl before => exact reaching.queue item before
  | inr last =>
      rw [List.mem_singleton.1 last]
      exact ⟨reaching.chained.1.scaled, reaching.chained.2.scaled⟩

theorem toscroll_reach {now : Nat} {dx dy : Int} (reaching : Reaching rate scroll)
    (reach : InReach rate 1 dx ∧ InReach rate 1 dy) :
    Reaching rate (scroll.toscroll config now dx dy) := by
  have deltas : InReach rate 1 (majorDeltas config dx dy).1 ∧
      InReach rate 1 (majorDeltas config dx dy).2 := majorDeltas_reach reach
  have began := @beginChain_reach rate scroll now reaching
  have fixed := fun abs1 abs2 => @fixateIfEnabled_reach rate config _ now abs1 abs2 _ began deltas
  exact pushChained_reach (chain_reach (fixed _ _).1 (fixed _ _).2)

theorem timer_callback_reach (reaching : Reaching rate scroll) :
    Reaching rate (scroll.timer_callback config).1 ∧
      ∀ fired ∈ (scroll.timer_callback config).2,
        InReach rate 128 fired.1 ∧ InReach rate 128 fired.2 := by
  unfold timer_callback
  cases queue : scroll.queue_ with
  | nil => exact ⟨reaching, fun fired none => absurd none (by simp)⟩
  | cons item rest =>
      obtain ⟨delta1, delta2⟩ := item
      have inQueue := reaching.queue
      rw [queue] at inQueue
      obtain ⟨front, others⟩ := List.forall_mem_cons.1 inQueue
      have halved {delta : Int} (reach : InReach rate 128 delta) :
          InReach rate 128 (delta.tdiv 2) :=
        reach.smaller (Int.natAbs_tdiv_le_natAbs delta 2)
      have turned {delta : Int} {condition : Prop} [Decidable condition]
          (reach : InReach rate 128 delta) :
          InReach rate 128 (if condition then -delta else delta) := by
        split
        · exact reach.smaller (by rw [Int.natAbs_neg])
        · exact reach
      dsimp only
      refine ⟨⟨reaching.chained, ?_⟩, ?_⟩
      · intro item member
        dsimp only at member
        split at member
        · cases List.mem_append.1 member with
          | inl before => exact others item before
          | inr last =>
              rw [List.mem_singleton.1 last]
              exact ⟨halved front.1, halved front.2⟩
        · exact others item member
      · intro fired called
        rw [← Option.some.inj called]
        exact ⟨turned front.1, turned front.2⟩

/-- Every move of the run is in reach. -/
def Step.InReach (rate : Int) : Step → Prop
  | .move _ dx dy => PointingRelativeToScroll.InReach rate 1 dx ∧
      PointingRelativeToScroll.InReach rate 1 dy
  | .timer | .press _ | .release => True

theorem step_reach {s : Step} (reaching : Reaching rate scroll) (reach : s.InReach rate) :
    Reaching rate (scroll.step config s).1 ∧
      ∀ fired ∈ (scroll.step config s).2, InReach rate 128 fired.1 ∧
        InReach rate 128 fired.2 := by
  cases s with
  | move now dx dy =>
      exact ⟨toscroll_reach reaching reach, fun fired none => absurd none List.not_mem_nil⟩
  | timer =>
      obtain ⟨next, fires⟩ := @timer_callback_reach rate config scroll reaching
      exact ⟨next, fun fired member => fires fired (Option.mem_toList.1 member)⟩
  | press now =>
      have zero := @inReach_zero rate 1 Nat.one_pos
      exact ⟨⟨⟨zero, zero⟩, reaching.queue⟩, fun fired none =>
        absurd none List.not_mem_nil⟩
  | release =>
      exact ⟨⟨reaching.chained, fun item none => absurd none List.not_mem_nil⟩,
        fun fired none => absurd none List.not_mem_nil⟩

/-- While the moves are in reach of the rate, every scroll that is fired is exact. -/
theorem run_exact (config : ScrollConfig) (nonneg : 0 ≤ config.pointing_relative2scroll_rate)
    (steps : List Step)
    (reach : ∀ s ∈ steps, s.InReach config.pointing_relative2scroll_rate)
    (scroll : PointingRelativeToScroll)
    (reaching : Reaching config.pointing_relative2scroll_rate scroll) :
    ∀ fired ∈ scroll.run config steps,
      Exact config.pointing_relative2scroll_rate fired.1 fired.2 := by
  induction steps generalizing scroll with
  | nil => exact fun fired none => absurd none List.not_mem_nil
  | cons s steps ih =>
      obtain ⟨here, later⟩ := List.forall_mem_cons.1 reach
      obtain ⟨next, fires⟩ := @step_reach _ config scroll s reaching here
      intro fired member
      cases List.mem_append.1 member with
      | inl now =>
          obtain ⟨first, second⟩ := fires fired now
          have small1 := first.1
          have small2 := second.1
          exact (exact_iff nonneg (by omega) (by omega)).2 ⟨first.fits, second.fits⟩
      | inr after => exact ih later _ next fired after

end

end PointingRelativeToScroll

end Karabiner
