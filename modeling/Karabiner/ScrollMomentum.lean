import Karabiner.NoStranded
import Karabiner.PointingRelativeToScroll
import Karabiner.RoundRobin

set_option autoImplicit false

/- The queue and the timer that every PointingRelativeToScroll shares, while no pointer event
arrives. Deltas are ints of 32 bits, and the negation of the least one is itself. -/
namespace Karabiner

namespace PointingRelativeToScroll

structure Item where
  delta1 : Int32
  delta2 : Int32
  deriving DecidableEq, Repr

def SCROLL_INTERVAL_MS : UInt32 := 10

namespace Item

def zero : Item := ⟨0, 0⟩

def half (p : Item) : Item := ⟨p.delta1 / 2, p.delta2 / 2⟩

section
variable (config : ScrollConfig)

/-- What FireScrollWheel::fire is called with. -/
def fired (p : Item) : Int32 × Int32 :=
  (if config.option_pointing_reverse_vertical_scrolling then -p.delta1 else p.delta1,
    if config.option_pointing_reverse_horizontal_scrolling then -p.delta2 else p.delta2)

/-- The item that is pushed back. -/
def momentum (p : Item) : Option Item :=
  if !config.option_pointing_disable_momentum_scroll ∧ (p.delta1 ≠ 0 ∨ p.delta2 ≠ 0) then
    some p.half
  else none

end

end Item

/-- The static members that the timer works with. -/
structure Shared where
  queue_ : List Item
  timer_ : TimerWrapper
  deriving DecidableEq, Repr

namespace Shared

variable (config : ScrollConfig)

def timer_callback (shared : Shared) : Shared × Option (Int32 × Int32) :=
  match shared.queue_ with
  | [] => (shared, none)
  | p :: queue_ =>
      (⟨queue_ ++ (p.momentum config).toList,
        shared.timer_.setTimeoutMS SCROLL_INTERVAL_MS false⟩, some (p.fired config))

/-- TimerWrapper::callback_ clears the timer first. -/
def callback_ (shared : Shared) : Shared × Option (Int32 × Int32) :=
  if shared.timer_.active then
    timer_callback config { shared with timer_ := { shared.timer_ with active := false } }
  else (shared, none)

/-- The calls of FireScrollWheel::fire come second. -/
def run : Nat → Shared → Shared × List (Int32 × Int32)
  | 0, shared => (shared, [])
  | calls + 1, shared =>
      let (shared, fired) := shared.callback_ config
      let (shared, later) := run calls shared
      (shared, fired.toList ++ later)

end Shared

/-- The deltas are halved again and again, up to zero unless there is no momentum. -/
structure DiesOut (config : ScrollConfig) (p : Item) (sequence : List Item) : Prop where
  halves : ∃ last, sequence = (List.range (last + 1)).map fun times => Item.half^[times] p
  last : config.option_pointing_disable_momentum_scroll = false →
    sequence.getLast? = some .zero ∧ ∀ item ∈ sequence.dropLast, item ≠ .zero
  single : config.option_pointing_disable_momentum_scroll = true → sequence = [p]

section
variable {config : ScrollConfig}

theorem half_natAbs (delta : Int32) : (delta / 2).toInt.natAbs = delta.toInt.natAbs / 2 := by
  rw [Int32.toInt_div_of_ne_right _ _ (by decide), Int.natAbs_tdiv]
  rfl

theorem toInt_natAbs_pos {delta : Int32} (nonzero : delta ≠ 0) : 0 < delta.toInt.natAbs := by
  rw [Int.natAbs_pos]
  intro zero
  exact nonzero (Int32.toInt_inj.mp zero)

theorem momentum_eq_some {p next : Item} (follows : p.momentum config = some next) :
    next = p.half ∧ p ≠ .zero := by
  unfold Item.momentum at follows
  split at follows
  · next goes =>
      refine ⟨(Option.some.inj follows).symm, fun zero => ?_⟩
      subst zero
      exact goes.2.elim (fun ne => ne rfl) (fun ne => ne rfl)
  · exact absurd follows (by simp)

theorem momentum_eq_none_iff {p : Item} :
    p.momentum config = none ↔
      config.option_pointing_disable_momentum_scroll = true ∨ p = .zero := by
  obtain ⟨delta1, delta2⟩ := p
  unfold Item.momentum Item.zero
  cases config.option_pointing_disable_momentum_scroll <;> simp

/-- The sum of the magnitudes falls. -/
def scrolling (config : ScrollConfig) : RoundRobin Item where
  next := Item.momentum config
  rank p := p.delta1.toInt.natAbs + p.delta2.toInt.natAbs
  falls := by
    intro p next follows
    obtain ⟨rfl, nonzero⟩ := momentum_eq_some follows
    have moves : p.delta1 ≠ 0 ∨ p.delta2 ≠ 0 := by
      by_contra still
      rw [not_or, not_not, not_not] at still
      exact nonzero (congrArg₂ Item.mk still.1 still.2)
    show (p.delta1 / 2).toInt.natAbs + (p.delta2 / 2).toInt.natAbs < _
    rw [half_natAbs, half_natAbs]
    cases moves with
    | inl first =>
        have positive := toInt_natAbs_pos first
        omega
    | inr second =>
        have positive := toInt_natAbs_pos second
        omega

theorem chain_diesOut (config : ScrollConfig) (p : Item) :
    DiesOut config p ((scrolling config).chain p) := by
  obtain ⟨last, chain, ends⟩ := (scrolling config).chain_iterates
    (fun _ _ follows => (momentum_eq_some follows).1) p
  have stops := momentum_eq_none_iff.mp ends
  refine ⟨⟨last, chain⟩, fun enabled => ⟨?_, fun item inner zero => ?_⟩,
    fun disabled => ?_⟩
  · rw [chain, List.range_succ, List.map_append, List.map_singleton, List.getLast?_concat]
    cases stops with
    | inl disabled => exact absurd (enabled.symm.trans disabled) (by simp)
    | inr zero => rw [zero]
  · exact (scrolling config).next_of_mem_dropLast inner (momentum_eq_none_iff.mpr (.inr zero))
  · exact (scrolling config).chain_none (momentum_eq_none_iff.mpr (.inl disabled))

/-- A callback is a turn of the queue, and the timer is set while the queue has items. -/
theorem callback_turn {shared : Shared} (armed : Armed shared.queue_ shared.timer_) :
    (shared.callback_ config).1.queue_ = ((scrolling config).turn shared.queue_).1 ∧
      (shared.callback_ config).2 =
        ((scrolling config).turn shared.queue_).2.map (Item.fired config) ∧
      Armed (shared.callback_ config).1.queue_ (shared.callback_ config).1.timer_ := by
  obtain ⟨queue_, timer_⟩ := shared
  cases queue_ with
  | nil =>
      unfold Shared.callback_
      split
      · exact ⟨rfl, rfl, .nil _⟩
      · exact ⟨rfl, rfl, .nil _⟩
  | cons p rest =>
      have active : timer_.active = true := armed (List.cons_ne_nil p rest)
      unfold Shared.callback_
      rw [if_pos active]
      exact ⟨rfl, rfl, .set _ _ _ _⟩

theorem run_turns (calls : Nat) {shared : Shared} (armed : Armed shared.queue_ shared.timer_) :
    (Shared.run config calls shared).1.queue_ = ((scrolling config).run calls shared.queue_).1 ∧
      (Shared.run config calls shared).2 =
        ((scrolling config).run calls shared.queue_).2.map (Item.fired config) := by
  induction calls generalizing shared with
  | zero => exact ⟨rfl, rfl⟩
  | succ calls ih =>
      obtain ⟨queue, fired, kept⟩ := @callback_turn config shared armed
      obtain ⟨queues, later⟩ := ih kept
      rw [queue] at queues later
      refine ⟨queues, ?_⟩
      unfold Shared.run RoundRobin.run
      dsimp only
      rw [fired, later, List.map_append, Option.toList_map]

theorem run_succ (calls : Nat) (shared : Shared) :
    (Shared.run config (calls + 1) shared).1 =
        ((Shared.run config calls shared).1.callback_ config).1 ∧
      (Shared.run config (calls + 1) shared).2 = (Shared.run config calls shared).2 ++
        ((Shared.run config calls shared).1.callback_ config).2.toList := by
  induction calls generalizing shared with
  | zero => exact ⟨rfl, List.append_nil _⟩
  | succ calls ih =>
      obtain ⟨state, fired⟩ := ih (shared.callback_ config).1
      refine ⟨state, ?_⟩
      have unfolded : (Shared.run config (calls + 1 + 1) shared).2 =
        (shared.callback_ config).2.toList ++
          (Shared.run config (calls + 1) (shared.callback_ config).1).2 := rfl
      rw [unfolded, fired, ← List.append_assoc]
      rfl

/-- The callback that finds the queue empty is the last. -/
theorem callback_empty {shared : Shared} (empty : shared.queue_ = []) :
    (shared.callback_ config).1.queue_ = [] ∧
      (shared.callback_ config).1.timer_.active = false ∧ (shared.callback_ config).2 = none := by
  obtain ⟨queue_, timer_⟩ := shared
  dsimp only at empty
  subst empty
  unfold Shared.callback_
  split
  · exact ⟨rfl, rfl, rfl⟩
  · next idle => exact ⟨rfl, eq_false_of_ne_true idle, rfl⟩

/-- Without further events the queue runs empty and the timer is not set again, and what is fired
for the items dies out, one event of each item in a round. -/
theorem run_stops (config : ScrollConfig) (queue_ : List Item) (ms : UInt32) :
    ∃ calls rounds, ∃ sequence : Item → List Item,
      (∀ p, DiesOut config p (sequence p)) ∧
      (∀ p ∈ queue_, (sequence p).length ≤ rounds) ∧
      (Shared.run config calls ⟨queue_, ⟨true, ms⟩⟩).1.queue_ = [] ∧
      (Shared.run config calls ⟨queue_, ⟨true, ms⟩⟩).1.timer_.active = false ∧
      (Shared.run config calls ⟨queue_, ⟨true, ms⟩⟩).2 =
        ((List.range rounds).flatMap fun round =>
          queue_.filterMap fun p => (sequence p)[round]?).map (Item.fired config) := by
  have armed : Armed queue_ ⟨true, ms⟩ := fun _ => rfl
  obtain ⟨highest, low⟩ := (scrolling config).exists_bound queue_
  obtain ⟨turns, empties⟩ := (scrolling config).run_empties queue_ highest low
  obtain ⟨queue, fired⟩ := @run_turns config turns ⟨queue_, ⟨true, ms⟩⟩ armed
  rw [empties] at queue fired
  obtain ⟨state, last⟩ := @run_succ config turns ⟨queue_, ⟨true, ms⟩⟩
  obtain ⟨stays, idle, silent⟩ := @callback_empty config _ queue
  refine ⟨turns + 1, highest, (scrolling config).chain, chain_diesOut config, ?_, ?_, ?_, ?_⟩
  · intro p member
    have bound := (scrolling config).chain_length_le p
    have below := low p member
    omega
  · rw [state, stays]
  · rw [state, idle]
  · rw [last, silent, fired]
    exact List.append_nil _

end

end PointingRelativeToScroll

end Karabiner
