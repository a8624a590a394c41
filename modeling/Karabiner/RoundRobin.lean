import Mathlib.Data.List.Basic
import Mathlib.Logic.Function.Iterate

set_option autoImplicit false

/- A queue that is served in turns: the first leaves it, and what follows from the first, if
anything does, waits at the end. -/

/-- What follows from each item, with a rank that falls. -/
structure RoundRobin (α : Type*) where
  next : α → Option α
  rank : α → Nat
  falls : ∀ {a b}, next a = some b → rank b < rank a

namespace RoundRobin

variable {α : Type*} (robin : RoundRobin α)

/-- The item that is served comes second. -/
def turn : List α → List α × Option α
  | [] => ([], none)
  | first :: rest => (rest ++ (robin.next first).toList, some first)

def run : Nat → List α → List α × List α
  | 0, queue => (queue, [])
  | turns + 1, queue =>
      let (queue, served) := robin.turn queue
      let (queue, later) := run turns queue
      (queue, served.toList ++ later)

/-- An item and all that follows from it. -/
def chain (a : α) : List α :=
  match _follows : robin.next a with
  | none => [a]
  | some b => a :: chain b
  termination_by robin.rank a
  decreasing_by exact robin.falls _follows

theorem run_add (first second : Nat) (queue : List α) :
    robin.run (first + second) queue =
      ((robin.run second (robin.run first queue).1).1,
        (robin.run first queue).2 ++ (robin.run second (robin.run first queue).1).2) := by
  induction first generalizing queue with
  | zero => rw [Nat.zero_add, run, List.nil_append]
  | succ first ih =>
      rw [Nat.succ_add, run, run]
      dsimp only
      rw [ih, List.append_assoc]

/-- A round serves those that wait, in their order. -/
theorem run_round (waiting after : List α) :
    robin.run waiting.length (waiting ++ after) =
      (after ++ waiting.filterMap robin.next, waiting) := by
  induction waiting generalizing after with
  | nil => rw [List.length_nil, run, List.nil_append, List.filterMap_nil, List.append_nil]
  | cons first rest ih =>
      rw [List.length_cons, List.cons_append, run, turn]
      dsimp only
      rw [List.append_assoc, ih]
      cases follows : robin.next first with
      | none => simp [List.filterMap_cons_none follows]
      | some b => simp [List.filterMap_cons_some follows]

theorem chain_none {a : α} (ends : robin.next a = none) : robin.chain a = [a] := by
  rw [chain]
  split
  · rfl
  · next b follows => exact absurd (ends.symm.trans follows) (by simp)

theorem chain_some {a b : α} (follows : robin.next a = some b) :
    robin.chain a = a :: robin.chain b := by
  rw [chain]
  split
  · next ends => exact absurd (follows.symm.trans ends) (by simp)
  · next other same => rw [Option.some.inj (follows.symm.trans same)]

theorem chain_getElem?_zero (a : α) : (robin.chain a)[0]? = some a := by
  cases follows : robin.next a with
  | none => rw [robin.chain_none follows]; rfl
  | some b => rw [robin.chain_some follows]; rfl

theorem chain_getElem?_succ (a : α) (round : Nat) :
    (robin.chain a)[round + 1]? = (robin.next a).bind fun b => (robin.chain b)[round]? := by
  cases follows : robin.next a with
  | none => rw [robin.chain_none follows]; rfl
  | some b => rw [robin.chain_some follows]; rfl

theorem chain_length_le (a : α) : (robin.chain a).length ≤ robin.rank a + 1 := by
  induction rank : robin.rank a using Nat.strongRecOn generalizing a with
  | ind n ih =>
      subst rank
      cases follows : robin.next a with
      | none =>
          rw [robin.chain_none follows, List.length_singleton]
          omega
      | some b =>
          have falls := robin.falls follows
          have rest := ih _ falls b rfl
          rw [robin.chain_some follows, List.length_cons]
          omega

/-- Where what follows is the image of a function, the chain is its iterates. -/
theorem chain_iterates {f : α → α}
    (image : ∀ a b, robin.next a = some b → b = f a) (a : α) :
    ∃ last, robin.chain a = (List.range (last + 1)).map (fun times => f^[times] a) ∧
      robin.next (f^[last] a) = none := by
  induction rank : robin.rank a using Nat.strongRecOn generalizing a with
  | ind n ih =>
      subst rank
      cases follows : robin.next a with
      | none => exact ⟨0, robin.chain_none follows, follows⟩
      | some b =>
          obtain ⟨last, chain, ends⟩ := ih _ (robin.falls follows) b rfl
          have same := image a b follows
          subst same
          refine ⟨last + 1, ?_, ends⟩
          rw [robin.chain_some follows, chain, @List.range_succ_eq_map (last + 1), List.map_cons,
            List.map_map]
          rfl

/-- Something follows from every item before the last. -/
theorem next_of_mem_dropLast {a b : α} (member : b ∈ (robin.chain a).dropLast) :
    robin.next b ≠ none := by
  induction rank : robin.rank a using Nat.strongRecOn generalizing a with
  | ind n ih =>
      subst rank
      cases follows : robin.next a with
      | none =>
          rw [robin.chain_none follows] at member
          exact absurd member List.not_mem_nil
      | some c =>
          have nonempty : robin.chain c ≠ [] := by
            intro empty
            have head := robin.chain_getElem?_zero c
            rw [empty] at head
            exact absurd head (by simp)
          rw [robin.chain_some follows, List.dropLast_cons_of_ne_nil nonempty] at member
          cases List.mem_cons.mp member with
          | inl same =>
              rw [same, follows]
              exact Option.some_ne_none c
          | inr later => exact ih _ (robin.falls follows) later rfl

theorem exists_bound (queue : List α) : ∃ rounds, ∀ a ∈ queue, robin.rank a < rounds := by
  induction queue with
  | nil => exact ⟨0, fun a none => absurd none List.not_mem_nil⟩
  | cons first rest ih =>
      obtain ⟨rounds, low⟩ := ih
      refine ⟨robin.rank first + 1 + rounds, fun a member => ?_⟩
      cases List.mem_cons.mp member with
      | inl same =>
          rw [same]
          omega
      | inr later =>
          have below := low a later
          omega

/-- The queue runs empty, and every item has been followed through its chain, one link a round. -/
theorem run_empties (queue : List α) (rounds : Nat)
    (low : ∀ a ∈ queue, robin.rank a < rounds) :
    ∃ turns, robin.run turns queue =
      ([], (List.range rounds).flatMap fun round =>
        queue.filterMap fun a => (robin.chain a)[round]?) := by
  induction rounds generalizing queue with
  | zero =>
      have none : queue = [] := List.eq_nil_iff_forall_not_mem.mpr fun a member =>
        absurd (low a member) (Nat.not_lt_zero _)
      subst none
      exact ⟨0, rfl⟩
  | succ rounds ih =>
      have round := robin.run_round queue []
      rw [List.append_nil, List.nil_append] at round
      have lower : ∀ b ∈ queue.filterMap robin.next, robin.rank b < rounds := by
        intro b member
        obtain ⟨a, inside, follows⟩ := List.mem_filterMap.mp member
        have falls := robin.falls follows
        have bound := low a inside
        omega
      obtain ⟨turns, rest⟩ := ih _ lower
      refine ⟨queue.length + turns, ?_⟩
      rw [run_add, round, rest, List.range_succ_eq_map, List.flatMap_cons, List.flatMap_map]
      simp only [chain_getElem?_zero, chain_getElem?_succ, List.filterMap_some,
        List.filterMap_filterMap]

end RoundRobin
