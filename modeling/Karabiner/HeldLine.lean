import Karabiner.Transition
import Mathlib.Data.List.DropRight
import Mathlib.Data.List.Perm.Basic

set_option autoImplicit false

/- A line that is served in the order of arrival and can hold back what is next. The only
move that changes the order lets a newcomer overtake some of what is held back. -/
namespace HeldLine

variable {α : Type*}

/-- Behind the last item that matches, or in front of all where none does. -/
def insertAfterLast (matching : α → Bool) (a : α) (items : List α) : List α :=
  items.rdropWhile (fun b => !matching b) ++ a :: items.rtakeWhile (fun b => !matching b)

theorem insertAfterLast_nil (matching : α → Bool) (a : α) :
    insertAfterLast matching a [] = [a] := by
  simp [insertAfterLast]

theorem insertAfterLast_concat (matching : α → Bool) (a b : α) (items : List α) :
    insertAfterLast matching a (items ++ [b]) =
      if matching b then items ++ [b, a] else insertAfterLast matching a items ++ [b] := by
  by_cases matches_b : matching b <;> simp [insertAfterLast, matches_b]

theorem insertAfterLast_of_last {matching : α → Bool} {b : α} {after : List α}
    (matches_b : matching b = true) (none_after : ∀ c ∈ after, matching c = false) (a : α)
    (before : List α) :
    insertAfterLast matching a (before ++ b :: after) = before ++ b :: a :: after := by
  induction after using List.reverseRecOn with
  | nil => simp [insertAfterLast_concat, matches_b]
  | append_singleton after c ih =>
      have skip : matching c = false := none_after c (by simp)
      have rest := ih fun d member => none_after d (by simp [member])
      have regroup : before ++ b :: (after ++ [c]) = (before ++ b :: after) ++ [c] := by simp
      rw [regroup, insertAfterLast_concat, rest]
      simp [skip]

theorem insertAfterLast_of_none {matching : α → Bool} {items : List α}
    (none_matches : ∀ b ∈ items, matching b = false) (a : α) :
    insertAfterLast matching a items = a :: items := by
  have dropped : items.rdropWhile (fun b => !matching b) = [] := by
    rw [List.rdropWhile_eq_nil_iff]
    intro b member
    simp [none_matches b member]
  have taken : items.rtakeWhile (fun b => !matching b) = items := by
    rw [List.rtakeWhile_eq_self_iff]
    intro b member
    simp [none_matches b member]
  rw [insertAfterLast, dropped, taken, List.nil_append]

theorem insertAfterLast_map {β : Type*} (f : α → β) (matching : β → Bool) (a : α)
    (items : List α) :
    (insertAfterLast (fun b => matching (f b)) a items).map f =
      insertAfterLast matching (f a) (items.map f) := by
  induction items using List.reverseRecOn with
  | nil => simp [insertAfterLast_nil]
  | append_singleton items b ih =>
      simp only [List.map_append, List.map_cons, List.map_nil, insertAfterLast_concat]
      by_cases matches_b : matching (f b)
      · simp [matches_b]
      · simp [matches_b, ih]

theorem insertAfterLast_perm (matching : α → Bool) (a : α) (items : List α) :
    (insertAfterLast matching a items).Perm (items ++ [a]) := by
  have middle : (insertAfterLast matching a items).Perm
      (a :: (items.rdropWhile (fun b => !matching b) ++
        items.rtakeWhile (fun b => !matching b))) := List.perm_middle
  rw [List.rdropWhile_append_rtakeWhile] at middle
  exact middle.trans (List.perm_append_singleton a items).symm

structure Line (α : Type*) where
  served : List α
  held : List α
  waiting : List α

inductive Move (α : Type*) where
  | arrive (a : α)
  | serve
  | hold
  | release
  | overtake (matching : α → α → Bool)

namespace Line

def order (line : Line α) : List α := line.served ++ line.held ++ line.waiting

/-- Nothing is served past what is held back. -/
def move (line : Line α) : Move α → Line α
  | .arrive a => { line with waiting := line.waiting ++ [a] }
  | .serve =>
      match line.held, line.waiting with
      | [], a :: rest => { line with served := line.served ++ [a], waiting := rest }
      | _, _ => line
  | .hold =>
      match line.waiting with
      | a :: rest => { line with held := line.held ++ [a], waiting := rest }
      | [] => line
  | .release => { line with held := [], waiting := line.held ++ line.waiting }
  | .overtake matching =>
      match line.waiting with
      | a :: rest =>
          { line with held := [], waiting := insertAfterLast (matching a) a line.held ++ rest }
      | [] => line

end Line

/-- The order after the first one that waits has overtaken, of a line where so many are
served and so many are held back. -/
def overtake (served held : Nat) (matching : α → α → Bool) (order : List α) : List α :=
  match order.drop (served + held) with
  | a :: rest =>
      order.take served ++ insertAfterLast (matching a) a ((order.drop served).take held) ++ rest
  | [] => order

namespace Move

def arrivals : Move α → List α
  | .arrive a => [a]
  | _ => []

/-- The moves that leave the order as it is. -/
inductive Quiet : Move α → Prop where
  | serve : Quiet .serve
  | hold : Quiet .hold
  | release : Quiet .release

end Move

theorem overtake_order (line : Line α) (matching : α → α → Bool) :
    overtake line.served.length line.held.length matching line.order =
      (line.move (.overtake matching)).order := by
  obtain ⟨served, held, waiting⟩ := line
  have rest : (served ++ held ++ waiting).drop (served.length + held.length) = waiting := by
    rw [← List.length_append, List.drop_left]
  have middle : ((served ++ held ++ waiting).drop served.length).take held.length = held := by
    rw [List.append_assoc, List.drop_left, List.take_left]
  have front : (served ++ held ++ waiting).take served.length = served := by
    rw [List.append_assoc, List.take_left]
  simp only [overtake, Line.order, Line.move, rest, middle, front]
  cases waiting with
  | nil => simp
  | cons a waiting => simp

theorem order_quiet {move : Move α} (quiet : move.Quiet) (line : Line α) :
    (line.move move).order = line.order := by
  obtain ⟨served, held, waiting⟩ := line
  cases quiet with
  | serve => cases held <;> cases waiting <;> simp [Line.move, Line.order]
  | hold => cases waiting <;> simp [Line.move, Line.order]
  | release => simp [Line.move, Line.order]

theorem order_move_perm (line : Line α) (move : Move α) :
    (line.move move).order.Perm (line.order ++ move.arrivals) := by
  cases move with
  | arrive a => simp [Line.move, Line.order, Move.arrivals]
  | serve => simp [order_quiet .serve, Move.arrivals]
  | hold => simp [order_quiet .hold, Move.arrivals]
  | release => simp [order_quiet .release, Move.arrivals]
  | overtake matching =>
      obtain ⟨served, held, waiting⟩ := line
      cases waiting with
      | nil => simp [Line.move, Line.order, Move.arrivals]
      | cons a waiting =>
          have inserted := insertAfterLast_perm (matching a) a held
          have placed := (inserted.append_left served).append_right waiting
          simpa [Line.move, Line.order, Move.arrivals] using placed

theorem served_prefix_move (line : Line α) (move : Move α) :
    line.served <+: (line.move move).served := by
  obtain ⟨served, held, waiting⟩ := line
  cases move <;> cases held <;> cases waiting <;> simp [Line.move]

theorem order_run_quiet {moves : List (Move α)} (quiet : ∀ move ∈ moves, move.Quiet)
    (line : Line α) : (Transition.run Line.move line moves).order = line.order := by
  induction moves generalizing line with
  | nil => rfl
  | cons move moves ih =>
      rw [Transition.run_cons, ih (fun m member => quiet m (by simp [member])),
        order_quiet (quiet move (by simp))]

theorem order_run_perm (line : Line α) (moves : List (Move α)) :
    (Transition.run Line.move line moves).order.Perm
      (line.order ++ moves.flatMap Move.arrivals) := by
  induction moves generalizing line with
  | nil => simp
  | cons move moves ih =>
      have first := (order_move_perm line move).append_right (moves.flatMap Move.arrivals)
      rw [List.append_assoc] at first
      exact (ih (line.move move)).trans first

theorem served_prefix_run (line : Line α) (moves : List (Move α)) :
    line.served <+: (Transition.run Line.move line moves).served := by
  induction moves generalizing line with
  | nil => exact List.prefix_refl _
  | cons move moves ih => exact (served_prefix_move line move).trans (ih _)

end HeldLine
