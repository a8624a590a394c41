import Mathlib.Data.List.Basic
import Mathlib.Tactic.Common

set_option autoImplicit false

/- Length-prefixed frames over words that hold a length. A frame is the length of its
body and then the body. -/
namespace Framing

variable {Word : Type*}

def frame (encode : Nat → Word) (body : List Word) : List Word := encode body.length :: body

/-- Split off so many frames; the words after them are left over. -/
def split (decode : Word → Nat) : Nat → List Word → Option (List (List Word) × List Word)
  | 0, words => some ([], words)
  | _ + 1, [] => none
  | count + 1, size :: words =>
      if decode size ≤ words.length then
        (split decode count (words.drop (decode size))).map fun (bodies, rest) =>
          (words.take (decode size) :: bodies, rest)
      else none

@[simp] theorem frame_length (encode : Nat → Word) (body : List Word) :
    (frame encode body).length = body.length + 1 := by
  simp [frame]

theorem split_append {encode : Nat → Word} {decode : Word → Nat} {bodies : List (List Word)}
    (faithful : ∀ body ∈ bodies, decode (encode body.length) = body.length) (rest : List Word) :
    split decode bodies.length (bodies.flatMap (frame encode) ++ rest) = some (bodies, rest) := by
  induction bodies with
  | nil => rfl
  | cons body bodies ih =>
      have length := faithful body (List.mem_cons_self)
      have tail := ih fun other member => faithful other (List.mem_cons_of_mem _ member)
      simp only [List.length_cons, List.flatMap_cons, List.append_assoc]
      rw [frame, List.cons_append, split, length, if_pos (by simp), List.drop_left,
        List.take_left, tail]
      rfl

theorem split_length {decode : Word → Nat} {count : Nat} {words rest : List Word}
    {bodies : List (List Word)} (split_eq : split decode count words = some (bodies, rest)) :
    bodies.length = count := by
  induction count generalizing words bodies rest with
  | zero =>
      simp only [split, Option.some.injEq, Prod.mk.injEq] at split_eq
      rw [← split_eq.1, List.length_nil]
  | succ count ih =>
      cases words with
      | nil => simp [split] at split_eq
      | cons size words =>
          rw [split] at split_eq
          split at split_eq
          · obtain ⟨⟨tail, left⟩, tail_eq, pair⟩ := Option.map_eq_some_iff.1 split_eq
            simp only [Prod.mk.injEq] at pair
            rw [← pair.1, List.length_cons, ih tail_eq]
          · cases split_eq

end Framing
