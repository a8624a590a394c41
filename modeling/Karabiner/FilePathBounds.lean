import Karabiner.FilePathRun
import Karabiner.FilePathLexical

set_option autoImplicit false

/- Where normalize looks at characters outside of the path. -/
namespace Karabiner.FilePath

open LexicalPath

section

variable {path : List Char} {length n dest src : Nat}

theorem all_compare {pairs : List (Nat × Char)} (inside : ∀ pair ∈ pairs, pair.1 < length) :
    (compare path pairs).All (· < length) := by
  induction pairs with
  | nil => exact Traced.all_pure _ _
  | cons pair pairs ih =>
      obtain ⟨i, c⟩ := pair
      have here : i < length := inside (i, c) List.mem_cons_self
      have rest := ih fun pair member => inside pair (List.mem_cons_of_mem _ member)
      rw [compare, Traced.all_bind]
      refine ⟨by simpa [read] using here, ?_⟩
      split
      · exact rest
      · exact Traced.all_pure _ _

theorem all_processDot (bounded : n ≤ length) : (processDot path n).All (· < length) := by
  have twice (large : 2 < n) :
      (compare path [(n - 2, '/'), (n - 1, '.')]).All (· < length) := by
    apply all_compare
    simp
    omega
  have once (one : n = 1) : (compare path [(0, '.')]).All (· < length) := by
    apply all_compare
    simp
    omega
  unfold processDot
  simp only [Traced.all_ite, Traced.all_bind, Traced.all_pure, implies_true, and_true, true_and]
  exact fun _ => ⟨fun large => ⟨twice large, fun _ => once⟩, fun _ => once⟩

theorem processDot_le (bounded : n ≤ path.length) (some : path ≠ []) :
    (processDot path n).value ≤ n := by
  rw [processDot_value bounded some]
  split
  · exact Nat.sub_le n 2
  · split
    · exact Nat.zero_le n
    · exact Nat.le_refl n

theorem all_getDirnamePosition (inside : path.length ≤ length) (pos : Nat) :
    (getDirnamePosition path (some pos)).All (· < length) := by
  unfold getDirnamePosition
  simp only [Traced.all_ite, Traced.all_bind, Traced.all_pure, implies_true, true_and]
  intro _ low
  refine ⟨by simp [read] at low ⊢; omega, fun _ => ?_⟩
  split <;> exact Traced.all_pure _ _

theorem all_processDotdot (inside : path.length ≤ length) (bounded : n ≤ length) :
    (processDotdot path n).All (· < length) := by
  have thrice (large : 2 < n) :
      (compare path [(n - 3, '/'), (n - 2, '.'), (n - 1, '.')]).All (· < length) ∧
        ((compare path [(n - 3, '/'), (n - 2, '.'), (n - 1, '.')]).value = true →
          (getDirnamePosition path (some (n - 3))).All (· < length)) := by
    refine ⟨all_compare ?_, fun _ => all_getDirnamePosition inside (n - 3)⟩
    simp
    omega
  have five (large : 4 < n) :
      (compare path [(n - 5, '.'), (n - 4, '.'), (n - 3, '/'), (n - 2, '.'), (n - 1, '.')]).All
        (· < length) := by
    apply all_compare
    simp
    omega
  unfold processDotdot
  simp only [Traced.all_ite, Traced.all_bind, Traced.all_pure, implies_true, and_true, true_and]
  exact ⟨fun large => ⟨five large, fun _ => thrice⟩, fun _ => thrice⟩

end

/- A round stays within the path unless nothing is written in front of it. -/
section

variable {original path : List Char} {src dest : Nat}

theorem all_place (inside : src < path.length) (bounded : dest ≤ path.length)
    (positive : dest ≠ 0)
    (less : (processDotdot path (processDot path dest).value).value ≤ dest) :
    (place path dest src).All (· < path.length) := by
  have single := processDot_le bounded (List.ne_nil_of_length_pos (by omega))
  have front : pred dest < path.length := by
    rw [pred, if_neg positive]
    omega
  have pair : (compare path [(pred dest, '/'), (src, '/')]).All (· < path.length) := by
    apply all_compare
    simp [front, inside]
  have reads (i : Nat) (inside : i < path.length) : (read path i).All (· < path.length) := by
    simpa [read] using inside
  unfold place
  simp only [Traced.all_ite, Traced.all_bind, Traced.all_pure, implies_true, and_true, true_and]
  refine ⟨pair, fun _ => ⟨reads src inside, fun _ => ⟨all_processDot bounded,
    all_processDotdot (Nat.le_refl _) (by omega), fun _ => reads 0 (by omega), fun _ =>
      reads _ (by omega)⟩⟩⟩

theorem Written.all_normalizeRound (written : Written original src (path, dest))
    (representable : original.length < 2 ^ 64) (inside : src < original.length) :
    (FilePath.normalizeRound (path, dest) src).All (· < original.length) ↔
      text (isAbsolute original) (scanned (original.take src)) ≠ [] := by
  have behind : dest ≤ src := written.behind
  have length : path.length = original.length := written.length
  have some : path ≠ [] := List.ne_nil_of_length_pos (by omega)
  have none : text (isAbsolute original) (scanned (original.take src)) = [] ↔ dest = 0 := by
    rw [← written.written, List.take_eq_nil_iff]
    exact or_iff_left some
  rw [Ne, none]
  constructor
  · intro all zero
    have first : 2 ^ 64 - 1 ∈ (FilePath.normalizeRound (path, dest) src).events := by
      subst zero
      exact List.mem_cons_self
    have := all _ first
    omega
  · intro positive
    obtain ⟨less, _⟩ := processed (by show dest ≤ path.length; omega) some written.written
      (stacked_process (scanned_isComponent _)) (scanned_noSlash _)
    have placed := (written.placed inside).1
    rw [← length] at inside ⊢
    have within := all_place inside (by omega) positive less
    unfold FilePath.normalizeRound
    simp only [Traced.all_ite, Traced.all_bind, Traced.all_pure, implies_true, and_true, true_and]
    refine ⟨within, fun _ _ => ⟨?_, ?_⟩⟩
    · simpa [FilePath.read] using inside
    · simp only [write, Traced.all_emit, List.mem_singleton, forall_eq]
      omega

theorem all_normalize (path : String) (representable : path.toList.length < 2 ^ 64) :
    (normalize path).All (· < path.toList.length) ↔
      ∀ src, 1 ≤ src → src < path.toList.length →
        text (isAbsolute path.toList) (scanned (path.toList.take src)) ≠ [] := by
  unfold normalize
  generalize path.toList = original at representable
  by_cases some : original = []
  · subst some
    refine iff_of_true (Traced.all_pure _ _) fun src _ high => absurd high ?_
    exact Nat.not_lt_zero src
  · have nonempty : original.isEmpty = false := by simpa using some
    have positive : 0 < original.length := List.length_pos_of_ne_nil some
    have ran := Written.loop original some
    have judged := Traced.all_foldlM_range' 1 (original.length - 1) (Written.start some)
      (fun src _ high state written => written.normalizeRound (by omega))
      (fun src _ high state written => written.all_normalizeRound representable (by omega))
    simp only [nonempty, Bool.false_eq_true, if_false, Traced.all_bind]
    have ends : ∀ state, Written original original.length state →
        (processDot state.1 state.2).All (· < original.length) ∧
          (processDotdot state.1 (processDot state.1 state.2).value).All (· < original.length) ∧
          (if (processDotdot state.1 (processDot state.1 state.2).value).value = 0 then
            (write state.1 0 '.' >>= fun path => pure (String.ofList (path.take 1)))
            else pure (String.ofList (state.1.take
              (processDotdot state.1 (processDot state.1 state.2).value).value))).All
            (· < original.length) := by
      intro state written
      have less := processDot_le (written.length ▸ written.behind)
        (List.ne_nil_of_length_pos (written.length ▸ positive))
      have behind := written.behind
      have within := all_processDotdot (Nat.le_of_eq written.length) (Nat.le_trans less behind)
      refine ⟨all_processDot behind, within, ?_⟩
      simp only [Traced.all_ite, Traced.all_bind, Traced.all_pure, write, Traced.all_emit]
      simpa using fun _ => positive
    have last := ends _ ran
    constructor
    · intro all src low high
      exact judged.1 all.1 src low (by omega)
    · intro all
      exact ⟨judged.2 fun src low high => all src low (by omega), last.1, last.2.1, last.2.2⟩

/-- A part of a relative path leads back to where it starts, and more follows. -/
def ReturnsToStart (path : List Char) : Prop :=
  isAbsolute path = false ∧ ∃ front rest, path = front ++ '/' :: rest ∧ rest ≠ [] ∧
    resolve false (components front) = [] ∧ ¬ LeavesDottedName false (components front)

theorem text_eq_nil_iff {absolute : Bool} {path : List Char} (some : path ≠ []) :
    text absolute (scanned path) = [] ↔ absolute = false ∧
      ∃ front, path = front ++ ['/'] ∧ resolve false (components front) = [] ∧
        ¬ LeavesDottedName false (components front) := by
  obtain ⟨front, c, rfl⟩ := (List.eq_nil_or_concat path).resolve_left some
  rw [List.concat_eq_append]
  by_cases slash : c = '/'
  · subst slash
    rw [scanned_slash, text, List.append_nil, directory_eq_nil_iff]
    constructor
    · intro both
      have nothing := both.2 ▸ both.1
      exact ⟨both.2, front, rfl, process_relative_eq_nil_iff.1 nothing⟩
    · intro known
      obtain ⟨relative, other, same, left⟩ := known
      rw [relative, (List.append_inj' same rfl).1]
      exact ⟨process_relative_eq_nil_iff.2 left, rfl⟩
  · constructor
    · intro nothing
      rw [scanned_append] at nothing
      simp [text, scan, slash] at nothing
    · intro known
      obtain ⟨_, other, same, _⟩ := known
      exact absurd (List.singleton_inj.1 (List.append_inj' same rfl).2) slash

theorem normalize_inside_iff (path : String) (representable : path.toList.length < 2 ^ 64) :
    (normalize path).All (· < path.toList.length) ↔ ¬ ReturnsToStart path.toList := by
  rw [all_normalize path representable]
  generalize path.toList = original
  constructor
  · intro all returns
    obtain ⟨relative, front, rest, same, more, left⟩ := returns
    have length : original.length = front.length + 1 + rest.length := by
      rw [same, List.length_append, List.length_cons]
      omega
    have follows := List.length_pos_of_ne_nil more
    apply all (front.length + 1) (by omega) (by omega)
    have taken : original.take (front.length + 1) = front ++ ['/'] := by
      rw [same, List.append_cons]
      exact List.take_left' (by simp)
    rw [taken]
    exact (text_eq_nil_iff (by simp)).2 ⟨relative, front, rfl, left⟩
  · intro never src low high nothing
    have some : original.take src ≠ [] := by
      apply List.ne_nil_of_length_pos
      rw [List.length_take]
      omega
    obtain ⟨relative, front, taken, left⟩ := (text_eq_nil_iff some).1 nothing
    refine never ⟨relative, front, original.drop src, ?_, ?_, left⟩
    · calc original = original.take src ++ original.drop src := (List.take_append_drop _ _).symm
        _ = front ++ '/' :: original.drop src := by rw [taken, List.append_assoc]; rfl
    · apply List.ne_nil_of_length_pos
      rw [List.length_drop]
      omega

theorem normalize_inside_plain : "a/../../b".toList.length < 2 ^ 64 ∧
    ((normalize "a/../../b").All (· < "a/../../b".toList.length) ↔
      ¬ ReturnsToStart "a/../../b".toList) :=
  ⟨by decide +kernel, normalize_inside_iff "a/../../b" (by decide +kernel)⟩

/-- The slash of "./" is judged by the character in front of the path. -/
theorem normalize_outside : ¬ (normalize "./foo").All (· < "./foo".toList.length) := by
  intro all
  have first : 2 ^ 64 - 1 ∈ (normalize "./foo").events := by decide +kernel
  exact absurd (all _ first) (by decide +kernel)

end

end Karabiner.FilePath
