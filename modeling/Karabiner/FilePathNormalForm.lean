import Karabiner.FilePathRun
import Karabiner.FilePathLexical

set_option autoImplicit false

/- What normalize returns is the normal form of the path, up to two kinds of names. -/
namespace Karabiner.FilePath

open LexicalPath

structure NormalForm (path : String) : Prop where
  same : SameFile path.toList (normalize path).value.toList
  normal : IsNormal (normalize path).value.toList
  again : (normalize (normalize path).value).value = (normalize path).value

section

variable {absolute : Bool} {stack : List Component}

/-- The stack as normalize leaves it. -/
def leftPath (absolute : Bool) (stack : List Component) (slash : Bool) : List Char :=
  let left := if slash then directory absolute stack else file absolute stack
  if left = [] then dot else left

theorem finished_components (absolute : Bool) (path : List Char) :
    finished absolute (process absolute (scanned path).1) (scanned path).2 =
      if (scanned path).2 = [] then directory absolute (process absolute (components path))
      else file absolute (process absolute (components path)) := by
  unfold finished components
  by_cases none : (scanned path).2 = []
  · simp only [none, if_true]
  · simp only [none, if_false, process_append_singleton]

theorem normalize_leaves (path : String) :
    ∃ slash, (normalize path).value.toList =
      leftPath (isAbsolute path.toList)
        (process (isAbsolute path.toList) (components path.toList)) slash := by
  rw [normalize_value, finished_components]
  by_cases none : (scanned path.toList).2 = []
  · exact ⟨true, by simp only [none, if_true, leftPath]⟩
  · exact ⟨false, by simp only [none, if_false, leftPath, Bool.false_eq_true]⟩

theorem leftPath_start (slash : Bool) : leftPath false [] slash = dot := by cases slash <;> rfl

theorem leftPath_rooted (known : ∀ component ∈ stack, IsComponent component)
    (rooted : stack ≠ [] ∨ absolute = true) (slash : Bool) :
    leftPath absolute stack slash =
      if slash then directory absolute stack else file absolute stack := by
  have some : directory absolute stack ≠ [] := by
    rw [Ne, directory_eq_nil_iff]
    rintro ⟨none, relative⟩
    exact rooted.elim (fun more => more none) fun root => by simp [relative] at root
  have someFile : file absolute stack ≠ [] := by
    cases stack with
    | nil => exact some
    | cons top rest =>
        exact List.append_ne_nil_of_right_ne_nil _ (known top List.mem_cons_self).1
  unfold leftPath
  cases slash with
  | true => exact if_neg some
  | false => exact if_neg someFile

theorem leftPath_components (known : ∀ component ∈ stack, IsComponent component)
    (rooted : stack ≠ [] ∨ absolute = true) (slash : Bool) :
    components (leftPath absolute stack slash) = stack.reverse := by
  rw [leftPath_rooted known rooted]
  cases slash with
  | true => exact components_directory known
  | false => exact components_file known

theorem leftPath_isAbsolute (known : ∀ component ∈ stack, IsComponent component)
    (slash : Bool) :
    isAbsolute (leftPath absolute stack slash) = absolute := by
  cases start_or_rooted absolute stack with
  | inl start =>
      obtain ⟨rfl, rfl⟩ := start
      rw [leftPath_start]
      rfl
  | inr rooted =>
      have whole : isAbsolute (directory absolute stack) = absolute := by
        simpa using @directory_isAbsolute absolute stack known [] List.not_mem_nil
      rw [leftPath_rooted known rooted]
      cases slash with
      | true => exact whole
      | false =>
          cases stack with
          | nil => exact whole
          | cons top rest =>
              exact directory_isAbsolute
                (fun component member => known component (List.mem_cons_of_mem top member)) top
                (known top List.mem_cons_self).2

theorem processStep_resolved {top : Component} (resolved : Resolved absolute (top :: stack)) :
    processStep absolute stack top = top :: stack := by
  unfold processStep
  rw [if_neg resolved.1]
  by_cases double : top = dotdot
  · rw [if_pos double]
    have below := resolved.2.1 double
    cases stack with
    | nil =>
        have relative : absolute = false := below
        simp [relative, double]
    | cons next others =>
        have same : next = dotdot := below
        have long : endsInDots dotdot = true := by decide
        simp [same, long, double]
  · rw [if_neg double]

theorem process_reverse (resolved : Resolved absolute stack) :
    process absolute stack.reverse = stack := by
  induction stack with
  | nil => rfl
  | cons top rest ih =>
      rw [List.reverse_cons, process_append_singleton, ih resolved.2.2]
      exact processStep_resolved resolved

theorem leftPath_normal (resolved : Resolved absolute stack)
    (known : ∀ component ∈ stack, IsComponent component) (slash : Bool) :
    IsNormal (leftPath absolute stack slash) := by
  cases start_or_rooted absolute stack with
  | inl start =>
      obtain ⟨rfl, rfl⟩ := start
      rw [leftPath_start]
      refine ⟨by decide, fun _ => rfl, ?_⟩
      intro before component after split
      have single : components dot = [dot] := rfl
      rw [single] at split
      have length := congrArg List.length split
      simp only [List.length_append, List.length_cons, List.length_nil] at length
      omega
  | inr rooted =>
      have written := leftPath_components known rooted slash
      refine ⟨?_, ?_, ?_⟩
      · rw [leftPath_rooted known rooted]
        cases slash with
        | true => exact (singleSlashes_directory known).no_double
        | false => exact (singleSlashes_file known).no_double
      · intro member
        rw [written, List.mem_reverse] at member
        exact absurd member resolved.no_dot
      · intro before component after split
        have stacked : stack = after.reverse ++ dotdot :: component :: before.reverse := by
          rw [← List.reverse_reverse stack, ← written, split]
          simp
        rw [stacked] at resolved
        exact resolved.below_dotdot

theorem leftPath_resolve (resolved : Resolved absolute stack)
    (known : ∀ component ∈ stack, IsComponent component) (slash : Bool) :
    resolve absolute (components (leftPath absolute stack slash)) = stack := by
  cases start_or_rooted absolute stack with
  | inl start =>
      obtain ⟨rfl, rfl⟩ := start
      rw [leftPath_start]
      rfl
  | inr rooted => rw [leftPath_components known rooted, resolve_reverse resolved]

theorem leftPath_again (resolved : Resolved absolute stack)
    (known : ∀ component ∈ stack, IsComponent component) (slash : Bool) (path : String)
    (left : path.toList = leftPath absolute stack slash) :
    (normalize path).value.toList = leftPath absolute stack slash := by
  have root := @leftPath_isAbsolute absolute stack known slash
  rw [normalize_value, finished_components, left, root]
  cases start_or_rooted absolute stack with
  | inl start =>
      obtain ⟨rfl, rfl⟩ := start
      rw [leftPath_start]
      rfl
  | inr rooted =>
      rw [leftPath_components known rooted slash, process_reverse resolved]
      have same : (if (scanned (leftPath absolute stack slash)).2 = [] then directory absolute stack
          else file absolute stack) = if slash then directory absolute stack
            else file absolute stack := by
        rw [leftPath_rooted known rooted]
        cases slash with
        | true =>
            show (if (scanned (directory absolute stack)).2 = [] then _ else _) = _
            rw [directory_scanned known]
            rfl
        | false =>
            cases stack with
            | nil => exact ite_self _
            | cons top rest =>
                show (if (scanned (file absolute (top :: rest))).2 = [] then _ else _) = _
                rw [file_scanned known]
                exact if_neg (known top List.mem_cons_self).1
      rw [same]
      rfl

/-- The result is normal unless a ".." leads out of a name that ends in two dots, or a dot stays
behind the root. -/
theorem normalForm_iff (path : String) :
    NormalForm path ↔
      ¬ LeavesDottedName (isAbsolute path.toList) (components path.toList) ∧
        (isAbsolute path.toList = true → ¬ EndsRootDot (components path.toList)) := by
  obtain ⟨slash, left⟩ := normalize_leaves path
  have known : ∀ component ∈ process (isAbsolute path.toList) (components path.toList),
      IsComponent component :=
    (stacked_process (components_isComponent path.toList)).isComponent
  constructor
  · intro form
    have plain : ¬ LeavesDottedName (isAbsolute path.toList) (components path.toList) := by
      intro leaves
      obtain ⟨above, name, below, same, other⟩ := process_leaves leaves
      have written :=
        @leftPath_components (isAbsolute path.toList) _ known (.inl (by simp [same])) slash
      rw [same] at written
      apply other
      apply form.normal.dotdots below.reverse name above.reverse
      rw [left, same, written]
      simp
    refine ⟨plain, fun root ends => ?_⟩
    obtain ⟨tail, same, marked⟩ := process_absolute (root ▸ plain)
    have dotted := (marked.resolve_left fun bare => bare.2 ends).1
    have written := @leftPath_components (isAbsolute path.toList) _ known (.inr root) slash
    have member : dot ∈ components (normalize path).value.toList := by
      rw [left, written, root, same, dotted]
      simp
    have alone := form.normal.dots member
    have absolute := @leftPath_isAbsolute (isAbsolute path.toList) _ known slash
    rw [← left, alone, root] at absolute
    exact absurd absolute (by decide)
  · intro plain
    have same : process (isAbsolute path.toList) (components path.toList) =
        resolve (isAbsolute path.toList) (components path.toList) := by
      cases root : isAbsolute path.toList with
      | false => exact process_relative (root ▸ plain.1)
      | true =>
          obtain ⟨tail, same, marked⟩ := process_absolute (root ▸ plain.1)
          have bare := marked.resolve_right fun dotted => plain.2 root dotted.2
          rw [same, bare.1, List.append_nil]
    rw [same] at left known
    have resolved := @resolved_resolve (isAbsolute path.toList) (components path.toList)
    have root := @leftPath_isAbsolute (isAbsolute path.toList) _ known slash
    refine ⟨⟨by rw [left, root], ?_⟩, left ▸ leftPath_normal resolved known slash, ?_⟩
    · rw [left, root, leftPath_resolve resolved known]
    · apply String.toList_injective
      rw [leftPath_again resolved known slash _ left, left]

theorem normalize_root_dot : ¬ NormalForm "/./a" := by
  intro form
  have left : (normalize "/./a").value.toList = ['/', '.', '/', 'a'] := by decide +kernel
  have alone := form.normal.dots (by rw [left]; decide)
  rw [left] at alone
  exact absurd alone (by decide)

end

end Karabiner.FilePath
