import Mathlib.Data.List.Basic
import Mathlib.Data.List.Chain
import Mathlib.Data.List.Infix
import Mathlib.Tactic.Common

set_option autoImplicit false

/- Paths of a file system, read component by component. What a path denotes is the stack of
components that is left of it, with the last one first. -/
namespace LexicalPath

abbrev Component := List Char

def dot : Component := ['.']
def dotdot : Component := ['.', '.']

/-- The components behind which there was a slash, and the characters since the last slash. -/
def scan (scanned : List Component × Component) (c : Char) : List Component × Component :=
  if c = '/' then (if scanned.2 = [] then scanned.1 else scanned.1 ++ [scanned.2], [])
  else (scanned.1, scanned.2 ++ [c])

def scanned (path : List Char) : List Component × Component := path.foldl scan ([], [])

def components (path : List Char) : List Component :=
  let (before, last) := scanned path
  if last = [] then before else before ++ [last]

def isAbsolute (path : List Char) : Bool := path.head? = some '/'

/-- The parent of the root is the root. -/
def resolveStep (absolute : Bool) (stack : List Component) (component : Component) :
    List Component :=
  if component = dot then stack
  else if component = dotdot then
    match stack with
    | [] => if absolute then [] else [dotdot]
    | top :: rest => if top = dotdot then dotdot :: stack else rest
  else component :: stack

def resolve (absolute : Bool) (components : List Component) : List Component :=
  components.foldl (resolveStep absolute) []

/-- Both paths lead to the same file, from the same place. -/
def SameFile (path other : List Char) : Prop :=
  isAbsolute path = isAbsolute other ∧
    resolve (isAbsolute path) (components path) = resolve (isAbsolute other) (components other)

structure IsNormal (path : List Char) : Prop where
  slashes : ¬ ['/', '/'] <:+: path
  dots : dot ∈ components path → path = dot
  dotdots : ∀ before component after,
    components path = before ++ component :: dotdot :: after → component = dotdot

/-- A component as it can stand between slashes. -/
def IsComponent (component : Component) : Prop := component ≠ [] ∧ '/' ∉ component

/-- The stack as a path that ends with a slash, if it is not the empty one. -/
def directory (absolute : Bool) : List Component → List Char
  | [] => if absolute then ['/'] else []
  | top :: rest => directory absolute rest ++ top ++ ['/']

/-- The stack as a path without the last slash, apart from the root. -/
def file (absolute : Bool) : List Component → List Char
  | [] => if absolute then ['/'] else []
  | top :: rest => directory absolute rest ++ top

/-- What resolving leaves: no dot, and ".." only where a relative path starts. -/
def Resolved (absolute : Bool) : List Component → Prop
  | [] => True
  | top :: rest =>
      top ≠ dot ∧
        (top = dotdot → match rest with
          | [] => absolute = false
          | below :: _ => below = dotdot) ∧
        Resolved absolute rest

section

variable {absolute : Bool} {stack : List Component} {component : Component}

theorem scanned_append (path more : List Char) :
    scanned (path ++ more) = more.foldl scan (scanned path) := List.foldl_append

theorem scan_noSlash (before : List Component × Component) {text : List Char}
    (noSlash : '/' ∉ text) : text.foldl scan before = (before.1, before.2 ++ text) := by
  induction text generalizing before with
  | nil => simp
  | cons c text ih =>
      have here : c ≠ '/' := fun same => noSlash (same ▸ List.mem_cons_self)
      have rest : '/' ∉ text := fun member => noSlash (List.mem_cons_of_mem c member)
      rw [List.foldl_cons, ih _ rest]
      simp [scan, here]

theorem scanned_noSlash (path : List Char) : '/' ∉ (scanned path).2 := by
  induction path using List.reverseRecOn with
  | nil => simp [scanned]
  | append_singleton path c ih =>
      rw [scanned_append]
      show '/' ∉ (scan (scanned path) c).2
      unfold scan
      split
      · exact List.not_mem_nil
      · next other =>
        rw [List.mem_append, List.mem_singleton]
        rintro (before | same)
        · exact ih before
        · exact other same.symm

theorem scanned_isComponent (path : List Char) :
    ∀ component ∈ (scanned path).1, IsComponent component := by
  induction path using List.reverseRecOn with
  | nil => simp [scanned]
  | append_singleton path c ih =>
      rw [scanned_append]
      show ∀ component ∈ (scan (scanned path) c).1, IsComponent component
      unfold scan
      split
      · split
        · exact ih
        · next some =>
          intro component member
          cases List.mem_append.1 member with
          | inl before => exact ih component before
          | inr last => exact List.mem_singleton.1 last ▸ ⟨some, scanned_noSlash path⟩
      · exact ih

theorem scanned_slash (path : List Char) : scanned (path ++ ['/']) = (components path, []) := by
  rw [scanned_append]
  show scan (scanned path) '/' = _
  unfold scan components
  split <;> simp_all

theorem components_isComponent (path : List Char) :
    ∀ component ∈ components path, IsComponent component := by
  have known := scanned_isComponent (path ++ ['/'])
  rwa [scanned_slash] at known

theorem directory_scanned (known : ∀ component ∈ stack, IsComponent component) :
    scanned (directory absolute stack) = (stack.reverse, []) := by
  induction stack with
  | nil => cases absolute <;> rfl
  | cons top rest ih =>
      obtain ⟨some, noSlash⟩ := known top List.mem_cons_self
      have before := ih fun component member => known component (List.mem_cons_of_mem top member)
      rw [directory, scanned_append, scanned_append, before, scan_noSlash _ noSlash]
      simp [scan, some]

theorem directory_ends (rooted : stack ≠ [] ∨ absolute = true) :
    ∃ before, directory absolute stack = before ++ ['/'] := by
  cases stack with
  | nil =>
      have root : absolute = true := by simpa using rooted
      exact ⟨[], by rw [directory, if_pos root]; rfl⟩
  | cons top rest => exact ⟨directory absolute rest ++ top, rfl⟩

theorem directory_eq_file : ∃ slash, directory absolute stack = file absolute stack ++ slash := by
  cases stack with
  | nil => exact ⟨[], (List.append_nil _).symm⟩
  | cons top rest => exact ⟨['/'], rfl⟩

theorem directory_eq_nil_iff : directory absolute stack = [] ↔ stack = [] ∧
    absolute = false := by
  cases stack with
  | nil => cases absolute <;> simp [directory]
  | cons top rest => simp [directory]

theorem start_or_rooted (absolute : Bool) (stack : List Component) :
    (absolute = false ∧ stack = []) ∨ (stack ≠ [] ∨ absolute = true) := by
  cases stack with
  | nil => cases absolute <;> simp
  | cons top rest => exact .inr (.inl (List.cons_ne_nil top rest))

theorem directory_cases :
    directory absolute stack = [] ∨ ∃ before, directory absolute stack = before ++ ['/'] := by
  cases start_or_rooted absolute stack with
  | inl start => exact .inl (directory_eq_nil_iff.2 ⟨start.2, start.1⟩)
  | inr rooted => exact .inr (directory_ends rooted)

/-- A text with one slash in front fits behind a directory as a whole component. -/
theorem slash_suffix_iff {last text : List Char} (noSlash : '/' ∉ last) (plain : '/' ∉ text) :
    '/' :: text <:+ directory absolute stack ++ last ↔
      last = text ∧ (stack ≠ [] ∨ absolute = true) := by
  by_cases rooted : stack ≠ [] ∨ absolute = true
  · obtain ⟨before, ends⟩ := directory_ends rooted
    rw [and_iff_left rooted, ends, List.append_assoc]
    constructor
    · intro suffix
      have whole : '/' :: last <:+ before ++ ('/' :: last) := List.suffix_append _ _
      cases List.suffix_or_suffix_of_suffix suffix whole with
      | inl shorter =>
          cases List.suffix_cons_iff.1 shorter with
          | inl same => exact (List.cons.inj same).2.symm
          | inr inside => exact absurd (inside.subset List.mem_cons_self) noSlash
      | inr longer =>
          cases List.suffix_cons_iff.1 longer with
          | inl same => exact (List.cons.inj same).2
          | inr inside => exact absurd (inside.subset List.mem_cons_self) plain
    · rintro rfl
      exact List.suffix_append _ _
  · have empty : directory absolute stack = [] := by
      obtain ⟨none, relative⟩ := not_or.1 rooted
      exact directory_eq_nil_iff.2 ⟨not_not.1 none, by simpa using relative⟩
    rw [empty, List.nil_append]
    constructor
    · intro suffix
      exact absurd (suffix.subset List.mem_cons_self) noSlash
    · intro both
      exact absurd both.2 rooted

theorem directory_isAbsolute (known : ∀ component ∈ stack, IsComponent component)
    (text : List Char) (noSlash : '/' ∉ text) :
    isAbsolute (directory absolute stack ++ text) = absolute := by
  have first (stack : List Component) (known : ∀ component ∈ stack, IsComponent component) :
      ∀ more : List Char, stack ≠ [] ∨ absolute = true →
        isAbsolute (directory absolute stack ++ more) = absolute := by
    induction stack with
    | nil =>
        intro more root
        have root : absolute = true := by simpa using root
        simp [directory, root, isAbsolute]
    | cons top rest ih =>
        intro more _
        obtain ⟨some, noSlash⟩ := known top List.mem_cons_self
        have others := ih fun component member => known component (List.mem_cons_of_mem top member)
        rw [directory, List.append_assoc, List.append_assoc]
        by_cases root : rest ≠ [] ∨ absolute = true
        · exact others _ root
        · obtain ⟨none, relative⟩ := not_or.1 root
          obtain ⟨c, tail, rfl⟩ := List.exists_cons_of_ne_nil some
          have other : c ≠ '/' := fun same => noSlash (same ▸ List.mem_cons_self)
          have relative : absolute = false := by simpa using relative
          simp [not_not.1 none, directory, relative, isAbsolute, other]
  by_cases root : stack ≠ [] ∨ absolute = true
  · exact first stack known text root
  · obtain ⟨none, relative⟩ := not_or.1 root
    have relative : absolute = false := by simpa using relative
    cases text with
    | nil => simp [not_not.1 none, directory, relative, isAbsolute]
    | cons c text =>
        have other : c ≠ '/' := fun same => noSlash (same ▸ List.mem_cons_self)
        simp [not_not.1 none, directory, relative, isAbsolute, other]

theorem resolved_resolveStep (resolved : Resolved absolute stack) :
    Resolved absolute (resolveStep absolute stack component) := by
  have dots : dotdot ≠ dot := by decide
  unfold resolveStep
  split
  · exact resolved
  · next single =>
    split
    · cases stack with
      | nil =>
          cases absolute with
          | true => trivial
          | false => exact ⟨dots, fun _ => rfl, trivial⟩
      | cons top rest =>
          dsimp only
          split
          · next same => exact ⟨dots, fun _ => same, resolved⟩
          · exact resolved.2.2
    · next double => exact ⟨single, fun same => absurd same double, resolved⟩

theorem resolved_resolve (components : List Component) :
    Resolved absolute (resolve absolute components) := by
  induction components using List.reverseRecOn with
  | nil => trivial
  | append_singleton components component ih =>
      rw [resolve, List.foldl_append]
      exact resolved_resolveStep ih

/-- Every component of what is resolved stays when it is resolved again. -/
theorem resolve_reverse (resolved : Resolved absolute stack) :
    resolve absolute stack.reverse = stack := by
  induction stack with
  | nil => rfl
  | cons top rest ih =>
      rw [List.reverse_cons, resolve, List.foldl_append]
      have before : rest.reverse.foldl (resolveStep absolute) [] = rest := ih resolved.2.2
      rw [before]
      show resolveStep absolute rest top = top :: rest
      unfold resolveStep
      rw [if_neg resolved.1]
      by_cases double : top = dotdot
      · rw [if_pos double]
        have below := resolved.2.1 double
        cases rest with
        | nil =>
            have relative : absolute = false := below
            simp [relative, double]
        | cons next others =>
            have same : next = dotdot := below
            simp [same, double]
      · rw [if_neg double]

theorem Resolved.no_dot (resolved : Resolved absolute stack) : dot ∉ stack := by
  induction stack with
  | nil => exact List.not_mem_nil
  | cons top rest ih =>
      intro member
      cases List.mem_cons.1 member with
      | inl same => exact resolved.1 same.symm
      | inr below => exact ih resolved.2.2 below

theorem Resolved.below_dotdot {above below : List Component}
    (resolved : Resolved absolute (above ++ dotdot :: component :: below)) :
    component = dotdot := by
  induction above with
  | nil => exact resolved.2.1 rfl
  | cons top rest ih => exact ih resolved.2.2

/- Paths that are written from a stack. -/

theorem components_directory (known : ∀ component ∈ stack, IsComponent component) :
    components (directory absolute stack) = stack.reverse := by
  rw [components, directory_scanned known]
  rfl

theorem file_scanned {top : Component} {rest : List Component}
    (known : ∀ component ∈ top :: rest, IsComponent component) :
    scanned (file absolute (top :: rest)) = (rest.reverse, top) := by
  have before := fun component member => known component (List.mem_cons_of_mem top member)
  rw [file, scanned_append, directory_scanned before,
    scan_noSlash _ (known top List.mem_cons_self).2]
  rfl

theorem components_file (known : ∀ component ∈ stack, IsComponent component) :
    components (file absolute stack) = stack.reverse := by
  cases stack with
  | nil => exact components_directory known
  | cons top rest =>
      rw [components, file_scanned known]
      simp [(known top List.mem_cons_self).1]

/-- No two slashes stand next to each other. -/
def SingleSlashes (path : List Char) : Prop := path.IsChain fun c next => c ≠ '/' ∨ next ≠ '/'

theorem SingleSlashes.no_double {path : List Char} (single : SingleSlashes path) :
    ¬ ['/', '/'] <:+: path := by
  intro double
  obtain ⟨before, after, same⟩ := double
  have either := List.isChain_iff_forall_rel_of_append_cons_cons.1 single
    (show path = before ++ '/' :: '/' :: after by rw [← same]; simp)
  exact either.elim (fun no => no rfl) fun no => no rfl

theorem SingleSlashes.append {path : List Char} {text : Component} (single : SingleSlashes path)
    (noSlash : '/' ∉ text) : SingleSlashes (path ++ text) := by
  have other (c : Char) (member : c ∈ text) : c ≠ '/' := fun same => noSlash (same ▸ member)
  refine List.isChain_append.2 ⟨single, ?_, ?_⟩
  · apply List.isChain_iff_forall_rel_of_append_cons_cons.2
    intro c next before after same
    exact .inl (other c (by simp [same]))
  · intro _ _ next first
    exact .inr (other next (List.mem_of_mem_head? first))

theorem singleSlashes_directory (known : ∀ component ∈ stack, IsComponent component) :
    SingleSlashes (directory absolute stack) := by
  induction stack with
  | nil =>
      cases absolute with
      | true => exact List.isChain_singleton '/'
      | false => exact List.isChain_nil
  | cons top rest ih =>
      obtain ⟨some, noSlash⟩ := known top List.mem_cons_self
      have before := ih fun component member => known component (List.mem_cons_of_mem top member)
      refine List.isChain_append.2 ⟨before.append noSlash, List.isChain_singleton '/', ?_⟩
      intro c last _ _
      rw [List.getLast?_append_of_ne_nil _ some] at last
      exact .inl fun same => noSlash (same ▸ List.mem_of_getLast? last)

theorem singleSlashes_file (known : ∀ component ∈ stack, IsComponent component) :
    SingleSlashes (file absolute stack) := by
  cases stack with
  | nil => exact singleSlashes_directory known
  | cons top rest =>
      have before := fun component member => known component (List.mem_cons_of_mem top member)
      exact (singleSlashes_directory before).append (known top List.mem_cons_self).2

end

end LexicalPath
