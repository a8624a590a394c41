import Karabiner.FilePathNormal

set_option autoImplicit false

/- Where the components that normalize leaves differ from what the path denotes. -/
namespace Karabiner.FilePath

open LexicalPath

/-- One of the ".." leads out of a directory whose longer name ends in two dots. -/
def LeavesDottedName (absolute : Bool) (components : List Component) : Prop :=
  ∃ before after name below, components = before ++ dotdot :: after ∧
    resolve absolute before = name :: below ∧ endsInDots name = true ∧ name ≠ dotdot

/-- There is a dot right behind the root, and no later ".." there. -/
def EndsRootDot (components : List Component) : Prop :=
  ∃ before after, components = before ++ dot :: after ∧ resolve true before = [] ∧
    ∀ middle rest, after = middle ++ dotdot :: rest →
      resolve true (before ++ dot :: middle) ≠ []

section

variable {absolute : Bool} {components : List Component} {component : Component}

theorem resolve_append_singleton : resolve absolute (components ++ [component]) =
    resolveStep absolute (resolve absolute components) component := by
  rw [resolve, List.foldl_append]
  rfl

theorem process_append_singleton : process absolute (components ++ [component]) =
    processStep absolute (process absolute components) component := by
  rw [process, List.foldl_append]
  rfl

/-- A place in a list with one more entry is the last one or a place in the list. -/
theorem append_singleton_split {α : Type} {items before after : List α} {item last : α}
    (split : items ++ [last] = before ++ item :: after) :
    (before = items ∧ item = last ∧ after = []) ∨
      ∃ front, after = front ++ [last] ∧ items = before ++ item :: front := by
  cases List.eq_nil_or_concat after with
  | inl none =>
      subst none
      obtain ⟨same, ends⟩ := List.append_inj' split rfl
      exact .inl ⟨same.symm, (List.singleton_inj.1 ends).symm, rfl⟩
  | inr some =>
      obtain ⟨front, ending, rfl⟩ := some
      have split : items ++ [last] = (before ++ item :: front) ++ [ending] := by
        simpa using split
      obtain ⟨same, ends⟩ := List.append_inj' split rfl
      exact .inr ⟨front, by rw [List.singleton_inj.1 ends, List.concat_eq_append], same⟩

theorem leavesDottedName_append_singleton :
    LeavesDottedName absolute (components ++ [component]) ↔
      LeavesDottedName absolute components ∨
        (component = dotdot ∧ ∃ name below, resolve absolute components = name :: below ∧
          endsInDots name = true ∧ name ≠ dotdot) := by
  constructor
  · intro leaves
    obtain ⟨before, after, name, below, split, known⟩ := leaves
    cases append_singleton_split split with
    | inl last =>
        obtain ⟨rfl, rfl, _⟩ := last
        exact .inr ⟨rfl, name, below, known⟩
    | inr earlier =>
        obtain ⟨front, _, same⟩ := earlier
        exact .inl ⟨before, front, name, below, same, known⟩
  · intro either
    cases either with
    | inl earlier =>
        obtain ⟨before, after, name, below, same, known⟩ := earlier
        exact ⟨before, after ++ [component], name, below, by rw [same]; simp, known⟩
    | inr last =>
        obtain ⟨same, name, below, known⟩ := last
        exact ⟨components, [], name, below, by rw [same], known⟩

theorem endsRootDot_append_singleton :
    EndsRootDot (components ++ [component]) ↔
      (component = dot ∧ resolve true components = []) ∨
        (EndsRootDot components ∧ ¬ (component = dotdot ∧ resolve true components = [])) := by
  constructor
  · intro ends
    obtain ⟨before, after, split, root, stays⟩ := ends
    cases append_singleton_split split with
    | inl last =>
        obtain ⟨rfl, same, _⟩ := last
        exact .inl ⟨same.symm, root⟩
    | inr earlier =>
        obtain ⟨front, rfl, rfl⟩ := earlier
        refine .inr ⟨⟨before, front, rfl, root, ?_⟩, ?_⟩
        · intro middle rest split
          exact stays middle (rest ++ [component]) (by rw [split]; simp)
        · intro both
          exact stays front [] (by rw [both.1]) both.2
  · intro either
    cases either with
    | inl last =>
        refine ⟨components, [], by rw [last.1], last.2, fun middle rest nothing => ?_⟩
        exact absurd nothing (by simp)
    | inr earlier =>
        obtain ⟨⟨before, after, same, root, stays⟩, kept⟩ := earlier
        refine ⟨before,
          after ++ [component], by rw [same]; simp, root, fun middle rest split => ?_⟩
        cases append_singleton_split split with
        | inl last =>
            obtain ⟨rfl, double, _⟩ := last
            exact fun nothing => kept ⟨double.symm, same ▸ nothing⟩
        | inr inside =>
            obtain ⟨front, _, split⟩ := inside
            exact stays middle front split

/-- A dot at the bottom of the stack makes no difference while there are components on it. -/
theorem processStep_append {name : Component} {below : List Component} (tail : List Component)
    (plain : component = dotdot → ¬ (endsInDots name = true ∧ name ≠ dotdot)) :
    processStep absolute (name :: below ++ tail) component =
      resolveStep absolute (name :: below) component ++ tail := by
  have dots : dotdot ≠ dot := by decide
  have long : endsInDots dotdot = true := by decide
  unfold processStep resolveStep
  by_cases single : component = dot
  · simp [single]
  · by_cases double : component = dotdot
    · by_cases same : name = dotdot
      · simp [double, dots, same, long]
      · have short : ¬ endsInDots name = true := fun long => plain double ⟨long, same⟩
        simp [double, dots, short, same]
    · simp [single, double]

theorem process_relative (plain : ¬ LeavesDottedName false components) :
    process false components = resolve false components := by
  induction components using List.reverseRecOn with
  | nil => rfl
  | append_singleton components component ih =>
      rw [leavesDottedName_append_singleton, not_or] at plain
      rw [process_append_singleton, resolve_append_singleton, ih plain.1]
      cases stack : resolve false components with
      | nil => rfl
      | cons name below =>
          have step := @processStep_append false component name below [] fun double known =>
            plain.2 ⟨double, name, below, stack, known⟩
          rwa [List.append_nil, List.append_nil] at step

theorem process_absolute (plain : ¬ LeavesDottedName true components) :
    ∃ tail, process true components = resolve true components ++ tail ∧
      (tail = [] ∧ ¬ EndsRootDot components ∨ tail = [dot] ∧ EndsRootDot components) := by
  induction components using List.reverseRecOn with
  | nil =>
      refine ⟨[], rfl, .inl ⟨rfl, fun ends => ?_⟩⟩
      obtain ⟨before, after, nothing, _⟩ := ends
      exact absurd nothing (by simp)
  | append_singleton components component ih =>
      rw [leavesDottedName_append_singleton, not_or] at plain
      obtain ⟨tail, same, marked⟩ := ih plain.1
      have dots : dotdot ≠ dot := by decide
      have short : ¬ endsInDots dot = true := by decide
      rw [process_append_singleton, resolve_append_singleton, same, endsRootDot_append_singleton]
      cases stack : resolve true components with
      | nil =>
          by_cases single : component = dot
          · refine ⟨[dot], ?_, .inr ⟨rfl, .inl ⟨single, rfl⟩⟩⟩
            cases marked with
            | inl bare => simp [single, bare.1, processStep, resolveStep]
            | inr dotted => simp [single, dotted.1, processStep, resolveStep]
          · by_cases double : component = dotdot
            · refine ⟨[], ?_, .inl ⟨rfl, ?_⟩⟩
              · cases marked with
                | inl bare => simp [double, bare.1, processStep, resolveStep, dots]
                | inr dotted => simp [double, dotted.1, processStep, resolveStep, dots, short]
              · rintro (last | earlier)
                · exact single last.1
                · exact earlier.2 ⟨double, rfl⟩
            · refine ⟨tail, by simp [single, double, processStep, resolveStep], ?_⟩
              simpa [single, double] using marked
      | cons name below =>
          refine ⟨tail, processStep_append tail fun double known =>
            plain.2 ⟨double, name, below, stack, known⟩, ?_⟩
          simpa using marked

theorem process_eq_append (plain : ¬ LeavesDottedName absolute components) :
    ∃ tail, process absolute components = resolve absolute components ++ tail := by
  cases absolute with
  | false => exact ⟨[], by rw [process_relative plain, List.append_nil]⟩
  | true =>
      obtain ⟨tail, same, _⟩ := process_absolute plain
      exact ⟨tail, same⟩

theorem processStep_keeps (above : List Component) (name : Component) (below : List Component) :
    ∃ more, processStep absolute (above ++ dotdot :: name :: below) component =
      more ++ dotdot :: name :: below := by
  have long : endsInDots dotdot = true := by decide
  unfold processStep
  by_cases single : component = dot
  · exact ⟨above, by simp [single]⟩
  · by_cases double : component = dotdot
    · simp only [if_neg single, if_pos double]
      cases above with
      | nil => exact ⟨[dotdot], by simp [long]⟩
      | cons top rest =>
          by_cases ends : endsInDots top = true
          · exact ⟨dotdot :: top :: rest, by simp [ends]⟩
          · exact ⟨rest, by simp [ends]⟩
    · exact ⟨component :: above, by simp [single, double]⟩

/-- A ".." behind a longer name that ends in two dots is never taken away again. -/
theorem process_leaves (leaves : LeavesDottedName absolute components) :
    ∃ above name below, process absolute components = above ++ dotdot :: name :: below ∧
      name ≠ dotdot := by
  induction components using List.reverseRecOn with
  | nil =>
      obtain ⟨before, after, name, below, nothing, _⟩ := leaves
      exact absurd nothing (by simp)
  | append_singleton components component ih =>
      rw [process_append_singleton]
      by_cases earlier : LeavesDottedName absolute components
      · obtain ⟨above, name, below, same, other⟩ := ih earlier
        obtain ⟨more, kept⟩ := @processStep_keeps absolute component above name below
        exact ⟨more, name, below, same ▸ kept, other⟩
      · obtain ⟨rfl, name, below, stack, long, other⟩ :=
          (leavesDottedName_append_singleton.1 leaves).resolve_left earlier
        obtain ⟨tail, same⟩ := process_eq_append earlier
        refine ⟨[], name, below ++ tail, ?_, other⟩
        have dots : dotdot ≠ dot := by decide
        rw [same, stack]
        simp [processStep, long, dots]

theorem process_relative_eq_nil_iff : process false components = [] ↔
    resolve false components = [] ∧ ¬ LeavesDottedName false components := by
  constructor
  · intro nothing
    have plain : ¬ LeavesDottedName false components := by
      intro leaves
      obtain ⟨above, name, below, same, _⟩ := process_leaves leaves
      exact absurd (nothing.symm.trans same) (by simp)
    exact ⟨process_relative plain ▸ nothing, plain⟩
  · intro both
    rw [process_relative both.2, both.1]

end

end Karabiner.FilePath
