import Karabiner.FilePath
import Karabiner.LexicalPath

set_option autoImplicit false

/- file_path::normalize, component by component. -/
namespace Karabiner.FilePath

open LexicalPath

/-- The test for a name in front of "/..", which also fits names that only end in two dots. -/
def endsInDots (component : Component) : Bool := dotdot.isSuffixOf component

/-- What is left of the components when the next one ends. A dot right behind the root slash stays,
and so does ".." behind a name that ends in two dots. -/
def processStep (absolute : Bool) (stack : List Component) (component : Component) :
    List Component :=
  if component = dot then
    if absolute && stack.isEmpty then [dot] else stack
  else if component = dotdot then
    match stack with
    | [] => if absolute then [] else [dotdot]
    | top :: rest => if endsInDots top then dotdot :: stack else rest
  else component :: stack

/-- What is left when the path ends, or when a slash ends a component. -/
def finished (absolute : Bool) (stack : List Component) (last : Component) : List Char :=
  if last = [] then directory absolute stack else file absolute (processStep absolute stack last)

def process (absolute : Bool) (components : List Component) : List Component :=
  components.foldl (processStep absolute) []

/-- Every ".." that is left is the first component of a relative path or stands behind a component
that ends in two dots. -/
def Stacked (absolute : Bool) : List Component → Prop
  | [] => True
  | top :: rest =>
      IsComponent top ∧
        (top = dotdot → match rest with
          | [] => absolute = false
          | below :: _ => endsInDots below = true) ∧
        Stacked absolute rest

section

variable {absolute : Bool}

theorem Stacked.isComponent {stack : List Component} (stacked : Stacked absolute stack) :
    ∀ component ∈ stack, IsComponent component := by
  induction stack with
  | nil => simp
  | cons top rest ih =>
      intro component member
      cases List.mem_cons.1 member with
      | inl same => exact same ▸ stacked.1
      | inr below => exact ih stacked.2.2 component below

theorem stacked_processStep {stack : List Component} {component : Component}
    (stacked : Stacked absolute stack) (known : IsComponent component) :
    Stacked absolute (processStep absolute stack component) := by
  unfold processStep
  split
  · split
    · exact ⟨by simp [IsComponent, dot], fun same => absurd same (by decide), trivial⟩
    · exact stacked
  · split
    · cases stack with
      | nil =>
          dsimp only
          split
          · trivial
          · next relative =>
            exact ⟨by simp [IsComponent, dotdot], fun _ => by simpa using relative, trivial⟩
      | cons top rest =>
          dsimp only
          split
          · next dots => exact ⟨by simp [IsComponent, dotdot], fun _ => dots, stacked⟩
          · exact stacked.2.2
    · next other => exact ⟨known, fun same => absurd same other, stacked⟩

theorem stacked_process {components : List Component}
    (known : ∀ component ∈ components, IsComponent component) :
    Stacked absolute (process absolute components) := by
  induction components using List.reverseRecOn with
  | nil => trivial
  | append_singleton components component ih =>
      have before := ih fun other member => known other (List.mem_append_left _ member)
      rw [process, List.foldl_append]
      exact stacked_processStep before
        (known component (List.mem_append_right _ List.mem_cons_self))

end

/- The buffer, as far as it is written. -/
section

variable {path : List Char} {n : Nat}

theorem compare_value (path : List Char) (pairs : List (Nat × Char)) :
    (compare path pairs).value = pairs.all fun pair => path.getD pair.1 default = pair.2 := by
  induction pairs with
  | nil => rfl
  | cons pair pairs ih =>
      obtain ⟨i, c⟩ := pair
      show (if path.getD i default = c then compare path pairs else pure false).value = _
      by_cases same : path.getD i default = c
      · simp only [same, if_true, ih, List.all_cons, decide_true, Bool.true_and]
      · simp only [same, if_false, List.all_cons, decide_false, Bool.false_and,
          Traced.value_pure]

/-- A look back finds a text if and only if what is written ends with it. -/
theorem suffix_take_iff (m : Nat) (text : List Char) (bounded : m + text.length ≤ path.length) :
    text <:+ path.take (m + text.length) ↔
      ∀ i < text.length, path.getD (m + i) default = text.getD i default := by
  have length : (path.take (m + text.length)).length - text.length = m := by
    simp [bounded]
  rw [List.suffix_iff_eq_drop, length, List.drop_take, Nat.add_sub_cancel_left]
  constructor
  · intro same i inside
    rw [same, List.getD_eq_getElem?_getD, List.getD_eq_getElem?_getD, List.getElem?_take,
      if_pos inside, List.getElem?_drop]
  · intro same
    apply List.ext_getElem?
    intro i
    rw [List.getElem?_take, List.getElem?_drop]
    split
    · next inside =>
      have here := same i inside
      rw [List.getD_eq_getElem?_getD, List.getD_eq_getElem?_getD,
        List.getElem?_eq_getElem inside, List.getElem?_eq_getElem (by omega)] at here
      rw [List.getElem?_eq_getElem inside, List.getElem?_eq_getElem (by omega)]
      exact congrArg some here.symm
    · next outside => exact List.getElem?_eq_none (Nat.le_of_not_lt outside)

theorem take_dot_iff (bounded : n ≤ path.length) :
    path.take n = dot ↔ n = 1 ∧ path.getD 0 default = '.' := by
  constructor
  · intro same
    have length : n = 1 := by simpa [bounded, dot] using congrArg List.length same
    subst length
    cases path with
    | nil => exact absurd same (by decide)
    | cons c path => exact ⟨rfl, List.cons.inj same |>.1⟩
  · rintro ⟨rfl, same⟩
    cases path with
    | nil => exact absurd bounded (by decide)
    | cons c path => exact congrArg (fun c => [c]) same

theorem processDot_value (bounded : n ≤ path.length) (some : path ≠ []) :
    (processDot path n).value =
      if 2 < n ∧ ['/', '.'] <:+ path.take n then n - 2
      else if path.take n = dot then 0
      else n := by
  have ends (large : 2 < n) : ['/', '.'] <:+ path.take n ↔
      path.getD (n - 2) default = '/' ∧ path.getD (n - 1) default = '.' := by
    obtain ⟨m, rfl⟩ := Nat.exists_eq_add_of_le' (Nat.le_of_lt large)
    exact (suffix_take_iff m ['/', '.'] bounded).trans
      (by simp only [List.length_cons, List.length_nil, Nat.forall_lt_succ_left]; simp)
  simp only [take_dot_iff bounded, ite_and]
  have nonempty : path.isEmpty = false := by simpa using some
  simp only [processDot, nonempty, Bool.false_eq_true, if_false, apply_ite Traced.value,
    Traced.value_bind, Traced.value_pure, compare_value, List.all_cons, List.all_nil,
    Bool.and_true, Bool.and_eq_true, decide_eq_true_eq]
  by_cases large : 2 < n
  · rw [if_pos large, if_pos large, if_congr (ends large) rfl rfl]
  · rw [if_neg large, if_neg large]

theorem processDotdot_value (bounded : n ≤ path.length) :
    (processDotdot path n).value =
      if ['.', '.', '/', '.', '.'] <:+ path.take n then n
      else if ['/', '.', '.'] <:+ path.take n then
        (getDirnamePosition path (some (n - 3))).value
      else n := by
  have endsTwice (large : 4 < n) : ['.', '.', '/', '.', '.'] <:+ path.take n ↔
      path.getD (n - 5) default = '.' ∧ path.getD (n - 4) default = '.' ∧
        path.getD (n - 3) default = '/' ∧ path.getD (n - 2) default = '.' ∧
        path.getD (n - 1) default = '.' := by
    obtain ⟨m, rfl⟩ := Nat.exists_eq_add_of_le' large
    exact (suffix_take_iff m ['.', '.', '/', '.', '.'] bounded).trans
      (by simp only [List.length_cons, List.length_nil, Nat.forall_lt_succ_left]; simp)
  have ends (large : 2 < n) : ['/', '.', '.'] <:+ path.take n ↔
      path.getD (n - 3) default = '/' ∧ path.getD (n - 2) default = '.' ∧
        path.getD (n - 1) default = '.' := by
    obtain ⟨m, rfl⟩ := Nat.exists_eq_add_of_le' large
    exact (suffix_take_iff m ['/', '.', '.'] bounded).trans
      (by simp only [List.length_cons, List.length_nil, Nat.forall_lt_succ_left]; simp)
  have short {text : List Char} (less : n < text.length) : ¬ text <:+ path.take n := by
    intro ends
    have length := ends.length_le
    simp only [List.length_take] at length
    omega
  simp only [processDotdot, apply_ite Traced.value, Traced.value_bind, Traced.value_pure,
    compare_value, List.all_cons, List.all_nil, Bool.and_true, Bool.and_eq_true,
    decide_eq_true_eq]
  by_cases four : 4 < n
  · have two : 2 < n := by omega
    rw [if_pos four, if_pos two, if_congr (endsTwice four) rfl rfl, if_congr (ends two) rfl rfl]
  · rw [if_neg four, if_neg (short (by simp; omega))]
    by_cases two : 2 < n
    · rw [if_pos two, if_congr (ends two) rfl rfl]
    · rw [if_neg two, if_neg (short (by simp; omega))]

theorem rfind_none {pos : Nat} (noSlash : '/' ∉ path.take (pos + 1)) : rfind path pos = none := by
  have nothing : (path.take (pos + 1)).reverse.findIdx? (· = '/') = none := by
    rw [List.findIdx?_eq_none_iff]
    intro c member
    have other : c ≠ '/' := fun same => noSlash (same ▸ List.mem_reverse.1 member)
    exact decide_eq_false other
  rw [rfind, nothing, Option.map_none]

theorem rfind_some {pos : Nat} {before text : List Char}
    (written : path.take (pos + 1) = before ++ '/' :: text) (noSlash : '/' ∉ text) :
    rfind path pos = some before.length := by
  have first : (path.take (pos + 1)).reverse.findIdx? (· = '/') = some text.length := by
    have nothing : text.reverse.findIdx? (· = '/') = none := by
      rw [List.findIdx?_eq_none_iff]
      intro c member
      have other : c ≠ '/' := fun same => noSlash (same ▸ List.mem_reverse.1 member)
      exact decide_eq_false other
    rw [written, List.reverse_append, List.reverse_cons, List.append_assoc, List.findIdx?_append,
      nothing]
    simp [List.findIdx?_cons]
  rw [rfind, first, written, Option.map_some]
  simp only [List.length_append, List.length_cons]
  congr 1
  omega

theorem getDirnamePosition_root (slash : path.getD 0 default = '/') (some : path ≠ []) :
    (getDirnamePosition path (.some 0)).value = 1 := by
  have nonempty : path.isEmpty = false := by simpa using some
  have inside : ¬ path.length ≤ 0 := by simpa using some
  simp only [getDirnamePosition, nonempty, Bool.false_eq_true, if_false, Option.getD_some, inside,
    read, Traced.value_bind, Traced.value_emit, if_true, slash, Traced.value_pure]

theorem getDirnamePosition_value {absolute : Bool} {rest : List Component} {top : Component}
    {m : Nat} (inside : m < path.length) (written : path.take m = directory absolute rest ++ top)
    (slash : path.getD m default = '/')
    (known : ∀ component ∈ top :: rest, IsComponent component) :
    (getDirnamePosition path (some m)).value = (file absolute rest).length := by
  have nonempty : path.isEmpty = false := by
    rw [List.isEmpty_eq_false_iff]
    exact List.ne_nil_of_length_pos (by omega)
  have length : m = (directory absolute rest).length + top.length := by
    have same := congrArg List.length written
    rw [List.length_take, Nat.min_eq_left (by omega), List.length_append] at same
    exact same
  have some : 0 < top.length := List.length_pos_of_ne_nil (known top List.mem_cons_self).1
  have positive : m ≠ 0 := by omega
  have back : m - 1 + 1 = m := by omega
  have value : (getDirnamePosition path (.some m)).value =
      (rfind path (m - 1)).elim 0 fun i => if i = 0 then 1 else i := by
    have notEnd : ¬ path.length ≤ m := by omega
    simp only [getDirnamePosition, nonempty, Bool.false_eq_true, if_false, Option.getD_some,
      notEnd, read, Traced.value_bind, Traced.value_emit, positive, slash, if_true]
    generalize rfind path (m - 1) = found
    cases found with
    | none => rfl
    | some i =>
        cases i with
        | zero => rfl
        | succ i =>
            show i + 1 = if i + 1 = 0 then 1 else i + 1
            rw [if_neg (Nat.succ_ne_zero i)]
  rw [value]
  by_cases rooted : rest ≠ [] ∨ absolute = true
  · obtain ⟨before, ends⟩ := directory_ends rooted
    have found : rfind path (m - 1) = .some before.length := by
      apply rfind_some _ (known top List.mem_cons_self).2
      rw [back, written, ends, List.append_assoc]
      rfl
    rw [found]
    cases rest with
    | nil =>
        have root : absolute = true := by simpa using rooted
        have first : before = [] := by simpa [directory, root] using ends
        simp [first, file, root]
    | cons below others =>
        have same : file absolute (below :: others) = before := List.append_cancel_right ends
        have named : IsComponent below := known below (List.mem_cons_of_mem top List.mem_cons_self)
        have nonempty : before.length ≠ 0 := by
          rw [← same, file, List.length_append]
          have := List.length_pos_of_ne_nil named.1
          omega
        rw [same]
        exact if_neg nonempty
  · obtain ⟨none, relative⟩ := not_or.1 rooted
    have relative : absolute = false := by simpa using relative
    have none : rest = [] := not_not.1 none
    subst none relative
    have found : rfind path (m - 1) = .none := by
      apply rfind_none
      rw [back, written]
      exact (known top List.mem_cons_self).2
    rw [found]
    rfl

end

/- A component that ends is looked at as it stands behind the directory of the ones before it. -/
section

variable {absolute : Bool} {stack : List Component} {last : Component} {path : List Char} {n : Nat}

theorem endsInDots_of_directory (known : IsComponent last)
    (ends : dotdot <:+ directory absolute stack ++ last) : endsInDots last = true := by
  rw [endsInDots, List.isSuffixOf_iff_suffix]
  have whole : last <:+ directory absolute stack ++ last := List.suffix_append _ _
  cases List.suffix_or_suffix_of_suffix ends whole with
  | inl shorter => exact shorter
  | inr longer =>
      cases List.suffix_cons_iff.1 longer with
      | inl same => exact same ▸ List.suffix_rfl
      | inr inside =>
          cases List.suffix_cons_iff.1 inside with
          | inr nothing => exact absurd (List.suffix_nil.1 nothing) known.1
          | inl same =>
              -- A single dot: the directory in front of it would end with one, too.
              subst same
              obtain ⟨front, written⟩ := ends
              have both : (front ++ ['.']) ++ ['.'] = directory absolute stack ++ ['.'] := by
                simpa [dotdot] using written
              have cancelled := List.append_cancel_right both
              cases @directory_cases absolute stack with
              | inl empty =>
                  rw [empty] at cancelled
                  exact absurd cancelled (by simp)
              | inr slash =>
                  obtain ⟨before, slash⟩ := slash
                  rw [slash] at cancelled
                  exact absurd (List.append_inj' cancelled rfl).2 (by decide)

theorem dotdots_suffix_iff (known : ∀ component ∈ stack, IsComponent component)
    (noSlash : '/' ∉ last) :
    ['.', '.', '/', '.', '.'] <:+ directory absolute stack ++ last ↔
      last = dotdot ∧ ∃ top rest, stack = top :: rest ∧ endsInDots top = true := by
  constructor
  · intro ends
    have shorter : ['/', '.', '.'] <:+ directory absolute stack ++ last :=
      List.IsSuffix.trans ⟨['.', '.'], rfl⟩ ends
    obtain ⟨rfl, rooted⟩ := (slash_suffix_iff noSlash (by decide)).1 shorter
    refine ⟨rfl, ?_⟩
    cases stack with
    | nil =>
        have root : absolute = true := by simpa using rooted
        rw [directory, if_pos root] at ends
        exact absurd ends (by decide)
    | cons top rest =>
        refine ⟨top, rest, rfl, ?_⟩
        obtain ⟨front, whole⟩ := ends
        have both : (front ++ dotdot) ++ ['/', '.', '.'] =
            (directory absolute rest ++ top) ++ ['/', '.', '.'] := by
          simpa [directory, dotdot] using whole
        have before : dotdot <:+ directory absolute rest ++ top :=
          ⟨front, List.append_cancel_right both⟩
        exact endsInDots_of_directory (known top List.mem_cons_self) before
  · rintro ⟨rfl, top, rest, rfl, ends⟩
    obtain ⟨front, rfl⟩ := List.isSuffixOf_iff_suffix.1 ends
    exact ⟨directory absolute rest ++ front, by simp [directory, dotdot]⟩

/-- The part of the buffer in front of what was cut off. -/
theorem take_front {front cut : List Char} (written : path.take n = front ++ cut) :
    path.take front.length = front := by
  have inside : front.length ≤ n := by
    have length := congrArg List.length written
    rw [List.length_take, List.length_append] at length
    omega
  calc path.take front.length = (path.take n).take front.length := by
        rw [List.take_take, Nat.min_eq_left inside]
    _ = front := by rw [written, List.take_left]

theorem length_take (bounded : n ≤ path.length) {text : List Char}
    (written : path.take n = text) : n = text.length := by
  rw [← written, List.length_take, Nat.min_eq_left bounded]

theorem processDot_other (bounded : n ≤ path.length) (some : path ≠ [])
    (written : path.take n = directory absolute stack ++ last) (noSlash : '/' ∉ last)
    (other : last ≠ dot) : (processDot path n).value = n := by
  have notEnds : ¬ ['/', '.'] <:+ path.take n := by
    rw [written, slash_suffix_iff noSlash (by decide)]
    exact fun both => other both.1
  have notDot : path.take n ≠ dot := by
    intro same
    have suffix : last <:+ dot := same ▸ written ▸ List.suffix_append _ _
    cases List.suffix_cons_iff.1 suffix with
    | inl same => exact other same
    | inr none =>
        have empty : last = [] := List.suffix_nil.1 none
        rw [same, empty, List.append_nil] at written
        cases @directory_cases absolute stack with
        | inl nothing =>
            rw [nothing] at written
            exact absurd written (by decide)
        | inr ends =>
            obtain ⟨before, ends⟩ := ends
            have slash : '/' ∈ dot := by rw [written, ends]; simp
            exact absurd slash (by decide)
  rw [processDot_value bounded some, if_neg (fun both => notEnds both.2), if_neg notDot]

theorem processDot_dot (bounded : n ≤ path.length) (some : path ≠ [])
    (written : path.take n = directory absolute stack ++ dot)
    (known : ∀ component ∈ stack, IsComponent component) :
    (processDot path n).value =
      if stack = [] ∧ absolute = true then n else (file absolute stack).length := by
  have length := length_take bounded written
  rw [processDot_value bounded some]
  cases stack with
  | nil =>
      cases absolute with
      | false =>
          have small : ¬ 2 < n := by simp [length, directory, dot]
          have isDot : path.take n = dot := written
          rw [if_neg (fun both => small both.1), if_pos isDot]
          rfl
      | true =>
          have small : ¬ 2 < n := by simp [length, directory, dot]
          have notDot : path.take n ≠ dot := by rw [written]; decide
          rw [if_neg (fun both => small both.1), if_neg notDot]
          rfl
  | cons top rest =>
      have ends : ['/', '.'] <:+ path.take n := by
        rw [written, slash_suffix_iff (by decide) (by decide)]
        exact ⟨rfl, .inl (List.cons_ne_nil top rest)⟩
      have back : n - 2 = (file absolute (top :: rest)).length := by
        simp only [length, directory, file, dot, List.length_append, List.length_cons,
          List.length_nil]
        omega
      have named : 0 < top.length := List.length_pos_of_ne_nil (known top List.mem_cons_self).1
      have large : 2 < n := by
        simp only [length, directory, dot, List.length_append, List.length_cons, List.length_nil]
        omega
      rw [if_pos ⟨large, ends⟩, back, if_neg (fun both => List.cons_ne_nil top rest both.1)]

theorem processDotdot_other (bounded : n ≤ path.length)
    (written : path.take n = directory absolute stack ++ last) (noSlash : '/' ∉ last)
    (other : last ≠ dotdot) : (processDotdot path n).value = n := by
  have notEnds : ¬ ['/', '.', '.'] <:+ path.take n := by
    rw [written, slash_suffix_iff noSlash (by decide)]
    exact fun both => other both.1
  rw [processDotdot_value bounded, if_neg notEnds, ite_self]

/-- What is left behind a dot that was taken away is not looked at as a component again. -/
theorem processDotdot_file (bounded : n ≤ path.length)
    (written : path.take n = file absolute stack)
    (stacked : Stacked absolute stack) : (processDotdot path n).value = n := by
  cases stack with
  | nil =>
      have whole : path.take n = directory absolute [] ++ [] := by
        rw [written, List.append_nil]
        rfl
      exact processDotdot_other bounded whole List.not_mem_nil (by decide)
  | cons top rest =>
      have noSlash : '/' ∉ top := stacked.1.2
      by_cases same : top = dotdot
      · cases rest with
        | nil =>
            have relative : absolute = false := stacked.2.1 same
            have notEnds : ¬ ['/', '.', '.'] <:+ path.take n := by
              rw [written, file, slash_suffix_iff noSlash (by decide), relative]
              simp
            rw [processDotdot_value bounded, if_neg notEnds, ite_self]
        | cons below others =>
            have long : endsInDots below = true := stacked.2.1 same
            have ends : ['.', '.', '/', '.', '.'] <:+ path.take n := by
              rw [written, file, dotdots_suffix_iff stacked.2.2.isComponent noSlash]
              exact ⟨same, below, others, rfl, long⟩
            rw [processDotdot_value bounded, if_pos ends]
      · exact processDotdot_other bounded written noSlash same

theorem processDotdot_dotdot (bounded : n ≤ path.length)
    (written : path.take n = directory absolute stack ++ dotdot)
    (known : ∀ component ∈ stack, IsComponent component) :
    (processDotdot path n).value = (file absolute (processStep absolute stack dotdot)).length := by
  have length := length_take bounded written
  have ends : ['/', '.', '.'] <:+ path.take n ↔ stack ≠ [] ∨ absolute = true := by
    rw [written, slash_suffix_iff (by decide) (by decide)]
    exact and_iff_right rfl
  have endsTwice : ['.', '.', '/', '.', '.'] <:+ path.take n ↔
      ∃ top rest, stack = top :: rest ∧ endsInDots top = true := by
    rw [written, dotdots_suffix_iff known (by decide)]
    exact and_iff_right rfl
  rw [processDotdot_value bounded]
  cases stack with
  | nil =>
      have once : ¬ ['.', '.', '/', '.', '.'] <:+ path.take n := by
        rw [endsTwice]
        rintro ⟨top, rest, nothing, _⟩
        exact List.cons_ne_nil top rest nothing.symm
      rw [if_neg once]
      cases absolute with
      | false =>
          rw [if_neg (by rw [ends]; simp), length]
          rfl
      | true =>
          have three : n = 3 := by rw [length]; rfl
          have slash : path.getD 0 default = '/' := by
            rw [List.getD_eq_getElem?_getD, ← List.getElem?_take_of_lt (show 0 < n by omega),
              written]
            rfl
          have some : path ≠ [] := List.ne_nil_of_length_pos (by omega)
          rw [if_pos (ends.2 (.inr rfl)), three, getDirnamePosition_root slash some]
          rfl
  | cons top rest =>
      by_cases long : endsInDots top = true
      · rw [if_pos (endsTwice.2 ⟨top, rest, rfl, long⟩), length]
        have step : processStep absolute (top :: rest) dotdot = dotdot :: top :: rest := by
          simp [processStep, long, dotdot, dot]
        rw [step, file]
      · have once : ¬ ['.', '.', '/', '.', '.'] <:+ path.take n := by
          rw [endsTwice]
          rintro ⟨_, _, same, ends⟩
          exact long ((List.cons.inj same).1 ▸ ends)
        have front : path.take n = (directory absolute rest ++ top) ++ ['/', '.', '.'] := by
          rw [written, directory, List.append_assoc _ ['/']]
          rfl
        have total : n = (directory absolute rest ++ top).length + 3 :=
          (length_take bounded front).trans List.length_append
        have back : n - 3 = (directory absolute rest ++ top).length := by omega
        have inside : n - 3 < n := by omega
        have slash : path.getD (n - 3) default = '/' := by
          rw [List.getD_eq_getElem?_getD, ← List.getElem?_take_of_lt inside, front, back,
            List.getElem?_append_right (Nat.le_refl _), Nat.sub_self]
          rfl
        have step : processStep absolute (top :: rest) dotdot = rest := by
          simp [processStep, long, dotdot, dot]
        rw [if_neg once, if_pos (ends.2 (.inl (List.cons_ne_nil top rest))), step]
        exact getDirnamePosition_value (by omega) (back ▸ take_front front) slash known

theorem processStep_dotdot_front :
    ∃ cut, directory absolute stack ++ dotdot =
      file absolute (processStep absolute stack dotdot) ++ cut := by
  cases stack with
  | nil =>
      cases absolute with
      | false => exact ⟨[], rfl⟩
      | true => exact ⟨dotdot, rfl⟩
  | cons top rest =>
      by_cases long : endsInDots top = true
      · have step : processStep absolute (top :: rest) dotdot = dotdot :: top :: rest := by
          simp [processStep, long, dotdot, dot]
        exact ⟨[], by rw [step, file, List.append_nil]⟩
      · have step : processStep absolute (top :: rest) dotdot = rest := by
          simp [processStep, long, dotdot, dot]
        obtain ⟨slash, front⟩ := @directory_eq_file absolute rest
        rw [step, directory, front]
        exact ⟨slash ++ top ++ ['/'] ++ dotdot, by simp only [List.append_assoc]⟩

/-- Where process_dot and process_dotdot leave the end of what is written. -/
theorem processed (bounded : n ≤ path.length) (some : path ≠ [])
    (written : path.take n = directory absolute stack ++ last)
    (stacked : Stacked absolute stack) (noSlash : '/' ∉ last) :
    (processDotdot path (processDot path n).value).value ≤ n ∧
      path.take (processDotdot path (processDot path n).value).value =
        finished absolute stack last := by
  have cut {front rest : List Char} (whole : path.take n = front ++ rest) :
      front.length ≤ n ∧ path.take front.length = front := by
    have length := (length_take bounded whole).trans List.length_append
    exact ⟨by omega, take_front whole⟩
  by_cases single : last = dot
  · subst single
    rw [processDot_dot bounded some written stacked.isComponent, finished,
      if_neg (show ¬ dot = [] by decide)]
    by_cases root : stack = [] ∧ absolute = true
    · obtain ⟨rfl, rfl⟩ := root
      rw [if_pos ⟨rfl, rfl⟩, processDotdot_other bounded written noSlash (by decide)]
      exact ⟨Nat.le_refl n, written⟩
    · have step : processStep absolute stack dot = stack := by
        have stays : ¬ (absolute && stack.isEmpty) = true := by
          intro both
          rw [Bool.and_eq_true, List.isEmpty_iff] at both
          exact root ⟨both.2, both.1⟩
        rw [processStep.eq_def, if_pos rfl, if_neg stays]
      obtain ⟨slash, front⟩ := @directory_eq_file absolute stack
      rw [front, List.append_assoc] at written
      obtain ⟨less, taken⟩ := cut written
      rw [if_neg root, step, processDotdot_file (Nat.le_trans less bounded) taken stacked]
      exact ⟨less, taken⟩
  · rw [processDot_other bounded some written noSlash single]
    by_cases double : last = dotdot
    · subst double
      obtain ⟨rest, front⟩ := @processStep_dotdot_front absolute stack
      rw [processDotdot_dotdot bounded written stacked.isComponent, finished,
        if_neg (show ¬ dotdot = [] by decide)]
      exact cut (written.trans front)
    · rw [processDotdot_other bounded written noSlash double]
      refine ⟨Nat.le_refl n, ?_⟩
      by_cases empty : last = []
      · rw [finished, if_pos empty, written, empty, List.append_nil]
      · have step : processStep absolute stack last = last :: stack := by
          rw [processStep.eq_def, if_neg single, if_neg double]
        rw [finished, if_neg empty, step, written, file]

end

end Karabiner.FilePath
