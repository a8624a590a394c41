import Karabiner.FilePathNormal

set_option autoImplicit false

/- The loop of file_path::normalize: what is written is the directory of the components so far,
with the characters since the last slash behind it. -/
namespace Karabiner.FilePath

open LexicalPath

def text (absolute : Bool) (parts : List Component × Component) : List Char :=
  directory absolute (process absolute parts.1) ++ parts.2

structure Written (original : List Char) (src : Nat) (state : List Char × Nat) : Prop where
  length : state.1.length = original.length
  ahead : state.1.drop src = original.drop src
  behind : state.2 ≤ src
  written : state.1.take state.2 = text (isAbsolute original) (scanned (original.take src))
  rooted : isAbsolute state.1 = isAbsolute original

section

variable {path : List Char} {dest src : Nat}

theorem place_value (path : List Char) (dest src : Nat) :
    (place path dest src).value =
      if path.getD src default = '/' then
        if path.getD (pred dest) default = '/' then (true, dest)
        else
          let d := (processDotdot path (processDot path dest).value).value
          (if d = 0 then decide (path.getD 0 default ≠ '/')
            else decide (path.getD (d - 1) default = '/'), d)
      else (false, dest) := by
  unfold place
  by_cases slash : path.getD src default = '/'
  · by_cases again : path.getD (pred dest) default = '/'
    · simp only [Traced.value_bind, compare_value, List.all_cons, slash, again, decide_true,
        List.all_nil, Bool.and_self, if_true, Traced.value_pure]
    · simp only [read, Traced.value_bind, Traced.value_emit, compare_value, List.all_cons, slash,
        again, decide_false, Bool.false_and, Bool.false_eq_true, if_false, if_true]
      split <;> rfl
  · simp only [read, Traced.value_bind, Traced.value_emit, compare_value, List.all_cons, slash,
      decide_false, Bool.false_and, Bool.and_false, Bool.false_eq_true, if_false,
      Traced.value_pure]

theorem getD_last {n : Nat} {front : List Char} {c : Char} (bounded : n ≤ path.length)
    (written : path.take n = front ++ [c]) : path.getD (n - 1) default = c := by
  have length : n = front.length + 1 := (length_take bounded written).trans List.length_append
  have inside : n - 1 < n := by omega
  have back : n - 1 = front.length := by omega
  rw [List.getD_eq_getElem?_getD, ← List.getElem?_take_of_lt inside, written, back,
    List.getElem?_append_right (Nat.le_refl _), Nat.sub_self]
  rfl

/-- What is left, and what was written, when a slash was read. -/
structure Placed (absolute : Bool) (path : List Char) (dest : Nat)
    (parts : List Component × Component) (result : Bool × Nat) : Prop where
  behind : result.2 ≤ dest
  written : path.take result.2 ++ (if result.1 then [] else ['/']) = text absolute parts

variable {absolute : Bool} {before : List Component} {last : Component}

theorem first_other (some : path ≠ []) (relative : isAbsolute path = false) :
    path.getD 0 default ≠ '/' := by
  cases path with
  | nil => exact absurd rfl some
  | cons c path =>
      intro same
      have same : c = '/' := same
      rw [same] at relative
      exact absurd relative (by simp [isAbsolute])

theorem place_again (bounded : dest ≤ path.length) (some : path ≠ [])
    (slash : path.getD src default = '/') (rooted : isAbsolute path = absolute)
    (written : path.take dest = text absolute (before, []))
    (known : ∀ component ∈ before, IsComponent component) :
    Placed absolute path dest (scan (before, []) '/') (place path dest src).value := by
  have same : scan (before, []) '/' = (before, []) := rfl
  rw [same, place_value, if_pos slash]
  by_cases again : path.getD (pred dest) default = '/'
  · rw [if_pos again]
    exact ⟨Nat.le_refl dest, by simpa using written⟩
  · rw [if_neg again]
    have nothing : text absolute (before, []) = [] := by
      cases @directory_cases absolute (process absolute before) with
      | inl none => rw [text, none, List.append_nil]
      | inr ends =>
          obtain ⟨front, ends⟩ := ends
          have whole : path.take dest = front ++ ['/'] := by
            rw [written, text, ends, List.append_nil]
          have positive : dest ≠ 0 := by
            rintro rfl
            exact absurd whole (by simp)
          exact absurd (by rw [pred, if_neg positive]; exact getD_last bounded whole) again
    have root : directory absolute (process absolute before) = [] := by
      simpa [text] using nothing
    obtain ⟨less, taken⟩ :=
      processed bounded some written (stacked_process known) List.not_mem_nil
    rw [finished, if_pos rfl, root] at taken
    have zero := (List.take_eq_nil_iff.1 taken).resolve_right some
    have relative := rooted.trans (directory_eq_nil_iff.1 root).2
    dsimp only
    rw [zero, if_pos rfl, decide_eq_true (first_other some relative)]
    exact ⟨Nat.zero_le dest, nothing.symm⟩

theorem place_end (bounded : dest ≤ path.length) (some : path ≠ [])
    (slash : path.getD src default = '/') (rooted : isAbsolute path = absolute)
    (written : path.take dest = text absolute (before, last))
    (known : ∀ component ∈ before, IsComponent component) (named : IsComponent last) :
    Placed absolute path dest (scan (before, last) '/') (place path dest src).value := by
  have stacked : Stacked absolute (process absolute before) := stacked_process known
  have step : process absolute (before ++ [last]) =
      processStep absolute (process absolute before) last := by
    rw [process, List.foldl_append]
    rfl
  have after : Stacked absolute (process absolute (before ++ [last])) := by
    rw [step]
    exact stacked_processStep stacked named
  have again : path.getD (pred dest) default ≠ '/' := by
    obtain ⟨front, c, rfl⟩ := (List.eq_nil_or_concat last).resolve_left named.1
    have other : c ≠ '/' := fun same => named.2 (by simp [same])
    have whole : path.take dest =
        (directory absolute (process absolute before) ++ front) ++ [c] := by
      rw [written, text, List.append_assoc]
      simp
    have positive : dest ≠ 0 := by
      rintro rfl
      exact absurd whole (by simp)
    rw [pred, if_neg positive, getD_last bounded whole]
    exact other
  have next : scan (before, last) '/' = (before ++ [last], []) := by
    simp [scan, named.1]
  obtain ⟨less, taken⟩ := processed bounded some written stacked named.2
  rw [finished, if_neg named.1, ← step] at taken
  rw [next, place_value, if_pos slash, if_neg again]
  dsimp only
  generalize (processDotdot path (processDot path dest).value).value = d at less taken
  have bounded := Nat.le_trans less bounded
  cases stack : process absolute (before ++ [last]) with
  | nil =>
      rw [stack] at taken
      have skips : (if d = 0 then decide (path.getD 0 default ≠ '/')
          else decide (path.getD (d - 1) default = '/')) = true := by
        cases absolute with
        | false =>
            have zero : d = 0 := (List.take_eq_nil_iff.1 taken).resolve_right some
            rw [if_pos zero]
            exact decide_eq_true (first_other some rooted)
        | true =>
            have one : d = 1 := length_take bounded taken
            have whole : path.take d = [] ++ ['/'] := taken
            rw [if_neg (by omega)]
            exact decide_eq_true (getD_last bounded whole)
      rw [skips]
      refine ⟨less, ?_⟩
      simp [taken, text, stack, file, directory]
  | cons top rest =>
      rw [stack] at taken after
      obtain ⟨front, c, ends⟩ := (List.eq_nil_or_concat top).resolve_left after.1.1
      have other : c ≠ '/' := fun same => after.1.2 (by simp [ends, same])
      have whole : path.take d = (directory absolute rest ++ front) ++ [c] := by
        rw [taken, file, ends]
        simp
      have length : d = (directory absolute rest ++ front).length + 1 :=
        (length_take bounded whole).trans List.length_append
      have stays : (if d = 0 then decide (path.getD 0 default ≠ '/')
          else decide (path.getD (d - 1) default = '/')) = false := by
        rw [if_neg (by omega), getD_last bounded whole]
        exact decide_eq_false other
      rw [stays]
      refine ⟨less, ?_⟩
      simp [taken, text, stack, file, directory]

end

/- The rounds of the loop. -/
section

variable {original : List Char} {src : Nat} {state : List Char × Nat}

theorem Written.start (some : original ≠ []) : Written original 1 (original, 1) := by
  refine ⟨rfl, rfl, Nat.le_refl 1, ?_, rfl⟩
  cases original with
  | nil => exact absurd rfl some
  | cons c rest =>
      by_cases slash : c = '/'
      · subst slash
        rfl
      · have relative : isAbsolute (c :: rest) = false := by simp [isAbsolute, slash]
        simp [relative, scanned, scan, slash, text, process, directory]

theorem Written.read (written : Written original src state) (inside : src < original.length) :
    state.1.getD src default = original[src] := by
  have here := congrArg (fun rest => rest[0]?) written.ahead
  simp only [List.getElem?_drop, Nat.add_zero] at here
  rw [List.getD_eq_getElem?_getD, here, List.getElem?_eq_getElem inside, Option.getD_some]

theorem scanned_take_succ (inside : src < original.length) :
    scanned (original.take (src + 1)) = scan (scanned (original.take src)) original[src] := by
  rw [List.take_succ_eq_append_getElem inside, scanned_append]
  rfl

theorem isAbsolute_take (path : List Char) (d : Nat) :
    isAbsolute (path.take (d + 1)) = isAbsolute path := by
  cases path <;> rfl

theorem isAbsolute_text (absolute : Bool) (path : List Char) :
    isAbsolute (text absolute (scanned path)) = absolute :=
  directory_isAbsolute (stacked_process (scanned_isComponent path)).isComponent _
    (scanned_noSlash path)

theorem normalizeRound_value (path : List Char) (dest src : Nat) :
    (normalizeRound (path, dest) src).value =
      let (skipped, d) := (place path dest src).value
      if skipped then (path, d)
      else (if d = src then path else path.set d (path.getD src default), d + 1) := by
  simp only [normalizeRound, Traced.value_bind]
  split
  · rfl
  · split <;> rfl

theorem take_set_succ {path : List Char} {d : Nat} (inside : d < path.length) (c : Char) :
    (path.set d c).take (d + 1) = path.take d ++ [c] := by
  have length : d < (path.set d c).length := by rwa [List.length_set]
  rw [List.take_succ_eq_append_getElem length, List.getElem_set_self, List.take_set,
    List.set_eq_of_length_le (by rw [List.length_take]; omega)]

theorem Written.placed {path : List Char} {dest : Nat} (written : Written original src (path, dest))
    (inside : src < original.length) :
    let result := (place path dest src).value
    result.2 ≤ dest ∧ path.take result.2 ++ (if result.1 then [] else [original[src]]) =
      FilePath.text (isAbsolute original) (scanned (original.take (src + 1))) := by
  have bounded : dest ≤ path.length := by
    have length : path.length = original.length := written.length
    have behind : dest ≤ src := written.behind
    omega
  have text := written.written
  have c := written.read inside
  have known := scanned_isComponent (original.take src)
  have noSlash := scanned_noSlash (original.take src)
  rw [scanned_take_succ inside]
  generalize scanned (original.take src) = parts at text known noSlash
  obtain ⟨before, last⟩ := parts
  by_cases slash : original[src] = '/'
  · rw [slash]
    have some : path ≠ [] := by
      have length : path.length = original.length := written.length
      exact List.ne_nil_of_length_pos (by omega)
    have read : path.getD src default = '/' := c.trans slash
    by_cases empty : last = []
    · subst empty
      have placed := place_again bounded some read written.rooted text known
      exact ⟨placed.behind, placed.written⟩
    · have placed := place_end bounded some read written.rooted text known ⟨empty, noSlash⟩
      exact ⟨placed.behind, placed.written⟩
  · have other : path.getD src default ≠ '/' := c ▸ slash
    rw [place_value, if_neg other]
    have next : scan (before, last) original[src] = (before, last ++ [original[src]]) := by
      simp [scan, slash]
    refine ⟨Nat.le_refl dest, ?_⟩
    show path.take dest ++ [original[src]] = _
    rw [next, text, FilePath.text, FilePath.text, List.append_assoc]

/-- Every round passes on that what is written is the text of what was read. -/
theorem Written.normalizeRound (written : Written original src state)
    (inside : src < original.length) :
    Written original (src + 1) (FilePath.normalizeRound state src).value := by
  obtain ⟨path, dest⟩ := state
  have behind : dest ≤ src := written.behind
  have length : path.length = original.length := written.length
  have c := written.read inside
  have ahead : path.drop (src + 1) = original.drop (src + 1) := by
    have more := congrArg (List.drop 1) written.ahead
    rwa [List.drop_drop, List.drop_drop] at more
  have placed := written.placed inside
  obtain ⟨less, now⟩ := placed
  rw [normalizeRound_value]
  generalize (place path dest src).value = result at less now
  obtain ⟨skipped, d⟩ := result
  cases skipped with
  | true =>
      refine ⟨length, ahead, by show d ≤ src + 1; omega, ?_, written.rooted⟩
      simpa using now
  | false =>
      have now : path.take d ++ [original[src]] =
          FilePath.text (isAbsolute original) (scanned (original.take (src + 1))) := now
      have less : d ≤ dest := less
      show Written original (src + 1)
        (if d = src then path else path.set d (path.getD src default), d + 1)
      have same : (if d = src then path else path.set d (path.getD src default)) =
          path.set d original[src] := by
        split
        · next here =>
          have own : path.getD src default = path[src] := by
            rw [List.getD_eq_getElem?_getD, List.getElem?_eq_getElem (by omega), Option.getD_some]
          rw [here, ← c, own, List.set_getElem_self]
        · rw [c]
      rw [same]
      have whole : (path.set d original[src]).take (d + 1) = _ :=
        (take_set_succ (by omega) _).trans now
      refine ⟨by rw [List.length_set, length], ?_, by show d + 1 ≤ src + 1; omega, whole, ?_⟩
      · rw [List.drop_set_of_lt (by omega)]
        exact ahead
      · calc isAbsolute (path.set d original[src])
            = isAbsolute ((path.set d original[src]).take (d + 1)) := (isAbsolute_take _ d).symm
          _ = isAbsolute original := by rw [whole, isAbsolute_text]

theorem Written.loop (original : List Char) (some : original ≠ []) :
    Written original original.length
      ((List.range' 1 (original.length - 1)).foldlM FilePath.normalizeRound
        (original, 1)).value := by
  have positive : 0 < original.length := List.length_pos_of_ne_nil some
  have ran := Traced.foldlM_range' 1 (original.length - 1) (Written.start some)
    fun src _ high state written => written.normalizeRound (by omega)
  rwa [show 1 + (original.length - 1) = original.length by omega] at ran

/-- What normalize returns is what is left of the components, read without the buffer. -/
theorem normalize_value (path : String) :
    (normalize path).value.toList =
      let left := finished (isAbsolute path.toList)
        (process (isAbsolute path.toList) (scanned path.toList).1) (scanned path.toList).2
      if left = [] then dot else left := by
  unfold normalize
  generalize path.toList = original
  by_cases some : original = []
  · subst some
    rfl
  · have nonempty : original.isEmpty = false := by simpa using some
    have ran := Written.loop original some
    simp only [nonempty, Bool.false_eq_true, if_false, Traced.value_bind]
    generalize ((List.range' 1 (original.length - 1)).foldlM FilePath.normalizeRound
      (original, 1)).value = state at ran
    obtain ⟨path, dest⟩ := state
    have length : path.length = original.length := ran.length
    have whole := ran.written
    rw [List.take_length] at whole
    have bounded : dest ≤ path.length := length ▸ ran.behind
    have present : path ≠ [] := by
      rw [← List.length_pos_iff, length, List.length_pos_iff]
      exact some
    obtain ⟨less, taken⟩ := processed bounded present whole
      (stacked_process (scanned_isComponent original)) (scanned_noSlash original)
    dsimp only
    generalize (processDotdot path (processDot path dest).value).value = d at less taken
    rw [← taken]
    by_cases zero : d = 0
    · rw [if_pos zero, if_pos (by rw [zero, List.take_zero])]
      cases path with
      | nil => exact absurd rfl present
      | cons c rest => exact String.toList_ofList
    · have more : path.take d ≠ [] := by
        rw [Ne, List.take_eq_nil_iff]
        exact fun either => either.elim zero present
      rw [if_neg zero, if_neg more]
      exact String.toList_ofList

end

end Karabiner.FilePath
