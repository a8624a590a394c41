import Karabiner.CompileIdentifier
import Karabiner.MarkedText

set_option autoImplicit false

/- What the macros of an autogen are for: one alternative for each of the names that occur in
it, in the place of all occurrences of the name. -/
namespace Karabiner

namespace Autogen

open MarkedText

/-- FROMKEYCODE_HOME, FROMKEYCODE_END, ... with the key that FN is pressed with. -/
def fromKeys : List (String × String) :=
  [("HOME", "CURSOR_LEFT"), ("END", "CURSOR_RIGHT"), ("PAGEUP", "CURSOR_UP"),
    ("PAGEDOWN", "CURSOR_DOWN"), ("FORWARD_DELETE", "DELETE")]

def fromName (key : String × String) : List Char := "FROMKEYCODE_".toList ++ key.1.toList

/-- The names that stand for modifier flags. -/
def flagNames : List (List Char) :=
  (eitherLeftOrRight ++ modifierflags ++ modifierflagsAny).map Macro.found

def fromNames : List (List Char) := fromKeys.map fromName

def names : List (List Char) := flagNames ++ fromNames

/-- What stands for a name. A key with FN is connected to the flags that follow it behind
a comma. -/
structure Alternative where
  text : List Char
  withComma : Option (List Char) := none
  deriving DecidableEq, Repr

/-- Left or right, in turn for each of the names among the flags. -/
def chooseSides (flags : List (List Char)) : List (List (List Char)) :=
  eitherLeftOrRight.foldl (fun texts known => texts.flatMap fun flags =>
    if known.found ∈ flags then
      known.replacements.map fun (search, format) =>
        flags.map fun flag => if flag = search then format else flag
    else [flags]) [flags]

/-- A subset of the five modifiers, with a side for each. -/
def anyAlternatives : List Alternative :=
  combination.flatMap fun flags => (chooseSides (flags.map String.toList)).map fun flags =>
    { text := ['|'].intercalate flags ++ "|ModifierFlag::NONE".toList }

def plainKey (key : String × String) : Alternative where
  text := "KeyCode::".toList ++ key.1.toList

def keyWithFn (key : String × String) : Alternative :=
  let text := "KeyCode::".toList ++ key.2.toList ++ ",ModifierFlag::FN".toList
  { text, withComma := some (text ++ ['|']) }

def alternatives (name : List Char) : List Alternative :=
  match (eitherLeftOrRight ++ modifierflags).find? (·.found = name) with
  | some known => known.replacements.map fun replacement => { text := replacement.2 }
  | none =>
      if name ∈ modifierflagsAny.map Macro.found then anyAlternatives
      else
        match fromKeys.find? (fromName · = name) with
        | some key => [plainKey key, keyWithFn key]
        | none => []

abbrev Choice := List (List Char × Alternative)

/-- One alternative for each of the names. -/
def choices : List (List Char) → List Choice
  | [] => [[]]
  | name :: names => (alternatives name).flatMap fun alternative =>
      (choices names).map ((name, alternative) :: ·)

/-- A part of a flag expression is a name or a text. -/
def partPieces (part : List Char) : List (Piece Char) :=
  if part ∈ names then [.name part] else letters part

/-- The names that occur in a text. -/
def occurring (autogen : List Char) : List (List Char) :=
  names.filter fun name => Text.contains name autogen

/-- The text begins with a modifier flag once the flags are chosen. -/
def FlagChosen (choice : Choice) (text : List Char) : Prop :=
  "ModifierFlag::".toList <+: text ∨ ∃ name ∈ flagNames, name <+: text ∧
    ∃ alternative, choice.lookup name = some alternative ∧
      "ModifierFlag::".toList <+: alternative.text

/-- Somewhere there is a comma behind the name, and a modifier flag behind the comma. -/
def Connected (choice : Choice) (autogen name : List Char) : Prop :=
  ∃ before rest, autogen = before ++ name ++ ',' :: rest ∧ FlagChosen choice rest

/-- Every occurrence of a name is replaced by the alternative that is chosen for it. A key with FN
takes the comma behind it along where its name is connected, and only there. -/
inductive Substituted (choice : Choice) (connected : List Char → Prop) :
    List Char → List Char → Prop
  | nil : Substituted choice connected [] []
  | letter {c : Char} {rest out : List Char} :
      (∀ name ∈ names, ¬ name <+: c :: rest) → Substituted choice connected rest out →
      Substituted choice connected (c :: rest) (c :: out)
  | name {name rest out : List Char} {alternative : Alternative} :
      name ∈ names → choice.lookup name = some alternative →
      (alternative.withComma ≠ none → connected name → ¬ [','] <+: rest) →
      Substituted choice connected rest out →
      Substituted choice connected (name ++ rest) (alternative.text ++ out)
  | comma {name rest out text : List Char} {alternative : Alternative} :
      name ∈ names → choice.lookup name = some alternative →
      alternative.withComma = some text → connected name →
      Substituted choice connected rest out →
      Substituted choice connected (name ++ ',' :: rest) (text ++ out)

/-- What is done for compatibility where no name is left. -/
def compatible (autogen : List Char) : List Char :=
  let withRepeat := "__KeyOverlaidModifierWithRepeat__".toList
  let strip := "__StripModifierFromScrollWheel__".toList
  if withRepeat.isPrefixOf autogen then
    Text.replaceFirst withRepeat
      "__KeyOverlaidModifier__Option::KEYOVERLAIDMODIFIER_REPEAT,".toList autogen
  else if strip.isPrefixOf autogen then
    Text.replaceFirst strip "__ScrollWheelToScrollWheel__".toList autogen ++
      ",ModifierFlag::NONE".toList
  else autogen

/-- The text begins with a modifier flag, or with a name that stands for some. -/
def FlagFirst (text : List Char) : Prop :=
  "ModifierFlag::".toList <+: text ∨ ∃ name ∈ flagNames, name <+: text

/-- What is behind a name is a comma and flags. -/
def FlagBehind (after : List Char) : Prop := ∃ rest, after = ',' :: rest ∧ FlagFirst rest

/-- A FROMKEYCODE name that has flags behind it somewhere has a comma behind it everywhere. -/
def Uniform (autogen : List Char) : Prop :=
  ∀ name ∈ fromNames,
    (∃ before after, autogen = before ++ name ++ after ∧ FlagBehind after) →
    ∀ before after, autogen = before ++ name ++ after → [','] <+: after

/-- The texts are those of all choices for the names that occur, each once. -/
def Consistent (autogen : List Char) (texts : List (List Char)) : Prop :=
  ∃ chosen : List Choice, chosen.Perm (choices (occurring autogen)) ∧
    List.Forall₂ (fun choice text => ∃ replaced,
      Substituted choice (Connected choice autogen) autogen replaced ∧
        text = compatible replaced) chosen texts

/-- What the names begin with, and what the texts in their places begin with. -/
def nameHeads : List (List Char) :=
  [['M', 'O', 'D', 'I', 'F', 'I', 'E', 'R', 'F'], ['V', 'K'], ['F', 'R']]

def textHeads : List (List Char) := [['M', 'o'], ['K', 'e'], ['|']]

theorem names_heads : ∀ name ∈ names, (∃ head ∈ nameHeads, head <+: name) ∧
    ∀ head ∈ [','] :: (nameHeads ++ textHeads), MarkedText.Ends name.tail head := by
  decide +kernel

theorem names_apart : Apart names where
  nonempty := by
    intro name known empty
    obtain ⟨head, member, starts⟩ := (names_heads name known).1
    rw [empty, List.prefix_nil] at starts
    rw [starts] at member
    exact absurd member (by decide)
  different := by decide +kernel
  ends := by
    intro name known other other_known
    obtain ⟨head, member, starts⟩ := (names_heads other other_known).1
    have inside := List.mem_cons_of_mem [','] (List.mem_append_left textHeads member)
    exact ((names_heads name known).2 head inside).of_head starts

theorem no_comma {name : List Char} (known : name ∈ names) : ¬ Comparable [','] name := by
  obtain ⟨head, member, starts⟩ := (names_heads name known).1
  have apart : ∀ head ∈ nameHeads, MarkedText.Ends [','] head := by decide
  exact ((apart head member).of_head starts).self (List.cons_ne_nil _ _)

theorem comma_first {pieces : List (Piece Char)} (canonical : Canonical names pieces)
    (comma : [','] <+: render pieces) : ∃ rest, pieces = .letter ',' :: rest := by
  cases pieces with
  | nil => exact absurd (List.prefix_nil.1 comma) (List.cons_ne_nil _ _)
  | cons piece rest =>
      cases piece with
      | letter c =>
          rw [render, List.cons_prefix_cons] at comma
          exact ⟨rest, by rw [comma.1]⟩
      | name name => exact absurd (comparable_of_begins_append comma) (no_comma canonical.1)

theorem names_nodup : names.Nodup := by decide +kernel

theorem contains_iff {search text : List Char} :
    Text.contains search text = true ↔ ∃ before after, text = before ++ search ++ after := by
  induction text with
  | nil =>
      rw [Text.contains, List.isEmpty_iff]
      constructor
      · rintro rfl
        exact ⟨[], [], rfl⟩
      · rintro ⟨before, after, split⟩
        exact (List.append_eq_nil_iff.1 (List.append_eq_nil_iff.1 split.symm).1).2
  | cons c rest ih =>
      rw [Text.contains, Bool.or_eq_true, List.isPrefixOf_iff_prefix, ih]
      constructor
      · rintro (⟨after, split⟩ | ⟨before, after, split⟩)
        · exact ⟨[], after, split.symm⟩
        · exact ⟨c :: before, after, congrArg (c :: ·) split⟩
      · rintro ⟨before, after, split⟩
        cases before with
        | nil => exact .inl ⟨after, split.symm⟩
        | cons d before => exact .inr ⟨before, after, (List.cons.inj split).2⟩

section

variable {search format : List Char}

/-- Where no occurrence begins, nothing is replaced. -/
theorem replaceAll_past {u rest : List Char}
    (never : ∀ v ∈ u.tails, v ≠ [] → ¬ search <+: v ++ rest) :
    Text.replaceAll search format 0 (u ++ rest) = u ++ Text.replaceAll search format 0 rest := by
  induction u with
  | nil => rfl
  | cons c u ih =>
      rw [List.tails_cons, List.forall_mem_cons] at never
      have here : ¬ search.isPrefixOf (c :: (u ++ rest)) = true := fun found =>
        never.1 (List.cons_ne_nil c u) (List.isPrefixOf_iff_prefix.1 found)
      rw [List.cons_append, Text.replaceAll, if_neg here, ih never.2]
      rfl

theorem replaceAll_here {rest : List Char} (nonempty : search ≠ []) :
    Text.replaceAll search format 0 (search ++ rest) =
      format ++ Text.replaceAll search format 0 rest := by
  obtain ⟨c, tail, rfl⟩ := List.exists_cons_of_ne_nil nonempty
  have found : (c :: tail).isPrefixOf (c :: (tail ++ rest)) = true :=
    List.isPrefixOf_iff_prefix.2 (List.prefix_append (c :: tail) rest)
  have replaced := @Text.replaceAll_found _ format _ _ found nonempty
  rw [← List.cons_append, List.drop_left] at replaced
  exact replaced

end

section

variable {name : List Char} (known : name ∈ names) {pieces : List (Piece Char)}
  (canonical : Canonical names pieces)

include known canonical

theorem replaceAll_name (new : List (Piece Char)) :
    Text.replaceAll name (render new) 0 (render pieces) =
      render (replaceName name new pieces) := by
  induction pieces with
  | nil => rfl
  | cons piece pieces ih =>
      cases piece with
      | letter c =>
          have here : ¬ name.isPrefixOf (c :: render pieces) = true := fun found =>
            canonical.1 name known (List.isPrefixOf_iff_prefix.1 found)
          rw [render, Text.replaceAll, if_neg here, ih canonical.2]
          rfl
      | name other =>
          rw [render, replaceName]
          by_cases same : other = name
          · rw [if_pos same, same, replaceAll_here (names_apart.nonempty name known),
              ih canonical.2, render_append]
          · have never : ∀ v ∈ other.tails, v ≠ [] → ¬ name <+: v ++ render pieces :=
              fun v inside nonempty =>
                not_prefix_other names_apart known canonical.1 same inside nonempty
            rw [if_neg same, replaceAll_past never, ih canonical.2]
            rfl

theorem replaceAll_next (new : List (Piece Char)) :
    Text.replaceAll (name ++ [',']) (render new) 0 (render pieces) =
      render (replaceNext name ',' new pieces) := by
  have nonempty : name ++ [','] ≠ [] := List.append_ne_nil_of_right_ne_nil _ (by simp)
  have longer : name <+: name ++ [','] := List.prefix_append name [',']
  have past : ∀ other rest : List Char, other ∈ names →
      (other = name → ¬ [','] <+: rest) →
      Text.replaceAll (name ++ [',']) (render new) 0 (other ++ rest) =
        other ++ Text.replaceAll (name ++ [',']) (render new) 0 rest := by
    intro other rest other_known otherwise
    apply replaceAll_past
    intro v inside some_letter found
    by_cases same : other = name
    · subst same
      obtain ⟨c, tail, rfl⟩ := List.exists_cons_of_ne_nil (names_apart.nonempty other known)
      rw [List.tails_cons, List.mem_cons] at inside
      rcases inside with rfl | later
      · exact otherwise rfl ((List.prefix_append_right_inj _).1 found)
      · exact not_prefix_inside names_apart known known later some_letter (longer.trans found)
    · exact not_prefix_other names_apart known other_known same inside some_letter
        (longer.trans found)
  fun_induction replaceNext name ',' new pieces with
  | case1 => rfl
  | case2 d pieces ih =>
      have here : ¬ (name ++ [',']).isPrefixOf (d :: render pieces) = true := fun found =>
        canonical.1 name known (longer.trans (List.isPrefixOf_iff_prefix.1 found))
      rw [render, Text.replaceAll, if_neg here, ih canonical.2]
      rfl
  | case3 m =>
      have nothing : ¬ [','] <+: render ([] : List (Piece Char)) := by simp [render]
      rw [render, past m _ canonical.1 fun _ => nothing]
      rfl
  | case4 m k pieces ih =>
      have other : ¬ [','] <+: render (.name k :: pieces) := fun starts =>
        no_comma canonical.2.1 (comparable_of_begins_append starts)
      rw [render, past m _ canonical.1 fun _ => other, ih canonical.2]
      rfl
  | case5 m d pieces same ih =>
      obtain ⟨rfl, rfl⟩ := same
      have split : m ++ ',' :: render pieces = m ++ [','] ++ render pieces := by
        rw [List.append_assoc, List.singleton_append]
      rw [render, render, split, replaceAll_here nonempty, ih canonical.2.2, render_append]
  | case6 m d pieces other ih =>
      have comma_only : m = name → ¬ [','] <+: render (.letter d :: pieces) := by
        intro same starts
        rw [render, List.cons_prefix_cons] at starts
        exact other ⟨same, starts.1.symm⟩
      rw [render, past m _ canonical.1 comma_only, ih canonical.2]
      rfl

theorem contains_name : Text.contains name (render pieces) = true ↔ .name name ∈ pieces := by
  rw [contains_iff, mem_iff_suffix]
  constructor
  · rintro ⟨before, after, split⟩
    obtain ⟨rest, suffix, _⟩ := canonical.occurrence names_apart known split
    exact ⟨rest, suffix⟩
  · rintro ⟨rest, suffix⟩
    obtain ⟨before, split⟩ := render_suffix suffix
    exact ⟨before, render rest, by rw [split, render, List.append_assoc]⟩

theorem contains_behind (word : List Char) : Text.contains (name ++ word) (render pieces) = true ↔
    ∃ rest, .name name :: rest <:+ pieces ∧ word <+: render rest := by
  rw [contains_iff]
  constructor
  · rintro ⟨before, after, split⟩
    rw [← List.append_assoc, List.append_assoc (before ++ name)] at split
    obtain ⟨rest, suffix, rendered⟩ := canonical.occurrence names_apart known split
    exact ⟨rest, suffix, after, rendered.symm⟩
  · rintro ⟨rest, suffix, after, split⟩
    obtain ⟨before, whole⟩ := render_suffix suffix
    refine ⟨before, after, ?_⟩
    rw [whole, render, ← split]
    simp only [List.append_assoc]

end

end Autogen

end Karabiner
