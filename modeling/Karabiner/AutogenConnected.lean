import Karabiner.AutogenSubst
import Karabiner.AutogenUniform

set_option autoImplicit false

/- Which names are connected to what follows them, before and after a replacement. -/
namespace Karabiner

namespace Autogen

open MarkedText

/-- A comma and a modifier flag are behind the name somewhere, once the flags are chosen. -/
def Joined (choice : Choice) (pieces : List (Piece Char)) (name : List Char) : Prop :=
  ∃ rest, .name name :: .letter ',' :: rest <:+ pieces ∧ FlagChosen choice (render rest)

section

variable {choice : Choice} {pieces : List (Piece Char)} {name : List Char}

theorem connected_iff (canonical : Canonical names pieces) (known : name ∈ names) :
    Connected choice (render pieces) name ↔ Joined choice pieces name := by
  constructor
  · rintro ⟨before, after, split, flags⟩
    obtain ⟨behind, suffix, rendered⟩ := canonical.occurrence names_apart known split
    obtain ⟨rest, rfl⟩ := comma_first (canonical_behind canonical suffix)
      ⟨after, rendered.symm⟩
    rw [render] at rendered
    rw [← (List.cons.inj rendered).2] at flags
    exact ⟨rest, suffix, flags⟩
  · rintro ⟨rest, suffix, flags⟩
    obtain ⟨before, split⟩ := render_suffix suffix
    refine ⟨before, render rest, ?_, flags⟩
    rw [split, render, render, List.append_assoc]

theorem flagChosen_name {rest : List Char} (known : name ∈ names) :
    FlagChosen choice (name ++ rest) ↔ name ∈ flagNames ∧
      ∃ alternative, choice.lookup name = some alternative ∧
        "ModifierFlag::".toList <+: alternative.text := by
  constructor
  · rintro (here | ⟨flag, member, here, chosen⟩)
    · exact absurd (comparable_of_begins_append here) (flagPrefix_apart name known)
    · have flag_known : flag ∈ names := List.mem_append_left _ member
      rw [← names_apart.different flag flag_known name known (comparable_of_begins_append here)]
      exact ⟨member, chosen⟩
  · rintro ⟨member, chosen⟩
    exact .inr ⟨name, member, List.prefix_append name rest, chosen⟩

theorem flagChosen_letter {c : Char} (canonical : Canonical names (.letter c :: pieces)) :
    FlagChosen choice (render (.letter c :: pieces)) ↔
      c = 'M' ∧ "odifierFlag::".toList <+: render pieces := by
  rw [← flagFirst_letter canonical]
  constructor
  · rintro (here | ⟨flag, member, here, _⟩)
    · exact .inl here
    · exact absurd here (canonical.1 flag (List.mem_append_left _ member))
  · rintro (here | ⟨flag, member, here⟩)
    · exact .inl here
    · exact absurd here (canonical.1 flag (List.mem_append_left _ member))

/-- Where no name for flags is left, the flags are those that are written there. -/
theorem flagChosen_iff (canonical : Canonical names pieces)
    (no_flags : ∀ flag ∈ flagNames, .name flag ∉ pieces) :
    FlagChosen choice (render pieces) ↔ FlagFirst (render pieces) := by
  have none_here : ∀ flag ∈ flagNames, ¬ flag <+: render pieces := by
    intro flag member here
    obtain ⟨others, rfl⟩ := canonical.first names_apart (List.mem_append_left _ member) here
    exact no_flags flag member List.mem_cons_self
  constructor
  · rintro (here | ⟨flag, member, here, _⟩)
    · exact .inl here
    · exact absurd here (none_here flag member)
  · rintro (here | ⟨flag, member, here⟩)
    · exact .inl here
    · exact absurd here (none_here flag member)

theorem joined_iff_flagged (canonical : Canonical names pieces)
    (no_flags : ∀ flag ∈ flagNames, .name flag ∉ pieces) :
    Joined choice pieces name ↔ Flagged name pieces := by
  have same : ∀ {rest}, .name name :: .letter ',' :: rest <:+ pieces →
      (FlagChosen choice (render rest) ↔ FlagFirst (render rest)) := by
    intro rest suffix
    apply flagChosen_iff (canonical_behind canonical suffix).2
    intro flag member here
    apply no_flags flag member
    apply suffix.subset
    simp [here]
  constructor
  · rintro ⟨rest, suffix, flags⟩
    exact ⟨.letter ',' :: rest, suffix, flagBehind_comma.2 ((same suffix).1 flags)⟩
  · rintro ⟨behind, suffix, flags⟩
    obtain ⟨rest, rfl⟩ := comma_first (canonical_behind canonical suffix) flags.comma
    exact ⟨rest, suffix, (same suffix).2 (flagBehind_comma.1 flags)⟩

end

section

variable {name : List Char} {new : List (Piece Char)}

theorem replaceName_append (first second : List (Piece Char)) :
    replaceName name new (first ++ second) =
      replaceName name new first ++ replaceName name new second := by
  induction first with
  | nil => rfl
  | cons piece first ih =>
      cases piece with
      | letter c => rw [List.cons_append, replaceName, replaceName, ih, List.cons_append]
      | name other =>
          rw [List.cons_append, replaceName, replaceName, ih]
          split
          · rw [List.append_assoc]
          · rw [List.cons_append]

/-- What is behind a name that was not put in comes from what was behind it. -/
theorem replaceName_suffix {other : List Char} (absent : .name other ∉ new)
    {pieces second : List (Piece Char)}
    (suffix : .name other :: second <:+ replaceName name new pieces) :
    ∃ rest, .name other :: rest <:+ pieces ∧ second = replaceName name new rest := by
  induction pieces with
  | nil => exact absurd (List.suffix_nil.1 suffix) (List.cons_ne_nil _ _)
  | cons piece pieces ih =>
      have later : .name other :: second <:+ replaceName name new pieces →
          ∃ rest, .name other :: rest <:+ piece :: pieces ∧
            second = replaceName name new rest := by
        intro inner
        obtain ⟨rest, own, same⟩ := ih inner
        exact ⟨rest, own.trans (List.suffix_cons _ _), same⟩
      cases piece with
      | letter c =>
          rcases List.suffix_cons_iff.1 suffix with same | inner
          · cases same
          · exact later inner
      | name first =>
          rw [replaceName] at suffix
          split at suffix
          · exact later (suffix_of_not_mem suffix absent)
          · rcases List.suffix_cons_iff.1 suffix with same | inner
            · obtain ⟨first_same, rfl⟩ := List.cons.inj same
              rw [Piece.name.inj first_same]
              exact ⟨pieces, List.suffix_refl _, rfl⟩
            · exact later inner

end

theorem substitute_letters_append (choice : Choice) (text : List Char)
    (pieces : List (Piece Char)) :
    substitute choice (letters text ++ pieces) = text ++ substitute choice pieces := by
  induction text with
  | nil => rfl
  | cons c text ih => exact congrArg (c :: ·) ih

/-- What a replacement for flags begins with. -/
theorem flagPieces_first : ∀ known ∈ flagMacros, ∀ replacement ∈ known.replacements,
    letters "ModifierFlag::".toList <+: flagPieces replacement.2 ∨
      letters ['|'] <+: flagPieces replacement.2 ∨
      ∃ name ∈ eitherLeftOrRight.map Macro.found,
        [.name name] <+: flagPieces replacement.2 := by
  decide +kernel

theorem eitherLeftOrRight_flags : ∀ name ∈ eitherLeftOrRight.map Macro.found,
    name ∈ flagNames ∧ ∀ alternative ∈ alternatives name,
      "ModifierFlag::".toList <+: alternative.text := by
  decide +kernel

section

variable {known : Macro} (member : known ∈ flagMacros) {replacement : List Char × List Char}
  (inside : replacement ∈ known.replacements) {choice choice' : Choice}
  (own : choice.lookup known.found =
    some { text := substitute choice' (flagPieces replacement.2) })
  (used : ∀ name, .name name ∈ flagPieces replacement.2 →
    ∃ alternative ∈ alternatives name, choice'.lookup name = some alternative)

include member inside own used

/-- What is put in for the first name begins with a flag exactly if the choice for the name
does. -/
theorem flagChosen_replaced {rest rest' : List (Piece Char)}
    (canonical : Canonical names (flagPieces replacement.2 ++ rest')) :
    FlagChosen choice' (render (flagPieces replacement.2 ++ rest')) ↔
      FlagChosen choice (render (.name known.found :: rest)) := by
  have flag : known.found ∈ flagNames := List.mem_map_of_mem member
  rw [render, flagChosen_name (flag_known member)]
  rcases flagPieces_first known member replacement inside with flags | bar | named
  · obtain ⟨more, split⟩ := flags
    rw [← split] at own ⊢
    apply iff_of_true
    · left
      rw [List.append_assoc, render_append, render_letters]
      exact List.prefix_append _ _
    · refine ⟨flag, _, own, ?_⟩
      rw [substitute_letters_append]
      exact List.prefix_append _ _
  · obtain ⟨more, split⟩ := bar
    rw [← split] at own canonical ⊢
    apply iff_of_false
    · intro flags
      exact absurd ((flagChosen_letter canonical).1 flags).1 (by decide)
    · rintro ⟨_, alternative, looked, flags⟩
      obtain rfl := Option.some.inj (own.symm.trans looked)
      rw [substitute_letters_append] at flags
      exact absurd (comparable_of_begins_append flags) (by decide)
  · obtain ⟨name, either, more, split⟩ := named
    obtain ⟨name_flag, begins⟩ := eitherLeftOrRight_flags name either
    obtain ⟨alternative, possible, looked⟩ := used name (by rw [← split]; simp)
    have flags := begins alternative possible
    rw [← split] at own ⊢
    apply iff_of_true
    · show FlagChosen choice' (render (.name name :: (more ++ rest')))
      rw [render, flagChosen_name (List.mem_append_left _ name_flag)]
      exact ⟨name_flag, alternative, looked, flags⟩
    · refine ⟨flag, _, own, ?_⟩
      show _ <+: substitute choice' (.name name :: more)
      rw [substitute, looked]
      exact flags.trans (List.prefix_append _ _)

theorem flagChosen_replaceName {pieces : List (Piece Char)} (canonical : Canonical names pieces)
    (others : ∀ other, other ≠ known.found → .name other ∈ pieces →
      choice.lookup other = choice'.lookup other) :
    FlagChosen choice' (render (replaceName known.found (flagPieces replacement.2) pieces)) ↔
      FlagChosen choice (render pieces) := by
  have replaces := replaces_name known.found (flagPieces_replacement member inside)
  have rewrites := replaceName_rewrites known.found (flagPieces replacement.2) pieces
  have canonical' := replaced_canonical replaces rewrites canonical
  cases pieces with
  | nil =>
      have no_flags : ∀ flag ∈ flagNames, .name flag ∉ ([] : List (Piece Char)) := by simp
      rw [replaceName, flagChosen_iff canonical no_flags, flagChosen_iff canonical no_flags]
  | cons piece pieces =>
      cases piece with
      | letter c =>
          have tails := (replaceName_rewrites known.found (flagPieces replacement.2)
            pieces).prefix_iff replaces.swaps canonical.2 (fun _ known => flagTail_apart known)
            fun old new own => (replaces.starts old new own).flagTail
          rw [replaceName] at canonical' ⊢
          rw [flagChosen_letter canonical, flagChosen_letter canonical', tails]
      | name other =>
          rw [replaceName] at canonical' ⊢
          by_cases same : other = known.found
          · rw [if_pos same] at canonical' ⊢
            rw [same]
            exact flagChosen_replaced member inside own used canonical'
          · rw [if_neg same, render, render, flagChosen_name canonical.1,
              flagChosen_name canonical.1, others other same List.mem_cons_self]

/-- The names are connected before the flags are put in as they are afterwards. -/
theorem joined_replaceName {pieces : List (Piece Char)} (canonical : Canonical names pieces)
    (others : ∀ other, other ≠ known.found → .name other ∈ pieces →
      choice.lookup other = choice'.lookup other)
    {name : List Char} (differs : name ≠ known.found)
    (absent : .name name ∉ flagPieces replacement.2) :
    Joined choice pieces name ↔
      Joined choice' (replaceName known.found (flagPieces replacement.2) pieces) name := by
  have starts := (flagPieces_replacement member inside).starts
  have same : ∀ {rest}, .name name :: .letter ',' :: rest <:+ pieces →
      (FlagChosen choice' (render (replaceName known.found (flagPieces replacement.2) rest)) ↔
        FlagChosen choice (render rest)) := by
    intro rest suffix
    apply flagChosen_replaceName member inside own used (canonical_behind canonical suffix).2
    intro other other_differs here
    apply others other other_differs
    apply suffix.subset
    simp [here]
  constructor
  · rintro ⟨rest, suffix, flags⟩
    refine ⟨_, ?_, (same suffix).2 flags⟩
    obtain ⟨before, rfl⟩ := suffix
    rw [replaceName_append, replaceName, if_neg differs, replaceName]
    exact List.suffix_append _ _
  · rintro ⟨rest', suffix', flags⟩
    obtain ⟨behind, suffix, replaced⟩ := replaceName_suffix absent suffix'
    obtain ⟨rest, rfl⟩ := (Subst.replaceName_comma (starts.comma.self (by simp))).1
      ⟨rest', replaced.symm⟩
    rw [replaceName] at replaced
    obtain ⟨_, rfl⟩ := List.cons.inj replaced
    exact ⟨rest, suffix, (same suffix).1 flags⟩

end

end Autogen

end Karabiner
