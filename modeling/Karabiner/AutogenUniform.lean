import Karabiner.AutogenPieces

set_option autoImplicit false

/- Whether a FROMKEYCODE name has a comma behind it everywhere, before and after a
replacement. -/
namespace Karabiner

namespace Autogen

open MarkedText

/-- A name has flags behind it somewhere. -/
def Flagged (name : List Char) (pieces : List (Piece Char)) : Prop :=
  ∃ rest, .name name :: rest <:+ pieces ∧ FlagBehind (render rest)

/-- A name has no comma behind it somewhere. -/
def Bare (name : List Char) (pieces : List (Piece Char)) : Prop :=
  ∃ rest, .name name :: rest <:+ pieces ∧ ¬ [','] <+: render rest

/-- A name has flags behind it in one place, and no comma in another. -/
def Mixed (name : List Char) (pieces : List (Piece Char)) : Prop :=
  Flagged name pieces ∧ Bare name pieces

theorem not_flagNames {name : List Char} (known : name ∈ fromNames) : name ∉ flagNames := by
  have apart := (List.nodup_append.1 names_nodup).2.2
  exact fun flag => apart name flag name known rfl

theorem flagPrefix_apart : ∀ name ∈ names, ¬ Comparable "ModifierFlag::".toList name := by
  decide +kernel

theorem keyHead_apart : ∀ name ∈ "ModifierFlag::".toList :: flagNames,
    ¬ Comparable name ['K', 'e'] := by
  decide +kernel

theorem not_flagFirst_key {text : List Char} (begins : ['K', 'e'] <+: text) :
    ¬ FlagFirst text := by
  rintro (here | ⟨name, flag, here⟩)
  · exact keyHead_apart _ List.mem_cons_self (comparable_of_begins here begins)
  · exact keyHead_apart name (List.mem_cons_of_mem _ flag) (comparable_of_begins here begins)

theorem flagFirst_name {name rest : List Char} (known : name ∈ names) :
    FlagFirst (name ++ rest) ↔ name ∈ flagNames := by
  constructor
  · rintro (here | ⟨flag, member, here⟩)
    · exact absurd (comparable_of_begins_append here) (flagPrefix_apart name known)
    · have flag_known : flag ∈ names := List.mem_append_left _ member
      rw [← names_apart.different flag flag_known name known (comparable_of_begins_append here)]
      exact member
  · intro member
    exact .inr ⟨name, member, List.prefix_append name rest⟩

theorem flagFirst_letter {c : Char} {pieces : List (Piece Char)}
    (canonical : Canonical names (.letter c :: pieces)) :
    FlagFirst (render (.letter c :: pieces)) ↔
      c = 'M' ∧ "odifierFlag::".toList <+: render pieces := by
  have split : "ModifierFlag::".toList = 'M' :: "odifierFlag::".toList := rfl
  rw [FlagFirst, render, split, List.cons_prefix_cons]
  constructor
  · rintro (⟨same, rest⟩ | ⟨name, member, here⟩)
    · exact ⟨same.symm, rest⟩
    · exact absurd here (canonical.1 name (List.mem_append_left _ member))
  · rintro ⟨same, rest⟩
    exact .inl ⟨same.symm, rest⟩

theorem flagBehind_comma {pieces : List (Piece Char)} :
    FlagBehind (render (.letter ',' :: pieces)) ↔ FlagFirst (render pieces) := by
  constructor
  · rintro ⟨rest, same, flags⟩
    rwa [(List.cons.inj same).2]
  · intro flags
    exact ⟨render pieces, rfl, flags⟩

theorem FlagBehind.comma {text : List Char} (behind : FlagBehind text) : [','] <+: text := by
  obtain ⟨rest, rfl, _⟩ := behind
  exact ⟨rest, rfl⟩

theorem uniform_iff {pieces : List (Piece Char)} (canonical : Canonical names pieces) :
    Uniform (render pieces) ↔ ∀ name ∈ fromNames, ¬ Mixed name pieces := by
  have at_suffix : ∀ {name : List Char} {rest : List (Piece Char)},
      .name name :: rest <:+ pieces → ∃ before,
      render pieces = before ++ name ++ render rest := by
    intro name rest suffix
    obtain ⟨before, split⟩ := render_suffix suffix
    exact ⟨before, by rw [split, render, List.append_assoc]⟩
  constructor
  · rintro uniform name key ⟨⟨rest, suffix, behind⟩, rest', suffix', bare⟩
    obtain ⟨before, split⟩ := at_suffix suffix
    obtain ⟨before', split'⟩ := at_suffix suffix'
    exact bare (uniform name key ⟨before, render rest, split, behind⟩ before' _ split')
  · rintro none_mixed name key ⟨before, after, split, behind⟩ before' after' split'
    have known : name ∈ names := List.mem_append_right _ key
    obtain ⟨rest, suffix, rfl⟩ := canonical.occurrence names_apart known split
    obtain ⟨rest', suffix', rfl⟩ := canonical.occurrence names_apart known split'
    by_contra bare
    exact none_mixed name key ⟨⟨rest, suffix, behind⟩, rest', suffix', bare⟩

/-- What replaces names by something that begins neither with a comma nor inside of a flag. -/
structure Replaces (swap : List (Piece Char) → List (Piece Char) → Prop) : Prop where
  swaps : Swaps names swap
  starts : ∀ old new, swap old new → Starts (render new)

theorem replaces_name (name : List Char) {new : List (Piece Char)}
    (replacement : Replacement new) : Replaces (SwapsName name new) where
  swaps := swapsName replacement.fits
  starts := by
    rintro old new' ⟨_, rfl⟩
    exact replacement.starts

theorem replaces_next (name : List Char) {new : List (Piece Char)}
    (replacement : Replacement new) : Replaces (SwapsNext name ',' new) where
  swaps := swapsNext replacement.fits
  starts := by
    rintro old new' ⟨_, rfl⟩
    exact replacement.starts

theorem flagTail_apart {name : List Char} (known : name ∈ names) :
    MarkedText.Ends "odifierFlag::".toList name := by
  obtain ⟨head, member, begins⟩ := (names_heads name known).1
  exact (heads_apart head (List.mem_append_left _ member)).2.of_head begins

theorem comma_apart {name : List Char} (known : name ∈ names) : MarkedText.Ends [','] name := by
  obtain ⟨head, member, begins⟩ := (names_heads name known).1
  exact (heads_apart head (List.mem_append_left _ member)).1.of_head begins

section

variable {swap : List (Piece Char) → List (Piece Char) → Prop} (replaces : Replaces swap)
  {pieces pieces' : List (Piece Char)} (rewrites : Rewrites swap pieces pieces')
  (canonical : Canonical names pieces)

include replaces rewrites canonical

theorem replaced_canonical : Canonical names pieces' :=
  rewrites.canonical names_apart replaces.swaps canonical

theorem comma_iff : [','] <+: render pieces' ↔ [','] <+: render pieces :=
  rewrites.prefix_iff replaces.swaps canonical (fun _ known => comma_apart known)
    fun old new own => (replaces.starts old new own).comma

theorem flagFirst_cases : (FlagFirst (render pieces') ↔ FlagFirst (render pieces)) ∨
    ∃ old new rest rest', swap old new ∧ pieces = old ++ rest ∧ pieces' = new ++ rest' := by
  have canonical' := replaced_canonical replaces rewrites canonical
  cases rewrites with
  | nil => exact .inl Iff.rfl
  | @keep piece pieces pieces' rewrites =>
      left
      cases piece with
      | letter c =>
          have tails := rewrites.prefix_iff replaces.swaps canonical.2
            (fun _ known => flagTail_apart known)
            fun old new own => (replaces.starts old new own).flagTail
          rw [flagFirst_letter canonical, flagFirst_letter canonical', tails]
      | name name =>
          rw [render, render, flagFirst_name canonical.1, flagFirst_name canonical.1]
  | @replace old new pieces pieces' own rewrites =>
      exact .inr ⟨old, new, pieces, pieces', own, rfl, rfl⟩

/-- Flags behind a comma stay, or it is a replacement that is behind the comma. -/
theorem flagBehind_cases : (FlagBehind (render pieces') ↔ FlagBehind (render pieces)) ∨
    ∃ old new rest rest', swap old new ∧ pieces = .letter ',' :: (old ++ rest) ∧
      pieces' = .letter ',' :: (new ++ rest') := by
  have same_comma := comma_iff replaces rewrites canonical
  by_cases comma : [','] <+: render pieces
  · obtain ⟨tail, first⟩ := comma_first canonical comma
    cases rewrites with
    | nil => cases first
    | @keep piece tail tail' rewrites =>
        obtain ⟨rfl, rfl⟩ := List.cons.inj first
        rw [flagBehind_comma, flagBehind_comma]
        rcases flagFirst_cases replaces rewrites canonical.2 with same | replaced
        · exact .inl same
        · obtain ⟨old, new, rest, rest', own, rfl, rfl⟩ := replaced
          exact .inr ⟨old, new, rest, rest', own, rfl, rfl⟩
    | @replace old new rest rest' own rewrites =>
        obtain ⟨name, others, rfl⟩ := replaces.swaps.starts old new own
        cases first
  · left
    exact ⟨fun behind => absurd (same_comma.1 behind.comma) comma,
      fun behind => absurd behind.comma comma⟩

variable {name : List Char}

omit replaces rewrites in
theorem canonical_behind {rest : List (Piece Char)} (suffix : .name name :: rest <:+ pieces) :
    Canonical names rest := by
  obtain ⟨before, rfl⟩ := suffix
  exact canonical.suffix.2

/-- A name that the replacements do not concern has flags behind it afterwards only if it had
before. -/
theorem flagged_back (absent : ∀ old new, swap old new → .name name ∉ new)
    (flags : ∀ old new rest rest', swap old new →
      FlagFirst (render (new ++ rest')) → FlagFirst (render (old ++ rest))) :
    Flagged name pieces' → Flagged name pieces := by
  rintro ⟨rest, suffix, behind⟩
  obtain ⟨second, own, tail⟩ := rewrites.occurrence_back absent suffix
  refine ⟨second, own, ?_⟩
  rcases flagBehind_cases replaces tail (canonical_behind canonical own) with same | replaced
  · exact same.1 behind
  · obtain ⟨old, new, old_rest, new_rest, swapped, rfl, rfl⟩ := replaced
    rw [flagBehind_comma] at behind ⊢
    exact flags old new old_rest new_rest swapped behind

theorem flagged_forth (absent : ∀ old new, swap old new → .name name ∉ old)
    (flags : ∀ old new rest rest', swap old new →
      FlagFirst (render (old ++ rest)) → FlagFirst (render (new ++ rest'))) :
    Flagged name pieces → Flagged name pieces' := by
  rintro ⟨second, own, behind⟩
  obtain ⟨rest, suffix, tail⟩ := rewrites.occurrence absent own
  refine ⟨rest, suffix, ?_⟩
  rcases flagBehind_cases replaces tail (canonical_behind canonical own) with same | replaced
  · exact same.2 behind
  · obtain ⟨old, new, old_rest, new_rest, swapped, rfl, rfl⟩ := replaced
    rw [flagBehind_comma] at behind ⊢
    exact flags old new old_rest new_rest swapped behind

theorem bare_back (absent : ∀ old new, swap old new → .name name ∉ new) :
    Bare name pieces' → Bare name pieces := by
  rintro ⟨rest, suffix, bare⟩
  obtain ⟨second, own, tail⟩ := rewrites.occurrence_back absent suffix
  refine ⟨second, own, ?_⟩
  rw [← comma_iff replaces tail (canonical_behind canonical own)]
  exact bare

theorem bare_forth (absent : ∀ old new, swap old new → .name name ∉ old) :
    Bare name pieces → Bare name pieces' := by
  rintro ⟨second, own, bare⟩
  obtain ⟨rest, suffix, tail⟩ := rewrites.occurrence absent own
  refine ⟨rest, suffix, ?_⟩
  rw [comma_iff replaces tail (canonical_behind canonical own)]
  exact bare

end

end Autogen

end Karabiner
