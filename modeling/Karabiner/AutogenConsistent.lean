import Karabiner.AutogenConnected

set_option autoImplicit false

/- When the expansion of an autogen gives the texts of the choices for its names. -/
namespace Karabiner

namespace Autogen

open MarkedText

def occurringNames (pieces : List (Piece Char)) : List (List Char) :=
  names.filter fun name => .name name ∈ pieces

theorem occurring_render {pieces : List (Piece Char)} (canonical : Canonical names pieces) :
    occurring (render pieces) = occurringNames pieces := by
  apply List.filter_congr
  intro name known
  rw [Bool.eq_iff_iff, contains_name known canonical, decide_eq_true_iff]

section choices

theorem choices_keys {found : List (List Char)} {choice : Choice}
    (member : choice ∈ choices found) : choice.map Prod.fst = found := by
  induction found generalizing choice with
  | nil => rw [List.mem_singleton.1 member, List.map_nil]
  | cons name found ih =>
      obtain ⟨alternative, _, inside⟩ := List.mem_flatMap.1 member
      obtain ⟨rest, rest_member, rfl⟩ := List.mem_map.1 inside
      rw [List.map_cons, ih rest_member]

theorem choices_append (first second : List (List Char)) :
    choices (first ++ second) =
      (choices first).flatMap fun choice => (choices second).map (choice ++ ·) := by
  induction first with
  | nil => simp [choices]
  | cons name first ih =>
      simp only [List.cons_append, choices, ih, List.flatMap_assoc, List.flatMap_map,
        List.map_flatMap, List.map_map]
      rfl

theorem lookup_eq_none_of_keys {choice : Choice} {name : List Char}
    (absent : name ∉ choice.map Prod.fst) : choice.lookup name = none := by
  rw [List.lookup_eq_none_iff]
  intro chosen member
  rw [bne_iff_ne]
  rintro rfl
  exact absent (List.mem_map_of_mem member)

theorem lookup_drop {choice : Choice} {count : Nat} {name : List Char}
    (absent : name ∉ (choice.take count).map Prod.fst) :
    (choice.drop count).lookup name = choice.lookup name := by
  conv_rhs => rw [← List.take_append_drop count choice]
  rw [List.lookup_append, lookup_eq_none_of_keys absent, Option.none_or]

theorem choices_lookup {found : List (List Char)} {choice : Choice}
    (member : choice ∈ choices found) {name : List Char} (inside : name ∈ found) :
    ∃ alternative ∈ alternatives name, choice.lookup name = some alternative := by
  induction found generalizing choice with
  | nil => cases inside
  | cons first found ih =>
      obtain ⟨alternative, own, member⟩ := List.mem_flatMap.1 member
      obtain ⟨rest, rest_member, rfl⟩ := List.mem_map.1 member
      by_cases same : name = first
      · rw [same]
        exact ⟨alternative, own, List.lookup_cons_self⟩
      · obtain ⟨other, other_own, looked⟩ :=
          ih rest_member ((List.mem_cons.1 inside).resolve_left same)
        refine ⟨other, other_own, ?_⟩
        rw [List.lookup_cons, beq_false_of_ne same]
        exact looked

theorem alternatives_pos : ∀ name ∈ names, alternatives name ≠ [] := by
  decide +kernel

theorem choices_pos {found : List (List Char)} (known : ∀ name ∈ found, name ∈ names) :
    0 < (choices found).length := by
  induction found with
  | nil => decide
  | cons name found ih =>
      have rest := ih fun other member => known other (List.mem_cons_of_mem _ member)
      obtain ⟨choice, choice_member⟩ := List.exists_mem_of_length_pos rest
      obtain ⟨alternative, own⟩ :=
        List.exists_mem_of_ne_nil _ (alternatives_pos name (known name List.mem_cons_self))
      apply List.length_pos_of_mem
      exact List.mem_flatMap.2 ⟨alternative, own, List.mem_map_of_mem choice_member⟩

theorem substitute_append {choice : Choice} (more : Choice) {pieces : List (Piece Char)}
    (known : ∀ name, .name name ∈ pieces → ∃ own, choice.lookup name = some own) :
    substitute (choice ++ more) pieces = substitute choice pieces := by
  induction pieces with
  | nil => rfl
  | cons piece pieces ih =>
      have rest := ih fun name member => known name (List.mem_cons_of_mem _ member)
      cases piece with
      | letter c => rw [substitute, substitute, rest]
      | name name =>
          obtain ⟨own, looked⟩ := known name List.mem_cons_self
          rw [substitute, substitute, rest, List.lookup_append, looked]
          rfl

theorem substitute_letters (choice : Choice) (text : List Char) :
    substitute choice (letters text) = text := by
  induction text with
  | nil => rfl
  | cons c text ih => exact congrArg (c :: ·) ih

end choices

section occurring

variable {before after : List (List Char)} {name : List Char}
  (split : names = before ++ name :: after) {pieces : List (Piece Char)}
  (absent : ∀ other ∈ before, .name other ∉ pieces)

include split absent

/-- The first name is followed by what occurs of the later ones. -/
theorem occurring_first (here : .name name ∈ pieces) :
    occurringNames pieces = name :: after.filter fun other => .name other ∈ pieces := by
  have none_before : before.filter (fun other => .name other ∈ pieces) = [] := by
    rw [List.filter_eq_nil_iff]
    intro other member
    rw [decide_eq_true_iff]
    exact absent other member
  rw [occurringNames, split, List.filter_append, none_before, List.nil_append]
  exact List.filter_cons_of_pos (decide_eq_true here)

/-- Once it is replaced, what comes in with the replacement is in front of them. -/
theorem occurring_replaced {new pieces' : List (Piece Char)}
    (earlier : ∀ other ∈ names, .name other ∈ new → other ∈ before)
    (members : ∀ other ∈ names, .name other ∈ pieces' ↔
      (other ≠ name ∧ .name other ∈ pieces) ∨ .name other ∈ new) :
    occurringNames pieces' =
      occurringNames new ++ after.filter fun other => .name other ∈ pieces := by
  have nodup := names_nodup
  rw [split] at nodup members earlier
  have apart := (List.nodup_append.1 nodup).2.2
  have fresh := (List.nodup_cons.1 (List.nodup_append.1 nodup).2.1).1
  have in_before : before.filter (fun other => .name other ∈ pieces') =
      before.filter fun other => .name other ∈ new := by
    apply List.filter_congr
    intro other member
    rw [decide_eq_decide, members other (List.mem_append_left _ member)]
    exact or_iff_right fun both => absent other member both.2
  have not_new : ∀ other ∈ name :: after, .name other ∉ new := by
    intro other member own
    have inside := List.mem_append_right before member
    exact apart other (earlier other inside own) other member rfl
  have new_after : (name :: after).filter (fun other => .name other ∈ new) = [] := by
    rw [List.filter_eq_nil_iff]
    intro other member
    rw [decide_eq_true_iff]
    exact not_new other member
  have name_gone : .name name ∉ pieces' := by
    rw [members name (by simp)]
    rintro (⟨differs, _⟩ | own)
    · exact differs rfl
    · exact not_new name List.mem_cons_self own
  have in_after : after.filter (fun other => .name other ∈ pieces') =
      after.filter fun other => .name other ∈ pieces := by
    apply List.filter_congr
    intro other member
    have later := List.mem_cons_of_mem name member
    have differs : other ≠ name := by
      rintro rfl
      exact fresh member
    rw [decide_eq_decide, members other (List.mem_append_right _ later)]
    constructor
    · exact fun cases => (cases.resolve_right (not_new other later)).2
    · exact fun own => .inl ⟨differs, own⟩
  rw [occurringNames, occurringNames, split, List.filter_append, List.filter_append, in_before,
    new_after, List.append_nil, List.filter_cons_of_neg (by rwa [decide_eq_true_iff]), in_after]

end occurring

/-- The choice of an alternative for each name, with the text that comes of it. -/
def Emits (pieces : List (Piece Char)) (choice : Choice) (text : List Char) : Prop :=
  ∃ replaced, Subst choice (Joined choice pieces) pieces replaced ∧ text = compatible replaced

/-- The expansion has each choice once where no name is mixed, and more texts than choices
where one is. -/
structure Expanded (pieces : List (Piece Char)) : Prop where
  consistent : Uniform (render pieces) → ∃ chosen : List Choice,
    chosen.Perm (choices (occurringNames pieces)) ∧
      List.Forall₂ (Emits pieces) chosen (expand (render pieces))
  enough : (choices (occurringNames pieces)).length ≤ (expand (render pieces)).length
  more : ¬ Uniform (render pieces) →
    (choices (occurringNames pieces)).length < (expand (render pieces)).length

/-- One of the texts that a round gives, with what its choices say about the names of the text
before. -/
structure Part where
  pieces : List (Piece Char)
  merge : Choice → Choice

section parts

variable (parts : List Part)

def Part.found (part : Part) : List Choice :=
  (choices (occurringNames part.pieces)).map part.merge

def Part.expanded (part : Part) : List (List Char) := expand (render part.pieces)

theorem parts_enough (enough : ∀ part ∈ parts, part.found.length ≤ part.expanded.length) :
    (parts.flatMap Part.found).length ≤ (parts.flatMap Part.expanded).length := by
  induction parts with
  | nil => exact Nat.le_refl 0
  | cons part parts ih =>
      rw [List.flatMap_cons, List.flatMap_cons, List.length_append, List.length_append]
      exact Nat.add_le_add (enough part List.mem_cons_self)
        (ih fun other member => enough other (List.mem_cons_of_mem _ member))

theorem parts_more (enough : ∀ part ∈ parts, part.found.length ≤ part.expanded.length)
    {part : Part} (member : part ∈ parts) (more : part.found.length < part.expanded.length) :
    (parts.flatMap Part.found).length < (parts.flatMap Part.expanded).length := by
  obtain ⟨before, after, rfl⟩ := List.append_of_mem member
  have enough_before := parts_enough before fun other inside =>
    enough other (List.mem_append_left _ inside)
  have enough_after := parts_enough after fun other inside =>
    enough other (List.mem_append_right _ (List.mem_cons_of_mem _ inside))
  simp only [List.flatMap_append, List.flatMap_cons, List.length_append]
  omega

theorem parts_chosen {R : Choice → List Char → Prop}
    (all : ∀ part ∈ parts, ∃ chosen : List Choice,
      chosen.Perm part.found ∧ List.Forall₂ R chosen part.expanded) :
    ∃ chosen : List Choice, chosen.Perm (parts.flatMap Part.found) ∧
      List.Forall₂ R chosen (parts.flatMap Part.expanded) := by
  induction parts with
  | nil => exact ⟨[], List.Perm.refl _, .nil⟩
  | cons part parts ih =>
      obtain ⟨first, first_perm, first_related⟩ := all part List.mem_cons_self
      obtain ⟨rest, rest_perm, rest_related⟩ :=
        ih fun other member => all other (List.mem_cons_of_mem _ member)
      exact ⟨first ++ rest, first_perm.append rest_perm,
        List.rel_append first_related rest_related⟩

variable {parts} {pieces : List (Piece Char)}

/-- A text is expanded if the texts that a round gives are, and their choices together are
its choices. -/
theorem expanded_of_parts
    (preprocessed : preprocess (render pieces) = some (parts.map fun part => render part.pieces))
    (all : choices (occurringNames pieces) = parts.flatMap Part.found)
    (merges : ∀ part ∈ parts, ∀ choice ∈ choices (occurringNames part.pieces), ∀ out,
      Subst choice (Joined choice part.pieces) part.pieces out →
        Subst (part.merge choice) (Joined (part.merge choice) pieces) pieces out)
    (uniform : Uniform (render pieces) → ∀ part ∈ parts, Uniform (render part.pieces))
    (not_uniform : ¬ Uniform (render pieces) → ∃ part ∈ parts,
      ¬ Uniform (render part.pieces))
    (canonical : ∀ part ∈ parts, Canonical names part.pieces)
    (later : ∀ texts, preprocess (render pieces) = some texts →
      ∀ pieces', Canonical names pieces' → render pieces' ∈ texts → Expanded pieces') :
    Expanded pieces := by
  have expanded : ∀ part ∈ parts, Expanded part.pieces := fun part member =>
    later _ preprocessed part.pieces (canonical part member) (List.mem_map_of_mem member)
  have texts : expand (render pieces) = parts.flatMap Part.expanded := by
    rw [expand_some preprocessed, List.flatMap_map]
    rfl
  have enough : ∀ part ∈ parts, part.found.length ≤ part.expanded.length := by
    intro part member
    rw [Part.found, List.length_map]
    exact (expanded part member).enough
  refine ⟨?_, ?_, ?_⟩
  · intro own
    rw [all, texts]
    apply parts_chosen
    intro part member
    obtain ⟨chosen, perm, related⟩ :=
      (expanded part member).consistent (uniform own part member)
    refine ⟨chosen.map part.merge, perm.map part.merge, ?_⟩
    rw [List.forall₂_map_left_iff]
    have inside : ∀ choice ∈ chosen, choice ∈ choices (occurringNames part.pieces) :=
      fun choice => perm.mem_iff.1
    have both := (List.forall₂_and_left chosen part.expanded).2 ⟨inside, related⟩
    apply both.imp
    rintro choice text ⟨known, replaced, subst, same⟩
    exact ⟨replaced, merges part member choice known replaced subst, same⟩
  · rw [all, texts]
    exact parts_enough parts enough
  · intro other
    obtain ⟨part, member, part_other⟩ := not_uniform other
    have more : part.found.length < part.expanded.length := by
      rw [Part.found, List.length_map]
      exact (expanded part member).more part_other
    rw [all, texts]
    exact parts_more parts enough member more

end parts

/-- Without names there is nothing to choose. -/
theorem expanded_plain {pieces : List (Piece Char)} (canonical : Canonical names pieces)
    (no_names : ∀ name ∈ names, .name name ∉ pieces) : Expanded pieces := by
  have no_piece : ∀ name, .name name ∉ pieces := fun name member =>
    no_names name (canonical.mem member) member
  have letters_only := eq_letters no_piece
  have texts : expand (render pieces) = [compatible (render pieces)] :=
    expand_letters (by rw [← letters_only]; exact canonical)
  have nothing : occurringNames pieces = [] := by
    rw [occurringNames, List.filter_eq_nil_iff]
    intro name known
    rw [decide_eq_true_iff]
    exact no_piece name
  have uniform : Uniform (render pieces) := by
    rw [uniform_iff canonical]
    rintro name _ ⟨⟨rest, suffix, _⟩, _⟩
    exact no_piece name (mem_iff_suffix.2 ⟨rest, suffix⟩)
  have emits : Emits pieces [] (compatible (render pieces)) := by
    refine ⟨render pieces, ?_, rfl⟩
    have subst := Subst.of_letters [] (Joined [] pieces) (render pieces)
    rwa [← letters_only] at subst
  have related : List.Forall₂ (Emits pieces) [[]] (expand (render pieces)) := by
    rw [texts]
    exact .cons emits .nil
  refine ⟨fun _ => ⟨[[]], ?_, related⟩, ?_, fun other => absurd uniform other⟩
  · rw [nothing]
    exact List.Perm.refl _
  · rw [nothing, texts]
    exact Nat.le_refl 1

def flagPart (pieces : List (Piece Char)) (name : List Char) (new : List (Piece Char)) :
    Part where
  pieces := replaceName name new pieces
  merge choice := (name, { text := substitute choice new }) ::
    choice.drop (occurringNames new).length

section flags

theorem flag_first_replacement : ∀ known ∈ flagMacros, ∃ replacement ∈ known.replacements,
    "ModifierFlag::".toList <+: replacement.2 ∨ ∃ name ∈ flagNames,
    name <+: replacement.2 := by
  decide +kernel

theorem FlagFirst.append {text : List Char} (flags : FlagFirst text) (rest : List Char) :
    FlagFirst (text ++ rest) := by
  rcases flags with here | ⟨name, member, here⟩
  · exact .inl (here.trans (List.prefix_append text rest))
  · exact .inr ⟨name, member, here.trans (List.prefix_append text rest)⟩

theorem flag_alternatives_plain {known : Macro} (member : known ∈ flagMacros)
    {alternative : Alternative} (own : alternative ∈ alternatives known.found) :
    alternative.withComma = none := by
  rw [(flagMacros_spec known member).1] at own
  obtain ⟨replacement, _, inside⟩ := List.mem_flatMap.1 own
  obtain ⟨choice, _, rfl⟩ := List.mem_map.1 inside
  rfl

variable {before after : List Macro} {known : Macro}
  (split : flagMacros = before ++ known :: after)

include split

theorem names_split : names =
    before.map Macro.found ++ known.found :: (after.map Macro.found ++ fromNames) := by
  have flags : flagNames = flagMacros.map Macro.found := rfl
  rw [names, flags, split, List.map_append, List.map_cons, List.append_assoc, List.cons_append]

theorem replacement_earlier {replacement : List Char × List Char}
    (inside : replacement ∈ known.replacements) :
    ∀ other ∈ names, .name other ∈ flagPieces replacement.2 →
      other ∈ before.map Macro.found := by
  have member : known ∈ flagMacros := by rw [split]; simp
  obtain ⟨_, _, _, not_later⟩ := (flagMacros_spec known member).2 replacement inside
  have nodup := names_nodup
  rw [names_split split] at nodup not_later ⊢
  have apart := (List.nodup_append.1 nodup).2.2
  have differs : ∀ other ∈ before.map Macro.found, decide (other ≠ known.found) = true :=
    fun other own => decide_eq_true (apart other own _ List.mem_cons_self)
  rw [List.dropWhile_append_of_pos differs, List.dropWhile_cons_of_neg (by simp)] at not_later
  intro other own used
  rcases List.mem_append.1 own with earlier | later
  · exact earlier
  · exact absurd used (not_later other later)

variable {pieces : List (Piece Char)} (canonical : Canonical names pieces)
  (earlier : ∀ other ∈ before, .name other.found ∉ pieces)
  (here : .name known.found ∈ pieces)

section part

variable {replacement : List Char × List Char} (inside : replacement ∈ known.replacements)

include inside

theorem replacement_occurs {name : List Char} (used : .name name ∈ flagPieces replacement.2) :
    name ∈ occurringNames (flagPieces replacement.2) := by
  have member : known ∈ flagMacros := by rw [split]; simp
  have whole : Canonical names (flagPieces replacement.2 ++ []) :=
    (flagPieces_replacement member inside).closed.append trivial
  rw [List.append_nil] at whole
  exact List.mem_filter.2 ⟨whole.mem used, decide_eq_true used⟩

include earlier here

theorem flagPart_occurring :
    occurringNames (flagPart pieces known.found (flagPieces replacement.2)).pieces =
      occurringNames (flagPieces replacement.2) ++
        (after.map Macro.found ++ fromNames).filter fun other => .name other ∈ pieces := by
  apply occurring_replaced (names_split split)
  · intro other member
    obtain ⟨first, own, rfl⟩ := List.mem_map.1 member
    exact earlier first own
  · exact replacement_earlier split inside
  · intro other _
    rw [flagPart, mem_replaceName, and_iff_left here]

theorem flagPart_found :
    (flagPart pieces known.found (flagPieces replacement.2)).found =
      (choices (occurringNames (flagPieces replacement.2))).flatMap fun choice =>
        (choices ((after.map Macro.found ++ fromNames).filter fun other =>
          .name other ∈ pieces)).map
            ((known.found, { text := substitute choice (flagPieces replacement.2) }) :: ·) := by
  rw [Part.found, flagPart_occurring split earlier here inside, choices_append, List.map_flatMap]
  apply List.flatMap_congr
  intro choice member
  rw [List.map_map]
  apply List.map_congr_left
  intro more _
  have length : (occurringNames (flagPieces replacement.2)).length = choice.length := by
    rw [← choices_keys member, List.length_map]
  have looked : ∀ name, .name name ∈ flagPieces replacement.2 →
      ∃ own, choice.lookup name = some own := by
    intro name used
    obtain ⟨own, _, same⟩ := choices_lookup member (replacement_occurs split inside used)
    exact ⟨own, same⟩
  simp only [Function.comp_apply, flagPart, substitute_append more looked, length, List.drop_left]

theorem flagPart_merge (canonical : Canonical names pieces) {choice : Choice}
    (member : choice ∈
      choices (occurringNames (flagPart pieces known.found (flagPieces replacement.2)).pieces))
    {out : List Char}
    (subst : Subst choice
      (Joined choice (flagPart pieces known.found (flagPieces replacement.2)).pieces)
      (flagPart pieces known.found (flagPieces replacement.2)).pieces out) :
    Subst ((flagPart pieces known.found (flagPieces replacement.2)).merge choice)
      (Joined ((flagPart pieces known.found (flagPieces replacement.2)).merge choice) pieces)
      pieces out := by
  have flag : known ∈ flagMacros := by rw [split]; simp
  have starts := (flagPieces_replacement flag inside).starts
  have keys := choices_keys member
  rw [flagPart_occurring split earlier here inside] at member keys
  have used : ∀ other, .name other ∈ flagPieces replacement.2 →
      ∃ own ∈ alternatives other, choice.lookup other = some own := by
    intro other used
    have found := replacement_occurs split inside used
    obtain ⟨own, possible, looked⟩ := choices_lookup member (List.mem_append_left _ found)
    exact ⟨own, possible, looked⟩
  have others : ∀ other, other ≠ known.found → .name other ∈ pieces →
      ((flagPart pieces known.found (flagPieces replacement.2)).merge choice).lookup other =
        choice.lookup other := by
    intro other differs here
    have not_new : other ∉ (choice.take (occurringNames (flagPieces replacement.2)).length).map
        Prod.fst := by
      rw [List.map_take, keys, List.take_left]
      intro new
      obtain ⟨named, new⟩ := List.mem_filter.1 new
      obtain ⟨first, first_member, rfl⟩ := List.mem_map.1
        (replacement_earlier split inside other named (of_decide_eq_true new))
      exact earlier first first_member here
    show List.lookup other ((known.found, _) :: choice.drop _) = _
    rw [List.lookup_cons, beq_false_of_ne differs]
    exact lookup_drop not_new
  apply Subst.of_replaceName List.lookup_cons_self _ (starts.comma.self (by simp)) rfl _ _ subst
  · intro other own
    obtain ⟨alternative, possible, looked⟩ := used other own
    obtain ⟨first, first_member, rfl⟩ := List.mem_map.1 (replacement_earlier split inside other
      (List.mem_of_mem_filter (replacement_occurs split inside own)) own)
    have first_flag : first ∈ flagMacros := by
      rw [split]
      exact List.mem_append_left _ first_member
    exact ⟨alternative, looked, flag_alternatives_plain first_flag possible⟩
  · exact fun fn => absurd rfl fn
  · intro other differs occurs
    refine ⟨others other differs occurs, ?_⟩
    apply joined_replaceName flag inside List.lookup_cons_self used canonical others differs
    intro own
    obtain ⟨first, first_member, rfl⟩ := List.mem_map.1
      (replacement_earlier split inside other (canonical.mem occurs) own)
    exact earlier first first_member occurs

end part

include canonical earlier here

/-- The first of the names for flags is replaced by each of its replacements. -/
theorem expanded_flag
    (later : ∀ texts, preprocess (render pieces) = some texts →
      ∀ pieces', Canonical names pieces' → render pieces' ∈ texts → Expanded pieces') :
    Expanded pieces := by
  have flag : known ∈ flagMacros := by rw [split]; simp
  have named : known.found ∈ flagNames := List.mem_map_of_mem flag
  have here_first : .name known.found ∈ pieces := here
  have rewrites : ∀ replacement : List Char × List Char,
      Rewrites (SwapsName known.found (flagPieces replacement.2)) pieces
        (flagPart pieces known.found (flagPieces replacement.2)).pieces :=
    fun replacement => replaceName_rewrites _ _ _
  have replaces : ∀ replacement ∈ known.replacements,
      Replaces (SwapsName known.found (flagPieces replacement.2)) := fun replacement inside =>
    replaces_name known.found (flagPieces_replacement flag inside)
  have canonical' : ∀ replacement ∈ known.replacements,
      Canonical names (flagPart pieces known.found (flagPieces replacement.2)).pieces :=
    fun replacement inside =>
      replaced_canonical (replaces replacement inside) (rewrites replacement) canonical
  have parts : ∀ part ∈ known.replacements.map fun replacement =>
      flagPart pieces known.found (flagPieces replacement.2),
      ∃ replacement ∈ known.replacements,
        part = flagPart pieces known.found (flagPieces replacement.2) := by
    intro part member
    obtain ⟨replacement, inside, rfl⟩ := List.mem_map.1 member
    exact ⟨replacement, inside, rfl⟩
  apply expanded_of_parts _ _ _ _ _ _ later
  · exact known.replacements.map fun replacement =>
      flagPart pieces known.found (flagPieces replacement.2)
  · rw [preprocess_flag canonical split earlier here, List.map_map]
    rfl
  · have absent : ∀ other ∈ before.map Macro.found, .name other ∉ pieces := by
      intro other member
      obtain ⟨first, own, rfl⟩ := List.mem_map.1 member
      exact earlier first own
    rw [occurring_first (names_split split) absent here, choices, (flagMacros_spec known flag).1,
      List.flatMap_assoc, List.flatMap_map]
    apply List.flatMap_congr
    intro replacement inside
    rw [flagPart_found split earlier here inside, List.flatMap_map]
    rfl
  · intro part member choice possible out subst
    obtain ⟨replacement, inside, rfl⟩ := parts part member
    exact flagPart_merge split earlier here inside canonical possible subst
  · intro uniform part member
    obtain ⟨replacement, inside, rfl⟩ := parts part member
    rw [uniform_iff canonical] at uniform
    rw [uniform_iff (canonical' replacement inside)]
    rintro name key ⟨flagged, bare⟩
    have absent : ∀ old new, SwapsName known.found (flagPieces replacement.2) old new →
        .name name ∉ new := by
      rintro old new ⟨_, rfl⟩ used
      obtain ⟨first, own, rfl⟩ := List.mem_map.1
        (replacement_earlier split inside name (List.mem_append_right _ key) used)
      refine not_flagNames key (List.mem_map_of_mem ?_)
      rw [← flagMacros, split]
      exact List.mem_append_left _ own
    apply uniform name key
    constructor
    · apply flagged_back (replaces replacement inside) (rewrites replacement) canonical absent _
        flagged
      rintro old new rest rest' ⟨rfl, _⟩ _
      exact (flagFirst_name (flag_known flag)).2 named
    · exact bare_back (replaces replacement inside) (rewrites replacement) canonical absent bare
  · intro other
    rw [uniform_iff canonical] at other
    simp only [not_forall, not_not] at other
    obtain ⟨name, key, mixed⟩ := other
    obtain ⟨replacement, inside, flags⟩ := flag_first_replacement known flag
    refine ⟨_, List.mem_map_of_mem inside, ?_⟩
    rw [uniform_iff (canonical' replacement inside)]
    intro uniform
    have absent : ∀ old new, SwapsName known.found (flagPieces replacement.2) old new →
        .name name ∉ old := by
      rintro old new ⟨rfl, _⟩ used
      rw [List.mem_singleton, Piece.name.injEq] at used
      rw [used] at key
      exact not_flagNames key named
    apply uniform name key
    constructor
    · apply flagged_forth (replaces replacement inside) (rewrites replacement) canonical absent _
        mixed.1
      rintro old new rest rest' ⟨_, rfl⟩ _
      rw [render_append, render_flagPieces]
      exact FlagFirst.append flags _
    · exact bare_forth (replaces replacement inside) (rewrites replacement) canonical absent
        mixed.2
  · intro part member
    obtain ⟨replacement, inside, rfl⟩ := parts part member
    exact canonical' replacement inside

end flags

section keys

theorem key_alternatives : ∀ key ∈ fromKeys,
    alternatives (fromName key) = [plainKey key, keyWithFn key] := by
  decide +kernel

variable {before after : List (String × String)} {key : String × String}
  (split : fromKeys = before ++ key :: after) {pieces : List (Piece Char)}
  (canonical : Canonical names pieces)
  (no_flags : ∀ known ∈ flagMacros, .name known.found ∉ pieces)
  (earlier : ∀ other ∈ before, .name (fromName other) ∉ pieces)
  (here : .name (fromName key) ∈ pieces)

theorem comma_text_mem (key : String × String) :
    (keyWithFn key).text ++ ['|'] ∈ keyTexts key := by
  have same : (keyWithFn key).withComma = some ((keyWithFn key).text ++ ['|']) := rfl
  rw [keyTexts, same]
  exact List.mem_cons_of_mem _ (List.mem_cons_of_mem _ List.mem_cons_self)

theorem key_names_split (split : fromKeys = before ++ key :: after) : names =
    (flagNames ++ before.map fromName) ++ fromName key :: after.map fromName := by
  rw [names, fromNames, split, List.map_append, List.map_cons, List.append_assoc]

theorem key_absent (no_flags : ∀ known ∈ flagMacros, .name known.found ∉ pieces)
    (earlier : ∀ other ∈ before, .name (fromName other) ∉ pieces) :
    ∀ other ∈ flagNames ++ before.map fromName, .name other ∉ pieces := by
  intro other member
  rcases List.mem_append.1 member with flag | own
  · obtain ⟨known, inside, rfl⟩ := List.mem_map.1 flag
    exact no_flags known inside
  · obtain ⟨first, inside, rfl⟩ := List.mem_map.1 own
    exact earlier first inside

/-- What replaces the name of a key by letters for the key. -/
structure ReplacesKey (name : List Char)
    (swap : List (Piece Char) → List (Piece Char) → Prop) : Prop extends Replaces swap where
  old : ∀ old new, swap old new → ∃ rest, old = .name name :: letters rest
  new : ∀ old new, swap old new → ∃ text, new = letters text ∧ ['K', 'e'] <+: text

theorem replacesKey_name {text : List Char} (known : key ∈ fromKeys)
    (member : text ∈ keyTexts key) :
    ReplacesKey (fromName key) (SwapsName (fromName key) (letters text)) where
  toReplaces := replaces_name _ (keyTexts_replacement known member)
  old := by
    rintro old new ⟨rfl, _⟩
    exact ⟨[], rfl⟩
  new := by
    rintro old new ⟨_, rfl⟩
    exact ⟨text, rfl, (keyTexts_heads key known text member).1⟩

theorem replacesKey_next {text : List Char} (known : key ∈ fromKeys)
    (member : text ∈ keyTexts key) :
    ReplacesKey (fromName key) (SwapsNext (fromName key) ',' (letters text)) where
  toReplaces := replaces_next _ (keyTexts_replacement known member)
  old := by
    rintro old new ⟨rfl, _⟩
    exact ⟨[','], rfl⟩
  new := by
    rintro old new ⟨_, rfl⟩
    exact ⟨text, rfl, (keyTexts_heads key known text member).1⟩

section

variable {name : List Char} (own : name ∈ fromNames)
  {swap : List (Piece Char) → List (Piece Char) → Prop} (replaces : ReplacesKey name swap)
  {pieces' : List (Piece Char)} (rewrites : Rewrites swap pieces pieces')

include own canonical replaces rewrites

omit canonical rewrites in
theorem key_untouched {other : List Char} (differs : other ≠ name)
    {old new : List (Piece Char)} (swapped : swap old new) :
    .name other ∉ old ∧ .name other ∉ new ∧
      ∀ rest, ¬ FlagFirst (render (old ++ rest)) ∧ ¬ FlagFirst (render (new ++ rest)) := by
  obtain ⟨old_text, rfl⟩ := replaces.old old new swapped
  obtain ⟨text, rfl, begins⟩ := replaces.new _ new swapped
  refine ⟨?_, name_not_mem_letters text other, ?_⟩
  · intro used
    rcases List.mem_cons.1 used with same | inside
    · exact differs (Piece.name.inj same)
    · exact name_not_mem_letters old_text other inside
  · intro rest
    constructor
    · intro flags
      rw [List.cons_append, render] at flags
      exact not_flagNames own ((flagFirst_name (List.mem_append_right _ own)).1 flags)
    · rw [render_append, render_letters]
      exact not_flagFirst_key (begins.trans (List.prefix_append _ _))

/-- The other names have flags behind them afterwards if they had before. -/
theorem key_flagged_iff {other : List Char} (differs : other ≠ name) :
    Flagged other pieces' ↔ Flagged other pieces := by
  have untouched := @key_untouched name own swap replaces other differs
  constructor
  · apply flagged_back replaces.toReplaces rewrites canonical
    · exact fun old new swapped => (untouched swapped).2.1
    · intro old new rest rest' swapped flags
      exact absurd flags ((untouched swapped).2.2 rest').2
  · apply flagged_forth replaces.toReplaces rewrites canonical
    · exact fun old new swapped => (untouched swapped).1
    · intro old new rest rest' swapped flags
      exact absurd flags ((untouched swapped).2.2 rest).1

theorem key_mixed_iff {other : List Char} (differs : other ≠ name) :
    Mixed other pieces' ↔ Mixed other pieces := by
  have untouched := @key_untouched name own swap replaces other differs
  apply and_congr (key_flagged_iff canonical own replaces rewrites differs)
  constructor
  · apply bare_back replaces.toReplaces rewrites canonical
    exact fun old new swapped => (untouched swapped).2.1
  · apply bare_forth replaces.toReplaces rewrites canonical
    exact fun old new swapped => (untouched swapped).1

/-- So they are connected afterwards if they were before. -/
theorem key_joined_iff (no_flags : ∀ flag ∈ flagNames, .name flag ∉ pieces)
    (no_flags' : ∀ flag ∈ flagNames, .name flag ∉ pieces') {choice choice' : Choice}
    {other : List Char} (differs : other ≠ name) :
    Joined choice pieces other ↔ Joined choice' pieces' other := by
  have canonical' := replaced_canonical replaces.toReplaces rewrites canonical
  rw [joined_iff_flagged canonical no_flags, joined_iff_flagged canonical' no_flags',
    key_flagged_iff canonical own replaces rewrites differs]

theorem key_uniform_iff (not_mixed : ¬ Mixed name pieces) (gone : .name name ∉ pieces') :
    Uniform (render pieces') ↔ Uniform (render pieces) := by
  rw [uniform_iff canonical,
    uniform_iff (replaced_canonical replaces.toReplaces rewrites canonical)]
  apply forall₂_congr
  intro other _
  by_cases same : other = name
  · rw [same]
    have never : ¬ Mixed name pieces' := by
      rintro ⟨⟨rest, suffix, _⟩, _⟩
      exact gone (mem_iff_suffix.2 ⟨rest, suffix⟩)
    exact iff_of_true never not_mixed
  · rw [key_mixed_iff canonical own replaces rewrites same]

end

section

include split no_flags earlier

theorem key_occurring {pieces' : List (Piece Char)} (members : ∀ other ∈ names,
      .name other ∈ pieces' ↔ other ≠ fromName key ∧ .name other ∈ pieces) :
    occurringNames pieces' =
      (after.map fromName).filter fun other => .name other ∈ pieces := by
  have nothing : occurringNames [] = [] := by
    rw [occurringNames, List.filter_eq_nil_iff]
    simp
  have replaced := @occurring_replaced _ _ _ (key_names_split split) pieces
    (key_absent no_flags earlier) [] pieces' (by simp) (by simpa using members)
  rwa [nothing, List.nil_append] at replaced

end

theorem replaceName_members (text : List Char) (other : List Char) :
    .name other ∈ replaceName (fromName key) (letters text) pieces ↔
      other ≠ fromName key ∧ .name other ∈ pieces := by
  rw [mem_replaceName]
  exact or_iff_left fun both => name_not_mem_letters text other both.1

include no_flags in
theorem flags_absent {pieces' : List (Piece Char)}
    (members : ∀ other ∈ names, .name other ∈ pieces' → .name other ∈ pieces) :
    ∀ flag ∈ flagNames, .name flag ∉ pieces' := by
  intro flag member here
  obtain ⟨known, macro_member, rfl⟩ := List.mem_map.1 member
  exact no_flags known macro_member (members _ (List.mem_append_left _ member) here)

include canonical no_flags in
/-- The choice for a key goes in front of the choice for what is left, unless the key takes a comma
along. -/
theorem key_merge {alternative : Alternative} {choice : Choice} {out : List Char}
    (known : key ∈ fromKeys) (possible : alternative.text ∈ keyTexts key)
    (bare : alternative.withComma ≠ none →
      ¬ Joined ((fromName key, alternative) :: choice) pieces (fromName key))
    (subst : Subst choice
      (Joined choice (replaceName (fromName key) (letters alternative.text) pieces))
      (replaceName (fromName key) (letters alternative.text) pieces) out) :
    Subst ((fromName key, alternative) :: choice)
      (Joined ((fromName key, alternative) :: choice) pieces) pieces out := by
  have starts := (keyTexts_replacement known possible).starts
  apply Subst.of_replaceName List.lookup_cons_self _ (starts.comma.self (by simp))
    (substitute_letters choice alternative.text).symm bare _ subst
  · intro other used
    exact absurd used (name_not_mem_letters _ _)
  · intro other differs _
    constructor
    · rw [List.lookup_cons, beq_false_of_ne differs]
    · apply key_joined_iff canonical (List.mem_map_of_mem known) (replacesKey_name known possible)
        (replaceName_rewrites _ _ _) _ _ differs
      · exact flags_absent no_flags fun _ _ here => here
      · exact flags_absent no_flags fun other _ here =>
          ((replaceName_members alternative.text other).1 here).2

include split canonical no_flags earlier here

theorem expanded_key {fn : List (Piece Char)} (canonical_fn : Canonical names fn)
    (preprocessed : preprocess (render pieces) = some
      [render (replaceName (fromName key) (letters (plainKey key).text) pieces), render fn])
    (members : ∀ other ∈ names,
      .name other ∈ fn ↔ other ≠ fromName key ∧ .name other ∈ pieces)
    (uniform_fn : Uniform (render fn) ↔ Uniform (render pieces))
    (merges : ∀ choice out, Subst choice (Joined choice fn) fn out →
      Subst ((fromName key, keyWithFn key) :: choice)
        (Joined ((fromName key, keyWithFn key) :: choice) pieces) pieces out)
    (not_mixed : ¬ Mixed (fromName key) pieces)
    (later : ∀ texts, preprocess (render pieces) = some texts →
      ∀ pieces', Canonical names pieces' → render pieces' ∈ texts → Expanded pieces') :
    Expanded pieces := by
  have known : key ∈ fromKeys := by rw [split]; simp
  have own : fromName key ∈ fromNames := List.mem_map_of_mem known
  have plain_text : (plainKey key).text ∈ keyTexts key := List.mem_cons_self
  have replaces := replacesKey_name known plain_text
  have rewrites := replaceName_rewrites (fromName key) (letters (plainKey key).text) pieces
  have plain_members : ∀ other ∈ names,
      .name other ∈ replaceName (fromName key) (letters (plainKey key).text) pieces ↔
        other ≠ fromName key ∧ .name other ∈ pieces :=
    fun other _ => replaceName_members (plainKey key).text other
  have gone : .name (fromName key) ∉
      replaceName (fromName key) (letters (plainKey key).text) pieces :=
    fun used => ((replaceName_members (plainKey key).text _).1 used).1 rfl
  have uniform_plain := key_uniform_iff canonical own replaces rewrites not_mixed gone
  have canonical_plain := replaced_canonical replaces.toReplaces rewrites canonical
  apply expanded_of_parts _ _ _ _ _ _ later
  · exact [⟨replaceName (fromName key) (letters (plainKey key).text) pieces,
      ((fromName key, plainKey key) :: ·)⟩, ⟨fn, ((fromName key, keyWithFn key) :: ·)⟩]
  · exact preprocessed
  · rw [occurring_first (key_names_split split) (key_absent no_flags earlier) here, choices,
      key_alternatives key known]
    simp only [List.flatMap_cons, List.flatMap_nil, Part.found,
      key_occurring split no_flags earlier plain_members,
      key_occurring split no_flags earlier members]
  · simp only [List.forall_mem_cons, List.not_mem_nil, false_implies, implies_true, and_true]
    exact ⟨fun choice _ out subst =>
        key_merge canonical no_flags known plain_text (fun fn => absurd rfl fn) subst,
      fun choice _ out subst => merges choice out subst⟩
  · intro uniform
    simp only [List.forall_mem_cons, List.not_mem_nil, false_implies, implies_true, and_true]
    exact ⟨uniform_plain.2 uniform, uniform_fn.2 uniform⟩
  · intro other
    exact ⟨_, List.mem_cons_self, fun uniform => other (uniform_plain.1 uniform)⟩
  · simp only [List.forall_mem_cons, List.not_mem_nil, false_implies, implies_true, and_true]
    exact ⟨canonical_plain, canonical_fn⟩

omit split earlier here in
/-- Without names for flags, the flags that are looked for are all that can be behind it. -/
theorem flagged_iff (known : key ∈ fromKeys) :
    Text.contains (flaggedMacro key).found (render pieces) = true ↔
      Flagged (fromName key) pieces := by
  have word : (flaggedMacro key).found = fromName key ++ (',' :: "ModifierFlag::".toList) := rfl
  rw [word, contains_behind (key_known known) canonical]
  constructor
  · rintro ⟨rest, suffix, after, whole⟩
    exact ⟨rest, suffix, "ModifierFlag::".toList ++ after, whole.symm, .inl ⟨after, rfl⟩⟩
  · rintro ⟨rest, suffix, behind⟩
    refine ⟨rest, suffix, ?_⟩
    have inside : Canonical names (.name (fromName key) :: rest) := by
      obtain ⟨first, rfl⟩ := suffix
      exact canonical.suffix
    obtain ⟨tail, rfl⟩ := comma_first inside.2 behind.comma
    rw [flagBehind_comma] at behind
    rw [render, List.cons_prefix_cons]
    refine ⟨rfl, ?_⟩
    rcases behind with flags | ⟨flag, member, flags⟩
    · exact flags
    · exfalso
      obtain ⟨known_flag, macro_member, rfl⟩ := List.mem_map.1 member
      obtain ⟨others, rfl⟩ := inside.2.2.first names_apart (List.mem_append_left _ member) flags
      apply no_flags known_flag macro_member
      apply suffix.subset
      simp

/-- Where no flags are behind it, the name is replaced wherever it stands. -/
theorem expanded_bare
    (bare : Text.contains (flaggedMacro key).found (render pieces) ≠ true)
    (not_mixed : ¬ Mixed (fromName key) pieces)
    (later : ∀ texts, preprocess (render pieces) = some texts →
      ∀ pieces', Canonical names pieces' → render pieces' ∈ texts → Expanded pieces') :
    Expanded pieces := by
  have known : key ∈ fromKeys := by rw [split]; simp
  have own : fromName key ∈ fromNames := List.mem_map_of_mem known
  have fn_text : (keyWithFn key).text ∈ keyTexts key := by simp [keyTexts]
  have replaces := replacesKey_name known fn_text
  have rewrites := replaceName_rewrites (fromName key) (letters (keyWithFn key).text) pieces
  have gone : .name (fromName key) ∉
      replaceName (fromName key) (letters (keyWithFn key).text) pieces :=
    fun used => ((replaceName_members (keyWithFn key).text _).1 used).1 rfl
  have no_flag_names := flags_absent no_flags fun _ _ here => here
  apply expanded_key split canonical no_flags earlier here
    (replaced_canonical replaces.toReplaces rewrites canonical)
    (preprocess_bare canonical split no_flags earlier here bare) _
    (key_uniform_iff canonical own replaces rewrites not_mixed gone) _ not_mixed later
  · exact fun other _ => replaceName_members (keyWithFn key).text other
  · intro choice out subst
    apply key_merge canonical no_flags known fn_text _ subst
    intro _ joined
    rw [joined_iff_flagged canonical no_flag_names] at joined
    exact bare ((flagged_iff canonical no_flags known).2 joined)

/-- Where flags are behind it, and a comma everywhere, the comma is replaced with the name. -/
theorem expanded_flagged
    (flagged : Text.contains (flaggedMacro key).found (render pieces) = true)
    (not_mixed : ¬ Mixed (fromName key) pieces)
    (later : ∀ texts, preprocess (render pieces) = some texts →
      ∀ pieces', Canonical names pieces' → render pieces' ∈ texts → Expanded pieces') :
    Expanded pieces := by
  have known : key ∈ fromKeys := by rw [split]; simp
  have own : fromName key ∈ fromNames := List.mem_map_of_mem known
  have fn_text := comma_text_mem key
  have replaces := replacesKey_next known fn_text
  have rewrites :=
    replaceNext_rewrites (fromName key) ',' (letters ((keyWithFn key).text ++ ['|'])) pieces
  have behind := (flagged_iff canonical no_flags known).1 flagged
  have commas : ∀ rest, .name (fromName key) :: rest <:+ pieces →
      ∃ rest', rest = .letter ',' :: rest' := by
    intro rest suffix
    have inside : Canonical names (.name (fromName key) :: rest) := by
      obtain ⟨first, rfl⟩ := suffix
      exact canonical.suffix
    apply comma_first inside.2
    by_contra bare
    exact not_mixed ⟨behind, rest, suffix, bare⟩
  have members : ∀ other ∈ names, .name other ∈
      replaceNext (fromName key) ',' (letters ((keyWithFn key).text ++ ['|'])) pieces ↔
        other ≠ fromName key ∧ .name other ∈ pieces := by
    intro other _
    by_cases same : other = fromName key
    · rw [same, mem_replaceNext_self (name_not_mem_letters _ _)]
      constructor
      · rintro ⟨rest, suffix, no_letter⟩
        obtain ⟨rest', comma⟩ := commas rest suffix
        exact absurd comma (no_letter rest')
      · exact fun both => absurd rfl both.1
    · rw [mem_replaceNext_other same (name_not_mem_letters _ _), and_iff_right same]
  have gone := fun used => ((members _ (key_known known)).1 used).1 rfl
  apply expanded_key split canonical no_flags earlier here
    (replaced_canonical replaces.toReplaces rewrites canonical)
    (preprocess_flagged canonical split no_flags earlier here flagged) members
    (key_uniform_iff canonical own replaces rewrites not_mixed gone) _ not_mixed later
  intro choice out subst
  have starts := (keyTexts_replacement known fn_text).starts
  have no_flag_names := flags_absent no_flags fun _ _ here => here
  apply Subst.of_replaceNext List.lookup_cons_self _ (starts.comma.self (by simp)) _ _ _ commas
    subst
  · exact fun other used => absurd used (name_not_mem_letters _ _)
  · rw [substitute_letters]
    rfl
  · rw [joined_iff_flagged canonical no_flag_names]
    exact behind
  · intro other differs _
    constructor
    · rw [List.lookup_cons, beq_false_of_ne differs]
    · apply key_joined_iff canonical own replaces rewrites no_flag_names _ differs
      exact flags_absent no_flags fun other known used => ((members other known).1 used).2

/-- Where the name is mixed, what is left of it is replaced once more. -/
theorem expanded_mixed (mixed : Mixed (fromName key) pieces)
    (later : ∀ texts, preprocess (render pieces) = some texts →
      ∀ pieces', Canonical names pieces' → render pieces' ∈ texts → Expanded pieces') :
    Expanded pieces := by
  have known : key ∈ fromKeys := by rw [split]; simp
  have own : fromName key ∈ fromNames := List.mem_map_of_mem known
  have flagged := (flagged_iff canonical no_flags known).2 mixed.1
  have preprocessed := preprocess_flagged canonical split no_flags earlier here flagged
  have not_uniform : ¬ Uniform (render pieces) := by
    rw [uniform_iff canonical]
    exact fun uniform => uniform _ own mixed
  have plain_text : (plainKey key).text ∈ keyTexts key := List.mem_cons_self
  have fn_text := comma_text_mem key
  have plain := later _ preprocessed _ (replaced_canonical
    (replacesKey_name known plain_text).toReplaces (replaceName_rewrites _ _ _) canonical)
    List.mem_cons_self
  have next := later _ preprocessed _ (replaced_canonical
    (replacesKey_next known fn_text).toReplaces (replaceNext_rewrites _ _ _ _) canonical)
    (List.mem_cons_of_mem _ List.mem_cons_self)
  have next_occurring : occurringNames (replaceNext (fromName key) ','
      (letters ((keyWithFn key).text ++ ['|'])) pieces) = occurringNames pieces := by
    apply List.filter_congr
    intro other _
    rw [decide_eq_decide]
    by_cases same : other = fromName key
    · rw [same, mem_replaceNext_self (name_not_mem_letters _ _)]
      obtain ⟨_, rest, suffix, bare⟩ := mixed
      refine iff_of_true ⟨rest, suffix, ?_⟩ here
      rintro rest' rfl
      exact bare ⟨render rest', rfl⟩
    · exact mem_replaceNext_other same (name_not_mem_letters _ _)
  have plain_enough := plain.enough
  have next_enough := next.enough
  rw [key_occurring split no_flags earlier
    fun other _ => replaceName_members (plainKey key).text other] at plain_enough
  have first := occurring_first (key_names_split split) (key_absent no_flags earlier) here
  have positive : 0 < (choices ((after.map fromName).filter fun other =>
      .name other ∈ pieces)).length := by
    apply choices_pos
    intro name member
    rw [key_names_split split]
    exact List.mem_append_right _ (List.mem_cons_of_mem _ (List.mem_of_mem_filter member))
  rw [next_occurring, first, choices, key_alternatives key known] at next_enough
  have texts := expand_some preprocessed
  rw [List.flatMap_cons, List.flatMap_cons, List.flatMap_nil, List.append_nil] at texts
  have more : (choices (occurringNames pieces)).length < (expand (render pieces)).length := by
    rw [first, choices, key_alternatives key known, texts]
    simp only [List.flatMap_cons, List.flatMap_nil, List.append_nil, List.length_append,
      List.length_map] at next_enough ⊢
    omega
  exact ⟨fun uniform => absurd uniform not_uniform, Nat.le_of_lt more, fun _ => more⟩

end keys

/-- The first member with a property, and what stands around it. -/
theorem exists_first {Item : Type} {found : Item → Prop} {items : List Item}
    (some_found : ∃ item ∈ items, found item) : ∃ before item after,
      items = before ++ item :: after ∧ found item ∧ ∀ other ∈ before, ¬ found other := by
  induction items with
  | nil =>
      obtain ⟨item, member, _⟩ := some_found
      cases member
  | cons item items ih =>
      by_cases here : found item
      · exact ⟨[], item, items, rfl, here, by simp⟩
      · have rest : ∃ item ∈ items, found item := by
          obtain ⟨other, member, own⟩ := some_found
          rcases List.mem_cons.1 member with rfl | later
          · exact absurd own here
          · exact ⟨other, later, own⟩
        obtain ⟨before, first, after, rfl, own, earlier⟩ := ih rest
        exact ⟨item :: before, first, after, rfl, own,
          List.forall_mem_cons.2 ⟨here, earlier⟩⟩

/-- One round, by the first of the names that occur. -/
theorem expanded_step {pieces : List (Piece Char)} (canonical : Canonical names pieces)
    (later : ∀ texts, preprocess (render pieces) = some texts →
      ∀ pieces', Canonical names pieces' → render pieces' ∈ texts → Expanded pieces') :
    Expanded pieces := by
  by_cases flag : ∃ known ∈ flagMacros, .name known.found ∈ pieces
  · obtain ⟨before, known, after, split, here, earlier⟩ := exists_first flag
    exact expanded_flag split canonical earlier here later
  · have no_flags : ∀ known ∈ flagMacros, .name known.found ∉ pieces :=
      fun known member here => flag ⟨known, member, here⟩
    by_cases named : ∃ key ∈ fromKeys, .name (fromName key) ∈ pieces
    · obtain ⟨before, key, after, split, here, earlier⟩ := exists_first named
      by_cases mixed : Mixed (fromName key) pieces
      · exact expanded_mixed split canonical no_flags earlier here mixed later
      · by_cases flagged : Text.contains (flaggedMacro key).found (render pieces) = true
        · exact expanded_flagged split canonical no_flags earlier here flagged mixed later
        · exact expanded_bare split canonical no_flags earlier here flagged mixed later
    · apply expanded_plain canonical
      intro name known
      rcases List.mem_append.1 known with flag_name | key_name
      · obtain ⟨first, member, rfl⟩ := List.mem_map.1 flag_name
        exact no_flags first member
      · obtain ⟨key, member, rfl⟩ := List.mem_map.1 key_name
        exact fun here => named ⟨key, member, here⟩

theorem expanded (autogen : List Char) (pieces : List (Piece Char))
    (rendered : render pieces = autogen) (canonical : Canonical names pieces) :
    Expanded pieces := by
  induction autogen using expand.induct generalizing pieces with
  | case1 autogen texts preprocessed ih =>
      apply expanded_step canonical
      intro others same pieces' canonical' member
      rw [rendered, preprocessed] at same
      obtain rfl := Option.some.inj same
      exact ih ⟨_, member⟩ pieces' rfl canonical'
  | case2 autogen absent =>
      apply expanded_step canonical
      intro others same
      rw [rendered, absent] at same
      cases same

theorem consistent_iff (autogen : List Char) :
    Consistent autogen (expand autogen) ↔ Uniform autogen := by
  obtain ⟨pieces, rfl, canonical⟩ := exists_canonical names_apart.nonempty autogen
  have whole := expanded (render pieces) pieces rfl canonical
  constructor
  · rintro ⟨chosen, perm, related⟩
    by_contra other
    have more := whole.more other
    have same := perm.length_eq
    rw [related.length_eq, occurring_render canonical] at same
    omega
  · intro uniform
    obtain ⟨chosen, perm, related⟩ := whole.consistent uniform
    refine ⟨chosen, by rwa [occurring_render canonical], related.imp ?_⟩
    rintro choice text ⟨replaced, subst, same⟩
    exact ⟨replaced, subst.substituted (fun name known => connected_iff canonical known) canonical,
      same⟩

end Autogen

namespace Loader

open Autogen Throwing

/-- The entries of an autogen are those of the choices for its names if and only if no FROMKEYCODE
name has flags behind it in one place and no comma in another. -/
theorem expansion_consistent_iff (rawAutogen : String) (autogen : List Char) :
    handleAutogen rawAutogen autogen = each (addAutogen rawAutogen) (expand autogen) ∧
      (Consistent autogen (expand autogen) ↔ Uniform autogen) :=
  ⟨handleAutogen_eq rawAutogen autogen, consistent_iff autogen⟩

def mixedAutogen : String := "__KeyToKey__FROMKEYCODE_HOME,ModifierFlag::SHIFT_L,FROMKEYCODE_HOME"

def mixedTexts : List (List Char) :=
  ["__KeyToKey__KeyCode::HOME,ModifierFlag::SHIFT_L,KeyCode::HOME".toList,
    "__KeyToKey__KeyCode::CURSOR_LEFT,ModifierFlag::FN|ModifierFlag::SHIFT_L,KeyCode::HOME".toList,
    ("__KeyToKey__KeyCode::CURSOR_LEFT,ModifierFlag::FN|ModifierFlag::SHIFT_L," ++
      "KeyCode::CURSOR_LEFT,ModifierFlag::FN").toList]

def mixedLoader : Loader where
  symbolMap := ⟨[("KeyCode::HOME", 115), ("KeyCode::CURSOR_LEFT", 123),
    ("ModifierFlag::SHIFT_L", 131072), ("ModifierFlag::FN", 8388608)]⟩
  symbolMapCacheOptionSeparator := 5
  symbolMapCacheOptionUseSeparator := 4
  vector := {
    data := [0, 1, 7]
    isConfigIndexAdded := []
    maxConfigIndex := 0
    freezed := false
    startIndex := 1
    ended := false }

/-- The name has two alternatives, but three entries are added; the second one has the key with
FN in one of its places only. -/
theorem expansion_not_consistent :
    expand mixedAutogen.toList = mixedTexts ∧
      ¬ Consistent mixedAutogen.toList (expand mixedAutogen.toList) ∧
      (handleAutogen mixedAutogen mixedAutogen.toList mixedLoader).returned.map
        (fun loader => loader.vector.data) = some
          [0, 39, 7, 9, 21, 1, 115, 2, 131072, 3, 1, 1, 115,
            11, 21, 1, 123, 2, 8388608, 2, 131072, 3, 1, 1, 115,
            15, 21, 1, 123, 2, 8388608, 2, 131072, 3, 1, 1, 123, 2, 8388608, 3, 1] := by
  have first : preprocess mixedAutogen.toList = some [mixedTexts[0],
      "__KeyToKey__KeyCode::CURSOR_LEFT,ModifierFlag::FN|ModifierFlag::SHIFT_L,FROMKEYCODE_HOME".toList] := by
    decide +kernel
  have again : preprocess
      "__KeyToKey__KeyCode::CURSOR_LEFT,ModifierFlag::FN|ModifierFlag::SHIFT_L,FROMKEYCODE_HOME".toList =
        some [mixedTexts[1], mixedTexts[2]] := by
    decide +kernel
  have last : ∀ text ∈ mixedTexts, preprocess text = none := by decide +kernel
  have texts : expand mixedAutogen.toList = mixedTexts := by
    rw [expand_some first, List.flatMap_cons, List.flatMap_cons, expand_some again,
      List.flatMap_cons, List.flatMap_cons, expand_none (last _ (by simp)),
      expand_none (last _ (by simp)), expand_none (last _ (by simp))]
    rfl
  have two : (choices (occurring mixedAutogen.toList)).length = 2 := by decide +kernel
  refine ⟨texts, ?_, ?_⟩
  · rintro ⟨chosen, perm, related⟩
    have same := related.length_eq
    rw [texts, perm.length_eq, two] at same
    cases same
  · rw [handleAutogen_eq, texts]
    decide +kernel

end Loader

end Karabiner
