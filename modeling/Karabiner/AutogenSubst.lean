import Karabiner.AutogenPieces

set_option autoImplicit false

/- The text of a choice, and how it comes from the text of one after a replacement. -/
namespace Karabiner

namespace Autogen

open MarkedText

/-- Every name among the pieces is replaced by the alternative that is chosen for it. -/
inductive Subst (choice : Choice) (connected : List Char → Prop) :
    List (Piece Char) → List Char → Prop
  | nil : Subst choice connected [] []
  | letter {c : Char} {pieces : List (Piece Char)} {out : List Char} :
      Subst choice connected pieces out →
      Subst choice connected (.letter c :: pieces) (c :: out)
  | name {name out : List Char} {pieces : List (Piece Char)} {alternative : Alternative} :
      choice.lookup name = some alternative →
      (alternative.withComma ≠ none → connected name →
        ∀ rest, pieces ≠ .letter ',' :: rest) →
      Subst choice connected pieces out →
      Subst choice connected (.name name :: pieces) (alternative.text ++ out)
  | comma {name out text : List Char} {pieces : List (Piece Char)} {alternative : Alternative} :
      choice.lookup name = some alternative → alternative.withComma = some text →
      connected name → Subst choice connected pieces out →
      Subst choice connected (.name name :: .letter ',' :: pieces) (text ++ out)

namespace Subst

theorem substituted {choice : Choice} {connected connected' : List Char → Prop}
    (same : ∀ name ∈ names, connected' name ↔ connected name) {pieces : List (Piece Char)}
    {out : List Char} (subst : Subst choice connected pieces out)
    (canonical : Canonical names pieces) :
    Substituted choice connected' (render pieces) out := by
  induction subst with
  | nil => exact .nil
  | letter _ ih => exact .letter canonical.1 (ih canonical.2)
  | name own bare _ ih =>
      refine .name canonical.1 own ?_ (ih canonical.2)
      intro fn connects comma
      obtain ⟨rest, first⟩ := comma_first canonical.2 comma
      exact bare fn ((same _ canonical.1).1 connects) rest first
  | comma own text connects _ ih =>
      exact .comma canonical.1 own text ((same _ canonical.1).2 connects) (ih canonical.2.2)

theorem of_letters (choice : Choice) (connected : List Char → Prop) (text : List Char) :
    Subst choice connected (letters text) text := by
  induction text with
  | nil => exact .nil
  | cons c text ih => exact .letter ih

section

variable {choice choice' : Choice} {connected connected' : List Char → Prop}
  {name : List Char} {new : List (Piece Char)} {alternative : Alternative}

/-- Pieces whose names have plain alternatives are replaced for themselves. -/
theorem split (plain : ∀ other, .name other ∈ new →
      ∃ own, choice'.lookup other = some own ∧ own.withComma = none)
    {pieces : List (Piece Char)} {out : List Char}
    (subst : Subst choice' connected' (new ++ pieces) out) :
    ∃ rest, out = substitute choice' new ++ rest ∧ Subst choice' connected' pieces rest := by
  induction new generalizing out with
  | nil => exact ⟨out, rfl, subst⟩
  | cons piece new ih =>
      have later := fun other member => plain other (List.mem_cons_of_mem piece member)
      cases piece with
      | letter c =>
          cases subst with
          | letter subst =>
              obtain ⟨rest, rfl, tail⟩ := ih later subst
              exact ⟨rest, rfl, tail⟩
      | name other =>
          obtain ⟨own, found, bare⟩ := plain other List.mem_cons_self
          generalize joined : new ++ pieces = behind at subst
          rw [List.cons_append, joined] at subst
          cases subst with
          | name looked _ subst =>
              obtain rfl := Option.some.inj (found.symm.trans looked)
              rw [← joined] at subst
              obtain ⟨rest, rfl, tail⟩ := ih later subst
              refine ⟨rest, ?_, tail⟩
              rw [substitute, found, List.append_assoc]
              rfl
          | comma looked text _ subst =>
              obtain rfl := Option.some.inj (found.symm.trans looked)
              rw [bare] at text
              cases text

/-- A name stays where it is, with the letter behind it. -/
theorem of_kept {other : List Char} {pieces behind : List (Piece Char)}
    (looked : choice.lookup other = choice'.lookup other)
    (same : connected other ↔ connected' other)
    (comma : (∃ rest, behind = .letter ',' :: rest) ↔ ∃ rest, pieces = .letter ',' :: rest)
    (later : ∀ out, Subst choice' connected' behind out → Subst choice connected pieces out)
    {out : List Char} (subst : Subst choice' connected' (.name other :: behind) out) :
    Subst choice connected (.name other :: pieces) out := by
  cases subst with
  | name found bare subst =>
      refine .name (looked.trans found) ?_ (later _ subst)
      intro fn connects rest first
      obtain ⟨rest', first'⟩ := comma.2 ⟨rest, first⟩
      exact bare fn (same.1 connects) rest' first'
  | comma found text connects subst =>
      obtain ⟨rest', rfl⟩ := comma.1 ⟨_, rfl⟩
      have whole := later _ subst.letter
      cases whole with
      | letter tail => exact .comma (looked.trans found) text (same.2 connects) tail

section

variable (no_comma : ¬ Comparable [','] (render new))

include no_comma

theorem new_ne_comma {pieces rest : List (Piece Char)} :
    new ++ pieces ≠ .letter ',' :: rest := by
  intro same
  cases new with
  | nil => exact no_comma (.inr List.nil_prefix)
  | cons piece new =>
      obtain ⟨rfl, _⟩ := List.cons.inj same
      exact no_comma (.inl (List.cons_prefix_cons.2 ⟨rfl, List.nil_prefix⟩))

theorem replaceName_comma {pieces : List (Piece Char)} :
    (∃ rest, replaceName name new pieces = .letter ',' :: rest) ↔
      ∃ rest, pieces = .letter ',' :: rest := by
  constructor
  · rintro ⟨rest, replaced⟩
    cases pieces with
    | nil => cases replaced
    | cons piece pieces =>
        cases piece with
        | letter d => exact ⟨pieces, by rw [(List.cons.inj replaced).1]⟩
        | name other =>
            rw [replaceName] at replaced
            split at replaced
            · exact absurd replaced (new_ne_comma no_comma)
            · cases replaced
  · rintro ⟨rest, rfl⟩
    exact ⟨_, rfl⟩

theorem replaceNext_comma {pieces : List (Piece Char)} :
    (∃ rest, replaceNext name ',' new pieces = .letter ',' :: rest) ↔
      ∃ rest, pieces = .letter ',' :: rest := by
  constructor
  · rintro ⟨rest, replaced⟩
    fun_cases replaceNext name ',' new pieces with
    | case1 => rw [replaceNext] at replaced; cases replaced
    | case2 d pieces =>
        rw [replaceNext] at replaced
        exact ⟨pieces, by rw [(List.cons.inj replaced).1]⟩
    | case3 m => rw [replaceNext] at replaced; cases replaced
    | case4 m k pieces => rw [replaceNext] at replaced; cases replaced
    | case5 m d pieces both =>
        rw [replaceNext, if_pos both] at replaced
        exact absurd replaced (new_ne_comma no_comma)
    | case6 m d pieces other =>
        rw [replaceNext, if_neg other] at replaced
        cases replaced
  · rintro ⟨rest, rfl⟩
    rw [replaceNext]
    exact ⟨_, rfl⟩

end

variable (own : choice.lookup name = some alternative)
  (plain : ∀ other, .name other ∈ new →
    ∃ own, choice'.lookup other = some own ∧ own.withComma = none)
  (no_comma : ¬ Comparable [','] (render new))

include own plain no_comma

theorem of_replaceName (text : alternative.text = substitute choice' new)
    (bare : alternative.withComma ≠ none → ¬ connected name)
    {pieces : List (Piece Char)} (others : ∀ other, other ≠ name → .name other ∈ pieces →
      choice.lookup other = choice'.lookup other ∧ (connected other ↔ connected' other))
    {out : List Char} (subst : Subst choice' connected' (replaceName name new pieces) out) :
    Subst choice connected pieces out := by
  induction pieces generalizing out with
  | nil =>
      cases subst
      exact .nil
  | cons piece pieces ih =>
      have later := fun other differs member =>
        others other differs (List.mem_cons_of_mem piece member)
      cases piece with
      | letter c =>
          cases subst with
          | letter subst => exact .letter (ih later subst)
      | name other =>
          rw [replaceName] at subst
          by_cases same : other = name
          · rw [if_pos same] at subst
            obtain ⟨rest, rfl, tail⟩ := split plain subst
            rw [← text, same]
            exact .name own (fun fn connects => absurd connects (bare fn)) (ih later tail)
          · rw [if_neg same] at subst
            obtain ⟨looked, connects⟩ := others other same List.mem_cons_self
            exact of_kept looked connects (replaceName_comma no_comma) (fun out => ih later) subst

/-- With a comma behind each of the names, all of them are replaced. -/
theorem of_replaceNext (text : alternative.withComma = some (substitute choice' new))
    (connects : connected name)
    {pieces : List (Piece Char)} (others : ∀ other, other ≠ name → .name other ∈ pieces →
      choice.lookup other = choice'.lookup other ∧ (connected other ↔ connected' other))
    (commas : ∀ rest, .name name :: rest <:+ pieces → ∃ rest', rest = .letter ',' :: rest')
    {out : List Char} (subst : Subst choice' connected' (replaceNext name ',' new pieces) out) :
    Subst choice connected pieces out := by
  fun_induction replaceNext name ',' new pieces generalizing out with
  | case1 =>
      cases subst
      exact .nil
  | case2 d pieces ih =>
      have later := fun other differs member =>
        others other differs (List.mem_cons_of_mem _ member)
      cases subst with
      | letter subst =>
          exact .letter (ih later (fun rest own => commas rest (own.trans (List.suffix_cons _ _)))
            subst)
  | case3 m =>
      have differs : m ≠ name := by
        rintro rfl
        obtain ⟨rest', empty⟩ := commas [] (List.suffix_refl _)
        cases empty
      obtain ⟨looked, same⟩ := others m differs List.mem_cons_self
      apply of_kept looked same Iff.rfl _ subst
      intro out nothing
      cases nothing
      exact .nil
  | case4 m k pieces ih =>
      have differs : m ≠ name := by
        rintro rfl
        obtain ⟨rest', same⟩ := commas _ (List.suffix_refl _)
        cases same
      have later := fun other differs member =>
        others other differs (List.mem_cons_of_mem _ member)
      obtain ⟨looked, same⟩ := others m differs List.mem_cons_self
      exact of_kept looked same (replaceNext_comma no_comma)
        (fun out => ih later fun rest own => commas rest (own.trans (List.suffix_cons _ _))) subst
  | case5 m d pieces both ih =>
      obtain ⟨rfl, rfl⟩ := both
      have later := fun other differs member =>
        others other differs (List.mem_cons_of_mem _ (List.mem_cons_of_mem _ member))
      have inner := (List.suffix_cons (.letter ',') pieces).trans
        (List.suffix_cons (.name m) (.letter ',' :: pieces))
      obtain ⟨rest, rfl, tail⟩ := split plain subst
      exact .comma own text connects
        (ih later (fun rest own => commas rest (own.trans inner)) tail)
  | case6 m d pieces other ih =>
      have differs : m ≠ name := by
        rintro rfl
        obtain ⟨rest', same⟩ := commas _ (List.suffix_refl _)
        obtain ⟨same_letter, _⟩ := List.cons.inj same
        exact other ⟨rfl, Piece.letter.inj same_letter⟩
      have later := fun other differs member =>
        others other differs (List.mem_cons_of_mem _ member)
      obtain ⟨looked, same⟩ := others m differs List.mem_cons_self
      exact of_kept looked same (replaceNext_comma no_comma)
        (fun out => ih later fun rest own => commas rest (own.trans (List.suffix_cons _ _))) subst

end

end Subst

end Autogen

end Karabiner
