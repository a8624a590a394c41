import Karabiner.AutogenChoices

set_option autoImplicit false

/- One round of the first part of handle_autogen, on the pieces of an autogen. -/
namespace Karabiner

namespace Autogen

open MarkedText

def flagMacros : List Macro := eitherLeftOrRight ++ modifierflags ++ modifierflagsAny

/-- The flags in the replacements, with the names that stand for one of two. -/
def flagParts : List (List Char) :=
  eitherLeftOrRight.flatMap (fun known => known.found :: known.replacements.map Prod.snd) ++
    ["ModifierFlag::FN".toList, "ModifierFlag::NONE".toList]

def joinParts : List (List Char) → List (Piece Char)
  | [] => []
  | [part] => partPieces part
  | part :: next :: parts => partPieces part ++ .letter '|' :: joinParts (next :: parts)

/-- The pieces of a replacement. -/
def flagPieces (text : List Char) : List (Piece Char) := joinParts (text.splitOn '|')

def substitute (choice : Choice) : List (Piece Char) → List Char
  | [] => []
  | .letter c :: pieces => c :: substitute choice pieces
  | .name name :: pieces =>
      ((choice.lookup name).map (·.text)).getD name ++ substitute choice pieces

/-- The alternatives of a name for flags are what its replacements become by the choices for
the names in them, all of which are earlier names. -/
theorem flagMacros_spec : ∀ known ∈ flagMacros,
    (alternatives known.found = known.replacements.flatMap fun replacement =>
      (choices (names.filter fun name => .name name ∈ flagPieces replacement.2)).map fun choice =>
        { text := substitute choice (flagPieces replacement.2) }) ∧
    ∀ replacement ∈ known.replacements, replacement.1 = known.found ∧ replacement.2 ≠ [] ∧
      (∀ part ∈ replacement.2.splitOn '|', part = [] ∨ part ∈ flagParts) ∧
      ∀ name ∈ names.dropWhile (· ≠ known.found),
        .name name ∉ flagPieces replacement.2 := by
  decide +kernel

theorem flagParts_heads : ∀ part ∈ flagParts,
    (∃ head ∈ nameHeads ++ textHeads, head <+: part) ∧
      (part ∉ names → ∀ head ∈ nameHeads, MarkedText.Ends part head) := by
  decide +kernel

def keyTexts (key : String × String) : List (List Char) :=
  (plainKey key).text :: (keyWithFn key).text :: (keyWithFn key).withComma.toList

theorem keyTexts_heads : ∀ key ∈ fromKeys, ∀ text ∈ keyTexts key,
    ['K', 'e'] <+: text ∧ ∀ head ∈ nameHeads, MarkedText.Ends text head := by
  decide +kernel

theorem heads_apart : ∀ head ∈ nameHeads ++ textHeads,
    MarkedText.Ends [','] head ∧ MarkedText.Ends "odifierFlag::".toList head := by
  decide +kernel

/-- What a text that comes into the place of a name begins with. -/
structure Starts (text : List Char) : Prop where
  left : ∀ name ∈ names, MarkedText.Ends name.tail text
  comma : MarkedText.Ends [','] text
  flagTail : MarkedText.Ends "odifierFlag::".toList text

theorem starts_of_head {head text : List Char} (member : head ∈ nameHeads ++ textHeads)
    (begins : head <+: text) : Starts text where
  left := fun name known =>
    ((names_heads name known).2 head (List.mem_cons_of_mem _ member)).of_head begins
  comma := (heads_apart head member).1.of_head begins
  flagTail := (heads_apart head member).2.of_head begins

theorem closed_of_heads {text : List Char}
    (ends : ∀ head ∈ nameHeads, MarkedText.Ends text head) :
    Closed names (letters text) := by
  apply closed_letters
  intro name known
  obtain ⟨head, member, begins⟩ := (names_heads name known).1
  exact ⟨head, begins, ends head member⟩

theorem partPieces_closed {part : List Char} (member : part = [] ∨ part ∈ flagParts) :
    Closed names (partPieces part) := by
  by_cases named : part ∈ names
  · rw [partPieces, if_pos named]
    exact ⟨named, trivial⟩
  · rw [partPieces, if_neg named]
    rcases member with rfl | inside
    · exact trivial
    · exact closed_of_heads ((flagParts_heads part inside).2 named)

theorem render_partPieces (part : List Char) : render (partPieces part) = part := by
  rw [partPieces]
  split
  · rw [render, render, List.append_nil]
  · exact render_letters part

theorem joinParts_closed {parts : List (List Char)}
    (all : ∀ part ∈ parts, part = [] ∨ part ∈ flagParts) :
    Closed names (joinParts parts) := by
  have bar : Closed names (letters ['|']) := closed_of_heads (by decide)
  fun_induction joinParts parts with
  | case1 => exact trivial
  | case2 part => exact partPieces_closed (all part List.mem_cons_self)
  | case3 part next parts ih =>
      have later := ih fun other member => all other (List.mem_cons_of_mem _ member)
      exact (partPieces_closed (all part List.mem_cons_self)).join (bar.join later)

theorem render_joinParts (parts : List (List Char)) :
    render (joinParts parts) = ['|'].intercalate parts := by
  fun_induction joinParts parts with
  | case1 => rfl
  | case2 part => rw [render_partPieces, List.intercalate_singleton]
  | case3 part next parts ih =>
      rw [render_append, render_partPieces, render, ih, List.intercalate_cons_cons,
        List.append_assoc, List.singleton_append]

theorem render_flagPieces (text : List Char) : render (flagPieces text) = text := by
  rw [flagPieces, render_joinParts, List.intercalate_splitOn]

/-- A text of parts between bars begins with a part or a bar. -/
theorem joined_head {parts : List (List Char)}
    (all : ∀ part ∈ parts, part = [] ∨ part ∈ flagParts)
    (long : ['|'].intercalate parts ≠ []) :
    ∃ head ∈ nameHeads ++ textHeads, head <+: ['|'].intercalate parts := by
  cases parts with
  | nil => exact absurd rfl long
  | cons part parts =>
      rcases all part List.mem_cons_self with rfl | inside
      · cases parts with
        | nil => exact absurd (List.intercalate_singleton) long
        | cons next parts =>
            refine ⟨['|'], by decide, ?_⟩
            rw [List.intercalate_cons_cons, List.nil_append]
            exact List.prefix_append _ _
      · obtain ⟨head, member, begins⟩ := (flagParts_heads part inside).1
        refine ⟨head, member, begins.trans ?_⟩
        cases parts with
        | nil => rw [List.intercalate_singleton]
        | cons next parts =>
            rw [List.intercalate_cons_cons, List.append_assoc]
            exact List.prefix_append _ _

/-- What can come into the place of a name. -/
structure Replacement (new : List (Piece Char)) : Prop where
  closed : Closed names new
  starts : Starts (render new)

theorem Replacement.fits {new : List (Piece Char)} (replacement : Replacement new) :
    Fits names new := ⟨replacement.closed, replacement.starts.left⟩

theorem flagPieces_replacement {known : Macro} (member : known ∈ flagMacros)
    {replacement : List Char × List Char} (inside : replacement ∈ known.replacements) :
    Replacement (flagPieces replacement.2) := by
  obtain ⟨_, long, all, _⟩ := (flagMacros_spec known member).2 replacement inside
  refine ⟨joinParts_closed all, ?_⟩
  have joined : ['|'].intercalate (replacement.2.splitOn '|') = replacement.2 :=
    List.intercalate_splitOn '|'
  obtain ⟨head, own, begins⟩ := joined_head all (by rwa [joined])
  rw [joined] at begins
  rw [render_flagPieces]
  exact starts_of_head own begins

theorem keyTexts_replacement {key : String × String} (member : key ∈ fromKeys)
    {text : List Char} (inside : text ∈ keyTexts key) : Replacement (letters text) := by
  obtain ⟨begins, ends⟩ := keyTexts_heads key member text inside
  refine ⟨closed_of_heads ends, ?_⟩
  rw [render_letters]
  exact starts_of_head (by decide) begins

def flaggedMacro (key : String × String) : Macro where
  found := fromName key ++ ",ModifierFlag::".toList
  replacements := [(fromName key, (plainKey key).text),
    (fromName key ++ [','], (keyWithFn key).text ++ ['|'])]

def bareMacro (key : String × String) : Macro where
  found := fromName key
  replacements := [(fromName key, (plainKey key).text), (fromName key, (keyWithFn key).text)]

theorem fromkeycode_eq :
    fromkeycode = fromKeys.flatMap fun key => [flaggedMacro key, bareMacro key] := rfl

theorem macros_eq : macros = flagMacros ++ fromkeycode := rfl

theorem flag_known {known : Macro} (member : known ∈ flagMacros) : known.found ∈ names :=
  List.mem_append_left _ (List.mem_map_of_mem member)

theorem key_known {key : String × String} (member : key ∈ fromKeys) : fromName key ∈ names :=
  List.mem_append_right _ (List.mem_map_of_mem member)

theorem preprocess_eq {autogen : List Char} {known : Macro}
    (found : macros.find? (fun known => Text.contains known.found autogen) = some known) :
    preprocess autogen = some (known.replacements.map fun (search, format) =>
      Text.replaceAll search format 0 autogen) := by
  rw [preprocess, found]

section

variable {pieces : List (Piece Char)} (canonical : Canonical names pieces)

include canonical

/-- The first name for flags is replaced by each of its replacements. -/
theorem preprocess_flag {before after : List Macro} {known : Macro}
    (split : flagMacros = before ++ known :: after)
    (earlier : ∀ other ∈ before, .name other.found ∉ pieces)
    (here : .name known.found ∈ pieces) :
    preprocess (render pieces) = some (known.replacements.map fun replacement =>
      render (replaceName known.found (flagPieces replacement.2) pieces)) := by
  have member : known ∈ flagMacros := by rw [split]; simp
  have found : macros.find? (fun known => Text.contains known.found (render pieces)) =
      some known := by
    rw [List.find?_eq_some_iff_append]
    refine ⟨(contains_name (flag_known member) canonical).2 here, before, after ++ fromkeycode,
      ?_, ?_⟩
    · rw [macros_eq, split, List.append_assoc]
      rfl
    · intro other inside
      have other_known : other.found ∈ names := flag_known (by rw [split]; simp [inside])
      rw [Bool.not_eq_true', Bool.eq_false_iff]
      exact fun contained => earlier other inside
        ((contains_name other_known canonical).1 contained)
  rw [preprocess_eq found]
  apply congrArg some
  apply List.map_congr_left
  intro replacement inside
  have same := ((flagMacros_spec known member).2 replacement inside).1
  have replaced := replaceAll_name (flag_known member) canonical (flagPieces replacement.2)
  rw [render_flagPieces] at replaced
  dsimp only
  rw [same, replaced]

/-- Among the macros for keys, the first one that is found is for the first key. -/
theorem find_key {before after : List (String × String)} {key : String × String}
    (split : fromKeys = before ++ key :: after)
    (no_flags : ∀ known ∈ flagMacros, .name known.found ∉ pieces)
    (earlier : ∀ other ∈ before, .name (fromName other) ∉ pieces)
    (here : .name (fromName key) ∈ pieces) :
    macros.find? (fun known => Text.contains known.found (render pieces)) =
      some (if Text.contains (flaggedMacro key).found (render pieces) then flaggedMacro key
        else bareMacro key) := by
  have member : key ∈ fromKeys := by rw [split]; simp
  have no_flag : flagMacros.find? (fun known => Text.contains known.found (render pieces)) =
      none := by
    rw [List.find?_eq_none]
    intro known inside contained
    exact no_flags known inside ((contains_name (flag_known inside) canonical).1 contained)
  have no_key : (before.flatMap fun key => [flaggedMacro key, bareMacro key]).find?
      (fun known => Text.contains known.found (render pieces)) = none := by
    rw [List.find?_eq_none]
    intro known inside contained
    obtain ⟨other, other_inside, own⟩ := List.mem_flatMap.1 inside
    have other_known : fromName other ∈ names := key_known (by rw [split]; simp [other_inside])
    apply earlier other other_inside
    rw [← contains_name other_known canonical]
    rcases List.mem_cons.1 own with rfl | own
    · exact Text.contains_of_prefix (List.prefix_append _ _) contained
    · rw [List.mem_singleton.1 own] at contained
      exact contained
  have bare : Text.contains (bareMacro key).found (render pieces) = true :=
    (contains_name (key_known member) canonical).2 here
  rw [macros_eq, List.find?_append, no_flag, Option.none_or, fromkeycode_eq, split,
    List.flatMap_append, List.find?_append, no_key, Option.none_or, List.flatMap_cons,
    List.cons_append, List.find?_cons]
  cases Text.contains (flaggedMacro key).found (render pieces) with
  | true => rfl
  | false =>
      rw [List.cons_append, List.find?_cons, bare]
      rfl

section

variable {before after : List (String × String)} {key : String × String}
  (split : fromKeys = before ++ key :: after)
  (no_flags : ∀ known ∈ flagMacros, .name known.found ∉ pieces)
  (earlier : ∀ other ∈ before, .name (fromName other) ∉ pieces)
  (here : .name (fromName key) ∈ pieces)

include split no_flags earlier here

/-- With modifier flags somewhere behind the key, only what has a comma behind it is replaced by
the key with FN. -/
theorem preprocess_flagged
    (flagged : Text.contains (flaggedMacro key).found (render pieces) = true) :
    preprocess (render pieces) = some
      [render (replaceName (fromName key) (letters (plainKey key).text) pieces),
        render (replaceNext (fromName key) ',' (letters ((keyWithFn key).text ++ ['|']))
          pieces)] := by
  have found := find_key canonical split no_flags earlier here
  have known : fromName key ∈ names := key_known (by rw [split]; simp)
  have plain := replaceAll_name known canonical (letters (plainKey key).text)
  have with_fn := replaceAll_next known canonical (letters ((keyWithFn key).text ++ ['|']))
  rw [render_letters] at plain with_fn
  rw [if_pos flagged] at found
  rw [preprocess_eq found, ← plain, ← with_fn]
  rfl

theorem preprocess_bare (bare : Text.contains (flaggedMacro key).found (render pieces) ≠ true) :
    preprocess (render pieces) = some
      [render (replaceName (fromName key) (letters (plainKey key).text) pieces),
        render (replaceName (fromName key) (letters (keyWithFn key).text) pieces)] := by
  have found := find_key canonical split no_flags earlier here
  have known : fromName key ∈ names := key_known (by rw [split]; simp)
  have plain := replaceAll_name known canonical (letters (plainKey key).text)
  have with_fn := replaceAll_name known canonical (letters (keyWithFn key).text)
  rw [render_letters] at plain with_fn
  rw [if_neg bare] at found
  rw [preprocess_eq found, ← plain, ← with_fn]
  rfl

end

/-- Where no name is left, no macro is found. -/
theorem find_none (no_names : ∀ name ∈ names, .name name ∉ pieces) :
    macros.find? (fun known => Text.contains known.found (render pieces)) = none := by
  have absent : ∀ name ∈ names, ¬ Text.contains name (render pieces) = true :=
    fun name known contained => no_names name known ((contains_name known canonical).1 contained)
  rw [List.find?_eq_none]
  intro known inside
  rw [macros_eq, List.mem_append] at inside
  rcases inside with flag | key
  · exact absent known.found (flag_known flag)
  · rw [fromkeycode_eq] at key
    obtain ⟨key, key_member, own⟩ := List.mem_flatMap.1 key
    rcases List.mem_cons.1 own with rfl | own
    · intro contained
      exact absent _ (key_known key_member)
        (Text.contains_of_prefix (List.prefix_append _ _) contained)
    · rw [List.mem_singleton.1 own]
      exact absent _ (key_known key_member)

end

theorem expand_some {autogen : List Char} {texts : List (List Char)}
    (preprocessed : preprocess autogen = some texts) : expand autogen = texts.flatMap expand := by
  rw [expand]
  split
  · rename_i others same
    obtain rfl := Option.some.inj (preprocessed.symm.trans same)
    rw [List.flatMap_subtype (g := expand) (by intro x h; rfl), List.unattach_attach]
  · rename_i absent
    rw [preprocessed] at absent
    cases absent

theorem expand_none {autogen : List Char} (preprocessed : preprocess autogen = none) :
    expand autogen = [autogen] := by
  rw [expand]
  split
  · rename_i texts same
    rw [preprocessed] at same
    cases same
  · rfl

theorem find_none_letters {text : List Char} (canonical : Canonical names (letters text)) :
    macros.find? (fun known => Text.contains known.found text) = none := by
  have absent := find_none canonical fun name _ => name_not_mem_letters text name
  rwa [render_letters] at absent

/-- A text that begins with neither of the two, and has no names, is left as it is. -/
theorem expand_plain {text : List Char} (canonical : Canonical names (letters text))
    (repeats : ¬ "__KeyOverlaidModifierWithRepeat__".toList <+: text)
    (strips : ¬ "__StripModifierFromScrollWheel__".toList <+: text) : expand text = [text] := by
  apply expand_none
  rw [preprocess, find_none_letters canonical]
  dsimp only
  rw [if_neg (fun found => repeats (List.isPrefixOf_iff_prefix.1 found)),
    if_neg (fun found => strips (List.isPrefixOf_iff_prefix.1 found))]

theorem replaceFirst_prefix {search format rest : List Char} (nonempty : search ≠ []) :
    Text.replaceFirst search format (search ++ rest) = format ++ rest := by
  obtain ⟨c, tail, rfl⟩ := List.exists_cons_of_ne_nil nonempty
  have found : (c :: tail).isPrefixOf (c :: (tail ++ rest)) = true :=
    List.isPrefixOf_iff_prefix.2 (List.prefix_append (c :: tail) rest)
  rw [List.cons_append, Text.replaceFirst, if_pos found, ← List.cons_append, List.drop_left]

theorem expand_letters {text : List Char} (canonical : Canonical names (letters text)) :
    expand text = [compatible text] := by
  have no_macro := find_none_letters canonical
  by_cases repeats : "__KeyOverlaidModifierWithRepeat__".toList <+: text
  · have preprocessed : preprocess text = some [compatible text] := by
      have found := List.isPrefixOf_iff_prefix.2 repeats
      rw [preprocess, no_macro, compatible]
      dsimp only
      rw [if_pos found, if_pos found]
    obtain ⟨rest, rfl⟩ := repeats
    rw [letters, List.map_append] at canonical
    rw [expand_some preprocessed, List.flatMap_singleton, compatible,
      if_pos (List.isPrefixOf_iff_prefix.2 (List.prefix_append _ rest)),
      replaceFirst_prefix (by decide)]
    apply expand_plain
    · rw [letters, List.map_append]
      exact (closed_of_heads (by decide +kernel)).append canonical.suffix
    · exact fun starts => absurd (comparable_of_begins_append starts) (by decide +kernel)
    · exact fun starts => absurd (comparable_of_begins_append starts) (by decide +kernel)
  · by_cases strips : "__StripModifierFromScrollWheel__".toList <+: text
    · have not_repeats := fun found => repeats (List.isPrefixOf_iff_prefix.1 found)
      have preprocessed : preprocess text = some [compatible text] := by
        have found := List.isPrefixOf_iff_prefix.2 strips
        rw [preprocess, no_macro, compatible]
        dsimp only
        rw [if_neg not_repeats, if_neg not_repeats, if_pos found, if_pos found]
      obtain ⟨rest, rfl⟩ := strips
      rw [letters, List.map_append] at canonical
      rw [expand_some preprocessed, List.flatMap_singleton, compatible, if_neg not_repeats,
        if_pos (List.isPrefixOf_iff_prefix.2 (List.prefix_append _ rest)),
        replaceFirst_prefix (by decide), List.append_assoc]
      apply expand_plain
      · have comma : ∀ name ∈ names,
            MarkedText.Ends name.tail (render (letters ",ModifierFlag::NONE".toList)) := by
          intro name known
          rw [render_letters]
          exact ((names_heads name known).2 [','] List.mem_cons_self).of_head (by decide)
        have last : Canonical names (letters ",ModifierFlag::NONE".toList) := by
          have closed : Closed names (letters ",ModifierFlag::NONE".toList) :=
            closed_of_heads (by decide +kernel)
          rw [← List.append_nil (letters _)]
          exact closed.append trivial
        have behind := Canonical.append canonical.suffix last comma
        rw [letters, List.map_append, List.map_append]
        exact (closed_of_heads (by decide +kernel)).append behind
      · exact fun starts => absurd (comparable_of_begins_append starts) (by decide +kernel)
      · exact fun starts => absurd (comparable_of_begins_append starts) (by decide +kernel)
    · rw [expand_plain canonical repeats strips, compatible,
        if_neg (fun found => repeats (List.isPrefixOf_iff_prefix.1 found)),
        if_neg (fun found => strips (List.isPrefixOf_iff_prefix.1 found))]

end Autogen

end Karabiner
