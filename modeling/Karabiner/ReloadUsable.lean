import Karabiner.ReloadFreezes

set_option autoImplicit false

/- Which files reload can cope with. -/
namespace Karabiner

namespace SymbolMap

theorem getOptional_option {name : String} (option : name ∈ Compiler.optionNames)
    (symbolMap : SymbolMap) : symbolMap.getOptional name = symbolMap.find name := by
  have raw : rawValue name.toList = none := by
    rcases List.mem_cons.1 option with rfl | other
    · decide
    · rw [List.mem_singleton.1 other]
      decide
  unfold getOptional
  rw [raw]
  cases symbolMap.find name <;> rfl

end SymbolMap

namespace Compiler

open Throwing

/-- The assertions of get and get_config_count: the vector is frozen, and holds whole entries
only. -/
def Usable (vector : InitializeVector) : Prop :=
  vector.freezed = true ∧
    ∃ completed, vector.data = Entries.words { completed, current := none }

/-- The names that the elements of symbol_map give a value. -/
def symbolNames (trees : List Tree) : List String :=
  trees.filterMap fun tree => (symbolOf tree).map fun symbol => symbol.1 ++ "::" ++ symbol.2.1

/-- Each text of a windownamedef is a regular expression, and the options that the last loader
looks up are there. -/
structure Sound (isRegex : String → Bool) (seen : Seen) : Prop where
  regexes : ∀ tree ∈ definitions (· = "windownamedef") seen.windowName,
    ∀ regex ∈ regexes tree, isRegex regex = true
  options : ∀ name ∈ optionNames,
    name ∈ symbolNames (definitions (· = "symbol_map") seen.symbolMap)

/-- The members before the symbols are loaded. -/
structure Fresh (compiler : Compiler) : Prop where
  symbolMap : compiler.symbolMap = .cleared
  vector : compiler.vector = .cleared
  identifierMap : compiler.identifierMap = []

/-- The replacements are kept elsewhere. -/
theorem fresh_traverse (forest : List Tree) :
    (traverse (· = "replacementdef") handleReplacement forest).Ensures Fresh (fun _ => Fresh)
      fun _ => False := by
  rw [traverse_eq]
  apply ensures_each_keeps
  intro tree _ compiler fresh
  exact ⟨fresh.symbolMap, fresh.vector, fresh.identifierMap⟩

theorem fresh_appendEnvironments (home systemXmlDirectory : String) :
    (appendEnvironmentsToReplacement home systemXmlDirectory).Ensures Fresh (fun _ => Fresh)
      fun _ => False :=
  fun _ fresh => ⟨fresh.symbolMap, fresh.vector, fresh.identifierMap⟩

/-- The members while the symbols are loaded. -/
structure Named (names : List String) (compiler : Compiler) : Prop where
  vector : compiler.vector = .cleared
  identifierMap : compiler.identifierMap = []
  known : ∀ name, (compiler.symbolMap.find name).isSome = true ↔
    name = "ConfigIndex::VK__AUTOINDEX__BEGIN__" ∨ name ∈ names

theorem named_setError (names : List String) (message : String) :
    (setError message).Ensures (Named names) (fun _ => Named names) fun _ => False :=
  fun _ named => ⟨named.vector, named.identifierMap, named.known⟩

theorem named_addValue (names : List String) (type name : String) (value : UInt32) :
    (addValue type name value).Ensures (Named names)
      (fun _ => Named (names ++ [type ++ "::" ++ name])) fun _ => False := by
  apply ensures_modify
  intro compiler named
  refine ⟨named.vector, named.identifierMap, ?_⟩
  intro other
  have added := SymbolMap.find_addValue compiler.symbolMap type name value other
  rw [named.known] at added
  rw [added, List.mem_append, List.mem_singleton, or_assoc, eq_comm (b := other)]

theorem named_handleSymbolMap (names : List String) (tree : Tree) :
    (handleSymbolMap tree).Ensures (Named names)
      (fun _ => Named (names ++ symbolNames [tree])) fun _ => False := by
  have unnamed {action : Compile PUnit} (own : symbolOf tree = none)
      (keeps : action.Ensures (Named names) (fun _ => Named names) fun _ => False) :
      action.Ensures (Named names) (fun _ => Named (names ++ symbolNames [tree]))
        fun _ => False := by
    have none_added : symbolNames [tree] = [] := by
      unfold symbolNames
      rw [List.filterMap_cons, own]
      rfl
    rw [none_added, List.append_nil]
    exact keeps
  unfold handleSymbolMap
  obtain ⟨⟨values, errors⟩, known⟩ : ∃ result,
    attributes tree ["type", "name", "value"] = result := ⟨_, rfl⟩
  rw [known]
  dsimp only
  apply ensures_bind _ (ensures_each_keeps fun message _ => named_setError names message)
  intro _
  split
  · rename_i type name value
    have shape : symbolOf tree =
        (Text.toUint32 value).map fun value => (type, name, value) := by rw [symbolOf, known]
    cases number : Text.toUint32 value with
    | none =>
        rw [number] at shape
        exact unnamed shape (named_setError names _)
    | some v =>
        rw [number] at shape
        have one : symbolNames [tree] = [type ++ "::" ++ name] := by
          unfold symbolNames
          rw [List.filterMap_cons, shape]
          rfl
        rw [one]
        exact named_addValue names type name v
  · rename_i different
    have other : symbolOf tree = none := by
      rw [symbolOf, known]
      split
      · next same => exact (different _ _ _ same).elim
      · rfl
    exact unnamed other (ensures_pure _ fun _ named => named)

/-- What the loader of symbol_map leaves. -/
theorem named_traverse (forest : List Tree) :
    (traverse (· = "symbol_map") handleSymbolMap forest).Ensures Fresh
      (fun _ => Named (symbolNames (definitions (· = "symbol_map") forest)))
      fun _ => False := by
  rw [traverse_eq]
  have whole : (each handleSymbolMap (definitions (· = "symbol_map") forest)).Ensures
      (Named (symbolNames []))
      (fun _ => Named (symbolNames (definitions (· = "symbol_map") forest)))
      fun _ => False := by
    apply ensures_each fun done => Named (symbolNames done)
    intro done tree rest _
    have joined : symbolNames (done ++ [tree]) = symbolNames done ++ symbolNames [tree] :=
      List.filterMap_append
    rw [joined]
    exact named_handleSymbolMap (symbolNames done) tree
  apply whole.mono _ (fun _ _ own => own) fun _ own => own
  intro compiler fresh
  refine ⟨fresh.vector, fresh.identifierMap, ?_⟩
  intro name
  rw [fresh.symbolMap]
  unfold SymbolMap.find SymbolMap.cleared
  rw [List.lookup_cons]
  by_cases same : name = "ConfigIndex::VK__AUTOINDEX__BEGIN__"
  · rw [beq_iff_eq.2 same]
    simp [same]
  · rw [beq_false_of_ne same]
    simp [same, symbolNames]

section

variable {kind : Kind} (first : SymbolMap) (isRegex : String → Bool)

theorem calm_prepareAll (forest : List Tree) : Calm kind first (prepareAll forest) := by
  apply calm_bind (calm_prepare "" ([], []) forest)
  intro identifiers
  exact calm_each _ fun identifier => calm_addSymbol_unit (by decide) identifier

/-- The texts of a windownamedef are regular expressions. -/
def Regular (tree : Tree) : Prop := ∀ regex ∈ regexes tree, isRegex regex = true

theorem regex_ensures (regex : String) :
    (if isRegex regex then pure ⟨⟩ else fail "regex_error" : Compile PUnit).Ensures
      (fun compiler => Kept kind first compiler.loader)
      (fun _ compiler => Kept kind first compiler.loader ∧ isRegex regex = true)
      (fun compiler => Kept kind first compiler.loader ∧ ¬ isRegex regex = true) := by
  intro compiler kept
  by_cases valid : isRegex regex = true
  · rw [if_pos valid]
    exact ⟨kept, valid⟩
  · rw [if_neg valid]
    exact ⟨kept, valid⟩

/-- The loader of a windownamedef returns if its texts are regular expressions, and throws
otherwise. -/
theorem handleWindowName_ensures (tree : Tree) :
    (handleWindowName isRegex tree).Ensures (fun compiler => Kept kind first compiler.loader)
      (fun _ compiler => Kept kind first compiler.loader ∧ Regular isRegex tree)
      (fun compiler => Kept kind first compiler.loader ∧ ¬ Regular isRegex tree) := by
  unfold handleWindowName
  apply ensures_bind _
    (ensures_each_all (fun regex => isRegex regex = true) (regex_ensures first isRegex))
  intro _
  have calm : ∀ action : Compile PUnit, Calm kind first action →
      action.Ensures
        (fun compiler => Kept kind first compiler.loader ∧ Regular isRegex tree)
        (fun _ compiler => Kept kind first compiler.loader ∧ Regular isRegex tree)
        (fun compiler => Kept kind first compiler.loader ∧ ¬ Regular isRegex tree) := by
    intro action own
    have framed := Ensures.frame own (Regular isRegex tree)
    exact framed.mono (fun _ start => start) (fun _ _ last => last) fun _ gone => gone.1.elim
  apply calm
  split
  · exact calm_setError _
  · split
    · exact calm_setError _
    · exact calm_addSymbol_unit (by decide) _

theorem windowNames_ensures (forest : List Tree) :
    (traverse (· = "windownamedef") (handleWindowName isRegex) forest).Ensures
      (fun compiler => Kept kind first compiler.loader)
      (fun _ compiler => Kept kind first compiler.loader ∧
        ∀ tree ∈ definitions (· = "windownamedef") forest, Regular isRegex tree)
      (fun compiler => Kept kind first compiler.loader ∧
        ¬ ∀ tree ∈ definitions (· = "windownamedef") forest, Regular isRegex tree) := by
  rw [traverse_eq]
  exact ensures_each_all (Regular isRegex) (handleWindowName_ensures first isRegex)

/-- The options that the constructor looks up are known. -/
def Known (symbolMap : SymbolMap) : Prop :=
  ∀ name ∈ optionNames, (symbolMap.find name).isSome = true

theorem get_option {name : String} (option : name ∈ optionNames) (symbolMap : SymbolMap) :
    (∃ v, symbolMap.get name = .ok v) ↔ (symbolMap.find name).isSome = true := by
  unfold SymbolMap.get
  rw [SymbolMap.getOptional_option option]
  cases symbolMap.find name <;> simp

theorem make_ok {compiler : Compiler} (known : Known compiler.symbolMap) :
    ∃ loader, Loader.make compiler.symbolMap compiler.vector compiler.identifierMap
      compiler.errorInformation = .ok loader ∧ loader.vector = compiler.vector ∧
      loader.identifierMap = compiler.identifierMap := by
  obtain ⟨separator, separator_eq⟩ :=
    (get_option (List.mem_cons_self) compiler.symbolMap).2 (known _ List.mem_cons_self)
  obtain ⟨use, use_eq⟩ := (get_option (List.mem_cons_of_mem _ List.mem_cons_self)
    compiler.symbolMap).2 (known _ (List.mem_cons_of_mem _ List.mem_cons_self))
  unfold Loader.make
  rw [separator_eq, use_eq]
  exact ⟨_, rfl, rfl, rfl⟩

theorem make_error {compiler : Compiler} (unknown : ¬ Known compiler.symbolMap) :
    ∃ what, Loader.make compiler.symbolMap compiler.vector compiler.identifierMap
      compiler.errorInformation = .error what := by
  cases made : Loader.make compiler.symbolMap compiler.vector compiler.identifierMap
      compiler.errorInformation with
  | error what => exact ⟨what, rfl⟩
  | ok loader =>
      exfalso
      apply unknown
      unfold Loader.make at made
      cases separator : compiler.symbolMap.get "Option::SEPARATOR" with
      | error what =>
          rw [separator] at made
          cases made
      | ok v =>
          rw [separator] at made
          cases use : compiler.symbolMap.get "Option::USE_SEPARATOR" with
          | error what =>
              rw [use] at made
              cases made
          | ok w =>
              intro name option
              apply (get_option option compiler.symbolMap).1
              rcases List.mem_cons.1 option with rfl | other
              · exact ⟨v, separator⟩
              · rw [List.mem_singleton.1 other]
                exact ⟨w, use⟩

/-- The last loader walks if the options are known, and throws otherwise. -/
theorem loadRemapclasses_ensures (walk : Walk) {before after : Loader → Prop}
    (walks : walk.action.Ensures before (fun _ => after) fun _ => False)
    (starts : ∀ loader : Loader, kind loader.vector loader.identifierMap → before loader) :
    (loadRemapclasses walk).Ensures (fun compiler => Kept kind first compiler.loader)
      (fun _ compiler => (∃ last, after last ∧ Shares compiler last) ∧ Known first)
      (fun compiler => Kept kind first compiler.loader ∧ ¬ Known first) := by
  rintro compiler ⟨held, options⟩
  have same : Known compiler.symbolMap ↔ Known first := by
    apply forall₂_congr
    intro name option
    rw [← options name option]
    rfl
  rw [loadRemapclasses]
  by_cases known : Known first
  · obtain ⟨loader, made, vector, identifierMap⟩ := make_ok (same.2 known)
    have start : before loader := by
      apply starts
      rw [vector, identifierMap]
      exact held
    rw [made]
    have lent := lend_ensures (walks.mono (fun _ same => same ▸ start) (fun _ _ last => last)
      fun _ gone => gone) compiler trivial
    dsimp only
    cases outcome : lend loader walk.action compiler with
    | returns _ last =>
        rw [outcome] at lent
        exact ⟨lent, known⟩
    | throws what last =>
        rw [outcome] at lent
        obtain ⟨_, gone, _⟩ := lent
        exact gone.elim
    | aborts => trivial
  · obtain ⟨what, made⟩ := make_error fun own => known (same.1 own)
    rw [made]
    exact ⟨⟨held, options⟩, known⟩

theorem freeze_ensures :
    freeze.Ensures (fun compiler => ∃ entries, compiler.vector.Holds entries)
      (fun _ compiler => Usable compiler.vector) fun _ => False := by
  rintro compiler ⟨entries, holds⟩
  have clean := InitializeVector.cleanup_holds holds
  obtain ⟨filled, filled_eq, fills⟩ := InitializeVector.foldlM_fillGap_holds clean rfl
    (List.range compiler.vector.cleanup.maxConfigIndex.toNat)
  have frozen : compiler.vector.freeze = .ok { filled with freezed := true } := by
    unfold InitializeVector.freeze
    dsimp only
    rw [filled_eq]
    rfl
  rw [freeze, frozen]
  obtain ⟨⟨gaps, completed⟩, _⟩ := Entries.foldl_fill
    { entries with current := none }
    (List.range compiler.vector.cleanup.maxConfigIndex.toNat)
  rw [completed] at fills
  exact ⟨rfl, _, fills.data⟩

theorem known_iff {names : List String} {compiler : Compiler} (named : Named names compiler) :
    Known compiler.symbolMap ↔ ∀ name ∈ optionNames, name ∈ names := by
  apply forall₂_congr
  intro name option
  rw [named.known]
  constructor
  · rintro (rfl | member)
    · exact absurd option (by decide)
    · exact member
  · exact .inr

/-- The try block comes to its end if the files are sound, and is left before it otherwise. -/
theorem loadAll_ensures (definable : Definable kind) (seen : Seen) {after : Compiler → Prop}
    (last : ∀ first,
      (loadRemapclasses seen.remapclasses >>= fun _ => freeze : Compile Unit).Ensures
      (fun compiler => Kept kind first compiler.loader)
      (fun _ compiler => after compiler ∧ Known first)
      (fun compiler => Kept kind first compiler.loader ∧ ¬ Known first)) :
    (loadAll isRegex seen).Ensures (· = {})
      (fun _ compiler => after compiler ∧ Sound isRegex seen)
      (fun compiler => kind compiler.vector compiler.identifierMap ∧
        ¬ Sound isRegex seen) := by
  let names := symbolNames (definitions (· = "symbol_map") seen.symbolMap)
  apply ensures_bind fun _ => Fresh
  · apply (fresh_traverse seen.replacement).mono _ (fun _ _ own => own) fun _ gone => gone.elim
    rintro _ rfl
    exact ⟨rfl, rfl, rfl⟩
  intro _
  apply ensures_bind fun _ => Fresh
  · exact (fresh_appendEnvironments _ _).mono (fun _ start => start) (fun _ _ own => own)
      fun _ gone => gone.elim
  intro _
  apply ensures_bind fun _ => Named names
  · exact (named_traverse seen.symbolMap).mono (fun _ start => start) (fun _ _ own => own)
      fun _ gone => gone.elim
  intro _
  apply ensures_of_state
  intro compiler named
  let first := compiler.symbolMap
  have calm : ∀ action : Compile PUnit, Calm kind first action →
      action.Ensures (fun compiler => Kept kind first compiler.loader)
        (fun _ compiler => Kept kind first compiler.loader)
        (fun compiler => kind compiler.vector compiler.identifierMap ∧
          ¬ Sound isRegex seen) := fun _ own =>
    own.mono (fun _ start => start) (fun _ _ last => last) fun _ gone => gone.elim
  apply ensures_bind fun _ compiler => Kept kind first compiler.loader
  · apply (calm _ (calm_cleanup (calm_traverse _ calm_handleModifier _)
      (calm_destroyModifierLoader definable))).mono _ (fun _ _ last => last) fun _ last => last
    rintro start rfl
    refine ⟨?_, fun _ _ => rfl⟩
    show kind start.vector start.identifierMap
    rw [named.vector, named.identifierMap]
    exact definable.cleared
  intro _
  apply ensures_bind _ (calm _ (calm_traverse _ calm_handleApp _))
  intro _
  let regular := ∀ tree ∈ definitions (· = "windownamedef") seen.windowName,
    Regular isRegex tree
  apply ensures_bind fun _ compiler => Kept kind first compiler.loader ∧ regular
  · apply (windowNames_ensures first isRegex seen.windowName).mono (fun _ start => start)
      (fun _ _ last => last)
    rintro compiler ⟨kept, irregular⟩
    exact ⟨kept.1, fun sound => irregular sound.regexes⟩
  intro _
  have framed : ∀ action : Compile PUnit, Calm kind first action →
      action.Ensures (fun compiler => Kept kind first compiler.loader ∧ regular)
        (fun _ compiler => Kept kind first compiler.loader ∧ regular)
        (fun compiler => kind compiler.vector compiler.identifierMap ∧
          ¬ Sound isRegex seen) := fun _ own =>
    (Ensures.frame own regular).mono (fun _ start => start) (fun _ _ last => last)
      fun _ gone => gone.1.elim
  apply ensures_bind _ (framed _ (calm_traverse _ calm_handleUiElementRole _))
  intro _
  apply ensures_bind _ (framed _ (calm_traverse _ calm_handleDevice _))
  intro _
  apply ensures_bind _ (framed _ (calm_cleanup (calm_traverse _ calm_handleInputsource _)
    (calm_destroyInputsourceLoader definable)))
  intro _
  apply ensures_bind _ (framed _ (calm_cleanup (calm_traverse _ calm_handleUrl _)
    (calm_destroyUrlLoader definable)))
  intro _
  apply ensures_bind _ (framed _ (calm_prepareAll first _))
  intro _
  apply ensures_bind _ (framed _ (calm_prepareAll first _))
  intro _
  have options := known_iff named
  apply ((last first).frame regular).mono fun _ start => start
  · rintro _ compiler ⟨⟨held, known⟩, regexes⟩
    exact ⟨held, regexes, options.1 known⟩
  · rintro compiler ⟨⟨kept, unknown⟩, _⟩
    exact ⟨kept.1, fun sound => unknown (options.2 sound.options)⟩

theorem idleVector_last (walk : Walk) (first : SymbolMap) :
    (loadRemapclasses walk >>= fun _ => freeze : Compile Unit).Ensures
      (fun compiler => Kept IdleVector first compiler.loader)
      (fun _ compiler => Usable compiler.vector ∧ Known first)
      (fun compiler => Kept IdleVector first compiler.loader ∧ ¬ Known first) := by
  apply ensures_bind _ (loadRemapclasses_ensures first walk walk.keeps
    fun _ ⟨completed, holds⟩ => ⟨_, holds⟩)
  intro _
  apply (freeze_ensures.frame (Known first)).mono ?_ (fun _ _ last => last)
    fun _ gone => gone.1.elim
  rintro compiler ⟨⟨last, holds, shares⟩, known⟩
  exact ⟨shares.vector ▸ holds, known⟩

/-- After reload the vector is usable exactly if each text of a windownamedef is a regular
expression and both options are defined. -/
theorem reload_usable_iff (seen : Seen) {after : Compiler}
    (returned : reload isRegex seen = .returns ⟨⟩ after) :
    Usable after.vector ↔ Sound isRegex seen := by
  have whole : (attempt (loadAll isRegex seen) setError).Ensures (· = {})
      (fun _ compiler => Usable compiler.vector ↔ Sound isRegex seen) fun _ => False := by
    apply ensures_attempt
    · apply (loadAll_ensures isRegex idleVector_definable seen
        (idleVector_last seen.remapclasses)).mono (fun _ start => start)
      · rintro _ compiler ⟨usable, sound⟩
        exact iff_of_true usable sound
      · exact fun _ last => last
    · intro what compiler
      rintro ⟨⟨completed, holds⟩, unsound⟩
      apply iff_of_false _ unsound
      rintro ⟨frozen, _⟩
      exact Bool.false_ne_true (holds.unfrozen.symm.trans frozen)
  exact whole.returns rfl returned

end

end Compiler

theorem Loader.traverse_keeps (parentTagName : String) (forest : List Tree) :
    (Loader.traverse parentTagName forest).Ensures
      (fun loader => ∃ entries, loader.vector.Holds entries)
      (fun _ loader => ∃ entries, loader.vector.Holds entries) fun _ => False := by
  apply Throwing.ensures_of_state
  rintro before ⟨entries, holds⟩
  have walked : (Loader.traverse parentTagName forest).Ensures
      (Loader.Grown entries.completed before.toSymbols (FilterScope.identifiers forest))
      (fun _ => Loader.Grown entries.completed before.toSymbols (FilterScope.identifiers forest))
      fun _ => False :=
    Loader.traverseRest_ensures forest parentTagName forest (List.Subset.refl _)
  apply walked.mono
  · rintro _ rfl
    exact ⟨⟨[], entries.current, by simpa using holds, by simp⟩, 0, rfl⟩
  · rintro _ loader grown
    obtain ⟨added, current, held, _⟩ := grown.holds
    exact ⟨_, held⟩
  · exact fun _ gone => gone

/-- The walk over files without includes. -/
def Walk.over (forests : List (List Tree)) : Walk where
  action := Throwing.each (Loader.traverse "") forests
  keeps := Throwing.ensures_each_keeps fun forest _ => Loader.traverse_keeps "" forest

namespace Compiler

def symbolElement (type name value : String) : Tree :=
  .node "symbol_map" "" [.node "<xmlattr>" ""
    [.node "type" type [], .node "name" name [], .node "value" value []]]

/-- Files with the options and one window name. -/
def windowNameSeen (regex : String) : Seen where
  symbolMap := [symbolElement "Option" "SEPARATOR" "1",
    symbolElement "Option" "USE_SEPARATOR" "2",
    symbolElement "WindowName" "VK__AUTOINDEX__BEGIN__" "1"]
  windowName := [.node "windownamedef" "" [.node "name" "X" [], .node "regex" regex []]]
  remapclasses := Walk.over [[.node "windownamedef" ""
    [.node "name" "X" [], .node "regex" regex []]]]

theorem reload_usable_iff_valid_regex :
    ∃ after, reload (· ≠ "[") (windowNameSeen "a") = .returns ⟨⟩ after ∧
      (Usable after.vector ↔ Sound (· ≠ "[") (windowNameSeen "a")) := by
  have some_state : (reload (· ≠ "[") (windowNameSeen "a")).returned.isSome = true := by
    decide +kernel
  obtain ⟨after, state_eq⟩ := Option.isSome_iff_exists.1 some_state
  have returned := Throwing.returns_of_returned state_eq
  exact ⟨after, returned, reload_usable_iff (· ≠ "[") (windowNameSeen "a") returned⟩

/-- A text that is no regular expression leaves the vector as the loaders before it have
written it. -/
theorem invalid_regex_unfrozen :
    ¬ ∀ (isRegex : String → Bool) (seen : Seen) (after : Compiler),
      reload isRegex seen = .returns ⟨⟩ after → Usable after.vector := by
  intro always
  have unfrozen : (reload (· ≠ "[") (windowNameSeen "[")).returned.map (·.vector.freezed) =
      some false := by
    decide +kernel
  obtain ⟨after, state_eq, open_eq⟩ := Option.map_eq_some_iff.1 unfrozen
  have usable := always _ _ after (Throwing.returns_of_returned state_eq)
  rw [usable.1] at open_eq
  cases open_eq

end Compiler

end Karabiner
