import Karabiner.FilterScope

set_option autoImplicit false

/- What the loader does between the start of an entry and its end. -/
namespace Karabiner

namespace Loader

open Throwing FilterScope

/-- A macro has each of its replacements handled in turn. -/
theorem handleAutogen_eq (rawAutogen : String) (autogen : List Char) :
    handleAutogen rawAutogen autogen = each (addAutogen rawAutogen) (Autogen.expand autogen) := by
  fun_induction Autogen.expand autogen with
  | case1 autogen texts preprocessed ih =>
      rw [handleAutogen]
      split
      · rename_i others same
        obtain rfl := Option.some.inj (preprocessed.symm.trans same)
        rw [each_flatMap]
        exact each_congr fun text _ => ih text
      · rename_i absent
        rw [preprocessed] at absent
        cases absent
  | case2 autogen absent =>
      rw [handleAutogen]
      split
      · rename_i texts preprocessed
        rw [absent] at preprocessed
        cases preprocessed
      · rw [each, each, bind_pure]

/-- What the entry under construction leaves alone. -/
structure Outside where
  completed : List (UInt32 × List UInt32)
  identifierMap : List (UInt32 × String)

/-- The loader is in the middle of an entry. -/
structure Building (outside : Outside) (index : UInt32)
    (body filterVector : List UInt32) (symbols : Symbols) (loader : Loader) : Prop where
  holds : loader.vector.Holds
    { completed := outside.completed, current := some (index, body) }
  identifierMap : loader.identifierMap = outside.identifierMap
  filterVector : loader.filterVector = filterVector
  symbols : loader.toSymbols = symbols

/-- The loader is between two entries, or has given one up. -/
structure Between (outside : Outside) (symbols : Symbols)
    (loader : Loader) : Prop where
  holds : ∃ current, loader.vector.Holds { completed := outside.completed, current }
  identifierMap : loader.identifierMap = outside.identifierMap
  symbols : ∃ announced, loader.toSymbols = Symbols.announce^[announced] symbols

section

variable {outside : Outside} {index : UInt32}
  {body filterVector : List UInt32} {symbols : Symbols}

theorem Building.between {start : Symbols} {announced : Nat} {loader : Loader}
    (building : Building outside index body filterVector symbols loader)
    (reached : symbols = Symbols.announce^[announced] start) :
    Between outside start loader :=
  ⟨⟨_, building.holds⟩, building.identifierMap, announced, building.symbols.trans reached⟩

variable {thrown : Loader → Prop}

theorem pushBack_ensures (v : UInt32) :
    (pushBack v).Ensures (Building outside index body filterVector symbols)
      (fun _ => Building outside index (body ++ [v]) filterVector symbols) thrown := by
  apply ensures_modify
  intro loader building
  exact ⟨InitializeVector.pushBack_holds building.holds building.holds.ended v,
    building.identifierMap, building.filterVector, building.symbols⟩

theorem pushString_ensures (string : List UInt8) :
    (perform (.pushString string)).Ensures (Building outside index body filterVector symbols)
      (fun _ => Building outside index (body ++ InitializeVector.stringWords string)
        filterVector symbols) thrown := by
  apply ensures_modify
  intro loader building
  exact ⟨InitializeVector.pushString_holds building.holds building.holds.ended string,
    building.identifierMap, building.filterVector, building.symbols⟩

theorem each_pushBack_ensures (words : List UInt32) :
    (each pushBack words).Ensures (Building outside index body filterVector symbols)
      (fun _ => Building outside index (body ++ words) filterVector symbols) thrown := by
  induction words generalizing body with
  | nil =>
      rw [List.append_nil]
      exact ensures_pure _ fun _ building => building
  | cons word words ih =>
      apply ensures_bind _ (pushBack_ensures word)
      intro _
      rw [List.append_cons body word words]
      exact ih

theorem get_ensures (name : String)
    (gaveUp : ∀ loader, Building outside index body filterVector symbols loader →
      thrown loader) :
    (get name).Ensures (Building outside index body filterVector symbols)
      (fun v loader => symbols.symbolMap.get name = .ok v ∧
        Building outside index body filterVector symbols loader) thrown := by
  intro loader building
  rw [get, building.symbols]
  cases found : symbols.symbolMap.get name with
  | ok v => exact ⟨rfl, building⟩
  | error what => exact gaveUp loader building

/-- A record is pushed with its count, and the filters behind it. -/
theorem addToInitializeVector_ensures (params : List Char) (type : Nat)
    (gaveUp : ∀ loader, Building outside index body filterVector symbols loader →
      thrown loader) :
    (addToInitializeVector params type).Ensures
      (Building outside index body filterVector symbols)
      (fun _ loader => ∃ values, symbols.values params = .ok values ∧
        Building outside index (body ++ (Framing.frame UInt32.ofNat
          (.ofNat type :: values) ++ filterVector)) filterVector symbols loader) thrown := by
  apply ensures_bind _ ensures_read
  intro loader
  apply ensures_of_state
  rintro _ ⟨building, rfl⟩
  apply ensures_bind fun values state => symbols.values params = .ok values ∧ state = loader
  · apply ensures_ofExcept
    · intro values found state same
      rw [building.symbols] at found
      exact ⟨found, same⟩
    · rintro what found _ rfl
      exact gaveUp _ building
  · intro values
    apply ensures_of_state
    rintro middle ⟨found, rfl⟩
    rw [building.filterVector]
    have pushed : (do
        pushBack (.ofNat (values.length + 1))
        pushBack (.ofNat type)
        each pushBack values
        each pushBack filterVector : Load PUnit).Ensures
          (Building outside index body filterVector symbols)
          (fun _ => Building outside index (body ++ [.ofNat (values.length + 1)] ++
            [.ofNat type] ++ values ++ filterVector) filterVector symbols) thrown := by
      apply ensures_bind _ (pushBack_ensures _)
      intro _
      apply ensures_bind _ (pushBack_ensures _)
      intro _
      apply ensures_bind _ (each_pushBack_ensures _)
      intro _
      exact each_pushBack_ensures _
    apply pushed.mono ?_ ?_ fun _ gone => gone
    · rintro _ rfl
      exact building
    · intro _ state reached
      refine ⟨values, found, ?_⟩
      simpa [Framing.frame] using reached

theorem addStatusMessage_ensures (params : List Char) :
    (addStatusMessage params).Ensures (Building outside index body filterVector symbols)
      (fun _ => Building outside index (body ++ Framing.frame UInt32.ofNat
        (.ofNat Bridge.STATUSMESSAGE :: InitializeVector.stringWords
          (Text.utf8 (Text.trim params)))) filterVector symbols) thrown := by
  unfold addStatusMessage
  generalize Text.utf8 (Text.trim params) = string
  have pushed : (do
      pushBack (.ofNat ((InitializeVector.stringWords string).length + 1))
      pushBack (.ofNat Bridge.STATUSMESSAGE)
      perform (.pushString string) : Load PUnit).Ensures
        (Building outside index body filterVector symbols)
        (fun _ => Building outside index (body ++
          [.ofNat ((InitializeVector.stringWords string).length + 1)] ++
          [.ofNat Bridge.STATUSMESSAGE] ++ InitializeVector.stringWords string)
          filterVector symbols) thrown := by
    apply ensures_bind _ (pushBack_ensures _)
    intro _
    apply ensures_bind _ (pushBack_ensures _)
    intro _
    exact pushString_ensures _
  apply pushed.mono (fun _ start => start) ?_ fun _ gone => gone
  intro _ state reached
  simpa [Framing.frame] using reached

/-- The new name is known before the parameters are looked up. -/
theorem addSimultaneousKeyPresses_ensures (params : List Char)
    (gaveUp : ∀ loader, Building outside index body filterVector symbols.announce loader →
      thrown loader) :
    (addSimultaneousKeyPresses params).Ensures
      (Building outside index body filterVector symbols)
      (fun _ loader => ∃ values, symbols.announce.values ("KeyCode::".toList ++
          symbols.newkeycode.toList ++ [','] ++ params) = .ok values ∧
        Building outside index (body ++ (Framing.frame UInt32.ofNat
          (.ofNat Bridge.REMAPTYPE_SIMULTANEOUSKEYPRESSES :: values) ++ filterVector))
          filterVector symbols.announce loader) thrown := by
  apply ensures_bind _ ensures_read
  intro loader
  apply ensures_of_state
  rintro _ ⟨building, rfl⟩
  have same : loader.newkeycode = symbols.newkeycode := by rw [← building.symbols]
  rw [← same]
  generalize "KeyCode::".toList ++ loader.newkeycode.toList ++ [','] ++ params = params
  have pushed := addToInitializeVector_ensures params Bridge.REMAPTYPE_SIMULTANEOUSKEYPRESSES
    gaveUp
  apply ensures_bind (fun _ state => ∃ pair,
    loader.symbolMap.add "KeyCode" loader.newkeycode = some pair ∧
      state = { loader with symbolMap := pair.2 })
  · intro state at_start
    subst at_start
    rw [addSymbol]
    cases added : state.symbolMap.add "KeyCode" state.newkeycode with
    | none => trivial
    | some pair => exact ⟨pair, rfl, rfl⟩
  · intro _
    apply ensures_bind (fun _ => Building outside index body filterVector symbols.announce)
      (ensures_modify ?_) fun _ => pushed
    rintro _ ⟨pair, added, rfl⟩
    have known : symbols.announce = { loader.toSymbols with
        symbolMap := pair.2
        simultaneousKeycodeIndex := loader.simultaneousKeycodeIndex + 1 } := by
      rw [← building.symbols, Symbols.announce, added]
    exact ⟨building.holds, building.identifierMap, building.filterVector, known.symm⟩

end

/-- The entry has been extended by the words of these autogens. -/
def Compiles (outside : Outside) (index : UInt32)
    (body filterVector : List UInt32) (symbols : Symbols) (announced : Nat) (sites : List Site)
    (loader : Loader) : Prop :=
  ∃ words, Compiled symbols announced sites words ∧
    Building outside index (body ++ words) filterVector
      (Symbols.announce^[announced + announcements sites] symbols) loader

section

variable {outside : Outside} {index : UInt32}
  {body filterVector : List UInt32} {symbols : Symbols} {announced : Nat}

theorem compiles_nil {loader : Loader} (building : Building outside index body filterVector
    (Symbols.announce^[announced] symbols) loader) :
    Compiles outside index body filterVector symbols announced [] loader := by
  refine ⟨[], .nil announced, ?_⟩
  rw [List.append_nil]
  exact building

/-- One action after another compiles the autogens of both. -/
theorem compiles_bind {first second : Load PUnit} {sites others : List Site}
    (before : first.Ensures
      (Building outside index body filterVector (Symbols.announce^[announced] symbols))
      (fun _ => Compiles outside index body filterVector symbols announced sites)
      (Between outside symbols))
    (after : ∀ words, second.Ensures
      (Building outside index (body ++ words) filterVector
        (Symbols.announce^[announced + announcements sites] symbols))
      (fun _ => Compiles outside index (body ++ words) filterVector symbols
        (announced + announcements sites) others)
      (Between outside symbols)) :
    (first >>= fun _ => second).Ensures
      (Building outside index body filterVector (Symbols.announce^[announced] symbols))
      (fun _ => Compiles outside index body filterVector symbols announced (sites ++ others))
      (Between outside symbols) := by
  apply ensures_bind _ before
  intro _ loader compiles
  obtain ⟨words, compiled, building⟩ := compiles
  apply (after words).mono (fun _ start => start) ?_ (fun _ gone => gone) loader building
  intro _ last rest
  obtain ⟨more, compiled', building'⟩ := rest
  refine ⟨words ++ more, compiled.append compiled', ?_⟩
  rw [announcements_append, ← Nat.add_assoc, ← List.append_assoc]
  exact building'

theorem not_both {autogen : List Char} (status : isShowStatusMessage autogen = true) :
    isSimultaneousKeyPresses autogen = false := by
  by_contra simultaneous
  rw [Bool.not_eq_false] at simultaneous
  have either := List.prefix_or_prefix_of_prefix (List.isPrefixOf_iff_prefix.1 status)
    (List.isPrefixOf_iff_prefix.1 simultaneous)
  revert either
  decide

theorem addAutogen_ensures (rawAutogen : String) (autogen : List Char) {path : List Scope}
    (known : encodings symbols path = .ok filterVector) :
    (addAutogen rawAutogen autogen).Ensures
      (Building outside index body filterVector (Symbols.announce^[announced] symbols))
      (fun _ => Compiles outside index body filterVector symbols announced [⟨path, autogen⟩])
      (Between outside symbols) := by
  unfold addAutogen
  by_cases status : isShowStatusMessage autogen = true
  · rw [if_pos status]
    apply (addStatusMessage_ensures _).mono (fun _ start => start) ?_ (fun _ gone => gone)
    intro _ loader building
    have silent : announcements [⟨path, autogen⟩] = 0 := by
      simp [announcements, not_both status]
    have own : (Symbols.announce^[announced] symbols).record autogen = .ok
        (.ofNat Bridge.STATUSMESSAGE :: InitializeVector.stringWords
          (Text.utf8 (Text.trim (autogen.drop "__ShowStatusMessage__".length)))) := by
      rw [Symbols.record, if_pos status]
    refine ⟨_, .single own (if_pos status), ?_⟩
    rw [silent, Nat.add_zero, List.append_nil]
    exact building
  · rw [if_neg status]
    by_cases simultaneous : isSimultaneousKeyPresses autogen = true
    · rw [if_pos simultaneous]
      have loud : announcements [⟨path, autogen⟩] = 1 := by
        simp [announcements, simultaneous]
      apply (addSimultaneousKeyPresses_ensures _ ?_).mono (fun _ start => start) ?_
        (fun _ gone => gone)
      · intro loader building
        exact building.between (Function.iterate_succ_apply' _ _ _).symm
      · rintro _ loader ⟨values, found, building⟩
        have own : (Symbols.announce^[announced] symbols).record autogen = .ok
            (.ofNat Bridge.REMAPTYPE_SIMULTANEOUSKEYPRESSES :: values) := by
          rw [Symbols.record, if_neg status, if_pos simultaneous, found]
          rfl
        refine ⟨_, .single own ((if_neg status).trans known), ?_⟩
        rw [loud, Function.iterate_succ_apply']
        exact building
    · rw [if_neg simultaneous]
      have silent : announcements [⟨path, autogen⟩] = 0 := by
        simp [announcements, simultaneous]
      cases found : types.find? fun type => type.1.toList.isPrefixOf autogen with
      | none =>
          apply ensures_fail
          intro loader building
          exact building.between rfl
      | some type =>
          apply (addToInitializeVector_ensures _ _ ?_).mono (fun _ start => start) ?_
            (fun _ gone => gone)
          · intro loader building
            exact building.between rfl
          · rintro _ loader ⟨values, values_eq, building⟩
            have own : (Symbols.announce^[announced] symbols).record autogen = .ok
                (.ofNat type.2 :: values) := by
              rw [Symbols.record, if_neg status, if_neg simultaneous, found]
              dsimp only
              rw [values_eq]
              rfl
            refine ⟨_, .single own ((if_neg status).trans known), ?_⟩
            rw [silent, Nat.add_zero]
            exact building

theorem each_addAutogen_ensures (rawAutogen : String) (autogens : List (List Char))
    {path : List Scope} (known : encodings symbols path = .ok filterVector) :
    (each (addAutogen rawAutogen) autogens).Ensures
      (Building outside index body filterVector (Symbols.announce^[announced] symbols))
      (fun _ => Compiles outside index body filterVector symbols announced
        (autogens.map (⟨path, ·⟩)))
      (Between outside symbols) := by
  induction autogens generalizing body announced with
  | nil => exact ensures_pure _ fun _ building => compiles_nil building
  | cons autogen autogens ih =>
      exact compiles_bind (addAutogen_ensures rawAutogen autogen known) fun _ => ih

/-- The filters of an element come behind those around it. -/
theorem traverseFilters_ensures (children : List Tree) {path : List Scope}
    (known : encodings symbols path = .ok filterVector) :
    (traverseFilters children).Ensures
      (Building outside index body filterVector (Symbols.announce^[announced] symbols))
      (fun _ loader => ∃ own,
        encodings symbols (path ++ [⟨announced, children⟩]) = .ok (filterVector ++ own) ∧
        Building outside index body (filterVector ++ own)
          (Symbols.announce^[announced] symbols) loader)
      (Between outside symbols) := by
  intro loader building
  rw [traverseFilters, building.symbols]
  cases encoded : FilterVector.traverse (Symbols.announce^[announced] symbols).symbolMap
      children with
  | error what => exact building.between rfl
  | ok own =>
      refine ⟨own, encodings_append known encoded, building.holds, building.identifierMap,
        ?_, rfl⟩
      show loader.filterVector ++ own = _
      rw [building.filterVector]

end

mutual

theorem traverseNodes_ensures (rawIdentifier : String)
    {outside : Outside} {index : UInt32} {symbols : Symbols} :
    (forest : List Tree) → ∀ ⦃body filterVector : List UInt32⦄ ⦃announced : Nat⦄
      ⦃path : List Scope⦄, encodings symbols path = .ok filterVector →
    (traverseNodes rawIdentifier forest).Ensures
      (Building outside index body filterVector (Symbols.announce^[announced] symbols))
      (fun _ => Compiles outside index body filterVector symbols announced
        (sitesOfNodes path announced forest))
      (Between outside symbols)
  | [] => by
      intro body filterVector announced path known
      rw [traverseNodes, sitesOfNodes]
      exact ensures_pure _ fun _ building => compiles_nil building
  | node :: rest => by
      intro body filterVector announced path known
      rw [traverseNodes, sitesOfNodes]
      apply compiles_bind (traverseNode_ensures rawIdentifier node known)
      intro words
      exact traverseNodes_ensures rawIdentifier rest known

theorem traverseNode_ensures (rawIdentifier : String)
    {outside : Outside} {index : UInt32} {symbols : Symbols} :
    (node : Tree) → ∀ ⦃body filterVector : List UInt32⦄ ⦃announced : Nat⦄
      ⦃path : List Scope⦄, encodings symbols path = .ok filterVector →
    (traverseNode rawIdentifier node).Ensures
      (Building outside index body filterVector (Symbols.announce^[announced] symbols))
      (fun _ => Compiles outside index body filterVector symbols announced
        (sitesOfNode path announced node))
      (Between outside symbols)
  | .node tag data children => by
      intro body filterVector announced path known
      rw [traverseNode, sitesOfNode]
      by_cases item : tag = "item"
      · rw [if_pos item, if_pos item]
        apply ensures_modify
        intro loader building
        exact compiles_nil ⟨building.holds, building.identifierMap, building.filterVector,
          building.symbols⟩
      · rw [if_neg item, if_neg item]
        by_cases other : tag ≠ "autogen"
        · rw [if_pos other, if_pos other]
          apply ensures_bind _ ensures_read
          intro before
          apply ensures_of_state
          rintro _ ⟨building, rfl⟩
          apply ensures_bind _ ((traverseFilters_ensures children known).mono ?_
            (fun _ _ after => after) fun _ gone => gone)
          · intro _
            apply ensures_of_state
            rintro middle ⟨own, inner, entered⟩
            apply ensures_bind _ ((traverseNodes_ensures rawIdentifier children inner).mono ?_
              (fun _ _ after => after) fun _ gone => gone)
            · intro _
              apply ensures_modify
              rintro loader ⟨words, compiled, left⟩
              refine ⟨words, compiled, left.holds, left.identifierMap, ?_, left.symbols⟩
              show loader.filterVector.take before.filterVector.length = filterVector
              rw [left.filterVector, building.filterVector, List.take_left]
            · rintro _ rfl
              exact entered
          · rintro _ rfl
            exact building
        · rw [if_neg other, if_neg other, handleAutogen_eq]
          exact each_addAutogen_ensures _ _ known

end

section

variable {outside : Outside} {symbols : Symbols}

/-- The entry has these keycodes. -/
def Configured (outside : Outside) (index : UInt32)
    (filterVector : List UInt32) (symbols : Symbols) (identifier : String)
    (names : List String) (loader : Loader) : Prop :=
  ∃ keycodes, (names.mapM fun name =>
      symbols.symbolMap.get ("KeyCode::" ++ name ++ identifier)) = .ok keycodes ∧
    Building outside index ([] ++ [5] ++ [.ofNat Bridge.VK_CONFIG] ++ keycodes)
      filterVector symbols loader

theorem pushVkConfig_ensures (node : Tree) (identifier : String) {index : UInt32}
    {filterVector : List UInt32} :
    (pushVkConfig node identifier).Ensures
      (Building outside index [] filterVector symbols)
      (fun _ loader => ∃ config, vkConfig symbols node identifier = .ok config ∧
        Building outside index config filterVector symbols loader)
      (Between outside symbols) := by
  have looped : (each (fun name => do
      let keycode ← get ("KeyCode::" ++ name ++ identifier)
      pushBack keycode) vkConfigNames).Ensures
        (Configured outside index filterVector symbols identifier [])
        (fun _ => Configured outside index filterVector symbols identifier vkConfigNames)
        (Between outside symbols) := by
    apply ensures_each (Configured outside index filterVector symbols identifier)
    intro done name rest _
    apply ensures_of_state
    rintro loader ⟨keycodes, found, building⟩
    have unchanged : symbols = Symbols.announce^[0] symbols := rfl
    have gaveUp : ∀ loader, Building outside index
        ([] ++ [5] ++ [.ofNat Bridge.VK_CONFIG] ++ keycodes) filterVector symbols loader →
        Between outside symbols loader := fun _ own =>
      own.between unchanged
    apply ensures_bind _ ((get_ensures ("KeyCode::" ++ name ++ identifier) gaveUp).mono ?_
      (fun _ _ after => after) fun _ gone => gone)
    · intro keycode
      apply ensures_of_state
      rintro middle ⟨looked, reached⟩
      have own : (pushBack keycode).Ensures (Building outside index
            ([] ++ [5] ++ [.ofNat Bridge.VK_CONFIG] ++ keycodes) filterVector symbols)
          (fun _ => Building outside index
            ([] ++ [5] ++ [.ofNat Bridge.VK_CONFIG] ++ keycodes ++ [keycode]) filterVector symbols)
          (Between outside symbols) := pushBack_ensures keycode
      apply own.mono ?_ ?_ fun _ gone => gone
      · rintro _ rfl
        exact reached
      · intro _ last pushed
        refine ⟨keycodes ++ [keycode], ?_, ?_⟩
        · rw [List.mapM_append, found, List.mapM_cons, looked, List.mapM_nil]
          rfl
        · rw [← List.append_assoc]
          exact pushed
    · rintro _ rfl
      exact building
  unfold pushVkConfig vkConfig
  by_cases asked : (node.getOptional "vk_config").isSome = true
  · rw [if_pos asked, if_pos asked]
    apply ensures_bind _ (pushBack_ensures _)
    intro _
    apply ensures_bind _ (pushBack_ensures _)
    intro _
    apply looped.mono ?_ ?_ fun _ gone => gone
    · intro _ building
      refine ⟨[], rfl, ?_⟩
      rw [List.append_nil]
      exact building
    · rintro _ loader ⟨keycodes, found, building⟩
      refine ⟨_, ?_, building⟩
      rw [found]
      rfl
  · rw [if_neg asked, if_neg asked]
    exact ensures_pure _ fun _ building => ⟨[], rfl, building⟩

theorem compileIdentifier_ensures (forest : List Tree) (node : Tree) (rawIdentifier : String)
    (index : UInt32) (filterVector : List UInt32) :
    (compileIdentifier forest node rawIdentifier).Ensures
      (Building outside index [] filterVector symbols)
      (fun _ loader => ∃ config words announced filters,
        vkConfig symbols node (Text.normalizeIdentifier rawIdentifier) = .ok config ∧
        Compiled symbols 0 (sites forest) words ∧
        Building outside index (config ++ words) filters
          (Symbols.announce^[announced] symbols) loader)
      (Between outside symbols) := by
  apply ensures_bind _ (pushVkConfig_ensures node _)
  intro _
  apply ensures_of_state
  rintro loader ⟨config, configured, building⟩
  have cleared : (modify fun loader => { loader with filterVector := [] } : Load PUnit).Ensures
      (· = loader) (fun _ => Building outside index config [] (Symbols.announce^[0] symbols))
      (Between outside symbols) := by
    apply ensures_modify
    rintro _ rfl
    exact ⟨building.holds, building.identifierMap, rfl, building.symbols⟩
  apply ensures_bind _ cleared
  intro _
  have empty : encodings symbols [] = .ok [] := rfl
  apply ensures_bind _ (traverseFilters_ensures forest empty)
  intro _
  apply ensures_of_state
  rintro middle ⟨own, inner, entered⟩
  have walked : (traverseNodes rawIdentifier forest).Ensures
      (Building outside index config ([] ++ own) (Symbols.announce^[0] symbols))
      (fun _ => Compiles outside index config ([] ++ own) symbols 0 (sites forest))
      (Between outside symbols) := traverseNodes_ensures _ forest inner
  apply walked.mono ?_ ?_ fun _ gone => gone
  · rintro _ rfl
    exact entered
  · rintro _ last ⟨words, compiled, left⟩
    exact ⟨config, words, _, _, configured, compiled, left⟩

/-- What identify does from the identifier map on. A start that is refused has begun no
entry. -/
theorem enter_ensures {loader : Loader} {completed : List (UInt32 × List UInt32)}
    {current : Option (UInt32 × List UInt32)} {configIndex : UInt32} {rawIdentifier : String}
    {body : String → Load PUnit} {compiled finished thrown : Loader → Prop}
    (holds : loader.vector.Holds { completed, current })
    (gaveUp : Between ⟨completed, assigned loader.identifierMap configIndex rawIdentifier⟩
      loader.toSymbols { loader with
        identifierMap := assigned loader.identifierMap configIndex rawIdentifier } →
      thrown { loader with
        identifierMap := assigned loader.identifierMap configIndex rawIdentifier })
    (compiles : (body rawIdentifier).Ensures
      (Building ⟨completed, assigned loader.identifierMap configIndex rawIdentifier⟩ configIndex
        [] loader.filterVector loader.toSymbols) (fun _ => compiled) thrown)
    (finishes : ∀ state, compiled state →
      finished { state with vector := state.vector.finishEntry }) :
    (do
      assignIdentifier configIndex rawIdentifier
      start configIndex rawIdentifier
      body rawIdentifier
      perform .finishEntry : Load PUnit).Ensures (· = loader) (fun _ => finished) thrown := by
  have assigns : (assignIdentifier configIndex rawIdentifier).Ensures (· = loader)
      (fun _ => (· = { loader with
        identifierMap := assigned loader.identifierMap configIndex rawIdentifier })) thrown := by
    apply ensures_modify
    rintro _ rfl
    rfl
  have starts : (start configIndex rawIdentifier).Ensures (· = { loader with
        identifierMap := assigned loader.identifierMap configIndex rawIdentifier })
      (fun _ => Building ⟨completed, assigned loader.identifierMap configIndex rawIdentifier⟩
        configIndex [] loader.filterVector loader.toSymbols) thrown := by
    rintro _ rfl
    rw [start]
    by_cases used : configIndex ∈ loader.vector.isConfigIndexAdded
    · have refused : loader.vector.start configIndex rawIdentifier = .error _ := if_pos used
      rw [refused]
      exact gaveUp ⟨⟨current, holds⟩, rfl, 0, rfl⟩
    · obtain ⟨started, start_eq, held⟩ :=
        InitializeVector.start_holds holds used rawIdentifier
      rw [start_eq]
      exact ⟨held, rfl, rfl, rfl⟩
  apply ensures_bind _ assigns
  intro _
  apply ensures_bind _ starts
  intro _
  apply ensures_bind _ compiles
  intro _
  exact ensures_modify finishes

end

end Loader

end Karabiner
