import Karabiner.CompileIdentifier

set_option autoImplicit false

/- The walk of the loader over a tree, and the filters in the entries that it completes. -/
namespace Karabiner

namespace Loader

open Throwing FilterScope

/-- What the loader has added to the completed entries comes from these identifiers. -/
structure Grown (completed : List (UInt32 × List UInt32)) (symbols : Symbols)
    (identifiers : List (List Tree × Tree)) (loader : Loader) : Prop where
  holds : ∃ added current, loader.vector.Holds { completed := completed ++ added, current } ∧
    ∀ entry ∈ added, ∃ announced, ∃ identifier ∈ identifiers,
      CompiledEntry (Symbols.announce^[announced] symbols) identifier.1 identifier.2 entry
  symbols : ∃ announced, loader.toSymbols = Symbols.announce^[announced] symbols

section

variable {completed : List (UInt32 × List UInt32)} {symbols : Symbols}
  {known : List (List Tree × Tree)}

theorem Between.grown {start : Symbols} {announced : Nat}
    {added : List (UInt32 × List UInt32)} {identifierMap : List (UInt32 × String)}
    {loader : Loader} (between : Between ⟨completed ++ added, identifierMap⟩ start loader)
    (reached : start = Symbols.announce^[announced] symbols)
    (compiled : ∀ entry ∈ added, ∃ announced, ∃ identifier ∈ known,
      CompiledEntry (Symbols.announce^[announced] symbols) identifier.1 identifier.2 entry) :
    Grown completed symbols known loader := by
  obtain ⟨current, holds⟩ := between.holds
  obtain ⟨more, own⟩ := between.symbols
  refine ⟨⟨added, current, holds, compiled⟩, more + announced, ?_⟩
  rw [own, reached, Function.iterate_add_apply]

theorem SameButErrors.grown {before after : Loader} (same : SameButErrors before after)
    (grown : Grown completed symbols known before) : Grown completed symbols known after := by
  rw [same]
  exact ⟨grown.holds, grown.symbols⟩

theorem setError_ensures (message : String) {thrown : Loader → Prop} :
    (setError message).Ensures (Grown completed symbols known)
      (fun _ => Grown completed symbols known) thrown := by
  apply ensures_modify
  intro loader grown
  exact ⟨grown.holds, grown.symbols⟩

theorem visitIdentifier_ensures {forest : List Tree} {node : Tree} (parentTagName : String)
    (inside : (forest, node) ∈ known) :
    (visitIdentifier forest parentTagName node).Ensures (Grown completed symbols known)
      (fun _ => Grown completed symbols known) (Grown completed symbols known) := by
  apply ensures_of_state
  intro loader grown
  cases reached : reaches loader.symbolMap parentTagName node with
  | none =>
      apply (identify_unreached reached _).mono (fun _ same => same)
      · intro _ _ same
        exact same.grown grown
      · intro _ same
        exact same.grown grown
  | some identifier =>
      obtain ⟨configIndex, rawIdentifier⟩ := identifier
      obtain ⟨raw_eq, indexed⟩ := reaches_some reached
      obtain ⟨added, current, holds, compiled⟩ := grown.holds
      obtain ⟨announced, symbols_eq⟩ := grown.symbols
      rintro before rfl
      rw [visitIdentifier, identify_reached reached]
      have gaveUp : ∀ state, Between ⟨completed ++ added,
          assigned before.identifierMap configIndex rawIdentifier⟩ before.toSymbols state →
          Grown completed symbols known state := fun state between =>
        between.grown symbols_eq compiled
      have compiles := (compileIdentifier_ensures forest node rawIdentifier configIndex
        before.filterVector).mono (fun _ start => start) (fun _ _ after => after) gaveUp
      apply enter_ensures holds (gaveUp _) compiles ?_ before rfl
      rintro last ⟨config, words, more, filters, configured, own, built⟩
      have finished := InitializeVector.finishEntry_holds built.holds built.holds.ended
      refine ⟨⟨added ++ [(configIndex, config ++ words)], none, ?_, ?_⟩,
        more + announced, ?_⟩
      · rw [← List.append_assoc]
        exact finished
      · intro entry member
        rcases List.mem_append.1 member with old | new
        · exact compiled entry old
        · rw [List.mem_singleton.1 new]
          refine ⟨announced, _, inside, ?_, config, words, rfl, ?_, ?_⟩
          · rw [← symbols_eq, ← raw_eq]
            exact indexed
          · rw [← symbols_eq, ← raw_eq]
            exact configured
          · rw [← symbols_eq]
            exact own
      · rw [Function.iterate_add_apply, ← symbols_eq]
        exact built.symbols

end

mutual

theorem traverseRest_ensures (forest : List Tree) (parentTagName : String)
    {completed : List (UInt32 × List UInt32)} {symbols : Symbols}
    {known : List (List Tree × Tree)}
    {thrown : Loader → Prop} : (rest : List Tree) → identifiersOfNodes forest rest ⊆ known →
    (traverseRest forest parentTagName rest).Ensures (Grown completed symbols known)
      (fun _ => Grown completed symbols known) thrown
  | [], _ => ensures_pure _ fun _ grown => grown
  | node :: rest, inside => by
      rw [identifiersOfNodes, List.append_subset] at inside
      rw [traverseRest]
      apply ensures_bind _ (ensures_attempt (visit_ensures forest parentTagName node inside.1)
        fun what => setError_ensures what)
      intro _
      exact traverseRest_ensures forest parentTagName rest inside.2

theorem visit_ensures (forest : List Tree) (parentTagName : String)
    {completed : List (UInt32 × List UInt32)} {symbols : Symbols}
    {known : List (List Tree × Tree)} : (node : Tree) →
    identifiersOfNode forest node ⊆ known →
    (visit forest parentTagName node).Ensures (Grown completed symbols known)
      (fun _ => Grown completed symbols known) (Grown completed symbols known)
  | .node tag data children, inside => by
      rw [identifiersOfNode] at inside
      rw [visit]
      by_cases other : tag ≠ "identifier"
      · rw [if_pos other] at inside ⊢
        by_cases empty : children.isEmpty = true
        · rw [if_pos empty]
          exact ensures_pure _ fun _ grown => grown
        · rw [if_neg empty]
          exact traverseRest_ensures children tag children inside
      · rw [if_neg other] at inside ⊢
        exact visitIdentifier_ensures parentTagName (inside List.mem_cons_self)

end

/-- Each entry that is completed has, behind each of its autogens in turn, the filters of the
elements around it. -/
theorem traverse_scopes_filters (parentTagName : String) (forest : List Tree)
    {before after : Loader} {entries : Entries} (holds : before.vector.Holds entries)
    (returned : traverse parentTagName forest before = .returns ⟨⟩ after) :
    ∃ added current,
      after.vector.Holds { completed := entries.completed ++ added, current } ∧
      ∀ entry ∈ added, ∃ announced, ∃ identifier ∈ identifiers forest,
        CompiledEntry (Symbols.announce^[announced] before.toSymbols) identifier.1 identifier.2
          entry := by
  have start : Grown entries.completed before.toSymbols (identifiers forest) before := by
    refine ⟨⟨[], entries.current, ?_, by simp⟩, 0, rfl⟩
    rw [List.append_nil]
    exact holds
  have walked : (traverseRest forest parentTagName forest).Ensures
      (Grown entries.completed before.toSymbols (identifiers forest))
      (fun _ => Grown entries.completed before.toSymbols (identifiers forest))
      (fun _ => True) :=
    traverseRest_ensures forest parentTagName forest (List.Subset.refl _)
  exact (walked.returns start returned).holds

def filteredChildren : List Tree :=
  [.node "identifier" "a" [], .node "autogen" "__ShowStatusMessage__" [],
    .node "only" "X" [], .node "autogen" "__KeyToKey__ KeyCode::A, KeyCode::B" []]

/-- An item with a filter and two autogens. -/
def filteredItem : List Tree := [.node "item" "" filteredChildren]

def filteredItemLoader : Loader where
  symbolMap := ⟨[("ConfigIndex::a", 0), ("ApplicationType::X", 7), ("KeyCode::A", 3),
    ("KeyCode::B", 4), ("Option::SEPARATOR", 1), ("Option::USE_SEPARATOR", 2)]⟩
  symbolMapCacheOptionSeparator := 1
  symbolMapCacheOptionUseSeparator := 2
  vector := .cleared

/-- The filters around a status message are not behind it. -/
theorem showStatusMessage_unfiltered :
    ∃ after, ∃ site ∈ sites filteredChildren, ∃ record filters,
      traverse "" filteredItem filteredItemLoader = .returns ⟨⟩ after ∧
      filteredItemLoader.record site.autogen = .ok record ∧
      encodings filteredItemLoader.toSymbols site.path = .ok filters ∧
      ¬ Framing.frame UInt32.ofNat record ++ filters <:+: after.vector.data := by
  have walked : (traverse "" filteredItem filteredItemLoader).returned.map (·.vector.data) =
      some [1, 13, 0, 2, 80, 0, 5, 21, 1, 3, 1, 4, 2, 44, 7] := by decide +kernel
  have first : ((sites filteredChildren).head?.map fun site =>
      ((filteredItemLoader.record site.autogen).toOption,
        (encodings filteredItemLoader.toSymbols site.path).toOption)) =
      some (some [80, 0], some [2, 44, 7]) := by decide +kernel
  obtain ⟨after, returned, data⟩ := Option.map_eq_some_iff.1 walked
  obtain ⟨site, head, words⟩ := Option.map_eq_some_iff.1 first
  obtain ⟨record, filters⟩ := Prod.mk.inj words
  refine ⟨after, site, List.mem_of_head? head, [80, 0], [2, 44, 7],
    returns_of_returned returned, ok_of_toOption record, ok_of_toOption filters, ?_⟩
  rw [data]
  decide

theorem traverse_scopes_filters_filteredItem :
    ∃ after added current,
      traverse "" filteredItem filteredItemLoader = .returns ⟨⟩ after ∧
      after.vector.Holds { completed := [] ++ added, current } ∧
      ∀ entry ∈ added, ∃ announced, ∃ identifier ∈ identifiers filteredItem,
        CompiledEntry (Symbols.announce^[announced] filteredItemLoader.toSymbols) identifier.1
          identifier.2 entry := by
  have some_after : ((traverse "" filteredItem filteredItemLoader).returned).isSome = true := by
    decide +kernel
  obtain ⟨after, returned⟩ := Option.isSome_iff_exists.1 some_after
  have returns := returns_of_returned returned
  obtain ⟨added, current, compiled⟩ := traverse_scopes_filters "" filteredItem
    InitializeVector.cleared_holds returns
  exact ⟨after, added, current, returns, compiled⟩

end Loader

end Karabiner
