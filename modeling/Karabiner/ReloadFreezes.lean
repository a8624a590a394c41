import Karabiner.Reload
import Karabiner.TraverseScope

set_option autoImplicit false

/- When reload leaves a frozen vector. -/
namespace Karabiner

namespace SymbolMap

theorem lookup_snoc (entries : List (String × UInt32)) (name : String) (value : UInt32)
    (other : String) : (entries ++ [(name, value)]).lookup other =
      (entries.lookup other).or (if other = name then some value else none) := by
  rw [List.lookup_append, List.lookup_cons]
  by_cases same : other = name
  · rw [if_pos same, beq_iff_eq.2 same]
  · rw [if_neg same, beq_false_of_ne same]
    rfl

theorem find_addValue (symbolMap : SymbolMap) (type name : String) (value : UInt32)
    (other : String) :
    ((symbolMap.addValue type name value).find other).isSome = true ↔
      (symbolMap.find other).isSome = true ∨ type ++ "::" ++ name = other := by
  unfold addValue emplace
  by_cases known : (symbolMap.find (type ++ "::" ++ name)).isSome = true
  · rw [if_pos known]
    constructor
    · exact .inl
    · rintro (own | rfl)
      exacts [own, known]
  · rw [if_neg known, find, lookup_snoc, Option.isSome_or, Bool.or_eq_true]
    apply or_congr Iff.rfl
    by_cases same : other = type ++ "::" ++ name
    · simp [same]
    · simp [same, Ne.symm same]

theorem find_addValue_of_ne {symbolMap : SymbolMap} {type name other : String}
    (different : other ≠ type ++ "::" ++ name) (value : UInt32) :
    (symbolMap.addValue type name value).find other = symbolMap.find other := by
  unfold addValue emplace
  by_cases known : (symbolMap.find (type ++ "::" ++ name)).isSome = true
  · rw [if_pos known]
  · rw [if_neg known, find, lookup_snoc, if_neg different, Option.or_none]
    rfl

theorem find_assign_of_ne {symbolMap : SymbolMap} {name other : String}
    (different : other ≠ name) (value : UInt32) :
    (symbolMap.assign name value).find other = symbolMap.find other := by
  unfold assign
  by_cases known : (symbolMap.find name).isSome = true
  · rw [if_pos known]
    unfold find
    generalize symbolMap.entries = entries
    induction entries with
    | nil => rfl
    | cons entry entries ih =>
        by_cases own : entry.1 = name
        · have first : (other == name) = false := beq_false_of_ne different
          have second : (other == entry.1) = false := own ▸ first
          rw [List.map_cons, if_pos own, List.lookup_cons, first, ih, List.lookup_cons, second]
        · rw [List.map_cons, if_neg own, List.lookup_cons, ih, List.lookup_cons]
  · rw [if_neg known, find, lookup_snoc, if_neg different, Option.or_none]
    rfl

/-- A name of another type is not touched by an addition. -/
theorem find_add_of_type {symbolMap after : SymbolMap} {type name other : String}
    {value : UInt32} (different : ∀ rest, other ≠ type ++ "::" ++ rest)
    (added : symbolMap.add type name = some (value, after)) :
    after.find other = symbolMap.find other := by
  unfold add at added
  dsimp only at added
  cases counter : symbolMap.getOptional (type ++ "::VK__AUTOINDEX__BEGIN__") with
  | none =>
      rw [counter] at added
      cases added
  | some v =>
      rw [counter] at added
      dsimp only at added
      by_cases last : v = 0xffffffff
      · rw [if_pos last] at added
        cases added
      · rw [if_neg last] at added
        obtain ⟨rfl, rfl⟩ := Prod.mk.inj (Option.some.inj added)
        have counter_ne : other ≠ type ++ "::VK__AUTOINDEX__BEGIN__" := by
          have own := different "VK__AUTOINDEX__BEGIN__"
          rwa [String.append_assoc] at own
        rw [find_addValue_of_ne (different name), find_assign_of_ne counter_ne]

end SymbolMap

namespace Compiler

open Throwing

/-- The names that the constructor of remapclasses_initialize_vector_loader looks up. -/
def optionNames : List String := ["Option::SEPARATOR", "Option::USE_SEPARATOR"]

theorem optionNames_type {name type : String} (option : name ∈ optionNames)
    (different : type.toList.head?.any (· ≠ 'O') = true) (rest : String) :
    name ≠ type ++ "::" ++ rest := by
  intro same
  have first : name.toList.head? = some 'O' := by
    rcases List.mem_cons.1 option with rfl | other
    · decide
    · rw [List.mem_singleton.1 other]
      decide
  rw [same, String.toList_append, String.toList_append, List.append_assoc,
    List.head?_append] at first
  cases head : type.toList.head? with
  | none =>
      rw [head] at different
      cases different
  | some c =>
      rw [head] at different first
      simp at different first
      exact different first

theorem options_added {symbolMap first : SymbolMap}
    (options : ∀ name ∈ optionNames, symbolMap.find name = first.find name) {type : String}
    (different : type.toList.head?.any (· ≠ 'O') = true) {name : String}
    {pair : UInt32 × SymbolMap} (added : symbolMap.add type name = some pair) :
    ∀ name ∈ optionNames, pair.2.find name = first.find name := by
  intro other option
  rw [SymbolMap.find_add_of_type (optionNames_type option different) added]
  exact options other option

/-- What is known about the vector and the identifier map. -/
abbrev Kind := InitializeVector → List (UInt32 × String) → Prop

/-- The vector and the identifier map are of this kind, and the options are known as they were
at first. -/
def Kept (kind : Kind) (first : SymbolMap) (loader : Loader) : Prop :=
  kind loader.vector loader.identifierMap ∧
    ∀ name ∈ optionNames, loader.symbolMap.find name = first.find name

/-- No entry is under construction. -/
def IdleVector (vector : InitializeVector) (_ : List (UInt32 × String)) : Prop :=
  ∃ completed, vector.Holds { completed, current := none }

def OpenVector (vector : InitializeVector) (_ : List (UInt32 × String)) : Prop :=
  ∃ completed index body, vector.Holds { completed, current := some (index, body) }

/-- The vector stays of this kind when something is pushed. -/
structure Pushable (kind : Kind) : Prop where
  pushBack : ∀ {vector identifierMap}, kind vector identifierMap → ∀ v,
    kind (vector.pushBack v) identifierMap
  pushString : ∀ {vector identifierMap}, kind vector identifierMap → ∀ string,
    kind (vector.pushString string) identifierMap

theorem openVector_pushable : Pushable OpenVector where
  pushBack := by
    rintro vector _ ⟨completed, index, body, holds⟩ v
    exact ⟨completed, index, _, InitializeVector.pushBack_holds holds holds.ended v⟩
  pushString := by
    rintro vector _ ⟨completed, index, body, holds⟩ string
    exact ⟨completed, index, _, InitializeVector.pushString_holds holds holds.ended string⟩

section

variable {kind : Kind} {first : SymbolMap}
  {thrown : Loader → Prop}

theorem pushBack_keeps (pushable : Pushable kind) (v : UInt32) :
    (Loader.pushBack v).Ensures (Kept kind first) (fun _ => Kept kind first) thrown := by
  apply ensures_modify
  rintro loader ⟨held, options⟩
  exact ⟨pushable.pushBack held v, options⟩

theorem pushString_keeps (pushable : Pushable kind) (string : List UInt8) :
    (Loader.perform (.pushString string)).Ensures (Kept kind first) (fun _ => Kept kind first)
      thrown := by
  apply ensures_modify
  rintro loader ⟨held, options⟩
  exact ⟨pushable.pushString held string, options⟩

theorem addSymbol_keeps {type : String} (different : type.toList.head?.any (· ≠ 'O') = true)
    (name : String) :
    (Loader.addSymbol type name).Ensures (Kept kind first) (fun _ => Kept kind first) thrown := by
  rintro loader ⟨held, options⟩
  rw [Loader.addSymbol]
  cases added : loader.symbolMap.add type name with
  | none => trivial
  | some pair => exact ⟨held, options_added options different added⟩

end

/-- The action only pushes, and does not throw. -/
def Pushes (action : Load PUnit) : Prop :=
  ∀ kind first, Pushable kind →
    action.Ensures (Kept kind first) (fun _ => Kept kind first) fun _ => False

theorem pushes_each {Item : Type} {action : Item → Load PUnit} (items : List Item)
    (own : ∀ item, Pushes (action item)) : Pushes (each action items) :=
  fun kind first pushable => ensures_each_keeps fun item _ => own item kind first pushable

theorem pushModifier_pushes (modifier : UInt32 × String × Bool) :
    Pushes (Loader.pushModifier modifier) := by
  intro kind first pushable
  obtain ⟨index, name, notify⟩ := modifier
  apply ensures_bind _ (pushBack_keeps pushable _)
  intro _
  apply ensures_bind _ (pushBack_keeps pushable _)
  intro _
  apply ensures_bind _ (pushBack_keeps pushable _)
  intro _
  apply ensures_bind fun _ => Kept kind first
  · apply ensures_each_keeps
    intro keycode _
    apply ensures_bind _ (addSymbol_keeps (by decide) _)
    intro v
    exact pushBack_keeps pushable v
  intro _
  cases notify with
  | false => exact ensures_pure _ fun _ kept => kept
  | true =>
      apply ensures_bind _ (pushBack_keeps pushable _)
      intro _
      apply ensures_bind _ (pushBack_keeps pushable _)
      intro _
      apply ensures_bind _ (pushBack_keeps pushable _)
      intro _
      exact pushString_keeps pushable _

theorem pushKeycode_pushes (type : Nat) (keycode : UInt32) :
    Pushes (Loader.pushKeycode type keycode) := by
  intro kind first pushable
  apply ensures_bind _ (pushBack_keeps pushable _)
  intro _
  apply ensures_bind _ (pushBack_keeps pushable _)
  intro _
  exact pushBack_keeps pushable _

/-- A kind that the cleared members have, and that the definitions of the destructors keep. -/
structure Definable (kind : Kind) : Prop where
  cleared : kind .cleared []
  define : ∀ (first : SymbolMap) (rawIdentifier : String) {body : Load PUnit}, Pushes body →
    (Loader.define rawIdentifier body).Ensures (Kept kind first) (fun _ => Kept kind first)
      fun _ => False

/-- A definition adds an entry, or the program ends. -/
theorem define_keeps {outer : Kind} (inner : Kind) (pushable : Pushable inner)
    (starts : ∀ {vector started identifierMap configIndex rawIdentifier},
      outer vector identifierMap → vector.start configIndex rawIdentifier = .ok started →
        inner started (Loader.assigned identifierMap configIndex rawIdentifier))
    (ends : ∀ {vector identifierMap}, inner vector identifierMap →
      outer vector.finishEntry identifierMap)
    (first : SymbolMap) (rawIdentifier : String) {body : Load PUnit} (pushes : Pushes body) :
    (Loader.define rawIdentifier body).Ensures (Kept outer first) (fun _ => Kept outer first)
      fun _ => False := by
  apply ensures_bind _ (addSymbol_keeps (by decide) _)
  intro configIndex before kept
  have caught : Ensures (fun _ => True) (assertion : Load PUnit)
      (fun _ => Kept outer first) fun _ => False := fun _ _ => trivial
  have entered : (do
      Loader.start configIndex rawIdentifier
      body
      Loader.perform .finishEntry : Load PUnit).Ensures (· = { before with
        identifierMap := Loader.assigned before.identifierMap configIndex rawIdentifier })
      (fun _ => Kept outer first) fun _ => True := by
    apply ensures_bind fun _ => Kept inner first
    · rintro _ rfl
      rw [Loader.start]
      cases started : before.vector.start configIndex rawIdentifier with
      | ok vector => exact ⟨starts kept.1 started, kept.2⟩
      | error what => trivial
    intro _
    apply ensures_bind _ ((pushes inner first pushable).mono (fun _ kept => kept)
      (fun _ _ kept => kept) fun _ _ => trivial)
    intro _
    apply ensures_modify
    rintro loader ⟨held, options⟩
    exact ⟨ends held, options⟩
  exact ensures_attempt entered (fun _ => caught) _ rfl

theorem idleVector_definable : Definable IdleVector where
  cleared := ⟨[], InitializeVector.cleared_holds⟩
  define := by
    apply define_keeps OpenVector openVector_pushable
    · rintro vector started _ configIndex rawIdentifier ⟨completed, holds⟩ started_eq
      have unused : configIndex ∉ vector.isConfigIndexAdded := by
        intro used
        rw [InitializeVector.start, if_pos used] at started_eq
        cases started_eq
      obtain ⟨_, start_eq, held⟩ := InitializeVector.start_holds holds unused rawIdentifier
      rw [start_eq] at started_eq
      exact ⟨completed, configIndex, [], Except.ok.inj started_eq ▸ held⟩
    · rintro vector _ ⟨completed, index, words, holds⟩
      exact ⟨_, InitializeVector.finishEntry_holds holds holds.ended⟩

/-- The loader has left these members. -/
structure Shares (compiler : Compiler) (loader : Loader) : Prop where
  symbolMap : compiler.symbolMap = loader.symbolMap
  vector : compiler.vector = loader.vector
  identifierMap : compiler.identifierMap = loader.identifierMap

theorem lend_ensures {loader : Loader} {action : Load PUnit} {after thrown : Loader → Prop}
    (own : action.Ensures (· = loader) (fun _ => after) thrown) :
    (lend loader action).Ensures (fun _ => True)
      (fun _ compiler => ∃ last, after last ∧ Shares compiler last)
      (fun compiler => ∃ last, thrown last ∧ Shares compiler last) := by
  intro compiler _
  have left := own loader rfl
  rw [lend]
  cases outcome : action loader with
  | returns _ last =>
      rw [outcome] at left
      exact ⟨last, left, rfl, rfl, rfl⟩
  | throws what last =>
      rw [outcome] at left
      exact ⟨last, left, rfl, rfl, rfl⟩
  | aborts => trivial

/-- The action never throws, and keeps the vector, the identifier map and the options. -/
def Calm {α : Type} (kind : Kind) (first : SymbolMap) (action : Compile α) : Prop :=
  action.Ensures (fun compiler => Kept kind first compiler.loader)
    (fun _ compiler => Kept kind first compiler.loader) fun _ => False

section

variable {kind : Kind} {first : SymbolMap} {α : Type}

theorem calm_pure (a : α) : Calm kind first (pure a) := ensures_pure a fun _ kept => kept

theorem calm_bind {β : Type} {action : Compile α} {next : α → Compile β}
    (own : Calm kind first action) (rest : ∀ a, Calm kind first (next a)) :
    Calm kind first (action >>= next) := ensures_bind _ own rest

theorem calm_read : Calm kind first read := fun _ kept => kept

theorem calm_each {Item : Type} {action : Item → Compile PUnit} (items : List Item)
    (own : ∀ item, Calm kind first (action item)) : Calm kind first (each action items) :=
  ensures_each_keeps fun item _ => own item

theorem calm_setError (message : String) : Calm kind first (setError message) :=
  fun _ kept => kept

theorem calm_addValue {type : String} (different : type.toList.head?.any (· ≠ 'O') = true)
    (name : String) (value : UInt32) : Calm kind first (addValue type name value) := by
  apply ensures_modify
  rintro compiler ⟨held, options⟩
  refine ⟨held, ?_⟩
  intro other option
  show (compiler.symbolMap.addValue type name value).find other = _
  rw [SymbolMap.find_addValue_of_ne (optionNames_type option different name)]
  exact options other option

theorem calm_addSymbol {type : String} (different : type.toList.head?.any (· ≠ 'O') = true)
    (name : String) : Calm kind first (addSymbol type name) := by
  rintro compiler ⟨held, options⟩
  rw [addSymbol]
  cases added : compiler.symbolMap.add type name with
  | none => trivial
  | some pair => exact ⟨held, options_added options different added⟩

theorem calm_onLoader {action : Load PUnit}
    (own : action.Ensures (Kept kind first) (fun _ => Kept kind first) fun _ => False) :
    Calm kind first (onLoader action) := by
  apply ensures_of_state
  intro compiler kept
  have lent : (lend compiler.loader action).Ensures (fun _ => True)
      (fun _ compiler => ∃ last, Kept kind first last ∧ Shares compiler last)
      (fun compiler => ∃ last, False ∧ Shares compiler last) :=
    lend_ensures (own.mono (fun _ same => same ▸ kept) (fun _ _ last => last) fun _ gone => gone)
  have left : (lend compiler.loader action).Ensures (fun _ => True)
      (fun _ compiler => Kept kind first compiler.loader) fun _ => False := by
    apply lent.mono fun _ start => start
    · rintro _ after ⟨last, held, shares⟩
      unfold Kept loader
      rw [shares.vector, shares.identifierMap, shares.symbolMap]
      exact held
    · rintro _ ⟨_, gone, _⟩
      exact gone
  rintro _ rfl
  exact left _ trivial

theorem calm_destroyModifierLoader (definable : Definable kind) :
    Calm kind first destroyModifierLoader :=
  calm_bind calm_read fun _ => calm_onLoader
    (definable.define first _ (pushes_each _ pushModifier_pushes))

theorem calm_destroyInputsourceLoader (definable : Definable kind) :
    Calm kind first destroyInputsourceLoader :=
  calm_bind calm_read fun _ => calm_onLoader
    (definable.define first _ (pushes_each _ (pushKeycode_pushes _)))

theorem calm_destroyUrlLoader (definable : Definable kind) :
    Calm kind first destroyUrlLoader :=
  calm_bind calm_read fun _ => calm_onLoader
    (definable.define first _ (pushes_each _ (pushKeycode_pushes _)))

theorem calm_cleanup {action destructor : Compile PUnit} (own : Calm kind first action)
    (last : Calm kind first destructor) : Calm kind first (cleanup action destructor) :=
  ensures_cleanup own last fun _ gone => gone.elim

end

mutual

theorem traverse_eq (isDefinition : String → Bool) (handle : Tree → Compile PUnit) :
    (forest : List Tree) →
      traverse isDefinition handle forest = each handle (definitions isDefinition forest)
  | [] => rfl
  | node :: rest => by
      rw [traverse, definitions, each_append, visit_eq isDefinition handle node,
        traverse_eq isDefinition handle rest]

theorem visit_eq (isDefinition : String → Bool) (handle : Tree → Compile PUnit) :
    (node : Tree) →
      visit isDefinition handle node = each handle (definitionsOf isDefinition node)
  | .node tag data children => by
      rw [visit, definitionsOf]
      by_cases own : isDefinition tag = true
      · rw [if_pos own, if_pos own, each, each, bind_pure]
      · rw [if_neg own, if_neg own]
        by_cases empty : children.isEmpty = true
        · rw [if_pos empty, List.isEmpty_iff.1 empty]
          rfl
        · rw [if_neg empty]
          exact traverse_eq isDefinition handle children

end

theorem calm_traverse {kind : Kind} {first : SymbolMap}
    (isDefinition : String → Bool) {handle : Tree → Compile PUnit}
    (own : ∀ tree, Calm kind first (handle tree)) (forest : List Tree) :
    Calm kind first (traverse isDefinition handle forest) := by
  rw [traverse_eq]
  exact calm_each _ own

section

variable {kind : Kind} {first : SymbolMap}

theorem calm_addSymbol_unit {type : String}
    (different : type.toList.head?.any (· ≠ 'O') = true) (name : String) :
    Calm kind first (addSymbol type name >>= fun _ => pure ⟨⟩ : Compile PUnit) :=
  calm_bind (calm_addSymbol different name) fun _ => calm_pure _

theorem calm_handleModifier (tree : Tree) : Calm kind first (handleModifier tree) := by
  unfold handleModifier
  dsimp only
  split
  · exact calm_setError _
  · split
    · exact calm_setError _
    · apply calm_bind calm_read
      intro compiler
      split
      · exact calm_bind (calm_addSymbol (by decide) _) fun _ _ kept => kept
      · exact calm_pure _

theorem calm_handleApp (tree : Tree) : Calm kind first (handleApp tree) := by
  unfold handleApp
  split
  · exact calm_setError _
  · split
    · exact calm_setError _
    · apply calm_bind calm_read
      intro compiler
      split
      · exact calm_pure _
      · exact calm_bind (calm_addSymbol (by decide) _) fun _ _ kept => kept

theorem calm_handleUiElementRole (tree : Tree) :
    Calm kind first (handleUiElementRole tree) := by
  unfold handleUiElementRole
  dsimp only
  split
  · exact calm_setError _
  · exact calm_addSymbol_unit (by decide) _

theorem deviceTags_type (tag : String) :
    (deviceTags tag).1.toList.head?.any (· ≠ 'O') = true := by
  unfold deviceTags
  split
  · decide
  · split <;> decide

theorem calm_handleDevice (tree : Tree) : Calm kind first (handleDevice tree) := by
  have other := deviceTags_type tree.tag
  unfold handleDevice
  generalize deviceTags tree.tag = tags at other
  obtain ⟨type, nameTag, valueTag⟩ := tags
  dsimp only at other ⊢
  split
  · exact calm_setError _
  · split
    · exact calm_setError _
    · split
      · exact calm_setError _
      · split
        · exact calm_setError _
        · split
          · exact calm_setError _
          · exact calm_addValue other _ _

theorem calm_handleInputsource (tree : Tree) : Calm kind first (handleInputsource tree) := by
  unfold handleInputsource
  dsimp only
  apply calm_bind (calm_each _ fun _ => calm_setError _)
  intro _
  split
  · exact calm_pure _
  · split
    · exact calm_setError _
    · split
      · exact calm_setError _
      · split
        · apply calm_bind calm_read
          intro compiler
          split
          · exact calm_bind (calm_addSymbol (by decide) _) fun _ _ kept => kept
          · exact calm_pure _
        · exact calm_addSymbol_unit (by decide) _

theorem calm_handleUrl (tree : Tree) : Calm kind first (handleUrl tree) := by
  unfold handleUrl
  dsimp only
  apply calm_bind (calm_each _ fun _ => calm_setError _)
  intro _
  split
  · exact calm_pure _
  · split
    · exact calm_setError _
    · split
      · exact calm_setError _
      · split
        · exact calm_setError _
        · split
          · exact calm_setError _
          · apply calm_bind calm_read
            intro compiler
            split
            · exact calm_bind (calm_addSymbol (by decide) _) fun _ _ kept => kept
            · exact calm_pure _

theorem calm_prepareIdentifier (parentTagName : String) (tree : Tree)
    (identifiers : List String × List String) :
    Calm kind first (prepareIdentifier parentTagName tree identifiers) := by
  unfold prepareIdentifier
  dsimp only
  split
  · exact calm_bind (calm_setError _) fun _ => calm_pure _
  · split
    · exact calm_bind (calm_setError _) fun _ => calm_pure _
    · split
      · exact calm_pure _
      · apply calm_bind (calm_each _ fun _ => calm_addSymbol_unit (by decide) _)
        intro _
        split <;> exact calm_pure _

end

mutual

theorem calm_prepare {kind : Kind} {first : SymbolMap}
    (parentTagName : String) : (identifiers : List String × List String) →
      (forest : List Tree) → Calm kind first (prepare parentTagName identifiers forest)
  | identifiers, [] => calm_pure _
  | identifiers, node :: rest => by
      rw [prepare]
      exact calm_bind (calm_prepareNode parentTagName identifiers node)
        fun identifiers => calm_prepare parentTagName identifiers rest

theorem calm_prepareNode {kind : Kind} {first : SymbolMap}
    (parentTagName : String) : (identifiers : List String × List String) →
      (node : Tree) → Calm kind first (prepareNode parentTagName identifiers node)
  | identifiers, .node tag data children => by
      rw [prepareNode]
      split
      · exact calm_pure _
      · have own : Calm kind first
            (prepareOwn parentTagName (.node tag data children) identifiers) := by
          unfold prepareOwn
          split
          · exact calm_prepareIdentifier _ _ _
          · exact calm_pure _
        apply calm_bind own
        intro identifiers
        split
        · exact calm_pure _
        · exact calm_prepare tag identifiers children

end

end Compiler

end Karabiner
