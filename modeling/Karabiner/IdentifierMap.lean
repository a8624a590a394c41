import Karabiner.CompileIdentifier
import Mathlib.Data.List.Induction

set_option autoImplicit false

/- The map from config indices to identifiers, and the entries of the vector. -/
namespace Karabiner

open Throwing

namespace Loader

def getIdentifier (loader : Loader) (configIndex : UInt32) : Option String :=
  loader.identifierMap.lookup configIndex

/-- The map is not ordered: get_config_index finds the first in some order of its entries. -/
def getConfigIndex (order : List (UInt32 × String)) (identifier : String) : Option UInt32 :=
  (order.find? (·.2 = identifier)).map (·.1)

/-- An entry has been started with this index. -/
def Started (outside : Outside) (index : UInt32) (loader : Loader) : Prop :=
  loader.identifierMap = outside.identifierMap ∧
    loader.vector.Holds { completed := outside.completed, current := some (index, []) }

/-- An entry with this index is under construction. -/
def Inside (outside : Outside) (index : UInt32) (loader : Loader) : Prop :=
  loader.identifierMap = outside.identifierMap ∧
    ∃ body, loader.vector.Holds { completed := outside.completed, current := some (index, body) }

/-- The completed entries and the identifier map are these. -/
def Keeping (outside : Outside) (loader : Loader) : Prop :=
  loader.identifierMap = outside.identifierMap ∧
    ∃ current, loader.vector.Holds { completed := outside.completed, current }

/-- What a loader does between start and end: it does not touch other entries, nor the
identifier map. -/
structure Body where
  action : String → Load PUnit
  keeps : ∀ rawIdentifier outside index, (action rawIdentifier).Ensures (Started outside index)
    (fun _ => Inside outside index) (Keeping outside)

/-- What else reload does, such as to add names to the symbol map. -/
structure Other where
  action : Load PUnit
  keeps : ∀ outside, action.Ensures (Keeping outside) (fun _ => Keeping outside)
    (Keeping outside)

/-- The members that a run does not follow get other values. -/
def Other.settle (target : Loader) : Other where
  action := modify fun loader =>
    { target with vector := loader.vector, identifierMap := loader.identifierMap }
  keeps := by
    intro outside
    apply ensures_modify
    intro loader kept
    exact kept

/-- The body that traverse_autogen_ gives. -/
def compileBody (forest : List Tree) (node : Tree) : Body where
  action := compileIdentifier forest node
  keeps := by
    intro rawIdentifier outside index
    apply ensures_of_state
    rintro loader ⟨identifierMap, holds⟩
    apply (compileIdentifier_ensures forest node rawIdentifier index loader.filterVector).mono
    · rintro _ rfl
      exact ⟨holds, identifierMap, rfl, rfl⟩
    · rintro _ after ⟨config, words, announced, filters, _, _, building⟩
      exact ⟨building.identifierMap, _, building.holds⟩
    · intro after between
      exact ⟨between.identifierMap, between.holds⟩

/-- The definition that a destructor of modifier_loader, inputsource_loader or url_loader
adds. -/
def define (rawIdentifier : String) (body : Load PUnit) : Load PUnit := do
  let configIndex ← addSymbol "ConfigIndex" (Text.normalizeIdentifier rawIdentifier)
  assignIdentifier configIndex rawIdentifier
  attempt (do
    start configIndex rawIdentifier
    body
    perform .finishEntry) fun _ => assertion

/-- A step of reload: a definition, an identifier of some file, or something else. -/
inductive Step where
  | define (rawIdentifier : String) (body : Body)
  | identify (parentTagName : String) (node : Tree) (body : Body)
  | other (does : Other)

/-- What has been written to the identifier map, for an identifier or for a definition, and
whether its entry was completed. -/
structure Visit where
  configIndex : UInt32
  rawIdentifier : String
  element : Bool
  completed : Bool
  deriving DecidableEq, Repr

namespace Step

def perform : Step → Load PUnit
  | .define rawIdentifier body => Loader.define rawIdentifier (body.action rawIdentifier)
  | .identify parentTagName node body =>
      attempt (Loader.identify parentTagName node body.action) setError
  | .other does => attempt does.action setError

/-- What the step writes to the identifier map when it is taken in this state. -/
def visits (loader : Loader) : Step → List Visit
  | .define rawIdentifier _ =>
      match loader.symbolMap.add "ConfigIndex" (Text.normalizeIdentifier rawIdentifier) with
      | some (configIndex, _) => [⟨configIndex, rawIdentifier, false, true⟩]
      | none => []
  | .identify parentTagName node body =>
      match reaches loader.symbolMap parentTagName node with
      | some (configIndex, rawIdentifier) => [⟨configIndex, rawIdentifier, true,
          (Loader.identify parentTagName node body.action loader).returned.isSome⟩]
      | none => []
  | .other _ => []

end Step

/-- The loaders have run from a state to another, with these writes to the identifier map. -/
inductive Run (first : Loader) : List Visit → Loader → Prop
  | start : Run first [] first
  | step {history : List Visit} {before after : Loader} (run : Run first history before)
      (step : Step) (performed : step.perform before = .returns ⟨⟩ after) :
      Run first (history ++ step.visits before) after

/-- The text that was written last for an index. -/
def lastText (history : List Visit) (configIndex : UInt32) : Option String :=
  ((history.filter (·.configIndex = configIndex)).getLast?).map (·.rawIdentifier)

/-- The indices of the completed entries. -/
def completedIndices (history : List Visit) : List UInt32 :=
  (history.filter (·.completed)).map (·.configIndex)

/-- The identifier map and the vector show what the loaders have done. -/
structure Follows (history : List Visit) (loader : Loader) : Prop where
  texts : ∀ configIndex, loader.identifierMap.lookup configIndex = lastText history configIndex
  distinct : (loader.identifierMap.map (·.1)).Nodup
  entries : ∃ completed current, loader.vector.Holds { completed, current } ∧
    completed.map (·.1) = completedIndices history

theorem lastText_append (history : List Visit) (visit : Visit) (configIndex : UInt32) :
    lastText (history ++ [visit]) configIndex =
      if visit.configIndex = configIndex then some visit.rawIdentifier
      else lastText history configIndex := by
  unfold lastText
  rw [List.filter_append]
  by_cases same : visit.configIndex = configIndex
  · rw [if_pos same]
    simp [same]
  · rw [if_neg same]
    simp [same]

theorem completedIndices_append (history : List Visit) (visit : Visit) :
    completedIndices (history ++ [visit]) =
      completedIndices history ++ if visit.completed then [visit.configIndex] else [] := by
  unfold completedIndices
  rw [List.filter_append, List.map_append]
  cases done : visit.completed <;> simp [done]

theorem lookup_assigned (identifierMap : List (UInt32 × String)) (configIndex : UInt32)
    (rawIdentifier : String) (other : UInt32) :
    (assigned identifierMap configIndex rawIdentifier).lookup other =
      if configIndex = other then some rawIdentifier else identifierMap.lookup other := by
  by_cases same : configIndex = other
  · rw [if_pos same, assigned, same, List.lookup_cons_self]
  · have different : (other == configIndex) = false := beq_false_of_ne (Ne.symm same)
    rw [if_neg same, assigned, List.lookup_cons, different]
    dsimp only
    induction identifierMap with
    | nil => rfl
    | cons entry rest ih =>
        by_cases dropped : entry.1 = configIndex
        · have elsewhere : (other == entry.1) = false := dropped ▸ different
          rw [List.filter_cons_of_neg (by simpa using dropped), ih, List.lookup_cons, elsewhere]
        · rw [List.filter_cons_of_pos (by simpa using dropped), List.lookup_cons,
            List.lookup_cons, ih]

theorem assigned_distinct {identifierMap : List (UInt32 × String)}
    (distinct : (identifierMap.map (·.1)).Nodup) (configIndex : UInt32)
    (rawIdentifier : String) :
    ((assigned identifierMap configIndex rawIdentifier).map (·.1)).Nodup := by
  rw [assigned, List.map_cons, List.nodup_cons]
  constructor
  · intro member
    obtain ⟨entry, inside, same⟩ := List.mem_map.1 member
    have different := (List.mem_filter.1 inside).2
    simp [same] at different
  · exact distinct.sublist (List.filter_sublist.map _)

/-- A write to the map follows the history; the vector is looked after separately. -/
theorem Follows.visit {history : List Visit} {before after : Loader}
    (follows : Follows history before) (visit : Visit)
    (written : after.identifierMap =
      assigned before.identifierMap visit.configIndex visit.rawIdentifier)
    (entries : ∃ completed current, after.vector.Holds { completed, current } ∧
      completed.map (·.1) = completedIndices (history ++ [visit])) :
    Follows (history ++ [visit]) after where
  texts configIndex := by
    rw [written, lookup_assigned, lastText_append, follows.texts]
  distinct := by
    rw [written]
    exact assigned_distinct follows.distinct _ _
  entries := entries

theorem Follows.keeping {history : List Visit} {before after : Loader}
    (follows : Follows history before) {completed : List (UInt32 × List UInt32)}
    (indices : completed.map (·.1) = completedIndices history)
    (kept : Keeping ⟨completed, before.identifierMap⟩ after) : Follows history after where
  texts configIndex := by
    rw [kept.1]
    exact follows.texts configIndex
  distinct := by
    rw [kept.1]
    exact follows.distinct
  entries := ⟨completed, kept.2.choose, kept.2.choose_spec, indices⟩

/-- What identify does from the identifier map on. -/
theorem enter_follows {history : List Visit} {loader : Loader}
    (follows : Follows history loader) (configIndex : UInt32) (rawIdentifier : String)
    (element : Bool) (body : Body) :
    (do
      assignIdentifier configIndex rawIdentifier
      start configIndex rawIdentifier
      body.action rawIdentifier
      perform .finishEntry : Load PUnit).Ensures (· = loader)
      (fun _ => Follows (history ++ [⟨configIndex, rawIdentifier, element, true⟩]))
      (Follows (history ++ [⟨configIndex, rawIdentifier, element, false⟩])) := by
  obtain ⟨completed, current, holds, indices⟩ := follows.entries
  have refused : ∀ after, Keeping
      ⟨completed, assigned loader.identifierMap configIndex rawIdentifier⟩ after →
      Follows (history ++ [⟨configIndex, rawIdentifier, element, false⟩]) after := by
    intro after kept
    obtain ⟨later, held⟩ := kept.2
    apply follows.visit _ kept.1
    refine ⟨completed, later, held, ?_⟩
    rw [completedIndices_append, indices]
    simp
  have compiles := (body.keeps rawIdentifier ⟨completed,
    assigned loader.identifierMap configIndex rawIdentifier⟩ configIndex).mono
      (fun _ (building : Building ⟨completed,
        assigned loader.identifierMap configIndex rawIdentifier⟩ configIndex []
          loader.filterVector loader.toSymbols _) => ⟨building.identifierMap, building.holds⟩)
      (fun _ _ after => after) refused
  apply enter_ensures holds ?_ compiles
  · rintro state ⟨identifierMap, words, inside⟩
    have finished := InitializeVector.finishEntry_holds inside inside.ended
    apply follows.visit _ identifierMap
    refine ⟨_, _, finished, ?_⟩
    rw [completedIndices_append, if_pos rfl, ← indices]
    exact List.map_append
  · intro between
    exact refused _ ⟨between.identifierMap, between.holds⟩

theorem SameButErrors.follows {history : List Visit} {before after : Loader}
    (same : SameButErrors before after) (follows : Follows history before) :
    Follows history after := by
  rw [same]
  exact ⟨follows.texts, follows.distinct, follows.entries⟩

theorem setError_follows {history : List Visit} (message : String) {thrown : Loader → Prop} :
    (setError message).Ensures (Follows history) (fun _ => Follows history) thrown := by
  apply ensures_modify
  intro loader follows
  exact ⟨follows.texts, follows.distinct, follows.entries⟩

/-- Whatever a step does, the map and the vector still show the history. -/
theorem step_follows {history : List Visit} {before after : Loader}
    (follows : Follows history before) (step : Step)
    (performed : step.perform before = .returns ⟨⟩ after) :
    Follows (history ++ step.visits before) after := by
  cases step with
  | other does =>
      obtain ⟨completed, current, holds, indices⟩ := follows.entries
      have kept : (attempt does.action setError).Ensures (· = before) (fun _ => Follows history)
          (fun _ => True) := by
        apply ensures_attempt ((does.keeps ⟨completed, before.identifierMap⟩).mono ?_
          (fun _ _ kept => follows.keeping indices kept) fun _ kept =>
            follows.keeping indices kept) fun what => setError_follows what
        rintro _ rfl
        exact ⟨rfl, current, holds⟩
      rw [Step.visits, List.append_nil]
      exact kept.returns rfl performed
  | identify parentTagName node body =>
      rw [Step.visits]
      cases reached : reaches before.symbolMap parentTagName node with
      | none =>
          have kept : (attempt (identify parentTagName node body.action) setError).Ensures
              (· = before) (fun _ => Follows history) (fun _ => True) := by
            apply ensures_attempt ((identify_unreached reached _).mono (fun _ same => same)
              (fun _ _ same => same.follows follows) fun _ same => same.follows follows)
            exact fun what => setError_follows what
          rw [List.append_nil]
          exact kept.returns rfl performed
      | some identifier =>
          obtain ⟨configIndex, rawIdentifier⟩ := identifier
          have entered := enter_follows follows configIndex rawIdentifier true body before rfl
          rw [← identify_reached reached] at entered
          rw [Step.perform, attempt] at performed
          dsimp only
          cases outcome : identify parentTagName node body.action before with
          | returns _ last =>
              rw [outcome] at entered performed
              obtain ⟨_, rfl⟩ := Outcome.returns.inj performed
              exact entered
          | throws what last =>
              rw [outcome] at entered performed
              obtain ⟨_, rfl⟩ := Outcome.returns.inj performed
              exact ⟨entered.texts, entered.distinct, entered.entries⟩
          | aborts =>
              rw [outcome] at performed
              cases performed
  | define rawIdentifier body =>
      rw [Step.perform, define, bind_apply, addSymbol] at performed
      rw [Step.visits]
      cases add_eq : before.symbolMap.add "ConfigIndex"
          (Text.normalizeIdentifier rawIdentifier) with
      | none =>
          rw [add_eq] at performed
          cases performed
      | some pair =>
          rw [add_eq] at performed
          have named_follows : Follows history { before with symbolMap := pair.2 } :=
            ⟨follows.texts, follows.distinct, follows.entries⟩
          have entered := enter_follows named_follows pair.1 rawIdentifier false body _ rfl
          have joined : (attempt (do
              assignIdentifier pair.1 rawIdentifier
              start pair.1 rawIdentifier
              body.action rawIdentifier
              perform .finishEntry : Load PUnit) fun _ => assertion)
              { before with symbolMap := pair.2 } = .returns ⟨⟩ after := performed
          rw [attempt] at joined
          dsimp only
          cases outcome : (do
              assignIdentifier pair.1 rawIdentifier
              start pair.1 rawIdentifier
              body.action rawIdentifier
              perform .finishEntry : Load PUnit) { before with symbolMap := pair.2 } with
          | returns _ last =>
              rw [outcome] at entered joined
              obtain ⟨_, rfl⟩ := Outcome.returns.inj joined
              exact entered
          | throws what last =>
              rw [outcome] at joined
              cases joined
          | aborts =>
              rw [outcome] at joined
              cases joined

theorem cleared_follows {first : Loader} (cleared : first.identifierMap = [])
    (empty : first.vector.Holds {}) : Follows [] first := by
  refine ⟨?_, ?_, [], none, empty, rfl⟩
  · intro configIndex
    rw [cleared]
    rfl
  · rw [cleared]
    exact List.nodup_nil

theorem run_follows {first : Loader} {history : List Visit} {after : Loader}
    (cleared : Follows [] first) (run : Run first history after) : Follows history after := by
  induction run with
  | start => exact cleared
  | step _ step performed ih => exact step_follows ih step performed

/-- For every identifier whose entry was completed, the two lookups agree. -/
def Agrees (history : List Visit) (loader : Loader) : Prop :=
  ∀ visit ∈ history, visit.element = true → visit.completed = true →
    loader.getIdentifier visit.configIndex = some visit.rawIdentifier ∧
    ∀ order, order.Perm loader.identifierMap →
      getConfigIndex order visit.rawIdentifier = some visit.configIndex

/-- No later identifier or definition has left another text at the index of a completed
entry, and none has left its text at another index. -/
def Undisturbed (history : List Visit) : Prop :=
  ∀ visit ∈ history, visit.element = true → visit.completed = true →
    lastText history visit.configIndex = some visit.rawIdentifier ∧
    ∀ other, lastText history other = some visit.rawIdentifier → other = visit.configIndex

theorem mem_of_lookup {identifierMap : List (UInt32 × String)} {configIndex : UInt32}
    {rawIdentifier : String} (found : identifierMap.lookup configIndex = some rawIdentifier) :
    (configIndex, rawIdentifier) ∈ identifierMap := by
  obtain ⟨before, after, split, _⟩ := List.lookup_eq_some_iff.1 found
  rw [split]
  simp

theorem lookup_of_mem {identifierMap : List (UInt32 × String)}
    (distinct : (identifierMap.map (·.1)).Nodup) {configIndex : UInt32} {rawIdentifier : String}
    (member : (configIndex, rawIdentifier) ∈ identifierMap) :
    identifierMap.lookup configIndex = some rawIdentifier := by
  obtain ⟨before, after, split⟩ := List.append_of_mem member
  apply List.lookup_eq_some_iff.2
  refine ⟨before, after, split, ?_⟩
  intro entry inside
  rw [split, List.map_append, List.nodup_append] at distinct
  have different := distinct.2.2 entry.1 (List.mem_map_of_mem inside) configIndex (by simp)
  simpa using Ne.symm different

theorem Follows.agrees_iff {history : List Visit} {after : Loader}
    (follows : Follows history after) :
    Agrees history after ↔ Undisturbed history := by
  constructor
  · intro agrees visit member element completed
    obtain ⟨identifier, index⟩ := agrees visit member element completed
    rw [getIdentifier, follows.texts] at identifier
    refine ⟨identifier, ?_⟩
    intro other text
    rw [← follows.texts] at text
    -- get_config_index may meet the entry of the other index first
    have found := index _ (List.perm_cons_erase (mem_of_lookup text)).symm
    rw [getConfigIndex, List.find?_cons_of_pos (by simp)] at found
    exact Option.some.inj found
  · intro undisturbed visit member element completed
    obtain ⟨last, only⟩ := undisturbed visit member element completed
    rw [← follows.texts] at last
    refine ⟨last, ?_⟩
    intro order perm
    have present := perm.mem_iff.2 (mem_of_lookup last)
    rw [getConfigIndex]
    cases found : order.find? (·.2 = visit.rawIdentifier) with
    | none =>
        have absent := List.find?_eq_none.1 found _ present
        simp at absent
    | some entry =>
        have text : entry.2 = visit.rawIdentifier := by simpa using List.find?_some found
        have inside : (entry.1, entry.2) ∈ after.identifierMap :=
          perm.mem_iff.1 (List.mem_of_find?_eq_some found)
        have own := lookup_of_mem follows.distinct inside
        rw [follows.texts, text] at own
        rw [Option.map_some, only entry.1 own]

/-- In every run the lookups agree for the identifiers that were completed exactly when no
refused duplicate has overwritten their text. -/
theorem agrees_iff_undisturbed {first : Loader} {history : List Visit} {after : Loader}
    (cleared : first.identifierMap = []) (empty : first.vector.Holds {})
    (run : Run first history after) :
    (∃ completed current, after.vector.Holds { completed, current } ∧
      completed.map (·.1) = completedIndices history) ∧
    (Agrees history after ↔ Undisturbed history) := by
  have follows := run_follows (cleared_follows cleared empty) run
  exact ⟨follows.entries, follows.agrees_iff⟩

theorem lastText_of_alike {visit : Visit} (before : List Visit) {rest : List Visit}
    (alike : ∀ later ∈ rest, later.configIndex = visit.configIndex →
      later.rawIdentifier = visit.rawIdentifier) :
    lastText (before ++ visit :: rest) visit.configIndex = some visit.rawIdentifier := by
  induction rest using List.reverseRecOn with
  | nil => rw [lastText_append, if_pos rfl]
  | append_singleton rest last ih =>
      have split : before ++ visit :: (rest ++ [last]) = (before ++ visit :: rest) ++ [last] := by
        simp
      rw [split, lastText_append]
      by_cases same : last.configIndex = visit.configIndex
      · rw [if_pos same, alike last (by simp) same]
      · rw [if_neg same]
        exact ih fun later member => alike later (by simp [member])

theorem mem_of_lastText {history : List Visit} {configIndex : UInt32} {rawIdentifier : String}
    (last : lastText history configIndex = some rawIdentifier) :
    ∃ visit ∈ history, visit.configIndex = configIndex ∧
      visit.rawIdentifier = rawIdentifier := by
  obtain ⟨visit, found, text⟩ := Option.map_eq_some_iff.1 last
  obtain ⟨member, index⟩ := List.mem_filter.1 (List.mem_of_getLast? found)
  exact ⟨visit, member, of_decide_eq_true index, text⟩

/-- Each normalized identifier has an index of its own. -/
def Indexed (history : List Visit) : Prop :=
  ∀ visit ∈ history, ∀ other ∈ history, visit.configIndex = other.configIndex ↔
    Text.normalizeIdentifier visit.rawIdentifier = Text.normalizeIdentifier other.rawIdentifier

/-- The lookups agree if no identifier behind one that was completed is another text for the same
normalized identifier. -/
theorem agrees_of_distinct {first : Loader} {history : List Visit} {after : Loader}
    (cleared : first.identifierMap = []) (empty : first.vector.Holds {})
    (run : Run first history after) (indexed : Indexed history)
    (distinct : history.Pairwise fun visit later => visit.completed = true →
      Text.normalizeIdentifier visit.rawIdentifier =
        Text.normalizeIdentifier later.rawIdentifier →
          visit.rawIdentifier = later.rawIdentifier) :
    Agrees history after := by
  have follows := run_follows (cleared_follows cleared empty) run
  rw [follows.agrees_iff]
  intro visit member element completed
  constructor
  · obtain ⟨before, rest, rfl⟩ := List.append_of_mem member
    apply lastText_of_alike
    intro later inside same
    have behind := (List.pairwise_cons.1 (List.pairwise_append.1 distinct).2.1).1 later inside
    have normalized := (indexed visit member later (by simp [inside])).1 same.symm
    exact (behind completed normalized).symm
  · intro other last
    obtain ⟨writer, written, rfl, text⟩ := mem_of_lastText last
    exact (indexed writer written visit member).2 (by rw [text])

def dottedNode : Tree := .node "identifier" "a.b" []

def underscoredNode : Tree := .node "identifier" "a_b" []

/-- Two identifiers that are the same when they are normalized. -/
def collisionLoader : Loader where
  symbolMap := ⟨[("ConfigIndex::a_b", 0)]⟩
  symbolMapCacheOptionSeparator := 0
  symbolMapCacheOptionUseSeparator := 0
  vector := .cleared

def dottedStep : Step := .identify "item" dottedNode (compileBody [dottedNode] dottedNode)

def underscoredStep : Step :=
  .identify "item" underscoredNode (compileBody [underscoredNode] underscoredNode)

theorem collision_run : ∃ after, Run collisionLoader
    [⟨0, "a.b", true, true⟩, ⟨0, "a_b", true, false⟩] after := by
  have first : (dottedStep.perform collisionLoader).returned.map underscoredStep.visits =
      some [⟨0, "a_b", true, false⟩] := by decide +kernel
  have second : ((dottedStep.perform collisionLoader).returned.bind fun loader =>
      (underscoredStep.perform loader).returned).isSome = true := by decide +kernel
  obtain ⟨middle, performed, visited⟩ := Option.map_eq_some_iff.1 first
  obtain ⟨after, performed'⟩ := Option.isSome_iff_exists.1 second
  rw [performed, Option.bind_some] at performed'
  have visited' : dottedStep.visits collisionLoader = [⟨0, "a.b", true, true⟩] := by
    decide +kernel
  have run := (Run.start.step dottedStep (returns_of_returned performed)).step underscoredStep
    (returns_of_returned performed')
  rw [visited, visited'] at run
  exact ⟨after, run⟩

/-- The text of the refused identifier is found for the entry of the accepted one. -/
theorem collision_disagrees : ∃ history after, Run collisionLoader history after ∧
    ¬ Agrees history after := by
  obtain ⟨after, run⟩ := collision_run
  refine ⟨_, after, run, ?_⟩
  intro agrees
  have follows := run_follows (cleared_follows rfl InitializeVector.cleared_holds) run
  have found := (agrees ⟨0, "a.b", true, true⟩ List.mem_cons_self rfl rfl).1
  rw [getIdentifier, follows.texts] at found
  revert found
  decide

theorem agrees_iff_undisturbed_collision : ∃ after,
    (∃ completed current, after.vector.Holds { completed, current } ∧
      completed.map (·.1) = completedIndices
        [⟨0, "a.b", true, true⟩, ⟨0, "a_b", true, false⟩]) ∧
    (Agrees [⟨0, "a.b", true, true⟩, ⟨0, "a_b", true, false⟩] after ↔
      Undisturbed [⟨0, "a.b", true, true⟩, ⟨0, "a_b", true, false⟩]) := by
  obtain ⟨after, run⟩ := collision_run
  exact ⟨after, agrees_iff_undisturbed rfl InitializeVector.cleared_holds run⟩

/-- The loaders reach this state from the first. -/
def Reachable (first loader : Loader) : Prop := ∃ history, Run first history loader

theorem Reachable.settle {first loader : Loader} (reachable : Reachable first loader)
    {target : Loader} (vector : target.vector = loader.vector)
    (identifierMap : target.identifierMap = loader.identifierMap) : Reachable first target := by
  obtain ⟨history, run⟩ := reachable
  have settled : (Step.other (.settle target)).perform loader = .returns ⟨⟩ target := by
    show Outcome.returns _ { target with
      vector := loader.vector, identifierMap := loader.identifierMap } = _
    rw [← vector, ← identifierMap]
  exact ⟨_, run.step _ settled⟩

theorem define_reachable {first : Loader} (rawIdentifier : String) (body : Body) :
    (define rawIdentifier (body.action rawIdentifier)).Ensures (Reachable first)
      (fun _ => Reachable first) fun _ => False := by
  have caught : (define rawIdentifier (body.action rawIdentifier)).Ensures (fun _ => True)
      (fun _ _ => True) fun _ => False := by
    have added : (addSymbol "ConfigIndex" (Text.normalizeIdentifier rawIdentifier)).Ensures
        (fun _ => True) (fun _ _ => True) fun _ => False := by
      intro loader _
      rw [addSymbol]
      cases loader.symbolMap.add "ConfigIndex" (Text.normalizeIdentifier rawIdentifier) <;> trivial
    apply ensures_bind _ added
    intro configIndex
    apply ensures_bind (fun _ _ => True) fun _ _ => trivial
    intro _
    have entered : (do
        start configIndex rawIdentifier
        body.action rawIdentifier
        perform .finishEntry : Load PUnit).Ensures (fun _ => True) (fun _ _ => True)
          fun _ => True := by
      intro loader _
      split <;> trivial
    exact ensures_attempt entered fun _ _ _ => trivial
  intro before reachable
  obtain ⟨history, run⟩ := reachable
  have never := caught before trivial
  cases performed : define rawIdentifier (body.action rawIdentifier) before with
  | returns _ after => exact ⟨_, run.step (.define rawIdentifier body) performed⟩
  | throws what after =>
      rw [performed] at never
      exact never
  | aborts => trivial

theorem step_reachable {first : Loader} (step : Step) {action : Load PUnit}
    (own : step.perform = attempt action setError) :
    (attempt action setError).Ensures (Reachable first) (fun _ => Reachable first)
      fun _ => False := by
  intro before reachable
  obtain ⟨history, run⟩ := reachable
  rw [← own]
  cases performed : step.perform before with
  | returns _ after => exact ⟨_, run.step step performed⟩
  | throws what after =>
      rw [own, attempt] at performed
      cases outcome : action before <;> rw [outcome] at performed <;> cases performed
  | aborts => trivial

mutual

theorem traverseRest_reachable {first : Loader} (forest : List Tree) (parentTagName : String) :
    (rest : List Tree) → (traverseRest forest parentTagName rest).Ensures (Reachable first)
      (fun _ => Reachable first) fun _ => False
  | [] => ensures_pure _ fun _ reachable => reachable
  | node :: rest => by
      rw [traverseRest]
      apply ensures_bind _ (visit_reachable forest parentTagName node)
      intro _
      exact traverseRest_reachable forest parentTagName rest

theorem visit_reachable {first : Loader} (forest : List Tree) (parentTagName : String) :
    (node : Tree) → (attempt (visit forest parentTagName node) setError).Ensures
      (Reachable first) (fun _ => Reachable first) fun _ => False
  | .node tag data children => by
      rw [visit]
      by_cases other : tag ≠ "identifier"
      · rw [if_pos other]
        by_cases empty : children.isEmpty = true
        · rw [if_pos empty]
          exact fun _ reachable => reachable
        · rw [if_neg empty]
          exact ensures_attempt (traverseRest_reachable children tag children)
            fun _ _ gone => gone.elim
      · rw [if_neg other]
        exact step_reachable (.identify parentTagName (.node tag data children)
          (compileBody forest (.node tag data children))) rfl

end

/-- The walk over a tree is such a run. -/
theorem traverse_reachable {first before after : Loader} (parentTagName : String)
    (forest : List Tree) (reachable : Reachable first before)
    (returned : traverse parentTagName forest before = .returns ⟨⟩ after) :
    Reachable first after :=
  (traverseRest_reachable forest parentTagName forest).returns reachable returned

end Loader

end Karabiner
