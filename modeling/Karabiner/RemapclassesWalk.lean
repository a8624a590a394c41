import Karabiner.ReloadRun

set_option autoImplicit false

/- The walk of the last loader over files with includes. Each loop over an extracted_ptree expands
the includes anew, so that what the loop over the filters meets below an element need not be what
the loop over the autogens meets there: an include with once is expanded by the first only. -/
namespace Karabiner

/-- A node that traverse_autogen_ meets, with what its two loops meet below the node. -/
inductive Sight where
  | node (tree : Tree) (filters : List Tree) (autogens : List Sight)

/-- An identifier that traverse meets, with what the two loops meet around it. -/
structure Meeting where
  parentTagName : String
  node : Tree
  filters : List Tree
  autogens : List Sight

namespace Loader

open Throwing

mutual

def traverseSights (rawIdentifier : String) : List Sight → Load PUnit
  | [] => pure ⟨⟩
  | sight :: rest => do
      traverseSight rawIdentifier sight
      traverseSights rawIdentifier rest

/-- The second loop of traverse_autogen_. -/
def traverseSight (rawIdentifier : String) : Sight → Load PUnit
  | .node tree filters autogens => do
      if tree.tag = "item" then
        setError ("You should not write <identifier> in <item> which has child <item> nodes.\n" ++
          "Remove <identifier>" ++ rawIdentifier ++ "</identifier>.")
      else if tree.tag ≠ "autogen" then
        let loader ← read
        let s := loader.filterVector.length
        traverseFilters filters
        traverseSights rawIdentifier autogens
        modify fun loader => { loader with filterVector := loader.filterVector.take s }
      else
        let rawAutogen := Text.trimLeftCopy tree.data
        handleAutogen rawAutogen (prepareAutogen rawAutogen)

end

end Loader

namespace Meeting

open Throwing Loader

/-- What traverse does between start and end. -/
def compile (meeting : Meeting) (rawIdentifier : String) : Load PUnit := do
  pushVkConfig meeting.node (Text.normalizeIdentifier rawIdentifier)
  modify fun loader => { loader with filterVector := [] }
  traverseFilters meeting.filters
  traverseSights rawIdentifier meeting.autogens

/-- What traverse does with the identifier. -/
def visit (meeting : Meeting) : Load PUnit :=
  attempt (identify meeting.parentTagName meeting.node meeting.compile) Loader.setError

end Meeting

namespace Loader

open Throwing Compiler

section

variable {kind : Kind} {first : SymbolMap}

theorem setError_kept (message : String) {thrown : Loader → Prop} :
    (setError message).Ensures (Kept kind first) (fun _ => Kept kind first) thrown :=
  fun _ kept => kept

theorem get_kept (name : String) :
    (get name).Ensures (Kept kind first) (fun _ => Kept kind first) (Kept kind first) := by
  intro loader kept
  rw [get]
  cases loader.symbolMap.get name <;> exact kept

theorem traverseFilters_kept (forest : List Tree) :
    (traverseFilters forest).Ensures (Kept kind first) (fun _ => Kept kind first)
      (Kept kind first) := by
  intro loader kept
  rw [traverseFilters]
  cases FilterVector.traverse loader.symbolMap forest <;> exact kept

theorem addToInitializeVector_kept (pushable : Pushable kind) (params : List Char) (type : Nat) :
    (addToInitializeVector params type).Ensures (Kept kind first) (fun _ => Kept kind first)
      (Kept kind first) := by
  apply ensures_bind fun _ => Kept kind first
  · exact fun _ kept => kept
  intro loader
  apply ensures_bind fun _ => Kept kind first
  · exact ensures_ofExcept (fun _ _ _ kept => kept) fun _ _ _ kept => kept
  intro values
  apply ensures_bind _ (pushBack_keeps pushable _)
  intro _
  apply ensures_bind _ (pushBack_keeps pushable _)
  intro _
  apply ensures_bind fun _ => Kept kind first
  · exact ensures_each_keeps fun v _ => pushBack_keeps pushable v
  intro _
  exact ensures_each_keeps fun v _ => pushBack_keeps pushable v

theorem addStatusMessage_kept (pushable : Pushable kind) (params : List Char) :
    (addStatusMessage params).Ensures (Kept kind first) (fun _ => Kept kind first)
      (Kept kind first) := by
  unfold addStatusMessage
  generalize Text.utf8 (Text.trim params) = string
  apply ensures_bind _ (pushBack_keeps pushable _)
  intro _
  apply ensures_bind _ (pushBack_keeps pushable _)
  intro _
  exact pushString_keeps pushable string

theorem addSimultaneousKeyPresses_kept (pushable : Pushable kind) (params : List Char) :
    (addSimultaneousKeyPresses params).Ensures (Kept kind first) (fun _ => Kept kind first)
      (Kept kind first) := by
  apply ensures_bind fun _ => Kept kind first
  · exact fun _ kept => kept
  intro loader
  generalize "KeyCode::".toList ++ loader.newkeycode.toList ++ [','] ++ params = params
  apply ensures_bind _ (addSymbol_keeps (by decide) _)
  intro _
  apply ensures_bind fun _ => Kept kind first
  · exact fun _ kept => kept
  intro _
  exact addToInitializeVector_kept pushable params _

theorem addAutogen_kept (pushable : Pushable kind) (rawAutogen : String) (autogen : List Char) :
    (addAutogen rawAutogen autogen).Ensures (Kept kind first) (fun _ => Kept kind first)
      (Kept kind first) := by
  unfold addAutogen
  split
  · exact addStatusMessage_kept pushable _
  · split
    · exact addSimultaneousKeyPresses_kept pushable _
    · split
      · exact addToInitializeVector_kept pushable _ _
      · exact ensures_fail fun _ kept => kept

theorem pushVkConfig_kept (pushable : Pushable kind) (node : Tree) (identifier : String) :
    (pushVkConfig node identifier).Ensures (Kept kind first) (fun _ => Kept kind first)
      (Kept kind first) := by
  unfold pushVkConfig
  split
  · apply ensures_bind _ (pushBack_keeps pushable _)
    intro _
    apply ensures_bind _ (pushBack_keeps pushable _)
    intro _
    apply ensures_each_keeps
    intro name _
    apply ensures_bind _ (get_kept _)
    intro keycode
    exact pushBack_keeps pushable keycode
  · exact ensures_pure _ fun _ kept => kept

mutual

theorem traverseSights_kept (pushable : Pushable kind) (rawIdentifier : String) :
    (sights : List Sight) →
    (traverseSights rawIdentifier sights).Ensures (Kept kind first) (fun _ => Kept kind first)
      (Kept kind first)
  | [] => ensures_pure _ fun _ kept => kept
  | sight :: rest => by
      rw [traverseSights]
      apply ensures_bind _ (traverseSight_kept pushable rawIdentifier sight)
      intro _
      exact traverseSights_kept pushable rawIdentifier rest

theorem traverseSight_kept (pushable : Pushable kind) (rawIdentifier : String) : (sight : Sight) →
    (traverseSight rawIdentifier sight).Ensures (Kept kind first) (fun _ => Kept kind first)
      (Kept kind first)
  | .node tree filters autogens => by
      rw [traverseSight]
      split
      · exact setError_kept _
      · split
        · apply ensures_bind fun _ => Kept kind first
          · exact fun _ kept => kept
          intro loader
          apply ensures_bind _ (traverseFilters_kept filters)
          intro _
          apply ensures_bind _ (traverseSights_kept pushable rawIdentifier autogens)
          exact fun _ _ kept => kept
        · dsimp only
          rw [handleAutogen_eq]
          exact ensures_each_keeps fun autogen _ => addAutogen_kept pushable _ autogen

end

end

end Loader

namespace Meeting

open Throwing Loader Compiler

/-- The identifier as a step of a run. -/
def body (meeting : Meeting) : Loader.Body where
  action := meeting.compile
  keeps rawIdentifier := by
    apply body_keeps
    intro kind first pushable
    apply ensures_bind _ (pushVkConfig_kept pushable _ _)
    intro _
    apply ensures_bind fun _ => Kept kind first
    · exact fun _ kept => kept
    intro _
    apply ensures_bind _ (traverseFilters_kept _)
    intro _
    exact traverseSights_kept pushable _ _

theorem visit_reachable (first : Loader) (meeting : Meeting) :
    meeting.visit.Ensures (Loader.Reachable first) (fun _ => Loader.Reachable first)
      fun _ => False :=
  Loader.step_reachable (.identify meeting.parentTagName meeting.node meeting.body) rfl

theorem visit_returns (meeting : Meeting) :
    meeting.visit.Ensures (fun _ => True) (fun _ _ => True) fun _ => False := by
  intro loader _
  rw [visit, attempt]
  cases identify meeting.parentTagName meeting.node meeting.compile loader <;> trivial

/-- Whatever comes of an identifier, the entries stay whole. -/
theorem visit_keeps (meeting : Meeting) :
    meeting.visit.Ensures (fun loader => ∃ entries, loader.vector.Holds entries)
      (fun _ loader => ∃ entries, loader.vector.Holds entries) fun _ => False := by
  apply ensures_attempt
  · apply ensures_of_state
    rintro before ⟨⟨completed, current⟩, holds⟩
    cases reached : reaches before.symbolMap meeting.parentTagName meeting.node with
    | none =>
        have kept : ∀ after, SameButErrors before after →
            ∃ entries, after.vector.Holds entries := by
          intro after same
          rw [same]
          exact ⟨_, holds⟩
        exact (identify_unreached reached meeting.compile).mono (fun _ same => same)
          (fun _ => kept) kept
    | some identifier =>
        obtain ⟨configIndex, rawIdentifier⟩ := identifier
        have compiles := (meeting.body.keeps rawIdentifier ⟨completed,
          assigned before.identifierMap configIndex rawIdentifier⟩ configIndex).mono
            (fun _ (building : Building ⟨completed, assigned before.identifierMap configIndex
              rawIdentifier⟩ configIndex [] before.filterVector before.toSymbols _) =>
                ⟨building.identifierMap, building.holds⟩)
            (fun _ _ inside => inside.2)
            fun after kept =>
              (⟨_, kept.2.choose_spec⟩ : ∃ entries, after.vector.Holds entries)
        rintro _ rfl
        rw [identify_reached reached]
        apply enter_ensures holds ?_ compiles ?_ _ rfl
        · intro between
          exact ⟨_, between.holds.choose_spec⟩
        · rintro state ⟨words, inside⟩
          exact ⟨_, InitializeVector.finishEntry_holds inside inside.ended⟩
  · exact fun _ _ kept => kept

end Meeting

/-- The walk that meets these identifiers. -/
def Walk.meeting (meetings : List Meeting) : Walk where
  action := Throwing.each Meeting.visit meetings
  keeps := Throwing.ensures_each_keeps fun meeting _ => meeting.visit_keeps

theorem Walk.meeting_stepwise (meetings : List Meeting) : (Walk.meeting meetings).Stepwise :=
  fun first => Throwing.ensures_each_keeps fun meeting _ => meeting.visit_reachable first

/-- An include with once directly under an item: the loop over the filters meets what it stands for,
and the loop over the autogens the include itself. -/
def onceMeeting : Meeting where
  parentTagName := "item"
  node := .node "identifier" "a" []
  filters := Loader.filteredChildren
  autogens := [.node (.node "identifier" "a" []) [] [], .node (.node "include" "" []) [] []]

example : ((Walk.meeting [onceMeeting]).action Loader.filteredItemLoader).returned.map
    (·.vector.data) = some [1, 1, 0] := by decide +kernel

/- Without includes both loops meet the children as they are. -/

mutual

def sightsOf : List Tree → List Sight
  | [] => []
  | node :: rest => sightOf node :: sightsOf rest

def sightOf : Tree → Sight
  | .node tag data children => .node (.node tag data children) children (sightsOf children)

end

mutual

def meetingsOf (forest : List Tree) (parentTagName : String) : List Tree → List Meeting
  | [] => []
  | node :: rest =>
      meetingsOfNode forest parentTagName node ++ meetingsOf forest parentTagName rest

def meetingsOfNode (forest : List Tree) (parentTagName : String) : Tree → List Meeting
  | .node tag data children =>
      if tag ≠ "identifier" then meetingsOf children tag children
      else [⟨parentTagName, .node tag data children, forest, sightsOf forest⟩]

end

namespace Loader

open Throwing

mutual

theorem traverseSights_sightsOf (rawIdentifier : String) : (forest : List Tree) →
    traverseSights rawIdentifier (sightsOf forest) = traverseNodes rawIdentifier forest
  | [] => rfl
  | node :: rest => by
      rw [sightsOf, traverseSights, traverseNodes, traverseSight_sightOf rawIdentifier node,
        traverseSights_sightsOf rawIdentifier rest]

theorem traverseSight_sightOf (rawIdentifier : String) : (node : Tree) →
    traverseSight rawIdentifier (sightOf node) = traverseNode rawIdentifier node
  | .node tag data children => by
      rw [sightOf, traverseSight, traverseNode, traverseSights_sightsOf rawIdentifier children]
      rfl

end

theorem visit_meeting (forest : List Tree) (parentTagName : String) (node : Tree) :
    Meeting.visit ⟨parentTagName, node, forest, sightsOf forest⟩ =
      attempt (visitIdentifier forest parentTagName node) setError := by
  have same : Meeting.compile ⟨parentTagName, node, forest, sightsOf forest⟩ =
      compileIdentifier forest node := by
    funext rawIdentifier
    rw [Meeting.compile, compileIdentifier, traverseSights_sightsOf]
    rfl
  rw [Meeting.visit, visitIdentifier, same]

mutual

/-- The walk over a tree without includes is a walk that meets its identifiers. -/
theorem traverseRest_meetings (forest : List Tree) (parentTagName : String) :
    (rest : List Tree) → traverseRest forest parentTagName rest =
      each Meeting.visit (meetingsOf forest parentTagName rest)
  | [] => rfl
  | node :: rest => by
      rw [traverseRest, meetingsOf, each_append, visit_meetings forest parentTagName node,
        traverseRest_meetings forest parentTagName rest]

theorem visit_meetings (forest : List Tree) (parentTagName : String) :
    (node : Tree) → attempt (visit forest parentTagName node) setError =
      each Meeting.visit (meetingsOfNode forest parentTagName node)
  | .node tag data children => by
      rw [visit, meetingsOfNode]
      by_cases other : tag ≠ "identifier"
      · rw [if_pos other, if_pos other]
        by_cases empty : children.isEmpty = true
        · rw [if_pos empty, List.isEmpty_iff.1 empty]
          rfl
        · rw [if_neg empty, traverseRest_meetings children tag children]
          -- what an identifier throws is caught at once
          apply attempt_eq
          exact ensures_each_keeps fun meeting _ => meeting.visit_returns
      · rw [if_neg other, if_neg other, each, each, bind_pure, visit_meeting]

end

end Loader

theorem Walk.over_meeting (forests : List (List Tree)) : (Walk.over forests).action =
    (Walk.meeting (forests.flatMap fun forest => meetingsOf forest "" forest)).action := by
  show Throwing.each (Loader.traverse "") forests = Throwing.each Meeting.visit _
  rw [Throwing.each_flatMap]
  apply Throwing.each_congr
  intro forest _
  exact Loader.traverseRest_meetings forest "" forest

end Karabiner
