import Karabiner.ReloadUsable

set_option autoImplicit false

/- The identifier map and the vector that reload leaves are those of a run of its loaders. -/
namespace Karabiner

namespace Compiler

open Throwing

/-- What stands between start and end when nothing but pushing is done there. -/
def Within (outside : Loader.Outside) (index : UInt32) : Kind := fun vector identifierMap =>
  identifierMap = outside.identifierMap ∧
    ∃ body, vector.Holds { completed := outside.completed, current := some (index, body) }

theorem within_pushable (outside : Loader.Outside) (index : UInt32) :
    Pushable (Within outside index) where
  pushBack := by
    rintro vector _ ⟨same, body, holds⟩ v
    exact ⟨same, _, InitializeVector.pushBack_holds holds holds.ended v⟩
  pushString := by
    rintro vector _ ⟨same, body, holds⟩ string
    exact ⟨same, _, InitializeVector.pushString_holds holds holds.ended string⟩

/-- What only pushes is the body of an entry. -/
theorem body_keeps {action : Load PUnit}
    (own : ∀ kind first, Pushable kind →
      action.Ensures (Kept kind first) (fun _ => Kept kind first) (Kept kind first))
    (outside : Loader.Outside) (index : UInt32) :
    action.Ensures (Loader.Started outside index) (fun _ => Loader.Inside outside index)
      (Loader.Keeping outside) := by
  apply ensures_of_state
  rintro loader ⟨identifierMap, holds⟩
  apply (own _ loader.symbolMap (within_pushable outside index)).mono
  · rintro _ rfl
    exact ⟨⟨identifierMap, [], holds⟩, fun _ _ => rfl⟩
  · exact fun _ _ kept => kept.1
  · rintro _ ⟨⟨same, body, held⟩, _⟩
    exact ⟨same, _, held⟩

/-- The body that the definition of a destructor has. -/
def Pushes.body {action : Load PUnit} (pushes : Pushes action) : Loader.Body where
  action _ := action
  keeps _ := body_keeps fun kind first pushable =>
    (pushes kind first pushable).mono (fun _ kept => kept) (fun _ _ kept => kept)
      fun _ gone => gone.elim

/-- A run from the first loader has left these. -/
def Reached (first : Loader) : Kind := fun vector identifierMap =>
  ∃ loader, Loader.Reachable first loader ∧ vector = loader.vector ∧
    identifierMap = loader.identifierMap

theorem reached_iff {first loader : Loader} :
    Reached first loader.vector loader.identifierMap ↔ Loader.Reachable first loader := by
  constructor
  · rintro ⟨last, reachable, vector, identifierMap⟩
    exact reachable.settle vector identifierMap
  · intro reachable
    exact ⟨loader, reachable, rfl, rfl⟩

/-- The loaders of reload start from here. -/
def cleared : Loader := loader {}

theorem reached_definable : Definable (Reached cleared) where
  cleared := reached_iff.2 ⟨[], .start⟩
  define := by
    intro first rawIdentifier body pushes
    have options : (Loader.define rawIdentifier body).Ensures (Kept (fun _ _ => True) first)
        (fun _ => Kept (fun _ _ => True) first) fun _ => False :=
      define_keeps (fun _ _ => True) ⟨fun _ _ => trivial, fun _ _ => trivial⟩
        (fun _ _ => trivial) (fun _ => trivial) first rawIdentifier pushes
    have reaches : (Loader.define rawIdentifier body).Ensures (Loader.Reachable cleared)
        (fun _ => Loader.Reachable cleared) fun _ => False :=
      Loader.define_reachable rawIdentifier pushes.body
    apply (reaches.both options).mono
    · rintro loader ⟨reached, options⟩
      exact ⟨reached_iff.1 reached, trivial, options⟩
    · rintro _ loader ⟨reachable, _, options⟩
      exact ⟨reached_iff.2 reachable, options⟩
    · exact fun _ gone => gone.1

end Compiler

/-- Each step of the walk is an identifier, or does not touch the vector and the map. -/
def Walk.Stepwise (walk : Walk) : Prop :=
  ∀ first, walk.action.Ensures (Loader.Reachable first) (fun _ => Loader.Reachable first)
    fun _ => False

theorem Walk.over_stepwise (forests : List (List Tree)) : (Walk.over forests).Stepwise := by
  intro first
  apply Throwing.ensures_each_keeps
  intro forest _
  exact Loader.traverseRest_reachable forest "" forest

namespace Compiler

open Throwing

theorem cleared_follows : Loader.Follows [] cleared :=
  Loader.cleared_follows rfl InitializeVector.cleared_holds

/-- The vector and the map of a run, with the vector frozen or not. -/
def Left (compiler : Compiler) : Prop :=
  ∃ history loader, Loader.Run cleared history loader ∧
    compiler.identifierMap = loader.identifierMap ∧
    (compiler.vector = loader.vector ∨ loader.vector.freeze = .ok compiler.vector)

theorem reached_last {walk : Walk} (stepwise : walk.Stepwise) (first : SymbolMap) :
    (loadRemapclasses walk >>= fun _ => freeze : Compile Unit).Ensures
      (fun compiler => Kept (Reached cleared) first compiler.loader)
      (fun _ compiler => Left compiler ∧ Known first)
      (fun compiler => Kept (Reached cleared) first compiler.loader ∧ ¬ Known first) := by
  apply ensures_bind _ (loadRemapclasses_ensures first walk (stepwise cleared)
    fun _ reached => reached_iff.1 reached)
  rintro _ compiler ⟨⟨last, ⟨history, run⟩, shares⟩, known⟩
  obtain ⟨completed, current, holds, _⟩ := (Loader.run_follows cleared_follows run).entries
  have freezes := freeze_ensures.{0} compiler ⟨_, shares.vector ▸ holds⟩
  rw [freeze] at freezes ⊢
  cases frozen : compiler.vector.freeze with
  | ok vector =>
      refine ⟨⟨history, last, run, shares.identifierMap, .inr ?_⟩, known⟩
      rw [← shares.vector]
      exact frozen
  | error what =>
      rw [frozen] at freezes
      exact freezes.elim

/-- What reload leaves is what a run of its loaders leaves. -/
theorem reload_left {isRegex : String → Bool} {seen : Seen} {after : Compiler}
    (stepwise : seen.remapclasses.Stepwise)
    (returned : reload isRegex seen = .returns ⟨⟩ after) : Left after := by
  have whole : (attempt (loadAll isRegex seen) setError).Ensures (· = {}) (fun _ => Left)
      fun _ => False := by
    apply ensures_attempt
    · apply (loadAll_ensures isRegex reached_definable seen (reached_last stepwise)).mono
        (fun _ start => start) (fun _ _ left => left.1) fun _ left => left.1
    · rintro what compiler ⟨loader, ⟨history, run⟩, vector, identifierMap⟩
      exact ⟨history, loader, run, identifierMap, .inl vector⟩
  exact whole.returns rfl returned

/-- The two lookups agree after reload exactly when no refused duplicate has overwritten a text
in its run. -/
theorem reload_agrees_iff {isRegex : String → Bool} {seen : Seen} {after : Compiler}
    (stepwise : seen.remapclasses.Stepwise)
    (returned : reload isRegex seen = .returns ⟨⟩ after) :
    ∃ history, (∃ last, Loader.Run cleared history last ∧
        after.identifierMap = last.identifierMap ∧
        (after.vector = last.vector ∨ last.vector.freeze = .ok after.vector)) ∧
      (Loader.Agrees history after.loader ↔ Loader.Undisturbed history) := by
  obtain ⟨history, last, run, identifierMap, vector⟩ := reload_left stepwise returned
  refine ⟨history, ⟨last, run, identifierMap, vector⟩, ?_⟩
  have same : Loader.Agrees history after.loader ↔ Loader.Agrees history last := by
    unfold Loader.Agrees Loader.getIdentifier loader
    rw [identifierMap]
  rw [same, (Loader.run_follows cleared_follows run).agrees_iff]

end Compiler

end Karabiner
