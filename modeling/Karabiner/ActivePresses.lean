import Karabiner.RemapClass
import Mathlib.Data.List.Nodup
import Mathlib.Data.List.Count
import Mathlib.Tactic.Common

set_option autoImplicit false

/- ActiveItems has one entry for each key-down that an item has accepted, but not the key
that went down. An item keeps its entry for every press as long as it accepts a key-up only
for a key whose key-down it has accepted. -/
namespace Karabiner.Remapping

variable {World : Type*}

/-- A key-down that the item has accepted and that is not released yet. -/
structure Press where
  item : ItemId
  device : Nat
  fromEvent : FromEvent
  deriving DecidableEq, Repr

structure Tracked (World : Type*) where
  state : State World
  presses : List Press

def Tracked.start (world : World) (enabled : Nat → Bool) : Tracked World where
  state :=
    { enabled, enabledRemapclasses := [], activeItems := [], world, isremapped := false
      calls := [], accepted := [] }
  presses := []

/-- Between events the world may change in any way: pass-through, filters and the
configuration of the processors are part of it. -/
inductive Step (World : Type*) where
  | event (device : Nat) (params : Params)
  | setConfig (values : List Int)
  | setConfigOne (isEssentialConfig : Bool) (index : Nat) (value : Int)
  | vkConfig (change : EnabledChange)
  | refreshTimer
  | changeWorld (world : World)

/-- A key-down adds the items that accept it, the matching key-up ends their presses. -/
def updatePresses (presses : List Press) (device : Nat) (params : Params)
    (accepted : List ItemId) : List Press :=
  match params.iskeydown with
  | none => presses
  | some true => presses ++ accepted.map (⟨·, device, .ofParams params⟩)
  | some false => presses.filter fun press =>
      !(press.device == device && press.fromEvent == .ofParams params)

section
variable (remapclasses : List (RemapClass World))

def step (tracked : Tracked World) : Step World → Tracked World
  | .event device params =>
      let state := tracked.state.remap remapclasses params
      ⟨state, updatePresses tracked.presses device params state.accepted⟩
  | .setConfig values => { tracked with state := tracked.state.setConfig remapclasses values }
  | .setConfigOne isEssentialConfig index value =>
      { tracked with
        state := tracked.state.setConfigOne remapclasses isEssentialConfig index value }
  | .vkConfig change =>
      { tracked with
        state := { tracked.state with enabled := change.apply tracked.state.enabled } }
  | .refreshTimer => { tracked with state := tracked.state.refresh remapclasses }
  | .changeWorld world => { tracked with state := { tracked.state with world } }

/-- A key-up that reaches the processor of the item, in the state in which the item is
visited, is accepted by it only as the end of the press. -/
def AcceptsOwn (passThroughEnabled : Bool) (id : ItemId) (press : Press) (presses : List Press)
    (params : Params) (state : State World) (visited : ItemId × Item World) : Prop :=
  visited.1 = id → ∀ processor ∈ visited.2.processor,
    visited.2.reachesProcessor processor visited.1 .NORMAL false passThroughEnabled state = true →
      (processor.remap state.world ⟨params, state.isremapped⟩).returns = true →
      press ∈ presses

/-- Every key-up that the item accepts belongs to a press whose key-down it has accepted. -/
def OwnReleases (id : ItemId) (tracked : Tracked World) : Step World → Prop
  | .event device params =>
      params.iskeydown = some false →
        Transition.Along
          (State.visit (tracked.state.isPassThroughEnabled remapclasses) params)
          (AcceptsOwn (tracked.state.isPassThroughEnabled remapclasses) id
            ⟨id, device, .ofParams params⟩ tracked.presses params)
          tracked.state.begin (tracked.state.visited remapclasses)
  | _ => True

instance (passThroughEnabled : Bool) (id : ItemId) (press : Press) (presses : List Press)
    (params : Params) (state : State World) (visited : ItemId × Item World) :
    Decidable (AcceptsOwn passThroughEnabled id press presses params state visited) :=
  inferInstanceAs (Decidable (visited.1 = id → ∀ processor ∈ visited.2.processor,
    visited.2.reachesProcessor processor visited.1 .NORMAL false passThroughEnabled state = true →
      (processor.remap state.world ⟨params, state.isremapped⟩).returns = true →
      press ∈ presses))

instance (id : ItemId) (tracked : Tracked World) :
    (label : Step World) → Decidable (OwnReleases remapclasses id tracked label)
  | .event device params =>
      inferInstanceAs (Decidable (params.iskeydown = some false →
        Transition.Along
          (State.visit (tracked.state.isPassThroughEnabled remapclasses) params)
          (AcceptsOwn (tracked.state.isPassThroughEnabled remapclasses) id
            ⟨id, device, .ofParams params⟩ tracked.presses params)
          tracked.state.begin (tracked.state.visited remapclasses)))
  | .setConfig _ | .setConfigOne _ _ _ | .vkConfig _ | .refreshTimer | .changeWorld _ =>
      isTrue trivial

end

def State.entries (state : State World) (id : ItemId) : Nat :=
  state.activeItems.count (id, .NORMAL)

def pressesOf (id : ItemId) (presses : List Press) : Nat :=
  presses.countP (·.item = id)

theorem mem_itemsOf {remapclasses : List (RemapClass World)} {index : Nat}
    {visited : ItemId × Item World} :
    visited ∈ itemsOf remapclasses index ↔
      ∃ remapclass ∈ remapclasses[index]?, visited.1.1 = index ∧
        remapclass.items[visited.1.2]? = some visited.2 := by
  obtain ⟨⟨a, b⟩, item⟩ := visited
  unfold itemsOf
  cases remapclasses[index]? with
  | none => simp
  | some remapclass =>
      simp only [List.mem_mapIdx, Option.mem_def, Option.some.injEq, exists_eq_left']
      constructor
      · rintro ⟨i, inside, same⟩
        obtain ⟨⟨rfl, rfl⟩, rfl⟩ : (index = a ∧ i = b) ∧
            remapclass.items[i] = item := by
          simpa using same
        exact ⟨rfl, List.getElem?_eq_getElem inside⟩
      · rintro ⟨rfl, present⟩
        obtain ⟨inside, same⟩ := List.getElem?_eq_some_iff.mp present
        exact ⟨b, inside, by rw [same]⟩

theorem itemsOf_unique {remapclasses : List (RemapClass World)} {id : ItemId}
    {item other : Item World} (first : (id, item) ∈ itemsOf remapclasses id.1) {index : Nat}
    (second : (id, other) ∈ itemsOf remapclasses index) : item = other := by
  obtain ⟨remapclass, lookup, -, present⟩ := mem_itemsOf.mp first
  obtain ⟨remapclass', lookup', same, present'⟩ := mem_itemsOf.mp second
  dsimp only at same present present'
  subst same
  obtain rfl := Option.some.inj (lookup.symm.trans lookup')
  exact Option.some.inj (present.symm.trans present')

theorem itemsOf_nodup (remapclasses : List (RemapClass World)) (index : Nat) :
    ((itemsOf remapclasses index).map Prod.fst).Nodup := by
  unfold itemsOf
  cases remapclasses[index]? with
  | none => exact List.nodup_nil
  | some remapclass =>
      have ids : (remapclass.items.mapIdx fun i item => ((index, i), item)).map Prod.fst =
          (List.range remapclass.items.length).map (Prod.mk index) := by
        apply List.ext_getElem
        · simp
        · intro i first second
          simp
      rw [ids]
      exact List.nodup_range.map (fun i j same => (Prod.mk.inj same).2)

theorem visited_nodup (remapclasses : List (RemapClass World)) {state : State World}
    (nodup : state.enabledRemapclasses.Nodup) :
    ((state.visited remapclasses).map Prod.fst).Nodup := by
  rw [State.visited, List.map_flatMap, List.nodup_flatMap]
  refine ⟨fun index _ => itemsOf_nodup remapclasses index, ?_⟩
  refine nodup.imp fun {first second} different => ?_
  intro id inFirst inSecond
  obtain ⟨visited, here, rfl⟩ := List.mem_map.mp inFirst
  obtain ⟨other, there, same⟩ := List.mem_map.mp inSecond
  obtain ⟨-, -, firstIndex, -⟩ := mem_itemsOf.mp here
  obtain ⟨-, -, secondIndex, -⟩ := mem_itemsOf.mp there
  exact different (firstIndex.symm.trans ((congrArg Prod.fst same).symm.trans secondIndex))

/-- What one visit does, as far as an item is concerned: for another item nothing, and for
the item itself what its processor answers. -/
theorem visit_cases (passThroughEnabled : Bool) (params : Params) (state : State World)
    (visited : ItemId × Item World) :
    state.visit passThroughEnabled params visited = state ∨
      ∃ processor ∈ visited.2.processor,
        visited.2.reachesProcessor processor visited.1 .NORMAL (params.iskeydown.getD true)
            passThroughEnabled state = true ∧
          state.visit passThroughEnabled params visited =
            Item.callRemap processor visited.1 params state := by
  unfold State.visit Item.remap
  cases visited.2.processor with
  | none => exact .inl rfl
  | some processor =>
      cases reaches : visited.2.reachesProcessor processor visited.1 .NORMAL
          (params.iskeydown.getD true) passThroughEnabled state with
      | false => exact .inl (by simp [reaches])
      | true => exact .inr ⟨processor, rfl, reaches, by simp [reaches]⟩

section
variable (processor : RemapFuncBase World) (id : ItemId) (params : Params) (state : State World)

def returns : Bool := (processor.remap state.world ⟨params, state.isremapped⟩).returns

theorem callRemap_calls :
    (Item.callRemap processor id params state).calls = state.calls ++ [id] := by
  unfold Item.callRemap
  dsimp only
  split <;> rfl

theorem callRemap_accepted :
    (Item.callRemap processor id params state).accepted =
      if returns processor params state then state.accepted ++ [id] else state.accepted := by
  unfold Item.callRemap returns
  dsimp only
  cases (processor.remap state.world ⟨params, state.isremapped⟩).returns <;> rfl

theorem callRemap_activeItems :
    (Item.callRemap processor id params state).activeItems =
      if returns processor params state then
        match params.iskeydown with
        | none => state.activeItems
        | some iskeydown => Item.updateActiveItems id .NORMAL iskeydown state.activeItems
      else state.activeItems := by
  unfold Item.callRemap returns
  dsimp only
  cases (processor.remap state.world ⟨params, state.isremapped⟩).returns <;> rfl

end

/-- Entries against accepted events, between two states of one event. -/
def Balanced (iskeydown : Option Bool) (id : ItemId) (state next : State World) : Prop :=
  match iskeydown with
  | none => next.entries id = state.entries id
  | some true =>
      next.entries id + state.accepted.count id = state.entries id + next.accepted.count id
  | some false =>
      state.entries id + state.accepted.count id ≤ next.entries id + next.accepted.count id

theorem Balanced.refl (iskeydown : Option Bool) (id : ItemId) (state : State World) :
    Balanced iskeydown id state state := by
  cases iskeydown with
  | none => rfl
  | some isDown => cases isDown <;> simp [Balanced]

theorem Balanced.trans {iskeydown : Option Bool} {id : ItemId} {first second third : State World}
    (here : Balanced iskeydown id first second) (there : Balanced iskeydown id second third) :
    Balanced iskeydown id first third := by
  cases iskeydown with
  | none => exact Eq.trans there here
  | some isDown =>
      cases isDown with
      | true =>
          simp only [Balanced] at here there ⊢
          omega
      | false =>
          simp only [Balanced] at here there ⊢
          omega

theorem callRemap_balanced (processor : RemapFuncBase World) (id other : ItemId)
    (params : Params) (state : State World) :
    Balanced params.iskeydown id state (Item.callRemap processor other params state) := by
  have accepted := callRemap_accepted processor other params state
  have active := callRemap_activeItems processor other params state
  generalize Item.callRemap processor other params state = next at accepted active
  cases answer : returns processor params state with
  | false =>
      simp only [answer, Bool.false_eq_true, if_false] at accepted active
      have same : next.entries id = state.entries id := by rw [State.entries, active, State.entries]
      cases params.iskeydown with
      | none => exact same
      | some isDown => cases isDown <;> simp [Balanced, accepted, same]
  | true =>
      simp only [answer, if_true] at accepted active
      have one : next.accepted.count id =
          state.accepted.count id + if other = id then 1 else 0 := by
        rw [accepted, List.count_append, List.count_singleton]
        simp only [beq_iff_eq]
      cases known : params.iskeydown with
      | none =>
          simp only [known] at active
          simp only [Balanced, State.entries, active]
      | some isDown =>
          simp only [known] at active
          cases isDown with
          | true =>
              have added : next.entries id = state.entries id + if other = id then 1 else 0 := by
                rw [State.entries, active, Item.updateActiveItems, if_pos rfl, List.count_append,
                  List.count_singleton]
                by_cases same : other = id <;> simp [same, State.entries]
              simp only [Balanced]
              omega
          | false =>
              have erased : state.entries id ≤ next.entries id + if other = id then 1 else 0 := by
                rw [State.entries, State.entries, active, Item.updateActiveItems,
                  if_neg Bool.false_ne_true, List.count_erase]
                by_cases same : other = id
                · simp only [same, BEq.rfl, if_true]
                  omega
                · simp [same]
              simp only [Balanced]
              omega

theorem visit_balanced (passThroughEnabled : Bool) (id : ItemId) (params : Params)
    (state : State World) (visited : ItemId × Item World) :
    Balanced params.iskeydown id state (state.visit passThroughEnabled params visited) := by
  rcases visit_cases passThroughEnabled params state visited with
    same | ⟨processor, -, -, called⟩
  · rw [same]
    exact .refl _ id state
  · rw [called]
    exact callRemap_balanced processor id visited.1 params state

theorem run_balanced (passThroughEnabled : Bool) (id : ItemId) (params : Params)
    (state : State World) (visits : List (ItemId × Item World)) :
    Balanced params.iskeydown id state
      (Transition.run (State.visit passThroughEnabled params) state visits) := by
  induction visits generalizing state with
  | nil => exact .refl _ id state
  | cons visited visits ih =>
      exact (visit_balanced passThroughEnabled id params state visited).trans (ih _)

/-- An item accepts an event at most as often as it is visited, and it has a processor then. -/
theorem run_accepted (passThroughEnabled : Bool) (id : ItemId) (params : Params)
    (state : State World) (visits : List (ItemId × Item World)) :
    (Transition.run (State.visit passThroughEnabled params) state visits).accepted.count id ≤
        state.accepted.count id + (visits.map Prod.fst).count id ∧
      (id ∈ (Transition.run (State.visit passThroughEnabled params) state visits).accepted →
        id ∈ state.accepted ∨
          ∃ item, (id, item) ∈ visits ∧ item.processor.isSome) := by
  induction visits generalizing state with
  | nil => simp
  | cons visited visits ih =>
      obtain ⟨bound, origin⟩ := ih (state.visit passThroughEnabled params visited)
      rw [Transition.run_cons, List.map_cons, List.count_cons]
      rcases visit_cases passThroughEnabled params state visited with
        same | ⟨processor, isProcessor, -, called⟩
      · rw [same] at bound origin ⊢
        refine ⟨by omega, fun member => (origin member).imp_right ?_⟩
        rintro ⟨item, later, present⟩
        exact ⟨item, by simp [later], present⟩
      · have accepted := callRemap_accepted processor visited.1 params state
        rw [← called] at accepted
        have counted : (state.visit passThroughEnabled params visited).accepted.count id ≤
            state.accepted.count id + if visited.1 == id then 1 else 0 := by
          rw [accepted]
          split
          · exact Nat.le_of_eq (by rw [List.count_append, List.count_singleton])
          · omega
        refine ⟨by omega, fun member => ?_⟩
        rcases origin member with before | ⟨item, later, present⟩
        · rw [accepted] at before
          split at before
          · rcases List.mem_append.mp before with old | new
            · exact .inl old
            · obtain rfl := List.mem_singleton.mp new
              exact .inr ⟨visited.2,
                by simp, Option.isSome_iff_exists.mpr ⟨processor, isProcessor⟩⟩
          · exact .inl before
        · exact .inr ⟨item, by simp [later], present⟩

theorem run_own {passThroughEnabled : Bool} {id : ItemId} {press : Press}
    {presses : List Press} {params : Params} {state : State World}
    {visits : List (ItemId × Item World)} (up : params.iskeydown = some false)
    (own : Transition.Along (State.visit passThroughEnabled params)
      (AcceptsOwn passThroughEnabled id press presses params) state visits)
    (member : id ∈ (Transition.run (State.visit passThroughEnabled params) state
      visits).accepted) : id ∈ state.accepted ∨ press ∈ presses := by
  induction visits generalizing state with
  | nil => exact .inl member
  | cons visited visits ih =>
      obtain ⟨here, later⟩ := own
      rcases ih later member with before | present
      · rcases visit_cases passThroughEnabled params state visited with
          same | ⟨processor, isProcessor, reaches, called⟩
        · exact .inl (same ▸ before)
        · rw [called, callRemap_accepted] at before
          split at before
          · next answer =>
              rcases List.mem_append.mp before with old | new
              · exact .inl old
              · have self : visited.1 = id := (List.mem_singleton.mp new).symm
                rw [up] at reaches
                exact .inr (here self processor isProcessor reaches answer)
          · exact .inl before
      · exact .inr present

theorem run_calls_of_mem {passThroughEnabled : Bool} {id : ItemId} {params : Params}
    {state : State World} (member : id ∈ state.calls) (visits : List (ItemId × Item World)) :
    id ∈ (Transition.run (State.visit passThroughEnabled params) state visits).calls := by
  induction visits generalizing state with
  | nil => exact member
  | cons visited visits ih =>
      apply ih
      rcases visit_cases passThroughEnabled params state visited with
        same | ⟨processor, -, -, called⟩
      · rw [same]
        exact member
      · rw [called, callRemap_calls]
        exact List.mem_append_left _ member

theorem visit_entries_of_ne (passThroughEnabled : Bool) {id : ItemId} (params : Params)
    (state : State World) {visited : ItemId × Item World} (other : visited.1 ≠ id) :
    (state.visit passThroughEnabled params visited).entries id = state.entries id := by
  rcases visit_cases passThroughEnabled params state visited with
    same | ⟨processor, -, -, called⟩
  · rw [same]
  · have ne : ((id, .NORMAL) : ItemId × ActiveItems.Type) ≠ (visited.1, .NORMAL) :=
      fun equal => other (Prod.mk.inj equal).1.symm
    rw [called, State.entries, callRemap_activeItems, State.entries]
    split
    · cases params.iskeydown with
      | none => rfl
      | some iskeydown =>
          cases iskeydown with
          | true => simp [Item.updateActiveItems, List.count_append, other]
          | false => simp [Item.updateActiveItems, List.count_erase_of_ne ne]
    · rfl

/-- A key-up reaches the processor of an item that has an entry and no device filter. -/
theorem run_reaches {passThroughEnabled : Bool} {id : ItemId} {item : Item World}
    {params : Params} (up : params.iskeydown = some false)
    (unfiltered : ∀ filter ∈ item.filters, filter.isDeviceFilter = false)
    (present : item.processor.isSome) {state : State World} (entry : 0 < state.entries id)
    {visits : List (ItemId × Item World)}
    (only : ∀ other, (id, other) ∈ visits → other = item)
    (member : (id, item) ∈ visits) :
    id ∈ (Transition.run (State.visit passThroughEnabled params) state visits).calls := by
  induction visits generalizing state with
  | nil => simp at member
  | cons visited visits ih =>
      rw [Transition.run_cons]
      by_cases self : visited.1 = id
      · have same : visited = (id, item) := by
          rw [← self, ← only visited.2 (by simp [← self])]
        obtain ⟨processor, isProcessor⟩ := Option.isSome_iff_exists.mp present
        have found : (id, .NORMAL) ∈ state.activeItems := List.count_pos_iff.mp entry
        have unblocked : item.isblockedKeyup state.world = false := by
          rw [Item.isblockedKeyup, List.any_eq_false]
          intro filter inside
          simp [RemapFilterBase.isblockedKeyup, unfiltered filter inside]
        have reached : state.visit passThroughEnabled params visited =
            Item.callRemap processor id params state := by
          simp [same, State.visit, Item.remap, isProcessor, Item.reachesProcessor, up,
            found, unblocked]
        apply run_calls_of_mem
        rw [reached, callRemap_calls]
        simp
      · have later : (id, item) ∈ visits := by
          rcases List.mem_cons.mp member with same | later
          · exact absurd (congrArg Prod.fst same).symm self
          · exact later
        apply ih _ (fun other inside => only other (by simp [inside])) later
        rw [visit_entries_of_ne passThroughEnabled params state self]
        exact entry

/-- Every press of the item has an entry, and the item can still be reached. -/
structure Covered (remapclasses : List (RemapClass World)) (id : ItemId)
    (tracked : Tracked World) : Prop where
  nodup : tracked.state.enabledRemapclasses.Nodup
  entries : pressesOf id tracked.presses ≤ tracked.state.entries id
  reachable : 0 < pressesOf id tracked.presses →
    id.1 ∈ tracked.state.enabledRemapclasses ∧
      ∃ item, (id, item) ∈ itemsOf remapclasses id.1 ∧ item.processor.isSome

theorem start_covered (remapclasses : List (RemapClass World)) (id : ItemId) (world : World)
    (enabled : Nat → Bool) : Covered remapclasses id (.start world enabled) where
  nodup := List.nodup_nil
  entries := Nat.le_refl _
  reachable positive := by simp [Tracked.start, pressesOf] at positive

theorem pressesOf_accepted (id : ItemId) (presses : List Press) (device : Nat)
    (fromEvent : FromEvent) (accepted : List ItemId) :
    pressesOf id (presses ++ accepted.map (⟨·, device, fromEvent⟩)) =
      pressesOf id presses + accepted.count id := by
  rw [pressesOf, List.countP_append, List.countP_map]
  simp [pressesOf, List.count, Function.comp_def, beq_eq_decide]

theorem pressesOf_filter_le (id : ItemId) (presses : List Press) (keep : Press → Bool) :
    pressesOf id (presses.filter keep) ≤ pressesOf id presses := by
  rw [pressesOf, pressesOf]
  exact List.filter_sublist.countP_le

theorem pressesOf_filter_lt {id : ItemId} {presses : List Press} {keep : Press → Bool}
    {press : Press} (member : press ∈ presses) (own : press.item = id)
    (released : keep press = false) :
    pressesOf id (presses.filter keep) < pressesOf id presses := by
  have parts := List.countP_eq_countP_filter_add presses
    (fun press : Press => decide (press.item = id)) keep
  have dropped : 0 < (presses.filter fun press => !keep press).countP
      (fun press => decide (press.item = id)) := by
    rw [List.countP_pos_iff]
    exact ⟨press, List.mem_filter.mpr ⟨member, by simp [released]⟩, by simp [own]⟩
  rw [pressesOf, pressesOf]
  omega

theorem run_enabledRemapclasses (passThroughEnabled : Bool) (params : Params)
    (state : State World) (visits : List (ItemId × Item World)) :
    (Transition.run (State.visit passThroughEnabled params) state visits).enabledRemapclasses =
      state.enabledRemapclasses := by
  apply Transition.invariant_of_step
    (fun next : State World => next.enabledRemapclasses = state.enabledRemapclasses) _ visits rfl
  intro next visited kept
  rcases visit_cases passThroughEnabled params next visited with
    same | ⟨processor, -, -, called⟩
  · rw [same, kept]
  · rw [called, ← kept]
    unfold Item.callRemap
    dsimp only
    split <;> rfl

theorem remap_enabledRemapclasses (remapclasses : List (RemapClass World)) (state : State World)
    (params : Params) :
    (state.remap remapclasses params).enabledRemapclasses = state.enabledRemapclasses :=
  run_enabledRemapclasses _ params state.begin _

/-- An item that accepts an event is one of an enabled class. -/
theorem remap_accepted {remapclasses : List (RemapClass World)} {state : State World}
    {params : Params} {id : ItemId} (member : id ∈ (state.remap remapclasses params).accepted) :
    id.1 ∈ state.enabledRemapclasses ∧
      ∃ item, (id, item) ∈ itemsOf remapclasses id.1 ∧ item.processor.isSome := by
  have origin := (run_accepted (state.isPassThroughEnabled remapclasses) id params state.begin
    (state.visited remapclasses)).2 member
  rcases origin with old | ⟨item, visited, present⟩
  · simp [State.begin] at old
  · obtain ⟨index, enabled, inside⟩ := List.mem_flatMap.mp visited
    obtain ⟨-, -, same, -⟩ := mem_itemsOf.mp inside
    dsimp only at same
    subst same
    exact ⟨enabled, item, inside, present⟩

theorem event_covered {remapclasses : List (RemapClass World)} {id : ItemId}
    {tracked : Tracked World} (covered : Covered remapclasses id tracked) {device : Nat}
    {params : Params} (own : OwnReleases remapclasses id tracked (.event device params)) :
    Covered remapclasses id (step remapclasses tracked (.event device params)) := by
  obtain ⟨nodup, entries, reachable⟩ := covered
  have balanced := run_balanced (tracked.state.isPassThroughEnabled remapclasses) id params
    tracked.state.begin (tracked.state.visited remapclasses)
  have bound := (run_accepted (tracked.state.isPassThroughEnabled remapclasses) id params
    tracked.state.begin (tracked.state.visited remapclasses)).1
  have once := List.nodup_iff_count_le_one.mp (visited_nodup remapclasses nodup) id
  have fresh : tracked.state.begin.accepted.count id = 0 := rfl
  have before : tracked.state.begin.entries id = tracked.state.entries id := rfl
  have kept := remap_enabledRemapclasses remapclasses tracked.state params
  have origin := @remap_accepted _ remapclasses tracked.state params id
  change Balanced _ id _ (tracked.state.remap remapclasses params) at balanced
  change (tracked.state.remap remapclasses params).accepted.count id ≤ _ at bound
  unfold step
  dsimp only
  cases known : params.iskeydown with
  | none =>
      simp only [known, Balanced] at balanced
      refine ⟨kept ▸ nodup, ?_, ?_⟩
      · simp only [updatePresses, known]
        omega
      · simp only [updatePresses, known, kept]
        exact reachable
  | some isDown =>
      cases isDown with
      | true =>
          simp only [known, Balanced] at balanced
          have added := pressesOf_accepted id tracked.presses device (.ofParams params)
            (tracked.state.remap remapclasses params).accepted
          refine ⟨kept ▸ nodup, ?_, ?_⟩
          · simp only [updatePresses, known]
            omega
          · simp only [updatePresses, known, kept, added]
            intro positive
            by_cases old : 0 < pressesOf id tracked.presses
            · exact reachable old
            · exact origin (List.count_pos_iff.mp (by omega))
      | false =>
          simp only [known, Balanced] at balanced
          have fewer := pressesOf_filter_le id tracked.presses fun press =>
            !(press.device == device && press.fromEvent == .ofParams params)
          refine ⟨kept ▸ nodup, ?_, ?_⟩
          · simp only [updatePresses, known]
            by_cases accepts : id ∈ (tracked.state.remap remapclasses params).accepted
            · rcases run_own known (own known) accepts with old | member
              · simp [State.begin] at old
              · have ended : pressesOf id (tracked.presses.filter fun press =>
                    !(press.device == device && press.fromEvent == .ofParams params)) <
                      pressesOf id tracked.presses :=
                  pressesOf_filter_lt member rfl (by simp)
                omega
            · have none := List.count_eq_zero_of_not_mem accepts
              omega
          · simp only [updatePresses, known, kept]
            exact fun positive => reachable (by omega)

theorem refresh_covered {remapclasses : List (RemapClass World)} {id : ItemId}
    {tracked : Tracked World} (covered : Covered remapclasses id tracked) :
    Covered remapclasses id (step remapclasses tracked .refreshTimer) := by
  refine ⟨List.nodup_range.filter _, covered.entries, fun positive => ?_⟩
  obtain ⟨-, item, inside, present⟩ := covered.reachable positive
  refine ⟨?_, item, inside, present⟩
  have entry : 0 < tracked.state.entries id := Nat.lt_of_lt_of_le positive covered.entries
  have active : tracked.state.activeItems.contains (id, .NORMAL) = true := by
    rw [List.contains_iff_mem]
    exact List.count_pos_iff.mp entry
  obtain ⟨remapclass, lookup, -, -⟩ := mem_itemsOf.mp inside
  have size : id.1 < remapclasses.length := (List.getElem?_eq_some_iff.mp lookup).1
  have hasActive : tracked.state.hasActiveItem remapclasses id.1 = true := by
    rw [State.hasActiveItem, List.any_eq_true]
    exact ⟨(id, item), inside, by simp only [active, Bool.true_or]⟩
  exact List.mem_filter.mpr ⟨List.mem_range.mpr size, by simp [hasActive]⟩

theorem step_covered {remapclasses : List (RemapClass World)} {id : ItemId}
    {tracked : Tracked World} {label : Step World} (own : OwnReleases remapclasses id tracked label)
    (covered : Covered remapclasses id tracked) :
    Covered remapclasses id (step remapclasses tracked label) := by
  cases label with
  | event device params => exact event_covered covered own
  | refreshTimer => exact refresh_covered covered
  | setConfig values =>
      unfold step State.setConfig
      dsimp only
      split
      · exact covered
      · exact ⟨covered.nodup, covered.entries, covered.reachable⟩
  | setConfigOne isEssentialConfig index value =>
      unfold step State.setConfigOne
      dsimp only
      split_ifs
      · exact covered
      · exact covered
      · exact ⟨covered.nodup, covered.entries, covered.reachable⟩
  | vkConfig change => exact ⟨covered.nodup, covered.entries, covered.reachable⟩
  | changeWorld world => exact ⟨covered.nodup, covered.entries, covered.reachable⟩

/-- As long as an item accepts only the key-ups of its own presses among those that reach
its processor, its class stays enabled during a press and the matching key-up gets there. -/
theorem press_reaches_processor (remapclasses : List (RemapClass World)) (id : ItemId)
    (item : Item World) (inside : (id, item) ∈ itemsOf remapclasses id.1)
    (unfiltered : ∀ filter ∈ item.filters, filter.isDeviceFilter = false) (world : World)
    (enabled : Nat → Bool) (steps : List (Step World))
    (own : Transition.Along (step remapclasses) (OwnReleases remapclasses id)
      (.start world enabled) steps) :
    let tracked := Transition.run (step remapclasses) (.start world enabled) steps
    ∀ press ∈ tracked.presses, press.item = id →
      id.1 ∈ tracked.state.enabledRemapclasses ∧
        ∀ params, params.iskeydown = some false →
          FromEvent.ofParams params = press.fromEvent →
          id ∈ (tracked.state.remap remapclasses params).calls := by
  intro tracked press member ofItem
  have covered : Covered remapclasses id tracked :=
    Transition.invariant_of_along (Covered remapclasses id)
      (fun _ _ own covered => step_covered own covered) (start_covered _ _ _ _) own
  have positive : 0 < pressesOf id tracked.presses :=
    List.countP_pos_iff.mpr ⟨press, member, by simp [ofItem]⟩
  obtain ⟨listed, other, found, present⟩ := covered.reachable positive
  obtain rfl := itemsOf_unique inside found
  refine ⟨listed, fun params up _ => ?_⟩
  have entry : 0 < tracked.state.begin.entries id := Nat.lt_of_lt_of_le positive covered.entries
  refine run_reaches up unfiltered present entry ?_
    (List.mem_flatMap.mpr ⟨id.1, listed, inside⟩)
  intro other visited
  obtain ⟨index, -, there⟩ := List.mem_flatMap.mp visited
  exact (itemsOf_unique inside there).symm

/-- CancelEventOutputQueueItemsHelper with the current serial number of EventInputQueue. -/
structure HelperState where
  currentSerialNumber : Nat
  targetSerialNumbers : List Nat
  deriving DecidableEq, Repr

/-- Zero marks a free place. -/
def registerSerialNumber (state : HelperState) : HelperState :=
  let sn := state.currentSerialNumber
  if sn ∈ state.targetSerialNumbers then state
  else
    let kept := state.targetSerialNumbers.map fun target =>
      if target ≠ 0 ∧ target + 10 < sn then 0 else target
    { state with targetSerialNumbers := if 0 ∈ kept then kept.replace 0 sn else kept ++ [sn] }

/-- DropKeyAfterRemap::remap accepts every event. -/
def dropKeyAfterRemap : RemapFuncBase HelperState where
  type := 23
  remap state remapParams := ⟨true, registerSerialNumber state, remapParams.isremapped, []⟩

def dropKey : RemapClass HelperState where
  items := [⟨some dropKeyAfterRemap, []⟩]

def keyParams (key : KeyCode) (isDown : Bool) : Params :=
  .keyboard ⟨if isDown then .DOWN else .UP, ⟨0⟩, key, ⟨40⟩, false, isDown⟩

/-- B is down already when the item is enabled, so its key-up does not get to the processor. -/
theorem press_reaches_processor_disabled :
    let steps := [.event 1 (keyParams ⟨0xb⟩ true), .setConfig [1], .refreshTimer,
      .event 1 (keyParams ⟨0xb⟩ false), .event 1 (keyParams ⟨0x0⟩ true),
      .event 1 (keyParams ⟨0x0⟩ false), .event 1 (keyParams ⟨0xb⟩ true), .setConfig [0],
      .refreshTimer]
    let tracked := Transition.run (step [dropKey]) (.start ⟨1, []⟩ fun _ => false) steps
    0 ∈ tracked.state.enabledRemapclasses ∧
      ∀ params, params.iskeydown = some false → FromEvent.ofParams params = .KEY ⟨0xb⟩ →
        (0, 0) ∈ (tracked.state.remap [dropKey] params).calls :=
  press_reaches_processor [dropKey] (0, 0) ⟨some dropKeyAfterRemap, []⟩
  (by simp [itemsOf, dropKey])
    (by simp) ⟨1, []⟩ (fun _ => false) _ (by decide) ⟨(0, 0), 1, .KEY ⟨0xb⟩⟩
    (by decide) rfl

/-- B goes down before the item is enabled, A after. The item takes B's key-up for the
key-up of its only entry, and A's key-up does not reach it any more. -/
theorem other_release_takes_entry :
    ¬∀ (remapclasses : List (RemapClass HelperState)) (id : ItemId) (item : Item HelperState),
      (id, item) ∈ itemsOf remapclasses id.1 →
      (∀ filter ∈ item.filters, filter.isDeviceFilter = false) →
      ∀ (world : HelperState) (enabled : Nat → Bool) (steps : List (Step HelperState)),
        let tracked := Transition.run (step remapclasses) (.start world enabled) steps
        ∀ press ∈ tracked.presses, press.item = id →
          id.1 ∈ tracked.state.enabledRemapclasses ∧
            ∀ params, params.iskeydown = some false →
              FromEvent.ofParams params = press.fromEvent →
                id ∈ (tracked.state.remap remapclasses params).calls := by
  intro claim
  have called :=
    claim [dropKey] (0, 0) ⟨some dropKeyAfterRemap, []⟩ (by simp [itemsOf, dropKey])
    (by simp) ⟨1, []⟩ (fun _ => false)
    [.event 1 (keyParams ⟨0xb⟩ true), .setConfig [1], .refreshTimer,
      .event 1 (keyParams ⟨0x0⟩ true), .event 1 (keyParams ⟨0xb⟩ false)]
    ⟨(0, 0), 1, .KEY ⟨0x0⟩⟩ (by decide) rfl
  have reached := called.2 (keyParams ⟨0x0⟩ false) rfl rfl
  exact absurd reached (by decide)

end Karabiner.Remapping
