import Karabiner.DropAllKeysPass

set_option autoImplicit false

/- DropAllKeys drops whole presses in every run in which no press overtakes an earlier one of
its key in the queue. -/
namespace Karabiner.DropAllKeys

open EventOutputQueue (Event Item)

variable {pairs : Pairs} {key : FromEvent}

/-- What holds before each step of a run. -/
structure Consistent (pairs : Pairs) (state : State) : Prop where
  ready : state.this.doCancel_ = true → state.this.fromModifierFlags_ ≠ []
  offered : ∀ queued ∈ state.queue_,
    state.this.autogenId_ ≤ queued.item.autogenId ∧ queued.item.canceled = false
  distinct : (places (state.canceled ++ state.sent ++ state.queue_)).Nodup
  below : ∀ place ∈ places (state.canceled ++ state.sent ++ state.queue_), place < state.count
  keys : ∀ key, ∃ before, Follows pairs key before state.queue_ (state.held key) ∧
    Agrees state.this key (· ∈ places state.canceled) before ∧
    ∀ place ∈ before, place ∈ places (state.canceled ++ state.sent)
  canceled : ∀ queued ∈ state.canceled, ∀ key phase,
    queued.keyEvent pairs = some (key, phase) → phase ≠ .down →
      queued.press ∈ places state.canceled
  sent : ∀ queued ∈ state.sent, ∀ key phase,
    queued.keyEvent pairs = some (key, phase) → phase ≠ .down →
    queued.press ∈ places state.sent

namespace Consistent

variable {state : State} (consistent : Consistent pairs state)
include consistent

theorem apart {place : Nat} (left : place ∈ places (state.canceled ++ state.sent)) :
    place ∉ places state.queue_ := by
  have distinct := consistent.distinct
  rw [places, List.map_append] at distinct
  exact fun inside => (List.nodup_append.mp distinct).2.2 place left place inside rfl

theorem notBoth {place : Nat} (canceled : place ∈ places state.canceled) :
    place ∉ places state.sent := by
  have distinct := consistent.distinct
  rw [places, List.map_append, List.map_append] at distinct
  exact fun inside =>
    (List.nodup_append.mp (List.nodup_append.mp distinct).1).2.2 place canceled place inside rfl

theorem wholePresses : WholePresses pairs state := by
  intro queued member key phase known notDown
  constructor
  · intro canceled
    exact List.mem_map.mp (consistent.canceled queued canceled key phase known notDown)
  · rintro ⟨down, inside, equal⟩
    rcases List.mem_append.mp member with canceled | sent
    · exact canceled
    · have among : queued.press ∈ places state.canceled :=
        List.mem_map.mpr ⟨down, inside, equal⟩
      exact absurd (consistent.sent queued sent key phase known notDown) (consistent.notBoth among)

end Consistent

theorem fireTimer_eq (guards : Guards) (state : State) :
    fireTimer pairs guards state =
      let passed := offerAll pairs guards state.this state.queue_
      let kept := passed.2.filter (!·.item.canceled)
      { state with
        this := passed.1
        queue_ := kept.tail
        canceled := state.canceled ++ passed.2.filter (·.item.canceled)
        sent := state.sent ++ kept.head?.toList } := by
  unfold fireTimer
  cases kept : (offerAll pairs guards state.this state.queue_).2.filter (!·.item.canceled) with
  | nil => simp [kept]
  | cons front rest => simp [kept]

/-- The places that are gone behind a pass. -/
abbrev Goes (pairs : Pairs) (guards : Guards) (state : State) (place : Nat) : Prop :=
  place ∈ places state.canceled ∨
    place ∈ canceledPlaces (offerAll pairs guards state.this state.queue_).2

theorem mem_places_canceled {guards : Guards} {state : State} {place : Nat} :
    place ∈ places (state.canceled ++
        (offerAll pairs guards state.this state.queue_).2.filter (·.item.canceled)) ↔
      Goes pairs guards state place := by
  rw [places, List.map_append, List.mem_append]
  rfl

section
variable {this : DropAllKeys} {queue : List Queued} {guards : Guards} (all : guards.OffersAll)
  (offered : Offered this queue) {queued : Queued}
  (member : queued ∈ (offerAll pairs guards this queue).2)
include all offered member

theorem down_canceled (known : queued.keyEvent pairs = some (key, .down)) :
    queued.item.canceled = true ↔ this.Drops key ∧ this.modifierMatched_ = true := by
  obtain ⟨original, -, dropped_, rfl⟩ := mem_offerAll all offered member
  have originalKnown : original.keyEvent pairs = some (key, .down) := known
  rw [Queued.mark_canceled, ruling_down originalKnown, drops_dropped]

theorem canceled_drops {phase : Phase} (known : queued.keyEvent pairs = some (key, phase))
    (canceled : queued.item.canceled = true) : this.Drops key := by
  obtain ⟨original, -, dropped_, rfl⟩ := mem_offerAll all offered member
  have originalKnown : original.keyEvent pairs = some (key, phase) := known
  exact (drops_dropped _).mp (ruling_drops originalKnown canceled)

theorem other_canceled (other : queued.keyEvent pairs = none) :
    queued.item.canceled = this.dropsButtons queued.item.event := by
  obtain ⟨original, -, dropped_, rfl⟩ := mem_offerAll all offered member
  have originalOther : original.keyEvent pairs = none := other
  rw [Queued.mark_canceled, ruling_other originalOther]
  unfold dropsButtons
  rfl

end

/-- Under modifierMatched_ a press goes with its down. -/
theorem down_gone {this : DropAllKeys} {queue : List Queued} {guards : Guards}
    (all : guards.OffersAll) (offered : Offered this queue) (drops : this.Drops key)
    (matched : this.modifierMatched_ = true) {place : Nat}
    (has : HasDown pairs key (offerAll pairs guards this queue).2 place) :
    place ∈ canceledPlaces (offerAll pairs guards this queue).2 := by
  obtain ⟨down, inside, known, -, rfl⟩ := has
  have canceled := (down_canceled all offered inside known).mpr ⟨drops, matched⟩
  exact List.mem_map_of_mem (List.mem_filter.mpr ⟨inside, canceled⟩)

/-- What leaves the queue in a pass and what stays is what was in it. -/
theorem fireTimer_perm (guards : Guards) (state : State) :
    let behind := fireTimer pairs guards state
    (places (behind.canceled ++ behind.sent ++ behind.queue_)).Perm
      (places (state.canceled ++ state.sent ++ state.queue_)) := by
  rw [fireTimer_eq]
  dsimp only
  have split := List.filter_append_perm (·.item.canceled)
    (offerAll pairs guards state.this state.queue_).2
  have positions := @offerAll_positions pairs guards state.this state.queue_
  generalize (offerAll pairs guards state.this state.queue_).2 = out at split positions ⊢
  generalize out.filter (·.item.canceled) = canceled at split ⊢
  generalize out.filter (!·.item.canceled) = kept at split ⊢
  have whole : kept.head?.toList ++ kept.tail = kept := by cases kept <;> rfl
  have regroup : (canceled ++ (state.sent ++ kept)).Perm (state.sent ++ out) :=
    (List.perm_append_comm_assoc canceled state.sent kept).trans (split.append_left _)
  have gathered : (state.canceled ++ canceled ++ (state.sent ++ kept.head?.toList) ++
      kept.tail).Perm (state.canceled ++ (state.sent ++ out)) := by
    simpa only [List.append_assoc, whole] using regroup.append_left state.canceled
  have same : places (state.canceled ++ (state.sent ++ out)) =
      places (state.canceled ++ state.sent ++ state.queue_) := by
    simp only [places, List.map_append, List.append_assoc]
    rw [show out.map (·.position) = state.queue_.map (·.position) from positions]
  exact same ▸ gathered.map (·.position)

section
variable {state : State} {guards : Guards} (consistent : Consistent pairs state)
  (all : guards.OffersAll) (offered : Offered state.this state.queue_)
include consistent all offered

theorem pass_presses (key : FromEvent) :
    ∃ before, Follows pairs key before state.queue_ (state.held key) ∧
      Agrees state.this key (· ∈ places state.canceled) before ∧
      (∀ place ∈ before, place ∈ places (state.canceled ++ state.sent)) ∧
      Follows pairs key before (offerAll pairs guards state.this state.queue_).2
      (state.held key) ∧
      Agrees (offerAll pairs guards state.this state.queue_).1 key (Goes pairs guards state)
        (state.held key) ∧
      ∀ queued ∈ (offerAll pairs guards state.this state.queue_).2, ∀ phase,
        queued.keyEvent pairs = some (key, phase) →
          (queued.item.canceled = true ↔ Goes pairs guards state queued.press) := by
  obtain ⟨before, follows, agrees, decided⟩ := consistent.keys key
  have distinct : (places state.queue_).Nodup := by
    have distinct := consistent.distinct
    rw [places, List.map_append] at distinct
    exact (List.nodup_append.mp distinct).2.1
  have fresh : ∀ queued ∈ state.queue_, queued.position ∉ places state.canceled := by
    intro queued member gone
    have left : queued.position ∈ places (state.canceled ++ state.sent) := by
      rw [places, List.map_append]
      exact List.mem_append_left _ gone
    exact consistent.apart left (List.mem_map_of_mem member)
  have front : ∀ place ∈ before, place ∉ places state.queue_ :=
    fun place member => consistent.apart (decided place member)
  obtain ⟨out, agreesOut, judged⟩ :=
    offerAll_presses all offered agrees follows distinct fresh front
  exact ⟨before, follows, agrees, decided, out, agreesOut, judged⟩

/-- What a pass under modifierMatched_ keeps. -/
theorem pass_stays (matched : state.this.modifierMatched_ = true) :
    (offerAll pairs guards state.this state.queue_).2.filter (!·.item.canceled) =
      state.queue_.filter (Stays pairs state ·) := by
  apply offerAll_kept all (fun _ _ => Iff.rfl) offered
  intro queued member
  unfold Stays
  cases known : queued.keyEvent pairs with
  | none => simp [other_canceled all offered member known]
  | some keyEvent =>
      obtain ⟨key, phase⟩ := keyEvent
      obtain ⟨before, -, agrees, decided, out, -, judged⟩ :=
        pass_presses consistent all offered key
      by_cases drops : state.this.Drops key
      · have whole := out.placed.1 queued member phase known
        rw [judged queued member phase known]
        have inQueue (inside : queued.press ∈
            places (offerAll pairs guards state.this state.queue_).2) :
            queued.press ∈ places state.queue_ := offerAll_positions _ _ ▸ inside
        constructor
        · intro gone stays
          obtain ⟨absent, noDown⟩ := stays drops
          have notQueued : queued.press ∉ places state.queue_ := by
            intro inside
            obtain ⟨down, member, equal⟩ := List.mem_map.mp inside
            exact noDown down member equal
          rcases whole with current | ⟨down, inside, -, -, equal⟩
          · rcases gone with earlier | now
            · exact absent (agrees.2.mpr ⟨_, current, earlier⟩)
            · exact notQueued (inQueue (canceledPlaces_subset now))
          · exact notQueued (inQueue (equal ▸ List.mem_map_of_mem inside))
        · intro leaves
          by_contra kept
          have noDown (has : HasDown pairs key _ queued.press) : False :=
            kept (Or.inr (down_gone all offered drops matched has))
          refine leaves fun _ => ⟨fun present => ?_, fun down inside equal => ?_⟩
          · obtain ⟨place, current, gone⟩ := agrees.2.mp present
            rcases whole with also | has
            · exact kept (Or.inl (Option.mem_unique also current ▸ gone))
            · exact noDown has
          · rcases whole with current | has
            · refine consistent.apart (decided _ current) (equal ▸ ?_)
              exact List.mem_map_of_mem inside
            · exact noDown has
      · have kept : ¬queued.item.canceled = true :=
          fun canceled => drops (canceled_drops all offered member known canceled)
        simp [kept, drops]

/-- A key in progress whose press is gone has nothing left behind the front, unless it is
overtaken. -/
theorem nothing_left (clear : ¬Overtaken pairs state key) {place : Nat}
    (current : place ∈ state.held key) (gone : Goes pairs guards state place) :
    ∀ queued ∈ ((offerAll pairs guards state.this state.queue_).2.filter
      (!·.item.canceled)).tail, ∀ phase, queued.keyEvent pairs ≠ some (key, phase) := by
  intro queued member phase known
  have keptMember := List.mem_of_mem_tail member
  obtain ⟨inside, uncanceled⟩ := List.mem_filter.mp keptMember
  obtain ⟨before, follows, agrees, decided, out, -, judged⟩ :=
    pass_presses consistent all offered key
  have kept : ¬Goes pairs guards state queued.press := by
    intro goes
    simp [(judged queued inside phase known).mpr goes] at uncanceled
  have whole := out.placed.1 queued inside phase known
  by_cases inQueue : place ∈ places state.queue_
  · have hasDown : HasDown pairs key (offerAll pairs guards state.this state.queue_).2 place := by
      rcases out.placed.2 place current with earlier | has
      · exact absurd inQueue (consistent.apart (decided place earlier))
      · exact has
    have canceled : place ∈ canceledPlaces (offerAll pairs guards state.this state.queue_).2 := by
      rcases gone with earlier | now
      · refine absurd inQueue (consistent.apart ?_)
        rw [places, List.map_append]
        exact List.mem_append_left _ earlier
      · exact now
    obtain ⟨down, downInside, downKnown, press, equal⟩ := hasDown
    have downGoes : Goes pairs guards state down.press := by
      rw [press, equal]
      exact Or.inr canceled
    obtain ⟨drops, matched⟩ := (down_canceled all offered downInside downKnown).mp
      ((judged down downInside _ downKnown).mpr downGoes)
    have absent : key ∉ state.this.dropped_ := by
      intro present
      obtain ⟨first, held, firstGone⟩ := agrees.2.mp present
      rcases whole with also | has
      · exact kept (Or.inl (Option.mem_unique also held ▸ firstGone))
      · exact kept (Or.inr (down_gone all offered drops matched has))
    obtain ⟨original, originalInside, originalPlace⟩ := List.mem_map.mp inQueue
    rw [pass_stays consistent all offered matched] at member
    refine clear ⟨matched, drops, absent, ⟨original, originalInside, ?_⟩, queued,
      member, phase,
      known⟩
    rw [originalPlace]
    exact current
  · have held : state.held key = some place := current
    rw [held] at out
    rw [← offerAll_positions] at inQueue
    have press := (out.same inQueue).2 queued inside phase known
    exact kept (press ▸ gone)

/-- The queue of a key behind a pass. -/
theorem fireTimer_key (clear : ¬Overtaken pairs state key) :
    let behind := fireTimer pairs guards state
    ∃ before, Follows pairs key before behind.queue_ (behind.held key) ∧
      Agrees behind.this key (Goes pairs guards state) before ∧
      ∀ place ∈ before, place ∈ places (behind.canceled ++ behind.sent) := by
  rw [fireTimer_eq]
  obtain ⟨before, -, -, decided, out, agreesOut, judged⟩ :=
    pass_presses consistent all offered key
  by_cases goes : ∃ place ∈ state.held key, Goes pairs guards state place
  · obtain ⟨place, current, gone⟩ := goes
    have nothing := nothing_left consistent all offered clear current gone
    refine ⟨state.held key, follows_nothing nothing, agreesOut, fun other member => ?_⟩
    obtain rfl := Option.mem_unique member current
    have canceled := mem_places_canceled.mpr gone
    rw [places, List.map_append]
    exact List.mem_append_left _ canceled
  · have kept := out.kept judged
    have stays : (state.held key).filter (fun place => decide ¬Goes pairs guards state place) =
        state.held key := by
      cases held : state.held key with
      | none => rfl
      | some place => exact filter_stays fun gone => goes ⟨place, held, gone⟩
    rw [stays] at kept
    obtain ⟨next, follows, nextOf⟩ := kept.tail
    have remains : ∀ place ∈ next, ¬Goes pairs guards state place := by
      intro place member gone
      rcases nextOf place member with earlier | ⟨front, first, known, press, -⟩
      · simpa [gone] using (Option.mem_filter_iff.mp earlier).2
      · obtain ⟨inside, uncanceled⟩ := List.mem_filter.mp (List.mem_of_mem_head? first)
        simp [(judged front inside _ known).mpr (press ▸ gone)] at uncanceled
    refine ⟨next, follows, ⟨agreesOut.1, ?_⟩, fun place member => ?_⟩
    · rw [agreesOut.2]
      constructor
      · exact fun gone => absurd gone goes
      · rintro ⟨place, member, gone⟩
        exact absurd gone (remains place member)
    · rw [places, List.map_append, List.map_append, List.map_append, List.mem_append,
        List.mem_append, List.mem_append]
      rcases nextOf place member with earlier | ⟨front, first, -, -, position⟩
      · have left := decided place (Option.mem_filter_iff.mp earlier).1
        rw [places, List.map_append, List.mem_append] at left
        rcases left with canceled | sent
        · exact Or.inl (Or.inl canceled)
        · exact Or.inr (Or.inl sent)
      · refine Or.inr (Or.inr (List.mem_map.mpr ⟨front, ?_, position⟩))
        exact Option.mem_toList.mpr first

/-- The repeat or the up that a pass sends has a down that was sent. -/
theorem front_press {queued : Queued} {phase : Phase}
    (front : queued ∈ ((offerAll pairs guards state.this state.queue_).2.filter
      (!·.item.canceled)).head?)
    (known : queued.keyEvent pairs = some (key, phase)) (notDown : phase ≠ .down) :
    queued.press ∈ places state.sent := by
  obtain ⟨before, -, -, decided, out, -, judged⟩ := pass_presses consistent all offered key
  obtain ⟨inside, uncanceled⟩ := List.mem_filter.mp (List.mem_of_mem_head? front)
  have kept := out.kept judged
  obtain ⟨rest, shape⟩ := List.head?_eq_some_iff.mp front
  rw [shape] at kept
  have first : before.filter (fun place => decide ¬Goes pairs guards state place) =
      some queued.press := by
    rcases kept.cases with
      ⟨other, -⟩ | ⟨down, -⟩ | ⟨-, current, -⟩ | ⟨-, current, -⟩
    · exact absurd known (other phase)
    · have equal := Option.some.inj (down.symm.trans known)
      exact absurd (congrArg (·.2) equal).symm notDown
    · exact current
    · exact current
  obtain ⟨current, remains⟩ := Option.mem_filter_iff.mp first
  have left := decided _ current
  rw [places, List.map_append, List.mem_append] at left
  rcases left with canceled | sent
  · simp [Goes, canceled] at remains
  · exact sent

theorem fireTimer_consistent (clear : ∀ key, ¬Overtaken pairs state key) :
    Consistent pairs (fireTimer pairs guards state) := by
  have perm := @fireTimer_perm pairs guards state
  have keys := fun key => fireTimer_key consistent all offered (clear key)
  obtain ⟨dropped_, same⟩ := @offerAll_this pairs guards all _ _ offered
  rw [fireTimer_eq] at perm keys ⊢
  dsimp only at perm keys ⊢
  refine ⟨?_, ?_, perm.nodup_iff.mpr consistent.distinct, ?_, ?_, ?_, ?_⟩
  · rw [same]
    exact consistent.ready
  · intro queued member
    obtain ⟨inside, uncanceled⟩ := List.mem_filter.mp (List.mem_of_mem_tail member)
    obtain ⟨original, earlier, _, rfl⟩ := mem_offerAll all offered inside
    rw [same]
    exact ⟨(consistent.offered original earlier).1, by simpa using uncanceled⟩
  · intro place member
    exact consistent.below place (perm.mem_iff.mp member)
  · intro key
    obtain ⟨before, follows, agrees, decided⟩ := keys key
    refine ⟨before, follows, ?_, decided⟩
    simpa only [Agrees, mem_places_canceled] using agrees
  · intro queued member key phase known notDown
    rcases List.mem_append.mp member with earlier | now
    · exact mem_places_canceled.mpr
        (Or.inl (consistent.canceled queued earlier key phase known notDown))
    · obtain ⟨inside, canceled⟩ := List.mem_filter.mp now
      obtain ⟨-, -, -, -, -, -, judged⟩ := pass_presses consistent all offered key
      exact mem_places_canceled.mpr ((judged queued inside phase known).mp canceled)
  · intro queued member key phase known notDown
    rw [places, List.map_append, List.mem_append]
    rcases List.mem_append.mp member with earlier | now
    · exact Or.inl (consistent.sent queued earlier key phase known notDown)
    · exact Or.inl (front_press consistent all offered (Option.mem_toList.mp now) known notDown)

end

/-- An event that fits goes on with the press in progress of its key. -/
theorem follows_pushed {heldBefore : FromEvent → Option Nat} {item : Item} {position : Nat}
    (fits : Fits (item.event.keyEvent pairs) heldBefore) (key : FromEvent) :
    Follows pairs key (heldBefore key)
      [⟨item, position, pressOf (item.event.keyEvent pairs) position heldBefore⟩]
      (held (item.event.keyEvent pairs) position heldBefore key) := by
  cases known : item.event.keyEvent pairs with
  | none =>
      refine (follows_other fun phase same => ?_).mpr rfl
      simp [Queued.keyEvent, known] at same
  | some keyEvent =>
      obtain ⟨here, phase⟩ := keyEvent
      rw [known] at fits
      have itself (press : Nat) :
          Queued.keyEvent pairs ⟨item, position, press⟩ = some (here, phase) := known
      by_cases own : here = key
      · subst own
        cases phase with
        | down =>
            refine (follows_down (itself _)).mpr ⟨fits, rfl, ?_⟩
            exact (Function.update_self here _ heldBefore).symm
        | repeats =>
            obtain ⟨place, current⟩ := Option.ne_none_iff_exists'.mp fits
            refine (follows_repeats (itself _)).mpr ⟨?_, rfl⟩
            simp [pressOf, current]
        | up =>
            obtain ⟨place, current⟩ := Option.ne_none_iff_exists'.mp fits
            refine (follows_up (itself _)).mpr ⟨?_, ?_⟩
            · simp [pressOf, current]
            · exact (Function.update_self here _ heldBefore).symm
      · refine (follows_other fun phase same => ?_).mpr ?_
        · exact own (congrArg (·.1) (Option.some.inj (known.symm.trans same)))
        · cases phase with
          | down | up => exact (Function.update_of_ne (Ne.symm own) _ heldBefore).symm
          | repeats => rfl

theorem push_consistent {state : State} {event : Event} {autogenId serialNumber : Nat}
    (consistent : Consistent pairs state) (fits : Fits (event.keyEvent pairs) state.held)
    (later : state.this.autogenId_ ≤ autogenId) :
    Consistent pairs (push pairs event autogenId serialNumber state) := by
  have all : places (state.canceled ++ state.sent ++
      (push pairs event autogenId serialNumber state).queue_) =
      places (state.canceled ++ state.sent ++ state.queue_) ++ [state.count] := by
    simp [push, places]
  refine ⟨consistent.ready, ?_, ?_, ?_, fun key => ?_, consistent.canceled, consistent.sent⟩
  · intro queued member
    rcases List.mem_append.mp member with earlier | new
    · exact consistent.offered queued earlier
    · obtain rfl := List.mem_singleton.mp new
      exact ⟨later, rfl⟩
  · refine all ▸ List.Nodup.append consistent.distinct (List.nodup_singleton _) ?_
    intro place earlier new
    have below := consistent.below place earlier
    have equal := List.mem_singleton.mp new
    omega
  · intro place member
    rcases List.mem_append.mp (all ▸ member) with earlier | new
    · exact Nat.lt_succ_of_lt (consistent.below place earlier)
    · exact List.mem_singleton.mp new ▸ Nat.lt_succ_self _
  · obtain ⟨before, follows, agrees, decided⟩ := consistent.keys key
    exact ⟨before, follows.append (follows_pushed fits key), agrees, decided⟩

theorem remap_consistent {state : State} {flagStatus : FlagStatus} {currentSerialNumber : Nat}
    (consistent : Consistent pairs state) :
    Consistent pairs { state with this := state.this.remap flagStatus currentSerialNumber } := by
  have frame : ∃ targets matched, state.this.remap flagStatus currentSerialNumber =
      { state.this with
        targetSerialNumbers_ := targets
        modifierMatched_ := matched
        doCancel_ := !state.this.fromModifierFlags_.isEmpty } := by
    unfold remap
    dsimp only
    by_cases empty : state.this.fromModifierFlags_.isEmpty = true
    · rw [if_pos empty, empty]
      exact ⟨_, _, rfl⟩
    · rw [if_neg empty, Bool.eq_false_iff.mpr empty]
      exact ⟨_, _, rfl⟩
  obtain ⟨targets, matched, same⟩ := frame
  rw [same]
  refine ⟨?_, consistent.offered, consistent.distinct, consistent.below, fun key => ?_,
    consistent.canceled, consistent.sent⟩
  · intro cancels
    simpa using cancels
  · obtain ⟨before, follows, ⟨droppable, agrees⟩, decided⟩ := consistent.keys key
    refine ⟨before, follows, ⟨fun present => ?_, agrees⟩, decided⟩
    have drops := droppable present
    have ready : state.this.doCancel_ = true → (!state.this.fromModifierFlags_.isEmpty) = true :=
      fun cancels => by simpa using consistent.ready cancels
    cases key with
    | KEY key => exact ⟨ready drops.1, drops.2⟩
    | CONSUMER_KEY key => exact ⟨ready drops.1, drops.2⟩
    | NONE | POINTING_BUTTON _ => exact drops

theorem start_consistent {this : DropAllKeys} (idle : this.doCancel_ = false)
    (nothing : this.dropped_ = []) : Consistent pairs (State.start this) where
  ready cancels := by simp [State.start, idle] at cancels
  offered _ member := by cases member
  distinct := List.nodup_nil
  below _ member := by cases member
  keys key := by
    have absent : key ∉ this.dropped_ := by simp [nothing]
    refine ⟨none, rfl, ⟨fun present => absurd present absent, ?_⟩,
      fun _ member => by cases member⟩
    simpa [State.start] using absent
  canceled _ member := by cases member
  sent _ member := by cases member

theorem step_consistent {state : State} {label : Step} (consistent : Consistent pairs state)
    (regular : Regular pairs state label) (clear : Clear pairs state label) :
    Consistent pairs (step pairs state label) := by
  cases label with
  | push event autogenId serialNumber => exact push_consistent consistent regular.1 regular.2
  | remap flagStatus currentSerialNumber => exact remap_consistent consistent
  | fireTimer guards =>
      refine fireTimer_consistent consistent regular.1 (fun queued member => ?_) clear
      obtain ⟨later, fresh⟩ := consistent.offered queued member
      exact ⟨regular.2 queued member, later, fresh⟩

/-- Whole presses are dropped in every run in which no pass sees an overtaken key. -/
theorem run_wholePresses (pairs : Pairs) (this : DropAllKeys) (idle : this.doCancel_ = false)
    (nothing : this.dropped_ = []) (steps : List Step)
    (along : Transition.Along (step pairs)
      (fun state label => Regular pairs state label ∧ Clear pairs state label)
      (.start this) steps) :
    WholePresses pairs (Transition.run (step pairs) (.start this) steps) :=
  (Transition.invariant_of_along (Consistent pairs)
    (fun _ _ allowed consistent => step_consistent consistent allowed.1 allowed.2)
    (start_consistent idle nothing) along).wholePresses

/-- Drops keys while the left command key is held. -/
def dropWithCommand : DropAllKeys where
  autogenId_ := 1
  fromModifierFlags_ := [ModifierFlag.COMMAND_L]
  dropKey_ := true
  dropConsumerKey_ := true
  dropPointingButton_ := true

def noModifier : FlagStatus := .initialized Pairs.normal

def command : FlagStatus := noModifier.increase (.flag .COMMAND_L)

def pushKey (eventType : EventType) (key : KeyCode) (serialNumber : Nat) : Step :=
  .push (.params (.keyboardEvent Pairs.normal eventType ⟨0⟩ key ⟨40⟩ false)) 1 serialNumber

def offersAll : Guards := ⟨false, true, false, false⟩

theorem clear_of_tail {state : State} {guards : Guards}
    (alone : (state.queue_.filter (Stays pairs state ·)).tail = []) :
    Clear pairs state (.fireTimer guards) := by
  rintro key ⟨-, -, -, -, queued, member, -⟩
  rw [alone] at member
  cases member

theorem run_wholePresses_command :
    WholePresses Pairs.normal (Transition.run (step Pairs.normal) (.start dropWithCommand)
      [.remap command 1, pushKey .DOWN ⟨0⟩ 1, pushKey .UP ⟨0⟩ 1, .fireTimer offersAll]) :=
  run_wholePresses Pairs.normal dropWithCommand rfl rfl _ ⟨⟨trivial, trivial⟩,
    ⟨by decide +kernel, trivial⟩, ⟨by decide +kernel, trivial⟩,
    ⟨by decide +kernel, clear_of_tail (by decide +kernel)⟩, trivial⟩

/-- The up of the first press waits behind a shift while the second press is dropped. The next
pass takes it for the up of that press, and cancels it. -/
theorem not_run_wholePresses :
    ¬∀ (pairs : Pairs) (this : DropAllKeys), this.doCancel_ = false → this.dropped_ = [] →
      ∀ steps, Transition.Along (step pairs) (Regular pairs) (.start this) steps →
        WholePresses pairs (Transition.run (step pairs) (.start this) steps) := by
  intro claim
  have whole := claim Pairs.normal dropWithCommand rfl rfl
    [.remap noModifier 1, pushKey .DOWN ⟨0⟩ 1, .fireTimer offersAll, pushKey .MODIFY .SHIFT_L 1,
      pushKey .UP ⟨0⟩ 1, .remap command 2, pushKey .DOWN ⟨0⟩ 2, .fireTimer offersAll,
      .fireTimer offersAll]
    (by decide +kernel)
  let up : Queued :=
    ⟨⟨.params (.keyboardEvent Pairs.normal .UP ⟨0⟩ ⟨0⟩ ⟨40⟩ false), 1, 1, true⟩,
      2, 0⟩
  have same := whole up (by decide +kernel) (.KEY ⟨0⟩) .up (by decide +kernel) (by decide)
  exact absurd (same.mp (by decide +kernel)) (by decide +kernel)

end Karabiner.DropAllKeys
