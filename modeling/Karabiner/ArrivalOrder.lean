import Karabiner.EventInputQueue
import Karabiner.HeldLine
import Mathlib.Tactic.Common

set_option autoImplicit false

/- The events in fired, blockedQueue_ and queue_ are the arrived ones. Their order is the
order of the arrivals, except for a key-up that ends a block. -/
namespace Karabiner.EventInputQueue

open HeldLine (Line Move)

/-- The item as it arrived, without the mark of blockedQueue_. -/
def Item.event (item : Item) : Item := { item with enqueuedFrom := .HARDWARE }

def isDownOf (up down : Item) : Bool :=
  (FromEvent.ofParams up.params).isTargetDownEvent down.params

namespace State

/-- What BlockUntilKeyUp is for: a line that can hold back what is next. -/
def line (state : State) : Line Item where
  served := state.fired.map Item.event
  held := state.blockedQueue_.map Item.event
  waiting := state.queue_.map Item.event

theorem line_served_length (state : State) : state.line.served.length = state.fired.length := by
  simp [line]

theorem line_held_length (state : State) :
    state.line.held.length = state.blockedQueue_.length := by
  simp [line]

/-- The next event is fresh from the hardware and the key-up of a target. -/
def ReleasesTarget (state : State) (config : Config) : Prop :=
  ∃ front ∈ state.queue_.head?, front.enqueuedFrom = .HARDWARE ∧
    front.params.iskeydown = some false ∧ config.isTargetEventForBlockUntilKeyUp front.params

instance (state : State) (config : Config) : Decidable (state.ReleasesTarget config) :=
  inferInstanceAs (Decidable (∃ front ∈ state.queue_.head?, front.enqueuedFrom = .HARDWARE ∧
    front.params.iskeydown = some false ∧ config.isTargetEventForBlockUntilKeyUp front.params))

end State

/-- The order of all events that have arrived, after a step. -/
def Step.reorder (state : State) : Step → List Item → List Item
  | .arrive arrival, order => order ++ [arrival.item]
  | .fireTimer config, order =>
      if state.ReleasesTarget config then
        HeldLine.overtake state.fired.length state.blockedQueue_.length isDownOf order
      else order
  | .blockingTimeOut, order => order

/-- The order of the arrivals, with every key-up that ends a block moved. -/
def reordered : State → List Step → List Item → List Item
  | _, [], order => order
  | state, label :: labels, order =>
      reordered (step state label) labels (label.reorder state order)

def arrived (steps : List Step) : List Item :=
  (steps.flatMap Step.arrivals).map Arrival.item

/-- Where the mark of blockedQueue_ can be: on a front part of queue_, and only while
blockedQueue_ is empty. -/
structure Marked (state : State) : Prop where
  returnedFirst : state.queue_.Pairwise fun p q =>
    p.enqueuedFrom = .HARDWARE → q.enqueuedFrom = .HARDWARE
  alone : state.blockedQueue_ = [] ∨ ∀ p ∈ state.queue_, p.enqueuedFrom = .HARDWARE
  downOrUp : ∀ p ∈ state.blockedQueue_ ++ state.queue_, p.params.iskeydown.isSome

theorem start_marked (devices : List HookedDevice) : Marked (.start devices) where
  returnedFirst := .nil
  alone := .inl rfl
  downOrUp := by simp [State.start]

theorem moveUpEvent_eq {up : Item} {after : List Item}
    (none_after : ∀ p ∈ after, isDownOf up p = false) (before : List Item) :
    State.moveUpEvent up before after =
      HeldLine.insertAfterLast (isDownOf up) up (before.reverse ++ after) := by
  induction before generalizing after with
  | nil =>
      rw [State.moveUpEvent, List.reverse_nil, List.nil_append]
      exact (HeldLine.insertAfterLast_of_none none_after up).symm
  | cons p before ih =>
      rw [State.moveUpEvent, List.reverse_cons, List.append_assoc, List.singleton_append]
      by_cases down : isDownOf up p
      · rw [if_pos (by exact down), HeldLine.insertAfterLast_of_last down none_after]
      · have none_from : ∀ q ∈ p :: after, isDownOf up q = false := by
          simpa [down] using none_after
        rw [if_neg (by exact down), ih none_from]

theorem map_event_moveUpEvent (up : Item) (blocked : List Item) :
    (State.moveUpEvent up blocked.reverse []).map Item.event =
      HeldLine.insertAfterLast (isDownOf up.event) up.event (blocked.map Item.event) := by
  rw [moveUpEvent_eq (by simp), List.reverse_reverse, List.append_nil]
  exact HeldLine.insertAfterLast_map Item.event (isDownOf up.event) up blocked

namespace State

/-- The ways that fire_timer_callback can take with a down or up event in front. The state is
the one with the physical key counted. -/
inductive Handled (config : Config) (front : Item) (rest : List Item) (state : State) :
    State → Prop where
  | returned (marked : front.enqueuedFrom = .BLOCKEDQUEUE) :
      Handled config front rest state state.doFire
  | passed (isDown : Bool) (fresh : front.enqueuedFrom = .HARDWARE)
      (known : front.params.iskeydown = some isDown)
      (free : (state.updatePressingEvents front isDown).needToBlock config front = false) :
      Handled config front rest state (state.updatePressingEvents front isDown).endBlocking.doFire
  | moved (fresh : front.enqueuedFrom = .HARDWARE) (known : front.params.iskeydown = some false)
      (target : config.isTargetEventForBlockUntilKeyUp front.params = true) :
      Handled config front rest state
        { state.updatePressingEvents front false with
          blockedQueue_ := moveUpEvent front state.blockedQueue_.reverse []
          queue_ := rest }.endBlocking.doFire
  | completed (fresh : front.enqueuedFrom = .HARDWARE)
      (known : front.params.iskeydown = some false)
      (other : config.isTargetEventForBlockUntilKeyUp front.params = false)
      (need : (state.updatePressingEvents front false).needToBlock config front = true) :
      Handled config front rest state
        { (state.updatePressingEvents front false).setIgnoreToAllPressingEvents with
          blockedQueue_ := state.blockedQueue_ ++ [front]
          queue_ := rest }.endBlocking.doFire
  | blocked (isDown : Bool) (fresh : front.enqueuedFrom = .HARDWARE)
      (known : front.params.iskeydown = some isDown)
      (need : (state.updatePressingEvents front isDown).needToBlock config front = true)
      (other : isDown = false → config.isTargetEventForBlockUntilKeyUp front.params = false) :
      Handled config front rest state
        { state.updatePressingEvents front isDown with
          blockedQueue_ := state.blockedQueue_ ++ [front]
          queue_ := rest }

theorem needToBlock_of_target {state : State} {config : Config} {front : Item}
    (target : config.isTargetEventForBlockUntilKeyUp front.params = true) :
    state.needToBlock config front = true := by
  simp [needToBlock, target]

theorem doBlockUntilKeyUp_of_returned {state : State} {front : Item} {rest : List Item}
    (next : state.queue_ = front :: rest) (marked : front.enqueuedFrom = .BLOCKEDQUEUE)
    (config : Config) : state.doBlockUntilKeyUp config = (true, state) := by
  simp only [doBlockUntilKeyUp, next, if_pos marked]

theorem doBlockUntilKeyUp_of_fresh {state : State} {front : Item} {rest : List Item}
    {isDown : Bool} (next : state.queue_ = front :: rest)
    (fresh : front.enqueuedFrom = .HARDWARE) (known : front.params.iskeydown = some isDown)
    (config : Config) :
    state.doBlockUntilKeyUp config =
      if (state.updatePressingEvents front isDown).needToBlock config front then
        (state.updatePressingEvents front isDown).block config front rest isDown
      else (true, (state.updatePressingEvents front isDown).endBlocking) := by
  have unmarked : front.enqueuedFrom ≠ .BLOCKEDQUEUE := by simp [fresh]
  simp only [doBlockUntilKeyUp, next, known, if_neg unmarked]

theorem fireFrontItem_handled {state : State} {front : Item} {rest : List Item}
    (next : state.queue_ = front :: rest) (downOrUp : front.params.iskeydown.isSome)
    (config : Config) :
    Handled config front rest (state.updatePressingPhysicalKeys config front)
      (state.fireFrontItem config) := by
  have next' : (state.updatePressingPhysicalKeys config front).queue_ = front :: rest := next
  obtain ⟨isDown, known⟩ := Option.isSome_iff_exists.mp downOrUp
  rw [fireFrontItem, next]
  dsimp only
  generalize state.updatePressingPhysicalKeys config front = counted at next' ⊢
  cases from_ : front.enqueuedFrom with
  | BLOCKEDQUEUE =>
      rw [doBlockUntilKeyUp_of_returned next' from_ config]
      exact .returned from_
  | HARDWARE =>
      rw [doBlockUntilKeyUp_of_fresh next' from_ known config]
      cases need : (counted.updatePressingEvents front isDown).needToBlock config front with
      | false => exact .passed isDown from_ known need
      | true =>
          rw [if_pos rfl, block]
          cases isDown with
          | true => exact .blocked true from_ known need (by simp)
          | false =>
              cases target : config.isTargetEventForBlockUntilKeyUp front.params with
              | true => exact .moved from_ known target
              | false =>
                  simp only [Bool.not_false, Bool.true_and, Bool.false_eq_true, if_false]
                  split
                  · exact .completed from_ known target need
                  · exact .blocked false from_ known need (fun _ => target)

@[simp] theorem updatePressingPhysicalKeys_line (state : State) (config : Config) (item : Item) :
    (state.updatePressingPhysicalKeys config item).line = state.line := rfl

@[simp] theorem updatePressingEvents_line (state : State) (front : Item) (isDown : Bool) :
    (state.updatePressingEvents front isDown).line = state.line := rfl

@[simp] theorem resetInternalStateIfNeeded_line (state : State) :
    state.resetInternalStateIfNeeded.line = state.line := by
  unfold resetInternalStateIfNeeded
  split <;> rfl

@[simp] theorem endBlocking_line (state : State) :
    state.endBlocking.line = state.line.move .release := by
  have same : state.blockedQueue_.map
      (Item.event ∘ fun p : Item => { p with enqueuedFrom := .BLOCKEDQUEUE }) =
        state.blockedQueue_.map Item.event := rfl
  simp [endBlocking, line, Line.move, same]

theorem doFire_line {state : State} (unblocked : state.blockedQueue_ = []) :
    state.doFire.line = state.line.move .serve := by
  unfold doFire
  split
  · next empty => simp [line, Line.move, unblocked, empty]
  · next p rest next =>
      have fired : { state with fired := state.fired ++ [p], queue_ := rest }.line =
          state.line.move .serve := by simp [line, Line.move, unblocked, next]
      dsimp only
      split <;> simp [fired]

theorem moved_line {state : State} {front : Item} {rest : List Item}
    (next : state.queue_ = front :: rest) :
    { state with
      blockedQueue_ := moveUpEvent front state.blockedQueue_.reverse []
      queue_ := rest }.endBlocking.line = state.line.move (.overtake isDownOf) := by
  rw [endBlocking_line]
  simp only [line, Line.move, next, List.map_cons, map_event_moveUpEvent]

theorem held_line {state : State} {front : Item} {rest : List Item}
    (next : state.queue_ = front :: rest) :
    { state with
      blockedQueue_ := state.blockedQueue_ ++ [front]
      queue_ := rest }.line = state.line.move .hold := by
  simp [line, Line.move, next]

theorem doFire_queue (state : State) : state.doFire.queue_ = state.queue_.tail := by
  unfold doFire resetInternalStateIfNeeded
  split
  · next empty => simp [empty]
  · next p rest next =>
      dsimp only
      split_ifs <;> simp [next]

end State

namespace Marked

theorem congr {state other : State} (marked : Marked state) (queue : other.queue_ = state.queue_)
    (blocked : other.blockedQueue_ = state.blockedQueue_) : Marked other where
  returnedFirst := queue ▸ marked.returnedFirst
  alone := queue ▸ blocked ▸ marked.alone
  downOrUp := queue ▸ blocked ▸ marked.downOrUp

theorem doFire {state : State} (marked : Marked state) : Marked state.doFire where
  returnedFirst := by
    rw [State.doFire_queue]
    exact marked.returnedFirst.tail
  alone := by
    rw [State.doFire_queue, State.doFire_blockedQueue]
    exact marked.alone.imp_right fun fresh p member => fresh p (List.mem_of_mem_tail member)
  downOrUp p member := by
    rw [State.doFire_queue, State.doFire_blockedQueue] at member
    apply marked.downOrUp p
    rcases List.mem_append.mp member with held | waiting
    · exact List.mem_append_left _ held
    · exact List.mem_append_right _ (List.mem_of_mem_tail waiting)

theorem endBlocking {state : State} (marked : Marked state) : Marked state.endBlocking where
  returnedFirst := by
    simp only [State.endBlocking, List.pairwise_append, List.pairwise_map]
    refine ⟨?_, marked.returnedFirst, ?_⟩
    · exact List.pairwise_of_forall (by simp)
    · intro p member q _
      obtain ⟨_, _, rfl⟩ := List.mem_map.mp member
      simp
  alone := .inl rfl
  downOrUp p member := by
    simp only [State.endBlocking, List.nil_append, List.mem_append, List.mem_map] at member
    rcases member with ⟨q, held, rfl⟩ | waiting
    · exact marked.downOrUp q (List.mem_append_left _ held)
    · exact marked.downOrUp p (List.mem_append_right _ waiting)

theorem rest_fresh {state : State} (marked : Marked state) {front : Item} {rest : List Item}
    (next : state.queue_ = front :: rest) (fresh : front.enqueuedFrom = .HARDWARE) :
    ∀ p ∈ rest, p.enqueuedFrom = .HARDWARE := by
  have pairs := marked.returnedFirst
  rw [next, List.pairwise_cons] at pairs
  exact fun p member => pairs.1 p member fresh

theorem unblocked {state : State} (marked : Marked state) {front : Item} {rest : List Item}
    (next : state.queue_ = front :: rest) (returned : front.enqueuedFrom = .BLOCKEDQUEUE) :
    state.blockedQueue_ = [] := by
  rcases marked.alone with empty | fresh
  · exact empty
  · have hardware := fresh front (by simp [next])
    simp [returned] at hardware

/-- The front event goes from queue_ to some place in blockedQueue_. -/
theorem hold {state other : State} (marked : Marked state) {front : Item} {rest : List Item}
    (next : state.queue_ = front :: rest) (fresh : front.enqueuedFrom = .HARDWARE)
    (queue : other.queue_ = rest)
    (blocked : other.blockedQueue_.Perm (state.blockedQueue_ ++ [front])) : Marked other where
  returnedFirst := by
    have pairs := marked.returnedFirst
    rw [next, List.pairwise_cons] at pairs
    exact queue ▸ pairs.2
  alone := .inr (queue ▸ marked.rest_fresh next fresh)
  downOrUp p member := by
    apply marked.downOrUp p
    rw [queue, List.mem_append, blocked.mem_iff] at member
    rw [next]
    simp only [List.mem_append, List.mem_cons] at member ⊢
    tauto

end Marked

theorem moveUpEvent_perm (up : Item) (blocked : List Item) :
    (State.moveUpEvent up blocked.reverse []).Perm (blocked ++ [up]) := by
  rw [moveUpEvent_eq (by simp), List.reverse_reverse, List.append_nil]
  exact HeldLine.insertAfterLast_perm _ _ _

theorem handled_marked {config : Config} {front : Item} {rest : List Item} {state next : State}
    (marked : Marked state) (queue : state.queue_ = front :: rest)
    (handled : State.Handled config front rest state next) : Marked next := by
  cases handled with
  | returned => exact marked.doFire
  | passed isDown => exact (marked.congr rfl rfl : Marked (state.updatePressingEvents front isDown))
      |>.endBlocking.doFire
  | moved fresh =>
      exact (marked.hold queue fresh rfl (moveUpEvent_perm _ _)).endBlocking.doFire
  | completed fresh => exact (marked.hold queue fresh rfl (List.Perm.refl _)).endBlocking.doFire
  | blocked _ fresh => exact marked.hold queue fresh rfl (List.Perm.refl _)

theorem step_marked {state : State} (marked : Marked state) (label : Step) :
    Marked (step state label) := by
  cases label with
  | arrive arrival =>
      have enqueued : step state (.arrive arrival) =
          { state with queue_ := state.queue_ ++ [arrival.item] } := by
        simp [step, State.enqueue, Arrival.item, arrival.notRepeat]
      rw [enqueued]
      refine ⟨?_, ?_, ?_⟩
      · rw [List.pairwise_append]
        exact ⟨marked.returnedFirst, List.pairwise_singleton _ _, by simp [Arrival.item]⟩
      · refine marked.alone.imp_right fun fresh p member => ?_
        rcases List.mem_append.mp member with waiting | last
        · exact fresh p waiting
        · rw [List.mem_singleton.mp last]
          rfl
      · intro p member
        have last : arrival.item.params.iskeydown.isSome := by
          simp [Arrival.item, arrival.iskeydown]
        have before := marked.downOrUp p
        simp only [List.mem_append, List.mem_singleton] at member before
        rcases member with held | waiting | rfl
        · exact before (.inl held)
        · exact before (.inr waiting)
        · exact last
  | fireTimer config =>
      cases queue : state.queue_ with
      | nil =>
          have idle : step state (.fireTimer config) = state := by
            simp [step, State.fireFrontItem, queue]
          rw [idle]
          exact marked
      | cons front rest =>
          have downOrUp := marked.downOrUp front (by simp [queue])
          have counted : Marked (state.updatePressingPhysicalKeys config front) :=
            marked.congr rfl rfl
          exact handled_marked counted queue (State.fireFrontItem_handled queue downOrUp config)
  | blockingTimeOut => exact marked.endBlocking.congr rfl rfl

theorem releasesTarget_iff {state : State} {front : Item} {rest : List Item}
    (queue : state.queue_ = front :: rest) (config : Config) :
    state.ReleasesTarget config ↔ front.enqueuedFrom = .HARDWARE ∧
      front.params.iskeydown = some false ∧
        config.isTargetEventForBlockUntilKeyUp front.params = true := by
  simp [State.ReleasesTarget, queue]

/-- The line makes moves that keep its order, or the key-up in front overtakes. -/
theorem handled_line {config : Config} {front : Item} {rest : List Item} {state next : State}
    (marked : Marked state) (queue : state.queue_ = front :: rest)
    (handled : State.Handled config front rest state next) :
    (state.ReleasesTarget config ∧
        next.line = Transition.run Line.move state.line [.overtake isDownOf, .serve]) ∨
      (¬state.ReleasesTarget config ∧ ∃ moves : List (Move Item),
        (∀ move ∈ moves, move.Quiet) ∧ next.line = Transition.run Line.move
        state.line moves) := by
  rw [releasesTarget_iff queue]
  cases handled with
  | returned returned =>
      refine .inr ⟨by simp [returned], [.serve], by simp [Move.Quiet.serve], ?_⟩
      exact State.doFire_line (marked.unblocked queue returned)
  | passed isDown fresh known free =>
      refine .inr ⟨?_, [.release, .serve], by simp [Move.Quiet.serve, Move.Quiet.release], ?_⟩
      · rintro ⟨-, -, target⟩
        rw [State.needToBlock_of_target target] at free
        exact Bool.noConfusion free
      · rw [State.doFire_line rfl, State.endBlocking_line, State.updatePressingEvents_line]
        rfl
  | moved fresh known target =>
      refine .inl ⟨⟨fresh, known, target⟩, ?_⟩
      rw [State.doFire_line rfl]
      exact congrArg (Line.move · .serve) (State.moved_line queue)
  | completed fresh known other need =>
      refine .inr ⟨by simp [other], [.hold, .release, .serve],
        by simp [Move.Quiet.serve, Move.Quiet.hold, Move.Quiet.release], ?_⟩
      rw [State.doFire_line rfl, State.endBlocking_line]
      exact congrArg (fun line : Line Item => (line.move .release).move .serve)
        (State.held_line queue)
  | blocked isDown fresh known need other =>
      refine .inr ⟨?_, [.hold], by simp [Move.Quiet.hold], State.held_line queue⟩
      rintro ⟨-, up, target⟩
      rw [other (Option.some.inj (known.symm.trans up))] at target
      exact Bool.noConfusion target

theorem Quiet.arrivals {moves : List (Move Item)} (quiet : ∀ move ∈ moves, move.Quiet) :
    moves.flatMap Move.arrivals = [] := by
  rw [List.flatMap_eq_nil_iff]
  intro move member
  cases quiet move member <;> rfl

/-- Every step makes moves of the line, and its order is the one of the law. -/
theorem step_line {state : State} (marked : Marked state) (label : Step) :
    ∃ moves : List (Move Item),
      (step state label).line = Transition.run Line.move state.line moves ∧
        moves.flatMap Move.arrivals = label.arrivals.map Arrival.item ∧
        (step state label).line.order = label.reorder state state.line.order := by
  cases label with
  | arrive arrival =>
      have enqueued : (step state (.arrive arrival)).line =
          state.line.move (.arrive arrival.item) := by
        simp [step, State.enqueue, State.line, Line.move, Arrival.item, arrival.notRepeat,
          Item.event]
      refine ⟨[.arrive arrival.item], enqueued, rfl, ?_⟩
      rw [enqueued]
      simp [Line.move, Line.order, Step.reorder]
  | fireTimer config =>
      cases queue : state.queue_ with
      | nil =>
          have idle : step state (.fireTimer config) = state := by
            simp [step, State.fireFrontItem, queue]
          have silent : ¬state.ReleasesTarget config := by simp [State.ReleasesTarget, queue]
          refine ⟨[], congrArg State.line idle, rfl, ?_⟩
          rw [idle, Step.reorder, if_neg silent]
      | cons front rest =>
          have downOrUp := marked.downOrUp front (by simp [queue])
          have handled := State.fireFrontItem_handled queue downOrUp config
          have counted : Marked (state.updatePressingPhysicalKeys config front) :=
            marked.congr rfl rfl
          rcases handled_line counted queue handled with
            ⟨releases, line⟩ | ⟨keeps, moves, quiet, line⟩
          · refine ⟨[.overtake isDownOf, .serve], line, rfl, ?_⟩
            have releases' : state.ReleasesTarget config := releases
            rw [Step.reorder, if_pos releases']
            have overtaken := HeldLine.overtake_order state.line isDownOf
            rw [State.line_served_length, State.line_held_length] at overtaken
            rw [overtaken]
            exact (congrArg Line.order line).trans (HeldLine.order_quiet .serve _)
          · have keeps' : ¬state.ReleasesTarget config := keeps
            refine ⟨moves, line, Quiet.arrivals quiet, ?_⟩
            rw [Step.reorder, if_neg keeps']
            exact (congrArg Line.order line).trans (HeldLine.order_run_quiet quiet _)
  | blockingTimeOut =>
      have line : (step state .blockingTimeOut).line = state.line.move .release :=
        State.endBlocking_line state
      refine ⟨[.release], line, rfl, ?_⟩
      rw [line, HeldLine.order_quiet .release, Step.reorder]

theorem run_line {state : State} (marked : Marked state) (steps : List Step) :
    ∃ moves : List (Move Item),
      (Transition.run step state steps).line = Transition.run Line.move state.line moves ∧
        moves.flatMap Move.arrivals = arrived steps ∧
        (Transition.run step state steps).line.order = reordered state steps state.line.order := by
  induction steps generalizing state with
  | nil => exact ⟨[], rfl, rfl, rfl⟩
  | cons label labels ih =>
      obtain ⟨first, firstLine, firstArrived, firstOrder⟩ := step_line marked label
      obtain ⟨others, othersLine, othersArrived, othersOrder⟩ := ih (step_marked marked label)
      refine ⟨first ++ others, ?_, ?_, ?_⟩
      · rw [Transition.run_cons, othersLine, firstLine, Transition.run_append]
      · rw [List.flatMap_append, firstArrived, othersArrived]
        simp [arrived]
      · rw [Transition.run_cons, othersOrder, firstOrder, reordered]

/-- Nothing is lost or doubled between arrival and firing, what is fired stays fired, and
only a key-up that ends a block leaves its place. -/
theorem arrivals_conserved_in_order (devices : List HookedDevice) (steps more : List Step) :
    let state := Transition.run step (.start devices) steps
    let events := (state.fired ++ state.blockedQueue_ ++ state.queue_).map Item.event
    events.Perm (arrived steps) ∧ events = reordered (.start devices) steps [] ∧
      state.fired.map Item.event <+:
        (Transition.run step state more).fired.map Item.event := by
  intro state events
  have marked : Marked state :=
    Transition.invariant_of_step Marked (fun _ label marked => step_marked marked label)
      steps (start_marked devices)
  obtain ⟨moves, line, arrivals, order⟩ := run_line (start_marked devices) steps
  have whole : events = state.line.order := by simp [events, State.line, Line.order]
  refine ⟨?_, whole.trans order, ?_⟩
  · have conserved := HeldLine.order_run_perm (State.start devices).line moves
    rw [← line, arrivals] at conserved
    exact whole ▸ conserved
  · obtain ⟨later, laterLine, -, -⟩ := run_line marked more
    have kept := HeldLine.served_prefix_run state.line later
    rw [← laterLine] at kept
    exact kept

end Karabiner.EventInputQueue
