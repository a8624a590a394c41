import Mathlib.Tactic.Common

set_option autoImplicit false

/- Actions on a state that may throw, or end the program where an assertion fails. What an
action has done to the state before it throws stays done. -/

universe u v

inductive Outcome (State : Type u) (α : Type v) where
  | returns (a : α) (state : State)
  | throws (what : String) (state : State)
  | aborts
  deriving Repr

def Outcome.returned {State : Type u} {α : Type v} : Outcome State α → Option State
  | .returns _ state => some state
  | _ => none

def Throwing (State : Type u) (α : Type v) := State → Outcome State α

namespace Throwing

variable {State : Type u} {α β : Type v}

instance : Monad (Throwing State) where
  pure a state := .returns a state
  bind action next state :=
    match action state with
    | .returns a state => next a state
    | .throws what state => .throws what state
    | .aborts => .aborts

def read : Throwing State State := fun state => .returns state state

def modify (f : State → State) : Throwing State PUnit := fun state => .returns ⟨⟩ (f state)

def fail (what : String) : Throwing State α := fun state => .throws what state

def assertion : Throwing State α := fun _ => .aborts

def ofExcept : Except String α → Throwing State α
  | .ok a => pure a
  | .error what => fail what

/-- try { action } catch -/
def attempt (action : Throwing State α) (handler : String → Throwing State α) :
    Throwing State α :=
  fun state =>
    match action state with
    | .throws what state => handler what state
    | outcome => outcome

/-- The destructor runs behind the action, also when that throws. -/
def cleanup (action destructor : Throwing State PUnit) : Throwing State PUnit := fun state =>
  match action state with
  | .returns _ state => destructor state
  | .throws what state =>
      match destructor state with
      | .returns _ state => .throws what state
      | outcome => outcome
  | .aborts => .aborts

/-- A loop over a list. -/
def each {Item : Type*} (action : Item → Throwing State PUnit) : List Item →
    Throwing State PUnit
  | [] => pure ⟨⟩
  | item :: items => action item >>= fun _ => each action items

theorem returns_of_returned {outcome : Outcome State PUnit} {state : State}
    (returned : outcome.returned = some state) : outcome = .returns ⟨⟩ state := by
  cases outcome with
  | returns _ last => rw [Option.some.inj returned]
  | throws what last => cases returned
  | aborts => cases returned

theorem ok_of_toOption {result : Except String α} {a : α} (found : result.toOption = some a) :
    result = .ok a := by
  cases result with
  | ok b => exact congrArg _ (Option.some.inj found)
  | error what => cases found

theorem pure_apply (a : α) (state : State) :
    (pure a : Throwing State α) state = .returns a state := rfl

theorem bind_apply (action : Throwing State α) (next : α → Throwing State β) (state : State) :
    (action >>= next) state =
      match action state with
      | .returns a state => next a state
      | .throws what state => .throws what state
      | .aborts => .aborts := rfl

theorem bind_assoc {γ : Type v} (action : Throwing State α) (next : α → Throwing State β)
    (last : β → Throwing State γ) :
    action >>= next >>= last = action >>= fun a => next a >>= last := by
  funext state
  simp only [bind_apply]
  cases action state <;> rfl

theorem bind_pure (action : Throwing State PUnit) :
    (action >>= fun _ => pure ⟨⟩) = action := by
  funext state
  rw [bind_apply]
  cases action state <;> rfl

theorem each_append {Item : Type*} (action : Item → Throwing State PUnit)
    (first second : List Item) :
    each action (first ++ second) = each action first >>= fun _ => each action second := by
  induction first with
  | nil => rfl
  | cons item first ih =>
      rw [List.cons_append, each, each, ih, bind_assoc]

theorem each_flatMap {Item Piece : Type*} (action : Piece → Throwing State PUnit)
    (pieces : Item → List Piece) (items : List Item) :
    each action (items.flatMap pieces) = each (fun item => each action (pieces item)) items := by
  induction items with
  | nil => rfl
  | cons item items ih => rw [List.flatMap_cons, each_append, ih, each]

theorem each_congr {Item : Type*} {first second : Item → Throwing State PUnit}
    {items : List Item} (same : ∀ item ∈ items, first item = second item) :
    each first items = each second items := by
  induction items with
  | nil => rfl
  | cons item items ih =>
      rw [each, each, same item List.mem_cons_self,
        ih fun other member => same other (List.mem_cons_of_mem _ member)]

/-- From a state of the first kind the action returns to one of the second kind, throws in one
of the third kind, or ends the program. -/
def Ensures (before : State → Prop) (action : Throwing State α) (after : α → State → Prop)
    (thrown : State → Prop) : Prop :=
  ∀ state, before state →
    match action state with
    | .returns a state => after a state
    | .throws _ state => thrown state
    | .aborts => True

section

variable {before thrown : State → Prop} {action : Throwing State α}
    {after : α → State → Prop}

theorem Ensures.returns (ensures : action.Ensures before after thrown) {state last : State}
    {a : α} (start : before state) (returned : action state = .returns a last) :
    after a last := by
  have own := ensures state start
  rw [returned] at own
  exact own

theorem Ensures.mono {before' thrown' : State → Prop} {after' : α → State → Prop}
    (ensures : action.Ensures before after thrown)
    (weaker : ∀ state, before' state → before state)
    (returns : ∀ a state, after a state → after' a state)
    (throws : ∀ state, thrown state → thrown' state) :
    action.Ensures before' after' thrown' := by
  intro state start
  have own := ensures state (weaker state start)
  cases outcome : action state with
  | returns a last =>
      rw [outcome] at own
      exact returns a last own
  | throws what last =>
      rw [outcome] at own
      exact throws last own
  | aborts => trivial

/-- A fact that does not depend on the state goes through. -/
theorem Ensures.frame (ensures : action.Ensures before after thrown) (fact : Prop) :
    action.Ensures (fun state => before state ∧ fact) (fun a state => after a state ∧ fact)
      (fun state => thrown state ∧ fact) := by
  rintro state ⟨start, holds⟩
  have own := ensures state start
  cases outcome : action state with
  | returns a last =>
      rw [outcome] at own
      exact ⟨own, holds⟩
  | throws what last =>
      rw [outcome] at own
      exact ⟨own, holds⟩
  | aborts => trivial

theorem Ensures.both {before' thrown' : State → Prop} {after' : α → State → Prop}
    (first : action.Ensures before after thrown) (second : action.Ensures before' after' thrown') :
    action.Ensures (fun state => before state ∧ before' state)
      (fun a state => after a state ∧ after' a state)
      (fun state => thrown state ∧ thrown' state) := by
  rintro state ⟨start, start'⟩
  have own := first state start
  have other := second state start'
  cases outcome : action state with
  | returns a last =>
      rw [outcome] at own other
      exact ⟨own, other⟩
  | throws what last =>
      rw [outcome] at own other
      exact ⟨own, other⟩
  | aborts => trivial

/-- What the state before says is taken out of the triple. -/
theorem ensures_of_state
    (ensures : ∀ state, before state → action.Ensures (· = state) after thrown) :
    action.Ensures before after thrown := fun state start => ensures state start state rfl

theorem ensures_pure (a : α) (own : ∀ state, before state → after a state) :
    (pure a : Throwing State α).Ensures before after thrown := own

theorem ensures_read : (read : Throwing State State).Ensures before
    (fun a state => before state ∧ a = state) thrown := fun _ start => ⟨start, rfl⟩

theorem ensures_fail {what : String} (own : ∀ state, before state → thrown state) :
    (fail what : Throwing State α).Ensures before after thrown := own

theorem ensures_modify {f : State → State} {after : State → Prop}
    (own : ∀ state, before state → after (f state)) :
    (modify f).Ensures before (fun _ => after) thrown := own

theorem ensures_ofExcept {result : Except String α}
    (ok : ∀ a, result = .ok a → ∀ state, before state → after a state)
    (error : ∀ what, result = .error what → ∀ state, before state → thrown state) :
    (ofExcept result : Throwing State α).Ensures before after thrown := by
  cases result with
  | ok a => exact ensures_pure a (ok a rfl)
  | error what => exact ensures_fail (error what rfl)

/-- The middle is what holds between the two actions. -/
theorem ensures_bind {next : α → Throwing State β} (middle : α → State → Prop)
    {last : β → State → Prop} (first : action.Ensures before middle thrown)
    (second : ∀ a, (next a).Ensures (middle a) last thrown) :
    (action >>= next).Ensures before last thrown := by
  intro state start
  have own := first state start
  rw [bind_apply]
  cases outcome : action state with
  | returns a reached =>
      rw [outcome] at own
      exact second a reached own
  | throws what middle =>
      rw [outcome] at own
      exact own
  | aborts => trivial

theorem ensures_attempt {handler : String → Throwing State α} {caught : State → Prop}
    (first : action.Ensures before after caught)
    (second : ∀ what, (handler what).Ensures caught after thrown) :
    (attempt action handler).Ensures before after thrown := by
  intro state start
  have own := first state start
  rw [attempt]
  cases outcome : action state with
  | returns a last =>
      rw [outcome] at own
      exact own
  | throws what middle =>
      rw [outcome] at own
      exact second what middle own
  | aborts => trivial

/-- There is nothing to catch. -/
theorem attempt_eq {handler : String → Throwing State α}
    (never : action.Ensures (fun _ => True) (fun _ _ => True) fun _ => False) :
    attempt action handler = action := by
  funext state
  have own := never state trivial
  rw [attempt]
  cases outcome : action state with
  | returns a last => rfl
  | throws what last =>
      rw [outcome] at own
      exact own.elim
  | aborts => rfl

/-- A loop invariant that knows the items that are done. -/
theorem ensures_each {Item : Type*} {action : Item → Throwing State PUnit}
    (invariant : List Item → State → Prop) {items : List Item}
    (own : ∀ done item rest, items = done ++ item :: rest →
      (action item).Ensures (invariant done) (fun _ => invariant (done ++ [item])) thrown) :
    (each action items).Ensures (invariant []) (fun _ => invariant items) thrown := by
  suffices general : ∀ done rest, items = done ++ rest →
      (each action rest).Ensures (invariant done) (fun _ => invariant items) thrown from
    general [] items rfl
  intro done rest split
  induction rest generalizing done with
  | nil =>
      rw [List.append_nil] at split
      rw [split]
      exact ensures_pure _ fun _ start => start
  | cons item rest ih =>
      apply ensures_bind _ (own done item rest split)
      intro _
      apply ih
      rw [split, List.append_assoc]
      rfl

theorem ensures_cleanup {action destructor : Throwing State PUnit} {last : State → Prop}
    {caught : State → Prop} {after : State → Prop}
    (own : action.Ensures before (fun _ => after) caught)
    (returns : destructor.Ensures after (fun _ => last) thrown)
    (throws : destructor.Ensures caught (fun _ => thrown) thrown) :
    (cleanup action destructor).Ensures before (fun _ => last) thrown := by
  intro state start
  have first := own state start
  rw [cleanup]
  cases outcome : action state with
  | returns _ middle =>
      rw [outcome] at first
      exact returns middle first
  | throws what middle =>
      rw [outcome] at first
      have second := throws middle first
      dsimp only
      cases later : destructor middle with
      | returns _ reached =>
          rw [later] at second
          exact second
      | throws what' reached =>
          rw [later] at second
          exact second
      | aborts => trivial
  | aborts => trivial

/-- A loop whose items throw where a fact about them fails. -/
theorem ensures_each_all {Item : Type*} {action : Item → Throwing State PUnit}
    (fact : Item → Prop) {items : List Item}
    (own : ∀ item, (action item).Ensures before (fun _ state => before state ∧ fact item)
      (fun state => thrown state ∧ ¬ fact item)) :
    (each action items).Ensures before
    (fun _ state => before state ∧ ∀ item ∈ items, fact item)
      (fun state => thrown state ∧ ¬ ∀ item ∈ items, fact item) := by
  induction items with
  | nil =>
      apply ensures_pure
      intro state start
      exact ⟨start, by simp⟩
  | cons item items ih =>
      apply ensures_bind fun _ state => before state ∧ fact item
      · apply (own item).mono (fun _ start => start) (fun _ _ last => last)
        rintro state ⟨last, failed⟩
        exact ⟨last, fun all => failed (all item List.mem_cons_self)⟩
      · intro _
        apply (ih.frame (fact item)).mono (fun _ start => start)
        · rintro _ state ⟨⟨last, later⟩, holds⟩
          exact ⟨last, List.forall_mem_cons.2 ⟨holds, later⟩⟩
        · rintro state ⟨⟨last, failed⟩, _⟩
          exact ⟨last, fun all => failed (List.forall_mem_cons.1 all).2⟩

/-- A loop whose items keep the invariant. -/
theorem ensures_each_keeps {Item : Type*} {action : Item → Throwing State PUnit}
    {items : List Item}
    (keeps : ∀ item ∈ items, (action item).Ensures before (fun _ => before) thrown) :
    (each action items).Ensures before (fun _ => before) thrown := by
  apply ensures_each (fun _ => before)
  intro done item rest split
  apply keeps
  rw [split]
  exact List.mem_append_right _ List.mem_cons_self

end

/-- A loop in Except whose rounds commute with a view of the state. -/
theorem foldlM_view {State View Item : Type} {round : State → Item → Except String State}
    {viewed : View → Item → Except String View} (view : State → View)
    (commutes : ∀ state item, viewed (view state) item = view <$> round state item)
    (items : List Item) (state : State) :
    items.foldlM viewed (view state) = view <$> items.foldlM round state := by
  induction items generalizing state with
  | nil => rfl
  | cons item items ih =>
      rw [List.foldlM_cons, List.foldlM_cons, commutes]
      cases round state item with
      | error what => rfl
      | ok next => exact ih next

theorem foldlM_cons_ok {State Item : Type*} {round : State → Item → Except String State}
    {item : Item} {items : List Item} {state last : State}
    (ends : (item :: items).foldlM round state = .ok last) :
    ∃ next, round state item = .ok next ∧ items.foldlM round next = .ok last := by
  rw [List.foldlM_cons] at ends
  cases first : round state item with
  | error what =>
      rw [first] at ends
      cases ends
  | ok next =>
      rw [first] at ends
      exact ⟨next, rfl, ends⟩

theorem bind_ok {First Second : Type u} {first : Except String First}
    {next : First → Except String Second} {last : Second} (ends : first >>= next = .ok last) :
    ∃ a, first = .ok a ∧ next a = .ok last := by
  cases first with
  | error what => cases ends
  | ok a => exact ⟨a, rfl, ends⟩

end Throwing
