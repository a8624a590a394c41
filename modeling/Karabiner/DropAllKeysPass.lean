import Karabiner.DropAllKeysRun

set_option autoImplicit false

/- The events of one key in the queue of DropAllKeys, press by press, and what a pass over the
queue does to them. -/
namespace Karabiner.DropAllKeys

open EventOutputQueue (Event Item)

variable {pairs : Pairs} {key : FromEvent}

/-- The events of a key in a queue, from the press in progress in front of it to the one behind
it, if there are such. -/
def Follows (pairs : Pairs) (key : FromEvent) :
    Option Nat → List Queued → Option Nat → Prop
  | before, [], after => before = after
  | before, queued :: rest, after =>
      match queued.keyEvent pairs with
      | some (other, phase) =>
          if other = key then
            match phase with
            | .down =>
                before = none ∧ queued.press = queued.position ∧
                  Follows pairs key (some queued.position) rest after
            | .repeats => before = some queued.press ∧ Follows pairs key before rest after
            | .up => before = some queued.press ∧ Follows pairs key none rest after
          else Follows pairs key before rest after
      | none => Follows pairs key before rest after

section
variable {before after : Option Nat} {queued : Queued} {rest : List Queued}

theorem follows_other (other : ∀ phase, queued.keyEvent pairs ≠ some (key, phase)) :
    Follows pairs key before (queued :: rest) after ↔ Follows pairs key before rest after := by
  cases known : queued.keyEvent pairs with
  | none => simp only [Follows, known]
  | some keyEvent =>
      obtain ⟨here, phase⟩ := keyEvent
      have apart : here ≠ key := fun same => other phase (same ▸ known)
      simp only [Follows, known, if_neg apart]

theorem follows_down (known : queued.keyEvent pairs = some (key, .down)) :
    Follows pairs key before (queued :: rest) after ↔
      before = none ∧ queued.press = queued.position ∧
        Follows pairs key (some queued.position) rest after := by
  simp only [Follows, known, if_true]

theorem follows_repeats (known : queued.keyEvent pairs = some (key, .repeats)) :
    Follows pairs key before (queued :: rest) after ↔
      before = some queued.press ∧ Follows pairs key before rest after := by
  simp only [Follows, known, if_true]

theorem follows_up (known : queued.keyEvent pairs = some (key, .up)) :
    Follows pairs key before (queued :: rest) after ↔
      before = some queued.press ∧ Follows pairs key none rest after := by
  simp only [Follows, known, if_true]

end

def Queued.mark (canceled : Bool) (queued : Queued) : Queued :=
  { queued with item := { queued.item with canceled } }

@[simp] theorem Queued.mark_keyEvent (canceled : Bool) (queued : Queued) :
    (queued.mark canceled).keyEvent pairs = queued.keyEvent pairs := rfl

@[simp] theorem Queued.mark_position (canceled : Bool) (queued : Queued) :
    (queued.mark canceled).position = queued.position := rfl

@[simp] theorem Queued.mark_press (canceled : Bool) (queued : Queued) :
    (queued.mark canceled).press = queued.press := rfl

@[simp] theorem Queued.mark_canceled (canceled : Bool) (queued : Queued) :
    (queued.mark canceled).item.canceled = canceled := rfl

/-- What the items of a queue are offered with. -/
def Offered (this : DropAllKeys) (queue : List Queued) : Prop :=
  ∀ queued ∈ queue, this.isTarget queued.item = true ∧
    this.autogenId_ ≤ queued.item.autogenId ∧
    queued.item.canceled = false

theorem offerAll_cons {guards : Guards} {this : DropAllKeys} {queued : Queued}
    {rest : List Queued} (all : guards.OffersAll) (offered : Offered this (queued :: rest)) :
    offerAll pairs guards this (queued :: rest) =
      let ruled := ruling pairs this queued.item.event
      let later := offerAll pairs guards { this with dropped_ := ruled.2 } rest
      (later.1, queued.mark ruled.1 :: later.2) := by
  obtain ⟨target, later, fresh⟩ := offered queued List.mem_cons_self
  simp only [offerAll, offer_of_offersAll all, cancelItem_eq target later, fresh, Bool.false_or]
  rfl

theorem Offered.tail {this : DropAllKeys} {queued : Queued} {rest : List Queued}
    (offered : Offered this (queued :: rest)) (dropped_ : List FromEvent) :
    Offered { this with dropped_ } rest :=
  fun other member => offered other (List.mem_cons_of_mem _ member)

abbrev places (queue : List Queued) : List Nat := queue.map (·.position)

/-- The places of what is cancelled. -/
def canceledPlaces (queue : List Queued) : List Nat :=
  places (queue.filter (·.item.canceled))

theorem mem_canceledPlaces_mark {canceled : Bool} {queued : Queued} {rest : List Queued}
    {place : Nat} :
    place ∈ canceledPlaces (queued.mark canceled :: rest) ↔
      (canceled = true ∧ place = queued.position) ∨ place ∈ canceledPlaces rest := by
  unfold canceledPlaces
  cases canceled <;> simp [List.filter_cons]

theorem canceledPlaces_subset {queue : List Queued} {place : Nat}
    (member : place ∈ canceledPlaces queue) : place ∈ places queue := by
  obtain ⟨queued, inside, rfl⟩ := List.mem_map.mp member
  exact List.mem_map_of_mem (List.mem_filter.mp inside).1

/-- dropped_ has the key exactly while the press in progress is one of the gone. -/
def Agrees (this : DropAllKeys) (key : FromEvent) (gone : Nat → Prop) (press : Option Nat) :
    Prop :=
  (key ∈ this.dropped_ → this.Drops key) ∧
  (key ∈ this.dropped_ ↔ ∃ place ∈ press, gone place)

/-- One event that is offered. -/
theorem ruling_follows {this : DropAllKeys} {gone : Nat → Prop} {before after : Option Nat}
    {queued : Queued} {rest : List Queued} (agrees : Agrees this key gone before)
    (follows : Follows pairs key before (queued :: rest) after)
    (fresh : ¬gone queued.position) (front : queued.position ∉ before) :
    let ruled := ruling pairs this queued.item.event
    let goes place := gone place ∨ ruled.1 = true ∧ place = queued.position
    ∃ next, Follows pairs key next rest after ∧
      (∀ others, Follows pairs key next others after →
        Follows pairs key before (queued.mark ruled.1 :: others) after) ∧
      (∀ place ∈ next, place ∈ before ∨ place = queued.position) ∧
      Agrees { this with dropped_ := ruled.2 } key goes next ∧
      ∀ phase, queued.keyEvent pairs = some (key, phase) →
        (ruled.1 = true ↔ goes queued.press) ∧
          (queued.press ∈ before ∨ queued.press = queued.position) := by
  obtain ⟨droppable, same⟩ := agrees
  by_cases own : ∃ phase, queued.keyEvent pairs = some (key, phase)
  · obtain ⟨phase, known⟩ := own
    have judged : ruling pairs this queued.item.event = this.judge key phase := by
      unfold ruling
      rw [show queued.item.event.keyEvent pairs = some (key, phase) from known]
    simp only [judged]
    cases phase with
    | down =>
        obtain ⟨idle, press, later⟩ := (follows_down known).mp follows
        have absent : key ∉ this.dropped_ := by
          intro present
          obtain ⟨place, member, -⟩ := same.mp present
          simp [idle] at member
        refine ⟨some queued.position, later, fun others next => ?_, ?_, ⟨?_, ?_⟩, ?_⟩
        · exact (follows_down known).mpr ⟨idle, press, next⟩
        · intro place member
          exact Or.inr (Option.mem_some_iff.mp member).symm
        · intro present
          rw [drops_dropped]
          rcases mem_judge_down.mp present with before | canceled
          · exact droppable before
          · exact drops_of_judge canceled
        · simp [mem_judge_down, absent, fresh]
        · intro phase other
          simp [press, fresh]
    | repeats =>
        obtain ⟨current, later⟩ := (follows_repeats known).mp follows
        obtain ⟨canceled, kept⟩ := judge_repeats droppable
        have apart : queued.press ≠ queued.position := by
          rintro equal
          exact front (by simp [current, equal])
        refine ⟨before, later, fun others next => ?_, fun _ => Or.inl, ⟨?_, ?_⟩, ?_⟩
        · exact (follows_repeats known).mpr ⟨current, next⟩
        · intro present
          exact (drops_dropped _).mpr (droppable (kept.mp present))
        · simp [kept, same, current, apart]
        · intro phase other
          simp [canceled, same, current, apart]
    | up =>
        obtain ⟨current, later⟩ := (follows_up known).mp follows
        obtain ⟨canceled, gone⟩ := judge_up droppable
        have apart : queued.press ≠ queued.position := by
          rintro equal
          exact front (by simp [current, equal])
        refine ⟨none, later, fun others next => ?_, fun _ member => ?_, ⟨?_, ?_⟩, ?_⟩
        · exact (follows_up known).mpr ⟨current, next⟩
        · cases member
        · exact fun present => absurd present gone
        · simp [gone]
        · intro phase other
          simp [canceled, same, current, apart]
  · have other (phase : Phase) : queued.keyEvent pairs ≠ some (key, phase) :=
      fun known => own ⟨phase, known⟩
    have kept : key ∈ (ruling pairs this queued.item.event).2 ↔ key ∈ this.dropped_ := by
      unfold ruling
      cases known : queued.item.event.keyEvent pairs with
      | none => rfl
      | some keyEvent =>
          obtain ⟨here, phase⟩ := keyEvent
          have apart : key ≠ here := fun equal => other phase (equal ▸ known)
          exact mem_judge_other apart
    refine ⟨before, (follows_other other).mp follows, fun others next => ?_, fun _ => Or.inl,
      ⟨?_, ?_⟩, fun phase known => absurd known (other phase)⟩
    · exact (follows_other other).mpr next
    · intro present
      exact (drops_dropped _).mpr (droppable (kept.mp present))
    · simp only [kept, same]
      constructor
      · rintro ⟨place, member, out⟩
        exact ⟨place, member, Or.inl out⟩
      · rintro ⟨place, member, out | ⟨-, rfl⟩⟩
        · exact ⟨place, member, out⟩
        · exact absurd member front

theorem offerAll_positions {guards : Guards} (this : DropAllKeys) (queue : List Queued) :
    places (offerAll pairs guards this queue).2 = places queue := by
  induction queue generalizing this with
  | nil => rfl
  | cons queued rest ih => simp only [offerAll, List.map_cons, ih]

/-- A pass over the queue: an event of the key is cancelled exactly where its press is gone
behind the pass. -/
theorem offerAll_presses {guards : Guards} {after : Option Nat} (all : guards.OffersAll)
    {queue : List Queued} {this : DropAllKeys} {before : Option Nat} {gone : Nat → Prop}
    (offered : Offered this queue) (agrees : Agrees this key gone before)
    (follows : Follows pairs key before queue after)
    (distinct : (places queue).Nodup)
    (fresh : ∀ queued ∈ queue, ¬gone queued.position)
    (front : ∀ place ∈ before, place ∉ places queue) :
    let passed := offerAll pairs guards this queue
    let goes place := gone place ∨ place ∈ canceledPlaces passed.2
    Follows pairs key before passed.2 after ∧ Agrees passed.1 key goes after ∧
      ∀ queued ∈ passed.2, ∀ phase, queued.keyEvent pairs = some (key, phase) →
        (queued.item.canceled = true ↔ goes queued.press) := by
  induction queue generalizing this before gone with
  | nil => simpa [offerAll, canceledPlaces, Follows, ← show before = after from follows]
      using agrees
  | cons queued rest ih =>
      obtain ⟨apart, others⟩ := List.nodup_cons.mp distinct
      have notFront : queued.position ∉ before := fun member =>
        front _ member List.mem_cons_self
      have notGone : ¬gone queued.position := fresh queued List.mem_cons_self
      obtain ⟨next, nextFollows, mark, nextOf, nextAgrees, judged⟩ :=
        ruling_follows agrees follows notGone notFront
      have nextFront : ∀ place ∈ next, place ∉ places rest := by
        intro place member inside
        rcases nextOf place member with earlier | rfl
        · exact front place earlier (List.mem_cons_of_mem _ inside)
        · exact apart inside
      have nextFresh : ∀ other ∈ rest, ¬(gone other.position ∨
          (ruling pairs this queued.item.event).1 = true ∧ other.position = queued.position) := by
        intro other member out
        rcases out with earlier | ⟨-, equal⟩
        · exact fresh other (List.mem_cons_of_mem _ member) earlier
        · exact apart (List.mem_map.mpr ⟨other, member, equal⟩)
      obtain ⟨restFollows, restAgrees, restCanceled⟩ :=
        ih (offered.tail _) nextAgrees nextFollows others nextFresh nextFront
      rw [offerAll_cons all offered]
      simp only [mem_canceledPlaces_mark, ← or_assoc]
      refine ⟨mark _ restFollows, restAgrees, fun other member phase known => ?_⟩
      rcases List.mem_cons.mp member with rfl | later
      · obtain ⟨canceled, place⟩ := judged phase known
        have notLater : queued.press ∉ canceledPlaces
            (offerAll pairs guards
              { this with dropped_ := (ruling pairs this queued.item.event).2 } rest).2 := by
          intro inside
          have among := canceledPlaces_subset inside
          rw [offerAll_positions] at among
          rcases place with earlier | equal
          · exact front _ earlier (List.mem_cons_of_mem _ among)
          · rw [equal] at among
            exact apart among
        simp only [Queued.mark_canceled, Queued.mark_press, notLater, or_false]
        exact canceled
      · exact restCanceled other later phase known

/-- An item behind a pass is one of the queue, judged with some dropped_. -/
theorem mem_offerAll {guards : Guards} (all : guards.OffersAll) {queue : List Queued}
    {this : DropAllKeys} (offered : Offered this queue) {queued : Queued}
    (member : queued ∈ (offerAll pairs guards this queue).2) :
    ∃ original ∈ queue, ∃ dropped_,
      queued =
        original.mark (ruling pairs { this with dropped_ } original.item.event).1 := by
  induction queue generalizing this with
  | nil => cases member
  | cons front rest ih =>
      rw [offerAll_cons all offered] at member
      rcases List.mem_cons.mp member with rfl | later
      · exact ⟨front, List.mem_cons_self, this.dropped_, rfl⟩
      · obtain ⟨original, inside, dropped_, same⟩ := ih (offered.tail _) later
        exact ⟨original, List.mem_cons_of_mem _ inside, dropped_, same⟩

/-- A pass changes nothing but dropped_. -/
theorem offerAll_this {guards : Guards} (all : guards.OffersAll) {queue : List Queued}
    {this : DropAllKeys} (offered : Offered this queue) :
    ∃ dropped_, (offerAll pairs guards this queue).1 = { this with dropped_ } := by
  induction queue generalizing this with
  | nil => exact ⟨this.dropped_, rfl⟩
  | cons front rest ih =>
      rw [offerAll_cons all offered]
      obtain ⟨dropped_, same⟩ := ih (offered.tail _)
      exact ⟨dropped_, same⟩

/-- What a pass keeps, where a predicate says what stays. -/
theorem offerAll_kept {guards : Guards} (all : guards.OffersAll) {stays : Queued → Prop}
    [DecidablePred stays] (marked : ∀ canceled queued, stays (Queued.mark canceled queued) ↔
      stays queued) {queue : List Queued} {this : DropAllKeys} (offered : Offered this queue)
    (judged : ∀ queued ∈ (offerAll pairs guards this queue).2,
      (queued.item.canceled = true ↔ ¬stays queued)) :
    (offerAll pairs guards this queue).2.filter (!·.item.canceled) = queue.filter (stays ·) := by
  induction queue generalizing this with
  | nil => rfl
  | cons front rest ih =>
      have fresh : front.item.canceled = false := (offered front List.mem_cons_self).2.2
      rw [offerAll_cons all offered] at judged ⊢
      have later := ih (offered.tail _) fun queued member =>
        judged queued (List.mem_cons_of_mem _ member)
      have here := judged _ List.mem_cons_self
      rw [marked, Queued.mark_canceled] at here
      simp only [List.filter_cons, Queued.mark_canceled, later]
      by_cases kept : stays front
      · have uncanceled : (ruling pairs this front.item.event).1 = false := by
          simpa [kept] using here
        have same : front.mark false = front := by
          rw [← fresh]; rfl
        simp [uncanceled, kept, same]
      · simp [here.mpr kept, kept]

theorem ruling_down {this : DropAllKeys} {queued : Queued}
    (known : queued.keyEvent pairs = some (key, .down)) :
    (ruling pairs this queued.item.event).1 = true ↔
      this.Drops key ∧ this.modifierMatched_ = true := by
  unfold ruling
  rw [show queued.item.event.keyEvent pairs = some (key, .down) from known]
  by_cases drops : this.Drops key <;> by_cases matched : this.modifierMatched_ = true <;>
    simp [judge, verdict, drops, matched]

theorem ruling_drops {this : DropAllKeys} {queued : Queued} {phase : Phase}
    (known : queued.keyEvent pairs = some (key, phase))
    (canceled : (ruling pairs this queued.item.event).1 = true) : this.Drops key := by
  unfold ruling at canceled
  rw [show queued.item.event.keyEvent pairs = some (key, phase) from known] at canceled
  exact drops_of_judge canceled

theorem ruling_other {this : DropAllKeys} {queued : Queued}
    (other : queued.keyEvent pairs = none) :
    (ruling pairs this queued.item.event).1 = this.dropsButtons queued.item.event := by
  unfold ruling
  rw [show queued.item.event.keyEvent pairs = none from other]

section
variable {before after : Option Nat} {queue : List Queued}

theorem Follows.cases {front : Queued} (follows : Follows pairs key before (front :: queue) after) :
    ((∀ phase, front.keyEvent pairs ≠ some (key, phase)) ∧
      Follows pairs key before queue after) ∨
      (front.keyEvent pairs = some (key, .down) ∧ before = none ∧
        front.press = front.position ∧
        Follows pairs key (some front.position) queue after) ∨
      (front.keyEvent pairs = some (key, .repeats) ∧ before = some front.press ∧
        Follows pairs key before queue after) ∨
      (front.keyEvent pairs = some (key, .up) ∧ before = some front.press ∧
        Follows pairs key none queue after) := by
  by_cases own : ∃ phase, front.keyEvent pairs = some (key, phase)
  · obtain ⟨phase, known⟩ := own
    cases phase with
    | down => exact Or.inr (Or.inl ⟨known, (follows_down known).mp follows⟩)
    | repeats => exact Or.inr (Or.inr (Or.inl ⟨known, (follows_repeats known).mp follows⟩))
    | up => exact Or.inr (Or.inr (Or.inr ⟨known, (follows_up known).mp follows⟩))
  · have other (phase : Phase) : front.keyEvent pairs ≠ some (key, phase) :=
      fun known => own ⟨phase, known⟩
    exact Or.inl ⟨other, (follows_other other).mp follows⟩

/-- The down of a press is in the queue. -/
def HasDown (pairs : Pairs) (key : FromEvent) (queue : List Queued) (place : Nat) : Prop :=
  ∃ down ∈ queue, down.keyEvent pairs = some (key, .down) ∧ down.press = down.position ∧
    down.position = place

theorem HasDown.cons {front : Queued} {place : Nat} (has : HasDown pairs key queue place) :
    HasDown pairs key (front :: queue) place := by
  obtain ⟨down, inside, rest⟩ := has
  exact ⟨down, List.mem_cons_of_mem _ inside, rest⟩

/-- The press of an event is the one in front or has its down in the queue, and so has the press
behind the queue. -/
theorem Follows.placed (follows : Follows pairs key before queue after) :
    (∀ queued ∈ queue, ∀ phase, queued.keyEvent pairs = some (key, phase) →
      queued.press ∈ before ∨ HasDown pairs key queue queued.press) ∧
      ∀ place ∈ after, place ∈ before ∨ HasDown pairs key queue place := by
  induction queue generalizing before with
  | nil =>
      have same : before = after := follows
      exact ⟨fun _ member => absurd member List.not_mem_nil,
        fun place member => Or.inl (same ▸ member)⟩
  | cons front rest ih =>
      rcases follows.cases with ⟨other, later⟩ | ⟨known, idle, press, later⟩ |
        ⟨known, current, later⟩ | ⟨known, current, later⟩
      · obtain ⟨events, last⟩ := ih later
        refine ⟨fun queued member phase is => ?_,
          fun place member => (last place member).imp_right .cons⟩
        rcases List.mem_cons.mp member with rfl | inside
        · exact absurd is (other phase)
        · exact (events queued inside phase is).imp_right .cons
      · obtain ⟨events, last⟩ := ih later
        have here : HasDown pairs key (front :: rest) front.position :=
          ⟨front, List.mem_cons_self, known, press, rfl⟩
        have lift {place : Nat} (either : place ∈ some front.position ∨
            HasDown pairs key rest place) : HasDown pairs key (front :: rest) place := by
          rcases either with equal | has
          · exact Option.mem_some_iff.mp equal ▸ here
          · exact has.cons
        refine ⟨fun queued member phase is => Or.inr ?_,
          fun place member => Or.inr (lift (last place member))⟩
        rcases List.mem_cons.mp member with rfl | inside
        · exact press ▸ here
        · exact lift (events queued inside phase is)
      · obtain ⟨events, last⟩ := ih later
        refine ⟨fun queued member phase is => ?_,
          fun place member => (last place member).imp_right .cons⟩
        rcases List.mem_cons.mp member with rfl | inside
        · exact Or.inl current
        · exact (events queued inside phase is).imp_right .cons
      · obtain ⟨events, last⟩ := ih later
        have lift {place : Nat} (either : place ∈ (none : Option Nat) ∨
            HasDown pairs key rest place) : HasDown pairs key (front :: rest) place := by
          rcases either with impossible | has
          · cases impossible
          · exact has.cons
        refine ⟨fun queued member phase is => ?_,
          fun place member => Or.inr (lift (last place member))⟩
        rcases List.mem_cons.mp member with rfl | inside
        · exact Or.inl current
        · exact Or.inr (lift (events queued inside phase is))

/-- With a press in progress whose down is not in the queue, the queue has nothing else of the
key. -/
theorem Follows.same {place : Nat} (follows : Follows pairs key before queue (some place))
    (outside : place ∉ places queue) :
    before = some place ∧ ∀ queued ∈ queue, ∀ phase,
      queued.keyEvent pairs = some (key, phase) → queued.press = place := by
  induction queue generalizing before with
  | nil => exact ⟨follows, fun _ member => absurd member List.not_mem_nil⟩
  | cons front rest ih =>
      have apart : place ≠ front.position := fun equal =>
        outside (equal ▸ List.mem_cons_self)
      have notLater : place ∉ places rest := fun inside =>
        outside (List.mem_cons_of_mem _ inside)
      rcases follows.cases with
        ⟨other, later⟩ | ⟨-, -, -, later⟩ | ⟨-, current, later⟩ |
        ⟨-, -, later⟩
      · obtain ⟨first, events⟩ := ih later notLater
        refine ⟨first, fun queued member phase is => ?_⟩
        rcases List.mem_cons.mp member with rfl | inside
        · exact absurd is (other phase)
        · exact events queued inside phase is
      · exact absurd (Option.some.inj (ih later notLater).1).symm apart
      · obtain ⟨first, events⟩ := ih later notLater
        refine ⟨first, fun queued member phase is => ?_⟩
        rcases List.mem_cons.mp member with rfl | inside
        · exact Option.some.inj (current.symm.trans first)
        · exact events queued inside phase is
      · cases (ih later notLater).1

section
variable {goes : Nat → Prop} [DecidablePred goes] {place : Nat}

theorem filter_gone (gone : goes place) :
    (some place).filter (fun other => decide ¬goes other) = none := by
  simp [Option.filter, gone]

theorem filter_stays (stays : ¬goes place) :
    (some place).filter (fun other => decide ¬goes other) = some place := by
  simp [Option.filter, stays]

end

/-- Without the presses that go, whole presses are left. -/
theorem Follows.kept {goes : Nat → Prop} [DecidablePred goes]
    (follows : Follows pairs key before queue after)
    (judged : ∀ queued ∈ queue, ∀ phase, queued.keyEvent pairs = some (key, phase) →
      (queued.item.canceled = true ↔ goes queued.press)) :
    Follows pairs key (before.filter (¬goes ·)) (queue.filter (!·.item.canceled))
      (after.filter (¬goes ·)) := by
  induction queue generalizing before with
  | nil => exact congrArg (Option.filter (¬goes ·)) follows
  | cons front rest ih =>
      have judgedLater := fun queued inside => judged queued (List.mem_cons_of_mem _ inside)
      have here := judged front List.mem_cons_self
      have skip (canceled : front.item.canceled = true) :
          (front :: rest).filter (!·.item.canceled) = rest.filter (!·.item.canceled) :=
        List.filter_cons_of_neg (by simp [canceled])
      have keep (kept : ¬front.item.canceled = true) :
          (front :: rest).filter (!·.item.canceled) =
            front :: rest.filter (!·.item.canceled) :=
        List.filter_cons_of_pos (by simp [kept])
      rcases follows.cases with ⟨other, later⟩ | ⟨known, rfl, press, later⟩ |
        ⟨known, rfl, later⟩ | ⟨known, rfl, later⟩
      all_goals
        have later := ih later judgedLater
        by_cases canceled : front.item.canceled = true
      · rw [skip canceled]
        exact later
      · rw [keep canceled]
        exact (follows_other other).mpr later
      · rw [filter_gone (press ▸ (here _ known).mp canceled)] at later
        rw [skip canceled]
        exact later
      · rw [filter_stays (press ▸ mt (here _ known).mpr canceled)] at later
        rw [keep canceled]
        exact (follows_down known).mpr ⟨rfl, press, later⟩
      · rw [skip canceled]
        exact later
      · rw [filter_stays (mt (here _ known).mpr canceled)] at later ⊢
        rw [keep canceled]
        exact (follows_repeats known).mpr ⟨rfl, later⟩
      · rw [skip canceled, filter_gone ((here _ known).mp canceled)]
        exact later
      · rw [filter_stays (mt (here _ known).mpr canceled), keep canceled]
        exact (follows_up known).mpr ⟨rfl, later⟩

theorem Follows.tail (follows : Follows pairs key before queue after) :
    ∃ next, Follows pairs key next queue.tail after ∧
      ∀ place ∈ next, place ∈ before ∨
        ∃ front ∈ queue.head?, front.keyEvent pairs = some (key, .down) ∧
          front.press = place ∧
          front.position = place := by
  cases queue with
  | nil => exact ⟨before, follows, fun _ => Or.inl⟩
  | cons front rest =>
      rcases follows.cases with ⟨-, later⟩ | ⟨known, -, press, later⟩ | ⟨-, -, later⟩ |
        ⟨-, -, later⟩
      · exact ⟨before, later, fun _ => Or.inl⟩
      · refine ⟨some front.position, later, fun place member =>
          Or.inr ⟨front, rfl, known, ?_⟩⟩
        obtain rfl := Option.mem_some_iff.mp member
        exact ⟨press, rfl⟩
      · exact ⟨before, later, fun _ => Or.inl⟩
      · exact ⟨none, later, fun _ member => by cases member⟩

theorem follows_nothing
    (nothing : ∀ queued ∈ queue, ∀ phase, queued.keyEvent pairs ≠ some (key, phase)) :
    Follows pairs key before queue before := by
  induction queue with
  | nil => rfl
  | cons front rest ih =>
      refine (follows_other (nothing front List.mem_cons_self)).mpr (ih fun queued inside => ?_)
      exact nothing queued (List.mem_cons_of_mem _ inside)

theorem Follows.append {middle : Option Nat} {more : List Queued}
    (first : Follows pairs key before queue middle) (second : Follows pairs key middle more after) :
    Follows pairs key before (queue ++ more) after := by
  induction queue generalizing before with
  | nil => exact (show before = middle from first) ▸ second
  | cons front rest ih =>
      rcases first.cases with ⟨other, later⟩ | ⟨known, idle, press, later⟩ |
        ⟨known, current, later⟩ | ⟨known, current, later⟩
      · exact (follows_other other).mpr (ih later)
      · exact (follows_down known).mpr ⟨idle, press, ih later⟩
      · exact (follows_repeats known).mpr ⟨current, ih later⟩
      · exact (follows_up known).mpr ⟨current, ih later⟩

end

end Karabiner.DropAllKeys
