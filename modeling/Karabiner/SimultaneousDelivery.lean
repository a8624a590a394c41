import Karabiner.SimultaneousLedger

set_option autoImplicit false

/- The events of each key leave queue_ in the order of their arrival, and the from-keys in
ActiveFromInfos are those whose last event was a key-down that a combination took. -/
namespace Karabiner.SimultaneousKeyPresses

open Remapping (ItemId)

variable {Environment : Type*}

/-- The downs and ups of each key of each device alternate. -/
def Alternating (arrivals : List QueueItem) : Prop :=
  ∀ press, ((arrivals.filter (isEventOf press)).map isDown).IsChain (· ≠ ·)

structure Delivered (configs : List (List (Configured Environment)))
    (arrivals queue : List QueueItem) (infos : List ActiveFromInfo) (log : List Entry) :
    Prop where
  order : ∀ press, (history press log).map Prod.fst ++ queue.filter (isEventOf press) =
    arrivals.filter (isEventOf press)
  fates : ∀ press, Fates (history press log)
  held : ∀ press, press ∈ infos.map (pressOfInfo configs) ↔ pending (history press log) = true
  nodup : (infos.map (pressOfInfo configs)).Nodup

theorem isEventOf_of_isTarget {item : QueueItem} (isTarget : IsTarget item) (press : PressKey) :
    isEventOf press item = true ↔ pressOf item = press := by
  simp [isEventOf, isTarget.target]

theorem history_concat (press : PressKey) (log : List Entry) (entry : Entry) :
    history press (log ++ [entry]) =
      history press log ++ entry.left.filter fun left => isEventOf press left.1 := by
  simp [history]

theorem pending_concat (before : List (QueueItem × Bool)) (left : QueueItem × Bool) :
    pending (before ++ [left]) = (isDown left.1 && left.2) := by
  simp [pending]

theorem Fates.concat {before : List (QueueItem × Bool)} (fates : Fates before)
    {left : QueueItem × Bool} (fate : isDown left.1 = false → left.2 = pending before) :
    Fates (before ++ [left]) := by
  intro front middle rest split_ up
  rcases List.eq_nil_or_concat rest with rfl | ⟨rest, last, rfl⟩
  · obtain ⟨rfl, same⟩ := List.append_inj' split_ rfl
    obtain rfl := List.singleton_inj.mp same
    exact fate up
  · rw [List.concat_eq_append, ← List.cons_append, ← List.append_assoc] at split_
    obtain ⟨whole, -⟩ := List.append_inj' split_ rfl
    exact fates front middle rest whole up

theorem Alternating.of_append {first second : List QueueItem}
    (alternating : Alternating (first ++ second)) : Alternating first := by
  intro press
  have whole := alternating press
  rw [List.filter_append, List.map_append] at whole
  exact (List.isChain_append.mp whole).1

theorem Alternating.neighbours {arrivals : List QueueItem} (alternating : Alternating arrivals)
    {press : PressKey} {before after : List QueueItem} {first second : QueueItem}
    (split_ : arrivals.filter (isEventOf press) = before ++ first :: second :: after) :
    isDown first ≠ isDown second := by
  have whole := alternating press
  rw [split_, List.map_append, List.map_cons, List.map_cons] at whole
  exact (List.isChain_append_cons_cons.mp whole).2.1

section
variable {configs : List (List (Configured Environment))} {arrivals queue : List QueueItem}
  {infos : List ActiveFromInfo} {log : List Entry}

/-- In front of the next key-down of a key, the last event of the key was a key-up. -/
theorem Delivered.not_pending (delivered : Delivered configs arrivals queue infos log)
    (alternating : Alternating arrivals) {press : PressKey} {down : QueueItem}
    {later : List QueueItem} (next : queue.filter (isEventOf press) = down :: later)
    (isDown_ : isDown down = true) : pending (history press log) = false := by
  have whole := delivered.order press
  rw [next] at whole
  rcases List.eq_nil_or_concat (history press log) with none | ⟨before, left, last⟩
  · rw [none]
    rfl
  · rw [last, List.concat_eq_append] at whole ⊢
    rw [List.map_append, List.append_assoc] at whole
    have different := alternating.neighbours whole.symm
    rw [isDown_] at different
    rw [pending_concat]
    simp [Bool.eq_false_iff.mpr different]

/-- What happens to the events of one key when an entry is written. -/
inductive Moves (press : PressKey) (queue next : List QueueItem)
    (infos rest : List PressKey) (log : List Entry) (entry : Entry) : Prop where
  | stays (same : next.filter (isEventOf press) = queue.filter (isEventOf press))
      (none : (entry.left.filter fun left => isEventOf press left.1) = [])
      (held : press ∈ rest ↔ press ∈ infos)
  | leaves (item : QueueItem) (taken : Bool)
      (first : queue.filter (isEventOf press) = item :: next.filter (isEventOf press))
      (one : (entry.left.filter fun left => isEventOf press left.1) = [(item, taken)])
      (fate : isDown item = false → taken = pending (history press log))
      (held : press ∈ rest ↔ (isDown item && taken) = true)

theorem Delivered.move (delivered : Delivered configs arrivals queue infos log)
    {next : List QueueItem} {rest : List ActiveFromInfo} {entry : Entry}
    (moves : ∀ press, Moves press queue next (infos.map (pressOfInfo configs))
      (rest.map (pressOfInfo configs)) log entry)
    (nodup : (rest.map (pressOfInfo configs)).Nodup) :
    Delivered configs arrivals next rest (log ++ [entry]) := by
  refine ⟨?_, ?_, ?_, nodup⟩
  · intro press
    rw [history_concat, ← delivered.order press]
    cases moves press with
    | stays same none held => rw [none, List.append_nil, same]
    | leaves item taken first one fate held => simp [one, first]
  · intro press
    rw [history_concat]
    cases moves press with
    | stays same none held =>
        rw [none, List.append_nil]
        exact delivered.fates press
    | leaves item taken first one fate held =>
        rw [one]
        exact (delivered.fates press).concat fate
  · intro press
    rw [history_concat]
    cases moves press with
    | stays same none held =>
        rw [none, List.append_nil, held]
        exact delivered.held press
    | leaves item taken first one fate held => rw [one, pending_concat, held]

theorem Delivered.arrive (delivered : Delivered configs arrivals queue infos log)
    (item : QueueItem) : Delivered configs (arrivals ++ [item]) (queue ++ [item]) infos log where
  order := by
    intro press
    rw [List.filter_append, List.filter_append, ← List.append_assoc, delivered.order press]
  fates := delivered.fates
  held := delivered.held
  nodup := delivered.nodup

/-- An event that no combination is about does not count. -/
theorem Delivered.push (delivered : Delivered configs arrivals queue infos log)
    {items : List QueueItem}
    (others : ∀ item ∈ items, item.isSimultaneousKeyPressesTarget = false) :
    Delivered configs arrivals (items ++ queue) infos log where
  order := by
    intro press
    have none : items.filter (isEventOf press) = [] :=
      List.filter_eq_nil_iff.mpr fun item member => by simp [isEventOf, others item member]
    rw [List.filter_append, none, List.nil_append, delivered.order press]
  fates := delivered.fates
  held := delivered.held
  nodup := delivered.nodup

theorem Delivered.fireOther {item : QueueItem} {rest : List QueueItem}
    (delivered : Delivered configs arrivals (item :: rest) infos log)
    (other : item.isSimultaneousKeyPressesTarget = false) :
    Delivered configs arrivals rest infos (log ++ [.fired item]) := by
  apply delivered.move _ delivered.nodup
  intro press
  exact .stays (by simp [isEventOf, other]) (by simp [Entry.left, isEventOf, other]) .rfl

theorem Delivered.fire {item : QueueItem} {rest : List QueueItem}
    (delivered : Delivered configs arrivals (item :: rest) infos log)
    (alternating : Alternating arrivals) (isTarget : IsTarget item)
    (free : isDown item = false → pressOf item ∉ infos.map (pressOfInfo configs)) :
    Delivered configs arrivals rest infos (log ++ [.fired item]) := by
  apply delivered.move _ delivered.nodup
  intro press
  by_cases own : pressOf item = press
  · have chosen := (isEventOf_of_isTarget isTarget press).mpr own
    have first : (item :: rest).filter (isEventOf press) = item :: rest.filter (isEventOf press) :=
      List.filter_cons_of_pos chosen
    have released : pending (history press log) = false := by
      cases down : isDown item with
      | true => exact delivered.not_pending alternating first down
      | false =>
          have absent := free down
          rw [own, delivered.held press] at absent
          simpa using absent
    refine .leaves item false first (by simp [Entry.left, chosen]) (fun _ => released.symm) ?_
    rw [delivered.held press, released]
    simp
  · have skipped : isEventOf press item = false := by
      rw [Bool.eq_false_iff]
      exact fun chosen => own ((isEventOf_of_isTarget isTarget press).mp chosen)
    exact .stays (by simp [skipped]) (by simp [Entry.left, skipped]) .rfl

theorem Delivered.release {up : QueueItem} {rest : List QueueItem}
    (delivered : Delivered configs arrivals (up :: rest) infos log) (isTarget : IsTarget up)
    (isUp : isDown up = false) (active : pressOf up ∈ infos.map (pressOfInfo configs))
    (id : ItemId) (serialNumber : Nat) (pushed : Option QueueItem) :
    Delivered configs arrivals rest (withoutPress configs (pressOf up) infos)
      (log ++ [.released id serialNumber up pushed]) := by
  have presses : (withoutPress configs (pressOf up) infos).map (pressOfInfo configs) =
      (infos.map (pressOfInfo configs)).filter (· ≠ pressOf up) := by
    rw [List.filter_map]
    rfl
  apply delivered.move
  · intro press
    rw [presses]
    by_cases own : pressOf up = press
    · have chosen := (isEventOf_of_isTarget isTarget press).mpr own
      have held := (delivered.held press).mp (own ▸ active)
      refine .leaves up true (List.filter_cons_of_pos chosen) (by simp [Entry.left, chosen])
        (fun _ => held.symm) ?_
      simp [isUp, own]
    · have skipped : isEventOf press up = false := by
        rw [Bool.eq_false_iff]
        exact fun chosen => own ((isEventOf_of_isTarget isTarget press).mp chosen)
      refine .stays (by simp [skipped]) (by simp [Entry.left, skipped]) ?_
      simp [Ne.symm own]
  · rw [presses]
    exact delivered.nodup.filter _

theorem filter_of_nodup_map {α β : Type*} [DecidableEq β] {f : α → β} {list : List α}
    (nodup : (list.map f).Nodup) {a : α} (member : a ∈ list) :
    list.filter (fun b => decide (f b = f a)) = [a] := by
  induction list with
  | nil => simp at member
  | cons head list ih =>
      rw [List.map_cons, List.nodup_cons] at nodup
      rcases List.mem_cons.mp member with rfl | later
      · have none : list.filter (fun b => decide (f b = f a)) = [] := by
          refine List.filter_eq_nil_iff.mpr fun b there => ?_
          simp only [decide_eq_true_eq]
          exact fun same => nodup.1 (same ▸ List.mem_map_of_mem there)
        rw [List.filter_cons_of_pos (by simp), none]
      · have different : f head ≠ f a := fun same => nodup.1 (same ▸ List.mem_map_of_mem later)
        rw [List.filter_cons_of_neg (by simpa using different), ih nodup.2 later]

theorem Taken.keys_nodup {config : SimultaneousKeyPresses} {taken : List (Nat × QueueItem)}
    (isTaken : Taken config queue taken) :
    (taken.map fun place => pressOf place.2).Nodup := by
  have keys : (taken.map fun place => fromEventOf place.2).Nodup :=
    isTaken.keys ▸ isTaken.distinct
  refine List.Nodup.of_map Prod.snd ?_
  rw [List.map_map]
  have composed : (Prod.snd ∘ fun place : Nat × QueueItem => pressOf place.2) =
      some ∘ fun place => fromEventOf place.2 := rfl
  rw [composed, ← List.map_map]
  exact keys.map (Option.some_injective _)

/-- A key-down that is taken is the first event of its key in queue_. -/
theorem Delivered.first_of_taken (delivered : Delivered configs arrivals queue infos log)
    (alternating : Alternating arrivals) (targets : ∀ item ∈ queue, IsTarget item)
    {config : SimultaneousKeyPresses} {taken : List (Nat × QueueItem)}
    (isTaken : Taken config queue taken) {place : Nat × QueueItem} (member : place ∈ taken) :
    queue.filter (isEventOf (pressOf place.2)) =
      place.2 :: (removePlaces queue (taken.map Prod.fst)).filter
        (isEventOf (pressOf place.2)) := by
  have here := isTaken.placed place member
  have inside := (List.getElem?_eq_some_iff.mp here).choose
  have present := (List.getElem?_eq_some_iff.mp here).choose_spec
  have there : place.2 ∈ queue := List.mem_of_getElem? here
  have chosen := (isEventOf_of_isTarget (targets _ there) _).mpr rfl
  apply filter_removePlaces_of_first here chosen (List.mem_map_of_mem member)
  · -- an earlier event of the key is a key-down too, and the two would be neighbours
    by_contra some_
    have nonempty : (queue.take place.1).filter (isEventOf (pressOf place.2)) ≠ [] := by
      intro none
      refine some_ fun before earlier => ?_
      simpa using List.filter_eq_nil_iff.mp none before earlier
    obtain ⟨front, last, split_⟩ := (List.eq_nil_or_concat _).resolve_left nonempty
    rw [List.concat_eq_append] at split_
    have queue_split : queue = queue.take place.1 ++ place.2 :: queue.drop (place.1 + 1) := by
      rw [← present, List.getElem_cons_drop, List.take_append_drop]
    have whole := delivered.order (pressOf place.2)
    rw [queue_split, List.filter_append, split_, List.filter_cons_of_pos chosen,
      List.append_assoc, List.singleton_append, ← List.append_assoc] at whole
    have different := alternating.neighbours whole.symm
    have last_mem : last ∈ (queue.take place.1).filter (isEventOf (pressOf place.2)) := by
      simp [split_]
    obtain ⟨earlier, own⟩ := List.mem_filter.mp last_mem
    have same : pressOf last = pressOf place.2 :=
      (isEventOf_of_isTarget (targets _ (List.mem_of_mem_take earlier)) _).mp own
    have isFrom : fromEventOf last ∈ config.fromInfo := by
      rw [Option.some.inj (Prod.mk.inj same).2, ← isTaken.keys]
      exact List.mem_map_of_mem (f := fun place => fromEventOf place.2) member
    rw [isTaken.down place member, isTaken.noUp place member last earlier isFrom] at different
    exact different rfl
  · intro index other at_ removed own
    obtain ⟨place', member', rfl⟩ := List.mem_map.mp removed
    obtain rfl := Option.some.inj ((isTaken.placed place' member').symm.trans at_)
    have same : pressOf place'.2 = pressOf place.2 :=
      (isEventOf_of_isTarget (targets _ (List.mem_of_getElem? at_)) _).mp own
    have equal := List.inj_on_of_nodup_map isTaken.keys_nodup member' member same
    rw [equal]

theorem Delivered.apply (delivered : Delivered configs arrivals queue infos log)
    (alternating : Alternating arrivals) (targets : ∀ item ∈ queue, IsTarget item)
    {config : SimultaneousKeyPresses} {taken : List (Nat × QueueItem)}
    (isTaken : Taken config queue taken) {added : List ActiveFromInfo}
    (presses : (added.map (pressOfInfo configs)).Perm (taken.map fun place => pressOf place.2))
    (id : ItemId) (serialNumber : Nat) (pushed : Option QueueItem) :
    Delivered configs arrivals (removePlaces queue (taken.map Prod.fst)) (infos ++ added)
      (log ++ [.applied id serialNumber (taken.map Prod.snd) pushed]) := by
  have entry : (Entry.applied id serialNumber (taken.map Prod.snd) pushed).left =
      taken.map fun place => (place.2, true) := by
    simp [Entry.left]
  have isTarget : ∀ place ∈ taken, IsTarget place.2 := fun place member =>
    targets _ (List.mem_of_getElem? (isTaken.placed place member))
  have free : ∀ place ∈ taken, pending (history (pressOf place.2) log) = false :=
    fun place member => delivered.not_pending alternating
      (delivered.first_of_taken alternating targets isTaken member) (isTaken.down place member)
  have filtered : ∀ press, (Entry.applied id serialNumber (taken.map Prod.snd) pushed).left.filter
      (fun left => isEventOf press left.1) =
        (taken.filter fun place => decide (pressOf place.2 = press)).map
          fun place => (place.2, true) := by
    intro press
    rw [entry, List.filter_map]
    refine congrArg (List.map _) (List.filter_congr fun place member => ?_)
    rw [Bool.eq_iff_iff, decide_eq_true_iff]
    exact isEventOf_of_isTarget (isTarget place member) press
  have added_iff : ∀ press, press ∈ added.map (pressOfInfo configs) ↔
      ∃ place ∈ taken, pressOf place.2 = press := by
    intro press
    rw [presses.mem_iff, List.mem_map]
  apply delivered.move
  · intro press
    rw [List.map_append]
    by_cases some_ : ∃ place ∈ taken, pressOf place.2 = press
    · obtain ⟨place, member, rfl⟩ := some_
      refine .leaves place.2 true
        (delivered.first_of_taken alternating targets isTaken member) ?_ ?_ ?_
      · rw [filtered, filter_of_nodup_map (f := fun place => pressOf place.2)
          isTaken.keys_nodup member]
        rfl
      · simp [isTaken.down place member]
      · simp only [isTaken.down place member, Bool.and_true, iff_true]
        exact List.mem_append_right _ ((added_iff _).mpr ⟨place, member, rfl⟩)
    · refine .stays ?_ ?_ (by rw [List.mem_append, added_iff, or_iff_left some_])
      · rw [removePlaces_eq]
        apply filter_removePlaces
        intro index item there removed
        rw [Nat.zero_add] at removed
        obtain ⟨place, member, rfl⟩ := List.mem_map.mp removed
        obtain rfl := Option.some.inj ((isTaken.placed place member).symm.trans there)
        rw [Bool.eq_false_iff]
        intro own
        exact some_ ⟨place, member, (isEventOf_of_isTarget (isTarget place member) _).mp own⟩
      · rw [filtered, List.map_eq_nil_iff, List.filter_eq_nil_iff]
        intro place member own
        exact some_ ⟨place, member, by simpa using own⟩
  · rw [List.map_append, List.nodup_append']
    refine ⟨delivered.nodup, presses.nodup_iff.mpr isTaken.keys_nodup, ?_⟩
    intro press old new
    obtain ⟨place, member, rfl⟩ := (added_iff press).mp new
    have held := (delivered.held _).mp old
    rw [free place member] at held
    exact Bool.noConfusion held

end

end Karabiner.SimultaneousKeyPresses
