import Karabiner.SimultaneousKeyPresses
import Mathlib.Data.List.Nodup
import Mathlib.Tactic.Common

set_option autoImplicit false

/- What SimultaneousKeyPresses finds in queue_: the key-downs of a combination, which it
takes by their places, and the from-key that a key-up releases. -/
namespace Karabiner.SimultaneousKeyPresses

open Remapping (ItemId)

/-- A key of a device. -/
abbrev PressKey := Nat × Option FromEvent

def fromEventOf (item : QueueItem) : FromEvent := .ofParams item.params

def pressOf (item : QueueItem) : PressKey := (item.device, some (fromEventOf item))

def isDown (item : QueueItem) : Bool := item.params.iskeydown == some true

theorem isDown_of_iskeydown {item : QueueItem} {down : Bool}
    (known : item.params.iskeydown = some down) : isDown item = down := by
  simp [isDown, known]

/-- What the hardware enqueues. -/
structure IsTarget (item : QueueItem) : Prop where
  target : item.isSimultaneousKeyPressesTarget = true
  downOrUp : item.params.iskeydown = some (isDown item)
  hardware : item.enqueuedFrom = .HARDWARE
  notRepeat : item.params.isRepeat = false

theorem Arrival.isTarget (arrival : EventInputQueue.Arrival) : IsTarget arrival.item where
  target := rfl
  downOrUp := by
    have down : isDown arrival.item = arrival.isDown := isDown_of_iskeydown arrival.iskeydown
    show arrival.params.iskeydown = some (isDown arrival.item)
    rw [down, arrival.iskeydown]
  hardware := rfl
  notRepeat := arrival.notRepeat

theorem targetIsDown_of_isTarget {item : QueueItem} (isTarget : IsTarget item)
    (fromEvent : FromEvent) :
    fromEvent.targetIsDown item.params =
      if fromEvent = fromEventOf item then some (isDown item) else none :=
  FromEvent.targetIsDown_of_iskeydown isTarget.downOrUp fromEvent

theorem isTargetUpEvent_of_isTarget {item : QueueItem} (isTarget : IsTarget item)
    (fromEvent : FromEvent) :
    fromEvent.isTargetUpEvent item.params = true ↔
      fromEvent = fromEventOf item ∧ isDown item = false := by
  rw [FromEvent.isTargetUpEvent, targetIsDown_of_isTarget isTarget]
  split <;> simp_all

/-- The first element with an answer, and none in front of it has one. -/
theorem findSome?_zipIdx {α β : Type*} {answer : α × Nat → Option β}
    {list : List α} {b : β}
    (found : list.zipIdx.findSome? answer = some b) :
    ∃ (index : Nat) (a : α), list[index]? = some a ∧ answer (a, index) = some b ∧
      ∀ before < index, ∀ c, list[before]? = some c → answer (c, before) = none := by
  obtain ⟨front, entry, rest, split_, answered, skipped⟩ := List.findSome?_eq_some_iff.mp found
  have here : list.zipIdx[front.length]? = some entry := by simp [split_]
  rw [List.getElem?_zipIdx, Option.map_eq_some_iff] at here
  obtain ⟨a, present, rfl⟩ := here
  rw [Nat.zero_add] at answered
  refine ⟨front.length, a, present, answered, ?_⟩
  intro before earlier c there
  apply skipped
  have member : list.zipIdx[before]? = some (c, before) := by
    rw [List.getElem?_zipIdx, there, Option.map_some, Nat.zero_add]
  rw [split_, List.getElem?_append_left earlier] at member
  exact List.mem_of_getElem? member

/-- The downKeys_ after the items of queue_ in front of a place. -/
structure Scanned (config : SimultaneousKeyPresses) (seen : List QueueItem)
    (downKeys : DownKeys) : Prop where
  length : downKeys.length = config.fromInfo.length
  placed : ∀ (index place : Nat) (item : QueueItem),
    downKeys[index]? = some (some (place, item)) →
    seen[place]? = some item ∧ isDown item = true ∧
      config.fromInfo[index]? = some (fromEventOf item) ∧
        ∀ before < index, config.fromInfo[before]? ≠ some (fromEventOf item)
  noUp : ∀ item ∈ seen, fromEventOf item ∈ config.fromInfo → isDown item = true

/-- The key-downs of a combination, each for the first from-key that it is one of. -/
structure Taken (config : SimultaneousKeyPresses) (queue : List QueueItem)
    (taken : List (Nat × QueueItem)) : Prop where
  keys : taken.map (fun place => fromEventOf place.2) = config.fromInfo
  distinct : config.fromInfo.Nodup
  placed : ∀ place ∈ taken, queue[place.1]? = some place.2
  down : ∀ place ∈ taken, isDown place.2 = true
  noUp : ∀ place ∈ taken, ∀ item ∈ queue.take place.1,
    fromEventOf item ∈ config.fromInfo → isDown item = true

variable {config : SimultaneousKeyPresses}

theorem markDownKey_cases {downKeys next : DownKeys} {place : Nat} {item : QueueItem}
    (isTarget : IsTarget item) (marked : config.markDownKey downKeys place item = some next) :
    (next = downKeys ∧ fromEventOf item ∉ config.fromInfo) ∨
      ∃ index, isDown item = true ∧ next = downKeys.set index (some (place, item)) ∧
        config.fromInfo[index]? = some (fromEventOf item) ∧
          ∀ before < index, config.fromInfo[before]? ≠ some (fromEventOf item) := by
  unfold markDownKey at marked
  simp only [targetIsDown_of_isTarget isTarget] at marked
  split at marked
  · next none_found =>
      have absent : fromEventOf item ∉ config.fromInfo := by
        intro member
        obtain ⟨index, inside, present⟩ := List.mem_iff_getElem.mp member
        have skipped := List.findSome?_eq_none_iff.mp none_found (config.fromInfo[index], index)
          (List.mem_zipIdx_iff_getElem?.mpr (List.getElem?_eq_getElem inside))
        simp [present] at skipped
      exact .inl ⟨(Option.some.inj marked).symm, absent⟩
  · next index found =>
      obtain ⟨at_, fromEvent, present, answered, skipped⟩ := findSome?_zipIdx found
      by_cases same : fromEvent = fromEventOf item
      · simp only [same, if_true, Option.map_some, Option.some.injEq, Prod.mk.injEq] at answered
        obtain ⟨down, rfl⟩ := answered
        refine .inr ⟨at_, down, (Option.some.inj marked).symm, same ▸ present, ?_⟩
        intro before earlier there
        have skip := skipped before earlier _ there
        simp at skip
      · simp [same] at answered
  · next index found => simp at marked

theorem Scanned.mark {seen : List QueueItem} {downKeys next : DownKeys} {item : QueueItem}
    (scanned : Scanned config seen downKeys) (isTarget : IsTarget item)
    (marked : config.markDownKey downKeys seen.length item = some next) :
    Scanned config (seen ++ [item]) next := by
  have last : (seen ++ [item])[seen.length]? = some item := by simp
  have kept : ∀ (place : Nat) (old : QueueItem), seen[place]? = some old →
      (seen ++ [item])[place]? = some old := by
    intro place old present
    have inside : place < seen.length := (List.getElem?_eq_some_iff.mp present).choose
    rw [List.getElem?_append_left inside, present]
  rcases markDownKey_cases isTarget marked with
    ⟨rfl, absent⟩ | ⟨index, down, rfl, key, first⟩
  · refine ⟨scanned.length, ?_, ?_⟩
    · intro index place old filled
      have old_placed := scanned.placed index place old filled
      exact ⟨kept place old old_placed.1, old_placed.2⟩
    · intro other member isFrom
      rcases List.mem_append.mp member with before | here
      · exact scanned.noUp other before isFrom
      · rw [List.mem_singleton.mp here] at isFrom
        exact absurd isFrom absent
  · refine ⟨by rw [List.length_set, scanned.length], ?_, ?_⟩
    · intro other place old filled
      rw [List.getElem?_set] at filled
      split at filled
      · next same =>
          split at filled
          · obtain ⟨rfl, rfl⟩ : seen.length = place ∧ item = old := by simpa using filled
            exact ⟨last, down, same ▸ key, same ▸ first⟩
          · simp at filled
      · have old_placed := scanned.placed other place old filled
        exact ⟨kept place old old_placed.1, old_placed.2⟩
    · intro other member isFrom
      rcases List.mem_append.mp member with before | here
      · exact scanned.noUp other before isFrom
      · rw [List.mem_singleton.mp here]
        exact down

theorem exists_map_some {downKeys : DownKeys} (filled : downKeys.all (·.isSome) = true) :
    ∃ taken : List (Nat × QueueItem), downKeys = taken.map some ∧
      downKeys.filterMap (fun downKey => downKey) = taken := by
  refine ⟨downKeys.filterMap fun downKey => downKey, ?_, rfl⟩
  rw [List.map_filterMap_some_eq_filter_map_isSome, List.map_id', List.filter_eq_self.mpr]
  exact List.all_eq_true.mp filled

theorem Scanned.complete {queue seen rest : List QueueItem} {downKeys : DownKeys}
    (split_ : queue = seen ++ rest) (scanned : Scanned config seen downKeys)
    (filled : downKeys.all (·.isSome) = true) :
    Taken config queue (downKeys.filterMap fun downKey => downKey) := by
  obtain ⟨taken, rfl, same⟩ := exists_map_some filled
  rw [same]
  have placed : ∀ (index : Nat) (place : Nat × QueueItem), taken[index]? = some place →
      seen[place.1]? = some place.2 ∧ isDown place.2 = true ∧
        config.fromInfo[index]? = some (fromEventOf place.2) ∧
          ∀ before < index, config.fromInfo[before]? ≠ some (fromEventOf place.2) := by
    intro index place present
    apply scanned.placed index place.1 place.2
    rw [List.getElem?_map, present, Option.map_some]
  have keys : taken.map (fun place => fromEventOf place.2) = config.fromInfo := by
    have length : taken.length = config.fromInfo.length := by simpa using scanned.length
    apply List.ext_getElem?
    intro index
    by_cases inside : index < taken.length
    · have present := List.getElem?_eq_getElem inside
      rw [List.getElem?_map, present, Option.map_some, (placed index _ present).2.2.1]
    · rw [List.getElem?_eq_none (by simpa using inside), List.getElem?_eq_none (by omega)]
  refine ⟨keys, ?_, ?_, ?_, ?_⟩
  · rw [List.nodup_iff_getElem?_ne_getElem?]
    intro first second earlier inside equal
    have here : second < taken.length := by
      rwa [← keys, List.length_map] at inside
    have later := placed second _ (List.getElem?_eq_getElem here)
    exact later.2.2.2 first earlier (equal.trans later.2.2.1)
  · intro place member
    obtain ⟨index, present⟩ := List.mem_iff_getElem?.mp member
    have here := (placed index place present).1
    rw [split_, List.getElem?_append_left (List.getElem?_eq_some_iff.mp here).choose, here]
  · intro place member
    obtain ⟨index, present⟩ := List.mem_iff_getElem?.mp member
    exact (placed index place present).2.1
  · intro place member item before isFrom
    obtain ⟨index, present⟩ := List.mem_iff_getElem?.mp member
    have inside := (List.getElem?_eq_some_iff.mp (placed index place present).1).choose
    rw [split_, List.take_append_of_le_length (Nat.le_of_lt inside)] at before
    exact scanned.noUp item (List.mem_of_mem_take before) isFrom

theorem scan_taken {queue rest seen : List QueueItem} {downKeys : DownKeys}
    {taken : List (Nat × QueueItem)} (split_ : queue = seen ++ rest)
    (targets : ∀ item ∈ rest, IsTarget item) (scanned : Scanned config seen downKeys)
    (complete : config.scan downKeys seen.length rest = some taken) :
    Taken config queue taken := by
  induction rest generalizing seen downKeys with
  | nil => simp [scan] at complete
  | cons item rest ih =>
      have isTarget := targets item (by simp)
      have regroup : queue = (seen ++ [item]) ++ rest := by simp [split_]
      rw [scan, isTarget.target] at complete
      simp only [Bool.not_true, Bool.false_eq_true, if_false] at complete
      split at complete
      · simp at complete
      · next next marked =>
          have further := scanned.mark isTarget marked
          split at complete
          · simp at complete
          · split at complete
            · next filled =>
                rw [← Option.some.inj complete]
                exact further.complete regroup filled
            · have later := fun member => targets member
              apply ih regroup (fun other member => targets other (by simp [member])) further
              simpa using complete

theorem completeDownKeys_taken {queue : List QueueItem} {taken : List (Nat × QueueItem)}
    (targets : ∀ item ∈ queue, IsTarget item)
    (complete : config.completeDownKeys queue = some taken) :
    Taken config queue taken ∧ taken ≠ [] := by
  unfold completeDownKeys at complete
  split at complete
  · simp at complete
  · next front rest =>
      split at complete
      · next isFrom =>
          have empty : Scanned config [] (List.replicate config.fromInfo.length none) := by
            refine ⟨by simp, ?_, by simp⟩
            intro index place item filled
            simp [List.getElem?_replicate] at filled
          have split_ : front :: rest = [] ++ front :: rest := rfl
          have result := scan_taken split_ targets empty complete
          refine ⟨result, ?_⟩
          rintro rfl
          simp [← result.keys] at isFrom
      · simp at complete

theorem removePlaces_eq (queue : List QueueItem) (places : List Nat) :
    removePlaces queue places =
      (queue.zipIdx.filter fun entry => !decide (entry.2 ∈ places)).map Prod.fst := by
  simp [removePlaces]

/-- The items at other places stay, in their order. -/
theorem filter_removePlaces (places : List Nat) (p : QueueItem → Bool) (queue : List QueueItem)
    (start : Nat)
    (other : ∀ (index : Nat) (item : QueueItem), queue[index]? = some item →
      start + index ∈ places →
      p item = false) :
    (((queue.zipIdx start).filter fun entry => !decide (entry.2 ∈ places)).map
      Prod.fst).filter p =
      queue.filter p := by
  induction queue generalizing start with
  | nil => simp
  | cons item queue ih =>
      have later := ih (start + 1) fun index next present removed =>
        other (index + 1) next (by simpa using present) (by
          rwa [Nat.add_assoc, Nat.add_comm 1 index] at removed)
      rw [List.zipIdx_cons]
      by_cases removed : start ∈ places
      · have absent := other 0 item (by simp) (by simpa using removed)
        simp [removed, absent, later]
      · cases chosen : p item <;> simp [removed, chosen, later]

theorem filter_removePlaces_of_first {places : List Nat} {p : QueueItem → Bool}
    {queue : List QueueItem} {place : Nat} {item : QueueItem} (here : queue[place]? = some item)
    (chosen : p item = true) (isRemoved : place ∈ places)
    (earlier : ∀ before ∈ queue.take place, p before = false)
    (unique : ∀ (index : Nat) (other : QueueItem), queue[index]? = some other →
      index ∈ places → p other = true → index = place) :
    queue.filter p = item :: (removePlaces queue places).filter p := by
  obtain ⟨inside, present⟩ := List.getElem?_eq_some_iff.mp here
  have split_ : queue = queue.take place ++ item :: queue.drop (place + 1) := by
    rw [← present, List.getElem_cons_drop, List.take_append_drop]
  have length : (queue.take place).length = place := by
    rw [List.length_take]
    omega
  have front_empty : (queue.take place).filter p = [] := List.filter_eq_nil_iff.mpr (by
    simpa using earlier)
  have front : ((((queue.take place).zipIdx 0).filter fun entry =>
      !decide (entry.2 ∈ places)).map Prod.fst).filter p = [] := by
    rw [filter_removePlaces places p (queue.take place) 0, front_empty]
    intro index other there _
    exact earlier other (List.mem_of_getElem? there)
  have rest : ((((queue.drop (place + 1)).zipIdx (place + 1)).filter fun entry =>
      !decide (entry.2 ∈ places)).map Prod.fst).filter p = (queue.drop (place + 1)).filter p := by
    apply filter_removePlaces
    intro index other there removed
    by_contra match_
    have at_ := unique (place + 1 + index) other (by rwa [← List.getElem?_drop]) removed
      (by simpa using match_)
    omega
  have removed : (removePlaces queue places).filter p = (queue.drop (place + 1)).filter p := by
    rw [removePlaces_eq]
    conv_lhs => rw [split_]
    rw [List.zipIdx_append, length, List.zipIdx_cons, List.filter_append, List.map_append,
      List.filter_append, front, Nat.zero_add, List.nil_append,
      List.filter_cons_of_neg (by simpa using isRemoved), rest]
  rw [removed]
  conv_lhs => rw [split_]
  rw [List.filter_append, front_empty, List.filter_cons_of_pos chosen, List.nil_append]

/-- The info is about a from-key of the item and the device. -/
structure IsActive (config : SimultaneousKeyPresses) (id : ItemId) (event : QueueItem)
    (info : ActiveFromInfo) : Prop where
  item : info.item = id
  device : info.device = event.device
  key : config.fromInfo[info.index]? = some (fromEventOf event)

theorem activeForUp_some {id : ItemId} {front : QueueItem} {infos : List ActiveFromInfo}
    {active : ActiveFromInfo} (isTarget : IsTarget front)
    (found : activeForUp config id front infos = some active) :
    active ∈ infos ∧ IsActive config id front active ∧ isDown front = false := by
  obtain ⟨index, fromEvent, present, answered, -⟩ := findSome?_zipIdx found
  dsimp only at answered
  split at answered
  · next isUp =>
      obtain ⟨rfl, up⟩ := (isTargetUpEvent_of_isTarget isTarget fromEvent).mp isUp
      have member := List.mem_of_find?_eq_some answered
      have chosen := List.find?_some answered
      simp only [decide_eq_true_eq] at chosen
      exact ⟨member, ⟨chosen.1, chosen.2.2, chosen.2.1 ▸ present⟩, up⟩
  · simp at answered

theorem activeForUp_none {id : ItemId} {front : QueueItem} {infos : List ActiveFromInfo}
    (isTarget : IsTarget front) (up : isDown front = false)
    (found : activeForUp config id front infos = none) :
    ∀ info ∈ infos, ¬IsActive config id front info := by
  intro info member active
  have skipped := List.findSome?_eq_none_iff.mp found (fromEventOf front, info.index)
    (List.mem_zipIdx_iff_getElem?.mpr active.key)
  have isUp := (isTargetUpEvent_of_isTarget isTarget (fromEventOf front)).mpr ⟨rfl, up⟩
  simp only [isUp, if_true] at skipped
  have missed := List.find?_eq_none.mp skipped info member
  simp [active.item, active.device] at missed

end Karabiner.SimultaneousKeyPresses
