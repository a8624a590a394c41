import Karabiner.SimultaneousScan
import Mathlib.Data.List.Chain
import Mathlib.Data.Finset.Card
import Mathlib.Tactic.Common

set_option autoImplicit false

/- The books about the combinations of SimultaneousKeyPresses: what the log says about each
of them, and the three entries that ActiveFromInfos and ActiveItems have to follow. -/
namespace Karabiner.SimultaneousKeyPresses

open Remapping (ItemId)

variable {Environment : Type*}

/-- The events of queue_ that an entry is about, and whether a combination takes them. -/
def Entry.left : Entry → List (QueueItem × Bool)
  | .applied _ _ members _ => members.map (·, true)
  | .released _ _ up _ => [(up, true)]
  | .fired item => [(item, false)]

/-- An event of the hardware, not one that an item has pushed. -/
def isEventOf (press : PressKey) (item : QueueItem) : Bool :=
  item.isSimultaneousKeyPressesTarget && decide (pressOf item = press)

/-- What has become of the events of a key so far. -/
def history (press : PressKey) (log : List Entry) : List (QueueItem × Bool) :=
  (log.flatMap Entry.left).filter fun left => isEventOf press left.1

/-- Whether the last event was a key-down that a combination took. -/
def pending : List (QueueItem × Bool) → Bool :=
  List.foldl (fun _ left => isDown left.1 && left.2) false

/-- A key-up is taken if and only if the key-down of its press was. -/
def Fates (history : List (QueueItem × Bool)) : Prop :=
  ∀ before left rest, history = before ++ left :: rest → isDown left.1 = false →
    left.2 = pending before

/-- An event of push_remapped. -/
structure IsPushed (config : SimultaneousKeyPresses) (down : Bool) (item : QueueItem) : Prop where
  key : item.params.keyboardKey = some config.pushedKey
  iskeydown : item.params.iskeydown = some down
  target : item.isSimultaneousKeyPressesTarget = false

/-- Whether the entry is about the combination that the item applied at the number. -/
def Entry.isOf (id : ItemId) (serialNumber : Nat) : Entry → Bool
  | .applied item number _ _ => item = id ∧ number = serialNumber
  | .released item number _ _ => item = id ∧ number = serialNumber
  | .fired _ => false

/-- A combination pushes one key-down when it takes its from-keys, and one key-up with the
release of the last of them. -/
def Lifecycle (config : SimultaneousKeyPresses) (id : ItemId) (serialNumber : Nat)
    (trace : List Entry) (remaining : List PressKey) : Prop :=
  (trace = [] ∧ remaining = []) ∨
    ∃ (members : List QueueItem) (keyDown : QueueItem)
      (releases : List (QueueItem × Option QueueItem)),
      trace = .applied id serialNumber members (some keyDown) ::
          releases.map (fun (up, pushed) => .released id serialNumber up pushed) ∧
        IsPushed config true keyDown ∧
        members.map fromEventOf = config.fromInfo ∧
        (remaining ++ releases.map fun release => pressOf release.1).Perm
          (members.map pressOf) ∧
        ∀ i release, releases[i]? = some release →
          if i + 1 = members.length then
            ∃ keyUp, release.2 = some keyUp ∧ IsPushed config false keyUp
          else release.2 = none

def lookup (configs : List (List (Configured Environment))) (id : ItemId) :
    Option (Configured Environment) :=
  configs[id.1]?.bind (·[id.2]?)

def Entry.applies (id : ItemId) : Entry → Bool
  | .applied item _ _ _ => item = id
  | _ => false

def Entry.finishes (id : ItemId) : Entry → Bool
  | .released item _ _ pushed => item = id ∧ pushed.isSome
  | _ => false

def applied (id : ItemId) (log : List Entry) : Nat := log.countP (·.applies id)

/-- The key-ups that were pushed for combinations of the item. -/
def finished (id : ItemId) (log : List Entry) : Nat := log.countP (·.finishes id)

@[simp] theorem applied_concat (id : ItemId) (log : List Entry) (entry : Entry) :
    applied id (log ++ [entry]) = applied id log + if entry.applies id then 1 else 0 := by
  rw [applied, List.countP_append, List.countP_singleton, applied]

@[simp] theorem finished_concat (id : ItemId) (log : List Entry) (entry : Entry) :
    finished id (log ++ [entry]) = finished id log + if entry.finishes id then 1 else 0 := by
  rw [finished, List.countP_append, List.countP_singleton, finished]

structure Paired (configs : List (List (Configured Environment))) (state : State Environment) :
    Prop where
  lifecycle : ∀ id item, lookup configs id = some item → ∀ serialNumber, ∃ remaining,
    Lifecycle item.config id serialNumber (state.world.log.filter (·.isOf id serialNumber))
      remaining
  fates : ∀ press, Fates (history press state.world.log)
  active : ∀ id, state.activeItems.count (id, .SIMULTANEOUSBUTTONPRESSES) +
    finished id state.world.log = applied id state.world.log

/-- The from-key of an active FromInfo. -/
def keyOf (configs : List (List (Configured Environment))) (info : ActiveFromInfo) :
    Option FromEvent :=
  (lookup configs info.item).bind fun item => item.config.fromInfo[info.index]?

def pressOfInfo (configs : List (List (Configured Environment))) (info : ActiveFromInfo) :
    PressKey :=
  (info.device, keyOf configs info)

/-- The active from-keys of one combination. -/
def infosOf (id : ItemId) (serialNumber : Nat) (infos : List ActiveFromInfo) :
    List ActiveFromInfo :=
  infos.filter fun info => info.item = id ∧ info.eventInputQueueSerialNumber = serialNumber

/-- The combinations of the item with a from-key that is not released. -/
def serialNumbers (id : ItemId) (infos : List ActiveFromInfo) : Finset Nat :=
  ((infos.filter fun info => info.item = id).map (·.eventInputQueueSerialNumber)).toFinset

/-- ActiveFromInfos without the from-key that a key-up releases. -/
def withoutPress (configs : List (List (Configured Environment))) (press : PressKey)
    (infos : List ActiveFromInfo) : List ActiveFromInfo :=
  infos.filter fun info => pressOfInfo configs info ≠ press

structure Ledger (configs : List (List (Configured Environment))) (infos : List ActiveFromInfo)
    (activeItems : Remapping.ActiveItems) (log : List Entry) : Prop where
  lives : ∀ id item, lookup configs id = some item → ∀ serialNumber,
    Lifecycle item.config id serialNumber (log.filter (·.isOf id serialNumber))
      ((infosOf id serialNumber infos).map (pressOfInfo configs))
  active : ∀ id, activeItems.count (id, .SIMULTANEOUSBUTTONPRESSES) =
    (serialNumbers id infos).card
  settled : ∀ id, (serialNumbers id infos).card + finished id log = applied id log

theorem mem_serialNumbers {id : ItemId} {serialNumber : Nat} {infos : List ActiveFromInfo} :
    serialNumber ∈ serialNumbers id infos ↔ infosOf id serialNumber infos ≠ [] := by
  simp only [serialNumbers, infosOf, List.mem_toFinset, List.mem_map, List.mem_filter,
    decide_eq_true_eq, ne_eq, List.filter_eq_nil_iff, not_forall, not_not]
  constructor
  · rintro ⟨info, ⟨member, own⟩, number⟩
    exact ⟨info, member, own, number⟩
  · rintro ⟨info, member, own, number⟩
    exact ⟨info, ⟨member, own⟩, number⟩

theorem Lifecycle.remaining_nil {config : SimultaneousKeyPresses} {id : ItemId}
    {serialNumber : Nat} {remaining : List PressKey}
    (lifecycle : Lifecycle config id serialNumber [] remaining) : remaining = [] := by
  rcases lifecycle with ⟨-, none⟩ | ⟨members, keyDown, releases, trace, -⟩
  · exact none
  · simp at trace

theorem Lifecycle.perm {config : SimultaneousKeyPresses} {id : ItemId} {serialNumber : Nat}
    {trace : List Entry} {before remaining : List PressKey}
    (lifecycle : Lifecycle config id serialNumber trace before)
    (same : before.Perm remaining) : Lifecycle config id serialNumber trace remaining := by
  rcases lifecycle with
    ⟨empty, rfl⟩ | ⟨members, keyDown, releases, shape, down, keys, perm, ups⟩
  · exact .inl ⟨empty, same.symm.eq_nil⟩
  · have moved := (same.symm.append_right (releases.map fun release => pressOf release.1))
    exact .inr ⟨members, keyDown, releases, shape, down, keys, moved.trans perm, ups⟩

theorem Lifecycle.apply {config : SimultaneousKeyPresses} (id : ItemId) (serialNumber : Nat)
    {members : List QueueItem} {keyDown : QueueItem} {remaining : List PressKey}
    (pushed : IsPushed config true keyDown) (keys : members.map fromEventOf = config.fromInfo)
    (presses : remaining.Perm (members.map pressOf)) :
    Lifecycle config id serialNumber [.applied id serialNumber members (some keyDown)]
      remaining :=
  .inr ⟨members, keyDown, [], rfl, pushed, keys, by simpa using presses, by simp⟩

theorem Lifecycle.release {config : SimultaneousKeyPresses} {id : ItemId} {serialNumber : Nat}
    {trace : List Entry} {before remaining : List PressKey} {up : QueueItem}
    {pushed : Option QueueItem} (lifecycle : Lifecycle config id serialNumber trace before)
    (taken : before.Perm (pressOf up :: remaining))
    (last : if remaining = [] then ∃ keyUp, pushed = some keyUp ∧ IsPushed config false keyUp
      else pushed = none) :
    Lifecycle config id serialNumber (trace ++ [.released id serialNumber up pushed])
      remaining := by
  rcases lifecycle with ⟨-, rfl⟩ | ⟨members, keyDown, releases, rfl, down, keys, perm, ups⟩
  · exact absurd taken.symm.eq_nil (List.cons_ne_nil _ _)
  · have balance := perm.length_eq
    have one := taken.length_eq
    simp only [List.length_append, List.length_map, List.length_cons] at balance one
    refine .inr ⟨members, keyDown, releases ++ [(up, pushed)], by simp, down, keys, ?_, ?_⟩
    · rw [List.map_append, ← List.append_assoc]
      have moved : (remaining ++ releases.map (fun release => pressOf release.1) ++
          [pressOf up]).Perm (before ++ releases.map fun release => pressOf release.1) :=
        (List.perm_append_singleton _ _).trans (taken.symm.append_right _)
      exact moved.trans perm
    · intro index release present
      rcases Nat.lt_or_ge index releases.length with earlier | here
      · rw [List.getElem?_append_left earlier] at present
        exact ups index release present
      · have inside := (List.getElem?_eq_some_iff.mp present).choose
        rw [List.length_append, List.length_singleton] at inside
        obtain rfl : index = releases.length := by omega
        rw [List.getElem?_concat_length] at present
        obtain rfl := Option.some.inj present
        by_cases none : remaining = []
        · rw [if_pos none] at last
          subst none
          rw [if_pos (by simp at one; omega)]
          exact last
        · rw [if_neg none] at last
          have some := List.length_pos_iff.mpr none
          rw [if_neg (by omega)]
          exact last

section
variable {configs : List (List (Configured Environment))} {infos : List ActiveFromInfo}
  {activeItems : Remapping.ActiveItems} {log : List Entry}

theorem Ledger.fire (ledger : Ledger configs infos activeItems log) (item : QueueItem) :
    Ledger configs infos activeItems (log ++ [.fired item]) where
  lives := by
    intro id config known serialNumber
    have same : (log ++ [Entry.fired item]).filter (·.isOf id serialNumber) =
        log.filter (·.isOf id serialNumber) := by
      simp [List.filter_append, Entry.isOf]
    rw [same]
    exact ledger.lives id config known serialNumber
  active := ledger.active
  settled := by
    intro id
    simpa [Entry.applies, Entry.finishes] using ledger.settled id

theorem Ledger.apply (ledger : Ledger configs infos activeItems log) {id : ItemId}
    {item : Configured Environment} (known : lookup configs id = some item) {serialNumber : Nat}
    (unused : log.filter (·.isOf id serialNumber) = []) {members : List QueueItem}
    {keyDown : QueueItem} (pushed : IsPushed item.config true keyDown)
    (keys : members.map fromEventOf = item.config.fromInfo) (some_ : members ≠ [])
    {added : List ActiveFromInfo}
    (own : ∀ info ∈ added, info.item = id ∧ info.eventInputQueueSerialNumber = serialNumber)
    (presses : (added.map (pressOfInfo configs)).Perm (members.map pressOf)) :
    Ledger configs (infos ++ added) (activeItems ++ [(id, .SIMULTANEOUSBUTTONPRESSES)])
      (log ++ [.applied id serialNumber members (some keyDown)]) := by
  have none_before : infosOf id serialNumber infos = [] := by
    have empty := ledger.lives id item known serialNumber
    rw [unused] at empty
    simpa using empty.remaining_nil
  have here : infosOf id serialNumber added = added :=
    List.filter_eq_self.mpr fun info member => by simpa using own info member
  have elsewhere : ∀ other number, ¬(id = other ∧ serialNumber = number) →
      infosOf other number added = [] := by
    intro other number different
    refine List.filter_eq_nil_iff.mpr fun info member => ?_
    obtain ⟨rfl, rfl⟩ := own info member
    simpa using different
  have added_some : added ≠ [] := by
    rintro rfl
    simp only [List.map_nil] at presses
    exact some_ (List.map_eq_nil_iff.mp presses.symm.eq_nil)
  have numbers : serialNumbers id (infos ++ added) =
      insert serialNumber (serialNumbers id infos) := by
    ext number
    rw [Finset.mem_insert, mem_serialNumbers, mem_serialNumbers, infosOf, List.filter_append]
    show infosOf id number infos ++ infosOf id number added ≠ [] ↔ _
    by_cases same : serialNumber = number
    · subst same
      simp [here, added_some]
    · have none := elsewhere id number (fun both => same both.2)
      simp [none, Ne.symm same]
  have others : ∀ other, id ≠ other →
      serialNumbers other (infos ++ added) = serialNumbers other infos := by
    intro other different
    ext number
    have none := elsewhere other number (fun both => different both.1)
    rw [mem_serialNumbers, mem_serialNumbers, infosOf, List.filter_append]
    show infosOf other number infos ++ infosOf other number added ≠ [] ↔ _
    rw [none, List.append_nil]
  have fresh : serialNumber ∉ serialNumbers id infos := by
    rw [mem_serialNumbers]
    simpa using none_before
  refine ⟨?_, ?_, ?_⟩
  · intro other config found number
    have before := ledger.lives other config found number
    rw [List.filter_append, infosOf, List.filter_append]
    show Lifecycle _ _ _ _ ((infosOf other number infos ++ infosOf other number added).map _)
    by_cases same : id = other ∧ serialNumber = number
    · obtain ⟨rfl, rfl⟩ := same
      obtain rfl := Option.some.inj (known.symm.trans found)
      rw [unused, none_before, here, List.nil_append, List.nil_append]
      have entry : [Entry.applied id serialNumber members (some keyDown)].filter
          (·.isOf id serialNumber) = [.applied id serialNumber members (some keyDown)] := by
        simp [Entry.isOf]
      rw [entry]
      exact .apply id serialNumber pushed keys presses
    · have entry : [Entry.applied id serialNumber members (some keyDown)].filter
          (·.isOf other number) = [] := by
        simpa [Entry.isOf] using same
      rw [entry, elsewhere other number same, List.append_nil, List.append_nil]
      exact before
  · intro other
    rw [List.count_append, ledger.active other]
    by_cases same : id = other
    · subst same
      rw [numbers, Finset.card_insert_of_notMem fresh]
      simp
    · rw [others other same]
      simp [same]
  · intro other
    have before := ledger.settled other
    by_cases same : id = other
    · subst same
      rw [numbers, Finset.card_insert_of_notMem fresh, applied_concat, finished_concat]
      simp only [Entry.applies, Entry.finishes, decide_true, if_true, Bool.false_eq_true,
        if_false]
      omega
    · rw [others other same, applied_concat, finished_concat]
      simpa [Entry.applies, Entry.finishes, same] using before

theorem infos_perm (nodup : (infos.map (pressOfInfo configs)).Nodup) {info : ActiveFromInfo}
    (member : info ∈ infos) {press : PressKey} (same : pressOfInfo configs info = press) :
    infos.Perm (info :: withoutPress configs press infos) := by
  have rest : infos.erase info = withoutPress configs press infos := by
    rw [nodup.of_map.erase_eq_filter]
    refine List.filter_congr fun other there => ?_
    by_cases equal : other = info
    · subst equal
      simp [same]
    · have different : pressOfInfo configs other ≠ press := fun both =>
        equal (List.inj_on_of_nodup_map nodup there member (both.trans same.symm))
      simp [equal, different]
  rw [← rest]
  exact List.perm_cons_erase member

/-- The combination of the released from-key loses it, no other combination changes. -/
theorem infosOf_perm (nodup : (infos.map (pressOfInfo configs)).Nodup) {info : ActiveFromInfo}
    (member : info ∈ infos) {press : PressKey} (same : pressOfInfo configs info = press)
    (id : ItemId) (serialNumber : Nat) :
    (infosOf id serialNumber infos).Perm
      (if info.item = id ∧ info.eventInputQueueSerialNumber = serialNumber then
        info :: infosOf id serialNumber (withoutPress configs press infos)
      else infosOf id serialNumber (withoutPress configs press infos)) := by
  have filtered := (infos_perm nodup member same).filter fun info =>
    decide (info.item = id ∧ info.eventInputQueueSerialNumber = serialNumber)
  rw [List.filter_cons] at filtered
  simpa [infosOf] using filtered

theorem Ledger.release (ledger : Ledger configs infos activeItems log)
    (nodup : (infos.map (pressOfInfo configs)).Nodup) {info : ActiveFromInfo}
    (member : info ∈ infos) {up : QueueItem} (same : pressOfInfo configs info = pressOf up)
    {item : Configured Environment} (known : lookup configs info.item = some item)
    {pushed : Option QueueItem}
    (last : if infosOf info.item info.eventInputQueueSerialNumber
        (withoutPress configs (pressOf up) infos) = [] then
      ∃ keyUp, pushed = some keyUp ∧ IsPushed item.config false keyUp else pushed = none) :
    Ledger configs (withoutPress configs (pressOf up) infos)
      (if pushed.isSome then activeItems.erase (info.item, .SIMULTANEOUSBUTTONPRESSES)
        else activeItems)
      (log ++ [.released info.item info.eventInputQueueSerialNumber up pushed]) := by
  have perm := infosOf_perm nodup member same
  have isLast : pushed.isSome = true ↔ infosOf info.item info.eventInputQueueSerialNumber
      (withoutPress configs (pressOf up) infos) = [] := by
    split at last
    · next none =>
        obtain ⟨keyUp, rfl, -⟩ := last
        simp [none]
    · next some => simp [last, some]
  have alive : info.eventInputQueueSerialNumber ∈ serialNumbers info.item infos := by
    rw [mem_serialNumbers]
    have own := perm info.item info.eventInputQueueSerialNumber
    rw [if_pos ⟨rfl, rfl⟩] at own
    intro none
    rw [none] at own
    exact absurd own.symm.eq_nil (List.cons_ne_nil _ _)
  have others : ∀ other number,
      ¬(info.item = other ∧ info.eventInputQueueSerialNumber = number) →
        (number ∈ serialNumbers other (withoutPress configs (pressOf up) infos) ↔
          number ∈ serialNumbers other infos) := by
    intro other number different
    have own := perm other number
    rw [if_neg different] at own
    rw [mem_serialNumbers, mem_serialNumbers, not_iff_not]
    exact ⟨fun none => (none ▸ own).eq_nil, fun none => (none ▸ own).symm.eq_nil⟩
  have numbers : ∀ other, serialNumbers other (withoutPress configs (pressOf up) infos) =
      if pushed.isSome ∧ info.item = other then
        (serialNumbers other infos).erase info.eventInputQueueSerialNumber
      else serialNumbers other infos := by
    intro other
    ext number
    by_cases owner : info.item = other ∧ info.eventInputQueueSerialNumber = number
    · obtain ⟨rfl, rfl⟩ := owner
      by_cases ends : pushed.isSome
      · rw [if_pos ⟨ends, rfl⟩, mem_serialNumbers, isLast.mp ends]
        simp
      · rw [if_neg (fun both => ends both.1), mem_serialNumbers]
        simp only [alive, iff_true]
        exact fun none => ends (isLast.mpr none)
    · rw [others other number owner]
      split
      · next ends =>
          have different : number ≠ info.eventInputQueueSerialNumber := fun equal =>
            owner ⟨ends.2, equal.symm⟩
          rw [Finset.mem_erase]
          simp [different]
      · rfl
  refine ⟨?_, ?_, ?_⟩
  · intro other config found number
    have before := ledger.lives other config found number
    have own := (perm other number).map (pressOfInfo configs)
    rw [List.filter_append]
    by_cases owner : info.item = other ∧ info.eventInputQueueSerialNumber = number
    · rw [if_pos owner, List.map_cons, same] at own
      obtain ⟨rfl, rfl⟩ := owner
      obtain rfl := Option.some.inj (known.symm.trans found)
      have entry : [Entry.released info.item info.eventInputQueueSerialNumber up pushed].filter
          (·.isOf info.item info.eventInputQueueSerialNumber) =
            [.released info.item info.eventInputQueueSerialNumber up pushed] := by
        simp [Entry.isOf]
      rw [entry]
      apply before.release own
      simpa only [List.map_eq_nil_iff] using last
    · have entry : [Entry.released info.item info.eventInputQueueSerialNumber up pushed].filter
          (·.isOf other number) = [] := by
        simpa [Entry.isOf] using owner
      rw [if_neg owner] at own
      rw [entry, List.append_nil]
      exact before.perm own
  · intro other
    rw [numbers other]
    by_cases ends : pushed.isSome
    · rw [if_pos ends]
      by_cases owner : info.item = other
      · subst owner
        rw [if_pos ⟨ends, rfl⟩, Finset.card_erase_of_mem alive, List.count_erase_self,
          ledger.active]
      · have different : (other, Remapping.ActiveItems.Type.SIMULTANEOUSBUTTONPRESSES) ≠
            (info.item, .SIMULTANEOUSBUTTONPRESSES) := fun equal =>
          owner (Prod.mk.inj equal).1.symm
        rw [if_neg (fun both => owner both.2), List.count_erase_of_ne different, ledger.active]
    · rw [if_neg ends, if_neg (fun both => ends both.1), ledger.active]
  · intro other
    have before := ledger.settled other
    have released : (Entry.released info.item info.eventInputQueueSerialNumber up
        pushed).finishes other = true ↔ pushed.isSome ∧ info.item = other := by
      simp [Entry.finishes, and_comm]
    rw [numbers other, applied_concat, finished_concat]
    simp only [released, Entry.applies, Bool.false_eq_true, if_false]
    split
    · next ends =>
        obtain ⟨-, rfl⟩ := ends
        have positive : 0 < (serialNumbers info.item infos).card :=
          Finset.card_pos.mpr ⟨_, alive⟩
        rw [Finset.card_erase_of_mem alive]
        omega
    · omega

end

end Karabiner.SimultaneousKeyPresses
