import Karabiner.Framing
import Karabiner.StrlcpyUtf8
import Karabiner.Transition
import Karabiner.VectorBuffer

set_option autoImplicit false

/- xml_compiler::remapclasses_initialize_vector. Its assertions that the vector is not
frozen are obligations of the callers. -/
namespace Karabiner

structure InitializeVector where
  data : List UInt32
  /-- The keys of is_config_index_added_. -/
  isConfigIndexAdded : List UInt32
  maxConfigIndex : UInt32
  freezed : Bool
  startIndex : Nat
  ended : Bool
  deriving DecidableEq, Repr

namespace InitializeVector

/-- The state after clear. -/
def cleared : InitializeVector where
  data := [0]
  isConfigIndexAdded := []
  maxConfigIndex := 0
  freezed := false
  startIndex := 0
  ended := true

/-- ++(data_[index]) -/
def increment (data : List UInt32) (index : Nat) : List UInt32 :=
  data.set index (data.getD index 0 + 1)

def cleanup (vector : InitializeVector) : InitializeVector :=
  if vector.ended then vector
  else { vector with data := vector.data.take vector.startIndex, ended := true }

/-- A duplicate is refused before anything is changed. -/
def start (vector : InitializeVector) (configIndex : UInt32) (rawIdentifier : String) :
    Except String InitializeVector :=
  if configIndex ∈ vector.isConfigIndexAdded then
    .error ("Duplicated identifier:\n\n<identifier>" ++ rawIdentifier ++ "</identifier>")
  else
    let vector := if vector.ended then vector else vector.cleanup
    .ok { vector with
      startIndex := vector.data.length, ended := false, data := vector.data ++ [1, configIndex] }

def pushBack (vector : InitializeVector) (v : UInt32) : InitializeVector :=
  { vector with data := increment vector.data vector.startIndex ++ [v] }

def insert (vector : InitializeVector) (index : Nat) (v : UInt32) : InitializeVector :=
  let data := increment vector.data vector.startIndex
  { vector with data := data.take index ++ v :: data.drop index }

def update (vector : InitializeVector) (index : Nat) (v : UInt32) : InitializeVector :=
  { vector with data := vector.data.set index v }

def finishEntry (vector : InitializeVector) : InitializeVector :=
  let configIndex := vector.data.getD (vector.startIndex + 1) 0
  { vector with
    ended := true
    data := increment vector.data 0
    maxConfigIndex :=
      if configIndex > vector.maxConfigIndex then configIndex else vector.maxConfigIndex
    isConfigIndexAdded := configIndex :: vector.isConfigIndexAdded }

/-- The words that push_string pushes: the bytes of the C string in a zeroed buffer. -/
def stringWords (string : List UInt8) : List UInt32 :=
  let length := string.length / 4 + 1
  let buffer := StrlcpyUtf8.strlcpy (List.replicate (4 * length) 0) (string.takeWhile (· ≠ 0))
  (VectorBuffer.mk buffer).words

def pushString (vector : InitializeVector) (string : List UInt8) : InitializeVector :=
  (stringWords string).foldl pushBack vector

/-- One round of the loop of freeze. -/
def fillGap (vector : InitializeVector) (i : Nat) : Except String InitializeVector :=
  if UInt32.ofNat i ∈ vector.isConfigIndexAdded then .ok vector
  else finishEntry <$> vector.start (.ofNat i) ""

def freeze (vector : InitializeVector) : Except String InitializeVector := do
  let vector := vector.cleanup
  let vector ← (List.range vector.maxConfigIndex.toNat).foldlM fillGap vector
  return { vector with freezed := true }

/-- The calls of the loaders. An exception outside of this class that abandons an entry
makes no call; one that start throws leaves the vector as it was. -/
inductive Call where
  | start (configIndex : UInt32) (rawIdentifier : String)
  | pushBack (v : UInt32)
  | pushString (string : List UInt8)
  | insert (index : Nat) (v : UInt32)
  | update (index : Nat) (v : UInt32)
  | finishEntry
  deriving Repr

def perform (vector : InitializeVector) : Call → InitializeVector
  | .start configIndex rawIdentifier =>
      match vector.start configIndex rawIdentifier with
      | .ok vector => vector
      | .error _ => vector
  | .pushBack v => vector.pushBack v
  | .pushString string => vector.pushString string
  | .insert index v => vector.insert index v
  | .update index v => vector.update index v
  | .finishEntry => vector.finishEntry

/-- What the loaders keep to: an identifier is started once, and only the body of the entry
under construction is touched. -/
def Permitted (vector : InitializeVector) : Call → Prop
  | .start configIndex _ => configIndex ∉ vector.isConfigIndexAdded
  | .pushBack _ | .pushString _ | .finishEntry => vector.ended = false
  | .insert index _ => vector.ended = false ∧ vector.startIndex + 2 ≤ index ∧
      index ≤ vector.data.length
  | .update index _ => vector.ended = false ∧ vector.startIndex + 2 ≤ index ∧
      index < vector.data.length

instance (vector : InitializeVector) : (call : Call) → Decidable (vector.Permitted call)
  | .start configIndex _ => inferInstanceAs (Decidable (configIndex ∉ vector.isConfigIndexAdded))
  | .pushBack _ | .pushString _ | .finishEntry =>
      inferInstanceAs (Decidable (vector.ended = false))
  | .insert index _ => inferInstanceAs (Decidable (vector.ended = false ∧
      vector.startIndex + 2 ≤ index ∧ index ≤ vector.data.length))
  | .update index _ => inferInstanceAs (Decidable (vector.ended = false ∧
      vector.startIndex + 2 ≤ index ∧ index < vector.data.length))

end InitializeVector

/-- What the vector is a serialization of: the completed entries in their order, and the
one under construction. -/
structure Entries where
  completed : List (UInt32 × List UInt32) := []
  current : Option (UInt32 × List UInt32) := none
  deriving DecidableEq, Repr

namespace Entries

/-- The frame of an entry: its body follows its config index. -/
def frame (entry : UInt32 × List UInt32) : List UInt32 :=
  Framing.frame UInt32.ofNat (entry.1 :: entry.2)

/-- The position of the entry under construction. -/
def start (entries : Entries) : Nat := 1 + (entries.completed.flatMap frame).length

def edit (entries : Entries) (f : List UInt32 → List UInt32) : Entries :=
  { entries with current := entries.current.map fun (index, body) => (index, f body) }

def perform (entries : Entries) : InitializeVector.Call → Entries
  | .start configIndex _ => { entries with current := some (configIndex, []) }
  | .pushBack v => entries.edit (· ++ [v])
  | .pushString string => entries.edit (· ++ InitializeVector.stringWords string)
  | .insert index v => entries.edit fun body =>
      body.take (index - (entries.start + 2)) ++ v :: body.drop (index - (entries.start + 2))
  | .update index v => entries.edit fun body => body.set (index - (entries.start + 2)) v
  | .finishEntry => { completed := entries.completed ++ entries.current.toList, current := none }

@[simp] theorem frame_eq (entry : UInt32 × List UInt32) :
    frame entry = UInt32.ofNat (entry.2.length + 1) :: entry.1 :: entry.2 := rfl

/-- The words of the entries, with their number in front. -/
def words (entries : Entries) : List UInt32 :=
  UInt32.ofNat entries.completed.length :: (entries.completed.flatMap frame ++
    entries.current.toList.flatMap frame)

def added (entries : Entries) : List UInt32 := entries.completed.map (·.1)

end Entries

namespace InitializeVector

/-- The vector holds these entries. -/
structure Holds (vector : InitializeVector) (entries : Entries) : Prop where
  data : vector.data = entries.words
  added : ∀ index, index ∈ vector.isConfigIndexAdded ↔ index ∈ entries.added
  maximal : ∀ index ∈ entries.added, index ≤ vector.maxConfigIndex
  attained : vector.maxConfigIndex ∈ entries.added ∨
    entries.added = [] ∧ vector.maxConfigIndex = 0
  distinct : entries.added.Nodup
  fresh : ∀ entry ∈ entries.current, entry.1 ∉ entries.added
  ended : vector.ended = entries.current.isNone
  startIndex : entries.current.isSome → vector.startIndex = entries.start
  unfrozen : vector.freezed = false

theorem cleared_holds : cleared.Holds {} where
  data := rfl
  added := by simp [cleared, Entries.added]
  maximal := by simp [Entries.added]
  attained := .inr ⟨rfl, rfl⟩
  distinct := by simp [Entries.added]
  fresh := by simp
  ended := rfl
  startIndex := by simp
  unfrozen := rfl

private theorem increment_append (before : List UInt32) (count : Nat) (after : List UInt32) :
    increment (before ++ UInt32.ofNat count :: after) before.length =
      before ++ UInt32.ofNat (count + 1) :: after := by
  unfold increment
  rw [List.getD_eq_getElem?_getD, List.getElem?_append_right (Nat.le_refl _), Nat.sub_self,
    List.set_append_right _ _ (Nat.le_refl _), Nat.sub_self]
  simp

/-- The entry under construction, with what stands before it. -/
theorem data_of_current {vector : InitializeVector} {entries : Entries}
    (holds : vector.Holds entries) (unfinished : vector.ended = false) :
    ∃ before index body, entries.current = some (index, body) ∧
      before.length = entries.start ∧ vector.startIndex = before.length ∧
      before = Entries.words { entries with current := none } ∧
      vector.data = before ++ UInt32.ofNat (body.length + 1) :: index :: body := by
  have current : entries.current.isSome := by
    have ended := holds.ended
    rw [unfinished] at ended
    cases present : entries.current <;> simp [present] at ended ⊢
  obtain ⟨⟨index, body⟩, present⟩ := Option.isSome_iff_exists.1 current
  have length : (Entries.words { entries with current := none }).length = entries.start := by
    simp [Entries.words, Entries.start, Nat.add_comm]
  refine ⟨_, index, body, present, length, (holds.startIndex current).trans
    length.symm, rfl, ?_⟩
  rw [holds.data, Entries.words, Entries.words, present]
  simp

theorem cleanup_holds {vector : InitializeVector} {entries : Entries}
    (holds : vector.Holds entries) : vector.cleanup.Holds { entries with current := none } := by
  unfold cleanup
  by_cases ended : vector.ended
  · have absent : entries.current = none := by
      have ended' := holds.ended
      rw [ended] at ended'
      exact Option.isNone_iff_eq_none.1 ended'.symm
    rw [if_pos ended, ← absent]
    exact holds
  · have unfinished : vector.ended = false := by simpa using ended
    obtain ⟨before, index, body, present, length, startIndex, whole, data⟩ :=
      data_of_current holds unfinished
    rw [if_neg ended]
    refine { holds with data := ?_, fresh := by simp, ended := rfl, startIndex := by simp }
    rw [data, startIndex, List.take_left, whole]

theorem start_holds {vector : InitializeVector} {entries : Entries} {configIndex : UInt32}
    (holds : vector.Holds entries) (unused : configIndex ∉ vector.isConfigIndexAdded)
    (rawIdentifier : String) : ∃ started, vector.start configIndex rawIdentifier = .ok started ∧
      started.Holds { entries with current := some (configIndex, []) } := by
  have cleaned : (if vector.ended then vector else vector.cleanup) = vector.cleanup := by
    unfold cleanup
    split <;> rfl
  have clean := cleanup_holds holds
  rw [start, if_neg unused, cleaned]
  refine ⟨_, rfl, { clean with data := ?_, fresh := ?_, ended := rfl, startIndex := ?_ }⟩
  · rw [clean.data]
    simp [Entries.words]
  · rintro entry member
    obtain rfl := Option.mem_some.1 member
    exact fun old => unused ((holds.added configIndex).2 old)
  · intro _
    rw [clean.data]
    simp [Entries.words, Entries.start, Nat.add_comm]

/-- A call that changes the body of the entry and keeps its size word right. -/
theorem edit_holds {vector : InitializeVector} {entries : Entries}
    (holds : vector.Holds entries) (unfinished : vector.ended = false)
    {data : List UInt32} {f : List UInt32 → List UInt32}
    (edited : ∀ before index body, before.length = entries.start →
      vector.startIndex = before.length →
      vector.data = before ++ UInt32.ofNat (body.length + 1) :: index :: body →
      data = before ++ UInt32.ofNat ((f body).length + 1) :: index :: f body) :
    { vector with data }.Holds (entries.edit f) := by
  obtain ⟨before, index, body, present, length, startIndex, whole, data_eq⟩ :=
    data_of_current holds unfinished
  have data' := edited before index body length startIndex data_eq
  refine { holds with data := ?_, fresh := ?_, ended := ?_, startIndex := ?_ }
  · rw [data', whole, Entries.words, Entries.words, Entries.edit, present]
    simp
  · intro entry member
    rw [Entries.edit, present, Option.map_some, Option.mem_some] at member
    subst member
    exact holds.fresh (index, body) present
  · rw [unfinished, Entries.edit, present]
    rfl
  · intro _
    exact startIndex.trans length

theorem pushBack_holds {vector : InitializeVector} {entries : Entries}
    (holds : vector.Holds entries) (unfinished : vector.ended = false) (v : UInt32) :
    (vector.pushBack v).Holds (entries.edit (· ++ [v])) := by
  refine edit_holds holds unfinished fun before index body _ startIndex data => ?_
  rw [startIndex, data, increment_append]
  simp

theorem insert_holds {vector : InitializeVector} {entries : Entries}
    (holds : vector.Holds entries) (unfinished : vector.ended = false) {position : Nat}
    (inside : vector.startIndex + 2 ≤ position) (v : UInt32) :
    (vector.insert position v).Holds (entries.edit fun body =>
      body.take (position - (entries.start + 2)) ++ v ::
        body.drop (position - (entries.start + 2))) := by
  refine edit_holds holds unfinished fun before index body length startIndex data => ?_
  obtain ⟨k, rfl⟩ : ∃ k, position = before.length + (k + 2) :=
    ⟨position - before.length - 2, by
    omega⟩
  have offset : before.length + (k + 2) - (entries.start + 2) = k := by omega
  have grown : (body.take k ++ v :: body.drop k).length = body.length + 1 := by
    simp only [List.length_append, List.length_cons, List.length_take, List.length_drop]
    omega
  rw [startIndex, data, increment_append, List.take_length_add_append,
    List.drop_length_add_append, offset, grown]
  simp

theorem update_holds {vector : InitializeVector} {entries : Entries}
    (holds : vector.Holds entries) (unfinished : vector.ended = false) {position : Nat}
    (inside : vector.startIndex + 2 ≤ position) (v : UInt32) :
    (vector.update position v).Holds (entries.edit fun body =>
      body.set (position - (entries.start + 2)) v) := by
  refine edit_holds holds unfinished fun before index body length startIndex data => ?_
  obtain ⟨k, rfl⟩ : ∃ k, position = before.length + (k + 2) :=
    ⟨position - before.length - 2, by
    omega⟩
  have offset : before.length + (k + 2) - (entries.start + 2) = k := by omega
  rw [data, List.set_append_right _ _ (by omega), Nat.add_sub_cancel_left, offset,
    List.length_set]
  rfl

theorem pushString_holds {vector : InitializeVector} {entries : Entries}
    (holds : vector.Holds entries) (unfinished : vector.ended = false) (string : List UInt8) :
    (vector.pushString string).Holds (entries.edit (· ++ stringWords string)) := by
  unfold pushString
  generalize stringWords string = words
  induction words generalizing vector entries with
  | nil =>
      have same : entries.edit (· ++ []) = entries := by
        simp [Entries.edit]
      rw [List.foldl_nil, same]
      exact holds
  | cons word words ih =>
      have pushed := pushBack_holds holds unfinished word
      have both : (entries.edit (· ++ [word])).edit (· ++ words) =
          entries.edit (· ++ word :: words) := by
        cases present : entries.current <;> simp [Entries.edit, present]
      rw [List.foldl_cons, ← both]
      exact ih pushed unfinished

theorem finishEntry_holds {vector : InitializeVector} {entries : Entries}
    (holds : vector.Holds entries) (unfinished : vector.ended = false) :
    vector.finishEntry.Holds (entries.perform .finishEntry) := by
  obtain ⟨before, index, body, present, length, startIndex, whole, data⟩ :=
    data_of_current holds unfinished
  have configIndex : vector.data.getD (vector.startIndex + 1) 0 = index := by
    rw [data, startIndex, List.getD_append_right _ _ _ _ (by omega), Nat.add_sub_cancel_left]
    rfl
  have added : (entries.perform .finishEntry).added = entries.added ++ [index] := by
    simp [Entries.perform, Entries.added, present]
  have unused : index ∉ entries.added := holds.fresh (index, body) present
  simp only [finishEntry, configIndex]
  constructor
  case data =>
    have counted := increment_append [] entries.completed.length
      (entries.completed.flatMap Entries.frame ++ entries.current.toList.flatMap Entries.frame)
    rw [List.nil_append, List.nil_append, List.length_nil] at counted
    rw [holds.data, Entries.words, counted, present]
    simp [Entries.perform, Entries.words, present]
  case added =>
    intro other
    rw [added, List.mem_cons, List.mem_append, holds.added, List.mem_singleton, or_comm]
  case maximal =>
    intro other member
    rw [added, List.mem_append, List.mem_singleton] at member
    split
    · rename_i larger
      rcases member with old | rfl
      · exact UInt32.le_trans (holds.maximal other old) (UInt32.le_of_lt larger)
      · exact UInt32.le_refl _
    · rename_i smaller
      rcases member with old | rfl
      · exact holds.maximal other old
      · exact UInt32.not_lt.1 smaller
  case attained =>
    refine .inl ?_
    rw [added, List.mem_append, List.mem_singleton]
    split
    · exact .inr rfl
    · rename_i smaller
      rcases holds.attained with old | ⟨_, zero⟩
      · exact .inl old
      · rw [zero, gt_iff_lt, UInt32.not_lt, UInt32.le_zero_iff] at smaller
        exact .inr (zero.trans smaller.symm)
  case distinct =>
    rw [added, List.nodup_append]
    refine ⟨holds.distinct, by simp, fun other old same member => ?_⟩
    rw [List.mem_singleton] at member
    exact fun eq => unused (member ▸ eq ▸ old)
  case fresh => simp [Entries.perform]
  case ended => rfl
  case startIndex => simp [Entries.perform]
  case unfrozen => exact holds.unfrozen

theorem perform_holds {vector : InitializeVector} {entries : Entries}
    (holds : vector.Holds entries) {call : Call} (permitted : vector.Permitted call) :
    (vector.perform call).Holds (entries.perform call) := by
  cases call with
  | start configIndex rawIdentifier =>
      obtain ⟨started, start_eq, starts⟩ := start_holds holds permitted rawIdentifier
      rw [perform, start_eq]
      exact starts
  | pushBack v => exact pushBack_holds holds permitted v
  | pushString string => exact pushString_holds holds permitted string
  | insert position v => exact insert_holds holds permitted.1 permitted.2.1 v
  | update position v => exact update_holds holds permitted.1 permitted.2.1 v
  | finishEntry => exact finishEntry_holds holds permitted

theorem run_holds {calls : List Call} {vector : InitializeVector} {entries : Entries}
    (holds : vector.Holds entries) (permitted : Transition.Along perform Permitted vector calls) :
    (Transition.run perform vector calls).Holds (Transition.run Entries.perform entries calls) := by
  induction calls generalizing vector entries with
  | nil => exact holds
  | cons call calls ih => exact ih (perform_holds holds permitted.1) permitted.2

end InitializeVector

/-- An index that no entry has gets an empty one. -/
def Entries.fill (entries : Entries) (i : Nat) : Entries :=
  if UInt32.ofNat i ∈ entries.added then entries
  else { entries with completed := entries.completed ++ [(UInt32.ofNat i, [])] }

theorem Entries.fill_current (entries : Entries) (i : Nat) :
    (entries.fill i).current = entries.current := by
  unfold fill
  split <;> rfl

theorem Entries.mem_added_fill (entries : Entries) (i : Nat) (index : UInt32) :
    index ∈ (entries.fill i).added ↔ index ∈ entries.added ∨ index = UInt32.ofNat i := by
  unfold fill
  split
  · rename_i present
    exact ⟨.inl, fun either => either.elim id (fun same => same ▸ present)⟩
  · simp [added]

/-- The entries after the loop of freeze: empty ones behind those that were completed. -/
theorem Entries.foldl_fill (entries : Entries) (indices : List Nat) :
    (∃ gaps : List UInt32, indices.foldl fill entries =
      { entries with completed := entries.completed ++ gaps.map (·, []) }) ∧
    ∀ index, index ∈ (indices.foldl fill entries).added ↔
      index ∈ entries.added ∨ ∃ i ∈ indices, index = UInt32.ofNat i := by
  induction indices generalizing entries with
  | nil => exact ⟨⟨[], by simp⟩, by simp⟩
  | cons i indices ih =>
      obtain ⟨⟨gaps, completed⟩, members⟩ := ih (entries.fill i)
      constructor
      · rw [List.foldl_cons, completed]
        by_cases present : UInt32.ofNat i ∈ entries.added
        · exact ⟨gaps, by rw [fill, if_pos present]⟩
        · exact ⟨UInt32.ofNat i :: gaps, by simp [fill, present]⟩
      · intro index
        rw [List.foldl_cons, members, mem_added_fill]
        simp [or_assoc]

namespace InitializeVector

theorem fillGap_holds {vector : InitializeVector} {entries : Entries}
    (holds : vector.Holds entries) (finished : entries.current = none) (i : Nat) :
    ∃ filled, vector.fillGap i = .ok filled ∧ filled.Holds (entries.fill i) := by
  unfold fillGap Entries.fill
  by_cases present : UInt32.ofNat i ∈ entries.added
  · rw [if_pos ((holds.added _).2 present), if_pos present]
    exact ⟨vector, rfl, holds⟩
  · have unused := fun member => present ((holds.added _).1 member)
    obtain ⟨started, start_eq, starts⟩ := start_holds holds unused ""
    rw [if_neg unused, if_neg present, start_eq]
    have ends := finishEntry_holds starts starts.ended
    exact ⟨_, rfl, by simpa [Entries.perform, finished] using ends⟩

theorem foldlM_fillGap_holds {vector : InitializeVector} {entries : Entries}
    (holds : vector.Holds entries) (finished : entries.current = none) (indices : List Nat) :
    ∃ filled, indices.foldlM fillGap vector = .ok filled ∧
      filled.Holds (indices.foldl Entries.fill entries) := by
  induction indices generalizing vector entries with
  | nil => exact ⟨vector, rfl, holds⟩
  | cons i indices ih =>
      obtain ⟨filled, fill_eq, fills⟩ := fillGap_holds holds finished i
      rw [List.foldlM_cons, fill_eq]
      exact ih fills ((entries.fill_current i).trans finished)

end InitializeVector

end Karabiner
