import Karabiner.PartialRun
import Mathlib.Data.PNat.Defs
import Mathlib.Logic.Function.Basic

set_option autoImplicit false

/- DECLARE_VECTOR_CLASS_BODY. A vector owns the array that it points to, so that the pointer is the
array itself. An operation without a result goes through a null pointer or leaves an array. -/
namespace Karabiner

structure VectorBody (α : Type*) where
  vector_ : Option (List α) := none
  capacity_ : Nat := 0
  size_ : Nat := 0
  deriving DecidableEq

namespace VectorBody

variable {α : Type*}

def load (vector_ : Option (List α)) (i : Nat) : Option α := vector_.bind (·[i]?)

def store (i : Nat) (value : α) (vector_ : Option (List α)) : Option (Option (List α)) :=
  vector_.bind fun array => if i < array.length then some (some (array.set i value)) else none

/-- p[i] = vector_[i], for so many i. -/
def copyFrom (vector_ : Option (List α)) :
    Nat → Nat → Option (List α) → Option (Option (List α))
  | 0, _, p => some p
  | remaining + 1, i, p => do
      let value ← load vector_ i
      let p ← store i value p
      copyFrom vector_ remaining (i + 1) p

/-- What a const TYPENAME& refers to: a value elsewhere, or an element of the vector itself. -/
inductive Reference (α : Type*) where
  | value (newval : α)
  | element (i : Nat)

/-- An element of the vector as it was before is gone if reserve has replaced the array. -/
def Reference.read (before vector : VectorBody α) : Reference α → Option α
  | .value newval => some newval
  | .element i => if vector.capacity_ = before.capacity_ then load vector.vector_ i else none

section
variable [Inhabited α]

/-- new TYPENAME[n]. -/
def allocate (n : Nat) : Option (List α) := some (List.replicate n default)

def reserve (n : Nat) (vector : VectorBody α) : Option (VectorBody α) :=
  if n ≤ vector.capacity_ then some vector
  else do
    let p ← copyFrom vector.vector_ vector.size_ 0 (allocate n)
    return { vector with vector_ := p, capacity_ := n }

def clear (_ : VectorBody α) : VectorBody α := {}

/-- The first part of push_back. -/
def makeRoom (CHUNKSIZE : ℕ+) (vector : VectorBody α) : Option (VectorBody α) :=
  if vector.size_ ≥ vector.capacity_ then vector.reserve (vector.capacity_ + CHUNKSIZE)
  else some vector

def push_back (CHUNKSIZE : ℕ+) (newval : Reference α) (vector : VectorBody α) :
    Option (VectorBody α) := do
  let grown ← vector.makeRoom CHUNKSIZE
  if grown.size_ < grown.capacity_ then do
    let newval ← newval.read vector grown
    let vector_ ← store grown.size_ newval grown.vector_
    return { grown with vector_, size_ := grown.size_ + 1 }
  else some grown

/-- operator=, where the vectors are not the same. -/
def assign (rhs vector : VectorBody α) : Option (VectorBody α) :=
  let vector := { vector.clear with capacity_ := rhs.capacity_, size_ := rhs.size_ }
  if vector.size_ = 0 then some { vector with vector_ := none }
  else do
    let vector_ ← copyFrom rhs.vector_ vector.size_ 0 (allocate vector.capacity_)
    return { vector with vector_ }

end

/-- The vector is well formed, and its elements are the contents. -/
structure Holds (vector : VectorBody α) (contents : List α) : Prop where
  size : vector.size_ = contents.length
  fits : vector.size_ ≤ vector.capacity_
  storage : 0 < vector.capacity_ →
    ∃ array, vector.vector_ = some array ∧ array.length = vector.capacity_
  elements : ∀ i, i < vector.size_ → load vector.vector_ i = contents[i]?

theorem holds_nil : Holds ({} : VectorBody α) [] :=
  ⟨rfl, Nat.le_refl _, fun positive => absurd positive (Nat.lt_irrefl _),
    fun i below => absurd below (Nat.not_lt_zero i)⟩

/-- The element of a list that a reference stands for. -/
def Reference.valueIn (contents : List α) : Reference α → Option α
  | .value newval => some newval
  | .element i => contents[i]?

/-- The array of an element is not replaced. -/
def Reference.Survives (vector : VectorBody α) : Reference α → Prop
  | .value _ => True
  | .element _ => vector.size_ < vector.capacity_

theorem Holds.load_isSome {vector : VectorBody α} {contents : List α}
    (holds : Holds vector contents) {i : Nat} (below : i < vector.size_) :
    (load vector.vector_ i).isSome := by
  have bound := holds.size
  rw [holds.elements i below, List.getElem?_eq_getElem (by omega)]
  rfl

theorem store_some {array : List α} {i : Nat} (inside : i < array.length) (value : α) :
    store i value (some array) = some (some (array.set i value)) := by
  simp [store, inside]

/-- The loop copies what it can read and has room for. -/
theorem copyFrom_some {vector_ : Option (List α)} {remaining i : Nat} {p : List α}
    (readable : ∀ k, i ≤ k → k < i + remaining → (load vector_ k).isSome)
    (room : i + remaining ≤ p.length) :
    ∃ copied, copyFrom vector_ remaining i (some p) = some (some copied) ∧
      copied.length = p.length ∧ (∀ k, k < i → copied[k]? = p[k]?) ∧
      ∀ k, i ≤ k → k < i + remaining → copied[k]? = load vector_ k := by
  induction remaining generalizing i p with
  | zero =>
      refine ⟨p, rfl, rfl, fun _ _ => rfl, fun k lower upper => ?_⟩
      omega
  | succ remaining ih =>
      obtain ⟨value, read⟩ :=
        Option.isSome_iff_exists.mp (readable i (Nat.le_refl i) (by omega))
      obtain ⟨copied, result, length, before, behind⟩ := @ih (i + 1) (p.set i value)
        (fun k lower upper => readable k (by omega) (by omega))
        (by rw [List.length_set]; omega)
      refine ⟨copied, ?_, length.trans List.length_set, fun k below =>
        ?_, fun k lower upper => ?_⟩
      · rw [copyFrom, read]
        show (store i value (some p)).bind _ = _
        rw [store_some (by omega)]
        exact result
      · rw [before k (by omega), List.getElem?_set_ne (by omega)]
      · by_cases here : k = i
        · subst here
          rw [before k (Nat.lt_succ_self k), List.getElem?_set_self (by omega), read]
        · exact behind k (by omega) (by omega)

/-- There is room for one more element. -/
theorem store_holds {vector : VectorBody α} {contents : List α} (holds : Holds vector contents)
    (room : vector.size_ < vector.capacity_) (newval : α) :
    ∃ vector_, store vector.size_ newval vector.vector_ = some vector_ ∧
      Holds { vector with vector_, size_ := vector.size_ + 1 } (contents ++ [newval]) := by
  obtain ⟨array, same, length⟩ := holds.storage (by omega)
  refine ⟨some (array.set vector.size_ newval), ?_, ?_, room, fun _ => ?_, fun i below => ?_⟩
  · rw [same, store_some (by omega)]
  · rw [List.length_append, ← holds.size]
    rfl
  · exact ⟨_, rfl, by rw [List.length_set, length]⟩
  · show (array.set vector.size_ newval)[i]? = (contents ++ [newval])[i]?
    have size := holds.size
    by_cases last : i = vector.size_
    · rw [last, List.getElem?_set_self (by omega), size, List.getElem?_concat_length]
    · have earlier : i < vector.size_ := by
        have bound : i < vector.size_ + 1 := below
        omega
      have element := holds.elements i earlier
      rw [same] at element
      rw [List.getElem?_set_ne (by omega), List.getElem?_append_left (by omega)]
      exact element

section
variable [Inhabited α] {vector rhs : VectorBody α} {contents : List α}

/-- A new array of that many elements, with the elements of the old one. -/
theorem copy_holds (holds : Holds vector contents) {n : Nat} (room : vector.size_ ≤ n) :
    ∃ p, copyFrom vector.vector_ vector.size_ 0 (allocate n) = some p ∧
      Holds { vector with vector_ := p, capacity_ := n } contents := by
  obtain ⟨copied, result, length, -, same⟩ :=
    @copyFrom_some α vector.vector_ vector.size_ 0 (List.replicate n default)
      (fun k _ upper => holds.load_isSome (by omega)) (by rw [List.length_replicate]; omega)
  refine ⟨some copied, result, holds.size, room, fun _ => ?_, fun i below => ?_⟩
  · exact ⟨copied, rfl, by rw [length, List.length_replicate]⟩
  · have inside : i < 0 + vector.size_ := by
      rw [Nat.zero_add]
      exact below
    exact (same i (Nat.zero_le i) inside).trans (holds.elements i below)

theorem reserve_holds (holds : Holds vector contents) (n : Nat) :
    ∃ next, vector.reserve n = some next ∧ Holds next contents ∧
      next.size_ = vector.size_ ∧ n ≤ next.capacity_ := by
  unfold reserve
  by_cases enough : n ≤ vector.capacity_
  · exact ⟨vector, if_pos enough, holds, rfl, enough⟩
  · have fits := holds.fits
    obtain ⟨p, copied, next⟩ := copy_holds holds (show vector.size_ ≤ n by omega)
    refine ⟨{ vector with vector_ := p, capacity_ := n }, ?_, next, rfl, Nat.le_refl n⟩
    rw [if_neg enough, copied]
    rfl

theorem makeRoom_holds (CHUNKSIZE : ℕ+) (holds : Holds vector contents) :
    ∃ grown, vector.makeRoom CHUNKSIZE = some grown ∧ Holds grown contents ∧
      grown.size_ < grown.capacity_ ∧
      (grown.capacity_ = vector.capacity_ ↔ vector.size_ < vector.capacity_) := by
  unfold makeRoom
  by_cases full : vector.size_ ≥ vector.capacity_
  · obtain ⟨next, result, nextHolds, size, room⟩ :=
      reserve_holds holds (vector.capacity_ + CHUNKSIZE)
    have positive := CHUNKSIZE.pos
    have fits := holds.fits
    exact ⟨next, by rw [if_pos full, result], nextHolds, by omega, by omega⟩
  · exact ⟨vector, by rw [if_neg full], holds, by omega, by omega⟩

/-- An element of the vector itself can be pushed only while there is room. -/
theorem push_back_holds (CHUNKSIZE : ℕ+) (holds : Holds vector contents) {newval : Reference α}
    {value : α} (refers : newval.valueIn contents = some value) :
    (∃ next, vector.push_back CHUNKSIZE newval = some next ∧
      Holds next (contents ++ [value])) ↔
      newval.Survives vector := by
  obtain ⟨grown, result, grownHolds, room, same⟩ := makeRoom_holds CHUNKSIZE holds
  have pushed (read : newval.read vector grown = some value) :
      ∃ next, vector.push_back CHUNKSIZE newval = some next ∧
        Holds next (contents ++ [value]) := by
    obtain ⟨vector_, stored, next⟩ := store_holds grownHolds room value
    refine ⟨{ grown with vector_, size_ := grown.size_ + 1 }, ?_, next⟩
    rw [push_back, result]
    show (if grown.size_ < grown.capacity_ then _ else _) = _
    rw [if_pos room, read]
    show (store grown.size_ value grown.vector_).bind _ = _
    rw [stored]
    rfl
  cases newval with
  | value newval => exact iff_of_true (pushed refers) trivial
  | element i =>
      have inside : i < contents.length := (List.getElem?_eq_some_iff.mp refers).1
      have size := grownHolds.size
      by_cases survives : vector.size_ < vector.capacity_
      · have read : Reference.read vector grown (.element i) = some value := by
          rw [Reference.read, if_pos (same.mpr survives), grownHolds.elements i (by omega)]
          exact refers
        exact iff_of_true (pushed read) survives
      · have lost : Reference.read vector grown (.element i) = none :=
          if_neg fun equal => survives (same.mp equal)
        have impossible : vector.push_back CHUNKSIZE (.element i) = none := by
          rw [push_back, result]
          show (if grown.size_ < grown.capacity_ then _ else _) = _
          rw [if_pos room, lost]
          rfl
        refine iff_of_false ?_ survives
        rintro ⟨next, some, -⟩
        rw [impossible] at some
        cases some

/-- The capacity of an empty vector is taken over without its array. -/
theorem assign_holds (holds : Holds rhs contents) :
    ∃ next, assign rhs vector = some next ∧
      (Holds next contents ↔ rhs.size_ ≠ 0 ∨ rhs.capacity_ = 0) := by
  by_cases empty : rhs.size_ = 0
  · refine ⟨{ vector_ := none, capacity_ := rhs.capacity_, size_ := rhs.size_ }, ?_, ?_⟩
    · exact if_pos empty
    · constructor
      · intro next
        by_contra neither
        obtain ⟨array, same, -⟩ := next.storage (show 0 < rhs.capacity_ by omega)
        cases same
      · intro either
        have none : rhs.capacity_ = 0 := by omega
        refine ⟨holds.size, holds.fits, fun positive => ?_, fun i below => ?_⟩
        · exact absurd positive (by rw [none]; exact Nat.lt_irrefl 0)
        · exact absurd below (by rw [empty]; exact Nat.not_lt_zero i)
  · obtain ⟨p, copied, next⟩ := copy_holds holds holds.fits
    refine ⟨{ vector_ := p, capacity_ := rhs.capacity_, size_ := rhs.size_ }, ?_, ?_⟩
    · have bound : assign rhs vector = _ := if_neg empty
      rw [bound, copied]
      rfl
    · exact iff_of_true next (Or.inl empty)

end

/-- Vectors, and the lists that the same operations give. -/
structure State (α : Type*) where
  vectors : Nat → VectorBody α := fun _ => {}
  lists : Nat → List α := fun _ => []

inductive Step (α : Type*) where
  | reserve (vector n : Nat)
  | push_back (vector : Nat) (newval : Reference α)
  | clear (vector : Nat)
  | assign (vector rhs : Nat)

section
variable [Inhabited α] (CHUNKSIZE : ℕ+)

/-- The vector and the list under a number are replaced. -/
def State.update (state : State α) (number : Nat) (vector : VectorBody α) (list : List α) :
    State α where
  vectors := Function.update state.vectors number vector
  lists := Function.update state.lists number list

def step (state : State α) : Step α → Option (State α)
  | .reserve number n => do
      let vector ← (state.vectors number).reserve n
      return state.update number vector (state.lists number)
  | .push_back number newval => do
      let vector ← (state.vectors number).push_back CHUNKSIZE newval
      let value ← newval.valueIn (state.lists number)
      return state.update number vector (state.lists number ++ [value])
  | .clear number => some (state.update number (state.vectors number).clear [])
  | .assign number rhs =>
      if number = rhs then some state
      else do
        let vector ← assign (state.vectors rhs) (state.vectors number)
        return state.update number vector (state.lists rhs)

/-- Every vector is well formed with the contents of its list. -/
def Kept (state : State α) : Prop :=
  ∀ number, Holds (state.vectors number) (state.lists number)

/-- Only an index below size_ is given to operator[]. -/
def Proper (state : State α) : Step α → Prop
  | .push_back number (.element i) => i < (state.vectors number).size_
  | _ => True

/-- A vector that is assigned to another is not both empty and reserved, and an element of the
vector itself is pushed only while there is room for it. -/
def Allowed (state : State α) : Step α → Prop
  | .assign number rhs =>
      number = rhs ∨ (state.vectors rhs).size_ ≠ 0 ∨ (state.vectors rhs).capacity_ = 0
  | .push_back number newval => newval.Survives (state.vectors number)
  | .reserve _ _ | .clear _ => True

end

section
variable [Inhabited α] {CHUNKSIZE : ℕ+} {state : State α}
  (holds : ∀ number, Holds (state.vectors number) (state.lists number))
include holds

omit [Inhabited α] in
theorem update_holds_iff {number : Nat} {vector : VectorBody α} {list : List α} :
    (∀ other, Holds ((state.update number vector list).vectors other)
      ((state.update number vector list).lists other)) ↔ Holds vector list := by
  constructor
  · intro all
    have own := all number
    simp only [State.update, Function.update_self] at own
    exact own
  · intro own other
    by_cases same : other = number
    · subst same
      simp only [State.update, Function.update_self]
      exact own
    · simp only [State.update, Function.update_of_ne same]
      exact holds other

/-- What a step leads to. -/
theorem step_holds {label : Step α} (proper : Proper state label) :
    (∃ next, step CHUNKSIZE state label = some next ∧ Kept next) ↔ Allowed state label := by
  cases label with
  | reserve number n =>
      obtain ⟨vector, result, own, -⟩ := reserve_holds (holds number) n
      refine iff_of_true ⟨state.update number vector (state.lists number), ?_, ?_⟩ trivial
      · rw [step, result]
        rfl
      · exact (update_holds_iff holds).mpr own
  | push_back number newval =>
      obtain ⟨value, refers⟩ : ∃ value, newval.valueIn (state.lists number) = some value := by
        cases newval with
        | value newval => exact ⟨newval, rfl⟩
        | element i =>
            have inside : i < (state.lists number).length := (holds number).size ▸ proper
            exact ⟨_, List.getElem?_eq_getElem inside⟩
      refine Iff.trans ?_ (push_back_holds CHUNKSIZE (holds number) refers)
      rw [step]
      cases pushed : (state.vectors number).push_back CHUNKSIZE newval with
      | none => simp
      | some vector =>
          rw [refers]
          constructor
          · rintro ⟨next, same, kept⟩
            obtain rfl := Option.some.inj same
            exact ⟨vector, rfl, (update_holds_iff holds).mp kept⟩
          · rintro ⟨next, same, own⟩
            obtain rfl := Option.some.inj same
            exact ⟨_, rfl, (update_holds_iff holds).mpr own⟩
  | clear number =>
      exact iff_of_true ⟨_, rfl, (update_holds_iff holds).mpr holds_nil⟩ trivial
  | assign number rhs =>
      by_cases same : number = rhs
      · exact iff_of_true ⟨state, if_pos same, holds⟩ (Or.inl same)
      · obtain ⟨vector, result, own⟩ :=
          @assign_holds α _ (state.vectors number) _ _ (holds rhs)
        have stepped : step CHUNKSIZE state (.assign number rhs) =
            some (state.update number vector (state.lists rhs)) := by
          rw [step, if_neg same, result]
          rfl
        have decides : Allowed state (.assign number rhs) ↔ Holds vector (state.lists rhs) :=
          (or_iff_right same).trans own.symm
        rw [decides, stepped]
        constructor
        · rintro ⟨next, equal, kept⟩
          obtain rfl := Option.some.inj equal
          exact (update_holds_iff holds).mp kept
        · exact fun held => ⟨_, rfl, (update_holds_iff holds).mpr held⟩

end

section
variable [Inhabited α] (CHUNKSIZE : ℕ+)

/-- In a run, the vectors are well formed and each operation is possible exactly if none of its
assignments is from a vector that is empty but has a capacity, and none of its push_backs pushes an
element of a vector that is full. -/
theorem always_kept_iff (steps : List (Step α)) :
    PartialRun.Runs (step CHUNKSIZE) Proper Kept {} steps ↔
      PartialRun.Permitted (step CHUNKSIZE) Proper Allowed {} steps :=
  PartialRun.runs_iff_permitted (fun _ _ holds proper => step_holds holds proper) steps
    fun _ => holds_nil

end

/-- The second vector takes the capacity of the first, which is reserved, and no array. -/
def reserved : List (Step Nat) := [.reserve 0 1, .assign 1 0, .push_back 1 (.value 7)]

/-- The array of the element is replaced before the element is read. -/
def pushedOwn : List (Step Nat) := [.push_back 0 (.value 7), .push_back 0 (.element 0)]

theorem not_always_kept :
    ¬PartialRun.Runs (step 16) Proper Kept {} reserved ∧
      ¬PartialRun.Runs (step 1) Proper Kept {} pushedOwn := by
  constructor
  · rintro ⟨-, first⟩
    obtain ⟨afterReserve, result, -, second⟩ := first trivial
    obtain rfl := Option.some.inj result
    obtain ⟨afterAssign, result, -, third⟩ := second trivial
    obtain rfl := Option.some.inj result
    obtain ⟨_, null, -⟩ := third trivial
    cases null
  · rintro ⟨-, first⟩
    obtain ⟨afterPush, result, -, second⟩ := first trivial
    obtain rfl := Option.some.inj result
    obtain ⟨_, freed, -⟩ := second (Nat.zero_lt_one)
    cases freed

end VectorBody

end Karabiner
