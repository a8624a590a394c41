import Karabiner.LinkPath
import Karabiner.Transition
import Mathlib.Logic.Function.Basic

set_option autoImplicit false

/- List, the doubly linked list of the kernel extension, with the memory that its items are in. What
the memory of a deleted item holds is unknown. -/
namespace Karabiner

namespace IntrusiveList

/-- List::Item, as it is constructed. -/
structure Item where
  prev_ : Option Nat := none
  next_ : Option Nat := none
  deriving DecidableEq, Repr

end IntrusiveList

structure IntrusiveList where
  heap : Nat → IntrusiveList.Item
  front_ : Option Nat := none
  back_ : Option Nat := none
  size_ : Nat := 0

namespace IntrusiveList

def write (p : Nat) (item : Item) (list : IntrusiveList) : IntrusiveList :=
  { list with heap := Function.update list.heap p item }

def setPrev (p : Nat) (prev_ : Option Nat) (list : IntrusiveList) : IntrusiveList :=
  list.write p { list.heap p with prev_ }

def setNext (p : Nat) (next_ : Option Nat) (list : IntrusiveList) : IntrusiveList :=
  list.write p { list.heap p with next_ }

/-- if (p) { p->prev_ = prev; } -/
def setPrevIf (p prev_ : Option Nat) (list : IntrusiveList) : IntrusiveList :=
  match p with
  | some p => list.setPrev p prev_
  | none => list

def setNextIf (p next_ : Option Nat) (list : IntrusiveList) : IntrusiveList :=
  match p with
  | some p => list.setNext p next_
  | none => list

/-- The item that is returned comes second. -/
def erase (p : Option Nat) (list : IntrusiveList) : IntrusiveList × Option Nat :=
  match p with
  | none => (list, none)
  | some p =>
      let next := (list.heap p).next_
      let list := list.setNextIf (list.heap p).prev_ (list.heap p).next_
      let list := list.setPrevIf (list.heap p).next_ (list.heap p).prev_
      let list := if list.front_ = some p then { list with front_ := (list.heap p).next_ } else list
      let list := if list.back_ = some p then { list with back_ := (list.heap p).prev_ } else list
      ({ list with size_ := list.size_ - 1 }, next)

def insert (p newval : Option Nat) (list : IntrusiveList) : IntrusiveList × Option Nat :=
  match newval with
  | none => (list, none)
  | some newval =>
      let list :=
        match p with
        | none =>
            let list := list.setPrevIf list.front_ (some newval)
            let list := (list.setPrev newval none).setNext newval list.front_
            let list := { list with front_ := some newval }
            if list.back_ = none then { list with back_ := list.front_ } else list
        | some p =>
            let list := list.setNext newval (some p)
            let list :=
              match (list.heap p).prev_ with
              | some prev => (list.setPrev newval (some prev)).setNext prev (some newval)
              | none => { list with front_ := some newval }
            list.setPrev p (some newval)
      ({ list with size_ := list.size_ + 1 }, some newval)

def push_back (p : Option Nat) (list : IntrusiveList) : IntrusiveList :=
  match p with
  | none => list
  | some p =>
      let list := list.setNextIf list.back_ (some p)
      let list := (list.setPrev p list.back_).setNext p none
      let list := { list with back_ := some p }
      let list := if list.front_ = none then { list with front_ := list.back_ } else list
      { list with size_ := list.size_ + 1 }

def push_front (p : Option Nat) (list : IntrusiveList) : IntrusiveList :=
  match p with
  | none => list
  | some p => (list.insert none (some p)).1

section
variable (deleted : Nat → Item)

def erase_and_delete (p : Option Nat) (list : IntrusiveList) : IntrusiveList × Option Nat :=
  match p with
  | none => (list, none)
  | some p =>
      let (list, next) := list.erase (some p)
      (list.write p (deleted p), next)

/-- The loop of clear; none where it takes more rounds. -/
def clearLoop : Nat → IntrusiveList → Option IntrusiveList
  | 0, _ => none
  | rounds + 1, list =>
      match list.front_ with
      | none => some list
      | some front => clearLoop rounds (list.erase_and_delete deleted (some front)).1

/-- One round more than there are items sees that front_ is null. -/
def clear (list : IntrusiveList) : Option IntrusiveList := list.clearLoop deleted (list.size_ + 1)

end

/-- The items that are put in are new; an address can be one that was erased before. -/
inductive Operation where
  | push_back (p : Nat)
  | push_front (p : Nat)
  | insert (p : Option Nat) (newval : Nat)
  | erase (p : Nat)
  | erase_and_delete (p : Nat)
  | clear
  deriving DecidableEq, Repr

/-- The constructor of Item. -/
def construct (p : Nat) (list : IntrusiveList) : IntrusiveList := list.write p {}

def step (deleted : Nat → Item) (list : IntrusiveList) : Operation → Option IntrusiveList
  | .push_back p => some ((list.construct p).push_back (some p))
  | .push_front p => some ((list.construct p).push_front (some p))
  | .insert p newval => some ((list.construct newval).insert p (some newval)).1
  | .erase p => some (list.erase (some p)).1
  | .erase_and_delete p => some (list.erase_and_delete deleted (some p)).1
  | .clear => list.clear deleted

def insertBefore (p newval : Nat) : List Nat → List Nat
  | [] => []
  | first :: rest =>
      if first = p then newval :: first :: rest else first :: insertBefore p newval rest

/-- The same operations on a sequence. -/
def sequenceStep (items : List Nat) : Operation → List Nat
  | .push_back p => items ++ [p]
  | .push_front p => p :: items
  | .insert none newval => newval :: items
  | .insert (some p) newval => insertBefore p newval items
  | .erase p | .erase_and_delete p => items.erase p
  | .clear => []

/-- Items that are put in are not in the list, others are. -/
def Allowed (items : List Nat) : Operation → Prop
  | .push_back p | .push_front p => p ∉ items
  | .insert p newval => newval ∉ items ∧ ∀ q ∈ p, q ∈ items
  | .erase p | .erase_and_delete p => p ∈ items
  | .clear => True

instance (items : List Nat) : (operation : Operation) → Decidable (Allowed items operation)
  | .push_back p | .push_front p => inferInstanceAs (Decidable (p ∉ items))
  | .insert p newval => inferInstanceAs (Decidable (newval ∉ items ∧ ∀ q ∈ p, q ∈ items))
  | .erase p | .erase_and_delete p => inferInstanceAs (Decidable (p ∈ items))
  | .clear => isTrue trivial

open LinkPath (Path)

def next (list : IntrusiveList) (p : Nat) : Option Nat := (list.heap p).next_

def prev (list : IntrusiveList) (p : Nat) : Option Nat := (list.heap p).prev_

/-- The chains from both ends go through the items, in one order and in the other. -/
structure WellFormed (list : IntrusiveList) (items : List Nat) : Prop where
  forward : Path list.next list.front_ items none
  backward : Path list.prev list.back_ items.reverse none
  nodup : items.Nodup
  size : list.size_ = items.length

section
variable {list : IntrusiveList} {items before after : List Nat} {p q newval : Nat}

theorem wellFormed_nil (heap : Nat → Item) : WellFormed { heap } [] :=
  ⟨rfl, rfl, List.nodup_nil, rfl⟩

theorem WellFormed.front_eq (wellFormed : WellFormed list items) :
    list.front_ = items.head? := wellFormed.forward.start_eq

theorem WellFormed.back_eq (wellFormed : WellFormed list items) :
    list.back_ = items.getLast? := by
  rw [← List.head?_reverse]
  exact wellFormed.backward.start_eq

theorem WellFormed.next_eq (wellFormed : WellFormed list (before ++ p :: after)) :
    list.next p = after.head? := by
  obtain ⟨middle, -, -, rest⟩ := LinkPath.path_append.mp wellFormed.forward
  exact rest.start_eq

theorem WellFormed.prev_eq (wellFormed : WellFormed list (before ++ p :: after)) :
    list.prev p = before.getLast? := by
  have backward := wellFormed.backward
  rw [List.reverse_append, List.reverse_cons, List.append_assoc, List.singleton_append] at backward
  obtain ⟨middle, -, -, rest⟩ := LinkPath.path_append.mp backward
  rw [← List.head?_reverse]
  exact rest.start_eq

end

section
variable (list : IntrusiveList) (p q b : Nat) (pointer : Option Nat)

@[simp] theorem setPrev_front : (list.setPrev p pointer).front_ = list.front_ := rfl
@[simp] theorem setPrev_back : (list.setPrev p pointer).back_ = list.back_ := rfl
@[simp] theorem setPrev_size : (list.setPrev p pointer).size_ = list.size_ := rfl
@[simp] theorem setNext_front : (list.setNext p pointer).front_ = list.front_ := rfl
@[simp] theorem setNext_back : (list.setNext p pointer).back_ = list.back_ := rfl
@[simp] theorem setNext_size : (list.setNext p pointer).size_ = list.size_ := rfl

@[simp] theorem setPrev_next :
    ((list.setPrev p pointer).heap b).next_ = (list.heap b).next_ := by
  by_cases same : b = p
  · subst same
    simp [setPrev, write]
  · simp [setPrev, write, same]

@[simp] theorem setPrev_prev :
    ((list.setPrev p pointer).heap b).prev_ = if b = p then pointer else (list.heap b).prev_ := by
  by_cases same : b = p
  · subst same
    simp [setPrev, write]
  · simp [setPrev, write, same]

@[simp] theorem setNext_next :
    ((list.setNext p pointer).heap b).next_ = if b = p then pointer else (list.heap b).next_ := by
  by_cases same : b = p
  · subst same
    simp [setNext, write]
  · simp [setNext, write, same]

@[simp] theorem setNext_prev :
    ((list.setNext p pointer).heap b).prev_ = (list.heap b).prev_ := by
  by_cases same : b = p
  · subst same
    simp [setNext, write]
  · simp [setNext, write, same]

variable (place : Option Nat)

@[simp] theorem setPrevIf_front : (list.setPrevIf place pointer).front_ = list.front_ := by
  cases place <;> rfl

@[simp] theorem setPrevIf_back : (list.setPrevIf place pointer).back_ = list.back_ := by
  cases place <;> rfl

@[simp] theorem setPrevIf_size : (list.setPrevIf place pointer).size_ = list.size_ := by
  cases place <;> rfl

@[simp] theorem setNextIf_front : (list.setNextIf place pointer).front_ = list.front_ := by
  cases place <;> rfl

@[simp] theorem setNextIf_back : (list.setNextIf place pointer).back_ = list.back_ := by
  cases place <;> rfl

@[simp] theorem setNextIf_size : (list.setNextIf place pointer).size_ = list.size_ := by
  cases place <;> rfl

@[simp] theorem setPrevIf_next :
    ((list.setPrevIf place pointer).heap b).next_ = (list.heap b).next_ := by
  cases place <;> simp [setPrevIf]

@[simp] theorem setPrevIf_prev : ((list.setPrevIf place pointer).heap b).prev_ =
    if place = some b then pointer else (list.heap b).prev_ := by
  cases place <;> simp [setPrevIf, eq_comm]

@[simp] theorem setNextIf_next : ((list.setNextIf place pointer).heap b).next_ =
    if place = some b then pointer else (list.heap b).next_ := by
  cases place <;> simp [setNextIf, eq_comm]

@[simp] theorem setNextIf_prev :
    ((list.setNextIf place pointer).heap b).prev_ = (list.heap b).prev_ := by
  cases place <;> simp [setNextIf]

/-- What erase does, whatever the links are. -/
theorem erase_links :
    let erased := list.erase (some p)
    (∀ b, erased.1.next b = if list.prev p = some b then list.next p else list.next b) ∧
      (∀ b, erased.1.prev b = if list.next p = some b then list.prev p else list.prev b) ∧
      erased.1.front_ = (if list.front_ = some p then list.next p else list.front_) ∧
      erased.1.back_ = (if list.back_ = some p then list.prev p else list.back_) ∧
      erased.1.size_ = list.size_ - 1 ∧ erased.2 = list.next p := by
  unfold erase next prev
  dsimp only
  refine ⟨fun b => ?_, fun b => ?_, ?_, ?_, ?_, rfl⟩
  · split <;> split <;> simp
  · split <;> split <;> simp
  · split <;> split <;> simp_all
  · split <;> split <;> simp_all
  · split <;> split <;> simp

theorem push_back_links :
    let pushed := list.push_back (some p)
    (∀ b, pushed.next b =
        if b = p then none else if list.back_ = some b then some p else list.next b) ∧
      (∀ b, pushed.prev b = if b = p then list.back_ else list.prev b) ∧
      pushed.front_ = (if list.front_ = none then some p else list.front_) ∧
      pushed.back_ = some p ∧ pushed.size_ = list.size_ + 1 := by
  unfold push_back next prev
  dsimp only
  refine ⟨fun b => ?_, fun b => ?_, ?_, ?_, ?_⟩
  · split <;> simp
  · split <;> simp
  · split <;> simp_all
  · split <;> rfl
  · split <;> simp

theorem insert_none_links :
    let inserted := (list.insert none (some p)).1
    (∀ b, inserted.next b = if b = p then list.front_ else list.next b) ∧
      (∀ b, inserted.prev b =
        if b = p then none else if list.front_ = some b then some p else list.prev b) ∧
      inserted.front_ = some p ∧
      inserted.back_ = (if list.back_ = none then some p else list.back_) ∧
      inserted.size_ = list.size_ + 1 := by
  unfold insert next prev
  dsimp only
  refine ⟨fun b => ?_, fun b => ?_, ?_, ?_, ?_⟩
  · split <;> simp
  · split <;> simp
  · split <;> rfl
  · split <;> simp_all
  · split <;> simp

/-- The prev_ of an item that becomes the first is left as it was constructed. -/
theorem insert_some_links {newval : Nat} (other : p ≠ newval) (new : list.prev newval = none) :
    let inserted := (list.insert (some p) (some newval)).1
    (∀ b, inserted.next b =
        if list.prev p = some b then some newval
        else if b = newval then some p else list.next b) ∧
      (∀ b, inserted.prev b =
        if b = p then some newval else if b = newval then list.prev p else list.prev b) ∧
      inserted.front_ = (if list.prev p = none then some newval else list.front_) ∧
      inserted.back_ = list.back_ ∧ inserted.size_ = list.size_ + 1 := by
  unfold insert next
  dsimp only
  unfold prev at new ⊢
  rw [setNext_prev]
  cases first : (list.heap p).prev_ with
  | none =>
      refine ⟨fun b => ?_, fun b => ?_, ?_, ?_, ?_⟩
      · simp
      · by_cases own : b = newval
        · subst own
          simp [new]
        · simp [own]
      · simp
      · simp
      · simp
  | some q =>
      refine ⟨fun b => ?_, fun b => ?_, ?_, ?_, ?_⟩
      · simp [eq_comm]
      · simp
      · simp
      · simp
      · simp

end

section
variable {list : IntrusiveList} {items before after : List Nat} {p newval : Nat}

theorem construct_wellFormed (wellFormed : WellFormed list items) (new : newval ∉ items) :
    WellFormed (list.construct newval) items := by
  have other {b : Nat} (member : b ∈ items) : (list.construct newval).heap b = list.heap b := by
    have apart : b ≠ newval := fun same => new (same ▸ member)
    exact Function.update_of_ne apart _ _
  refine ⟨wellFormed.forward.congr fun b member =>
    ?_, wellFormed.backward.congr fun b member => ?_,
    wellFormed.nodup, wellFormed.size⟩
  · rw [next, other member, next]
  · rw [prev, other (List.mem_reverse.mp member), prev]

theorem construct_prev (list : IntrusiveList) (newval : Nat) :
    (list.construct newval).prev newval = none := by
  simp [prev, construct, write]

theorem WellFormed.front_eq_none_iff (wellFormed : WellFormed list items) :
    list.front_ = none ↔ items = [] := by
  rw [wellFormed.front_eq, List.head?_eq_none_iff]

theorem WellFormed.back_eq_none_iff (wellFormed : WellFormed list items) :
    list.back_ = none ↔ items = [] := by
  rw [wellFormed.back_eq, List.getLast?_eq_none_iff]

theorem push_back_wellFormed (wellFormed : WellFormed list items) (new : p ∉ items) :
    WellFormed (list.push_back (some p)) (items ++ [p]) := by
  obtain ⟨nexts, prevs, front, back, size⟩ := push_back_links list p
  have apart {b : Nat} (member : b ∈ items) : b ≠ p := fun same => new (same ▸ member)
  constructor
  · have path : Path (list.push_back (some p)).next (if items = [] then some p else list.front_)
        (items ++ [p]) none := by
      apply wellFormed.forward.snoc wellFormed.nodup
      · rw [nexts, if_pos rfl]
      · intro b member
        rw [nexts, if_neg (apart member), wellFormed.back_eq]
    simp only [front, wellFormed.front_eq_none_iff]
    exact path
  · rw [back, List.reverse_append]
    refine ⟨rfl, ?_⟩
    rw [prevs, if_pos rfl]
    refine wellFormed.backward.congr fun b member => ?_
    rw [prevs, if_neg (apart (List.mem_reverse.mp member))]
  · rw [List.nodup_append]
    refine ⟨wellFormed.nodup, List.nodup_singleton p, fun b member other same => ?_⟩
    rw [List.mem_singleton.mp same]
    exact apart member
  · rw [size, wellFormed.size, List.length_append]
    rfl

theorem insert_none_wellFormed (wellFormed : WellFormed list items) (new : p ∉ items) :
    WellFormed (list.insert none (some p)).1 (p :: items) := by
  obtain ⟨nexts, prevs, front, back, size⟩ := insert_none_links list p
  have apart {b : Nat} (member : b ∈ items) : b ≠ p := fun same => new (same ▸ member)
  constructor
  · rw [front]
    refine ⟨rfl, ?_⟩
    rw [nexts, if_pos rfl]
    refine wellFormed.forward.congr fun b member => ?_
    rw [nexts, if_neg (apart member)]
  · have path : Path (list.insert none (some p)).1.prev
        (if items.reverse = [] then some p else list.back_) (items.reverse ++ [p]) none := by
      apply wellFormed.backward.snoc (List.nodup_reverse.mpr wellFormed.nodup)
      · rw [prevs, if_pos rfl]
      · intro b member
        rw [prevs, if_neg (apart (List.mem_reverse.mp member)), List.getLast?_reverse,
          wellFormed.front_eq]
    simp only [List.reverse_eq_nil_iff] at path
    simp only [back, wellFormed.back_eq_none_iff, List.reverse_cons]
    exact path
  · exact List.nodup_cons.mpr ⟨new, wellFormed.nodup⟩
  · rw [size, wellFormed.size, List.length_cons]

theorem insert_some_wellFormed (wellFormed : WellFormed list (before ++ p :: after))
    (new : newval ∉ before ++ p :: after) (constructed : list.prev newval = none) :
    WellFormed (list.insert (some p) (some newval)).1 (before ++ newval :: p :: after) := by
  have apart {b : Nat} (member : b ∈ before ++ p :: after) : b ≠ newval :=
    fun same => new (same ▸ member)
  obtain ⟨nexts, prevs, front, back, size⟩ :=
    insert_some_links list p (apart (by simp)) constructed
  have prev_eq := wellFormed.prev_eq
  constructor
  · have path : Path (list.insert (some p) (some newval)).1.next
        (if before = [] then some newval else list.front_)
        (before ++ newval :: p :: after) none := by
      apply wellFormed.forward.insertBefore wellFormed.nodup
      · rw [nexts, if_neg, if_pos rfl]
        rw [prev_eq]
        intro last
        exact apart (List.mem_append_left _ (List.mem_of_getLast? last)) rfl
      · intro b member
        rw [nexts, if_neg (apart member), prev_eq]
    simp only [front, prev_eq, List.getLast?_eq_none_iff]
    exact path
  · have backward := wellFormed.backward
    have nodup := wellFormed.nodup
    rw [List.reverse_append, List.reverse_cons, List.append_assoc, List.singleton_append]
      at backward
    rw [back, List.reverse_append, List.reverse_cons, List.reverse_cons, List.append_assoc,
      List.append_assoc, List.singleton_append, List.singleton_append]
    apply backward.insertAfter
    · rw [prevs, if_neg (apart (by simp)).symm, if_pos rfl]
    · rw [prevs, if_pos rfl]
    · intro b member
      rw [List.mem_append, List.mem_reverse, List.mem_reverse] at member
      have inside : b ∈ before ++ after := List.mem_append.mpr member.symm
      have other : b ≠ p := by
        intro same
        exact (List.nodup_middle.mp nodup).notMem (same ▸ inside)
      rw [prevs, if_neg other, if_neg (apart ?_)]
      rcases member with left | right
      · simp [left]
      · simp [right]
  · exact List.nodup_middle.mpr (List.nodup_cons.mpr ⟨new, wellFormed.nodup⟩)
  · rw [size, wellFormed.size]
    simp
    omega

theorem head?_eq_some_iff (outside : p ∉ before) :
    (before ++ p :: after).head? = some p ↔ before = [] := by
  cases before with
  | nil => simp
  | cons first rest =>
      have other : first ≠ p := fun same => outside (same ▸ List.mem_cons_self)
      simp [other]

theorem erase_wellFormed (wellFormed : WellFormed list (before ++ p :: after)) :
    WellFormed (list.erase (some p)).1 (before ++ after) ∧
      (list.erase (some p)).2 = after.head? := by
  obtain ⟨nexts, prevs, front, back, size, returned⟩ := erase_links list p
  have prev_eq := wellFormed.prev_eq
  have next_eq := wellFormed.next_eq
  have nodup := wellFormed.nodup
  obtain ⟨apart, others⟩ := List.nodup_cons.mp (List.nodup_middle.mp nodup)
  refine ⟨?_, returned.trans next_eq⟩
  constructor
  · have outside : p ∉ before := fun among => apart (List.mem_append_left _ among)
    have first : list.front_ = some p ↔ before = [] := by
      rw [wellFormed.front_eq, head?_eq_some_iff outside]
    have path : Path (list.erase (some p)).1.next
        (if before = [] then list.next p else list.front_) (before ++ after) none := by
      apply wellFormed.forward.remove nodup
      intro b member
      rw [nexts, prev_eq]
    simp only [front, first]
    exact path
  · have backward := wellFormed.backward
    have reversed := List.nodup_reverse.mpr nodup
    rw [List.reverse_append, List.reverse_cons, List.append_assoc, List.singleton_append]
      at backward reversed
    have outside : p ∉ after.reverse := by
      intro among
      exact apart (List.mem_append_right _ (List.mem_reverse.mp among))
    have last : list.back_ = some p ↔ after = [] := by
      rw [backward.start_eq, head?_eq_some_iff outside, List.reverse_eq_nil_iff]
    have path : Path (list.erase (some p)).1.prev
        (if after.reverse = [] then list.prev p else list.back_)
        (after.reverse ++ before.reverse) none := by
      apply backward.remove reversed
      intro b member
      rw [prevs, next_eq, List.getLast?_reverse]
    simp only [List.reverse_eq_nil_iff] at path
    simp only [back, last, List.reverse_append]
    exact path
  · exact others
  · rw [size, wellFormed.size]
    simp

/-- The item is found by its place. -/
theorem exists_place (member : p ∈ items) (nodup : items.Nodup) :
    ∃ before after, items = before ++ p :: after ∧ items.erase p = before ++ after ∧
      insertBefore p newval items = before ++ newval :: p :: after ∧
      items[items.idxOf p + 1]? = after.head? := by
  obtain ⟨before, after, rfl⟩ := List.append_of_mem member
  obtain ⟨apart, -⟩ := List.nodup_cons.mp (List.nodup_middle.mp nodup)
  have outside : p ∉ before := fun among => apart (List.mem_append_left _ among)
  refine ⟨before, after, rfl, ?_, ?_, ?_⟩
  · rw [List.erase_append_right _ outside, List.erase_cons_head]
  · clear member nodup apart
    induction before with
    | nil => simp [insertBefore]
    | cons first rest ih =>
        have other : first ≠ p := fun same => outside (same ▸ List.mem_cons_self)
        rw [List.cons_append, insertBefore, if_neg other,
          ih fun among => outside (List.mem_cons_of_mem _ among)]
        rfl
  · rw [List.idxOf_append_of_notMem outside, List.idxOf_cons_self, Nat.add_zero,
      List.getElem?_append_right (Nat.le_succ _)]
    have one : before.length + 1 - before.length = 1 := by omega
    show (p :: after)[before.length + 1 - before.length]? = after.head?
    rw [one, List.getElem?_cons_succ, List.head?_eq_getElem?]

/-- What a deleted item holds is met by no chain. -/
theorem erase_and_delete_wellFormed (deleted : Nat → Item)
    (wellFormed : WellFormed list (before ++ p :: after)) :
    WellFormed (list.erase_and_delete deleted (some p)).1 (before ++ after) ∧
      (list.erase_and_delete deleted (some p)).2 = after.head? := by
  obtain ⟨erased, returned⟩ := erase_wellFormed wellFormed
  obtain ⟨apart, -⟩ := List.nodup_cons.mp (List.nodup_middle.mp wellFormed.nodup)
  have other {b : Nat} (member : b ∈ before ++ after) :
      (list.erase_and_delete deleted (some p)).1.heap b = (list.erase (some p)).1.heap b := by
    have different : b ≠ p := fun same => apart (same ▸ member)
    exact Function.update_of_ne different _ _
  refine ⟨⟨erased.forward.congr fun b member => ?_, erased.backward.congr fun b member => ?_,
    erased.nodup, erased.size⟩, returned⟩
  · rw [next, other member, next]
  · rw [prev, other (List.mem_reverse.mp member), prev]

/-- The loop ends when it has deleted every item. -/
theorem clearLoop_wellFormed (deleted : Nat → Item) (wellFormed : WellFormed list items)
    {rounds : Nat} (enough : items.length < rounds) :
    ∃ cleared, list.clearLoop deleted rounds = some cleared ∧ WellFormed cleared [] := by
  induction rounds generalizing list items with
  | zero => omega
  | succ rounds ih =>
      rw [clearLoop, wellFormed.front_eq]
      cases items with
      | nil => exact ⟨list, rfl, wellFormed⟩
      | cons first rest =>
          have whole : WellFormed list ([] ++ first :: rest) := wellFormed
          have erased := (erase_and_delete_wellFormed deleted whole).1
          rw [List.nil_append] at erased
          rw [List.length_cons] at enough
          exact ih erased (by omega)

theorem step_wellFormed (deleted : Nat → Item) (wellFormed : WellFormed list items)
    {operation : Operation} (allowed : Allowed items operation) :
    ∃ result, step deleted list operation = some result ∧
      WellFormed result (sequenceStep items operation) := by
  cases operation with
  | push_back p =>
      exact ⟨_, rfl, push_back_wellFormed (construct_wellFormed wellFormed allowed) allowed⟩
  | push_front p =>
      exact ⟨_, rfl, insert_none_wellFormed (construct_wellFormed wellFormed allowed) allowed⟩
  | insert p newval =>
      obtain ⟨new, known⟩ := allowed
      have ready := construct_wellFormed wellFormed new
      cases p with
      | none => exact ⟨_, rfl, insert_none_wellFormed ready new⟩
      | some p =>
          obtain ⟨before, after, rfl, -, inserted, -⟩ :=
            @exists_place items p newval (known p rfl) wellFormed.nodup
          refine ⟨_, rfl, ?_⟩
          rw [sequenceStep, inserted]
          exact insert_some_wellFormed ready new (construct_prev list newval)
  | erase p =>
      obtain ⟨before, after, rfl, erased, -⟩ := @exists_place items p 0 allowed wellFormed.nodup
      refine ⟨_, rfl, ?_⟩
      rw [sequenceStep, erased]
      exact (erase_wellFormed wellFormed).1
  | erase_and_delete p =>
      obtain ⟨before, after, rfl, erased, -⟩ := @exists_place items p 0 allowed wellFormed.nodup
      refine ⟨_, rfl, ?_⟩
      rw [sequenceStep, erased]
      exact (erase_and_delete_wellFormed deleted wellFormed).1
  | clear =>
      apply clearLoop_wellFormed deleted wellFormed
      rw [wellFormed.size]
      exact Nat.lt_succ_self _

theorem run_wellFormed (deleted : Nat → Item) (wellFormed : WellFormed list items)
    {operations : List Operation}
    (allowed : Transition.Along sequenceStep Allowed items operations) :
    ∃ result, operations.foldlM (step deleted) list = some result ∧
      WellFormed result (Transition.run sequenceStep items operations) := by
  induction operations generalizing list items with
  | nil => exact ⟨list, rfl, wellFormed⟩
  | cons operation operations ih =>
      obtain ⟨next, stepped, kept⟩ := step_wellFormed deleted wellFormed allowed.1
      obtain ⟨result, ran, holds⟩ := ih kept allowed.2
      refine ⟨result, ?_, holds⟩
      rw [List.foldlM_cons, stepped]
      exact ran

end

/-- The list is linked as the sequence, its ends are ends, and its items have the successors that
erase returns. -/
structure Linked (deleted : Nat → Item) (list : IntrusiveList) (items : List Nat) : Prop where
  wellFormed : WellFormed list items
  front : ∀ p ∈ list.front_, list.prev p = none
  back : ∀ p ∈ list.back_, list.next p = none
  erase : ∀ p ∈ items, (list.erase (some p)).2 = items[items.idxOf p + 1]? ∧
    (list.erase_and_delete deleted (some p)).2 = items[items.idxOf p + 1]?

theorem WellFormed.linked {list : IntrusiveList} {items : List Nat} (deleted : Nat → Item)
    (wellFormed : WellFormed list items) : Linked deleted list items := by
  refine ⟨wellFormed, fun p front => ?_, fun p back => ?_, fun p member => ?_⟩
  · rw [wellFormed.front_eq] at front
    obtain ⟨rest, rfl⟩ := List.head?_eq_some_iff.mp front
    have whole : WellFormed list ([] ++ p :: rest) := wellFormed
    exact whole.prev_eq
  · rw [wellFormed.back_eq] at back
    obtain ⟨init, rfl⟩ := List.getLast?_eq_some_iff.mp back
    exact WellFormed.next_eq wellFormed
  · obtain ⟨before, after, rfl, -, -, successor⟩ :=
      @exists_place items p 0 member wellFormed.nodup
    rw [successor]
    exact ⟨(erase_wellFormed wellFormed).2, (erase_and_delete_wellFormed deleted wellFormed).2⟩

/-- Every sequence of operations keeps the list linked as the sequence of its items. -/
theorem run_linked (deleted : Nat → Item) (heap : Nat → Item) (operations : List Operation)
    (allowed : Transition.Along sequenceStep Allowed [] operations) :
    ∃ list, operations.foldlM (step deleted) { heap } = some list ∧
      Linked deleted list (Transition.run sequenceStep [] operations) := by
  obtain ⟨list, ran, wellFormed⟩ := run_wellFormed deleted (wellFormed_nil heap) allowed
  exact ⟨list, ran, wellFormed.linked deleted⟩

/-- An address is used again after its item was erased. -/
theorem run_linked_reuse :
    ∃ list, [Operation.push_back 1, .push_front 2, .insert (some 1) 3, .erase 1, .push_back 1,
        .erase_and_delete 2].foldlM (step fun _ => ⟨some 7, some 7⟩) { heap := fun _ => {} } =
          some list ∧
      Linked (fun _ => ⟨some 7, some 7⟩) list [3, 1] :=
  run_linked (fun _ => ⟨some 7, some 7⟩) (fun _ => {})
    [.push_back 1, .push_front 2, .insert (some 1) 3, .erase 1, .push_back 1, .erase_and_delete 2]
    (by decide)

end IntrusiveList

end Karabiner
