import Mathlib.Algebra.Group.Pi.Basic
import Mathlib.Algebra.Group.Prod
import Mathlib.Algebra.Ring.Int.Defs

set_option autoImplicit false

/- Lists of counters, each under a key, and changes that depend on the key alone. -/
namespace Counters

variable {Key Item : Type*}

def offset (change : Key → Int) (counters : List (Key × Int)) : List (Key × Int) :=
  counters.map fun entry => (entry.1, entry.2 + change entry.1)

@[simp] theorem offset_zero (counters : List (Key × Int)) : offset 0 counters = counters := by
  simp [offset]

@[simp] theorem offset_offset (first second : Key → Int) (counters : List (Key × Int)) :
    offset second (offset first counters) = offset (first + second) counters := by
  simp [offset, Int.add_assoc]

/-- The counters of the items that count. -/
def read (key : Item → Key) (count : Item → Int) (counts : Item → Bool) (items : List Item) :
    List (Key × Int) :=
  (items.filter counts).map fun item => (key item, count item)

/-- A loop over the items that does the same to all counters of a key. -/
theorem read_map {key : Item → Key} {count : Item → Int} {counts : Item → Bool}
    {change : Key → Int} {f : Item → Item} {items : List Item}
    (same : ∀ item, key (f item) = key item) (stays : ∀ item, counts (f item) = counts item)
    (changed : ∀ item, counts item = true → count (f item) = count item + change (key item)) :
    read key count counts (items.map f) = offset change (read key count counts items) := by
  induction items with
  | nil => rfl
  | cons item items ih =>
      unfold read offset at ih ⊢
      rw [List.map_cons, List.filter_cons, List.filter_cons, stays item]
      split
      · next counted =>
        rw [List.map_cons, List.map_cons, List.map_cons, ih, same item, changed item counted]
      · exact ih

def zeroed (counters : List (Key × Int)) : List (Key × Int) :=
  counters.map fun entry => (entry.1, 0)

@[simp] theorem zeroed_offset (change : Key → Int) (counters : List (Key × Int)) :
    zeroed (offset change counters) = zeroed counters := by
  simp [zeroed, offset]

/-- A loop over the items that sets all counters back. -/
theorem read_zeroed {key : Item → Key} {count : Item → Int} {counts : Item → Bool}
    {f : Item → Item} {items : List Item} (same : ∀ item, key (f item) = key item)
    (stays : ∀ item, counts (f item) = counts item) (back : ∀ item, count (f item) = 0) :
    read key count counts (items.map f) = zeroed (read key count counts items) := by
  unfold read zeroed
  rw [List.filter_map, List.map_map, List.map_map]
  have filtered : counts ∘ f = counts := funext stays
  rw [filtered]
  exact List.map_congr_left fun item _ => by simp [same, back]

end Counters
