import Mathlib.Data.List.Basic

set_option autoImplicit false

/- Computations that report the events they cause, in order, next to their value. -/

universe u v

structure Traced (Event : Type u) (α : Type v) where
  value : α
  events : List Event

namespace Traced

variable {Event : Type u} {α β : Type v}

instance : Monad (Traced Event) where
  pure a := ⟨a, []⟩
  bind x f := ⟨(f x.value).value, x.events ++ (f x.value).events⟩

def emit (events : List Event) (value : α) : Traced Event α := ⟨value, events⟩

/-- Every event of the computation satisfies the predicate. -/
def All (P : Event → Prop) (x : Traced Event α) : Prop := ∀ event ∈ x.events, P event

@[simp] theorem value_pure (a : α) : (pure a : Traced Event α).value = a := rfl

@[simp] theorem value_bind (x : Traced Event α) (f : α → Traced Event β) :
    (x >>= f).value = (f x.value).value := rfl

@[simp] theorem value_map (f : α → β) (x : Traced Event α) : (f <$> x).value = f x.value := rfl

@[simp] theorem value_emit (events : List Event) (a : α) : (emit events a).value = a := rfl

@[simp] theorem all_pure (P : Event → Prop) (a : α) : (pure a : Traced Event α).All P := by
  simp [All, pure]

@[simp] theorem all_bind (P : Event → Prop) (x : Traced Event α) (f : α → Traced Event β) :
    (x >>= f).All P ↔ x.All P ∧ (f x.value).All P := by
  simp only [All, bind, List.mem_append]
  constructor
  · intro all
    exact ⟨fun event inside => all event (.inl inside),
      fun event inside => all event (.inr inside)⟩
  · rintro ⟨first, second⟩ event (inside | inside)
    · exact first event inside
    · exact second event inside

@[simp] theorem all_map (P : Event → Prop) (f : α → β) (x : Traced Event α) :
    (f <$> x).All P ↔ x.All P := by
  simp [All, Functor.map]

@[simp] theorem all_emit (P : Event → Prop) (events : List Event) (a : α) :
    (emit events a).All P ↔ ∀ event ∈ events, P event := Iff.rfl

theorem all_ite (P : Event → Prop) (c : Prop) [Decidable c] (x y : Traced Event α) :
    (if c then x else y).All P ↔ (c → x.All P) ∧ (¬ c → y.All P) := by
  split <;> simp_all

theorem value_foldlM {Entry : Type*} {f : α → Entry → Traced Event α}
    {g : α → Entry → α}
    (same : ∀ a entry, (f a entry).value = g a entry) (entries : List Entry) (a : α) :
    (entries.foldlM f a).value = entries.foldl g a := by
  induction entries generalizing a with
  | nil => rfl
  | cons entry entries ih => rw [List.foldlM_cons, value_bind, same, ih, List.foldl_cons]

/-- A loop over a list, of which every round keeps an invariant and relates the values before and
behind it with its events. -/
theorem related_foldlM {Entry : Type*} {f : α → Entry → Traced Event α} {Inv : α → Prop}
    {Related : α → List Event → α → Prop} (refl : ∀ a, Related a [] a)
    (trans : ∀ {a b c first second}, Related a first b → Related b second c →
      Related a (first ++ second) c)
    {entries : List Entry}
    (round : ∀ entry ∈ entries, ∀ a, Inv a →
      Inv (f a entry).value ∧ Related a (f a entry).events (f a entry).value)
    {a : α} (start : Inv a) :
    Inv (entries.foldlM f a).value ∧
      Related a (entries.foldlM f a).events (entries.foldlM f a).value := by
  induction entries generalizing a with
  | nil => exact ⟨start, refl a⟩
  | cons entry entries ih =>
      obtain ⟨kept, here⟩ := round entry List.mem_cons_self a start
      obtain ⟨final, rest⟩ :=
        ih (fun other member => round other (List.mem_cons_of_mem _ member)) kept
      rw [List.foldlM_cons]
      exact ⟨final, trans here rest⟩

section

variable {P : Event → Prop} {Inv : Nat → α → Prop} {f : α → Nat → Traced Event α}

/-- A counting loop keeps what each of its rounds passes on. -/
theorem foldlM_range' (first count : Nat) {a : α} (start : Inv first a)
    (step : ∀ i, first ≤ i → i < first + count → ∀ a, Inv i a →
      Inv (i + 1) (f a i).value) :
    Inv (first + count) ((List.range' first count).foldlM f a).value := by
  induction count generalizing first a with
  | zero => exact start
  | succ count ih =>
      rw [List.range'_succ, List.foldlM_cons, value_bind]
      have next := step first (Nat.le_refl first) (by omega) a start
      have rest := ih (first + 1) next fun i low high => step i (by omega) (by omega)
      rwa [show first + (count + 1) = first + 1 + count by omega]

/-- The events of a counting loop are judged round by round. -/
theorem all_foldlM_range' {Good : Nat → Prop} (first count : Nat) {a : α} (start : Inv first a)
    (step : ∀ i, first ≤ i → i < first + count → ∀ a, Inv i a →
      Inv (i + 1) (f a i).value)
    (judged : ∀ i, first ≤ i → i < first + count → ∀ a, Inv i a →
      ((f a i).All P ↔ Good i)) :
    ((List.range' first count).foldlM f a).All P ↔
      ∀ i, first ≤ i → i < first + count → Good i := by
  induction count generalizing first a with
  | zero =>
      rw [List.range'_zero, List.foldlM_nil]
      exact iff_of_true (all_pure P a) fun i low high => absurd high (by omega)
  | succ count ih =>
      have next := step first (Nat.le_refl first) (by omega) a start
      have rest := ih (first + 1) next (fun i low high => step i (by omega) (by omega))
        fun i low high => judged i (by omega) (by omega)
      rw [List.range'_succ, List.foldlM_cons, all_bind, rest,
        judged first (Nat.le_refl first) (by omega) a start]
      constructor
      · intro both i low high
        by_cases same : i = first
        · exact same ▸ both.1
        · exact both.2 i (by omega) (by omega)
      · intro all
        exact ⟨all first (Nat.le_refl first) (by omega),
          fun i low high => all i (by omega) (by omega)⟩

end

end Traced
