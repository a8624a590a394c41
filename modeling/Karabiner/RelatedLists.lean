import Karabiner.Throwing
import Mathlib.Data.List.Forall2

set_option autoImplicit false

/- Lists that are related element by element, and the loops that make one of another. -/
namespace Karabiner.Related

section

variable {α β γ : Type*} {R : α → β → Prop} {as : List α} {bs : List β}

theorem exists_of_mem (related : List.Forall₂ R as bs) : ∀ a ∈ as, ∃ b ∈ bs, R a b := by
  induction related with
  | nil => simp
  | cons own _ ih =>
      intro a member
      rcases List.mem_cons.1 member with rfl | later
      · exact ⟨_, List.mem_cons_self, own⟩
      · obtain ⟨b, inside, related⟩ := ih a later
        exact ⟨b, List.mem_cons_of_mem _ inside, related⟩

theorem forall_right {p : β → Prop} (each : ∀ a b, R a b → p b)
    (related : List.Forall₂ R as bs) : ∀ b ∈ bs, p b := by
  intro b member
  obtain ⟨a, _, own⟩ := exists_of_mem related.flip b member
  exact each a b own

theorem exists_iff {p : α → Prop} {q : β → Prop} (agree : ∀ a b, R a b → (p a ↔ q b))
    (related : List.Forall₂ R as bs) : (∃ a ∈ as, p a) ↔ ∃ b ∈ bs, q b := by
  induction related with
  | nil => simp
  | cons own _ ih => rw [List.exists_mem_cons_iff, List.exists_mem_cons_iff, agree _ _ own, ih]

theorem nil_iff (related : List.Forall₂ R as bs) : bs = [] ↔ as = [] := by
  cases related <;> simp

theorem exists_getLast (related : List.Forall₂ R as bs) {a : α} (last : as.getLast? = some a) :
    ∃ b, bs.getLast? = some b ∧ R a b := by
  induction related with
  | nil => cases last
  | cons own rest ih =>
      cases rest with
      | nil =>
          obtain rfl := Option.some.inj last
          exact ⟨_, rfl, own⟩
      | cons => exact ih last

theorem filterMap_right {S : α → γ → Prop} {f : β → Option γ}
    (each : ∀ a b, R a b → ∃ c, f b = some c ∧ S a c) (related : List.Forall₂ R as bs) :
    List.Forall₂ S as (bs.filterMap f) := by
  induction related with
  | nil => exact .nil
  | cons own _ ih =>
      obtain ⟨c, found, means⟩ := each _ _ own
      rw [List.filterMap_cons_some found]
      exact .cons means ih

end

theorem lookup_map {α β : Type*} (f : α → β) (entries : List (String × α)) (name : String) :
    (entries.map fun entry => (entry.1, f entry.2)).lookup name = (entries.lookup name).map f := by
  induction entries with
  | nil => rfl
  | cons entry entries ih =>
      rw [List.map_cons, List.lookup_cons, List.lookup_cons, ih]
      cases name == entry.1 <;> rfl

theorem foldl_last {α : Type*} (values : List α) (before : α) :
    values.foldl (fun _ value => value) before = values.getLast?.getD before := by
  induction values generalizing before with
  | nil => rfl
  | cons value values ih =>
      rw [List.foldl_cons, ih, List.getLast?_cons]
      rfl

section

variable {α β : Type}

theorem map_ok {f : α → β} {x : Except String α} {b : β} (mapped : f <$> x = .ok b) :
    ∃ a, x = .ok a ∧ f a = b := by
  cases x with
  | error what => cases mapped
  | ok a => exact ⟨a, rfl, Except.ok.inj mapped⟩

theorem mapM_ok {f : α → Except String β} {as : List α} :
    ∀ {bs : List β}, as.mapM f = .ok bs → List.Forall₂ (fun a b => f a = .ok b) as bs := by
  induction as with
  | nil =>
      intro bs mapped
      rw [List.mapM_nil] at mapped
      obtain rfl := Except.ok.inj mapped
      exact .nil
  | cons a as ih =>
      intro bs mapped
      rw [List.mapM_cons] at mapped
      obtain ⟨b, first, mapped⟩ := Throwing.bind_ok mapped
      obtain ⟨others, rest, mapped⟩ := Throwing.bind_ok mapped
      obtain rfl := Except.ok.inj mapped
      exact .cons first (ih rest)

/-- A loop that appends a block in every round. -/
theorem foldlM_appends {f : List β → α → Except String (List β)}
    {R : α → List β → Prop}
    (step : ∀ words arg next, f words arg = .ok next → ∃ block, R arg block ∧
      next = words ++ block)
    {args : List α} : ∀ {words next : List β}, args.foldlM f words = .ok next →
      ∃ blocks, List.Forall₂ R args blocks ∧ next = words ++ blocks.flatten := by
  induction args with
  | nil =>
      intro words next added
      obtain rfl := Except.ok.inj added
      exact ⟨[], .nil, (List.append_nil _).symm⟩
  | cons arg args ih =>
      intro words next added
      obtain ⟨middle, first, added⟩ := Throwing.foldlM_cons_ok added
      obtain ⟨block, own, rfl⟩ := step words arg middle first
      obtain ⟨blocks, others, rfl⟩ := ih added
      refine ⟨block :: blocks, .cons own others, ?_⟩
      rw [List.flatten_cons, List.append_assoc]

end

end Karabiner.Related
