import Mathlib.Data.List.Nodup
import Mathlib.Tactic.Common

set_option autoImplicit false

/- Chains of links: a pointer, the addresses that are met when the links are followed from it, and
the pointer at their end. Every lemma says what a chain becomes when some links are changed. -/
namespace LinkPath

variable {Address : Type*}

def Path (link : Address → Option Address) :
    Option Address → List Address → Option Address → Prop
  | start, [], stop => start = stop
  | start, a :: rest, stop => start = some a ∧ Path link (link a) rest stop

variable {link changed : Address → Option Address} {start stop : Option Address}
  {before after addresses : List Address} {a e n : Address}

theorem path_append :
    Path link start (before ++ after) stop ↔
      ∃ middle, Path link start before middle ∧ Path link middle after stop := by
  induction before generalizing start with
  | nil => simp [Path]
  | cons first rest ih =>
      show (start = some first ∧ Path link (link first) (rest ++ after) stop) ↔ _
      rw [ih]
      constructor
      · rintro ⟨same, middle, left, right⟩
        exact ⟨middle, ⟨same, left⟩, right⟩
      · rintro ⟨middle, ⟨same, left⟩, right⟩
        exact ⟨same, middle, left, right⟩

/-- A chain to the null pointer starts at its first address. -/
theorem Path.start_eq (path : Path link start addresses none) : start = addresses.head? := by
  cases addresses with
  | nil => exact path
  | cons first rest => exact path.1

/-- Only the links of the addresses matter. -/
theorem Path.congr (path : Path link start addresses stop)
    (same : ∀ a ∈ addresses, changed a = link a) : Path changed start addresses stop := by
  induction addresses generalizing start with
  | nil => exact path
  | cons first rest ih =>
      refine ⟨path.1, ?_⟩
      rw [same first List.mem_cons_self]
      exact ih path.2 fun a member => same a (List.mem_cons_of_mem _ member)

/-- The last link is directed to another pointer. -/
theorem Path.redirect [DecidableEq Address] {other : Option Address}
    (path : Path link start before stop) (nonempty : before ≠ []) (nodup : before.Nodup)
    (redirected : ∀ b ∈ before,
      changed b = if before.getLast? = some b then other else link b) :
    Path changed start before other := by
  obtain ⟨init, last, rfl⟩ : ∃ init last, before = init ++ [last] :=
    ⟨_, _, (List.dropLast_append_getLast nonempty).symm⟩
  obtain ⟨middle, left, right⟩ := path_append.mp path
  have lastEq : (init ++ [last]).getLast? = some last := List.getLast?_concat
  refine path_append.mpr ⟨middle, left.congr fun b member => ?_, right.1, ?_⟩
  · rw [redirected b (List.mem_append_left _ member), lastEq, if_neg]
    intro same
    obtain rfl := Option.some.inj same
    exact (List.nodup_append.mp nodup).2.2 last member last List.mem_cons_self rfl
  · rw [redirected last (List.mem_append_right _ List.mem_cons_self), lastEq, if_pos rfl]
    rfl

section
variable [DecidableEq Address]

/-- An address is taken out: the link to it goes where its own went. -/
theorem Path.remove (path : Path link start (before ++ a :: after) stop)
    (nodup : (before ++ a :: after).Nodup)
    (redirected : ∀ b ∈ before ++ after,
      changed b = if before.getLast? = some b then link a else link b) :
    Path changed (if before = [] then link a else start) (before ++ after) stop := by
  obtain ⟨middle, left, here, right⟩ := path_append.mp path
  obtain ⟨nodupBefore, -, apart⟩ := List.nodup_append.mp nodup
  have kept : Path changed (link a) after stop := by
    refine right.congr fun b member => ?_
    rw [redirected b (List.mem_append_right _ member), if_neg]
    intro last
    exact apart b (List.mem_of_getLast? last) b (List.mem_cons_of_mem _ member) rfl
  by_cases first : before = []
  · subst first
    rw [if_pos rfl]
    exact kept
  · rw [if_neg first]
    refine path_append.mpr ⟨link a, left.redirect first nodupBefore fun b member => ?_, kept⟩
    exact redirected b (List.mem_append_left _ member)

/-- An address is put in front of another: the link to that one goes to the new one. -/
theorem Path.insertBefore (path : Path link start (before ++ e :: after) stop)
    (nodup : (before ++ e :: after).Nodup) (new : changed n = some e)
    (redirected : ∀ b ∈ before ++ e :: after,
      changed b = if before.getLast? = some b then some n else link b) :
    Path changed (if before = [] then some n else start) (before ++ n :: e :: after) stop := by
  obtain ⟨middle, left, here, right⟩ := path_append.mp path
  obtain ⟨nodupBefore, -, apart⟩ := List.nodup_append.mp nodup
  have kept : Path changed (some n) (n :: e :: after) stop := by
    refine ⟨rfl, new, ?_⟩
    have whole : Path changed (some e) (e :: after) stop := by
      have old : Path link (some e) (e :: after) stop := ⟨rfl, right⟩
      refine old.congr fun b member => ?_
      rw [redirected b (List.mem_append_right _ member), if_neg]
      intro last
      exact apart b (List.mem_of_getLast? last) b member rfl
    exact whole.2
  by_cases first : before = []
  · subst first
    rw [if_pos rfl]
    exact kept
  · rw [if_neg first]
    refine path_append.mpr ⟨some n, left.redirect first nodupBefore fun b member => ?_, kept⟩
    exact redirected b (List.mem_append_left _ member)

omit [DecidableEq Address] in
/-- An address is put behind another. -/
theorem Path.insertAfter (path : Path link start (before ++ e :: after) stop)
    (new : changed n = link e) (here : changed e = some n)
    (same : ∀ b ∈ before ++ after, changed b = link b) :
    Path changed start (before ++ e :: n :: after) stop := by
  obtain ⟨middle, left, first, right⟩ := path_append.mp path
  refine path_append.mpr ⟨middle, left.congr fun b member => ?_, first, here, ?_⟩
  · exact same b (List.mem_append_left _ member)
  · rw [new]
    exact right.congr fun b member => same b (List.mem_append_right _ member)

/-- An address is put behind all others. -/
theorem Path.snoc (path : Path link start addresses none) (nodup : addresses.Nodup)
    (new : changed n = none)
    (redirected : ∀ b ∈ addresses,
      changed b = if addresses.getLast? = some b then some n else link b) :
    Path changed (if addresses = [] then some n else start) (addresses ++ [n]) none := by
  by_cases first : addresses = []
  · subst first
    rw [if_pos rfl]
    exact ⟨rfl, new⟩
  · rw [if_neg first]
    exact path_append.mpr ⟨some n, path.redirect first nodup redirected, rfl, new⟩

end

end LinkPath
