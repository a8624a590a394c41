import Mathlib.Data.List.Basic
import Mathlib.Data.List.Infix
import Mathlib.Tactic.Common

set_option autoImplicit false

/- Texts in which names occur, taken apart into names and the letters between them. Where no
name overlaps another, the pieces of a text are determined by it, and names that are replaced
make no new ones. -/
namespace MarkedText

variable {α : Type*}

inductive Piece (α : Type*) where
  | letter (c : α)
  | name (n : List α)
  deriving DecidableEq, Repr

def render : List (Piece α) → List α
  | [] => []
  | .letter c :: pieces => c :: render pieces
  | .name n :: pieces => n ++ render pieces

def letters (text : List α) : List (Piece α) := text.map .letter

@[simp] theorem render_append (first second : List (Piece α)) :
    render (first ++ second) = render first ++ render second := by
  induction first with
  | nil => rfl
  | cons piece first ih =>
      cases piece with
      | letter c => rw [List.cons_append, render, render, ih, List.cons_append]
      | name n => rw [List.cons_append, render, render, ih, List.append_assoc]

@[simp] theorem render_letters (text : List α) : render (letters text) = text := by
  induction text with
  | nil => rfl
  | cons c text ih => exact congrArg (c :: ·) ih

theorem name_not_mem_letters (text n : List α) : Piece.name n ∉ letters text := by
  intro member
  obtain ⟨c, _, same⟩ := List.mem_map.1 member
  cases same

/-- One of the words begins with the other. -/
def Comparable (u v : List α) : Prop := u <+: v ∨ v <+: u

instance [DecidableEq α] (u v : List α) : Decidable (Comparable u v) :=
  inferInstanceAs (Decidable (_ ∨ _))

theorem comparable_of_begins {u v w : List α} (first : u <+: w) (second : v <+: w) :
    Comparable u v := List.prefix_or_prefix_of_prefix first second

theorem Comparable.symm {u v : List α} (comparable : Comparable u v) : Comparable v u :=
  Or.symm comparable

/-- A word that begins a text with a longer beginning. -/
theorem comparable_of_begins_append {u v w : List α} (starts : u <+: v ++ w) : Comparable u v :=
  comparable_of_begins starts (List.prefix_append v w)

/-- No part of the word at its end can be the beginning of the other, or the other way round. -/
def Ends (word other : List α) : Prop := ∀ u ∈ word.tails, u ≠ [] → ¬ Comparable u other

instance [DecidableEq α] (word other : List α) : Decidable (Ends word other) :=
  inferInstanceAs (Decidable (∀ u ∈ word.tails, u ≠ [] → ¬ Comparable u other))

theorem Ends.self {word other : List α} (ends : Ends word other) (nonempty : word ≠ []) :
    ¬ Comparable word other :=
  ends word ((List.mem_tails _ _).2 (List.suffix_refl word)) nonempty

theorem Ends.tail {c : α} {word other : List α} (ends : Ends (c :: word) other) :
    Ends word other := fun u member nonempty =>
  ends u ((List.mem_tails _ _).2 (((List.mem_tails _ _).1 member).trans (List.suffix_cons c word)))
  nonempty

/-- It is enough that the other word begins with one that is not overlapped. -/
theorem Ends.of_head {word head other : List α} (ends : Ends word head) (starts : head <+: other) :
    Ends word other := by
  intro u member nonempty comparable
  apply ends u member nonempty
  rcases comparable with here | there
  · exact comparable_of_begins here starts
  · exact .inr (starts.trans there)

section

variable (names : List (List α))

/-- Names of which none is part of another, and none overlaps one. -/
structure Apart : Prop where
  nonempty : ∀ n ∈ names, n ≠ []
  different : ∀ n ∈ names, ∀ m ∈ names, Comparable n m → n = m
  ends : ∀ n ∈ names, ∀ m ∈ names, Ends n.tail m

/-- The names among the pieces are all of the names in the text. -/
def Canonical : List (Piece α) → Prop
  | [] => True
  | .letter c :: pieces => (∀ n ∈ names, ¬ n <+: c :: render pieces) ∧ Canonical pieces
  | .name n :: pieces => n ∈ names ∧ Canonical pieces

/-- The pieces are all of the pieces, whatever text stands behind them. -/
def Closed : List (Piece α) → Prop
  | [] => True
  | .letter c :: pieces => (∀ n ∈ names, ¬ Comparable n (c :: render pieces)) ∧ Closed pieces
  | .name n :: pieces => n ∈ names ∧ Closed pieces

/-- What can be put in the place of a name. -/
structure Fits (pieces : List (Piece α)) : Prop where
  closed : Closed names pieces
  left : ∀ n ∈ names, Ends n.tail (render pieces)

end

instance [DecidableEq α] (names : List (List α)) (pieces : List (Piece α))
    [Decidable (Closed names pieces)] : Decidable (Fits names pieces) :=
  decidable_of_iff (Closed names pieces ∧ ∀ n ∈ names, Ends n.tail (render pieces))
    ⟨fun both => ⟨both.1, both.2⟩, fun fits => ⟨fits.closed, fits.left⟩⟩

instance closedDecidable [DecidableEq α] (names : List (List α)) :
    (pieces : List (Piece α)) → Decidable (Closed names pieces)
  | [] => .isTrue trivial
  | .letter c :: pieces =>
      have := closedDecidable names pieces
      inferInstanceAs (Decidable ((∀ n ∈ names, ¬ Comparable n (c :: render pieces)) ∧ _))
  | .name n :: pieces =>
      have := closedDecidable names pieces
      inferInstanceAs (Decidable (n ∈ names ∧ _))

variable {names : List (List α)}

theorem Canonical.suffix {first second : List (Piece α)}
    (canonical : Canonical names (first ++ second)) : Canonical names second := by
  induction first with
  | nil => exact canonical
  | cons piece first ih =>
      cases piece with
      | letter c => exact ih canonical.2
      | name n => exact ih canonical.2

theorem Canonical.mem {pieces : List (Piece α)} (canonical : Canonical names pieces)
    {n : List α} (member : Piece.name n ∈ pieces) : n ∈ names := by
  obtain ⟨before, after, rfl⟩ := List.append_of_mem member
  exact canonical.suffix.1

/-- Every text has its pieces. -/
theorem exists_canonical (nonempty : ∀ n ∈ names, n ≠ []) (text : List α) :
    ∃ pieces, render pieces = text ∧ Canonical names pieces := by
  classical
  generalize length : text.length = k
  induction k using Nat.strongRecOn generalizing text with
  | ind k ih =>
      cases text with
      | nil => exact ⟨[], rfl, trivial⟩
      | cons c text =>
          by_cases starts : ∃ n ∈ names, n <+: c :: text
          · obtain ⟨n, member, rest, split⟩ := starts
            have positive := List.length_pos_of_ne_nil (nonempty n member)
            have shorter : rest.length < k := by
              rw [← length, ← split, List.length_append]
              omega
            obtain ⟨pieces, rendered, canonical⟩ := ih _ shorter rest rfl
            exact ⟨.name n :: pieces, by rw [render, rendered, split], member, canonical⟩
          · have shorter : text.length < k := by
              rw [← length, List.length_cons]
              omega
            obtain ⟨pieces, rendered, canonical⟩ := ih _ shorter text rfl
            refine ⟨.letter c :: pieces, by rw [render, rendered], ?_, canonical⟩
            intro n member found
            rw [rendered] at found
            exact starts ⟨n, member, found⟩

section

variable (apart : Apart names)

include apart

/-- A name that begins a text is its first piece. -/
theorem Canonical.first {pieces : List (Piece α)} (canonical : Canonical names pieces)
    {n : List α} (known : n ∈ names) (starts : n <+: render pieces) :
    ∃ rest, pieces = .name n :: rest := by
  cases pieces with
  | nil => exact absurd (List.prefix_nil.1 starts) (apart.nonempty n known)
  | cons piece rest =>
      cases piece with
      | letter c => exact absurd starts (canonical.1 n known)
      | name m =>
          have same := apart.different n known m canonical.1 (comparable_of_begins_append starts)
          exact ⟨rest, by rw [same]⟩

/-- Inside of a name no other begins. -/
theorem not_prefix_inside {n m u rest : List α} (known : n ∈ names) (other : m ∈ names)
    (inside : u ∈ m.tail.tails) (nonempty : u ≠ []) : ¬ n <+: u ++ rest := by
  intro starts
  exact apart.ends m other n known u inside nonempty (comparable_of_begins_append starts).symm

/-- Where a name stands in the text, it is one of the pieces. -/
theorem Canonical.occurrence {pieces : List (Piece α)} (canonical : Canonical names pieces)
    {n before after : List α} (known : n ∈ names)
    (split : render pieces = before ++ n ++ after) :
    ∃ second, .name n :: second <:+ pieces ∧ render second = after := by
  induction pieces generalizing before with
  | nil =>
      have empty := List.append_eq_nil_iff.1 (List.append_eq_nil_iff.1 split.symm).1
      exact absurd empty.2 (apart.nonempty n known)
  | cons piece rest ih =>
      cases before with
      | nil =>
          rw [List.nil_append] at split
          obtain ⟨second, same⟩ := canonical.first apart known ⟨after, split.symm⟩
          rw [same, render] at split
          exact ⟨second, by rw [same], List.append_cancel_left split⟩
      | cons c before =>
          cases piece with
          | letter d =>
              have tail : render rest = before ++ n ++ after := (List.cons.inj split).2
              obtain ⟨second, suffix, found⟩ := ih canonical.2 tail
              exact ⟨second, suffix.trans (List.suffix_cons _ _), found⟩
          | name m =>
              have other := canonical.1
              by_cases short : (c :: before).length < m.length
              · exfalso
                have cut := congrArg (List.drop (c :: before).length) split
                rw [List.append_assoc, List.drop_left, render,
                  List.drop_append_of_le_length (Nat.le_of_lt short)] at cut
                have nonempty : m.drop (c :: before).length ≠ [] := by
                  rw [Ne, List.drop_eq_nil_iff]
                  omega
                have inside : m.drop (c :: before).length ∈ m.tail.tails := by
                  rw [List.mem_tails, ← List.drop_one]
                  rw [List.length_cons, Nat.add_comm, ← List.drop_drop]
                  exact List.drop_suffix _ _
                exact not_prefix_inside apart known other inside nonempty ⟨after, cut.symm⟩
              · have cut := congrArg (List.drop m.length) split
                rw [render, List.drop_left, List.append_assoc,
                  List.drop_append_of_le_length (Nat.not_lt.1 short), ← List.append_assoc] at cut
                obtain ⟨second, suffix, found⟩ := ih canonical.2 cut
                exact ⟨second, suffix.trans (List.suffix_cons _ _), found⟩

end

theorem render_suffix {second pieces : List (Piece α)} (suffix : second <:+ pieces) :
    ∃ before, render pieces = before ++ render second := by
  obtain ⟨first, rfl⟩ := suffix
  exact ⟨render first, render_append first second⟩

theorem mem_iff_suffix {piece : Piece α} {pieces : List (Piece α)} :
    piece ∈ pieces ↔ ∃ rest, piece :: rest <:+ pieces := by
  constructor
  · intro member
    obtain ⟨before, after, rfl⟩ := List.append_of_mem member
    exact ⟨after, before, rfl⟩
  · rintro ⟨rest, suffix⟩
    exact suffix.subset List.mem_cons_self

theorem suffix_of_not_mem {piece : Piece α} {rest old pieces : List (Piece α)}
    (suffix : piece :: rest <:+ old ++ pieces) (absent : piece ∉ old) :
    piece :: rest <:+ pieces := by
  induction old with
  | nil => exact suffix
  | cons other old ih =>
      rw [List.cons_append, List.suffix_cons_iff] at suffix
      rcases suffix with same | later
      · exact absurd (by rw [(List.cons.inj same).1]; exact List.mem_cons_self) absent
      · exact ih later fun member => absent (List.mem_cons_of_mem _ member)

/-- Some names, with the letters behind them that go with them, are replaced. -/
inductive Rewrites (swap : List (Piece α) → List (Piece α) → Prop) :
    List (Piece α) → List (Piece α) → Prop
  | nil : Rewrites swap [] []
  | keep (piece : Piece α) {pieces pieces' : List (Piece α)} :
      Rewrites swap pieces pieces' → Rewrites swap (piece :: pieces) (piece :: pieces')
  | replace {old new pieces pieces' : List (Piece α)} : swap old new →
      Rewrites swap pieces pieces' → Rewrites swap (old ++ pieces) (new ++ pieces')

/-- What is replaced begins with a name, and what it is replaced by fits. -/
structure Swaps (names : List (List α)) (swap : List (Piece α) → List (Piece α) → Prop) :
    Prop where
  starts : ∀ old new, swap old new → ∃ n rest, old = .name n :: rest
  fits : ∀ old new, swap old new → Fits names new

namespace Rewrites

variable {swap : List (Piece α) → List (Piece α) → Prop} {pieces pieces' : List (Piece α)}

/-- A word that neither a name nor a replacement overlaps begins the text before exactly if
it begins the text after. -/
theorem prefix_iff (swaps : Swaps names swap) (rewrites : Rewrites swap pieces pieces')
    (canonical : Canonical names pieces) {word : List α} (apart : ∀ n ∈ names, Ends word n)
    (apart_new : ∀ old new, swap old new → Ends word (render new)) :
    word <+: render pieces' ↔ word <+: render pieces := by
  induction rewrites generalizing word with
  | nil => exact Iff.rfl
  | keep piece rewrites ih =>
      cases word with
      | nil => exact ⟨fun _ => List.nil_prefix, fun _ => List.nil_prefix⟩
      | cons c word =>
          cases piece with
          | letter d =>
              have tails := ih canonical.2 (fun n known => (apart n known).tail)
                fun old new own => (apart_new old new own).tail
              rw [render, render, List.cons_prefix_cons, List.cons_prefix_cons, tails]
          | name n =>
              have never := (apart n canonical.1).self (List.cons_ne_nil c word)
              exact ⟨fun starts => absurd (comparable_of_begins_append starts) never,
                fun starts => absurd (comparable_of_begins_append starts) never⟩
  | @replace old new pieces pieces' own rewrites ih =>
      cases word with
      | nil => exact ⟨fun _ => List.nil_prefix, fun _ => List.nil_prefix⟩
      | cons c word =>
          obtain ⟨n, rest, rfl⟩ := swaps.starts old new own
          have known : n ∈ names := canonical.1
          have never := (apart n known).self (List.cons_ne_nil c word)
          have never_new := (apart_new _ new own).self (List.cons_ne_nil c word)
          constructor
          · intro starts
            rw [render_append] at starts
            exact absurd (comparable_of_begins_append starts) never_new
          · intro starts
            rw [List.cons_append, render] at starts
            exact absurd (comparable_of_begins_append starts) never

end Rewrites

theorem Closed.join {first second : List (Piece α)} (closed : Closed names first)
    (closed' : Closed names second) : Closed names (first ++ second) := by
  induction first with
  | nil => exact closed'
  | cons piece first ih =>
      cases piece with
      | name n => exact ⟨closed.1, ih closed.2⟩
      | letter c =>
          refine ⟨?_, ih closed.2⟩
          intro n known comparable
          apply closed.1 n known
          change Comparable n (c :: render (first ++ second)) at comparable
          rw [render_append, ← List.cons_append] at comparable
          rcases comparable with starts | ends
          · exact comparable_of_begins_append starts
          · exact .inr ((List.prefix_append _ _).trans ends)

/-- It is enough that something each name begins with is not overlapped. -/
theorem closed_letters {text : List α}
    (heads : ∀ n ∈ names, ∃ head, head <+: n ∧ Ends text head) :
    Closed names (letters text) := by
  induction text with
  | nil => exact trivial
  | cons c text ih =>
      refine ⟨?_, ih fun n known => ?_⟩
      · intro n known comparable
        obtain ⟨head, starts, ends⟩ := heads n known
        change Comparable n (c :: render (letters text)) at comparable
        rw [render_letters] at comparable
        exact (ends.of_head starts).self (List.cons_ne_nil c text) comparable.symm
      · obtain ⟨head, starts, ends⟩ := heads n known
        exact ⟨head, starts, ends.tail⟩

theorem Closed.append {new pieces : List (Piece α)} (closed : Closed names new)
    (canonical : Canonical names pieces) : Canonical names (new ++ pieces) := by
  induction new with
  | nil => exact canonical
  | cons piece new ih =>
      cases piece with
      | name n => exact ⟨closed.1, ih closed.2⟩
      | letter c =>
          refine ⟨?_, ih closed.2⟩
          intro n known starts
          change n <+: c :: render (new ++ pieces) at starts
          rw [render_append, ← List.cons_append] at starts
          exact closed.1 n known (comparable_of_begins_append starts)

/-- Texts without names have none behind each other, if no name goes on into the second. -/
theorem Canonical.append {first second : List (Piece α)} (canonical : Canonical names first)
    (canonical' : Canonical names second) (left : ∀ n ∈ names, Ends n.tail (render second)) :
    Canonical names (first ++ second) := by
  induction first with
  | nil => exact canonical'
  | cons piece first ih =>
      cases piece with
      | name n => exact ⟨canonical.1, ih canonical.2⟩
      | letter c =>
          refine ⟨?_, ih canonical.2⟩
          intro n known starts
          change n <+: c :: render (first ++ second) at starts
          rw [render_append, ← List.cons_append] at starts
          rcases comparable_of_begins starts (List.prefix_append _ _) with inside | ⟨u, rfl⟩
          · exact canonical.1 n known inside
          · have part : u <+: render second := (List.prefix_append_right_inj _).1 starts
            cases u with
            | nil =>
                apply canonical.1 _ known
                rw [List.append_nil]
            | cons d u =>
                apply left _ known (d :: u) _ (List.cons_ne_nil d u) (.inl part)
                exact (List.mem_tails _ _).2 (List.suffix_append (render first) (d :: u))

theorem eq_letters {pieces : List (Piece α)} (no_names : ∀ n, .name n ∉ pieces) :
    pieces = letters (render pieces) := by
  induction pieces with
  | nil => rfl
  | cons piece pieces ih =>
      cases piece with
      | letter c =>
          have rest := ih fun n member => no_names n (List.mem_cons_of_mem _ member)
          exact congrArg (.letter c :: ·) rest
      | name n => exact absurd List.mem_cons_self (no_names n)

namespace Rewrites

variable {swap : List (Piece α) → List (Piece α) → Prop} {pieces pieces' : List (Piece α)}

/-- Replacing names makes no new ones. -/
theorem canonical (apart : Apart names) (swaps : Swaps names swap)
    (rewrites : Rewrites swap pieces pieces') (before : Canonical names pieces) :
    Canonical names pieces' := by
  induction rewrites with
  | nil => exact trivial
  | keep piece rewrites ih =>
      cases piece with
      | name n => exact ⟨before.1, ih before.2⟩
      | letter c =>
          refine ⟨?_, ih before.2⟩
          intro n known starts
          have same := rewrites.prefix_iff swaps before.2 (apart.ends n known)
            fun old new own => (swaps.fits old new own).left n known
          obtain ⟨d, word, rfl⟩ := List.exists_cons_of_ne_nil (apart.nonempty n known)
          rw [List.cons_prefix_cons] at starts
          exact before.1 _ known (List.cons_prefix_cons.2 ⟨starts.1, same.1 starts.2⟩)
  | @replace old new pieces pieces' own rewrites ih =>
      exact (swaps.fits old new own).closed.append (ih before.suffix)

/-- A name that is not concerned stands where it stood. -/
theorem occurrence (rewrites : Rewrites swap pieces pieces') {n : List α}
    (absent : ∀ old new, swap old new → Piece.name n ∉ old) {second : List (Piece α)}
    (suffix : .name n :: second <:+ pieces) :
    ∃ second', .name n :: second' <:+ pieces' ∧ Rewrites swap second second' := by
  induction rewrites with
  | nil => exact absurd (List.suffix_nil.1 suffix) (List.cons_ne_nil _ _)
  | keep piece rewrites ih =>
      rcases List.suffix_cons_iff.1 suffix with same | later
      · obtain ⟨rfl, rfl⟩ := List.cons.inj same
        exact ⟨_, List.suffix_refl _, rewrites⟩
      · obtain ⟨second', suffix', tail⟩ := ih later
        exact ⟨second', suffix'.trans (List.suffix_cons _ _), tail⟩
  | @replace old new pieces pieces' own rewrites ih =>
      obtain ⟨second', suffix', tail⟩ := ih (suffix_of_not_mem suffix (absent old new own))
      exact ⟨second', suffix'.trans (List.suffix_append _ _), tail⟩

theorem occurrence_back (rewrites : Rewrites swap pieces pieces') {n : List α}
    (absent : ∀ old new, swap old new → Piece.name n ∉ new) {second' : List (Piece α)}
    (suffix : .name n :: second' <:+ pieces') :
    ∃ second, .name n :: second <:+ pieces ∧ Rewrites swap second second' := by
  induction rewrites with
  | nil => exact absurd (List.suffix_nil.1 suffix) (List.cons_ne_nil _ _)
  | keep piece rewrites ih =>
      rcases List.suffix_cons_iff.1 suffix with same | later
      · obtain ⟨rfl, rfl⟩ := List.cons.inj same
        exact ⟨_, List.suffix_refl _, rewrites⟩
      · obtain ⟨second, suffix', tail⟩ := ih later
        exact ⟨second, suffix'.trans (List.suffix_cons _ _), tail⟩
  | @replace old new pieces pieces' own rewrites ih =>
      obtain ⟨second, suffix', tail⟩ := ih (suffix_of_not_mem suffix (absent old new own))
      exact ⟨second, suffix'.trans (List.suffix_append _ _), tail⟩

end Rewrites

def SwapsName (n : List α) (new old new' : List (Piece α)) : Prop :=
  old = [.name n] ∧ new' = new

def SwapsNext (n : List α) (c : α) (new old new' : List (Piece α)) : Prop :=
  old = [.name n, .letter c] ∧ new' = new

theorem swapsName {n : List α} {new : List (Piece α)} (fits : Fits names new) :
    Swaps names (SwapsName n new) where
  starts := by
    rintro old new' ⟨rfl, rfl⟩
    exact ⟨n, [], rfl⟩
  fits := by
    rintro old new' ⟨rfl, rfl⟩
    exact fits

theorem swapsNext {n : List α} {c : α} {new : List (Piece α)} (fits : Fits names new) :
    Swaps names (SwapsNext n c new) where
  starts := by
    rintro old new' ⟨rfl, rfl⟩
    exact ⟨n, [.letter c], rfl⟩
  fits := by
    rintro old new' ⟨rfl, rfl⟩
    exact fits

section

variable [DecidableEq α]

/-- The pieces of a text; the number counts the letters of a name that are still to be left
out. -/
def read (names : List (List α)) : Nat → List α → List (Piece α)
  | _, [] => []
  | 0, c :: text =>
      match names.find? (·.isPrefixOf (c :: text)) with
      | some n => .name n :: read names (n.length - 1) text
      | none => .letter c :: read names 0 text
  | skip + 1, _ :: text => read names skip text

/-- A name is replaced wherever it stands. -/
def replaceName (n : List α) (new : List (Piece α)) : List (Piece α) → List (Piece α)
  | [] => []
  | .letter c :: pieces => .letter c :: replaceName n new pieces
  | .name m :: pieces =>
      if m = n then new ++ replaceName n new pieces else .name m :: replaceName n new pieces

/-- A name is replaced together with the letter behind it, where that is the given one. -/
def replaceNext (n : List α) (c : α) (new : List (Piece α)) : List (Piece α) → List (Piece α)
  | [] => []
  | .letter d :: pieces => .letter d :: replaceNext n c new pieces
  | .name m :: [] => [.name m]
  | .name m :: .name k :: pieces => .name m :: replaceNext n c new (.name k :: pieces)
  | .name m :: .letter d :: pieces =>
      if m = n ∧ d = c then new ++ replaceNext n c new pieces
      else .name m :: replaceNext n c new (.letter d :: pieces)

theorem replaceName_rewrites (n : List α) (new pieces : List (Piece α)) :
    Rewrites (SwapsName n new) pieces (replaceName n new pieces) := by
  induction pieces with
  | nil => exact .nil
  | cons piece pieces ih =>
      cases piece with
      | letter c => exact ih.keep _
      | name m =>
          by_cases same : m = n
          · rw [replaceName, if_pos same, same]
            exact .replace ⟨rfl, rfl⟩ ih
          · rw [replaceName, if_neg same]
            exact ih.keep _

theorem replaceNext_rewrites (n : List α) (c : α) (new pieces : List (Piece α)) :
    Rewrites (SwapsNext n c new) pieces (replaceNext n c new pieces) := by
  fun_induction replaceNext n c new pieces with
  | case1 => exact .nil
  | case2 d pieces ih => exact ih.keep _
  | case3 m => exact Rewrites.nil.keep _
  | case4 m k pieces ih => exact ih.keep _
  | case5 m d pieces same ih =>
      obtain ⟨rfl, rfl⟩ := same
      exact @Rewrites.replace _ _ [.name m, .letter d] new pieces _ ⟨rfl, rfl⟩ ih
  | case6 m d pieces other ih => exact ih.keep _

theorem mem_replaceName {n m : List α} {new pieces : List (Piece α)} :
    Piece.name m ∈ replaceName n new pieces ↔
      (m ≠ n ∧ Piece.name m ∈ pieces) ∨
      (Piece.name m ∈ new ∧ Piece.name n ∈ pieces) := by
  induction pieces with
  | nil => simp [replaceName]
  | cons piece pieces ih =>
      cases piece with
      | letter c => simp [replaceName, ih]
      | name k =>
          by_cases same : k = n
          · subst same
            simp only [replaceName, if_true, List.mem_append, ih, List.mem_cons, Piece.name.injEq]
            tauto
          · simp only [replaceName, if_neg same, List.mem_cons, ih, Piece.name.injEq]
            constructor
            · rintro (rfl | ⟨other, member⟩ | ⟨member, own⟩)
              · exact .inl ⟨same, .inl rfl⟩
              · exact .inl ⟨other, .inr member⟩
              · exact .inr ⟨member, .inr own⟩
            · rintro (⟨other, rfl | member⟩ | ⟨member, rfl | own⟩)
              · exact .inl rfl
              · exact .inr (.inl ⟨other, member⟩)
              · exact absurd rfl same
              · exact .inr (.inr ⟨member, own⟩)

/-- Another name is kept. -/
theorem mem_replaceNext_other {n m : List α} {c : α} {new pieces : List (Piece α)}
    (differs : m ≠ n) (absent : Piece.name m ∉ new) :
    Piece.name m ∈ replaceNext n c new pieces ↔ Piece.name m ∈ pieces := by
  have rewrites := replaceNext_rewrites n c new pieces
  rw [mem_iff_suffix, mem_iff_suffix]
  constructor
  · rintro ⟨rest, suffix⟩
    have none_new : ∀ old new', SwapsNext n c new old new' → Piece.name m ∉ new' := by
      rintro old new' ⟨_, rfl⟩
      exact absent
    obtain ⟨second, own, _⟩ := rewrites.occurrence_back none_new suffix
    exact ⟨second, own⟩
  · rintro ⟨rest, suffix⟩
    have none_old : ∀ old new', SwapsNext n c new old new' → Piece.name m ∉ old := by
      rintro old new' ⟨rfl, _⟩
      simp [differs]
    obtain ⟨second, own, _⟩ := rewrites.occurrence none_old suffix
    exact ⟨second, own⟩

/-- The name itself is kept where another letter, a name or nothing is behind it. -/
theorem mem_replaceNext_self {n : List α} {c : α} {new pieces : List (Piece α)}
    (absent : Piece.name n ∉ new) : Piece.name n ∈ replaceNext n c new pieces ↔
      ∃ rest, .name n :: rest <:+ pieces ∧ ∀ rest', rest ≠ .letter c :: rest' := by
  have later : ∀ {piece : Piece α} {pieces : List (Piece α)},
      (∃ rest, .name n :: rest <:+ piece :: pieces ∧ ∀ rest', rest ≠ .letter c :: rest') ↔
        (piece = .name n ∧ ∀ rest', pieces ≠ .letter c :: rest') ∨
          ∃ rest, .name n :: rest <:+ pieces ∧ ∀ rest', rest ≠ .letter c :: rest' := by
    intro piece pieces
    constructor
    · rintro ⟨rest, suffix, other⟩
      rcases List.suffix_cons_iff.1 suffix with same | inner
      · obtain ⟨rfl, rfl⟩ := List.cons.inj same
        exact .inl ⟨rfl, other⟩
      · exact .inr ⟨rest, inner, other⟩
    · rintro (⟨rfl, other⟩ | ⟨rest, inner, other⟩)
      · exact ⟨pieces, List.suffix_refl _, other⟩
      · exact ⟨rest, inner.trans (List.suffix_cons _ _), other⟩
  fun_induction replaceNext n c new pieces with
  | case1 => simp
  | case2 d pieces ih =>
      rw [later]
      simpa using ih
  | case3 m =>
      have same : Piece.name n = .name m ↔ .name m = Piece.name n := eq_comm
      rw [later, List.mem_singleton, same]
      simp
  | case4 m k pieces ih =>
      have same : Piece.name n = .name m ↔ .name m = Piece.name n := eq_comm
      have other : ∀ rest', Piece.name k :: pieces ≠ .letter c :: rest' := by simp
      rw [later, List.mem_cons, same]
      exact or_congr (and_iff_left other).symm ih
  | case5 m d pieces same ih =>
      obtain ⟨rfl, rfl⟩ := same
      have covered : ¬ ∀ rest', Piece.letter d :: pieces ≠ .letter d :: rest' :=
        fun other => other pieces rfl
      rw [later, later, List.mem_append]
      simp only [absent, covered, false_or, and_false, reduceCtorEq, false_and]
      exact ih
  | case6 m d pieces other ih =>
      have head : Piece.name n = .name m ↔
          .name m = Piece.name n ∧ ∀ rest', Piece.letter d :: pieces ≠ .letter
          c :: rest' := by
        constructor
        · intro same
          obtain rfl := Piece.name.inj same
          refine ⟨rfl, fun rest' letters => other ⟨rfl, ?_⟩⟩
          exact Piece.letter.inj (List.cons.inj letters).1
        · exact fun same => same.1.symm
      rw [later, List.mem_cons]
      exact or_congr head ih

end

section

variable (apart : Apart names)

include apart

/-- No letter of another name begins the name. -/
theorem not_prefix_other {n m u rest : List α} (known : n ∈ names) (other : m ∈ names)
    (differs : m ≠ n) (inside : u ∈ m.tails) (nonempty : u ≠ []) : ¬ n <+: u ++ rest := by
  obtain ⟨c, tail, rfl⟩ := List.exists_cons_of_ne_nil (apart.nonempty m other)
  rw [List.tails_cons, List.mem_cons] at inside
  rcases inside with whole | later
  · intro starts
    rw [whole] at starts
    exact differs (apart.different n known _ other (comparable_of_begins_append starts)).symm
  · exact not_prefix_inside apart known other later nonempty

end

end MarkedText
