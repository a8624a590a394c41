import Karabiner.XmlTree

set_option autoImplicit false

/- pqrs::string::tokenizer. A token is a place in the string: where it starts, and where it ends. -/
namespace Karabiner

structure Tokenizer (α : Type*) where
  string_ : List α
  c_ : α
  pos_ : Nat := 0

namespace Tokenizer

section
variable {α : Type*}

/-- A substring without the separator that is not part of a longer one. -/
structure IsToken (string : List α) (c : α) (token : Nat × Nat) : Prop where
  nonempty : token.1 < token.2
  inside : token.2 ≤ string.length
  free : ∀ i, token.1 ≤ i → i < token.2 → string[i]? ≠ some c
  starts : token.1 = 0 ∨ string[token.1 - 1]? = some c
  ends : token.2 = string.length ∨ string[token.2]? = some c

/-- The tokens that start at the position or behind it. -/
structure Enumerates (string : List α) (c : α) (pos : Nat) (tokens : List (Nat × Nat)) :
    Prop where
  ordered : tokens.Pairwise fun first second => first.2 < second.1
  exact : ∀ token, token ∈ tokens ↔ IsToken string c token ∧ pos ≤ token.1

variable {string : List α} {c : α}

theorem IsToken.first_ne {token : Nat × Nat} (isToken : IsToken string c token) :
    string[token.1]? ≠ some c :=
  isToken.free token.1 (Nat.le_refl _) isToken.nonempty

/-- Tokens do not overlap. -/
theorem IsToken.eq_of_meets {left right : Nat × Nat} (leftToken : IsToken string c left)
    (rightToken : IsToken string c right) (lower : left.1 ≤ right.1) (meets : right.1 < left.2) :
    right = left := by
  have start : right.1 = left.1 := by
    by_contra other
    cases rightToken.starts with
    | inl first => omega
    | inr behind => exact leftToken.free (right.1 - 1) (by omega) (by omega) behind
  have stop : right.2 = left.2 := by
    have leftNonempty := leftToken.nonempty
    have rightNonempty := rightToken.nonempty
    have rightInside := rightToken.inside
    have leftInside := leftToken.inside
    apply Nat.le_antisymm
    · by_contra longer
      cases leftToken.ends with
      | inl whole => omega
      | inr separator => exact rightToken.free left.2 (by omega) (by omega) separator
    · by_contra shorter
      cases rightToken.ends with
      | inl whole => omega
      | inr separator => exact leftToken.free right.2 (by omega) (by omega) separator
  exact Prod.ext start stop

theorem enumerates_nil {pos : Nat}
    (separators : ∀ i, pos ≤ i → i < string.length → string[i]? = some c) :
    Enumerates string c pos [] := by
  refine ⟨List.Pairwise.nil, fun token => ⟨fun none => absurd none List.not_mem_nil, ?_⟩⟩
  intro ⟨isToken, lower⟩
  have nonempty := isToken.nonempty
  have inside := isToken.inside
  exact absurd (separators token.1 lower (by omega)) isToken.first_ne

theorem Enumerates.cons {pos start stop next : Nat} {tokens : List (Nat × Nat)}
    (enumerates : Enumerates string c next tokens) (isToken : IsToken string c (start, stop))
    (separators : ∀ i, pos ≤ i → i < start → string[i]? = some c) (lower : pos ≤ start)
    (ends : stop = string.length ∧ next = stop ∨ string[stop]? = some c ∧ next = stop + 1) :
    Enumerates string c pos ((start, stop) :: tokens) := by
  have nonempty : start < stop := isToken.nonempty
  have behind : ∀ token ∈ tokens, stop < token.1 := by
    intro token member
    obtain ⟨other, beyond⟩ := (enumerates.exact token).mp member
    have otherNonempty := other.nonempty
    have otherInside := other.inside
    omega
  refine ⟨List.Pairwise.cons behind enumerates.ordered, fun token => ⟨fun member => ?_, ?_⟩⟩
  · cases List.mem_cons.mp member with
    | inl here => exact here ▸ ⟨isToken, lower⟩
    | inr later =>
        have beyond := behind token later
        exact ⟨((enumerates.exact token).mp later).1, by omega⟩
  · intro ⟨other, beyond⟩
    have otherNonempty := other.nonempty
    have otherInside := other.inside
    by_cases before : token.1 < start
    · exact absurd (separators token.1 beyond before) other.first_ne
    by_cases meets : token.1 < stop
    · rw [isToken.eq_of_meets other (by omega) meets]
      exact List.mem_cons_self
    · apply List.mem_cons_of_mem
      refine (enumerates.exact token).mpr ⟨other, ?_⟩
      rcases ends with ⟨whole, -⟩ | ⟨separator, same⟩
      · omega
      · have different : token.1 ≠ stop := fun same => other.first_ne (same ▸ separator)
        omega

end

variable {α : Type*} [DecidableEq α]

section
variable (string : List α) (c : α)

def substr (pos length : Nat) : List α := (string.drop pos).take length

/-- The loop of split_removing_empty and what follows it; the first number counts the characters
from i on. -/
def splitFrom : Nat → Nat → Nat → Nat × Option (List α)
  | 0, _, pos =>
      if pos < string.length then (string.length, some (string.drop pos)) else (pos, none)
  | remaining + 1, i, pos =>
      if string[i]? = some c then
        if i = pos then splitFrom remaining (i + 1) (pos + 1)
        else (i + 1, some (substr string pos (i - pos)))
      else splitFrom remaining (i + 1) pos

end

/-- The string is only there where split_removing_empty returns true. -/
def splitRemovingEmpty (tokenizer : Tokenizer α) : Tokenizer α × Option (List α) :=
  let result := splitFrom tokenizer.string_ tokenizer.c_
    (tokenizer.string_.length - tokenizer.pos_) tokenizer.pos_ tokenizer.pos_
  ({ tokenizer with pos_ := result.1 }, result.2)

/-- Behind so many calls. -/
def afterCalls (tokenizer : Tokenizer α) : Nat → Tokenizer α
  | 0 => tokenizer
  | calls + 1 => afterCalls tokenizer.splitRemovingEmpty.1 calls

section
variable (string : List α) (c : α)

/-- A call comes to a token, or there is none left. -/
inductive Splits (pos : Nat) : Nat × Option (List α) → Prop where
  | token (start stop next : Nat) (from_ : pos ≤ start) (nonempty : start < stop)
      (separators : ∀ i, pos ≤ i → i < start → string[i]? = some c)
      (free : ∀ i, start ≤ i → i < stop → string[i]? ≠ some c)
      (ends : stop = string.length ∧ next = stop ∨ string[stop]? = some c ∧ next = stop + 1) :
      Splits pos (next, some (substr string start (stop - start)))
  | done (separators : ∀ i, pos ≤ i → i < string.length → string[i]? = some c) :
      Splits pos (string.length, none)

end

section
variable {string : List α} {c : α}

/-- Between the position and i there is no separator, before the position nothing else. -/
theorem splitFrom_splits {remaining i pos begun : Nat} (rest : i + remaining = string.length)
    (order : begun ≤ pos ∧ pos ≤ i)
    (separators : ∀ k, begun ≤ k → k < pos → string[k]? = some c)
    (free : ∀ k, pos ≤ k → k < i → string[k]? ≠ some c) :
    Splits string c begun (splitFrom string c remaining i pos) := by
  induction remaining generalizing i pos with
  | zero =>
      rw [splitFrom]
      split
      · next inside =>
        have whole : string.drop pos = substr string pos (string.length - pos) := by
          rw [substr, List.take_of_length_le (by simp)]
        rw [whole]
        refine .token pos string.length string.length order.1 inside separators ?_
          (.inl ⟨rfl, rfl⟩)
        intro k lower upper
        exact free k lower (by omega)
      · next ended =>
        have last : pos = string.length := by omega
        rw [last]
        exact .done fun k lower upper => separators k lower (by omega)
  | succ remaining ih =>
      rw [splitFrom]
      by_cases separator : string[i]? = some c
      · rw [if_pos separator]
        by_cases leading : i = pos
        · subst leading
          rw [if_pos rfl]
          apply ih (by omega) (by omega)
          · intro k lower upper
            by_cases last : k = i
            · rw [last, separator]
            · exact separators k lower (by omega)
          · intro k lower upper
            omega
        · rw [if_neg leading]
          exact .token pos i (i + 1) order.1 (by omega) separators free (.inr ⟨separator, rfl⟩)
      · rw [if_neg separator]
        apply ih (by omega) (by omega) separators
        intro k lower upper
        by_cases last : k = i
        · rw [last]
          exact separator
        · exact free k lower (by omega)

/-- A call at a position inside the string. -/
theorem splitRemovingEmpty_splits {pos : Nat} (inside : pos ≤ string.length) :
    let result := (Tokenizer.mk string c pos).splitRemovingEmpty
    Splits string c pos (result.1.pos_, result.2) := by
  have splits : Splits string c pos
      (splitFrom string c (string.length - pos) pos pos) := by
    apply splitFrom_splits (by omega) (by omega)
    · intro k lower upper
      omega
    · intro k lower upper
      omega
  exact splits

/-- The calls return the tokens one after the other, and then nothing. -/
def Returns (tokenizer : Tokenizer α) (tokens : List (Nat × Nat)) : Prop :=
  ∀ calls, (tokenizer.afterCalls calls).splitRemovingEmpty.2 =
      tokens[calls]?.map (fun token => substr tokenizer.string_ token.1 (token.2 - token.1)) ∧
    (tokenizer.afterCalls calls).pos_ ≤ tokenizer.string_.length

theorem Returns.cons {tokenizer : Tokenizer α} {token : Nat × Nat} {tokens : List (Nat × Nat)}
    (inside : tokenizer.pos_ ≤ tokenizer.string_.length)
    (returned : tokenizer.splitRemovingEmpty.2 =
      some (substr tokenizer.string_ token.1 (token.2 - token.1)))
    (rest : Returns tokenizer.splitRemovingEmpty.1 tokens) :
    Returns tokenizer (token :: tokens) := by
  intro calls
  cases calls with
  | zero => exact ⟨returned, inside⟩
  | succ calls => exact rest calls

omit [DecidableEq α] in
theorem ends_le {stop next : Nat}
    (ends : stop = string.length ∧ next = stop ∨ string[stop]? = some c ∧ next = stop + 1) :
    stop ≤ string.length ∧ next ≤ string.length := by
  cases ends with
  | inl whole => omega
  | inr separator =>
      have inside : stop < string.length := (List.getElem?_eq_some_iff.mp separator.1).1
      omega

/-- Behind the last token a call goes to the end. -/
theorem splitRemovingEmpty_done {pos : Nat} (inside : pos ≤ string.length)
    (separators : ∀ i, pos ≤ i → i < string.length → string[i]? = some c) :
    (Tokenizer.mk string c pos).splitRemovingEmpty = (⟨string, c, string.length⟩, none) := by
  have splits := @splitRemovingEmpty_splits α _ string c pos inside
  dsimp only at splits
  generalize out : (Tokenizer.mk string c pos).splitRemovingEmpty.2 = result at splits
  generalize moved : (Tokenizer.mk string c pos).splitRemovingEmpty.1.pos_ = next at splits
  cases splits with
  | token start stop _ lower nonempty _ free ends =>
      have stopInside := (ends_le ends).1
      exact absurd (separators start lower (by omega)) (free start (Nat.le_refl _) nonempty)
  | done =>
      refine Prod.ext ?_ out
      rw [← moved]
      rfl

theorem returns_nil {pos : Nat} (inside : pos ≤ string.length)
    (separators : ∀ i, pos ≤ i → i < string.length → string[i]? = some c) :
    Returns ⟨string, c, pos⟩ [] := by
  intro calls
  induction calls generalizing pos with
  | zero =>
      rw [afterCalls, splitRemovingEmpty_done inside separators]
      exact ⟨rfl, inside⟩
  | succ calls ih =>
      rw [afterCalls, splitRemovingEmpty_done inside separators]
      apply ih (Nat.le_refl _)
      intro i lower upper
      omega

/-- From a position behind a separator, or at one of the ends. -/
theorem exists_returns {pos : Nat} (inside : pos ≤ string.length)
    (starts : pos = 0 ∨ string[pos - 1]? = some c ∨ pos = string.length) :
    ∃ tokens, Enumerates string c pos tokens ∧ Returns ⟨string, c, pos⟩ tokens := by
  induction left : string.length - pos using Nat.strongRecOn generalizing pos with
  | ind left ih =>
      have splits := @splitRemovingEmpty_splits α _ string c pos inside
      dsimp only at splits
      generalize out : (Tokenizer.mk string c pos).splitRemovingEmpty.2 = result at splits
      generalize moved : (Tokenizer.mk string c pos).splitRemovingEmpty.1.pos_ = next at splits
      cases splits with
      | token start stop _ lower nonempty separators free ends =>
          obtain ⟨stopInside, nextInside⟩ := ends_le ends
          have isToken : IsToken string c (start, stop) := by
            refine ⟨nonempty, stopInside, free, ?_, ends.imp And.left And.left⟩
            by_cases leading : pos = start
            · rcases starts with first | behind | last
              · exact Or.inl (leading ▸ first)
              · exact Or.inr (leading ▸ behind)
              · omega
            · exact Or.inr (separators (start - 1) (by omega) (by omega))
          have nextStarts : next = 0 ∨ string[next - 1]? = some c ∨ next = string.length := by
            rcases ends with ⟨whole, same⟩ | ⟨separator, same⟩
            · exact Or.inr (Or.inr (same.trans whole))
            · refine Or.inr (Or.inl ?_)
              rw [same, Nat.add_sub_cancel]
              exact separator
          have further : stop ≤ next := by omega
          obtain ⟨tokens, enumerates, returns⟩ :=
            ih (string.length - next) (by omega) nextInside nextStarts rfl
          have state :
              (Tokenizer.mk string c pos).splitRemovingEmpty.1 = ⟨string, c, next⟩ := by
            rw [← moved]
            rfl
          refine ⟨(start, stop) :: tokens, enumerates.cons isToken separators lower ends, ?_⟩
          exact Returns.cons inside out (state ▸ returns)
      | done separators => exact ⟨[], enumerates_nil separators, returns_nil inside separators⟩

/-- Calls from the beginning return all tokens in their order, then nothing forever, and never
leave the string. -/
theorem splitRemovingEmpty_exact (string : List α) (c : α) :
    ∃ tokens : List (Nat × Nat),
      (tokens.Pairwise fun first second => first.2 < second.1) ∧
        (∀ token, token ∈ tokens ↔ IsToken string c token) ∧
        ∀ calls, ((Tokenizer.mk string c 0).afterCalls calls).splitRemovingEmpty.2 =
            tokens[calls]?.map (fun token => substr string token.1 (token.2 - token.1)) ∧
          ((Tokenizer.mk string c 0).afterCalls calls).pos_ ≤ string.length := by
  obtain ⟨tokens, enumerates, returns⟩ :=
    @exists_returns α _ string c 0 (Nat.zero_le _) (Or.inl rfl)
  refine ⟨tokens, enumerates.ordered, fun token => ?_, returns⟩
  exact (enumerates.exact token).trans (and_iff_left (Nat.zero_le _))

end

section
variable {string : List Char} {c : Char}

theorem tokens_separator (text : List Char) : Text.tokens c (c :: text) = Text.tokens c text := by
  simp [Text.tokens, List.splitOn_cons_eq_if_modifyHead]

/-- Separators in front leave no piece. -/
theorem tokens_drop {pos start : Nat} (order : pos ≤ start)
    (separators : ∀ i, pos ≤ i → i < start → string[i]? = some c) :
    Text.tokens c (string.drop pos) = Text.tokens c (string.drop start) := by
  obtain ⟨distance, rfl⟩ := Nat.exists_eq_add_of_le order
  induction distance with
  | zero => rfl
  | succ distance ih =>
      have separator := separators (pos + distance) (by omega) (by omega)
      obtain ⟨inside, same⟩ := List.getElem?_eq_some_iff.mp separator
      have before : ∀ i, pos ≤ i → i < pos + distance → string[i]? = some c := by
        intro i from_ until_
        exact separators i from_ (by omega)
      rw [ih (by omega) before, List.drop_eq_getElem_cons inside, same, tokens_separator]
      rfl

/-- The piece in front of a separator, or of the end. -/
theorem tokens_piece {start stop next : Nat} (nonempty : start < stop)
    (free : ∀ i, start ≤ i → i < stop → string[i]? ≠ some c)
    (ends : stop = string.length ∧ next = stop ∨ string[stop]? = some c ∧ next = stop + 1) :
    Text.tokens c (string.drop start) =
      substr string start (stop - start) :: Text.tokens c (string.drop next) := by
  have inside := (ends_le ends).1
  have piece : c ∉ substr string start (stop - start) := by
    intro member
    obtain ⟨k, bound, at'⟩ := List.getElem_of_mem member
    simp only [substr, List.length_take, List.length_drop] at bound
    simp only [substr, List.getElem_take, List.getElem_drop] at at'
    apply free (start + k) (by omega) (by omega)
    rw [List.getElem?_eq_getElem (by omega), at']
  have length : (substr string start (stop - start)).length = stop - start := by
    simp only [substr, List.length_take, List.length_drop]
    omega
  have whole : string.drop start =
      substr string start (stop - start) ++ string.drop stop := by
    rw [substr, show stop = start + (stop - start) by omega, ← List.drop_drop,
      Nat.add_sub_cancel_left, List.take_append_drop]
  generalize substr string start (stop - start) = token at piece length whole ⊢
  have kept : token.isEmpty = false := by
    rw [List.isEmpty_eq_false_iff_exists_mem]
    exact List.exists_mem_of_length_pos (by omega)
  rw [whole]
  rcases ends with ⟨last, same⟩ | ⟨separator, same⟩
  · rw [same, last, List.drop_length, List.append_nil]
    simp [Text.tokens, List.splitOn_eq_singleton piece, kept]
  · obtain ⟨before, at'⟩ := List.getElem?_eq_some_iff.mp separator
    rw [List.drop_eq_getElem_cons before, at', same]
    simp [Text.tokens, List.splitOn_append_cons_self_of_not_mem piece, kept]

theorem calls_eq_tokens {pos : Nat} (inside : pos ≤ string.length) (calls : Nat) :
    ((Tokenizer.mk string c pos).afterCalls calls).splitRemovingEmpty.2 =
      (Text.tokens c (string.drop pos))[calls]? := by
  have splits := @splitRemovingEmpty_splits Char _ string c pos inside
  dsimp only at splits
  generalize out : (Tokenizer.mk string c pos).splitRemovingEmpty.2 = result at splits
  generalize moved : (Tokenizer.mk string c pos).splitRemovingEmpty.1.pos_ = next at splits
  cases splits with
  | token start stop _ lower nonempty separators free ends =>
      rw [tokens_drop lower separators, tokens_piece nonempty free ends]
      cases calls with
      | zero => exact out
      | succ calls =>
          have state :
              (Tokenizer.mk string c pos).splitRemovingEmpty.1 = ⟨string, c, next⟩ := by
            rw [← moved]
            rfl
          have further : string.length - next < string.length - pos := by
            have bounds := ends_le ends
            omega
          rw [afterCalls, state, calls_eq_tokens (ends_le ends).2 calls]
          rfl
  | done separators =>
      rw [tokens_drop inside separators, List.drop_length]
      exact (returns_nil inside separators calls).1
termination_by string.length - pos

/-- The pieces are those of Text.tokens. -/
theorem splitRemovingEmpty_eq_tokens (string : List Char) (c : Char) (calls : Nat) :
    ((Tokenizer.mk string c 0).afterCalls calls).splitRemovingEmpty.2 =
      (Text.tokens c string)[calls]? :=
  calls_eq_tokens (Nat.zero_le _) calls

end

end Tokenizer

end Karabiner
