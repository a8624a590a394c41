import Karabiner.XmlTree
import Mathlib.Data.List.Chain

set_option autoImplicit false

/- The replacement of {{key}} in a text. Texts are sequences of bytes. -/
namespace Karabiner.DoubleCurlyBraces

abbrev Bytes := List UInt8

def openBrace : UInt8 := 0x7b
def closeBrace : UInt8 := 0x7d

def isspace (c : UInt8) : Bool := c = 0x20 || (9 ≤ c.toNat && c.toNat ≤ 13)

/-- boost::trim in the C locale -/
def trim (text : Bytes) : Bytes :=
  ((text.dropWhile isspace).reverse.dropWhile isspace).reverse

def warning (key : Bytes) : Bytes :=
  Text.utf8 "Warning - \"".toList ++ key ++ Text.utf8 "\" is not found in replacement.\n".toList

structure Replaced where
  out : Bytes
  replacementWarnings : Bytes
  deriving DecidableEq, Repr

section

variable (replacement : Bytes → Option Bytes)

/-- What a key that was read is replaced by. -/
def Replaced.replace (replaced : Replaced) (key : Bytes) : Replaced :=
  match replacement key with
  | some value => { replaced with out := replaced.out ++ value }
  | none => { replaced with
      replacementWarnings := replaced.replacementWarnings ++ warning key }

mutual

/-- The outer loop. Every round gets one byte from the stream. -/
def copy (previous : UInt8) (replaced : Replaced) : Bytes → Replaced
  | [] => replaced
  | c :: rest =>
      if c = openBrace ∧ previous = openBrace then
        findKey previous [] { replaced with out := replaced.out.dropLast } rest
      else copy c { replaced with out := replaced.out ++ [c] } rest

/-- The inner loop. The text is finished when the braces are not closed. -/
def findKey (previous : UInt8) (key : Bytes) (replaced : Replaced) : Bytes → Replaced
  | [] => replaced
  | c :: rest =>
      if c = closeBrace ∧ previous = closeBrace then
        copy previous (replaced.replace replacement (trim key.dropLast)) rest
      else findKey c (key ++ [c]) replaced rest

end

/-- The value that is returned, and what the two strings are then. -/
def stringByReplacingDoubleCurlyBracesFromString (replacementWarnings source : Bytes) :
    Int × Replaced :=
  (0, if source.isEmpty then ⟨[], replacementWarnings⟩
    else copy replacement 0 ⟨[], replacementWarnings⟩ source)

end

/-- A template is made of texts and of keys between braces. -/
inductive Segment where
  | literal (text : Bytes)
  | key (text : Bytes)

namespace Segment

def Valid : Segment → Prop
  | literal text => ¬ [openBrace, openBrace] <:+: text ∧ text.getLast? ≠ some openBrace
  | key text => ¬ [closeBrace, closeBrace] <:+: text ∧ text.getLast? ≠ some closeBrace

def source : Segment → Bytes
  | literal text => text
  | key text => [openBrace, openBrace] ++ text ++ [closeBrace, closeBrace]

def value (replacement : Bytes → Option Bytes) : Segment → Bytes
  | literal text => text
  | key text => (replacement (trim text)).getD []

/-- The keys that are not found. -/
def unknown (replacement : Bytes → Option Bytes) : Segment → Option Bytes
  | literal _ => none
  | key text => if (replacement (trim text)).isNone then some (trim text) else none

end Segment

section

variable {replacement : Bytes → Option Bytes} {previous brace : UInt8} {replaced : Replaced}
  {text rest : Bytes}

/-- No two of the braces stand next to each other. -/
def Apart (brace : UInt8) (text : Bytes) : Prop :=
  text.IsChain fun c next => ¬ (next = brace ∧ c = brace)

theorem apart_of_single (single : ¬ [brace, brace] <:+: text) : Apart brace text := by
  apply List.isChain_iff_forall_rel_of_append_cons_cons.2
  intro c next before after split both
  apply single
  exact ⟨before, after, by rw [split, both.1, both.2]; simp⟩

theorem Apart.behind (apart : Apart brace text) (other : previous ≠ brace) :
    Apart brace (previous :: text) := by
  cases text with
  | nil => exact List.isChain_singleton previous
  | cons c text => exact List.isChain_cons_cons.2 ⟨fun both => other both.2, apart⟩

theorem copy_literal (apart : Apart openBrace (previous :: text)) :
    copy replacement previous replaced (text ++ rest) =
      copy replacement (text.getLastD previous) { replaced with out := replaced.out ++ text }
        rest := by
  induction text generalizing previous replaced with
  | nil => simp
  | cons c text ih =>
      obtain ⟨here, apart⟩ := List.isChain_cons_cons.1 apart
      rw [List.cons_append, copy, if_neg here, ih apart, List.getLastD_cons]
      simp

theorem findKey_text {key : Bytes} (apart : Apart closeBrace (previous :: text)) :
    findKey replacement previous key replaced (text ++ rest) =
      findKey replacement (text.getLastD previous) (key ++ text) replaced rest := by
  induction text generalizing previous key with
  | nil => simp
  | cons c text ih =>
      obtain ⟨here, apart⟩ := List.isChain_cons_cons.1 apart
      rw [List.cons_append, findKey, if_neg here, ih apart, List.getLastD_cons]
      simp

theorem getLastD_other (other : previous ≠ brace) (ends : text.getLast? ≠ some brace) :
    text.getLastD previous ≠ brace := by
  rw [List.getLastD_eq_getLast?]
  cases last : text.getLast? with
  | none => exact other
  | some c => exact fun same => ends (last.trans (congrArg some same))

/-- The braces around a key are taken away, and nothing of the value is looked at. -/
theorem copy_key (valid : (Segment.key text).Valid) (other : previous ≠ openBrace) :
    copy replacement previous replaced ((Segment.key text).source ++ rest) =
      copy replacement closeBrace (replaced.replace replacement (trim text)) rest := by
  have braces : openBrace ≠ closeBrace := by decide
  have apart : Apart closeBrace (openBrace :: text) := (apart_of_single valid.1).behind braces
  have ends : text.getLastD openBrace ≠ closeBrace := getLastD_other braces valid.2
  have source : (Segment.key text).source ++ rest =
      openBrace :: openBrace :: (text ++ closeBrace :: closeBrace :: rest) := by
    simp [Segment.source]
  have first : ¬ (openBrace = openBrace ∧ previous = openBrace) := fun both => other both.2
  have closing : ¬ (closeBrace = closeBrace ∧ text.getLastD openBrace = closeBrace) :=
    fun both => ends both.2
  rw [source, copy, if_neg first, copy, if_pos ⟨rfl, rfl⟩, findKey_text apart, findKey,
    if_neg closing, findKey, if_pos ⟨rfl, rfl⟩]
  simp

/-- Every segment leaves something other than an opening brace behind. -/
theorem copy_segment {segment : Segment} (valid : segment.Valid) (other : previous ≠ openBrace) :
    ∃ last, last ≠ openBrace ∧
      copy replacement previous replaced (segment.source ++ rest) =
        copy replacement last
          { out := replaced.out ++ segment.value replacement
            replacementWarnings := replaced.replacementWarnings ++
              (segment.unknown replacement).toList.flatMap warning } rest := by
  cases segment with
  | literal text =>
      refine ⟨text.getLastD previous, getLastD_other other valid.2, ?_⟩
      show copy replacement previous replaced (text ++ rest) = _
      rw [copy_literal ((apart_of_single valid.1).behind other)]
      simp [Segment.value, Segment.unknown]
  | key text =>
      refine ⟨closeBrace, by decide, ?_⟩
      rw [copy_key valid other]
      congr 1
      unfold Replaced.replace Segment.value Segment.unknown
      cases found : replacement (trim text) <;> simp [found]

theorem copy_template {template : List Segment} (valid : ∀ segment ∈ template, segment.Valid)
    (other : previous ≠ openBrace) :
    copy replacement previous replaced (template.flatMap Segment.source) =
      { out := replaced.out ++ template.flatMap (Segment.value replacement)
        replacementWarnings := replaced.replacementWarnings ++
          (template.filterMap (Segment.unknown replacement)).flatMap warning } := by
  induction template generalizing previous replaced with
  | nil => simp [copy]
  | cons segment template ih =>
      obtain ⟨here, later⟩ := List.forall_mem_cons.1 valid
      obtain ⟨last, other, next⟩ := copy_segment here other
      rw [List.flatMap_cons, next, ih later other]
      cases named : segment.unknown replacement <;> simp [named]

end

/-- A template becomes its texts and the values of its keys, with a warning for each key that is
not found; and the call returns for every text. -/
theorem replace_template (replacement : Bytes → Option Bytes) (replacementWarnings : Bytes) :
    (∀ template : List Segment, (∀ segment ∈ template, segment.Valid) →
      stringByReplacingDoubleCurlyBracesFromString replacement replacementWarnings
          (template.flatMap Segment.source) =
        (0, { out := template.flatMap (Segment.value replacement)
              replacementWarnings := replacementWarnings ++
                (template.filterMap (Segment.unknown replacement)).flatMap warning })) ∧
    ∀ source, (stringByReplacingDoubleCurlyBracesFromString replacement replacementWarnings
      source).1 = 0 := by
  refine ⟨fun template valid => ?_, fun source => rfl⟩
  have other : (0 : UInt8) ≠ openBrace := by decide
  unfold stringByReplacingDoubleCurlyBracesFromString
  have copied := @copy_template replacement 0 ⟨[], replacementWarnings⟩ template valid other
  split
  · next empty =>
    rw [List.isEmpty_iff] at empty
    rw [empty, copy] at copied
    rw [copied]
    rfl
  · rw [copied]
    rfl

def sampleReplacement (key : Bytes) : Option Bytes :=
  if key = [0x41] then some [openBrace, openBrace] else none

def sampleTemplate : List Segment := [.key [0x20, 0x41], .literal [openBrace, 0x41], .key [0x42]]

theorem sampleTemplate_valid : ∀ segment ∈ sampleTemplate, segment.Valid := by
  simp only [sampleTemplate, List.forall_mem_cons, Segment.Valid]
  refine ⟨by decide, by decide, by decide, fun segment none => ?_⟩
  exact absurd none List.not_mem_nil

theorem replace_template_sample :
    stringByReplacingDoubleCurlyBracesFromString sampleReplacement []
        (sampleTemplate.flatMap Segment.source) =
      (0, { out := [openBrace, openBrace, openBrace, 0x41]
            replacementWarnings := warning [0x42] }) :=
  (replace_template sampleReplacement []).1 sampleTemplate sampleTemplate_valid

end Karabiner.DoubleCurlyBraces
