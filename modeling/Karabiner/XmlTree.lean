import Mathlib.Algebra.BigOperators.Group.List.Basic
import Mathlib.Algebra.GroupWithZero.Nat
import Mathlib.Tactic.Common

set_option autoImplicit false

/- The trees that boost reads an XML file into, and the functions on texts that
xml_compiler uses. Texts are taken apart as lists of characters. -/
namespace Karabiner

/-- ptree::value_type. The attributes of an element are the children of a first child
"<xmlattr>". -/
inductive Tree where
  | node (tag data : String) (children : List Tree)
  deriving Repr

namespace Tree

def tag : Tree → String | .node tag _ _ => tag
def data : Tree → String | .node _ data _ => data
def children : Tree → List Tree | .node _ _ children => children

/-- get_optional of the path with "<xmlattr>" in front. -/
def getOptional (tree : Tree) (name : String) : Option String := do
  let attributes ← tree.children.find? (·.tag = "<xmlattr>")
  let child ← attributes.children.find? (·.tag = name)
  return child.data

end Tree

namespace Text

/-- isspace of the C locale. -/
def isspace (c : Char) : Bool := c = ' ' || (9 ≤ c.toNat && c.toNat ≤ 13)

def trimLeftCopy (s : String) : String := .ofList (s.toList.dropWhile isspace)

def trim (text : List Char) : List Char :=
  ((text.dropWhile isspace).reverse.dropWhile isspace).reverse

def trimCopy (s : String) : String := .ofList (trim s.toList)

/-- The bytes of a text. -/
def utf8 (text : List Char) : List UInt8 := text.flatMap String.utf8EncodeChar

def removeWhitespaces (s : String) : String :=
  .ofList (s.toList.filter fun c => c ∉ [' ', '\n', '\r', '\t'])

def contains (search : List Char) : List Char → Bool
  | [] => search.isEmpty
  | c :: rest => search.isPrefixOf (c :: rest) || contains search rest

/-- The number counts the characters of an occurrence that are still to be left out. -/
def replaceAll (search format : List Char) : Nat → List Char → List Char
  | _, [] => []
  | 0, c :: rest =>
      if search.isPrefixOf (c :: rest) then
        format ++ replaceAll search format (search.length - 1) rest
      else c :: replaceAll search format 0 rest
  | skip + 1, _ :: rest => replaceAll search format skip rest

def replaceFirst (search format : List Char) : List Char → List Char
  | [] => []
  | c :: rest =>
      if search.isPrefixOf (c :: rest) then format ++ (c :: rest).drop search.length
      else c :: replaceFirst search format rest

/-- The pieces that split_removing_empty gives one after the other. -/
def tokens (c : Char) (text : List Char) : List (List Char) :=
  (text.splitOn c).filter (!·.isEmpty)

def digit (base : Nat) (c : Char) : Option Nat :=
  let value :=
    if '0' ≤ c ∧ c ≤ '9' then c.toNat - '0'.toNat
    else if 'a' ≤ c ∧ c ≤ 'f' then c.toNat - 'a'.toNat + 10
    else if 'A' ≤ c ∧ c ≤ 'F' then c.toNat - 'A'.toNat + 10
    else base
  if value < base then some value else none

/-- All of the digits; a number that needs more than 32 bits is refused. -/
def number (base : Nat) (digits : List Char) : Option UInt32 := do
  let values ← digits.mapM (digit base)
  let value := values.foldl (base * · + ·) 0
  if values.isEmpty || 2 ^ 32 ≤ value then none else some (.ofNat value)

/-- lexical_cast takes a sign, also for an unsigned number. -/
def toUint32 (s : String) : Option UInt32 :=
  match s.toList with
  | [] => none
  | '0' :: 'x' :: digits => number 16 digits
  | '0' :: 'X' :: digits => number 16 digits
  | '0' :: digits => number 8 ('0' :: digits)
  | '-' :: digits => (number 10 digits).map (0 - ·)
  | '+' :: digits => number 10 digits
  | digits => number 10 digits

/-- normalize_identifier_ -/
def normalizeIdentifier (identifier : String) : String :=
  .ofList (replaceAll ['.'] ['_'] 0 (removeWhitespaces identifier).toList)

theorem contains_of_prefix {search found : List Char} (part : search <+: found)
    {text : List Char} (contained : contains found text = true) :
    contains search text = true := by
  induction text with
  | nil =>
      rw [contains, List.isEmpty_iff] at contained ⊢
      exact List.prefix_nil.1 (contained ▸ part)
  | cons c rest ih =>
      rw [contains, Bool.or_eq_true] at contained ⊢
      cases contained with
      | inl here =>
          have whole := part.trans (List.isPrefixOf_iff_prefix.1 here)
          exact .inl (List.isPrefixOf_iff_prefix.2 whole)
      | inr later => exact .inr (ih later)

section

variable (weigh : Char → Nat)

def weight (text : List Char) : Nat := (text.map weigh).sum

@[simp] theorem weight_nil : weight weigh [] = 0 := rfl

@[simp] theorem weight_cons (c : Char) (text : List Char) :
    weight weigh (c :: text) = weigh c + weight weigh text := by
  simp [weight]

@[simp] theorem weight_append (first second : List Char) :
    weight weigh (first ++ second) = weight weigh first + weight weigh second := by
  simp [weight]

theorem weight_drop_of_prefix {search text : List Char} (found : search <+: text) :
    weight weigh text = weight weigh search + weight weigh (text.drop search.length) := by
  obtain ⟨rest, rfl⟩ := found
  rw [weight_append, List.drop_left]

variable {weigh} {search format : List Char}

theorem replaceAll_drop (skip : Nat) (text : List Char) :
    replaceAll search format skip text = replaceAll search format 0 (text.drop skip) := by
  induction skip generalizing text with
  | zero => rfl
  | succ skip ih =>
      cases text with
      | nil => rfl
      | cons c rest => rw [replaceAll, ih, List.drop_succ_cons]

/-- Where an occurrence begins, the rest of it is left out. -/
theorem replaceAll_found {c : Char} {rest : List Char}
    (found : search.isPrefixOf (c :: rest) = true) (nonempty : search ≠ []) :
    replaceAll search format 0 (c :: rest) =
      format ++ replaceAll search format 0 ((c :: rest).drop search.length) := by
  obtain ⟨first, others, rfl⟩ := List.exists_cons_of_ne_nil nonempty
  rw [replaceAll, if_pos found, replaceAll_drop]
  rfl

/-- A replacement by something lighter makes no text heavier. -/
theorem weight_replaceAll_le (nonempty : search ≠ [])
    (lighter : weight weigh format ≤ weight weigh search) (text : List Char) :
    weight weigh (replaceAll search format 0 text) ≤ weight weigh text := by
  generalize length : text.length = n
  induction n using Nat.strongRecOn generalizing text with
  | ind n ih =>
      cases text with
      | nil => exact Nat.le_refl _
      | cons c rest =>
          by_cases found : search.isPrefixOf (c :: rest) = true
          · have positive := List.length_pos_of_ne_nil nonempty
            have shorter : ((c :: rest).drop search.length).length < n := by
              rw [List.length_drop, ← length, List.length_cons]
              omega
            have tail := ih _ shorter _ rfl
            have parts := weight_drop_of_prefix weigh (List.isPrefixOf_iff_prefix.1 found)
            rw [replaceAll_found found nonempty, weight_append, parts]
            omega
          · have shorter : rest.length < n := by
              rw [← length, List.length_cons]
              omega
            have tail := ih _ shorter rest rfl
            rw [replaceAll, if_neg found, weight_cons, weight_cons]
            omega

/-- It makes a text lighter where it replaces something. -/
theorem weight_replaceAll_lt (nonempty : search ≠ [])
    (lighter : weight weigh format < weight weigh search) {text : List Char}
    (found : contains search text = true) :
    weight weigh (replaceAll search format 0 text) < weight weigh text := by
  induction text with
  | nil => exact absurd (List.isEmpty_iff.1 found) nonempty
  | cons c rest ih =>
      by_cases here : search.isPrefixOf (c :: rest) = true
      · have tail := weight_replaceAll_le nonempty (Nat.le_of_lt lighter)
          ((c :: rest).drop search.length)
        have parts := weight_drop_of_prefix weigh (List.isPrefixOf_iff_prefix.1 here)
        rw [replaceAll_found here nonempty, weight_append, parts]
        omega
      · have later : contains search rest = true := by
          rw [contains, Bool.or_eq_true] at found
          exact found.resolve_left here
        have tail := ih later
        rw [replaceAll, if_neg here, weight_cons, weight_cons]
        omega

theorem weight_replaceFirst_lt (nonempty : search ≠ [])
    (lighter : weight weigh format < weight weigh search) {text : List Char}
    (found : search.isPrefixOf text = true) :
    weight weigh (replaceFirst search format text) < weight weigh text := by
  cases text with
  | nil =>
      cases search with
      | nil => exact absurd rfl nonempty
      | cons first others => cases found
  | cons c rest =>
      have parts := weight_drop_of_prefix weigh (List.isPrefixOf_iff_prefix.1 found)
      rw [replaceFirst, if_pos found, weight_append, parts]
      omega

end

end Text

/-- error_information_ keeps the first message. -/
structure ErrorInformation where
  message : String := ""
  count : Nat := 0
  deriving DecidableEq, Repr

def ErrorInformation.set (information : ErrorInformation) (message : String) :
    ErrorInformation where
  message := if information.message = "" then message else information.message
  count := information.count + 1

end Karabiner
