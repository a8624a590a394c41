import Karabiner.Traced
import Mathlib.Data.List.GetD
import Mathlib.Tactic.Common

set_option autoImplicit false

/- The byte buffer that user space hands to the kernel extension, and the reads that
decode it. Memory outside the buffer is not modelled: a read outside is recorded. -/
namespace Karabiner

structure VectorBuffer where
  bytes : List UInt8
  deriving DecidableEq, Repr

namespace VectorBuffer

/-- vector_size, before it is divided by the size of a word. -/
def size (buffer : VectorBuffer) : Nat := buffer.bytes.length

inductive Read where
  | word (index : Nat)
  | byte (offset : Nat)
  deriving DecidableEq, Repr

/-- All bytes of the access lie inside the buffer. -/
def Inside (buffer : VectorBuffer) : Read → Prop
  | .word index => 4 * index + 4 ≤ buffer.size
  | .byte offset => offset < buffer.size

instance (buffer : VectorBuffer) : (read : Read) → Decidable (buffer.Inside read)
  | .word index => inferInstanceAs (Decidable (4 * index + 4 ≤ buffer.size))
  | .byte offset => inferInstanceAs (Decidable (offset < buffer.size))

def byte (buffer : VectorBuffer) (offset : Nat) : UInt8 := buffer.bytes.getD offset 0

/-- The machine is little endian. -/
def word (buffer : VectorBuffer) (index : Nat) : UInt32 :=
  .ofNat ((buffer.byte (4 * index)).toNat + 256 * (buffer.byte (4 * index + 1)).toNat +
    65536 * (buffer.byte (4 * index + 2)).toNat + 16777216 * (buffer.byte (4 * index + 3)).toNat)

abbrev Decode := Traced Read

def readWord (buffer : VectorBuffer) (index : Nat) : Decode UInt32 :=
  Traced.emit [.word index] (buffer.word index)

/-- The bytes from an offset up to the next zero, or up to the end of the buffer. -/
def cString (buffer : VectorBuffer) (offset : Nat) : List UInt8 :=
  (buffer.bytes.drop offset).takeWhile (· ≠ 0)

/-- strlcpy reads its source up to and including the terminator, whatever the size of the
destination. Without a terminator in the buffer the last read recorded is the first one
behind the buffer. -/
def readCString (buffer : VectorBuffer) (offset : Nat) : Decode (List UInt8) :=
  Traced.emit ((List.range' offset ((buffer.cString offset).length + 1)).map .byte)
    (buffer.cString offset)

/-- There is a zero byte at or after the offset. -/
def Terminated (buffer : VectorBuffer) (offset : Nat) : Prop :=
  (0 : UInt8) ∈ buffer.bytes.drop offset

instance (buffer : VectorBuffer) (offset : Nat) : Decidable (buffer.Terminated offset) :=
  inferInstanceAs (Decidable ((0 : UInt8) ∈ _))

private theorem takeWhile_length_lt {bytes : List UInt8} :
    (bytes.takeWhile (· ≠ 0)).length < bytes.length ↔ (0 : UInt8) ∈ bytes := by
  induction bytes with
  | nil => simp
  | cons byte bytes ih =>
      by_cases zero : byte = 0
      · simp [zero]
      · rw [List.takeWhile_cons_of_pos (by simpa using zero)]
        simpa [Ne.symm zero] using ih

/-- A copied string stays inside exactly if its terminator does. -/
theorem readCString_inside (buffer : VectorBuffer) (offset : Nat) :
    (buffer.readCString offset).All buffer.Inside ↔ buffer.Terminated offset := by
  have terminated : buffer.Terminated offset ↔
      (buffer.cString offset).length < buffer.size - offset := by
    rw [Terminated, ← takeWhile_length_lt, cString, size, List.length_drop]
  rw [terminated, readCString, Traced.all_emit]
  constructor
  · intro all
    have last := all (.byte (offset + (buffer.cString offset).length)) (by
      simp only [List.mem_map, List.mem_range'_1]
      exact ⟨_, by omega, rfl⟩)
    simp only [Inside] at last
    omega
  · intro short event member
    obtain ⟨position, inside, rfl⟩ := List.mem_map.1 member
    rw [List.mem_range'_1] at inside
    simp only [Inside]
    omega

theorem readWord_inside (buffer : VectorBuffer) (index : Nat) :
    (buffer.readWord index).All buffer.Inside ↔ 4 * index + 4 ≤ buffer.size := by
  simp [readWord, Inside]

@[simp] theorem readWord_value (buffer : VectorBuffer) (index : Nat) :
    (buffer.readWord index).value = buffer.word index := rfl

def words (buffer : VectorBuffer) : List UInt32 := (List.range (buffer.size / 4)).map buffer.word

@[simp] theorem words_length (buffer : VectorBuffer) : buffer.words.length = buffer.size / 4 := by
  simp [words]

theorem words_drop {buffer : VectorBuffer} {p : Nat} (inside : p < buffer.size / 4) :
    buffer.words.drop p = buffer.word p :: buffer.words.drop (p + 1) := by
  rw [List.drop_eq_getElem_cons (by rwa [words_length])]
  simp [words]

theorem words_drop_cons {buffer : VectorBuffer} {p : Nat} {word : UInt32} {rest : List UInt32}
    (here : buffer.words.drop p = word :: rest) :
    buffer.word p = word ∧ buffer.words.drop (p + 1) = rest := by
  have inside : p < buffer.size / 4 := by
    have length := congrArg List.length here
    rw [List.length_drop, words_length, List.length_cons] at length
    omega
  rw [words_drop inside] at here
  exact ⟨(List.cons.inj here).1, (List.cons.inj here).2⟩

/-- The bytes of a word, the least significant one first. -/
def wordBytes (word : UInt32) : List UInt8 :=
  [.ofNat word.toNat, .ofNat (word.toNat / 256), .ofNat (word.toNat / 65536),
    .ofNat (word.toNat / 16777216)]

def ofWords (words : List UInt32) : VectorBuffer := ⟨words.flatMap wordBytes⟩

theorem flatMap_wordBytes_length (words : List UInt32) :
    (words.flatMap wordBytes).length = 4 * words.length := by
  induction words with
  | nil => rfl
  | cons word words ih =>
      rw [List.flatMap_cons, List.length_append, ih, List.length_cons]
      simp only [wordBytes, List.length_cons, List.length_nil]
      omega

@[simp] theorem ofWords_size (words : List UInt32) : (ofWords words).size = 4 * words.length :=
  flatMap_wordBytes_length words

theorem wordBytes_value (word : UInt32) :
    (UInt8.ofNat word.toNat).toNat + 256 * (UInt8.ofNat (word.toNat / 256)).toNat +
      65536 * (UInt8.ofNat (word.toNat / 65536)).toNat +
      16777216 * (UInt8.ofNat (word.toNat / 16777216)).toNat = word.toNat := by
  have bound := word.toNat_lt
  simp only [UInt8.toNat_ofNat']
  omega

theorem ofWords_byte (words : List UInt32) {index k : Nat} (inside : index < words.length)
    (small : k < 4) :
    (ofWords words).byte (4 * index + k) = (wordBytes words[index]).getD k 0 := by
  simp only [byte, ofWords]
  induction words generalizing index with
  | nil => simp at inside
  | cons word words ih =>
      cases index with
      | zero =>
          rw [List.flatMap_cons, List.getD_append _ _ _ _ (by simpa [wordBytes] using small)]
          simp
      | succ index =>
          have position : 4 * (index + 1) + k - (wordBytes word).length = 4 * index + k := by
            simp only [wordBytes, List.length_cons, List.length_nil]
            omega
          rw [List.flatMap_cons, List.getD_append_right _ _ _ _ (by
            simp only [wordBytes, List.length_cons, List.length_nil]; omega), position,
            ih (by simpa using inside)]
          rfl

theorem ofWords_word (words : List UInt32) {index : Nat} (inside : index < words.length) :
    (ofWords words).word index = words[index] := by
  have byte {k : Nat} (small : k < 4) := ofWords_byte words inside small
  rw [word, byte (k := 1) (by omega), byte (k := 2) (by omega), byte (k := 3) (by omega)]
  have first := byte (k := 0) (by omega)
  rw [Nat.add_zero] at first
  rw [first]
  simp only [wordBytes, List.getD_cons_zero, List.getD_cons_succ, wordBytes_value]
  exact UInt32.ofNat_toNat

theorem ofWords_words (words : List UInt32) : (ofWords words).words = words := by
  apply List.ext_getElem
  · rw [words_length, ofWords_size]
    omega
  · intro index left right
    simp [VectorBuffer.words, ofWords_word words right]

theorem wordBytes_word (buffer : VectorBuffer) (index : Nat) :
    wordBytes (buffer.word index) = [buffer.byte (4 * index), buffer.byte (4 * index + 1),
      buffer.byte (4 * index + 2), buffer.byte (4 * index + 3)] := by
  generalize first : buffer.byte (4 * index) = b0
  generalize second : buffer.byte (4 * index + 1) = b1
  generalize third : buffer.byte (4 * index + 2) = b2
  generalize fourth : buffer.byte (4 * index + 3) = b3
  have lows := And.intro b0.toNat_lt b1.toNat_lt
  have highs := And.intro b2.toNat_lt b3.toNat_lt
  have value : (buffer.word index).toNat = b0.toNat + 256 * b1.toNat + 65536 * b2.toNat +
      16777216 * b3.toNat := by
    rw [word, first, second, third, fourth, UInt32.toNat_ofNat']
    omega
  have digit {n : Nat} {b : UInt8} (same : n % 256 = b.toNat) : UInt8.ofNat n = b := by
    apply UInt8.toNat_inj.1
    rw [UInt8.toNat_ofNat', same]
  rw [wordBytes, value, digit (b := b0) (by omega), digit (b := b1) (by omega),
    digit (b := b2) (by omega), digit (b := b3) (by omega)]

theorem wordBytes_getD (buffer : VectorBuffer) (index : Nat) {k : Nat} (small : k < 4) :
    (wordBytes (buffer.word index)).getD k 0 = buffer.byte (4 * index + k) := by
  rw [wordBytes_word]
  match k, small with
  | 0, _ => rfl
  | 1, _ => rfl
  | 2, _ => rfl
  | 3, _ => rfl

/-- A buffer of whole words is made of their bytes. -/
theorem words_flatMap_wordBytes {buffer : VectorBuffer} (whole : buffer.size % 4 = 0) :
    buffer.words.flatMap wordBytes = buffer.bytes := by
  have length : (buffer.words.flatMap wordBytes).length = buffer.bytes.length := by
    rw [flatMap_wordBytes_length, words_length]
    exact Nat.mul_div_cancel' (Nat.dvd_of_mod_eq_zero whole)
  apply List.ext_getElem length
  intro j left right
  have index : j / 4 < buffer.words.length := by
    rw [words_length]
    have : j < buffer.size := right
    omega
  have small : j % 4 < 4 := Nat.mod_lt j (by omega)
  have own := ofWords_byte buffer.words index small
  have same : buffer.words[j / 4] = buffer.word (j / 4) := by simp [VectorBuffer.words]
  rw [same, wordBytes_getD buffer (j / 4) small, Nat.div_add_mod] at own
  simp only [byte, ofWords, List.getD_eq_getElem?_getD, List.getElem?_eq_getElem left,
    List.getElem?_eq_getElem right, Option.getD_some] at own
  exact own

end VectorBuffer

end Karabiner
