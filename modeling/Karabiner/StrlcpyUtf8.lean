import Mathlib.Data.List.Basic

set_option autoImplicit false

/- pqrs::strlcpy_utf8. A destination is the whole array; a source is a C string
without its terminator. -/
namespace Karabiner.StrlcpyUtf8

def strlen (dst : List UInt8) : Nat := (dst.takeWhile (· ≠ 0)).length

/-- The strlcpy of libc. -/
def libcStrlcpy (dst src : List UInt8) : List UInt8 :=
  let copied := src.take (dst.length - 1)
  copied ++ 0 :: dst.drop (copied.length + 1)

/-- The length that a lead byte announces; none for a byte that is not one. -/
def characterLength (byte : UInt8) : Option Nat :=
  if byte &&& 0x80 = 0 then some 1
  else if byte &&& 0xe0 = 0xc0 then some 2
  else if byte &&& 0xf0 = 0xe0 then some 3
  else if byte &&& 0xf8 = 0xf0 then some 4
  else none

/-- Where the scan stops: the terminator, an incomplete character or a bad lead byte.
The index grows in every round, so len + 1 rounds are enough. -/
def scan (dst : List UInt8) (len : Nat) : Nat → Nat → Nat
  | 0, i => i
  | rounds + 1, i =>
      match characterLength (dst.getD i 0) with
      | none => i
      | some n => if i + n > len then i else scan dst len rounds (i + n)

def strlcpy (dst src : List UInt8) : List UInt8 :=
  if dst.length = 0 then dst
  else
    let dst := libcStrlcpy dst src
    let len := strlen dst
    dst.set (scan dst len (len + 1) 0) 0

theorem libcStrlcpy_length {dst : List UInt8} (room : 0 < dst.length) (src : List UInt8) :
    (libcStrlcpy dst src).length = dst.length := by
  simp only [libcStrlcpy, List.length_append, List.length_cons, List.length_drop,
    List.length_take]
  omega

theorem strlcpy_length (dst src : List UInt8) : (strlcpy dst src).length = dst.length := by
  unfold strlcpy
  split
  · rfl
  · rename_i room
    rw [List.length_set, libcStrlcpy_length (by omega)]

end Karabiner.StrlcpyUtf8
