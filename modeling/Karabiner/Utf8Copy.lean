import Karabiner.InitializeVector
import Karabiner.Traced
import Karabiner.XmlTree
import Mathlib.Data.List.TakeWhile

set_option autoImplicit false

/- What strlcpy_utf8 leaves in its destination, and the way of a string through push_string and
the kernel's copy of it. -/
namespace Karabiner.StrlcpyUtf8

/-- The characters of a C string. -/
def cString (dst : List UInt8) : List UInt8 := dst.takeWhile (· ≠ 0)

/-- The events are the indices of dst that are read or written. -/
def scanTouching (dst : List UInt8) (len : Nat) : Nat → Nat → Traced Nat Nat
  | 0, i => pure i
  | rounds + 1, i => do
      let byte ← .emit [i] (dst.getD i 0)
      match characterLength byte with
      | none => pure i
      | some n => if i + n > len then pure i else scanTouching dst len rounds (i + n)

def strlcpyTouching (dst src : List UInt8) : Traced Nat (List UInt8) :=
  if dst.length = 0 then pure dst
  else do
    let dst ← .emit (List.range (min src.length (dst.length - 1) + 1)) (libcStrlcpy dst src)
    let len ← .emit (List.range (strlen dst + 1)) (strlen dst)
    let previous ← scanTouching dst len (len + 1) 0
    .emit [previous] (dst.set previous 0)

/-- The loop leaves at an incomplete character or at a byte that starts none. -/
def Stops (dst : List UInt8) (len i : Nat) : Prop :=
  ∀ n, characterLength (dst.getD i 0) = some n → len < i + n

/- Any bytes. -/
section

variable {dst src : List UInt8} {len rounds i : Nat}

theorem scanTouching_value : (scanTouching dst len rounds i).value = scan dst len rounds i := by
  induction rounds generalizing i with
  | zero => rfl
  | succ rounds ih =>
      simp only [scanTouching, scan, Traced.value_bind, Traced.value_emit]
      cases characterLength (dst.getD i 0) with
      | none => rfl
      | some n =>
          dsimp only
          split
          · rfl
          · exact ih

theorem strlcpyTouching_value : (strlcpyTouching dst src).value = strlcpy dst src := by
  unfold strlcpyTouching strlcpy
  split
  · rfl
  · simp only [Traced.value_bind, Traced.value_emit, scanTouching_value]

theorem characterLength_pos {byte : UInt8} {n : Nat} (known : characterLength byte = some n) :
    0 < n := by
  unfold characterLength at known
  split at known
  · cases known
    omega
  · split at known
    · cases known
      omega
    · split at known
      · cases known
        omega
      · split at known
        · cases known
          omega
        · cases known

theorem scan_le (start : i ≤ len) : scan dst len rounds i ≤ len := by
  induction rounds generalizing i with
  | zero => exact start
  | succ rounds ih =>
      rw [scan]
      split
      · exact start
      · split
        · exact start
        · exact ih (by omega)

/-- There are enough rounds for the loop to end by itself. -/
theorem scan_stops (enough : len < i + rounds) : Stops dst len (scan dst len rounds i) := by
  induction rounds generalizing i with
  | zero =>
      intro n known
      have := characterLength_pos known
      rw [scan]
      omega
  | succ rounds ih =>
      rw [scan]
      split
      · next none =>
        intro n known
        exact absurd (none.symm.trans known) (by simp)
      · next m own =>
        split
        · next beyond =>
          intro n known
          rw [Option.some.inj (known.symm.trans own)]
          exact beyond
        · have := characterLength_pos own
          exact ih (by omega)

theorem all_scanTouching {length : Nat} (start : i ≤ len) (bounded : len < length) :
    (scanTouching dst len rounds i).All (· < length) := by
  induction rounds generalizing i with
  | zero => exact Traced.all_pure _ _
  | succ rounds ih =>
      rw [scanTouching, Traced.all_bind]
      refine ⟨by simpa using Nat.lt_of_le_of_lt start bounded, ?_⟩
      split
      · exact Traced.all_pure _ _
      · split
        · exact Traced.all_pure _ _
        · exact ih (by omega)

theorem takeWhile_of_noZero {bytes tail : List UInt8} (plain : 0 ∉ bytes) :
    (bytes ++ 0 :: tail).takeWhile (· ≠ 0) = bytes := by
  rw [List.takeWhile_append_of_pos]
  · simp
  · intro byte member
    have other : byte ≠ 0 := fun zero => plain (zero ▸ member)
    simpa using other

section

variable (dst src : List UInt8)

/-- The bytes that libc copies. -/
def copied : List UInt8 := src.take (dst.length - 1)

/-- Where the last character that is left ends. -/
def cut : Nat :=
  scan (libcStrlcpy dst src) (copied dst src).length ((copied dst src).length + 1) 0

end

theorem copied_noZero (plain : 0 ∉ src) : 0 ∉ copied dst src :=
  fun zero => plain (List.mem_of_mem_take zero)

theorem libcStrlcpy_eq : ∃ tail, libcStrlcpy dst src = copied dst src ++ 0 :: tail := ⟨_, rfl⟩

theorem strlen_libcStrlcpy (plain : 0 ∉ src) :
    strlen (libcStrlcpy dst src) = (copied dst src).length := by
  obtain ⟨tail, same⟩ := @libcStrlcpy_eq dst src
  rw [strlen, same, takeWhile_of_noZero (copied_noZero plain)]

theorem cut_le : cut dst src ≤ (copied dst src).length := scan_le (Nat.zero_le _)

/-- The terminator moves to where the scan stops. -/
theorem strlcpy_eq (room : 0 < dst.length) (plain : 0 ∉ src) :
    ∃ tail, strlcpy dst src = (copied dst src).take (cut dst src) ++ 0 :: tail := by
  obtain ⟨tail, same⟩ := @libcStrlcpy_eq dst src
  have bounded : cut dst src ≤ (copied dst src).length := cut_le
  have whole : strlcpy dst src = (libcStrlcpy dst src).set (cut dst src) 0 := by
    rw [strlcpy, if_neg (by omega)]
    dsimp only
    rw [strlen_libcStrlcpy plain]
    rfl
  have inside : cut dst src < (copied dst src ++ 0 :: tail).length := by
    rw [List.length_append, List.length_cons]
    omega
  rw [whole, same, List.set_eq_take_append_cons_drop, if_pos inside,
    List.take_append_of_le_length bounded]
  exact ⟨_, rfl⟩

theorem cString_strlcpy (room : 0 < dst.length) (plain : 0 ∉ src) :
    cString (strlcpy dst src) = (copied dst src).take (cut dst src) := by
  obtain ⟨tail, same⟩ := strlcpy_eq room plain
  have noZero : 0 ∉ (copied dst src).take (cut dst src) :=
    fun zero => copied_noZero plain (List.mem_of_mem_take zero)
  rw [cString, same, takeWhile_of_noZero noZero]

theorem terminated_strlcpy (room : 0 < dst.length) (plain : 0 ∉ src) : 0 ∈ strlcpy dst src := by
  obtain ⟨tail, same⟩ := strlcpy_eq room plain
  rw [same]
  simp

theorem copied_length : (copied dst src).length = min (dst.length - 1) src.length :=
  List.length_take

theorem all_strlcpyTouching (plain : 0 ∉ src) :
    (strlcpyTouching dst src).All (· < dst.length) := by
  unfold strlcpyTouching
  split
  · exact Traced.all_pure _ _
  · next some =>
    have length := @copied_length dst src
    have bounded : cut dst src ≤ (copied dst src).length := cut_le
    simp only [Traced.all_bind, Traced.all_emit, Traced.value_emit, List.mem_range,
      List.mem_singleton, forall_eq, scanTouching_value, strlen_libcStrlcpy plain]
    refine ⟨fun i small => by omega, fun i small => by omega, ?_, ?_⟩
    · exact all_scanTouching (Nat.zero_le _) (by omega)
    · show cut dst src < dst.length
      omega

end

/- Texts in UTF-8: the valid sequences of bytes are those of the lists of characters. -/

/-- The longest part of a text from its start on that fits in so many bytes. -/
def whole : List Char → Nat → List Char
  | [], _ => []
  | c :: chars, room =>
      if c.utf8Size ≤ room then c :: whole chars (room - c.utf8Size) else []

section

variable {chars : List Char}

theorem utf8_cons (c : Char) (chars : List Char) :
    Text.utf8 (c :: chars) = String.utf8EncodeChar c ++ Text.utf8 chars := rfl

theorem utf8_append (chars more : List Char) :
    Text.utf8 (chars ++ more) = Text.utf8 chars ++ Text.utf8 more := List.flatMap_append

theorem whole_from_start (chars : List Char) (room : Nat) : whole chars room <+: chars := by
  induction chars generalizing room with
  | nil => exact List.prefix_rfl
  | cons c chars ih =>
      rw [whole]
      split
      · exact (List.prefix_cons_inj c).2 (ih _)
      · exact List.nil_prefix

theorem whole_length (chars : List Char) (room : Nat) :
    (Text.utf8 (whole chars room)).length ≤ room := by
  induction chars generalizing room with
  | nil => exact Nat.zero_le room
  | cons c chars ih =>
      rw [whole]
      split
      · next fits =>
        have rest := ih (room - c.utf8Size)
        rw [utf8_cons, List.length_append, String.length_utf8EncodeChar]
        omega
      · exact Nat.zero_le room

theorem whole_longest {more : List Char} {room : Nat} (inside : more <+: chars)
    (fits : (Text.utf8 more).length ≤ room) : more <+: whole chars room := by
  induction chars generalizing more room with
  | nil => exact inside
  | cons c chars ih =>
      cases more with
      | nil => exact List.nil_prefix
      | cons d more =>
          obtain ⟨rfl, rest⟩ := List.cons_prefix_cons.1 inside
          rw [utf8_cons, List.length_append, String.length_utf8EncodeChar] at fits
          rw [whole, if_pos (by omega)]
          exact (List.prefix_cons_inj d).2 (ih rest (by omega))

theorem characterLength_one : ∀ k < 128, characterLength (.ofNat k) = some 1 := by decide

theorem characterLength_two : ∀ k < 32, characterLength (.ofNat (k + 0xc0)) = some 2 := by decide

theorem characterLength_three : ∀ k < 16,
    characterLength (.ofNat (k + 0xe0)) = some 3 := by decide

theorem characterLength_four : ∀ k < 8, characterLength (.ofNat (k + 0xf0)) = some 4 := by decide

/-- The first byte of a character tells how many bytes it has. -/
theorem characterLength_utf8 (c : Char) :
    ∃ lead rest, String.utf8EncodeChar c = lead :: rest ∧
      characterLength lead = some c.utf8Size := by
  rw [← String.length_utf8EncodeChar]
  fun_cases String.utf8EncodeChar c with
  | case1 v small => exact ⟨_, _, rfl, characterLength_one v (by omega)⟩
  | case2 v _ _ => exact ⟨_, _, rfl, characterLength_two _ (Nat.mod_lt _ (by omega))⟩
  | case3 v _ _ _ => exact ⟨_, _, rfl, characterLength_three _ (Nat.mod_lt _ (by omega))⟩
  | case4 v _ _ _ => exact ⟨_, _, rfl, characterLength_four _ (Nat.mod_lt _ (by omega))⟩

theorem ofNat_ne_zero {n : Nat} (low : 0 < n) (high : n < 256) : (0 : UInt8) ≠ .ofNat n := by
  intro zero
  have value := congrArg UInt8.toNat zero
  rw [UInt8.toNat_ofNat', Nat.mod_eq_of_lt high] at value
  exact absurd value (by show (0 : Nat) ≠ n; omega)

/-- Only the character zero has a byte that is zero. -/
theorem zero_mem_encodeChar {c : Char} : 0 ∈ String.utf8EncodeChar c → c = Char.ofNat 0 := by
  fun_cases String.utf8EncodeChar c with
  | case1 v small =>
      intro zero
      have same : (0 : UInt8) = .ofNat v := List.mem_singleton.1 zero
      have none : v = 0 := by
        by_contra some
        exact ofNat_ne_zero (by omega) (by omega) same
      exact Char.ext (UInt32.toNat_inj.1 none)
  | case2 v _ _ =>
      simp only [List.mem_cons, List.not_mem_nil, or_false]
      rintro (lead | tail)
      · exact absurd lead (ofNat_ne_zero (by omega) (by omega))
      · exact absurd tail (ofNat_ne_zero (by omega) (by omega))
  | case3 v _ _ _ =>
      simp only [List.mem_cons, List.not_mem_nil, or_false]
      rintro (lead | tail | tail)
      · exact absurd lead (ofNat_ne_zero (by omega) (by omega))
      · exact absurd tail (ofNat_ne_zero (by omega) (by omega))
      · exact absurd tail (ofNat_ne_zero (by omega) (by omega))
  | case4 v _ _ _ =>
      simp only [List.mem_cons, List.not_mem_nil, or_false]
      rintro (lead | tail | tail | tail)
      · exact absurd lead (ofNat_ne_zero (by omega) (by omega))
      · exact absurd tail (ofNat_ne_zero (by omega) (by omega))
      · exact absurd tail (ofNat_ne_zero (by omega) (by omega))
      · exact absurd tail (ofNat_ne_zero (by omega) (by omega))

theorem utf8_noZero (plain : Char.ofNat 0 ∉ chars) : 0 ∉ Text.utf8 chars := by
  intro zero
  obtain ⟨c, member, zero⟩ := List.mem_flatMap.1 zero
  exact plain (zero_mem_encodeChar zero ▸ member)

theorem scan_end {dst : List UInt8} {len rounds i n : Nat}
    (known : characterLength (dst.getD i 0) = some n) (beyond : len < i + n) :
    scan dst len (rounds + 1) i = i := by
  rw [scan, known]
  exact if_pos beyond

theorem scan_next {dst : List UInt8} {len rounds i n : Nat}
    (known : characterLength (dst.getD i 0) = some n) (within : i + n ≤ len) :
    scan dst len (rounds + 1) i = scan dst len rounds (i + n) := by
  rw [scan, known]
  exact if_neg (by omega)

theorem getD_front {front : List UInt8} {byte : UInt8} {rest : List UInt8} :
    (front ++ byte :: rest).getD front.length 0 = byte := by
  rw [List.getD_append_right _ _ _ _ (Nat.le_refl _), Nat.sub_self]
  rfl

/-- The scan from the start of a character passes the characters that were copied whole. -/
theorem scan_utf8 (chars : List Char) (room : Nat) (front tail : List UInt8) {rounds : Nat}
    (enough : ((Text.utf8 chars).take room).length < rounds) :
    scan (front ++ ((Text.utf8 chars).take room ++ 0 :: tail))
      (front.length + ((Text.utf8 chars).take room).length) rounds front.length =
      front.length + (Text.utf8 (whole chars room)).length := by
  induction chars generalizing room front rounds with
  | nil =>
      obtain ⟨more, rfl⟩ : ∃ more, rounds = more + 1 := ⟨rounds - 1, by omega⟩
      have nothing : (Text.utf8 []).take room = [] := List.take_nil
      rw [nothing, List.nil_append]
      exact scan_end (by rw [getD_front]; rfl) (Nat.lt_succ_self _)
  | cons c chars ih =>
      obtain ⟨more, rfl⟩ : ∃ more, rounds = more + 1 := ⟨rounds - 1, by omega⟩
      obtain ⟨lead, rest, bytes, known⟩ := characterLength_utf8 c
      have size : (String.utf8EncodeChar c).length = c.utf8Size := String.length_utf8EncodeChar c
      by_cases fits : c.utf8Size ≤ room
      · have taken : (Text.utf8 (c :: chars)).take room =
            String.utf8EncodeChar c ++ (Text.utf8 chars).take (room - c.utf8Size) := by
          rw [utf8_cons, List.take_append, size, List.take_of_length_le (by omega)]
        rw [taken] at enough ⊢
        rw [List.length_append] at enough
        have here : characterLength
            ((front ++ (String.utf8EncodeChar c ++ (Text.utf8 chars).take (room - c.utf8Size) ++
              0 :: tail)).getD front.length 0) = some c.utf8Size := by
          rw [bytes]
          simp only [List.cons_append]
          rw [getD_front]
          exact known
        rw [scan_next here (by rw [List.length_append]; omega)]
        have next := @ih (room - c.utf8Size) (front ++ String.utf8EncodeChar c) more (by
          have := c.utf8Size_pos
          omega)
        simp only [List.append_assoc, List.length_append, size] at next ⊢
        rw [whole, if_pos fits, utf8_cons, List.length_append, size]
        rw [← Nat.add_assoc, next]
        omega
      · rw [whole, if_neg fits]
        have length : ((Text.utf8 (c :: chars)).take room).length ≤ room :=
          List.length_take_le _ _
        cases room with
        | zero =>
            rw [List.take_zero, List.nil_append]
            exact scan_end (by rw [getD_front]; rfl) (Nat.lt_succ_self _)
        | succ room =>
            have first : (Text.utf8 (c :: chars)).take (room + 1) =
                lead :: (rest ++ Text.utf8 chars).take room := by
              rw [utf8_cons, bytes]
              rfl
            rw [first] at length ⊢
            rw [List.cons_append]
            exact scan_end (by rw [getD_front]; exact known) (by omega)

/-- Of a text, strlcpy leaves the characters that fit. -/
theorem cString_strlcpy_utf8 {dst : List UInt8} (room : 0 < dst.length)
    (plain : Char.ofNat 0 ∉ chars) :
    cString (strlcpy dst (Text.utf8 chars)) = Text.utf8 (whole chars (dst.length - 1)) := by
  have noZero := utf8_noZero plain
  obtain ⟨more, split⟩ := whole_from_start chars (dst.length - 1)
  have length := whole_length chars (dst.length - 1)
  have reached : cut dst (Text.utf8 chars) = (Text.utf8 (whole chars (dst.length - 1))).length := by
    have scanned := scan_utf8 chars (dst.length - 1) []
      (dst.drop (((Text.utf8 chars).take (dst.length - 1)).length + 1)) (Nat.lt_succ_self _)
    simp only [List.nil_append, List.length_nil, Nat.zero_add] at scanned
    exact scanned
  have written : Text.utf8 chars = Text.utf8 (whole chars (dst.length - 1)) ++ Text.utf8 more := by
    rw [← utf8_append, split]
  rw [cString_strlcpy room noZero, reached, copied, List.take_take,
    Nat.min_eq_left length]
  conv_lhs => rw [written]
  rw [List.take_left]

end

/- A string that user space pushes and the kernel copies. -/
section

variable {chars : List Char}

theorem whole_all {room : Nat} (fits : (Text.utf8 chars).length ≤ room) :
    whole chars room = chars :=
  (whole_from_start chars room).eq_of_length_le (whole_longest List.prefix_rfl fits).length_le

theorem cString_append {bytes : List UInt8} (terminated : 0 ∈ bytes) (more : List UInt8) :
    cString (bytes ++ more) = cString bytes := by
  obtain ⟨front, rest, rfl, plain⟩ := List.eq_append_cons_of_mem terminated
  rw [cString, cString, List.append_assoc, List.cons_append, takeWhile_of_noZero plain,
    takeWhile_of_noZero plain]

/-- A text ends as a C string at its first character zero. -/
theorem cString_utf8 (chars : List Char) :
    cString (Text.utf8 chars) = Text.utf8 (chars.takeWhile (· ≠ Char.ofNat 0)) := by
  induction chars with
  | nil => rfl
  | cons c chars ih =>
      by_cases zero : c = Char.ofNat 0
      · subst zero
        rfl
      · have other (byte : UInt8) (member : byte ∈ String.utf8EncodeChar c) :
            decide (byte ≠ 0) = true := by
          have some : byte ≠ 0 := fun same => zero (zero_mem_encodeChar (same ▸ member))
          simpa using some
        rw [utf8_cons, cString, List.takeWhile_append_of_pos other, List.takeWhile_cons_of_pos
          (by simpa using zero), utf8_cons]
        exact congrArg _ ih

theorem takeWhile_noZero (chars : List Char) :
    Char.ofNat 0 ∉ chars.takeWhile (· ≠ Char.ofNat 0) := by
  intro member
  have other := List.mem_takeWhile_imp member
  exact absurd other (by decide)

theorem utf8_takeWhile_le (chars : List Char) :
    (Text.utf8 (chars.takeWhile (· ≠ Char.ofNat 0))).length ≤ (Text.utf8 chars).length := by
  rw [← cString_utf8]
  exact (List.takeWhile_prefix _).length_le

/-- A pushed string lies in its words with a terminator behind it. -/
theorem stringWords_bytes (chars : List Char) :
    ∃ bytes, (InitializeVector.stringWords (Text.utf8 chars)).flatMap
      VectorBuffer.wordBytes = bytes ∧
      0 ∈ bytes ∧ cString bytes = cString (Text.utf8 chars) := by
  have plain := takeWhile_noZero chars
  have short := utf8_takeWhile_le chars
  have source : (Text.utf8 chars).takeWhile (· ≠ 0) =
      Text.utf8 (chars.takeWhile (· ≠ Char.ofNat 0)) := cString_utf8 chars
  have zeros : (List.replicate (4 * ((Text.utf8 chars).length / 4 + 1)) (0 : UInt8)).length =
      4 * ((Text.utf8 chars).length / 4 + 1) := List.length_replicate
  have room : 0 < (List.replicate (4 * ((Text.utf8 chars).length / 4 + 1)) (0 : UInt8)).length := by
    omega
  rw [cString_utf8, InitializeVector.stringWords, source]
  refine ⟨_, rfl, ?_⟩
  rw [VectorBuffer.words_flatMap_wordBytes]
  · refine ⟨terminated_strlcpy room (utf8_noZero plain), ?_⟩
    rw [cString_strlcpy_utf8 room plain, whole_all (by omega)]
  · rw [VectorBuffer.size, strlcpy_length, zeros]
    omega

/-- What the kernel's strlcpy reads where a pushed string starts. -/
theorem readCString_stringWords (chars : List Char) (front rest : List UInt32) :
    ((VectorBuffer.ofWords
      (front ++ (InitializeVector.stringWords (Text.utf8 chars) ++ rest))).readCString
      (4 * front.length)).value = cString (Text.utf8 chars) := by
  obtain ⟨bytes, written, terminated, same⟩ := stringWords_bytes chars
  show ((List.flatMap _ (_ ++ _)).drop _).takeWhile _ = _
  rw [List.flatMap_append, List.drop_left' (VectorBuffer.flatMap_wordBytes_length front),
    List.flatMap_append, written, ← same]
  exact cString_append terminated _

/-- Of a text, the copy has the characters that fit; of any bytes it has a terminated part from
the start; and a text that is pushed as words arrives as the C string it is. -/
theorem strlcpy_utf8_copies :
    (∀ (dst : List UInt8) (chars : List Char), 0 < dst.length → Char.ofNat 0 ∉ chars →
      0 ∈ strlcpy dst (Text.utf8 chars) ∧
        ∃ left, left <+: chars ∧ cString (strlcpy dst (Text.utf8 chars)) = Text.utf8 left ∧
          (Text.utf8 left).length ≤ dst.length - 1 ∧
          ∀ more, more <+: chars → (Text.utf8 more).length ≤ dst.length - 1 →
            more <+: left) ∧
    (∀ dst src : List UInt8, 0 < dst.length → 0 ∉ src →
      Stops (libcStrlcpy dst src) (strlen (libcStrlcpy dst src))
          (scan (libcStrlcpy dst src) (strlen (libcStrlcpy dst src))
            (strlen (libcStrlcpy dst src) + 1) 0) ∧
        (strlcpyTouching dst src).value = strlcpy dst src ∧
        (strlcpyTouching dst src).All (· < dst.length) ∧
        0 ∈ strlcpy dst src ∧ cString (strlcpy dst src) <+: src) ∧
    (∀ (chars : List Char) (front rest : List UInt32) (dst : List UInt8),
      (Text.utf8 chars).length < dst.length →
        cString (strlcpy dst ((VectorBuffer.ofWords
          (front ++ (InitializeVector.stringWords (Text.utf8 chars) ++ rest))).readCString
          (4 * front.length)).value) = cString (Text.utf8 chars) ∧
        (Char.ofNat 0 ∉ chars → cString (Text.utf8 chars) = Text.utf8 chars)) := by
  refine ⟨?_, ?_, ?_⟩
  · intro dst chars room plain
    refine ⟨terminated_strlcpy room (utf8_noZero plain), whole chars (dst.length - 1),
      whole_from_start _ _, cString_strlcpy_utf8 room plain, whole_length _ _, ?_⟩
    exact fun more inside fits => whole_longest inside fits
  · intro dst src room plain
    refine ⟨scan_stops (by omega), strlcpyTouching_value, all_strlcpyTouching plain,
      terminated_strlcpy room plain, ?_⟩
    rw [cString_strlcpy room plain]
    exact (List.take_prefix _ _).trans (List.take_prefix _ _)
  · intro chars front rest dst large
    have short := utf8_takeWhile_le chars
    constructor
    · rw [readCString_stringWords, cString_utf8,
        cString_strlcpy_utf8 (by omega) (takeWhile_noZero chars), whole_all (by omega)]
    · intro plain
      rw [cString_utf8, List.takeWhile_eq_self_iff.2]
      intro c member
      have other : c ≠ Char.ofNat 0 := fun zero => plain (zero ▸ member)
      simpa using other

/-- Of two characters of two bytes, the first one fits in four bytes with its terminator. -/
theorem strlcpy_utf8_copies_short : ∃ left, left <+: ['é', 'ß'] ∧
    cString (strlcpy [7, 7, 7, 7] (Text.utf8 ['é', 'ß'])) = Text.utf8 left :=
  let ⟨left, inside, same, _⟩ :=
    (strlcpy_utf8_copies.1 [7, 7, 7, 7] ['é', 'ß'] (by decide) (by decide)).2
  ⟨left, inside, same⟩

example : strlcpy [7, 7, 7, 7] (Text.utf8 ['é', 'ß']) = Text.utf8 ['é'] ++ [0, 0] := by decide

end

end Karabiner.StrlcpyUtf8
