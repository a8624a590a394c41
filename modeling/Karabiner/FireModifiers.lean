import Karabiner.FlagStatus
import Karabiner.ModifierBits
import Karabiner.OutputKeyCode

set_option autoImplicit false

/- EventOutputQueue::FireModifiers: the MODIFY events that bring the modifiers that were
sent last to the wanted ones. -/
namespace Karabiner

abbrev AutogenId := BitVec 64

inductive PhysicalEventType where
  | DOWN
  | UP
  deriving DecidableEq, Repr

namespace EventOutputQueue

/-- The arguments of push. -/
structure Pushed where
  params : Params
  autogenId : AutogenId
  deriving DecidableEq, Repr

structure FireModifiers where
  lastFlags_ : Flags
  isIgnorePhysicalUpEvent_ : Bool
  deriving DecidableEq, Repr

namespace FireModifiers

def start : FireModifiers := ⟨⟨0⟩, false⟩

section
variable (pairs : Pairs) (autogenId : AutogenId) (keyboardType : KeyboardType)

def modifyEvent (flags : Flags) (flag : ModifierFlag) : Pushed :=
  ⟨.keyboardEvent pairs .MODIFY flags (pairs.getKeyCode flag .KEYCODE) keyboardType false,
    autogenId⟩

/-- Invalid flags and virtual modifiers. -/
def isSkipped (flag : ModifierFlag) : Bool :=
  pairs.getKeyCode flag .KEYCODE = .VK_NONE || flag.getRawBits = 0

/-- One round of the first loop. -/
def keyUp (toFlags : Flags) (progress : Flags × List Pushed) (flag : ModifierFlag) :
    Flags × List Pushed :=
  if isSkipped pairs flag then progress
  else if !progress.1.isOn flag then progress
  else if toFlags.isOn flag then progress
  else
    let lastFlags := progress.1.remove pairs flag
    (lastFlags, progress.2 ++ [modifyEvent pairs autogenId keyboardType lastFlags flag])

/-- One round of the second loop. -/
def keyDown (toFlags : Flags) (progress : Flags × List Pushed) (flag : ModifierFlag) :
    Flags × List Pushed :=
  if isSkipped pairs flag then progress
  else if !toFlags.isOn flag then progress
  else if progress.1.isOn flag then progress
  else
    let lastFlags := progress.1.add flag
    (lastFlags, progress.2 ++ [modifyEvent pairs autogenId keyboardType lastFlags flag])

/-- fire from the handling of NUMPAD on. -/
def moveFlags (flags : List ModifierFlag) (toFlags lastFlags : Flags) : Flags × List Pushed :=
  let lastFlags :=
    if !toFlags.isOn ModifierFlag.NUMPAD then lastFlags.remove pairs ModifierFlag.NUMPAD
    else lastFlags
  let released := flags.foldl (keyUp pairs autogenId keyboardType toFlags) (lastFlags, [])
  let pressed := flags.foldl (keyDown pairs autogenId keyboardType toFlags) released
  (if toFlags.isOn ModifierFlag.NUMPAD then pressed.1.add ModifierFlag.NUMPAD else pressed.1,
    pressed.2)

/-- The second component holds the events that are pushed. -/
def fire (status : FlagStatus) (physicalEventType : PhysicalEventType) (toFlags : Flags)
    (modifiers : FireModifiers) : FireModifiers × List Pushed :=
  if modifiers.lastFlags_ = toFlags then (modifiers, [])
  else
    let moved := moveFlags pairs autogenId keyboardType status.flags toFlags
      modifiers.lastFlags_
    match physicalEventType with
    | .DOWN => (⟨moved.1, false⟩, moved.2)
    | .UP =>
        if modifiers.isIgnorePhysicalUpEvent_ then (modifiers, [])
        else (⟨moved.1, modifiers.isIgnorePhysicalUpEvent_⟩, moved.2)

end

/-- The call returns at once, because a key that it stands for was released. -/
def isSuppressed (modifiers : FireModifiers) (physicalEventType : PhysicalEventType) : Bool :=
  physicalEventType = .UP && modifiers.isIgnorePhysicalUpEvent_

/-- The modifiers that are held after one of them is released. -/
def release (held : List ModifierFlag) (flag : ModifierFlag) : List ModifierFlag :=
  held.filter (· ≠ flag)

def press (held : List ModifierFlag) (flag : ModifierFlag) : List ModifierFlag := held ++ [flag]

section
variable (autogenId : AutogenId) (keyboardType : KeyboardType)

/-- The event of one modifier, with the modifiers that are held right after its change. -/
def changeEvent (after : List ModifierFlag) (flag : ModifierFlag) : Pushed where
  params := .keyboard
    { eventType := EventType.MODIFY
      flags := .ofModifierFlags after
      key := Pairs.normal.getKeyCode flag .KEYCODE
      keyboardType
      isRepeat := false
      ex_iskeydown := decide (flag ∈ after) }
  autogenId

/-- One event for each modifier. -/
def eventsOf (change : List ModifierFlag → ModifierFlag → List ModifierFlag) :
    List ModifierFlag → List ModifierFlag → List Pushed
  | _, [] => []
  | held, flag :: flags =>
      changeEvent autogenId keyboardType (change held flag) flag ::
        eventsOf change (change held flag) flags

end

end FireModifiers

end EventOutputQueue

/-- Modifiers of modifierdef.xml, which are registered after the normal ones. -/
def Pairs.AreVirtual (extra : Pairs) : Prop :=
  ∀ pair ∈ extra, pair.modifierFlag.getRawBits = 0

theorem Pairs.areVirtual_nil : Pairs.AreVirtual [] := fun _ none => absurd none List.not_mem_nil

namespace EventOutputQueue.FireModifiers

section
variable {extra : Pairs} {flag : ModifierFlag}

theorem hasNormal_append (extra : Pairs) : Pairs.HasNormal (Pairs.normal ++ extra) := by
  intro flag member
  rw [Pairs.flags, List.map_append]
  exact List.mem_append_left _ member

/-- The key code of a normal modifier does not depend on what is registered later. -/
theorem getKeyCode_append (normal : flag ∈ Pairs.normal.flags) (type : KeyCodeType) :
    Pairs.getKeyCode (Pairs.normal ++ extra) flag type = Pairs.normal.getKeyCode flag type := by
  obtain ⟨pair, member, same⟩ := List.mem_map.mp normal
  have found : (Pairs.normal.find? (·.modifierFlag = flag)).isSome := by
    rw [List.find?_isSome]
    exact ⟨pair, member, by simpa using same⟩
  rw [Pairs.getKeyCode, Pairs.getKeyCode, List.find?_append, Option.or_of_isSome found]

/-- The loops come to an event for the normal modifiers only. -/
theorem not_isSkipped_iff (virtual : extra.AreVirtual)
    (member : flag ∈ Pairs.flags (Pairs.normal ++ extra)) :
    isSkipped (Pairs.normal ++ extra) flag = false ↔ flag ∈ Pairs.normal.flags := by
  have each : ∀ flag ∈ Pairs.normal.flags,
      Pairs.normal.getKeyCode flag .KEYCODE ≠ .VK_NONE ∧ flag.getRawBits ≠ 0 := by decide
  constructor
  · intro taken
    rw [isSkipped, Bool.or_eq_false_iff, decide_eq_false_iff_not, decide_eq_false_iff_not] at taken
    rw [Pairs.flags, List.map_append] at member
    rcases List.mem_append.mp member with normal | later
    · exact normal
    · obtain ⟨pair, inside, rfl⟩ := List.mem_map.mp later
      exact absurd (virtual pair inside) taken.2
  · intro normal
    obtain ⟨named, raw⟩ := each flag normal
    rw [isSkipped, getKeyCode_append normal, Bool.or_eq_false_iff, decide_eq_false_iff_not,
      decide_eq_false_iff_not]
    exact ⟨named, raw⟩

theorem getRawBits_of_normal (normal : flag ∈ Pairs.normal.flags) : flag.getRawBits ≠ 0 := by
  have each : ∀ flag ∈ Pairs.normal.flags, flag.getRawBits ≠ 0 := by decide
  exact each flag normal

/-- The key code of a normal modifier leads back to it. -/
theorem getModifierFlag_getKeyCode (normal : flag ∈ Pairs.normal.flags) :
    Pairs.getModifierFlag (Pairs.normal ++ extra)
      (Pairs.normal.getKeyCode flag .KEYCODE) .KEYCODE = flag := by
  have each : ∀ flag ∈ Pairs.normal.flags,
      (Pairs.normal.find? (·.keyCode .KEYCODE = Pairs.normal.getKeyCode flag .KEYCODE)).isSome ∧
        Pairs.normal.getModifierFlag (Pairs.normal.getKeyCode flag .KEYCODE) .KEYCODE = flag := by
    decide
  obtain ⟨found, own⟩ := each flag normal
  rw [Pairs.getModifierFlag, List.find?_append, Option.or_of_isSome found]
  exact own

theorem modifyEvent_append (autogenId : AutogenId) (keyboardType : KeyboardType)
    (after : List ModifierFlag) (normal : flag ∈ Pairs.normal.flags) :
    modifyEvent (Pairs.normal ++ extra) autogenId keyboardType (.ofModifierFlags after) flag =
      changeEvent autogenId keyboardType after flag := by
  have down : EventType.MODIFY.isKeyDownOrModifierDown (Pairs.normal ++ extra)
      (Pairs.normal.getKeyCode flag .KEYCODE) (.ofModifierFlags after) =
        decide (flag ∈ after) := by
    show (Flags.ofModifierFlags after).isOn (Pairs.getModifierFlag (Pairs.normal ++ extra)
      (Pairs.normal.getKeyCode flag .KEYCODE) .KEYCODE) = _
    rw [getModifierFlag_getKeyCode normal, Flags.isOn_ofModifierFlags (getRawBits_of_normal normal)]
  simp only [modifyEvent, getKeyCode_append normal, Params.keyboardEvent, down, changeEvent]

end

section
variable {held : List ModifierFlag} {flag other : ModifierFlag}

theorem mem_release : other ∈ release held flag ↔ other ∈ held ∧ other ≠ flag := by
  simp [release]

theorem mem_press : other ∈ press held flag ↔ other ∈ held ∨ other = flag := by
  simp [press]

theorem mem_foldl_release {flags : List ModifierFlag} :
    other ∈ flags.foldl release held ↔ other ∈ held ∧ other ∉ flags := by
  induction flags generalizing held with
  | nil => simp
  | cons flag flags ih =>
      rw [List.foldl_cons, ih, mem_release, List.mem_cons, not_or, and_assoc]

theorem mem_foldl_press {flags : List ModifierFlag} :
    other ∈ flags.foldl press held ↔ other ∈ held ∨ other ∈ flags := by
  induction flags generalizing held with
  | nil => simp
  | cons flag flags ih =>
      rw [List.foldl_cons, ih, mem_press, List.mem_cons, or_assoc]

end

section
variable {extra : Pairs} (virtual : extra.AreVirtual) (autogenId : AutogenId)
  (keyboardType : KeyboardType) (toFlags : Flags)

include virtual

/-- The first loop releases what is held and not wanted. -/
theorem foldl_keyUp {flags : List ModifierFlag}
    (known : ∀ flag ∈ flags, flag ∈ Pairs.flags (Pairs.normal ++ extra))
    (held : List ModifierFlag) (pushed : List Pushed) :
    ∃ releases, releases.Nodup ∧
      (∀ flag, flag ∈ releases ↔ flag ∈ flags ∧ flag ∈ Pairs.normal.flags ∧
        flag ∈ held ∧
        toFlags.isOn flag = false) ∧
      flags.foldl (keyUp (Pairs.normal ++ extra) autogenId keyboardType toFlags)
          (.ofModifierFlags held, pushed) =
        (.ofModifierFlags (releases.foldl release held),
          pushed ++ eventsOf autogenId keyboardType release held releases) := by
  induction flags generalizing held pushed with
  | nil => exact ⟨[], by simp, by simp, by simp [eventsOf]⟩
  | cons flag flags ih =>
      have known' : ∀ other ∈ flags, other ∈ Pairs.flags (Pairs.normal ++ extra) :=
        fun other later => known other (List.mem_cons_of_mem _ later)
      have skipped := not_isSkipped_iff virtual (known flag List.mem_cons_self)
      by_cases released : flag ∈ Pairs.normal.flags ∧ flag ∈ held ∧
        toFlags.isOn flag = false
      · obtain ⟨normal, here, off⟩ := released
        have on : (Flags.ofModifierFlags held).isOn flag = true := by
          rw [Flags.isOn_ofModifierFlags (getRawBits_of_normal normal)]
          simpa using here
        have round : keyUp (Pairs.normal ++ extra) autogenId keyboardType toFlags
            (.ofModifierFlags held, pushed) flag =
              (.ofModifierFlags (release held flag), pushed ++
                [changeEvent autogenId keyboardType (release held flag) flag]) := by
          simp only [keyUp, skipped.mpr normal, on, off, Bool.not_true, Bool.false_eq_true,
            if_false, Flags.remove_ofModifierFlags (hasNormal_append extra),
            modifyEvent_append _ _ _ normal]
          rfl
        obtain ⟨releases, nodup, mem, result⟩ := ih known' (release held flag) (pushed ++
          [changeEvent autogenId keyboardType (release held flag) flag])
        refine ⟨flag :: releases, ?_, ?_, ?_⟩
        · refine List.nodup_cons.mpr ⟨fun again => ?_, nodup⟩
          exact (mem_release.mp ((mem flag).mp again).2.2.1).2 rfl
        · intro other
          rw [List.mem_cons, List.mem_cons, mem, mem_release]
          by_cases same : other = flag
          · subst same
            simp [normal, here, off]
          · simp [same]
        · rw [List.foldl_cons, round, result, List.append_assoc]
          rfl
      · have round : keyUp (Pairs.normal ++ extra) autogenId keyboardType toFlags
            (.ofModifierFlags held, pushed) flag = (.ofModifierFlags held, pushed) := by
          unfold keyUp
          split
          · rfl
          · next taken =>
              have normal := skipped.mp (by simpa using taken)
              rw [Flags.isOn_ofModifierFlags (getRawBits_of_normal normal)]
              by_cases here : flag ∈ held
              · have on : toFlags.isOn flag = true := by
                  by_contra off
                  exact released ⟨normal, here, by simpa using off⟩
                simp [on]
              · simp [here]
        obtain ⟨releases, nodup, mem, result⟩ := ih known' held pushed
        refine ⟨releases, nodup, fun other => ?_, by rw [List.foldl_cons, round, result]⟩
        rw [mem, List.mem_cons]
        constructor
        · rintro ⟨later, rest⟩
          exact ⟨.inr later, rest⟩
        · rintro ⟨rfl | later, rest⟩
          · exact absurd rest released
          · exact ⟨later, rest⟩

/-- The second loop presses what is wanted and not held. -/
theorem foldl_keyDown {flags : List ModifierFlag}
    (known : ∀ flag ∈ flags, flag ∈ Pairs.flags (Pairs.normal ++ extra))
    (held : List ModifierFlag) (pushed : List Pushed) :
    ∃ presses, presses.Nodup ∧
      (∀ flag, flag ∈ presses ↔ flag ∈ flags ∧ flag ∈ Pairs.normal.flags ∧
        flag ∉ held ∧
        toFlags.isOn flag = true) ∧
      flags.foldl (keyDown (Pairs.normal ++ extra) autogenId keyboardType toFlags)
          (.ofModifierFlags held, pushed) =
        (.ofModifierFlags (presses.foldl press held),
          pushed ++ eventsOf autogenId keyboardType press held presses) := by
  induction flags generalizing held pushed with
  | nil => exact ⟨[], by simp, by simp, by simp [eventsOf]⟩
  | cons flag flags ih =>
      have known' : ∀ other ∈ flags, other ∈ Pairs.flags (Pairs.normal ++ extra) :=
        fun other later => known other (List.mem_cons_of_mem _ later)
      have skipped := not_isSkipped_iff virtual (known flag List.mem_cons_self)
      by_cases pressed : flag ∈ Pairs.normal.flags ∧ flag ∉ held ∧ toFlags.isOn flag = true
      · obtain ⟨normal, absent, on⟩ := pressed
        have off : (Flags.ofModifierFlags held).isOn flag = false := by
          rw [Flags.isOn_ofModifierFlags (getRawBits_of_normal normal)]
          simpa using absent
        have round : keyDown (Pairs.normal ++ extra) autogenId keyboardType toFlags
            (.ofModifierFlags held, pushed) flag =
              (.ofModifierFlags (press held flag), pushed ++
                [changeEvent autogenId keyboardType (press held flag) flag]) := by
          simp only [keyDown, skipped.mpr normal, on, off, Bool.not_true, Bool.false_eq_true,
            if_false, Flags.add_ofModifierFlags, modifyEvent_append _ _ _ normal]
          rfl
        obtain ⟨presses, nodup, mem, result⟩ := ih known' (press held flag) (pushed ++
          [changeEvent autogenId keyboardType (press held flag) flag])
        refine ⟨flag :: presses, ?_, ?_, ?_⟩
        · refine List.nodup_cons.mpr ⟨fun again => ?_, nodup⟩
          exact ((mem flag).mp again).2.2.1 (mem_press.mpr (.inr rfl))
        · intro other
          rw [List.mem_cons, List.mem_cons, mem, mem_press]
          by_cases same : other = flag
          · subst same
            simp [normal, absent, on]
          · simp [same]
        · rw [List.foldl_cons, round, result, List.append_assoc]
          rfl
      · have round : keyDown (Pairs.normal ++ extra) autogenId keyboardType toFlags
            (.ofModifierFlags held, pushed) flag = (.ofModifierFlags held, pushed) := by
          unfold keyDown
          split
          · rfl
          · next taken =>
              have normal := skipped.mp (by simpa using taken)
              rw [Flags.isOn_ofModifierFlags (getRawBits_of_normal normal)]
              by_cases here : flag ∈ held
              · simp [here]
              · have off : toFlags.isOn flag = false := by
                  by_contra on
                  exact pressed ⟨normal, here, by simpa using on⟩
                simp [off]
        obtain ⟨presses, nodup, mem, result⟩ := ih known' held pushed
        refine ⟨presses, nodup, fun other => ?_, by rw [List.foldl_cons, round, result]⟩
        rw [mem, List.mem_cons]
        constructor
        · rintro ⟨later, rest⟩
          exact ⟨.inr later, rest⟩
        · rintro ⟨rfl | later, rest⟩
          · exact absurd rest pressed
          · exact ⟨later, rest⟩

end

/-- The modifiers whose bits the loops begin with. -/
def withoutNumpad (toFlags : Flags) (held : List ModifierFlag) : List ModifierFlag :=
  if toFlags.isOn ModifierFlag.NUMPAD then held else release held ModifierFlag.NUMPAD

/-- What moveFlags releases, presses and pushes, and the modifiers that it ends with. -/
structure Moves (autogenId : AutogenId) (keyboardType : KeyboardType) (toFlags : Flags)
    (held : List ModifierFlag) (moved : Flags × List Pushed)
    (releases presses : List ModifierFlag) : Prop where
  releasedOnce : releases.Nodup
  pressedOnce : presses.Nodup
  released : ∀ flag, flag ∈ releases ↔
    flag ∈ Pairs.normal.flags ∧ flag ∈ held ∧ toFlags.isOn flag = false
  pressed : ∀ flag, flag ∈ presses ↔
    flag ∈ Pairs.normal.flags ∧ flag ∉ held ∧ toFlags.isOn flag = true
  pushed : moved.2 =
    eventsOf autogenId keyboardType release (withoutNumpad toFlags held) releases ++
      eventsOf autogenId keyboardType press
        (releases.foldl release (withoutNumpad toFlags held)) presses
  reached : ∃ after, moved.1 = .ofModifierFlags after ∧
    ∀ flag, flag.getRawBits ≠ 0 → (flag ∈ after ↔ toFlags.isOn flag = true)

theorem numpad_not_normal : ModifierFlag.NUMPAD ∉ Pairs.normal.flags := by decide

theorem mem_withoutNumpad {toFlags : Flags} {held : List ModifierFlag} {flag : ModifierFlag}
    (other : flag ≠ ModifierFlag.NUMPAD) :
    flag ∈ withoutNumpad toFlags held ↔ flag ∈ held := by
  unfold withoutNumpad
  split
  · rfl
  · rw [mem_release]
    simp [other]

theorem moveFlags_moves {extra : Pairs} (virtual : extra.AreVirtual) (autogenId : AutogenId)
    (keyboardType : KeyboardType) (toFlags : Flags) (held : List ModifierFlag) :
    ∃ releases presses, Moves autogenId keyboardType toFlags held
      (moveFlags (Pairs.normal ++ extra) autogenId keyboardType
        (Pairs.flags (Pairs.normal ++ extra)) toFlags (.ofModifierFlags held))
      releases presses := by
  have stripped : (if !toFlags.isOn ModifierFlag.NUMPAD then
      (Flags.ofModifierFlags held).remove (Pairs.normal ++ extra) ModifierFlag.NUMPAD
      else .ofModifierFlags held) = .ofModifierFlags (withoutNumpad toFlags held) := by
    unfold withoutNumpad
    cases toFlags.isOn ModifierFlag.NUMPAD
    · exact Flags.remove_ofModifierFlags (hasNormal_append extra) held _
    · rfl
  obtain ⟨releases, releasedOnce, released, first⟩ := foldl_keyUp virtual autogenId
    keyboardType toFlags (fun _ known => known) (withoutNumpad toFlags held) []
  obtain ⟨presses, pressedOnce, pressed, second⟩ := foldl_keyDown virtual autogenId
    keyboardType toFlags (fun _ known => known)
    (releases.foldl release (withoutNumpad toFlags held))
    ([] ++ eventsOf autogenId keyboardType release (withoutNumpad toFlags held) releases)
  have inPairs : ∀ flag ∈ Pairs.normal.flags, flag ∈ Pairs.flags (Pairs.normal ++ extra) :=
    hasNormal_append extra
  have apart : ∀ flag ∈ Pairs.normal.flags, flag ≠ ModifierFlag.NUMPAD := by
    rintro flag normal rfl
    exact numpad_not_normal normal
  have released' : ∀ flag, flag ∈ releases ↔
      flag ∈ Pairs.normal.flags ∧ flag ∈ held ∧ toFlags.isOn flag = false := by
    intro flag
    rw [released]
    constructor
    · rintro ⟨-, normal, here, off⟩
      exact ⟨normal, (mem_withoutNumpad (apart flag normal)).mp here, off⟩
    · rintro ⟨normal, here, off⟩
      exact ⟨inPairs flag normal, normal, (mem_withoutNumpad (apart flag normal)).mpr here, off⟩
  have pressed' : ∀ flag, flag ∈ presses ↔
      flag ∈ Pairs.normal.flags ∧ flag ∉ held ∧ toFlags.isOn flag = true := by
    intro flag
    rw [pressed, mem_foldl_release]
    constructor
    · rintro ⟨-, normal, absent, on⟩
      refine ⟨normal, fun here => absent ⟨?_, ?_⟩, on⟩
      · exact (mem_withoutNumpad (apart flag normal)).mpr here
      · rw [released', on]
        simp
    · rintro ⟨normal, absent, on⟩
      refine ⟨inPairs flag normal, normal, fun here => absent ?_, on⟩
      exact (mem_withoutNumpad (apart flag normal)).mp here.1
  refine ⟨releases, presses, releasedOnce, pressedOnce, released', pressed', ?_, ?_⟩
  · unfold moveFlags
    dsimp only
    rw [stripped, first, second, List.nil_append]
  · refine ⟨if toFlags.isOn ModifierFlag.NUMPAD then
        press (presses.foldl press (releases.foldl release (withoutNumpad toFlags held)))
          ModifierFlag.NUMPAD
      else presses.foldl press (releases.foldl release (withoutNumpad toFlags held)), ?_, ?_⟩
    · unfold moveFlags
      dsimp only
      rw [stripped, first, second]
      split
      · exact Flags.add_ofModifierFlags _ _
      · rfl
    · intro flag raw
      have within : flag ∈ presses.foldl press
          (releases.foldl release (withoutNumpad toFlags held)) ↔
            flag ∈ withoutNumpad toFlags held ∧ flag ∉ releases ∨ flag ∈ presses := by
        rw [mem_foldl_press, mem_foldl_release]
      rcases Flags.mem_normal_or_numpad raw with normal | rfl
      · have same : flag ∈ presses.foldl press
            (releases.foldl release (withoutNumpad toFlags held)) ↔
              toFlags.isOn flag = true := by
          rw [within, mem_withoutNumpad (apart flag normal), released', pressed']
          cases toFlags.isOn flag <;> by_cases here : flag ∈ held <;> simp [normal, here]
        split
        · rw [mem_press, same]
          simp [apart flag normal]
        · exact same
      · cases on : toFlags.isOn ModifierFlag.NUMPAD with
        | true =>
            rw [if_pos rfl, mem_press]
            simp
        | false =>
            rw [if_neg Bool.false_ne_true, within, pressed']
            simp [withoutNumpad, on, mem_release, numpad_not_normal]

/-- fire returns early, or it moves to toFlags and clears what suppresses it. -/
theorem fire_cases (pairs : Pairs) (autogenId : AutogenId) (keyboardType : KeyboardType)
    (status : FlagStatus) (physicalEventType : PhysicalEventType) (toFlags : Flags)
    (modifiers : FireModifiers) :
    ((modifiers.lastFlags_ = toFlags ∨ modifiers.isSuppressed physicalEventType = true) ∧
      fire pairs autogenId keyboardType status physicalEventType toFlags modifiers =
        (modifiers, [])) ∨
    (¬(modifiers.lastFlags_ = toFlags ∨ modifiers.isSuppressed physicalEventType = true) ∧
      ∃ ignored, fire pairs autogenId keyboardType status physicalEventType toFlags modifiers =
        let moved := moveFlags pairs autogenId keyboardType status.flags toFlags
          modifiers.lastFlags_
        (⟨moved.1, ignored⟩, moved.2)) := by
  by_cases same : modifiers.lastFlags_ = toFlags
  · left
    rw [fire, if_pos same]
    exact ⟨.inl same, rfl⟩
  · cases physicalEventType with
    | DOWN =>
        right
        refine ⟨by simp [same, isSuppressed], false, ?_⟩
        rw [fire, if_neg same]
    | UP =>
        cases ignored : modifiers.isIgnorePhysicalUpEvent_ with
        | true =>
            left
            refine ⟨.inr (by simp [isSuppressed, ignored]), ?_⟩
            simp [fire, same, ignored]
        | false =>
            right
            refine ⟨by simp [same, isSuppressed, ignored], false, ?_⟩
            simp [fire, same, ignored]

/-- If the call is not suppressed it ends with toFlags, by one event for each modifier that
differs, the releases first. -/
theorem fire_moves_to_target (extra : Pairs) (virtual : extra.AreVirtual) (status : FlagStatus)
    (reachable : FlagStatus.Reachable (Pairs.normal ++ extra) status)
    (lastFlags toFlags : List ModifierFlag) (isIgnorePhysicalUpEvent : Bool)
    (autogenId : AutogenId) (keyboardType : KeyboardType)
    (physicalEventType : PhysicalEventType) :
    let modifiers : FireModifiers := ⟨.ofModifierFlags lastFlags, isIgnorePhysicalUpEvent⟩
    let fired := fire (Pairs.normal ++ extra) autogenId keyboardType status physicalEventType
      (.ofModifierFlags toFlags) modifiers
    if modifiers.lastFlags_ = .ofModifierFlags toFlags ∨
        modifiers.isSuppressed physicalEventType = true then
      fired.2 = [] ∧ fired.1.lastFlags_ = modifiers.lastFlags_
    else
      fired.1.lastFlags_ = .ofModifierFlags toFlags ∧
        ∃ releases presses : List ModifierFlag, releases.Nodup ∧ presses.Nodup ∧
          (∀ flag, flag ∈ releases ↔
            flag ∈ Pairs.normal.flags ∧ flag ∈ lastFlags ∧ flag ∉ toFlags) ∧
          (∀ flag, flag ∈ presses ↔
            flag ∈ Pairs.normal.flags ∧ flag ∈ toFlags ∧ flag ∉ lastFlags) ∧
          let held :=
            if ModifierFlag.NUMPAD ∈ toFlags then lastFlags
            else release lastFlags ModifierFlag.NUMPAD
          fired.2 = eventsOf autogenId keyboardType release held releases ++
            eventsOf autogenId keyboardType press (releases.foldl release held) presses := by
  intro modifiers fired
  rcases fire_cases (Pairs.normal ++ extra) autogenId keyboardType status physicalEventType
    (.ofModifierFlags toFlags) modifiers with ⟨returns, result⟩ | ⟨goesOn, ignored, result⟩
  · rw [if_pos returns]
    show (fire _ _ _ _ _ _ _).2 = [] ∧ (fire _ _ _ _ _ _ _).1.lastFlags_ = _
    rw [result]
    exact ⟨rfl, rfl⟩
  · rw [if_neg goesOn]
    have isOn : ∀ flag ∈ Pairs.normal.flags,
        (Flags.ofModifierFlags toFlags).isOn flag = decide (flag ∈ toFlags) :=
      fun flag normal => Flags.isOn_ofModifierFlags (getRawBits_of_normal normal) toFlags
    obtain ⟨releases, presses, moves⟩ := moveFlags_moves virtual autogenId keyboardType
      (.ofModifierFlags toFlags) lastFlags
    rw [← reachable.flags_eq] at moves
    have fired_eq : fired = (⟨(moveFlags (Pairs.normal ++ extra) autogenId keyboardType
        status.flags (.ofModifierFlags toFlags) (.ofModifierFlags lastFlags)).1, ignored⟩,
        (moveFlags (Pairs.normal ++ extra) autogenId keyboardType
        status.flags (.ofModifierFlags toFlags) (.ofModifierFlags lastFlags)).2) := result
    rw [fired_eq]
    constructor
    · obtain ⟨after, ends, mem⟩ := moves.reached
      show (moveFlags _ _ _ _ _ _).1 = _
      rw [ends]
      apply Flags.ofModifierFlags_eq
      intro flag raw
      rw [mem flag raw, Flags.isOn_ofModifierFlags raw, decide_eq_true_iff]
    · refine ⟨releases, presses, moves.releasedOnce, moves.pressedOnce, ?_, ?_, ?_⟩
      · intro flag
        rw [moves.released]
        constructor
        · rintro ⟨normal, here, off⟩
          exact ⟨normal, here, by simpa [isOn flag normal] using off⟩
        · rintro ⟨normal, here, off⟩
          exact ⟨normal, here, by simpa [isOn flag normal] using off⟩
      · intro flag
        rw [moves.pressed]
        constructor
        · rintro ⟨normal, absent, on⟩
          exact ⟨normal, by simpa [isOn flag normal] using on, absent⟩
        · rintro ⟨normal, on, absent⟩
          exact ⟨normal, absent, by simpa [isOn flag normal] using on⟩
      · have raw : ModifierFlag.NUMPAD.getRawBits ≠ 0 := by decide
        have pushed := moves.pushed
        simp only [withoutNumpad, Flags.isOn_ofModifierFlags raw, decide_eq_true_eq] at pushed
        exact pushed

/-- From Shift_L and Shift_R to Shift_R and Command_L. -/
theorem fire_moves_to_target_shift :
    ∃ releases presses : List ModifierFlag,
      (fire Pairs.normal 0 ⟨40⟩ (FlagStatus.initialized Pairs.normal) .DOWN
          (.ofModifierFlags [.SHIFT_R, .COMMAND_L])
          ⟨.ofModifierFlags [.SHIFT_L, .SHIFT_R], false⟩).2 =
        eventsOf 0 ⟨40⟩ release [.SHIFT_L, .SHIFT_R] releases ++
          eventsOf 0 ⟨40⟩ press (releases.foldl release [.SHIFT_L, .SHIFT_R]) presses := by
  have virtual : Pairs.AreVirtual [] := by simp [Pairs.AreVirtual]
  have reachable : FlagStatus.Reachable (Pairs.normal ++ [])
      (FlagStatus.initialized (Pairs.normal ++ [])) := ⟨[], rfl⟩
  have moved := fire_moves_to_target [] virtual _ reachable [.SHIFT_L, .SHIFT_R]
    [.SHIFT_R, .COMMAND_L] false 0 ⟨40⟩ .DOWN
  have goesOn : ¬((⟨.ofModifierFlags [.SHIFT_L, .SHIFT_R], false⟩ : FireModifiers).lastFlags_ =
      .ofModifierFlags [.SHIFT_R, .COMMAND_L] ∨
        (⟨.ofModifierFlags [.SHIFT_L, .SHIFT_R], false⟩ : FireModifiers).isSuppressed .DOWN =
          true) := by decide
  dsimp only at moved
  rw [if_neg goesOn] at moved
  obtain ⟨-, releases, presses, -, -, -, -, pushed⟩ := moved
  exact ⟨releases, presses, pushed⟩

end EventOutputQueue.FireModifiers

end Karabiner
