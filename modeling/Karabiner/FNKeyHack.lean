import Karabiner.FireModifiers
import Karabiner.Transition
import Mathlib.Data.List.Chain
import Mathlib.Data.List.Find

set_option autoImplicit false

/- KeyCode::normalizeKey and reverseNormalizeKey. Each row of the table remembers whether its
key went down with FN, once for all keyboards. -/
namespace Karabiner

structure FNKeyHack where
  fromKeyCode_ : KeyCode
  toKeyCode_ : KeyCode
  active_normalize_ : Bool
  active_reverse_ : Bool
  deriving DecidableEq, Repr

namespace FNKeyHack

def new (fromKeyCode toKeyCode : KeyCode) : FNKeyHack := ⟨fromKeyCode, toKeyCode, false, false⟩

/-- From the event's key to the one of FN, or back. -/
inductive Direction where
  | normalize
  | reverse
  deriving DecidableEq, Repr

namespace Direction

def source : Direction → FNKeyHack → KeyCode
  | .normalize, row => row.fromKeyCode_
  | .reverse, row => row.toKeyCode_

def target : Direction → FNKeyHack → KeyCode
  | .normalize, row => row.toKeyCode_
  | .reverse, row => row.fromKeyCode_

def active : Direction → FNKeyHack → Bool
  | .normalize, row => row.active_normalize_
  | .reverse, row => row.active_reverse_

def setActive : Direction → FNKeyHack → Bool → FNKeyHack
  | .normalize, row, newval => { row with active_normalize_ := newval }
  | .reverse, row, newval => { row with active_reverse_ := newval }

end Direction

/-- Nothing where it returns false, else the new key and what active is set to. -/
def remap (pairs : Pairs) (key : KeyCode) (flags : Flags) (eventType : EventType)
    (active : Bool) (fromKeyCode toKeyCode : KeyCode) : Option (KeyCode × Bool) :=
  if key ≠ fromKeyCode then none
  else if eventType.isKeyDownOrModifierDown pairs key flags then
    if !flags.isOn ModifierFlag.FN then none else some (toKeyCode, true)
  else if !active then none
  else some (toKeyCode, false)

def remapAs (direction : Direction) (pairs : Pairs) (key : KeyCode) (flags : Flags)
    (eventType : EventType) (row : FNKeyHack) : Option (KeyCode × FNKeyHack) :=
  (remap pairs key flags eventType (direction.active row) (direction.source row)
    (direction.target row)).map fun remapped => (remapped.1, direction.setActive row remapped.2)

def normalize : Pairs → KeyCode → Flags → EventType → FNKeyHack →
    Option (KeyCode × FNKeyHack) :=
  remapAs .normalize

def reverse : Pairs → KeyCode → Flags → EventType → FNKeyHack →
    Option (KeyCode × FNKeyHack) :=
  remapAs .reverse

/-- The loop over the rows ends with the first that returns true. -/
def firstRow (key : KeyCode) (step : FNKeyHack → Option (KeyCode × FNKeyHack)) :
    List FNKeyHack → KeyCode × List FNKeyHack
  | [] => (key, [])
  | row :: rows =>
      match step row with
      | some (key, row) => (key, row :: rows)
      | none =>
          let rest := firstRow key step rows
          (rest.1, row :: rest.2)

end FNKeyHack

namespace KeyCode

def fnkeyhack : List FNKeyHack :=
  [.new PAGEUP CURSOR_UP, .new PAGEDOWN CURSOR_DOWN, .new HOME CURSOR_LEFT,
    .new END CURSOR_RIGHT, .new ENTER RETURN, .new FORWARD_DELETE DELETE]

structure Normalized where
  key : KeyCode
  flags : Flags
  rows : List FNKeyHack
  deriving DecidableEq, Repr

def normalizeKey (pairs : Pairs) (key : KeyCode) (flags : Flags) (eventType : EventType)
    (rows : List FNKeyHack) : Normalized :=
  let flags := flags.stripNUMPAD pairs
  let normalized := FNKeyHack.firstRow key (FNKeyHack.normalize pairs key flags eventType) rows
  ⟨normalized.1, flags, normalized.2⟩

/-- KEYPAD_CLEAR and KEYPAD_COMMA have no NUMPAD bit. -/
def numpadKeys : List KeyCode :=
  [KEYPAD_0, KEYPAD_1, KEYPAD_2, KEYPAD_3, KEYPAD_4, KEYPAD_5, KEYPAD_6, KEYPAD_7, KEYPAD_8,
    KEYPAD_9, KEYPAD_DOT, KEYPAD_MULTIPLY, KEYPAD_PLUS, KEYPAD_SLASH, KEYPAD_MINUS,
    KEYPAD_EQUAL]

def cursorKeys : List KeyCode := [CURSOR_UP, CURSOR_DOWN, CURSOR_LEFT, CURSOR_RIGHT]

def reverseNormalizeKey (pairs : Pairs) (key : KeyCode) (flags : Flags) (eventType : EventType)
    (rows : List FNKeyHack) : Normalized :=
  let reversed := FNKeyHack.firstRow key (FNKeyHack.reverse pairs key flags eventType) rows
  let flags := flags.stripNUMPAD pairs
  let flags := if reversed.1 ∈ numpadKeys then flags.add ModifierFlag.NUMPAD else flags
  let flags := if reversed.1 ∈ cursorKeys then flags.add ModifierFlag.NUMPAD else flags
  ⟨reversed.1, flags, reversed.2⟩

end KeyCode

/-- A key event of a keyboard, as the hardware sends it. -/
structure KeyEvent where
  keyboard : Nat
  eventType : EventType
  flags : Flags
  key : KeyCode
  deriving DecidableEq, Repr

namespace KeyEvent

def isKeyDown (pairs : Pairs) (event : KeyEvent) : Bool :=
  event.eventType.isKeyDownOrModifierDown pairs event.key event.flags

def hasFN (event : KeyEvent) : Bool := event.flags.isOn ModifierFlag.FN

end KeyEvent

namespace FNKeyHack

open KeyCode (normalizeKey reverseNormalizeKey fnkeyhack)

section
variable (pairs : Pairs)

def normalizeStep (rows : List FNKeyHack) (event : KeyEvent) : List FNKeyHack :=
  (normalizeKey pairs event.key event.flags event.eventType rows).rows

def reverseStep (rows : List FNKeyHack) (event : KeyEvent) : List FNKeyHack :=
  (reverseNormalizeKey pairs event.key event.flags event.eventType rows).rows

/-- The key code that an event gets after others. -/
def normalizedKey (history : List KeyEvent) (event : KeyEvent) : KeyCode :=
  (normalizeKey pairs event.key event.flags event.eventType
    (Transition.run (normalizeStep pairs) fnkeyhack history)).key

def reversedKey (history : List KeyEvent) (event : KeyEvent) : KeyCode :=
  (reverseNormalizeKey pairs event.key event.flags event.eventType
    (Transition.run (reverseStep pairs) fnkeyhack history)).key

/-- down is the key-down of the press that up ends. same tells which events belong to one key. -/
structure Press (same : KeyEvent → KeyEvent → Prop) (down : KeyEvent) (between : List KeyEvent)
    (up : KeyEvent) : Prop where
  isDown : down.isKeyDown pairs = true
  isUp : up.isKeyDown pairs = false
  together : same down up
  held : ∀ event ∈ between, ¬same event up

/-- Each key-up gets the key code of the key-down of its press. -/
def Paired (same : KeyEvent → KeyEvent → Prop) (keyOf : List KeyEvent → KeyEvent → KeyCode)
    (events : List KeyEvent) : Prop :=
  ∀ history down between up after, events = history ++ down :: (between ++ up :: after) →
    Press pairs same down between up → keyOf (history ++ down :: between) up = keyOf history down

/-- The key was pressed with FN since it was last released, on whatever keyboard. -/
def PressedWithFN (key : KeyCode) (history : List KeyEvent) : Prop :=
  ∃ before press after, history = before ++ press :: after ∧ press.key = key ∧
    press.isKeyDown pairs = true ∧ press.hasFN = true ∧
      ∀ event ∈ after, event.key = key → event.isKeyDown pairs = true

end

def SameInput (first second : KeyEvent) : Prop :=
  first.keyboard = second.keyboard ∧ first.key = second.key

/-- The output has one stream of events for all keyboards. -/
def SameOutput (first second : KeyEvent) : Prop := first.key = second.key

section
variable (direction : Direction) (pairs : Pairs)

/-- What an event leaves in the row of its key. -/
def remember (down hasFN : Bool) (key : KeyCode) (row : FNKeyHack) : FNKeyHack :=
  if direction.source row = key then
    direction.setActive row (if down then direction.active row || hasFN else false)
  else row

@[simp] theorem source_setActive (row : FNKeyHack) (newval : Bool) :
    direction.source (direction.setActive row newval) = direction.source row := by
  cases direction <;> rfl

@[simp] theorem target_setActive (row : FNKeyHack) (newval : Bool) :
    direction.target (direction.setActive row newval) = direction.target row := by
  cases direction <;> rfl

@[simp] theorem active_setActive (row : FNKeyHack) (newval : Bool) :
    direction.active (direction.setActive row newval) = newval := by
  cases direction <;> rfl

@[simp] theorem setActive_setActive (row : FNKeyHack) (first second : Bool) :
    direction.setActive (direction.setActive row first) second =
      direction.setActive row second := by
  cases direction <;> rfl

@[simp] theorem setActive_active (row : FNKeyHack) :
    direction.setActive row (direction.active row) = row := by
  cases direction <;> rfl

variable (key : KeyCode) (flags : Flags) (eventType : EventType)

/-- The row of the key rewrites a key-down with FN, and a key-up while it is active. -/
def rewrites (down hasFN : Bool) (key : KeyCode) (row : FNKeyHack) : Bool :=
  decide (direction.source row = key) && (if down then hasFN else direction.active row)

theorem remapAs_eq (row : FNKeyHack) :
    remapAs direction pairs key flags eventType row =
      if rewrites direction (eventType.isKeyDownOrModifierDown pairs key flags)
          (flags.isOn ModifierFlag.FN) key row then
        some (direction.target row,
          remember direction (eventType.isKeyDownOrModifierDown pairs key flags)
            (flags.isOn ModifierFlag.FN) key row)
      else none := by
  by_cases own : direction.source row = key
  · cases down : eventType.isKeyDownOrModifierDown pairs key flags <;>
      cases hasFN : flags.isOn ModifierFlag.FN <;>
      cases active : direction.active row <;>
      simp [remapAs, remap, remember, rewrites, own, down, hasFN, active]
  · have other : key ≠ direction.source row := fun same => own same.symm
    simp [remapAs, remap, rewrites, own, other]

theorem remember_of_other {row : FNKeyHack} (down hasFN : Bool)
    (other : direction.source row ≠ key) : remember direction down hasFN key row = row :=
  if_neg other

/-- A row that does not rewrite is left as it is. -/
theorem remember_of_not_rewrites {row : FNKeyHack} {down hasFN : Bool}
    (kept : rewrites direction down hasFN key row = false) :
    remember direction down hasFN key row = row := by
  by_cases own : direction.source row = key
  · have same : (if down then direction.active row || hasFN else false) =
        direction.active row := by
      cases down <;> cases hasFN <;> simp_all [rewrites]
    rw [remember, if_pos own, same, setActive_active]
  · exact remember_of_other direction key down hasFN own

/-- The loop rewrites with the row of the key, and that row alone remembers the event. -/
theorem firstRow_eq {rows : List FNKeyHack} (distinct : (rows.map direction.source).Nodup) :
    let down := eventType.isKeyDownOrModifierDown pairs key flags
    let hasFN := flags.isOn ModifierFlag.FN
    firstRow key (remapAs direction pairs key flags eventType) rows =
      (((rows.find? (rewrites direction down hasFN key)).map direction.target).getD key,
        rows.map (remember direction down hasFN key)) := by
  intro down hasFN
  induction rows with
  | nil => rfl
  | cons row rows ih =>
      obtain ⟨fresh, distinct'⟩ := List.nodup_cons.mp distinct
      have rest := ih distinct'
      rw [firstRow, remapAs_eq, List.map_cons, List.find?_cons]
      cases rewritten : rewrites direction down hasFN key row with
      | false =>
          rw [if_neg Bool.false_ne_true]
          dsimp only
          rw [rest, remember_of_not_rewrites direction key rewritten]
      | true =>
          rw [if_pos rfl]
          have own : direction.source row = key := by
            rw [rewrites, Bool.and_eq_true, decide_eq_true_iff] at rewritten
            exact rewritten.1
          have others : rows.map (remember direction down hasFN key) = rows.map id := by
            apply List.map_congr_left
            intro other member
            apply remember_of_other
            intro equal
            exact fresh (own ▸ equal ▸ List.mem_map_of_mem member)
          rw [others, List.map_id]
          rfl

theorem source_remember (down hasFN : Bool) (row : FNKeyHack) :
    direction.source (remember direction down hasFN key row) = direction.source row := by
  unfold remember
  split
  · exact source_setActive direction row _
  · rfl

end

section
variable (direction : Direction) (pairs : Pairs)

/-- What the row of a key remembers after some events, if it began with the given value. -/
def latch (key : KeyCode) (active : Bool) (history : List KeyEvent) : Bool :=
  history.foldl
    (fun active event =>
      if key = event.key then
        if event.isKeyDown pairs then active || event.hasFN else false
      else active)
    active

theorem pressedWithFN_cons (key : KeyCode) (event : KeyEvent) (history : List KeyEvent) :
    PressedWithFN pairs key (event :: history) ↔
      (event.key = key ∧ event.isKeyDown pairs = true ∧ event.hasFN = true ∧
        ∀ later ∈ history, later.key = key → later.isKeyDown pairs = true) ∨
      PressedWithFN pairs key history := by
  constructor
  · rintro ⟨before, press, after, split_, own, down, hasFN, held⟩
    cases before with
    | nil =>
        rw [List.nil_append, List.cons.injEq] at split_
        obtain ⟨rfl, rfl⟩ := split_
        exact .inl ⟨own, down, hasFN, held⟩
    | cons first before =>
        rw [List.cons_append, List.cons.injEq] at split_
        obtain ⟨rfl, rfl⟩ := split_
        exact .inr ⟨before, press, after, rfl, own, down, hasFN, held⟩
  · rintro (⟨own, down, hasFN, held⟩ | ⟨before, press, after, rfl, own, down, hasFN, held⟩)
    · exact ⟨[], event, history, rfl, own, down, hasFN, held⟩
    · exact ⟨event :: before, press, after, rfl, own, down, hasFN, held⟩

theorem latch_iff (key : KeyCode) (active : Bool) (history : List KeyEvent) :
    latch pairs key active history = true ↔
      PressedWithFN pairs key history ∨
        (active = true ∧ ∀ event ∈ history, event.key = key →
          event.isKeyDown pairs = true) := by
  induction history generalizing active with
  | nil => simp [latch, PressedWithFN]
  | cons event history ih =>
      have step : latch pairs key active (event :: history) =
          latch pairs key (if key = event.key then
            if event.isKeyDown pairs then active || event.hasFN else false else active)
            history := rfl
      rw [step, ih, pressedWithFN_cons, List.forall_mem_cons]
      by_cases own : key = event.key
      · subst own
        cases event.isKeyDown pairs <;> cases event.hasFN <;> cases active <;> simp <;> tauto
      · have other : ¬event.key = key := fun same => own same.symm
        simp [own, other]

/-- Each row remembers the events of its own key. -/
theorem run_rows {step : List FNKeyHack → KeyEvent → List FNKeyHack}
    (isStep : ∀ rows event, (rows.map direction.source).Nodup →
      step rows event =
        rows.map (remember direction (event.isKeyDown pairs) event.hasFN event.key))
    {rows : List FNKeyHack} (distinct : (rows.map direction.source).Nodup)
    (history : List KeyEvent) :
    Transition.run step rows history = rows.map fun row =>
      direction.setActive row
        (latch pairs (direction.source row) (direction.active row) history) := by
  induction history generalizing rows with
  | nil => simp [latch]
  | cons event history ih =>
      have sources : (rows.map (remember direction (event.isKeyDown pairs) event.hasFN
          event.key)).map direction.source = rows.map direction.source := by
        rw [List.map_map]
        exact List.map_congr_left fun row _ => source_remember direction event.key _ _ row
      rw [Transition.run_cons, isStep rows event distinct, ih (by rwa [sources]), List.map_map]
      apply List.map_congr_left
      intro row _
      by_cases own : direction.source row = event.key
      · simp [remember, own, latch]
      · simp [remember, own, latch]

/-- The key code that the table gives for a key whose row rewrites, or does not. -/
def rewritten (key : KeyCode) (rewrites : Bool) : KeyCode :=
  ((fnkeyhack.find? fun row => decide (direction.source row = key) && rewrites).map
    direction.target).getD key

theorem rewritten_injective {key : KeyCode}
    (listed : ∃ row ∈ fnkeyhack, direction.source row = key)
    {first second : Bool}
    (same : rewritten direction key first = rewritten direction key second) :
    first = second := by
  obtain ⟨row, member, rfl⟩ := listed
  have each : ∀ direction, ∀ row ∈ fnkeyhack, ∀ first second : Bool,
      rewritten direction (direction.source row) first =
        rewritten direction (direction.source row) second → first = second := by
    intro direction
    cases direction <;> decide
  exact each direction row member first second same

theorem rewritten_of_unlisted {key : KeyCode}
    (unlisted : ¬∃ row ∈ fnkeyhack, direction.source row = key) (rewrites : Bool) :
    rewritten direction key rewrites = key := by
  have absent : (fnkeyhack.find? fun row =>
      decide (direction.source row = key) && rewrites) = none := by
    rw [List.find?_eq_none]
    intro row member taken
    rw [Bool.and_eq_true, decide_eq_true_iff] at taken
    exact unlisted ⟨row, member, taken.1⟩
  rw [rewritten, absent]
  rfl

/-- The key code that the loop gives, where the rows have remembered the events so far. -/
theorem firstRow_run {step : List FNKeyHack → KeyEvent → List FNKeyHack}
    (isStep : ∀ rows event, (rows.map direction.source).Nodup →
      step rows event =
        rows.map (remember direction (event.isKeyDown pairs) event.hasFN event.key))
    (history : List KeyEvent) (down hasFN : Bool) (key : KeyCode) :
    ((((Transition.run step fnkeyhack history).find?
        (rewrites direction down hasFN key)).map direction.target).getD key) =
      rewritten direction key (if down then hasFN else latch pairs key false history) := by
  have distinct : (fnkeyhack.map direction.source).Nodup := by cases direction <;> decide
  have idle : ∀ row ∈ fnkeyhack, direction.active row = false := by cases direction <;> decide
  rw [run_rows direction pairs isStep distinct, List.find?_map, Option.map_map, rewritten]
  have targets : (direction.target ∘ fun row => direction.setActive row
      (latch pairs (direction.source row) (direction.active row) history)) =
        direction.target := by
    funext row
    exact target_setActive direction row _
  have found : fnkeyhack.find? (rewrites direction down hasFN key ∘ fun row =>
      direction.setActive row (latch pairs (direction.source row) (direction.active row)
        history)) =
      fnkeyhack.find? fun row => decide (direction.source row = key) &&
        if down then hasFN else latch pairs key false history := by
    apply List.find?_congr
    intro row member
    by_cases own : direction.source row = key
    · simp [rewrites, own, idle row member]
    · simp [rewrites, own]
  rw [targets, found]

end

section
variable (direction : Direction) (pairs : Pairs)

/-- For each press of a key of the table, FN was on at its key-down if and only if the key was
pressed with FN since it was last released. -/
def RemembersFN (together : KeyEvent → KeyEvent → Prop) (events : List KeyEvent) : Prop :=
  ∀ history down between up after, events = history ++ down :: (between ++ up :: after) →
    Press pairs together down between up →
    (∃ row ∈ fnkeyhack, direction.source row = up.key) →
      (down.hasFN = true ↔ PressedWithFN pairs up.key (history ++ down :: between))

theorem paired_iff {together : KeyEvent → KeyEvent → Prop}
    (sameKey : ∀ first second, together first second → first.key = second.key)
    {keyOf : List KeyEvent → KeyEvent → KeyCode}
    (isKeyOf : ∀ history event, keyOf history event =
      rewritten direction event.key
        (if event.isKeyDown pairs then event.hasFN else latch pairs event.key false history))
    (events : List KeyEvent) :
    Paired pairs together keyOf events ↔ RemembersFN direction pairs together events := by
  have each : ∀ history down between up, Press pairs together down between up →
      (keyOf (history ++ down :: between) up = keyOf history down ↔
        ((∃ row ∈ fnkeyhack, direction.source row = up.key) →
          (down.hasFN = true ↔ PressedWithFN pairs up.key (history ++ down :: between)))) := by
    intro history down between up press
    have key := sameKey down up press.together
    have remembers : latch pairs up.key false (history ++ down :: between) = true ↔
        PressedWithFN pairs up.key (history ++ down :: between) := by
      rw [latch_iff]
      simp
    rw [isKeyOf, isKeyOf, press.isUp, press.isDown, key, if_pos rfl, if_neg Bool.false_ne_true,
      ← remembers]
    by_cases listed : ∃ row ∈ fnkeyhack, direction.source row = up.key
    · constructor
      · intro same _
        rw [rewritten_injective direction listed same]
      · intro agree
        have equal : latch pairs up.key false (history ++ down :: between) = down.hasFN :=
          Bool.eq_iff_iff.mpr (agree listed).symm
        rw [equal]
    · rw [rewritten_of_unlisted direction listed, rewritten_of_unlisted direction listed]
      simp [listed]
  constructor
  · intro paired history down between up after split_ press
    exact (each history down between up press).mp (paired history down between up after split_
      press)
  · intro remembers history down between up after split_ press
    exact (each history down between up press).mpr (remembers history down between up after
      split_ press)

end

section
variable {pairs : Pairs}

theorem flags_ne_numpad {extra : Pairs} (virtual : extra.AreVirtual) (key : KeyCode) :
    Pairs.getModifierFlag (Pairs.normal ++ extra) key .KEYCODE ≠ ModifierFlag.NUMPAD := by
  have normal : ∀ pair ∈ Pairs.normal, pair.modifierFlag ≠ ModifierFlag.NUMPAD := by decide
  unfold Pairs.getModifierFlag
  split
  · next pair found =>
      rcases List.mem_append.mp (List.mem_of_find?_eq_some found) with here | later
      · exact normal pair here
      · intro numpad
        have zero := virtual pair later
        rw [numpad] at zero
        exact absurd zero (by decide)
  · decide

/-- Stripping NUMPAD changes neither whether an event is a key-down nor whether FN is on. -/
theorem strip_keeps {extra : Pairs} (virtual : extra.AreVirtual) (event : KeyEvent) :
    event.eventType.isKeyDownOrModifierDown (Pairs.normal ++ extra) event.key
        (event.flags.stripNUMPAD (Pairs.normal ++ extra)) =
      event.isKeyDown (Pairs.normal ++ extra) ∧
    (event.flags.stripNUMPAD (Pairs.normal ++ extra)).isOn ModifierFlag.FN = event.hasFN := by
  constructor
  · rw [KeyEvent.isKeyDown, EventType.isKeyDownOrModifierDown, EventType.isKeyDownOrModifierDown,
      Flags.isOn_stripNUMPAD _ _ (flags_ne_numpad virtual event.key)]
  · exact Flags.isOn_stripNUMPAD _ _ (by decide)

theorem normalizedKey_eq {extra : Pairs} (virtual : extra.AreVirtual) (history : List KeyEvent)
    (event : KeyEvent) :
    normalizedKey (Pairs.normal ++ extra) history event =
      rewritten .normalize event.key
        (if event.isKeyDown (Pairs.normal ++ extra) then event.hasFN
          else latch (Pairs.normal ++ extra) event.key false history) := by
  have isStep : ∀ rows event, (rows.map Direction.normalize.source).Nodup →
      normalizeStep (Pairs.normal ++ extra) rows event =
        rows.map (remember .normalize (event.isKeyDown (Pairs.normal ++ extra)) event.hasFN
          event.key) := by
    intro rows event distinct
    obtain ⟨down, hasFN⟩ := strip_keeps virtual event
    show (firstRow _ (remapAs .normalize _ _ _ _) rows).2 = _
    rw [firstRow_eq .normalize _ _ _ _ distinct, down, hasFN]
  have distinct : ((Transition.run (normalizeStep (Pairs.normal ++ extra)) fnkeyhack history).map
      Direction.normalize.source).Nodup := by
    rw [run_rows .normalize _ isStep (by decide), List.map_map]
    exact (by decide : (fnkeyhack.map Direction.normalize.source).Nodup)
  obtain ⟨down, hasFN⟩ := strip_keeps virtual event
  show (firstRow _ (remapAs .normalize _ _ _ _) _).1 = _
  rw [firstRow_eq .normalize _ _ _ _ distinct, down, hasFN]
  exact firstRow_run .normalize _ isStep history _ _ event.key

theorem reversedKey_eq (pairs : Pairs) (history : List KeyEvent) (event : KeyEvent) :
    reversedKey pairs history event =
      rewritten .reverse event.key
        (if event.isKeyDown pairs then event.hasFN else latch pairs event.key false history) := by
  have isStep : ∀ rows event, (rows.map Direction.reverse.source).Nodup →
      reverseStep pairs rows event =
        rows.map (remember .reverse (event.isKeyDown pairs) event.hasFN event.key) := by
    intro rows event distinct
    show (firstRow _ (remapAs .reverse _ _ _ _) rows).2 = _
    rw [firstRow_eq .reverse _ _ _ _ distinct]
    rfl
  have distinct : ((Transition.run (reverseStep pairs) fnkeyhack history).map
      Direction.reverse.source).Nodup := by
    rw [run_rows .reverse _ isStep (by decide), List.map_map]
    exact (by decide : (fnkeyhack.map Direction.reverse.source).Nodup)
  show (firstRow _ (remapAs .reverse _ _ _ _) _).1 = _
  rw [firstRow_eq .reverse _ _ _ _ distinct]
  exact firstRow_run .reverse _ isStep history _ _ event.key

end

/-- The key-downs and key-ups of each output key alternate. -/
def AlternatingOutput (pairs : Pairs) (events : List KeyEvent) : Prop :=
  ∀ key, ((events.filter (·.key = key)).map (KeyEvent.isKeyDown pairs)).IsChain (· ≠ ·)

/-- In front of a key-down of alternating events, its key is not held. -/
theorem AlternatingOutput.not_pressedWithFN {pairs : Pairs} {history rest : List KeyEvent}
    {down : KeyEvent} (alternating : AlternatingOutput pairs (history ++ down :: rest))
    (isDown : down.isKeyDown pairs = true) : ¬PressedWithFN pairs down.key history := by
  rintro ⟨before, press, after, rfl, own, pressed, -, held⟩
  have chain := alternating down.key
  simp only [List.filter_append, List.filter_cons, own, decide_true, if_true, List.append_assoc,
    List.cons_append, List.map_append, List.map_cons, isDown, pressed] at chain
  have twice := (List.isChain_append.mp chain).2.1
  cases later : after.filter (·.key = down.key) with
  | nil =>
      rw [later, List.map_nil, List.nil_append, List.isChain_cons_cons] at twice
      exact twice.1 rfl
  | cons next more =>
      have member : next ∈ after.filter (·.key = down.key) := by
        rw [later]
        exact List.mem_cons_self
      obtain ⟨inside, sameKey⟩ := List.mem_filter.mp member
      have nextDown := held next inside (by simpa using sameKey)
      rw [later, List.map_cons, List.cons_append, List.isChain_cons_cons, nextDown] at twice
      exact twice.1 rfl

theorem AlternatingOutput.remembersFN {pairs : Pairs} {events : List KeyEvent}
    (alternating : AlternatingOutput pairs events) :
    RemembersFN .reverse pairs SameOutput events := by
  intro history down between up after split_ press _
  have key : down.key = up.key := press.together
  rw [split_] at alternating
  have idle := alternating.not_pressedWithFN press.isDown
  constructor
  · intro hasFN
    refine ⟨history, down, between, rfl, key, press.isDown, hasFN, ?_⟩
    intro event member same
    exact absurd same (press.held event member)
  · rintro ⟨before, pressed, later, same, own, isDown, hasFN, held⟩
    rcases List.append_eq_append_iff.mp same with ⟨more, rfl, here⟩ | ⟨more, rfl, here⟩
    · cases more with
      | nil =>
          rw [List.nil_append, List.cons.injEq] at here
          rw [here.1]
          exact hasFN
      | cons first more =>
          rw [List.cons_append, List.cons.injEq] at here
          have inside : pressed ∈ between := by simp [here.2]
          exact absurd own (press.held pressed inside)
    · cases more with
      | nil =>
          rw [List.nil_append, List.cons.injEq] at here
          rw [← here.1]
          exact hasFN
      | cons first more =>
          rw [List.cons_append, List.cons.injEq] at here
          obtain ⟨rfl, rfl⟩ := here
          refine absurd ⟨before, pressed, more, rfl, own.trans key.symm, isDown, hasFN, ?_⟩ idle
          intro event member sameKey
          exact held event (List.mem_append_left _ member) (sameKey.trans key)

/-- normalizeKey pairs the downs and ups of every keyboard if and only if FN was on at a
key-down exactly where the key was pressed with FN since its last release on any keyboard.
reverseNormalizeKey always does, since the output is one stream. -/
theorem normalizeKey_paired_iff (extra : Pairs) (virtual : extra.AreVirtual)
    (events outputs : List KeyEvent)
    (alternating : AlternatingOutput (Pairs.normal ++ extra) outputs) :
    (Paired (Pairs.normal ++ extra) SameInput (normalizedKey (Pairs.normal ++ extra)) events ↔
      RemembersFN .normalize (Pairs.normal ++ extra) SameInput events) ∧
    Paired (Pairs.normal ++ extra) SameOutput (reversedKey (Pairs.normal ++ extra)) outputs := by
  constructor
  · exact paired_iff .normalize _ (fun _ _ together => together.2) (normalizedKey_eq virtual)
      events
  · exact (paired_iff .reverse _ (fun _ _ together => together) (reversedKey_eq _) outputs).mpr
      alternating.remembersFN

/-- PageUp on a keyboard. -/
def pageUp (keyboard : Nat) (eventType : EventType) (flags : Flags) : KeyEvent :=
  ⟨keyboard, eventType, flags, .PAGEUP⟩

/-- The cursor key up, as it is sent. -/
def cursorUp (eventType : EventType) (flags : Flags) : KeyEvent :=
  ⟨0, eventType, flags, .CURSOR_UP⟩

theorem normalizeKey_paired_iff_press :
    (Paired Pairs.normal SameInput (normalizedKey Pairs.normal)
        [pageUp 1 .DOWN ⟨0x800000⟩, pageUp 1 .UP ⟨0⟩] ↔
      RemembersFN .normalize Pairs.normal SameInput
        [pageUp 1 .DOWN ⟨0x800000⟩, pageUp 1 .UP ⟨0⟩]) ∧
    Paired Pairs.normal SameOutput (reversedKey Pairs.normal)
      [cursorUp .DOWN ⟨0x800000⟩, cursorUp .UP ⟨0⟩] := by
  have virtual : Pairs.AreVirtual [] := by simp [Pairs.AreVirtual]
  have alternating : AlternatingOutput (Pairs.normal ++ [])
      [cursorUp .DOWN ⟨0x800000⟩, cursorUp .UP ⟨0⟩] := by
    intro key
    by_cases own : KeyCode.CURSOR_UP = key
    · subst own
      decide
    · simp [cursorUp, own]
  exact normalizeKey_paired_iff [] virtual _ _ alternating

/-- It is the key PageUp with FN, down and up. -/
example : reversedKey Pairs.normal [] (cursorUp .DOWN ⟨0x800000⟩) = .PAGEUP ∧
    reversedKey Pairs.normal [cursorUp .DOWN ⟨0x800000⟩] (cursorUp .UP ⟨0⟩) = .PAGEUP := by
  decide

/-- The key-downs and key-ups of each key of each keyboard alternate. -/
def AlternatingInput (pairs : Pairs) (events : List KeyEvent) : Prop :=
  ∀ keyboard key, ((events.filter fun event => event.keyboard = keyboard ∧
    event.key = key).map (KeyEvent.isKeyDown pairs)).IsChain (· ≠ ·)

/-- While PageUp is held with FN on one keyboard it is pressed without FN on another. -/
theorem shared_row_mispairs :
    ¬∀ events, AlternatingInput Pairs.normal events →
      Paired Pairs.normal SameInput (normalizedKey Pairs.normal) events := by
  intro claim
  have alternating : AlternatingInput Pairs.normal
      [pageUp 1 .DOWN ⟨0x800000⟩, pageUp 2 .DOWN ⟨0⟩, pageUp 2 .UP ⟨0⟩] := by
    intro keyboard key
    have apart : ¬(1 = keyboard ∧ 2 = keyboard) := by omega
    by_cases first : 1 = keyboard <;> by_cases second : 2 = keyboard <;>
      by_cases own : KeyCode.PAGEUP = key <;>
      simp_all [pageUp, KeyEvent.isKeyDown, EventType.isKeyDownOrModifierDown, EventType.DOWN,
        EventType.UP, EventType.MODIFY]
  have press : Press Pairs.normal SameInput (pageUp 2 .DOWN ⟨0⟩) [] (pageUp 2 .UP ⟨0⟩) :=
    ⟨by decide, by decide, ⟨rfl, rfl⟩, by simp⟩
  have same := claim _ alternating [pageUp 1 .DOWN ⟨0x800000⟩] (pageUp 2 .DOWN ⟨0⟩) []
    (pageUp 2 .UP ⟨0⟩) [] rfl press
  exact absurd same (by decide)

end FNKeyHack

end Karabiner
