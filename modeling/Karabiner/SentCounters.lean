import Karabiner.Counters
import Karabiner.FireKeyFrame
import Karabiner.ScopedSetter

set_option autoImplicit false

/- What the functions that send an event do to count_ of the modifiers and of the buttons. The
lock of CapsLock is no such counter. -/
namespace Karabiner

open Counters (offset)
open FlagStatus (Method Operation Selection)

/-- A change of count_ for each modifier and for each button. -/
abbrev Net := (ModifierFlag → Int) × (PointingButton → Int)

namespace FlagStatus

def counts (status : FlagStatus) : List (ModifierFlag × Int) :=
  Counters.read (·.flag) (·.count) (fun it => it.flag ≠ ModifierFlag.CAPSLOCK) status.item

theorem counts_onItems {change : ModifierFlag → Int} {f : Item → Item} {status : FlagStatus}
    (same : ∀ it, (f it).flag = it.flag)
    (changed : ∀ it, it.flag ≠ ModifierFlag.CAPSLOCK →
      (f it).count = it.count + change it.flag) :
    (status.onItems f).counts = offset change status.counts := by
  apply Counters.read_map same
  · intro it
    rw [same]
  · intro it counted
    exact changed it (of_decide_eq_true counted)

def Method.step : Method → Int
  | .increase => 1
  | .decrease => -1
  | _ => 0

/-- What a lifted method adds to the counters. -/
def Selection.net (selection : Selection) (step : Int) : ModifierFlag → Int :=
  fun flag => if selection.selects flag then step else 0

@[simp] theorem Selection.net_zero (selection : Selection) : selection.net 0 = 0 := by
  funext flag
  simp [net]

theorem Selection.net_neg (selection : Selection) (step : Int) :
    selection.net (-step) = -selection.net step := by
  funext flag
  by_cases selected : selection.selects flag = true <;> simp [net, selected]

theorem Method.call_count (method : Method) {it : Item}
    (counted : it.flag ≠ ModifierFlag.CAPSLOCK) :
    (method.call it).count = it.count + method.step := by
  cases method <;> simp [Method.call, Method.step, Item.increase, Item.decrease, counted,
    Item.temporaryIncrease, Item.temporaryDecrease, Item.lazyIncrease, Item.lazyDecrease,
    Item.lockIncrease, Item.lockDecrease, Item.lockToggle, Item.negativeLockIncrease,
    Item.negativeLockDecrease, Item.negativeLockToggle, Item.stickyIncrease,
    Item.stickyDecrease, Item.stickyToggle]
  omega

theorem call_counts (method : Method) (selection : Selection) (status : FlagStatus) :
    (status.call method selection).counts =
      offset (selection.net method.step) status.counts := by
  apply counts_onItems
  · intro it
    split <;> simp
  · intro it counted
    unfold Selection.net
    split
    · exact method.call_count counted
    · omega

theorem set_counts (status : FlagStatus) : status.set.counts = status.counts := by
  have changed := @counts_onItems 0 Item.set status (fun _ => rfl) fun it _ =>
    (Int.add_zero it.count).symm
  rwa [Counters.offset_zero] at changed

/-- What a loop of increase over a list of modifiers adds. -/
def flagsNet (flags : List ModifierFlag) : ModifierFlag → Int :=
  (flags.map fun flag => (Selection.flag flag).net 1).sum

theorem foldl_increase_counts (flags : List ModifierFlag) (status : FlagStatus) :
    (flags.foldl (fun status flag => status.increase (.flag flag)) status).counts =
      offset (flagsNet flags) status.counts := by
  induction flags generalizing status with
  | nil => exact (Counters.offset_zero _).symm
  | cons flag flags ih =>
      have here : (status.increase (.flag flag)).counts = _ :=
        call_counts .increase (.flag flag) status
      rw [List.foldl_cons, ih, here, Counters.offset_offset]
      rfl

theorem foldl_decrease_counts (flags : List ModifierFlag) (status : FlagStatus) :
    (flags.foldl (fun status flag => status.decrease (.flag flag)) status).counts =
      offset (-flagsNet flags) status.counts := by
  induction flags generalizing status with
  | nil =>
      show status.counts = offset (-0) status.counts
      rw [neg_zero, Counters.offset_zero]
  | cons flag flags ih =>
      have here : (status.decrease (.flag flag)).counts = _ :=
        call_counts .decrease (.flag flag) status
      have sum : flagsNet (flag :: flags) = (Selection.flag flag).net 1 + flagsNet flags := rfl
      rw [List.foldl_cons, ih, here, Counters.offset_offset, sum, neg_add, Method.step,
        Selection.net_neg]

theorem construct_counts (status newval : FlagStatus) :
    (ScopedSetter.construct status newval).2.counts =
      offset (-flagsNet (status.subtract newval) + flagsNet (newval.subtract status))
        status.counts := by
  unfold ScopedSetter.construct
  dsimp only
  rw [foldl_increase_counts, foldl_decrease_counts, Counters.offset_offset]

theorem destruct_counts (setter : ScopedSetter) (status : FlagStatus) :
    (setter.destruct status).counts =
      offset (flagsNet setter.added + -flagsNet setter.removed) status.counts := by
  unfold ScopedSetter.destruct
  dsimp only
  rw [foldl_decrease_counts, foldl_increase_counts, Counters.offset_offset]

theorem reset_counts (status : FlagStatus) :
    status.reset.counts = Counters.zeroed status.counts :=
  Counters.read_zeroed (fun _ => rfl) (fun _ => rfl) fun _ => rfl

/-- The operation changes count_ of a modifier. -/
def Operation.counting : Operation → Bool
  | .call method _ => method.step ≠ 0
  | .setKey _ _ | .reset => true
  | _ => false

theorem perform_counts {operation : Operation} (quiet : operation.counting = false)
    (pairs : Pairs) (status : FlagStatus) :
    (status.perform pairs operation).counts = status.counts := by
  have kept (it : Item) (counted : it.flag ≠ ModifierFlag.CAPSLOCK) :
      (operation.onItem pairs it).count = it.count + (0 : ModifierFlag → Int) it.flag := by
    show _ = it.count + 0
    rw [Int.add_zero]
    cases operation with
    | call method selection =>
        have still : method.step = 0 := by simpa [Operation.counting] using quiet
        show (if selection.selects it.flag then method.call it else it).count = it.count
        split
        · rw [method.call_count counted, still, Int.add_zero]
        · rfl
    | setKey | reset => cases quiet
    | set | stickyClear | lazyEnable => rfl
    | stickyActiveModifiersToggle | stickyActiveModifiersIncrease
    | stickyActiveModifiersDecrease | lockClear | negativeLockClear =>
        simp only [Operation.onItem]
        split <;> rfl
    | lazyDisableIfOff =>
        simp only [Operation.onItem, Item.lazyDisableIfOff]
        split <;> rfl
  have changed : (status.onItems (operation.onItem pairs)).counts = offset 0 status.counts :=
    counts_onItems (operation.onItem_flag pairs) kept
  rwa [Counters.offset_zero, ← perform_eq_onItems] at changed

theorem counts_of_via {pairs : Pairs} {allowed : Operation → Prop} {before after : FlagStatus}
    (via : Transition.Via (perform pairs) allowed before after)
    (quiet : ∀ operation, allowed operation → operation.counting = false) :
    after.counts = before.counts :=
  via.induction (fun before after : FlagStatus => after.counts = before.counts) (fun _ => rfl)
    (fun _ _ _ first second => Eq.trans second first)
    fun status operation permitted => perform_counts (quiet operation permitted) pairs status

/-- The modifier that an event of a key sets. -/
def keyNet (pairs : Pairs) (key : KeyCode) (flags : Flags) : ModifierFlag → Int :=
  fun flag =>
    if key ≠ pairs.getKeyCode flag .KEYCODE then 0 else if flags.isOn flag then 1 else -1

theorem setKey_counts (pairs : Pairs) (key : KeyCode) (flags : Flags) (status : FlagStatus) :
    (status.setKey pairs key flags).counts = offset (keyNet pairs key flags) status.counts := by
  apply counts_onItems (Item.setKey_flag pairs key flags)
  intro it counted
  simp only [Item.setKey, keyNet, if_neg counted]
  split
  · exact (Int.add_zero _).symm
  · split
    · exact Method.call_count .increase counted
    · exact Method.call_count .decrease counted

end FlagStatus

namespace ButtonStatus

def counts (status : ButtonStatus) : List (PointingButton × Int) :=
  Counters.read (·.button) (·.count) (fun _ => true) status.item

theorem counts_onItems {change : PointingButton → Int} {f : Item → Item} {status : ButtonStatus}
    (same : ∀ it, (f it).button = it.button)
    (changed : ∀ it, (f it).count = it.count + change it.button) :
    (status.onItems f).counts = offset change status.counts :=
  Counters.read_map same (fun _ => rfl) fun it _ => changed it

/-- What FOREACH_TO_BUTTONS adds for the buttons. -/
def net (buttons : Buttons) : PointingButton → Int :=
  fun button => if buttons.isOn (.ofButton button) then 1 else 0

theorem increase_counts (buttons : Buttons) (status : ButtonStatus) :
    (status.increase buttons).counts = offset (net buttons) status.counts := by
  apply counts_onItems
  · intro it
    split <;> rfl
  · intro it
    unfold net
    split
    · rfl
    · omega

theorem decrease_counts (buttons : Buttons) (status : ButtonStatus) :
    (status.decrease buttons).counts = offset (-net buttons) status.counts := by
  apply counts_onItems
  · intro it
    split <;> rfl
  · intro it
    show _ = it.count + -net buttons it.button
    unfold net
    split
    · rfl
    · omega

/-- The methods for the locks. -/
theorem foreachToButtons_counts {method : Item → Item} (buttons : Buttons)
    (status : ButtonStatus) (same : ∀ it, (method it).button = it.button)
    (kept : ∀ it, (method it).count = it.count) :
    (status.foreachToButtons method buttons).counts = status.counts := by
  have changed : (status.foreachToButtons method buttons).counts = offset 0 status.counts := by
    apply counts_onItems
    · intro it
      split
      · exact same it
      · rfl
    · intro it
      show _ = it.count + 0
      split
      · rw [kept it, Int.add_zero]
      · rw [Int.add_zero]
  rwa [Counters.offset_zero] at changed

theorem lockClear_counts (status : ButtonStatus) : status.lockClear.counts = status.counts :=
  foreachToButtons_counts _ status (fun _ => rfl) fun _ => rfl

theorem lockToggle_counts (buttons : Buttons) (status : ButtonStatus) :
    (status.lockToggle buttons).counts = status.counts :=
  foreachToButtons_counts buttons status (fun _ => rfl) fun _ => rfl

theorem reset_counts (status : ButtonStatus) :
    status.reset.counts = Counters.zeroed status.counts :=
  Counters.read_zeroed (fun _ => rfl) (fun _ => rfl) fun _ => rfl

/-- The button that an event of the mouse sets. -/
def setNet (button : PointingButton) (isbuttondown : Bool) : PointingButton → Int :=
  fun other => if other ≠ button then 0 else if isbuttondown then 1 else -1

theorem set_counts (button : PointingButton) (isbuttondown : Bool) (status : ButtonStatus) :
    (status.set button isbuttondown).counts = offset (setNet button isbuttondown)
    status.counts := by
  apply counts_onItems
  · intro it
    unfold Item.set
    split
    · rfl
    · split <;> rfl
  · intro it
    unfold Item.set setNet
    split
    · exact (Int.add_zero _).symm
    · split <;> rfl

end ButtonStatus

namespace Settings

variable {settings : Settings}

theorem operations_quiet {key : KeyCode} {operation : Operation}
    (performed : operation ∈ settings.operations key) : operation.counting = false := by
  unfold operations at performed
  rcases List.mem_append.1 performed with first | all
  · rcases List.mem_append.1 first with lazy | rows
    · simp only [List.mem_cons, List.not_mem_nil, or_false] at lazy
      rcases lazy with rfl | rfl <;> rfl
    · obtain ⟨row, member, rfl⟩ := List.mem_map.1 rows
      have steps : ∀ row ∈ VirtualKey.VK_LOCK.methods ++ VirtualKey.VK_STICKY.methods,
          row.2.step = 0 := by decide
      simp [Operation.counting, steps row member]
  · obtain ⟨row, member, rfl⟩ := List.mem_map.1 all
    have listed := (List.mem_filter.1 member).1
    simp only [VirtualKey.VK_LOCK.operations, VirtualKey.VK_STICKY.operations, List.mem_append,
      List.mem_cons, List.not_mem_nil, or_false] at listed
    rcases listed with (rfl | rfl) | (rfl | rfl | rfl | rfl) <;> rfl

theorem SendsKey.quiet {key : KeyCode} {operation : Operation}
    (sends : settings.SendsKey key operation) : operation.counting = false := by
  rcases sends with sticky | ⟨sent, -, performed⟩
  · cases sticky
    rfl
  · exact operations_quiet performed

theorem Sends.quiet {operation : Operation} (sends : Sends operation) :
    operation.counting = false := by
  cases sends
  rfl

end Settings

namespace EventOutputQueue

variable {settings : Settings}

theorem fireOutputKey_buttonStatus (autogenId : AutogenId) (physicalEventType : PhysicalEventType)
    (params : KeyboardEventCallBack) (output : Output) :
    (fireOutputKey settings autogenId physicalEventType params output).buttonStatus =
      output.buttonStatus := by
  unfold fireOutputKey
  extract_lets normalized renamed newkeycode modifierFlag isUp newflags readied pushed
  have modifiers : readied.buttonStatus = output.buttonStatus := by
    unfold readied
    split
    · rfl
    · refine (fireModifiers_leavesKeys _ _ _ _ _).buttonStatus.trans ?_
      split <;> rfl
  have queued : pushed.buttonStatus = output.buttonStatus :=
    (push_pushes _ autogenId readied).buttonStatus.trans modifiers
  split
  · rfl
  · split
    · rfl
    · split
      · split
        · exact queued
        · split
          · unfold PressDownKeys.add
            split
            · exact queued
            · exact queued
          · exact queued
      · exact modifiers

end EventOutputQueue

/-- count_ of the buttons stays. -/
def Output.KeepsButtons (before after : Output) : Prop :=
  after.buttonStatus.counts = before.buttonStatus.counts

theorem Output.keepsButtons_frame (settings : Settings) :
    Output.Frame settings Output.KeepsButtons where
  leaves := fun leaves => congrArg ButtonStatus.counts leaves.buttonStatus
  trans := fun left right => Eq.trans right left

namespace VirtualKey.VK_MOUSEKEY

open EventOutputQueue
open Output (KeepsButtons keepsButtons_frame SameSent)

variable {settings : Settings}

/-- The keys of the buttons. -/
def buttonKeys : List KeyCode := buttons.map (·.1)

theorem mem_buttonKeys {key : KeyCode} (button : getPointingButton key ≠ PointingButton.NONE) :
    key ∈ buttonKeys := by
  unfold getPointingButton at button
  cases found : buttons.lookup key with
  | none =>
      rw [found] at button
      exact absurd rfl button
  | some other =>
      obtain ⟨before, after, split, -⟩ := List.lookup_eq_some_iff.1 found
      unfold buttonKeys
      rw [split]
      simp

/-- The other functions of VK_MOUSEKEY change at most the locks. -/
theorem handle_keepsButtons (call : FireKeyCall)
    (other : getPointingButton call.params.key = PointingButton.NONE) (output : Output) :
    KeepsButtons output (handle settings call output).1 := by
  have pressed {change : ButtonStatus → ButtonStatus}
      (kept : ∀ status : ButtonStatus, (change status).counts = status.counts) (output : Output) :
      KeepsButtons output (fireRelativePointer settings call.autogenId call.physicalEventType
        (output.onButtonStatus change).makeButtons 0 0 (output.onButtonStatus change)) := by
    have fired := (keepsButtons_frame settings).leaves (fireRelativePointer_leavesKeys
      call.autogenId call.physicalEventType (output.onButtonStatus change).makeButtons 0 0
      (output.onButtonStatus change))
    exact Eq.trans fired (kept output.buttonStatus)
  refine firstHandled_related call _ (keepsButtons_frame settings) fun handle member output => ?_
  simp only [List.mem_cons, List.not_mem_nil, or_false] at member
  rcases member with rfl | rfl | rfl | rfl | rfl
  · unfold handle_button
    extract_lets button change
    rw [if_pos other]
    exact (keepsButtons_frame settings).refl output
  · unfold handle_move
    dsimp only
    split
    · exact (keepsButtons_frame settings).refl output
    · split
      · exact (keepsButtons_frame settings).refl output
      · exact (keepsButtons_frame settings).leaves
          (SameSent.leavesKeys ⟨rfl, rfl, rfl, rfl⟩ rfl rfl)
  · unfold handle_fixeddistancemove
    split
    · exact (keepsButtons_frame settings).refl output
    · split
      · exact (keepsButtons_frame settings).leaves
          (fireRelativePointer_leavesKeys _ _ _ _ _ output)
      · exact (keepsButtons_frame settings).refl output
  · unfold handle_fixeddistancescroll
    split
    · exact (keepsButtons_frame settings).refl output
    · split
      · exact (keepsButtons_frame settings).leaves
          (SameSent.leavesKeys ⟨rfl, rfl, rfl, rfl⟩ rfl rfl)
      · exact (keepsButtons_frame settings).refl output
  · unfold handle_lock_button
    split
    · exact pressed ButtonStatus.lockClear_counts output
    · extract_lets button
      split
      · exact (keepsButtons_frame settings).refl output
      · split
        · exact (keepsButtons_frame settings).refl output
        · exact pressed (ButtonStatus.lockToggle_counts _) output

end VirtualKey.VK_MOUSEKEY

/-- No key of a mouse button is given to a configuration or to a modifier too. -/
structure Settings.ButtonKeysApart (settings : Settings) : Prop where
  config : ∀ key ∈ VirtualKey.VK_MOUSEKEY.buttonKeys, ∀ item ∈ settings.vkConfig,
    key ∉ [item.keycodeToggle, item.keycodeForceOn, item.keycodeForceOff,
      item.keycodeSyncKeydownup]
  modifier : ∀ key ∈ VirtualKey.VK_MOUSEKEY.buttonKeys, ∀ pair ∈ settings.pairs, ∀ type,
    pair.keyCode type ≠ key

namespace Settings.ButtonKeysApart

open VirtualKey VirtualKey.VK_MOUSEKEY

variable {settings : Settings} {key : KeyCode}

theorem getModifierFlag_eq (apart : settings.ButtonKeysApart) (member : key ∈ buttonKeys)
    (type : KeyCodeType) : settings.pairs.getModifierFlag key type = ModifierFlag.ZERO := by
  have unfound : settings.pairs.find? (·.keyCode type = key) = none := by
    rw [List.find?_eq_none]
    intro pair registered same
    exact apart.modifier key member pair registered type (of_decide_eq_true same)
  unfold Pairs.getModifierFlag
  rw [unfound]

theorem modifyFlagStatus_eq (apart : settings.ButtonKeysApart) {call : FireKeyCall}
    (member : call.params.key ∈ buttonKeys) (output : Output)
    (rows : List (KeyCodeType × FlagStatus.Method)) :
    modifyFlagStatus settings call output rows = none := by
  induction rows with
  | nil => rfl
  | cons row rows ih =>
      unfold modifyFlagStatus
      dsimp only
      rw [if_pos (apart.getModifierFlag_eq member row.1), ih]

/-- The functions before VK_MOUSEKEY do not handle the key of a button. -/
theorem firstHandled_eq (apart : settings.ButtonKeysApart) {call : FireKeyCall}
    (member : call.params.key ∈ buttonKeys) (output : Output)
    (rest : List (FireKeyCall → Output → Output × Bool)) :
    firstHandled ([VK_CONFIG.handle settings, VK_CONSUMERKEY.handle settings,
        fun _ => VK_DEFINED_IN_USERSPACE.handle, fun _ => VK_IOHIDPOSTEVENT.handle,
        VK_IOHIKEYBOARD_TOGGLE_NUMLOCK.handle, VK_KEYTOKEY_DELAYED_ACTION_DROP_EVENT.handle,
        VK_LAZY.handle, VK_LOCK.handle settings] ++ rest) call output =
      firstHandled rest call output := by
  have config : VK_CONFIG.handle settings call output = (output, false) := by
    have unfound : (settings.vkConfig.find? fun item => call.params.key = item.keycodeToggle ||
        call.params.key = item.keycodeForceOn || call.params.key = item.keycodeForceOff ||
        call.params.key = item.keycodeSyncKeydownup) = none := by
      rw [List.find?_eq_none]
      intro item listed found
      have other := apart.config _ member item listed
      simp only [List.mem_cons, List.not_mem_nil, or_false, not_or] at other
      simp [other] at found
    unfold VK_CONFIG.handle
    dsimp only
    rw [unfound]
  have consumer : VK_CONSUMERKEY.handle settings call output = (output, false) := by
    have unlisted : ∀ key ∈ buttonKeys, VK_CONSUMERKEY.consumerKeys.lookup key = none := by
      decide
    unfold VK_CONSUMERKEY.handle
    rw [unlisted _ member]
  have numlock : VK_IOHIKEYBOARD_TOGGLE_NUMLOCK.handle call output = (output, false) := by
    have distinct : ∀ key ∈ buttonKeys,
        key ≠ KeyCode.VK_IOHIKEYBOARD_TOGGLE_NUMLOCK := by decide
    simp [VK_IOHIKEYBOARD_TOGGLE_NUMLOCK.handle, distinct _ member]
  have dropped : VK_KEYTOKEY_DELAYED_ACTION_DROP_EVENT.handle call output = (output, false) := by
    have distinct : ∀ key ∈ buttonKeys,
        key ≠ KeyCode.VK_KEYTOKEY_DELAYED_ACTION_DROP_EVENT := by decide
    simp [VK_KEYTOKEY_DELAYED_ACTION_DROP_EVENT.handle, distinct _ member]
  have lazy : VK_LAZY.handle call output = (output, false) := by
    have unlisted : ∀ key ∈ buttonKeys, VK_LAZY.getModifierFlag key = ModifierFlag.ZERO := by
      decide
    unfold VK_LAZY.handle
    dsimp only
    rw [if_pos (unlisted _ member)]
  have locked : VK_LOCK.handle settings call output = (output, false) := by
    have distinct : ∀ key ∈ buttonKeys, key ≠ KeyCode.VK_LOCK_ALL_FORCE_OFF ∧
        key ≠ KeyCode.VK_NEGATIVE_LOCK_ALL_FORCE_OFF := by decide
    obtain ⟨lock, negativeLock⟩ := distinct _ member
    simp [VK_LOCK.handle, remapped, apart.modifyFlagStatus_eq member, VK_LOCK.operations, modifyAll,
      lock, negativeLock]
  simp [firstHandled, config, consumer, numlock, dropped, lazy, locked,
    VK_DEFINED_IN_USERSPACE.handle, VK_IOHIDPOSTEVENT.handle]

end Settings.ButtonKeysApart

namespace EventOutputQueue

open VirtualKey VirtualKey.VK_MOUSEKEY
open Output (KeepsButtons keepsButtons_frame)

variable {settings : Settings}

theorem fireKey_counts (call : FireKeyCall) (output : Output) :
    (fireKey settings call output).flagStatus.counts = output.flagStatus.counts :=
  FlagStatus.counts_of_via (fireKey_changes settings call output) fun _ sends => sends.quiet

theorem fireKey_keepsButtons {call : FireKeyCall}
    (other : getPointingButton call.params.key = PointingButton.NONE) (output : Output) :
    KeepsButtons output (fireKey settings call output) :=
  fireKeyAt_related (keepsButtons_frame settings)
    (fun key => getPointingButton key = PointingButton.NONE) (by decide)
    (fun call other output => handle_keepsButtons call other output)
    (fun _ output => congrArg ButtonStatus.counts (fireOutputKey_buttonStatus _ _ _ output)) 3 call
    other output

/-- The key of a button counts it. -/
theorem fireKey_button (apart : settings.ButtonKeysApart) {call : FireKeyCall}
    (button : getPointingButton call.params.key ≠ PointingButton.NONE)
    (single : call.params.isRepeat = false) (output : Output) :
    (fireKey settings call output).buttonStatus =
      (if call.params.ex_iskeydown then ButtonStatus.increase else ButtonStatus.decrease)
        (.ofButton (getPointingButton call.params.key)) output.buttonStatus := by
  have passed := apart.firstHandled_eq (mem_buttonKeys button) output
    [VK_MOUSEKEY.handle settings, VK_PARTIAL.handle settings (fireKeyAt settings 2),
      VK_STICKY.handle settings, VK_WAIT.handle,
      VK_JIS_BACKSLASH.handle settings (fireKeyAt settings 2),
      VK_JIS_TOGGLE_EISUU_KANA.handle settings (fireKeyAt settings 2),
      VK_JIS_YEN.handle settings (fireKeyAt settings 2)]
  have handled : firstHandled (handles settings (fireKeyAt settings 2)) call output = _ := passed
  unfold fireKey fireKeyAt
  rw [handled]
  simp only [firstHandled, VK_MOUSEKEY.handle, handle_button, button, if_false, single,
    Bool.false_eq_true]
  exact (@fireRelativePointer_leavesKeys settings _ _ _ _ _ _).buttonStatus

end EventOutputQueue

namespace Output

/-- count_ of every modifier and of every button changes by the net. -/
structure Shifts (net : Net) (before after : Output) : Prop where
  flags : after.flagStatus.counts = offset net.1 before.flagStatus.counts
  buttons : after.buttonStatus.counts = offset net.2 before.buttonStatus.counts

theorem Shifts.refl (output : Output) : Shifts 0 output output :=
  ⟨(Counters.offset_zero _).symm, (Counters.offset_zero _).symm⟩

theorem Shifts.trans {first second : Net} {before middle after : Output}
    (left : Shifts first before middle) (right : Shifts second middle after) :
    Shifts (first + second) before after := by
  constructor
  · rw [right.flags, left.flags, Counters.offset_offset]
    rfl
  · rw [right.buttons, left.buttons, Counters.offset_offset]
    rfl

end Output

end Karabiner
