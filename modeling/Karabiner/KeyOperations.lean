import Karabiner.ToEvent
import Karabiner.Via

set_option autoImplicit false

/- What the functions that send an event do to the FlagStatus: which of its operations they can
perform, for the key that is sent. -/
namespace Karabiner

open FlagStatus (Operation)
open Transition (Via)

/-- The keys that FireKey::fire puts in the place of a virtual key. -/
def VirtualKey.replacements : List KeyCode :=
  [.BACKSLASH, .JIS_YEN, NewKeyCode.unset.keyCode, .JIS_EISUU, .JIS_KANA]

namespace Settings

variable (settings : Settings)

/-- The operations of VK_LAZY, of VK_LOCK and of VK_STICKY for one key. -/
def operations (key : KeyCode) : List Operation :=
  [.call .lazyIncrease (.flag (VirtualKey.VK_LAZY.getModifierFlag key)),
    .call .lazyDecrease (.flag (VirtualKey.VK_LAZY.getModifierFlag key))] ++
  ((VirtualKey.VK_LOCK.methods ++ VirtualKey.VK_STICKY.methods).map fun row =>
    .call row.2 (.flag (settings.pairs.getModifierFlag key row.1))) ++
  ((VirtualKey.VK_LOCK.operations ++ VirtualKey.VK_STICKY.operations).filter
    (·.1 = key)).map (·.2)

/-- An event is sent without more than the end of the sticky modifiers. -/
def Sends (operation : Operation) : Prop := operation = .stickyClear

/-- FireKey::fire is called for the key. -/
def SendsKey (key : KeyCode) (operation : Operation) : Prop :=
  Sends operation ∨
    ∃ sent ∈ key :: VirtualKey.replacements, operation ∈ settings.operations sent

/-- The run that leads from the FlagStatus of one output to that of another. -/
def Changes (allowed : Operation → Prop) (before after : Output) : Prop :=
  Via (FlagStatus.perform settings.pairs) allowed before.flagStatus after.flagStatus

theorem SendsKey.of_replacement {settings : Settings} {key sent : KeyCode} {operation : Operation}
    (replaced : sent ∈ VirtualKey.replacements) (sends : settings.SendsKey sent operation) :
    settings.SendsKey key operation := by
  rcases sends with sticky | ⟨other, member, performed⟩
  · exact .inl sticky
  · refine .inr ⟨other, List.mem_cons_of_mem key ?_, performed⟩
    cases List.mem_cons.1 member with
    | inl same => exact same ▸ replaced
    | inr inner => exact inner

end Settings

namespace EventOutputQueue

open Settings

variable {settings : Settings}

/-- Fields other than the FlagStatus do not matter. -/
theorem changes_of_eq {allowed : Operation → Prop} {before after : Output}
    (same : after.flagStatus = before.flagStatus) : settings.Changes allowed before after := by
  rw [Changes, same]
  exact Via.refl _

theorem push_changes (params : Params) (autogenId : AutogenId) (output : Output) :
    settings.Changes Sends output (push params autogenId output) := by
  unfold push
  by_cases clears : clearsSticky params = true
  · rw [if_pos clears]
    have performed : Via (FlagStatus.perform settings.pairs) Sends output.flagStatus
        (output.flagStatus.perform settings.pairs .stickyClear) := Via.single rfl
    exact performed
  · rw [if_neg clears]
    exact changes_of_eq rfl

variable (autogenId : AutogenId) (physicalEventType : PhysicalEventType)

theorem fireModifiers_changes (toFlags : Flags) (keyboardType : KeyboardType) (output : Output) :
    settings.Changes Sends output
      (fireModifiers settings autogenId physicalEventType toFlags keyboardType output) := by
  exact Via.foldl Output.flagStatus (fun pushed _ output => push_changes _ _ output) _

theorem fireCurrentModifiers_changes (output : Output) :
    settings.Changes Sends output
      (fireCurrentModifiers settings autogenId physicalEventType output) :=
  fireModifiers_changes autogenId physicalEventType _ _ output

theorem fireConsumer_changes (params : KeyboardSpecialEventCallback) (output : Output) :
    settings.Changes Sends output
      (fireConsumer settings autogenId physicalEventType params output) := by
  unfold fireConsumer
  split
  · exact changes_of_eq rfl
  · refine Via.trans (Via.trans ?_ (fireCurrentModifiers_changes autogenId physicalEventType _))
      (push_changes _ _ _)
    apply changes_of_eq
    split <;> rfl

theorem fireRelativePointer_changes (toButtons : Buttons) (dx dy : Int) (output : Output) :
    settings.Changes Sends output
      (fireRelativePointer settings autogenId physicalEventType toButtons dx dy output) := by
  -- Every one of the four parts is left out in one of its cases.
  have modifiers (skipped : Bool) (output : Output) : settings.Changes Sends output
      (if skipped then output else fireCurrentModifiers settings autogenId physicalEventType
        output) := by
    cases skipped
    · exact fireCurrentModifiers_changes autogenId physicalEventType output
    · exact changes_of_eq rfl
  have lastModifiers (released : Bool) (output : Output) : settings.Changes Sends output
      (if released then fireCurrentModifiers settings autogenId physicalEventType output
        else output) := by
    cases released
    · exact changes_of_eq rfl
    · exact fireCurrentModifiers_changes autogenId physicalEventType output
  have buttons (output : Output) : settings.Changes Sends output
      (if output.lastButtons_ ≠ toButtons then
        push (.relativePointer ⟨toButtons, 0, 0, .NONE, false⟩) autogenId
          { output with lastButtons_ := toButtons }
      else output) := by
    split
    · exact push_changes _ _ { output with lastButtons_ := toButtons }
    · exact changes_of_eq rfl
  have moved (output : Output) : settings.Changes Sends output
      (if dx ≠ 0 ∨ dy ≠ 0 then
        push (.relativePointer ⟨toButtons, dx, dy, .NONE, false⟩) autogenId output
      else output) := by
    split
    · exact push_changes _ _ output
    · exact changes_of_eq rfl
  unfold fireRelativePointer
  have first := modifiers (!(output.lastButtons_.remove toButtons).isNONE)
    (output.setIgnorePhysicalUpEvent false)
  exact ((first.trans (buttons _)).trans (moved _)).trans (lastModifiers _ _)

theorem pressDownKeys_add_flagStatus (key : KeyCode) (keyboardType : KeyboardType)
    (output : Output) : (PressDownKeys.add key keyboardType output).flagStatus =
    output.flagStatus := by
  unfold PressDownKeys.add
  split <;> rfl

theorem fireOutputKey_changes (params : KeyboardEventCallBack) (output : Output) :
    settings.Changes Sends output
      (fireOutputKey settings autogenId physicalEventType params output) := by
  unfold fireOutputKey
  extract_lets normalized renamed newkeycode modifierFlag isUp newflags readied pushed
  have start : settings.Changes Sends output renamed := changes_of_eq rfl
  have modifiers : settings.Changes Sends renamed readied := by
    unfold readied
    split
    · exact Via.refl _
    · refine Via.trans ?_ (fireModifiers_changes autogenId physicalEventType _ _ _)
      apply changes_of_eq
      split <;> rfl
  have queued : settings.Changes Sends readied pushed := push_changes _ _ readied
  split
  · exact start
  · split
    · exact start
    · split
      · have whole := (start.trans modifiers).trans queued
        split
        · exact whole
        · split
          · refine whole.trans (changes_of_eq ?_)
            exact pressDownKeys_add_flagStatus _ _ pushed
          · exact whole.trans (changes_of_eq rfl)
      · exact start.trans modifiers

end EventOutputQueue

namespace VirtualKey

open EventOutputQueue Settings

variable {settings : Settings} (call : FireKeyCall) (output : Output)

theorem Sends.sendsKey {key : KeyCode} {before after : Output}
    (changes : settings.Changes Sends before after) :
    settings.Changes (settings.SendsKey key) before after :=
  changes.mono fun _ sends => .inl sends

/-- One of the operations of the key that is sent. -/
theorem changes_operation {operation : Operation} {key : KeyCode} {before after : Output}
    (known : operation ∈ settings.operations key)
    (performed : after.flagStatus = before.flagStatus.perform settings.pairs operation) :
    settings.Changes (settings.SendsKey key) before after := by
  have permitted : settings.SendsKey key operation := .inr ⟨key, List.mem_cons_self, known⟩
  rw [Settings.Changes, performed]
  exact Via.single permitted

theorem vk_config_changes :
    settings.Changes Sends output (VK_CONFIG.handle settings call output).1 := by
  have set (remapclass : Nat) (newval : Bool) :
      settings.Changes Sends output (VK_CONFIG.setEnabled remapclass newval output) :=
    changes_of_eq rfl
  unfold VK_CONFIG.handle
  extract_lets key
  split
  · exact Via.refl _
  · split
    · exact Via.refl _
    · split
      · split
        · exact set _ _
        · exact Via.refl _
      · split
        · split
          · exact set _ _
          · exact Via.refl _
        · split
          · split
            · exact set _ _
            · exact Via.refl _
          · exact (set _ _).trans (fireCurrentModifiers_changes _ _ _)

theorem vk_consumerkey_changes :
    settings.Changes Sends output (VK_CONSUMERKEY.handle settings call output).1 := by
  unfold VK_CONSUMERKEY.handle
  split
  · exact Via.refl _
  · split
    · exact Via.refl _
    · exact fireConsumer_changes _ _ _ output

theorem vk_lazy_changes :
    settings.Changes (settings.SendsKey call.params.key) output (VK_LAZY.handle call output).1 := by
  unfold VK_LAZY.handle
  extract_lets f
  split
  · exact Via.refl _
  · split
    · exact Via.refl _
    · split
      · have known : .call .lazyIncrease (.flag f) ∈ settings.operations call.params.key := by
          simp [operations, f]
        exact changes_operation known rfl
      · split
        · have known : .call .lazyDecrease (.flag f) ∈ settings.operations call.params.key := by
            simp [operations, f]
          exact changes_operation known rfl
        · exact Via.refl _

/-- What the rows of VK_LOCK and of VK_STICKY do, before the modifiers are sent. -/
theorem modifyFlagStatus_changes {rows : List (KeyCodeType × FlagStatus.Method)}
    {modified : Output}
    (known : ∀ row ∈ rows, row ∈ VK_LOCK.methods ++ VK_STICKY.methods)
    (handled : modifyFlagStatus settings call output rows = some modified) :
    settings.Changes (settings.SendsKey call.params.key) output modified := by
  induction rows with
  | nil => exact absurd handled (by simp [modifyFlagStatus])
  | cons row rows ih =>
      obtain ⟨type, method⟩ := row
      have rest := fun other member => known other (List.mem_cons_of_mem _ member)
      simp only [modifyFlagStatus] at handled
      split at handled
      · exact ih rest handled
      · split at handled
        · cases handled
          have performed :
              .call method (.flag (settings.pairs.getModifierFlag call.params.key type)) ∈
              settings.operations call.params.key := by
            refine List.mem_append_left _ (List.mem_append_right _ ?_)
            exact List.mem_map.2 ⟨_, known _ List.mem_cons_self, rfl⟩
          exact changes_operation performed rfl
        · cases handled
          exact Via.refl _

theorem modifyAll_changes {rows : List (KeyCode × Operation)} {modified : Output}
    (known : ∀ row ∈ rows, row ∈ VK_LOCK.operations ++ VK_STICKY.operations)
    (handled : modifyAll settings call output rows = some modified) :
    settings.Changes (settings.SendsKey call.params.key) output modified := by
  induction rows with
  | nil => exact absurd handled (by simp [modifyAll])
  | cons row rows ih =>
      obtain ⟨keycode, operation⟩ := row
      have rest := fun other member => known other (List.mem_cons_of_mem _ member)
      simp only [modifyAll] at handled
      split at handled
      · exact ih rest handled
      · next sameKey =>
        split at handled
        · cases handled
          have same : keycode = call.params.key := (not_not.1 sameKey).symm
          have performed : operation ∈ settings.operations call.params.key := by
            refine List.mem_append_right _ (List.mem_map.2 ⟨(keycode, operation), ?_, rfl⟩)
            exact List.mem_filter.2 ⟨known _ List.mem_cons_self, by simpa using same⟩
          exact changes_operation performed rfl
        · cases handled
          exact Via.refl _

theorem remapped_changes {methods : List (KeyCodeType × FlagStatus.Method)}
    {all : List (KeyCode × Operation)}
    (knownMethods : ∀ row ∈ methods, row ∈ VK_LOCK.methods ++ VK_STICKY.methods)
    (knownAll : ∀ row ∈ all, row ∈ VK_LOCK.operations ++ VK_STICKY.operations) :
    settings.Changes (settings.SendsKey call.params.key) output
      (remapped settings call ((modifyFlagStatus settings call output methods).or
        (modifyAll settings call output all)) output).1 := by
  unfold remapped
  split
  · next modified handled =>
    refine Via.trans ?_ (Sends.sendsKey (fireCurrentModifiers_changes _ _ modified))
    cases first : modifyFlagStatus settings call output methods with
    | some other =>
        have same : other = modified := by simpa [first] using handled
        exact same ▸ modifyFlagStatus_changes call output knownMethods first
    | none =>
        rw [first, Option.none_or] at handled
        exact modifyAll_changes call output knownAll handled
  · exact Via.refl _

theorem vk_lock_changes :
    settings.Changes (settings.SendsKey call.params.key) output
      (VK_LOCK.handle settings call output).1 :=
  remapped_changes call output (fun _ => List.mem_append_left _) fun _ => List.mem_append_left _

theorem vk_sticky_changes :
    settings.Changes (settings.SendsKey call.params.key) output
      (VK_STICKY.handle settings call output).1 :=
  remapped_changes call output (fun _ => List.mem_append_right _) fun _ => List.mem_append_right _

theorem firstHandled_changes {allowed : Operation → Prop}
    {handles : List (FireKeyCall → Output → Output × Bool)}
    (each : ∀ handle ∈ handles, ∀ output, settings.Changes allowed output
      (handle call output).1) :
    settings.Changes allowed output (firstHandled handles call output).1 := by
  induction handles generalizing output with
  | nil => exact Via.refl _
  | cons handle handles ih =>
      have here := each handle List.mem_cons_self output
      have rest := fun other member => each other (List.mem_cons_of_mem _ member)
      unfold firstHandled
      split
      · next handled result => rwa [result] at here
      · next unhandled result =>
        rw [result] at here
        exact here.trans (ih _ rest)

theorem handle_move_changes :
    settings.Changes Sends output (VK_MOUSEKEY.handle_move settings call output).1 := by
  unfold VK_MOUSEKEY.handle_move
  dsimp only
  split
  · exact Via.refl _
  · split
    · exact Via.refl _
    · exact changes_of_eq rfl

theorem vk_mousekey_changes :
    settings.Changes Sends output (VK_MOUSEKEY.handle settings call output).1 := by
  have pressed (change : ButtonStatus → ButtonStatus) (dx dy : Int) (output : Output) :
      settings.Changes Sends output
        (fireRelativePointer settings call.autogenId call.physicalEventType
          (output.onButtonStatus change).makeButtons dx dy (output.onButtonStatus change)) := by
    have counted : settings.Changes Sends output (output.onButtonStatus change) := changes_of_eq rfl
    exact counted.trans (fireRelativePointer_changes _ _ _ _ _ _)
  have start : settings.Changes Sends output
      { output with mouseKey :=
          { output.mouseKey with lastPhysicalEventType_ := call.physicalEventType } } :=
    changes_of_eq rfl
  refine start.trans (firstHandled_changes call _ fun handle member output => ?_)
  simp only [List.mem_cons, List.not_mem_nil, or_false] at member
  rcases member with rfl | rfl | rfl | rfl | rfl
  · unfold VK_MOUSEKEY.handle_button
    extract_lets button change
    split
    · exact Via.refl _
    · split
      · exact Via.refl _
      · exact pressed _ 0 0 output
  · exact handle_move_changes call output
  · unfold VK_MOUSEKEY.handle_fixeddistancemove
    split
    · exact Via.refl _
    · split
      · exact fireRelativePointer_changes _ _ _ _ _ output
      · exact Via.refl _
  · unfold VK_MOUSEKEY.handle_fixeddistancescroll
    split
    · exact Via.refl _
    · split
      · exact changes_of_eq rfl
      · exact Via.refl _
  · unfold VK_MOUSEKEY.handle_lock_button
    split
    · exact pressed _ 0 0 output
    · extract_lets button
      split
      · exact Via.refl _
      · split
        · exact Via.refl _
        · exact pressed _ 0 0 output

section

variable {fire : Fire}
  (fires : ∀ call output, settings.Changes (settings.SendsKey call.params.key) output
    (fire call output))
include fires

theorem vk_partial_changes :
    settings.Changes (settings.SendsKey call.params.key) output
      (VK_PARTIAL.handle settings fire call output).1 := by
  unfold VK_PARTIAL.handle
  dsimp only
  split
  · split
    · exact changes_of_eq rfl
    · exact Via.refl _
  · split
    · -- The call is about the same key.
      exact fires (call.withKey settings output.partialKey.eventType_ call.params.key
        call.params.keyboardType) _
    · split
      · split
        · exact Via.refl _
        · exact changes_of_eq rfl
      · exact Via.refl _

/-- The virtual keys of JIS keyboards send another key. -/
theorem replaced_changes {eventType : EventType} {sent : KeyCode} {keyboardType : KeyboardType}
    (known : sent ∈ replacements) :
    settings.Changes (settings.SendsKey call.params.key) output
      (fire (call.withKey settings eventType sent keyboardType) output) :=
  (fires (call.withKey settings eventType sent keyboardType) output).mono
    fun _ sends => SendsKey.of_replacement known sends

theorem vk_jis_toggle_eisuu_kana_changes :
    settings.Changes (settings.SendsKey call.params.key) output
      (VK_JIS_TOGGLE_EISUU_KANA.handle settings fire call output).1 := by
  have known (newkeycode : NewKeyCode) : newkeycode.keyCode ∈ replacements := by
    cases newkeycode <;> simp [replacements, NewKeyCode.keyCode]
  unfold VK_JIS_TOGGLE_EISUU_KANA.handle
  split
  · exact Via.refl _
  · refine Via.trans (changes_of_eq ?_) (replaced_changes call _ fires (known _))
    split <;> rfl

/-- None of the functions that FireKey::fire calls does more. -/
theorem handles_changes {handle : FireKeyCall → Output → Output × Bool}
    (member : handle ∈ handles settings fire) :
    settings.Changes (settings.SendsKey call.params.key) output (handle call output).1 := by
  simp only [handles, List.mem_cons, List.not_mem_nil, or_false] at member
  rcases member with rfl | rfl | rfl | rfl | rfl | rfl | rfl | rfl | rfl | rfl | rfl | rfl | rfl |
    rfl | rfl
  · exact Sends.sendsKey (vk_config_changes call output)
  · exact Sends.sendsKey (vk_consumerkey_changes call output)
  · exact Via.refl _
  · exact Via.refl _
  · exact Via.refl _
  · exact Via.refl _
  · exact vk_lazy_changes call output
  · exact vk_lock_changes call output
  · exact Sends.sendsKey (vk_mousekey_changes call output)
  · exact vk_partial_changes call output fires
  · exact vk_sticky_changes call output
  · unfold VK_WAIT.handle
    split
    · exact Via.refl _
    · exact changes_of_eq rfl
  · unfold VK_JIS_BACKSLASH.handle
    split
    · exact Via.refl _
    · exact replaced_changes call output fires (by simp [replacements])
  · exact vk_jis_toggle_eisuu_kana_changes call output fires
  · unfold VK_JIS_YEN.handle
    split
    · exact Via.refl _
    · exact replaced_changes call output fires (by simp [replacements])

end

end VirtualKey

namespace EventOutputQueue

open Settings

theorem fireKeyAt_changes (settings : Settings) (depth : Nat) (call : FireKeyCall)
    (output : Output) :
    settings.Changes (settings.SendsKey call.params.key) output
      (fireKeyAt settings depth call output) := by
  induction depth generalizing call output with
  | zero => exact Via.refl _
  | succ depth ih =>
      have handled : settings.Changes (settings.SendsKey call.params.key) output
          (VirtualKey.firstHandled (VirtualKey.handles settings (fireKeyAt settings depth)) call
            output).1 :=
        VirtualKey.firstHandled_changes call output fun handle member output =>
          VirtualKey.handles_changes call output ih member
      unfold fireKeyAt
      split
      · next final result => rwa [result] at handled
      · next unhandled result =>
        rw [result] at handled
        exact handled.trans (VirtualKey.Sends.sendsKey (fireOutputKey_changes _ _ _ unhandled))

/-- What FireKey::fire does to the FlagStatus. -/
theorem fireKey_changes (settings : Settings) (call : FireKeyCall) (output : Output) :
    settings.Changes (settings.SendsKey call.params.key) output (fireKey settings call output) :=
  fireKeyAt_changes settings 3 call output

end EventOutputQueue

end Karabiner
