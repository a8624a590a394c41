import Karabiner.KeyOperations
import Karabiner.OutputReplay

set_option autoImplicit false

/- FireKey::fire, with the virtual keys that it handles, is related to a relation of outputs that
the functions which leave the keys alone keep. -/
namespace Karabiner

open Output (LeavesKeys SameSent onFlagStatus_leavesKeys)

/-- A relation of an output to a later one that what leaves the keys alone does not touch. -/
structure Output.Frame (settings : Settings) (Related : Output → Output → Prop) : Prop where
  leaves : ∀ {before after : Output}, LeavesKeys settings before after → Related before after
  trans : ∀ {before between after : Output}, Related before between → Related between after →
    Related before after

theorem Output.Frame.refl {settings : Settings} {Related : Output → Output → Prop}
    (frame : Output.Frame settings Related)
    (output : Output) : Related output output :=
  frame.leaves (.refl output)

namespace VirtualKey

open EventOutputQueue

variable {settings : Settings} (call : FireKeyCall) (output : Output)

theorem vk_config_leavesKeys :
    LeavesKeys settings output (VK_CONFIG.handle settings call output).1 := by
  have set (remapclass : Nat) (newval : Bool) :
      LeavesKeys settings output (VK_CONFIG.setEnabled remapclass newval output) :=
    SameSent.leavesKeys ⟨rfl, rfl, rfl, rfl⟩ rfl rfl
  unfold VK_CONFIG.handle
  extract_lets key
  split
  · exact .refl output
  · split
    · exact .refl output
    · split
      · split
        · exact set _ _
        · exact .refl output
      · split
        · split
          · exact set _ _
          · exact .refl output
        · split
          · split
            · exact set _ _
            · exact .refl output
          · exact (set _ _).trans (fireCurrentModifiers_leavesKeys _ _ _)

theorem vk_consumerkey_leavesKeys :
    LeavesKeys settings output (VK_CONSUMERKEY.handle settings call output).1 := by
  unfold VK_CONSUMERKEY.handle
  split
  · exact .refl output
  · split
    · exact .refl output
    · exact fireConsumer_leavesKeys _ _ _ output

theorem vk_lazy_leavesKeys : LeavesKeys settings output (VK_LAZY.handle call output).1 := by
  unfold VK_LAZY.handle
  extract_lets f
  split
  · exact .refl output
  · split
    · exact .refl output
    · split
      · exact onFlagStatus_leavesKeys settings.pairs (.call .lazyIncrease (.flag f)) output
      · split
        · exact onFlagStatus_leavesKeys settings.pairs (.call .lazyDecrease (.flag f)) output
        · exact .refl output

theorem modifyFlagStatus_leavesKeys {rows : List (KeyCodeType × FlagStatus.Method)}
    {modified : Output} (handled : modifyFlagStatus settings call output rows = some modified) :
    LeavesKeys settings output modified := by
  induction rows with
  | nil => exact absurd handled (by simp [modifyFlagStatus])
  | cons row rows ih =>
      unfold modifyFlagStatus at handled
      dsimp only at handled
      split at handled
      · exact ih handled
      · split at handled
        · cases handled
          exact onFlagStatus_leavesKeys settings.pairs (.call row.2 _) output
        · cases handled
          exact .refl output

theorem modifyAll_leavesKeys {rows : List (KeyCode × FlagStatus.Operation)} {modified : Output}
    (handled : modifyAll settings call output rows = some modified) :
    LeavesKeys settings output modified := by
  induction rows with
  | nil => exact absurd handled (by simp [modifyAll])
  | cons row rows ih =>
      unfold modifyAll at handled
      split at handled
      · exact ih handled
      · split at handled
        · cases handled
          exact onFlagStatus_leavesKeys settings.pairs row.2 output
        · cases handled
          exact .refl output

theorem remapped_leavesKeys (methods : List (KeyCodeType × FlagStatus.Method))
    (operations : List (KeyCode × FlagStatus.Operation)) :
    LeavesKeys settings output (remapped settings call
      ((modifyFlagStatus settings call output methods).or
        (modifyAll settings call output operations)) output).1 := by
  unfold remapped
  split
  · next modified handled =>
    have first : LeavesKeys settings output modified := by
      cases found : modifyFlagStatus settings call output methods with
      | some other =>
          rw [found, Option.some_or] at handled
          cases handled
          exact modifyFlagStatus_leavesKeys call output found
      | none =>
          rw [found, Option.none_or] at handled
          exact modifyAll_leavesKeys call output handled
    exact first.trans (fireCurrentModifiers_leavesKeys _ _ modified)
  · exact .refl output

theorem firstHandled_related {Related : Output → Output → Prop}
    (frame : Output.Frame settings Related)
    {handles : List (FireKeyCall → Output → Output × Bool)}
    (each : ∀ handle ∈ handles, ∀ output, Related output (handle call output).1) :
    Related output (firstHandled handles call output).1 := by
  induction handles generalizing output with
  | nil => exact frame.refl output
  | cons handle handles ih =>
      have here := each handle List.mem_cons_self output
      have others := fun other member => each other (List.mem_cons_of_mem _ member)
      unfold firstHandled
      split
      · next handled result => rwa [result] at here
      · next passed result =>
        rw [result] at here
        exact frame.trans here (ih passed others)

section

variable {Related : Output → Output → Prop} (frame : Output.Frame settings Related)
    {fire : Fire}
  (fires : ∀ other : FireKeyCall, other.params.key ∈ call.params.key :: replacements →
    ∀ output, Related output (fire other output))
include frame fires

theorem vk_partial_related : Related output (VK_PARTIAL.handle settings fire call output).1 := by
  unfold VK_PARTIAL.handle
  dsimp only
  split
  · split
    · exact frame.leaves (SameSent.leavesKeys ⟨rfl, rfl, rfl, rfl⟩ rfl rfl)
    · exact frame.refl output
  · split
    · have before : LeavesKeys settings output
          { output with partialKey := { output.partialKey with active_ := false } } :=
        SameSent.leavesKeys ⟨rfl, rfl, rfl, rfl⟩ rfl rfl
      have fired := fires (call.withKey settings output.partialKey.eventType_ call.params.key
        call.params.keyboardType) List.mem_cons_self
        { output with partialKey := { output.partialKey with active_ := false } }
      exact frame.trans (frame.trans (frame.leaves before) fired)
        (frame.leaves (SameSent.leavesKeys ⟨rfl, rfl, rfl, rfl⟩ rfl rfl))
    · split
      · split
        · exact frame.refl output
        · exact frame.leaves (SameSent.leavesKeys ⟨rfl, rfl, rfl, rfl⟩ rfl rfl)
      · exact frame.refl output

theorem vk_jis_toggle_eisuu_kana_related :
    Related output (VK_JIS_TOGGLE_EISUU_KANA.handle settings fire call output).1 := by
  have known (newkeycode : NewKeyCode) :
      newkeycode.keyCode ∈ call.params.key :: replacements := by
    cases newkeycode <;> simp [replacements, NewKeyCode.keyCode]
  unfold VK_JIS_TOGGLE_EISUU_KANA.handle
  extract_lets chosen
  split
  · exact frame.refl output
  · have first : LeavesKeys settings output chosen := by
      show LeavesKeys settings output (if call.params.ex_iskeydown then _ else output)
      split
      · exact SameSent.leavesKeys ⟨rfl, rfl, rfl, rfl⟩ rfl rfl
      · exact .refl output
    exact frame.trans (frame.leaves first) (fires _ (known _) chosen)

/-- Every function that FireKey::fire calls, if VK_MOUSEKEY is one of them. -/
theorem handles_related
    (mousekey : ∀ output, Related output (VK_MOUSEKEY.handle settings call output).1)
    {handle : FireKeyCall → Output → Output × Bool}
    (member : handle ∈ handles settings fire) :
    Related output (handle call output).1 := by
  simp only [handles, List.mem_cons, List.not_mem_nil, or_false] at member
  rcases member with rfl | rfl | rfl | rfl | rfl | rfl | rfl | rfl | rfl | rfl | rfl | rfl | rfl |
    rfl | rfl
  · exact frame.leaves (vk_config_leavesKeys call output)
  · exact frame.leaves (vk_consumerkey_leavesKeys call output)
  · exact frame.refl output
  · exact frame.refl output
  · exact frame.refl output
  · exact frame.refl output
  · exact frame.leaves (vk_lazy_leavesKeys call output)
  · exact frame.leaves (remapped_leavesKeys call output _ _)
  · exact mousekey output
  · exact vk_partial_related call output frame fires
  · exact frame.leaves (remapped_leavesKeys call output _ _)
  · unfold VK_WAIT.handle
    split
    · exact frame.refl output
    · exact frame.leaves (fireWait_leavesKeys _ _ output)
  · unfold VK_JIS_BACKSLASH.handle
    split
    · exact frame.refl output
    · exact fires _ (by simp [replacements, FireKeyCall.withKey]) output
  · exact vk_jis_toggle_eisuu_kana_related call output frame fires
  · unfold VK_JIS_YEN.handle
    split
    · exact frame.refl output
    · exact fires _ (by simp [replacements, FireKeyCall.withKey]) output

end

end VirtualKey

namespace EventOutputQueue

/-- FireKey::fire for a set of keys that is closed under the replacements, from what VK_MOUSEKEY
and the sending of an ordinary key do. -/
theorem fireKeyAt_related {settings : Settings} {Related : Output → Output → Prop}
    (frame : Output.Frame settings Related) (keys : KeyCode → Prop)
    (replaced : ∀ key ∈ VirtualKey.replacements, keys key)
    (mousekey : ∀ call : FireKeyCall, keys call.params.key → ∀ output,
      Related output (VirtualKey.VK_MOUSEKEY.handle settings call output).1)
    (outputKey : ∀ (call : FireKeyCall) (output : Output), Related output
      (fireOutputKey settings call.autogenId call.physicalEventType call.params output))
    (depth : Nat) (call : FireKeyCall) (known : keys call.params.key) (output : Output) :
    Related output (fireKeyAt settings depth call output) := by
  induction depth generalizing call output with
  | zero => exact frame.refl output
  | succ depth ih =>
      have fires (other : FireKeyCall)
          (member : other.params.key ∈ call.params.key :: VirtualKey.replacements)
          (output : Output) : Related output (fireKeyAt settings depth other output) := by
        apply ih
        cases List.mem_cons.mp member with
        | inl same => rwa [same]
        | inr replacement => exact replaced _ replacement
      have handled := VirtualKey.firstHandled_related call output frame
        fun handle member output => VirtualKey.handles_related call output frame fires
          (mousekey call known) member
      unfold fireKeyAt
      split
      · next final result => rwa [result] at handled
      · next passed result =>
        rw [result] at handled
        exact frame.trans handled (outputKey call passed)

end EventOutputQueue

end Karabiner
