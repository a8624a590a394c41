import Karabiner.FireKeyFrame

set_option autoImplicit false

/- The keys, modifiers and buttons that the output side remembers are those that the pushed events
leave held, after any calls of the functions that send events. -/
namespace Karabiner

theorem Replay.deliverKey_keys {params : KeyboardEventCallBack}
    (known : params.eventType = EventType.DOWN ∨ params.eventType = EventType.UP)
    (replay : Replay) :
    (replay.deliverKey params).modifiers = replay.modifiers ∧
      (replay.deliverKey params).buttons = replay.buttons := by
  unfold deliverKey
  split
  · exact ⟨rfl, rfl⟩
  · split
    · exact ⟨rfl, rfl⟩
    · next notDown =>
      rw [if_pos (known.resolve_left notDown)]
      exact ⟨rfl, rfl⟩

namespace Output

/-- What is remembered is what the system believes, with the keys in PressDownKeys. -/
structure Faithful (settings : Settings) (output : Output) : Prop where
  follows : Follows settings output
  keys : ∀ pair, output.replay.isDown pair = decide (pair ∈ output.pressDownKeys)

def KeepsFaithful (settings : Settings) (before after : Output) : Prop :=
  Faithful settings before → Faithful settings after

variable {settings : Settings}

theorem LeavesKeys.keepsFaithful {before after : Output}
    (leaves : LeavesKeys settings before after) : KeepsFaithful settings before after := by
  intro faithful
  obtain ⟨follows, same⟩ := leaves.follows faithful.follows
  refine ⟨follows, fun pair => ?_⟩
  rw [same, leaves.pressDownKeys]
  exact faithful.keys pair

theorem SameSent.keepsFaithful {before after : Output} (same : SameSent before after)
    (pressDownKeys : after.pressDownKeys = before.pressDownKeys) :
    KeepsFaithful settings before after := by
  intro faithful
  refine ⟨same.follows faithful.follows, fun pair => ?_⟩
  unfold replay
  rw [same.queue_, pressDownKeys]
  exact faithful.keys pair

theorem keepsFaithful_frame : Frame settings (KeepsFaithful settings) where
  leaves := LeavesKeys.keepsFaithful
  trans := fun left right faithful => right (left faithful)

end Output

namespace EventOutputQueue

open Output (LeavesKeys SameSent Faithful KeepsFaithful keepsFaithful_frame)

variable {settings : Settings}

/-- A key that goes down or up, with what PressDownKeys makes of it. -/
theorem pushKey_keepsFaithful {params : KeyboardEventCallBack} (autogenId : AutogenId)
    (known : params.eventType = EventType.DOWN ∨ params.eventType = EventType.UP)
    (sent : params.key ≠ KeyCode.VK_NONE) (output : Output) :
    KeepsFaithful settings output
      (if params.isRepeat then push (.keyboard params) autogenId output
      else if params.eventType = EventType.DOWN then
        PressDownKeys.add params.key params.keyboardType
          (push (.keyboard params) autogenId output)
      else
        PressDownKeys.remove params.key params.keyboardType
          (push (.keyboard params) autogenId output)) := by
  intro faithful
  have pushes := push_pushes (.keyboard params) autogenId output
  have replayed : (push (.keyboard params) autogenId output).replay =
      output.replay.deliverKey params := pushes.replay
  -- Modifiers and buttons stay, whatever is done to PressDownKeys.
  have follows (after : Output) (same : SameSent (push (.keyboard params) autogenId output) after) :
      Output.Follows settings after := by
    apply same.follows
    obtain ⟨modifiers, buttons⟩ := Replay.deliverKey_keys known output.replay
    refine ⟨pushes.flags.trans faithful.follows.flags, ?_, ?_, ?_⟩
    · rw [pushes.fireModifiers]
      exact faithful.follows.union
    · rw [pushes.fireModifiers, replayed, modifiers]
      exact faithful.follows.modifiers
    · rw [pushes.lastButtons_, replayed, buttons]
      exact faithful.follows.buttons
  split
  · next repetition =>
    refine ⟨follows _ ⟨rfl, rfl, rfl, rfl⟩, fun pair => ?_⟩
    rw [replayed, Replay.deliverKey, if_pos repetition, pushes.pressDownKeys]
    exact faithful.keys pair
  · next first =>
    split
    · next down =>
      have added : PressDownKeys.add params.key params.keyboardType
          (push (.keyboard params) autogenId output) =
          { push (.keyboard params) autogenId output with
            pressDownKeys := (push (.keyboard params) autogenId output).pressDownKeys ++
              [(params.key, params.keyboardType)] } := if_neg sent
      rw [added]
      refine ⟨follows _ ⟨rfl, rfl, rfl, rfl⟩, fun pair => ?_⟩
      show (push (.keyboard params) autogenId output).replay.isDown pair = _
      rw [replayed, Replay.deliverKey, if_neg first, if_pos down]
      have before := faithful.keys pair
      by_cases same : pair = (params.key, params.keyboardType)
      · simp [same]
      · simp [same, before, pushes.pressDownKeys]
    · next notDown =>
      have up := known.resolve_left notDown
      refine ⟨follows _ ⟨rfl, rfl, rfl, rfl⟩, fun pair => ?_⟩
      show (push (.keyboard params) autogenId output).replay.isDown pair = _
      rw [replayed, Replay.deliverKey, if_neg first, if_neg notDown, if_pos up]
      have before := faithful.keys pair
      by_cases same : pair = (params.key, params.keyboardType)
      · simp [same, PressDownKeys.remove]
      · simp [same, before, PressDownKeys.remove, pushes.pressDownKeys]

theorem fireOutputKey_keepsFaithful (call : FireKeyCall) (output : Output) :
    KeepsFaithful settings output
      (fireOutputKey settings call.autogenId call.physicalEventType call.params output) := by
  unfold fireOutputKey
  extract_lets normalized renamed newkeycode modifierFlag isUp newflags readied pushed
  have start : KeepsFaithful settings output renamed :=
    SameSent.keepsFaithful ⟨rfl, rfl, rfl, rfl⟩ rfl
  have modifiers : KeepsFaithful settings renamed readied := by
    unfold readied
    split
    · exact keepsFaithful_frame.refl _
    · apply LeavesKeys.keepsFaithful
      refine LeavesKeys.trans ?_ (fireModifiers_leavesKeys _ _ _ _ _)
      split
      · exact setIgnorePhysicalUpEvent_leavesKeys false renamed
      · exact .refl renamed
  have ready := keepsFaithful_frame.trans start modifiers
  split
  · exact start
  · next outputable =>
    split
    · exact start
    · split
      · next known =>
        have sent : newkeycode ≠ KeyCode.VK_NONE := fun none => outputable (.inl none)
        exact keepsFaithful_frame.trans ready (@pushKey_keepsFaithful settings
          { eventType := call.params.eventType, flags := newflags, key := newkeycode
            keyboardType := call.params.keyboardType, isRepeat := call.params.isRepeat
            ex_iskeydown := call.params.eventType.isKeyDownOrModifierDown settings.pairs newkeycode
              newflags }
          call.autogenId known sent readied)
      · exact ready

/-- Nothing that the virtual keys count is sent or remembered as a key. -/
theorem vk_mousekey_keepsFaithful (call : FireKeyCall) (output : Output) :
    KeepsFaithful settings output (VirtualKey.VK_MOUSEKEY.handle settings call output).1 := by
  have pressed (change : ButtonStatus → ButtonStatus) (output : Output) :
      KeepsFaithful settings output
        (fireRelativePointer settings call.autogenId call.physicalEventType
          (output.onButtonStatus change).makeButtons 0 0 (output.onButtonStatus change)) := by
    have counted : KeepsFaithful settings output (output.onButtonStatus change) :=
      SameSent.keepsFaithful ⟨rfl, rfl, rfl, rfl⟩ rfl
    exact keepsFaithful_frame.trans counted
      (fireRelativePointer_leavesKeys _ _ _ _ _ _).keepsFaithful
  have start : KeepsFaithful settings output
      { output with mouseKey :=
          { output.mouseKey with lastPhysicalEventType_ := call.physicalEventType } } :=
    SameSent.keepsFaithful ⟨rfl, rfl, rfl, rfl⟩ rfl
  refine keepsFaithful_frame.trans start
    (VirtualKey.firstHandled_related call _ keepsFaithful_frame fun handle member output => ?_)
  simp only [List.mem_cons, List.not_mem_nil, or_false] at member
  rcases member with rfl | rfl | rfl | rfl | rfl
  · unfold VirtualKey.VK_MOUSEKEY.handle_button
    extract_lets button change
    split
    · exact keepsFaithful_frame.refl output
    · split
      · exact keepsFaithful_frame.refl output
      · exact pressed _ output
  · unfold VirtualKey.VK_MOUSEKEY.handle_move
    dsimp only
    split
    · exact keepsFaithful_frame.refl output
    · split
      · exact keepsFaithful_frame.refl output
      · exact SameSent.keepsFaithful ⟨rfl, rfl, rfl, rfl⟩ rfl
  · unfold VirtualKey.VK_MOUSEKEY.handle_fixeddistancemove
    split
    · exact keepsFaithful_frame.refl output
    · split
      · exact (fireRelativePointer_leavesKeys _ _ _ _ _ output).keepsFaithful
      · exact keepsFaithful_frame.refl output
  · unfold VirtualKey.VK_MOUSEKEY.handle_fixeddistancescroll
    split
    · exact keepsFaithful_frame.refl output
    · split
      · exact SameSent.keepsFaithful ⟨rfl, rfl, rfl, rfl⟩ rfl
      · exact keepsFaithful_frame.refl output
  · unfold VirtualKey.VK_MOUSEKEY.handle_lock_button
    split
    · exact pressed _ output
    · extract_lets button
      split
      · exact keepsFaithful_frame.refl output
      · split
        · exact keepsFaithful_frame.refl output
        · exact pressed _ output

theorem fireKey_keepsFaithful (call : FireKeyCall) (output : Output) :
    KeepsFaithful settings output (fireKey settings call output) :=
  fireKeyAt_related keepsFaithful_frame (fun _ => True) (fun _ _ => trivial)
    (fun call _ output => vk_mousekey_keepsFaithful call output)
    (fun call output => fireOutputKey_keepsFaithful call output) 3 call trivial output

end EventOutputQueue

end Karabiner
