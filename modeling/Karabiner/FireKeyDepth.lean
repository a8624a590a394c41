import Karabiner.KeyOperations

set_option autoImplicit false

/- FireKey::fire calls itself through the virtual keys. The calls end: VK_PARTIAL is no longer
active in the second, and a key that is sent as another is sent as an ordinary one. -/
namespace Karabiner

namespace VirtualKey

/-- An event that is not handled leaves VK_PARTIAL alone. -/
def KeepsPartialKey (handle : FireKeyCall → Output → Output × Bool) : Prop :=
  ∀ call output unhandled, handle call output = (unhandled, false) →
    unhandled.partialKey = output.partialKey

theorem keepsPartialKey_of_same {handle : FireKeyCall → Output → Output × Bool}
    (same : ∀ call output, (handle call output).2 = false → (handle call output).1 = output) :
    KeepsPartialKey handle := by
  intro call output unhandled result
  have kept := same call output (by rw [result])
  rw [result] at kept
  rw [← kept]

theorem keepsPartialKey_firstHandled {handles : List (FireKeyCall → Output → Output × Bool)}
    (each : ∀ handle ∈ handles, KeepsPartialKey handle) :
    KeepsPartialKey (firstHandled handles) := by
  intro call output unhandled result
  induction handles generalizing output with
  | nil => cases result; rfl
  | cons handle handles ih =>
      have here := each handle List.mem_cons_self call output
      have rest := fun other member => each other (List.mem_cons_of_mem _ member)
      unfold firstHandled at result
      split at result
      · cases result
      · next first passed => exact (ih rest first result).trans (here first passed)

/-- Only VK_MOUSEKEY changes something of an event that it does not handle. -/
theorem keepsPartialKey_mousekey (settings : Settings) :
    KeepsPartialKey (VK_MOUSEKEY.handle settings) := by
  intro call output unhandled result
  unfold VK_MOUSEKEY.handle at result
  refine (keepsPartialKey_firstHandled ?_ call _ unhandled result).trans rfl
  intro handle member
  simp only [List.mem_cons, List.not_mem_nil, or_false] at member
  rcases member with rfl | rfl | rfl | rfl | rfl <;> apply keepsPartialKey_of_same <;>
    intro call output
  · unfold VK_MOUSEKEY.handle_button
    dsimp only
    repeat' split
    all_goals simp
  · unfold VK_MOUSEKEY.handle_move
    dsimp only
    repeat' split
    all_goals simp
  · unfold VK_MOUSEKEY.handle_fixeddistancemove
    repeat' split
    all_goals simp
  · unfold VK_MOUSEKEY.handle_fixeddistancescroll
    repeat' split
    all_goals simp
  · unfold VK_MOUSEKEY.handle_lock_button
    dsimp only
    repeat' split
    all_goals simp

theorem keepsPartialKey_handles (settings : Settings) (fire : Fire) :
    ∀ handle ∈ handles settings fire, KeepsPartialKey handle := by
  intro handle member
  simp only [handles, List.mem_cons, List.not_mem_nil, or_false] at member
  rcases member with rfl | rfl | rfl | rfl | rfl | rfl | rfl | rfl | rfl | rfl | rfl | rfl | rfl |
    rfl | rfl
  case inr.inr.inr.inr.inr.inr.inr.inr.inl => exact keepsPartialKey_mousekey settings
  all_goals apply keepsPartialKey_of_same; intro call output
  · unfold VK_CONFIG.handle
    dsimp only
    repeat' split
    all_goals simp
  · unfold VK_CONSUMERKEY.handle
    repeat' split
    all_goals simp
  · intro _; rfl
  · intro _; rfl
  · intro _; rfl
  · intro _; rfl
  · unfold VK_LAZY.handle
    dsimp only
    repeat' split
    all_goals simp
  · unfold VK_LOCK.handle remapped
    split <;> simp
  · unfold VK_PARTIAL.handle
    dsimp only
    repeat' split
    all_goals simp
  · unfold VK_STICKY.handle remapped
    split <;> simp
  · unfold VK_WAIT.handle
    split <;> simp
  · unfold VK_JIS_BACKSLASH.handle
    split <;> simp
  · unfold VK_JIS_TOGGLE_EISUU_KANA.handle
    dsimp only
    split <;> simp
  · unfold VK_JIS_YEN.handle
    split <;> simp

/-- The keys that are sent as another key. -/
def isReplaced (key : KeyCode) : Bool :=
  key ∈ [KeyCode.VK_JIS_BACKSLASH, .VK_JIS_TOGGLE_EISUU_KANA, .VK_JIS_YEN]

theorem isReplaced_replacements {key : KeyCode} (replaced : key ∈ replacements) :
    isReplaced key = false := by
  revert key
  decide

/-- How often FireKey::fire can be called again: for VK_PARTIAL, which ends it, and for a key that
is sent as another. -/
def again (key : KeyCode) (output : Output) : Nat :=
  output.partialKey.active_.toNat + (isReplaced key).toNat

/-- Two lists of functions that differ only in the ones that call FireKey::fire again. -/
theorem firstHandled_congr {call : FireKeyCall} {partialKey : PartialKey}
    {first second : List (FireKeyCall → Output → Output × Bool)}
    (keeps : ∀ handle ∈ first, KeepsPartialKey handle)
    (same : List.Forall₂
      (fun handle other => ∀ output : Output, output.partialKey = partialKey →
      handle call output = other call output) first second)
    {output : Output} (kept : output.partialKey = partialKey) :
    firstHandled first call output = firstHandled second call output := by
  induction same generalizing output with
  | nil => rfl
  | cons equal rest ih =>
      have passes := keeps _ List.mem_cons_self call output
      have others := fun handle member => keeps handle (List.mem_cons_of_mem _ member)
      unfold firstHandled
      rw [← equal output kept]
      split
      · rfl
      · next unhandled result => exact ih others ((passes unhandled result).trans kept)

/-- VK_PARTIAL and the keys that are sent as another call FireKey::fire where less is left of it. -/
theorem handles_congr {settings : Settings} {fire other : Fire} {call : FireKeyCall}
    {output : Output}
    (same : ∀ inner state, again inner.params.key state < again call.params.key output →
      fire inner state = other inner state) :
    List.Forall₂ (fun handle counterpart => ∀ state : Output,
        state.partialKey = output.partialKey → handle call state = counterpart call state)
      (handles settings fire) (handles settings other) := by
  have partialKey (state : Output) (kept : state.partialKey = output.partialKey) :
      VK_PARTIAL.handle settings fire call state = VK_PARTIAL.handle settings other call state := by
    unfold VK_PARTIAL.handle
    dsimp only
    split
    · rfl
    · split
      · next active =>
        have less : again call.params.key
            { state with partialKey := { state.partialKey with active_ := false } } <
              again call.params.key output := by
          have on : output.partialKey.active_ = true := by
            rw [← kept]
            exact (Bool.and_eq_true _ _ ▸ active).1
          simp [again, on]
        have sent := same (call.withKey settings state.partialKey.eventType_ call.params.key
          call.params.keyboardType) _ less
        rw [sent]
      · rfl
  have replaced (eventType : EventType) (sent : KeyCode) (keyboardType : KeyboardType)
      (state : Output) (kept : state.partialKey = output.partialKey)
      (virtual : isReplaced call.params.key = true) (known : sent ∈ replacements) :
      fire (call.withKey settings eventType sent keyboardType) state =
        other (call.withKey settings eventType sent keyboardType) state := by
    apply same
    show again sent state < _
    simp [again, kept, virtual, isReplaced_replacements known]
  refine .cons (fun _ _ => rfl) (.cons (fun _ _ => rfl) (.cons (fun _ _ => rfl)
    (.cons (fun _ _ => rfl) (.cons (fun _ _ => rfl) (.cons (fun _ _ => rfl)
    (.cons (fun _ _ => rfl) (.cons (fun _ _ => rfl) (.cons (fun _ _ => rfl) (.cons partialKey
    (.cons (fun _ _ => rfl) (.cons (fun _ _ => rfl) (.cons ?_ (.cons ?_ (.cons ?_ .nil))))))))))))))
  · intro state kept
    unfold VK_JIS_BACKSLASH.handle
    split
    · rfl
    · next key =>
      rw [replaced _ _ _ state kept (by simp [isReplaced, not_not.1 key]) (by simp [replacements])]
  · intro state kept
    unfold VK_JIS_TOGGLE_EISUU_KANA.handle
    split
    · rfl
    · next key =>
      have known (newkeycode : NewKeyCode) : newkeycode.keyCode ∈ replacements := by
        cases newkeycode <;> simp [replacements, NewKeyCode.keyCode]
      dsimp only
      rw [replaced _ _ _ _ ?_ (by simp [isReplaced, not_not.1 key]) (known _)]
      split <;> exact kept
  · intro state kept
    unfold VK_JIS_YEN.handle
    split
    · rfl
    · next key =>
      rw [replaced _ _ _ state kept (by simp [isReplaced, not_not.1 key]) (by simp [replacements])]

end VirtualKey

namespace EventOutputQueue

open VirtualKey

theorem fireKeyAt_congr (settings : Settings) (first second : Nat) (call : FireKeyCall)
    (output : Output) (enough : again call.params.key output < first)
    (alsoEnough : again call.params.key output < second) :
    fireKeyAt settings first call output = fireKeyAt settings second call output := by
  induction first generalizing second call output with
  | zero => omega
  | succ first ih =>
      cases second with
      | zero => omega
      | succ second =>
          have same := @handles_congr settings (fireKeyAt settings first)
            (fireKeyAt settings second) call output
            fun inner state less => ih second inner state (by omega) (by omega)
          unfold fireKeyAt
          rw [firstHandled_congr (keepsPartialKey_handles settings _) same rfl]

/-- The bound of fireKey is not reached. -/
theorem fireKeyAt_eq_fireKey (settings : Settings) (depth : Nat) (call : FireKeyCall)
    (output : Output) : fireKeyAt settings (depth + 3) call output = fireKey settings
    call output := by
  have bounded : again call.params.key output < 3 := by
    have active := Bool.toNat_le output.partialKey.active_
    have replaced := Bool.toNat_le (isReplaced call.params.key)
    unfold again
    omega
  exact fireKeyAt_congr settings _ _ call output (by omega) bounded

end EventOutputQueue

end Karabiner
