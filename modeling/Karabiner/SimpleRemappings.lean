import Karabiner.Core
import Karabiner.Substitution
import Karabiner.TypedKeys

set_option autoImplicit false

/- Items that replace a key of a keyboard with another one. What is sent for a run of keystrokes
are the same keystrokes, where each key is replaced by what has replaced it when it went down. -/
namespace Karabiner

open Output (Types types_of_same onFlagStatus_types onButtonStatus_types Unchanging)
open RemapFuncItem (State Arriving Result)

/-- A KeyToKey from one key to one key, with nothing in front, behind or later. -/
structure KeyReplacement where
  keyToKey : KeyToKey
  fromKey : KeyCode
  toKey : KeyCode
  toFlags : List ModifierFlag
  fromTyped : fromKey.IsTyped
  toTyped : toKey.IsTyped
  fromEvent_ : keyToKey.fromEvent_ = .KEY fromKey
  toKeys_ : keyToKey.toKeys_ = [⟨.KEY toKey, toFlags⟩]
  beforeKeys_ : keyToKey.beforeKeys_ = []
  afterKeys_ : keyToKey.afterKeys_ = []
  undelayed : keyToKey.hasDelayedAction = false

structure KeyReplacements where
  list : List KeyReplacement
  distinct : (list.map (·.keyToKey.address)).Nodup

namespace KeyReplacements

/-- One of the replacements. -/
abbrev Rule (items : KeyReplacements) := { replacement // replacement ∈ items.list }

theorem rule_named (items : KeyReplacements) :
    Function.Injective fun rule : items.Rule => rule.1.keyToKey.address := by
  intro first second same
  exact Subtype.ext (List.inj_on_of_nodup_map items.distinct first.2 second.2 same)

def rules (items : KeyReplacements) : Substitution.Rules KeyCode items.Rule Nat where
  name rule := rule.1.keyToKey.address
  source rule := rule.1.fromKey
  target rule := rule.1.toKey
  named := items.rule_named

def item (replacement : KeyReplacement) : RemapFuncItem := .keyToKey replacement.keyToKey

theorem item_distinct (items : KeyReplacements) :
    ((items.list.map item).flatMap RemapFuncItem.addresses).Nodup := by
  have same : (items.list.map item).flatMap RemapFuncItem.addresses =
      items.list.map (·.keyToKey.address) := by
    induction items.list with
    | nil => rfl
    | cons first rest ih =>
        rw [List.map_cons, List.flatMap_cons, ih]
        rfl
  rw [same]
  exact items.distinct

def remappings (items : KeyReplacements) : Remappings :=
  ⟨items.list.map item, items.item_distinct⟩

def offer {items : KeyReplacements} (rule : items.Rule) :
    { item // item ∈ items.remappings.list } :=
  ⟨item rule.1, List.mem_map_of_mem rule.2⟩

end KeyReplacements

namespace Sending

/-- What is sent. -/
def Types (sent : List (Bool × KeyCode)) (before after : Sending) : Prop :=
  Output.Types sent before.output after.output

end Sending

namespace KeyReplacement

variable (settings : Settings) (defines : settings.DefinesVirtual) (replacement : KeyReplacement)

theorem handleModifiers_types (keyToKey : KeyToKey) (iskeydown : Bool) (sending : Sending) :
    Sending.Types [] sending (keyToKey.handleModifiers settings iskeydown sending) := by
  unfold KeyToKey.handleModifiers
  generalize keyToKey.increaseModifierFlags_.getLast?.map (·.modifierFlags_) = increased
  cases iskeydown <;> cases increased <;> exact types_of_same rfl rfl rfl

include defines

theorem passes {key : KeyCode} (typed : key.IsTyped) (eventType : EventType) :
    EventOutputQueue.Passes settings eventType key :=
  ⟨typed.hardware, typed.unlisted,
    .inl ((typed.hardware.getModifierFlag_eq defines .KEYCODE).trans typed.unmodifying)⟩

/-- A key of a keyboard is not like a modifier. -/
theorem not_likeModifier {key : KeyCode} (hardware : key.IsHardware) :
    VirtualKey.isKeyLikeModifier settings key = false := by
  have sync : VirtualKey.VK_CONFIG.is_VK_CONFIG_SYNC_KEYDOWNUP settings key = false := by
    rw [VirtualKey.VK_CONFIG.is_VK_CONFIG_SYNC_KEYDOWNUP, List.any_eq_false]
    intro item member same
    rw [decide_eq_true_iff] at same
    exact defines.configs item member item.keycodeSyncKeydownup (by simp) (same ▸ hardware)
  have lazy : VirtualKey.VK_LAZY.getModifierFlag key = ModifierFlag.ZERO := by
    rw [VirtualKey.VK_LAZY.getModifierFlag, hardware.lookup_eq (by decide)]
    rfl
  have button : VirtualKey.VK_MOUSEKEY.getPointingButton key = PointingButton.NONE := by
    rw [VirtualKey.VK_MOUSEKEY.getPointingButton, hardware.lookup_eq (by decide)]
    rfl
  have moves : VirtualKey.VK_MOUSEKEY.moves.lookup key = none := hardware.lookup_eq (by decide)
  have highspeed : key ≠ KeyCode.VK_MOUSEKEY_HIGHSPEED := hardware.ne_of_virtual (by decide)
  simp [VirtualKey.isKeyLikeModifier, sync, lazy, VirtualKey.VK_MOUSEKEY.isKeyLikeModifier, button,
    moves, highspeed]

theorem fire_types {key : KeyCode} (typed : key.IsTyped) (flags : List ModifierFlag)
    (autogenId : AutogenId) (physicalEventType : PhysicalEventType) (eventType : EventType)
    (eventFlags : Flags) (add_to_keyrepeat : Bool) (delayUntilRepeat keyRepeat : Int)
    {sending : Sending} (unchanging : sending.output.Unchanging) :
    Sending.Types (EventOutputQueue.typedAs eventType key) sending
      (ToEvent.fire settings autogenId physicalEventType eventType eventFlags add_to_keyrepeat
        delayUntilRepeat keyRepeat ⟨.KEY key, flags⟩ sending) := by
  have fired := @EventOutputQueue.fireKey_types settings defines
    ⟨ToEvent.keyboardParams settings eventType eventFlags key sending, autogenId,
      physicalEventType⟩ sending.output unchanging (passes settings defines typed eventType)
  unfold ToEvent.fire
  dsimp only
  split
  · exact fired
  · exact fired

/-- A key that is no modifier is fired once, down or up. -/
theorem fireToKey_types (iskeydown : Bool) (physicalEventType : PhysicalEventType)
    {sending : Sending} (unchanging : sending.output.Unchanging) :
    Sending.Types [(iskeydown, replacement.toKey)] sending
      (KeyToKey.fireToKey settings replacement.keyToKey iskeydown physicalEventType
        ⟨.KEY replacement.toKey, replacement.toFlags⟩ sending) := by
  have hardware := replacement.toTyped.hardware
  have unmodifying : ToEvent.getModifierFlag settings
      ⟨.KEY replacement.toKey, replacement.toFlags⟩ = ModifierFlag.ZERO :=
    (hardware.getModifierFlag_eq defines .KEYCODE).trans replacement.toTyped.unmodifying
  have plain : KeyToKey.isModifierOrLikeModifier settings
      ⟨.KEY replacement.toKey, replacement.toFlags⟩ = false := by
    simp [KeyToKey.isModifierOrLikeModifier, unmodifying, ToEvent.isEventLikeModifier,
      not_likeModifier settings defines hardware]
  have typed : EventOutputQueue.typedAs (if iskeydown then EventType.DOWN else EventType.UP)
      replacement.toKey = [(iskeydown, replacement.toKey)] := by
    cases iskeydown <;> rfl
  have flags (method : FlagStatus.Method) (selection : FlagStatus.Selection) (sending : Sending) :
      Sending.Types [] sending (sending.callFlagStatus method selection) :=
    onFlagStatus_types _ _
  unfold KeyToKey.fireToKey
  extract_lets add_to_keyrepeat newEventType readied fired
  have first : Sending.Types [] sending readied := by
    show Sending.Types [] sending (if !KeyToKey.isModifierOrLikeModifier settings _ then _ else _)
    rw [plain, if_pos (by rfl)]
    have without := flags .temporaryDecrease
      (.list replacement.keyToKey.pureFromModifierFlags_) sending
    exact without.quiet (flags _ _ _)
  have second : Sending.Types [(iskeydown, replacement.toKey)] readied fired := by
    have kind : newEventType = if iskeydown then EventType.DOWN else EventType.UP := by
      show (if ToEvent.getModifierFlag settings _ ≠ ModifierFlag.ZERO then _ else _) = _
      rw [if_neg (not_not.mpr unmodifying)]
    rw [← typed, ← kind]
    exact fire_types settings defines replacement.toTyped _ _ _ _ _ _ _ _
      (first.unchanging unchanging)
  have whole : Sending.Types [(iskeydown, replacement.toKey)] sending fired := first.quiet second
  split
  · exact whole
  · exact whole

end KeyReplacement

/-- What a replacement changes. -/
structure Kext.Types (sent : List (Bool × KeyCode)) (before after : Kext) : Prop where
  output : Output.Types sent before.output after.output
  pressingFromEvents : after.pressingFromEvents = before.pressingFromEvents
  prepareTargetItems_ : after.prepareTargetItems_ = before.prepareTargetItems_

theorem KeyReplacement.remapAccepted_types (settings : Settings) (defines : settings.DefinesVirtual)
    (replacement : KeyReplacement) (iskeydown : Bool) (physicalEventType : PhysicalEventType)
    {kext : Kext} (unchanging : kext.output.Unchanging) :
    Kext.Types [(iskeydown, replacement.toKey)] kext
      (KeyToKey.remapAccepted settings replacement.keyToKey iskeydown physicalEventType kext) := by
  have flags (method : FlagStatus.Method) (selection : FlagStatus.Selection) (sending : Sending) :
      Sending.Types [] sending (sending.callFlagStatus method selection) :=
    onFlagStatus_types _ _
  unfold KeyToKey.remapAccepted
  rw [replacement.toKeys_, replacement.afterKeys_]
  extract_lets marked modified readied fired
  have first : Output.Types [] kext.output modified.output :=
    handleModifiers_types settings replacement.keyToKey iskeydown kext.toSending
  have second : Output.Types [] modified.output readied.output ∧
      readied.pressingFromEvents = kext.pressingFromEvents ∧
      readied.prepareTargetItems_ = kext.prepareTargetItems_ := by
    show Output.Types [] modified.output (if iskeydown then _ else modified).output ∧
      (if iskeydown then _ else modified).pressingFromEvents = _ ∧
      (if iskeydown then _ else modified).prepareTargetItems_ = _
    split
    · unfold KeyToKey.startDelayedAction
      rw [if_neg (by simp [replacement.undelayed])]
      refine ⟨?_, rfl, rfl⟩
      show Sending.Types [] modified.toSending (KeyToKey.fireBeforeKeys settings _ _ _)
      unfold KeyToKey.fireBeforeKeys
      rw [replacement.beforeKeys_]
      exact (flags .temporaryDecrease (.list replacement.keyToKey.pureFromModifierFlags_) _).quiet
        (flags _ _ _)
    · exact ⟨.refl _, rfl, rfl⟩
  obtain ⟨sent, pressingFromEvents, prepareTargetItems_⟩ := second
  have ready := first.quiet sent
  have third : Output.Types [(iskeydown, replacement.toKey)] kext.output fired.output :=
    ready.quiet (replacement.fireToKey_types settings defines iskeydown physicalEventType
      (ready.unchanging unchanging))
  split
  · exact ⟨third, pressingFromEvents, prepareTargetItems_⟩
  · exact ⟨third, pressingFromEvents, prepareTargetItems_⟩

/-- An event of a keyboard, with the replacements that are offered it. -/
structure Keystroke (items : KeyReplacements) where
  eventType : EventType
  key : KeyCode
  flags : Flags
  keyboardType : KeyboardType
  now : Nat
  offered : List items.Rule

namespace Keystroke

variable {items : KeyReplacements}

/-- A key goes down or up, or a modifier changes. -/
def Ordinary (stroke : Keystroke items) : Prop :=
  (stroke.eventType = EventType.DOWN ∨ stroke.eventType = EventType.UP) ∧ stroke.key.IsTyped ∨
  stroke.eventType = EventType.MODIFY ∧ stroke.key.IsHardware ∧
    Pairs.normal.getModifierFlag stroke.key .KEYCODE ≠ ModifierFlag.ZERO

variable (settings : Settings)

def params (stroke : Keystroke items) : KeyboardEventCallBack where
  eventType := stroke.eventType
  flags := stroke.flags
  key := stroke.key
  keyboardType := stroke.keyboardType
  isRepeat := false
  ex_iskeydown := stroke.eventType.isKeyDownOrModifierDown settings.pairs stroke.key stroke.flags

/-- When a key goes down, the replacements of which the modifiers are not on do not count. -/
def event (kext : Kext) (stroke : Keystroke items) : Substitution.Event KeyCode items.Rule where
  down := stroke.eventType = EventType.DOWN
  key := stroke.key
  offered :=
    if stroke.eventType = EventType.DOWN then
      let status := kext.flagStatus.setKey settings.pairs stroke.key stroke.flags
      stroke.offered.filter fun rule => status.isOn rule.1.keyToKey.fromModifierFlags_
    else stroke.offered

end Keystroke

namespace KeyReplacements

variable (settings : Settings) (config : ComposedConfig) {items : KeyReplacements}

def step (state : State) (stroke : Keystroke items) : State :=
  Core.remap_KeyboardEventCallback settings config (stroke.params settings) stroke.now
    (stroke.offered.map offer) state

/-- What the keys of a run come to, with the replacements that count for each. -/
def events (state : State) : List (Keystroke items) → List (Substitution.Event KeyCode items.Rule)
  | [] => []
  | stroke :: strokes =>
      let rest := events (step settings config state stroke) strokes
      if stroke.eventType = EventType.MODIFY then rest
      else stroke.event settings state.kext :: rest

/-- Between two keystrokes. -/
structure Typing (state : State) : Prop where
  unprepared : state.kext.prepareTargetItems_ = []
  unchanging : state.kext.output.Unchanging

section

variable {settings config} {state : State} {stroke : Keystroke items}

theorem remap_taken (arriving : Arriving) (rule : items.Rule) {result : Result}
    (taken : result.2 = true) :
    (offer rule).1.remap settings config arriving result = result := by
  show (RemapFuncItem.callRemap settings rule.1.keyToKey arriving result).getD result = result
  unfold RemapFuncItem.callRemap KeyToKey.remap
  rw [taken, if_pos rfl]
  rfl

theorem foldl_taken (arriving : Arriving) (offered : List items.Rule) {result : Result}
    (taken : result.2 = true) :
    (offered.map offer).foldl (fun result item => item.1.remap settings config arriving result)
      result = result := by
  induction offered with
  | nil => rfl
  | cons rule offered ih => rw [List.map_cons, List.foldl_cons, remap_taken arriving rule taken, ih]

/-- The replacement takes the event. -/
def takes (kext : Kext) (params : KeyboardEventCallBack) (rule : items.Rule) : Bool :=
  rule.1.fromKey = params.key ∧ if params.ex_iskeydown then
    kext.flagStatus.isOn rule.1.keyToKey.fromModifierFlags_ = true
  else rule.1.keyToKey.address ∈ kext.pressingFromEvents

def press (params : KeyboardEventCallBack) (rule : items.Rule) (kext : Kext) : Kext :=
  { kext with pressingFromEvents :=
      if params.ex_iskeydown then kext.pressingFromEvents ++ [rule.1.keyToKey.address]
      else kext.pressingFromEvents.erase rule.1.keyToKey.address }

theorem changePressingState_eq (rule : items.Rule) (kext : Kext) (params : KeyboardEventCallBack) :
    rule.1.keyToKey.changePressingState (.keyboard params) kext =
      if takes kext params rule then some (press params rule kext) else none := by
  unfold KeyToKey.changePressingState
  rw [rule.1.fromEvent_, FromEvent.targetIsDown]
  by_cases same : params.key = rule.1.fromKey
  · rw [if_neg (not_not.mpr same)]
    cases down : params.ex_iskeydown <;> simp [takes, press, same, down]
  · have other : rule.1.fromKey ≠ params.key := Ne.symm same
    rw [if_pos same]
    simp [takes, other]

/-- What a keystroke comes to where the replacement takes it. -/
def accept (settings : Settings) (params : KeyboardEventCallBack)
    (physicalEventType : PhysicalEventType) (state : State) (rule : items.Rule) : Result :=
  (state.onKext fun kext => KeyToKey.remapAccepted settings rule.1.keyToKey params.ex_iskeydown
    physicalEventType (press params rule kext), true)

theorem remap_eq (params : KeyboardEventCallBack) (physicalEventType : PhysicalEventType)
    (now : Nat) (rule : items.Rule) (state : State) :
    (offer rule).1.remap settings config ⟨.keyboard params, physicalEventType, now⟩
    (state, false) =
      if takes state.kext params rule then accept settings params physicalEventType state rule
      else (state, false) := by
  show (RemapFuncItem.callRemap settings rule.1.keyToKey _ (state, false)).getD (state, false) = _
  unfold RemapFuncItem.callRemap KeyToKey.remap
  rw [if_neg Bool.false_ne_true]
  simp only [Params.iskeydown, changePressingState_eq]
  by_cases taken : takes state.kext params rule = true
  · rw [if_pos taken, if_pos taken]
    rfl
  · rw [if_neg taken, if_neg taken]
    rfl

/-- The first that takes the event remaps it. -/
theorem foldl_remap (params : KeyboardEventCallBack) (physicalEventType : PhysicalEventType)
    (now : Nat) (offered : List items.Rule) (state : State) :
    RemapClassManager.remap settings config (offered.map offer)
        ⟨.keyboard params, physicalEventType, now⟩ (state, false) =
      (offered.find? (takes state.kext params)).elim (state, false)
        (accept settings params physicalEventType state) := by
  unfold RemapClassManager.remap
  induction offered with
  | nil => rfl
  | cons rule offered ih =>
      rw [List.map_cons, List.foldl_cons, remap_eq]
      by_cases taken : takes state.kext params rule = true
      · rw [if_pos taken, List.find?_cons_of_pos taken, foldl_taken _ offered rfl]
        rfl
      · rw [if_neg taken, List.find?_cons_of_neg taken, ih]

theorem prepare_idle (unprepared : state.kext.prepareTargetItems_ = []) (arriving : Arriving)
    (remappings : Remappings) :
    RemapClassManager.prepare settings remappings arriving state =
      (state.onKext (·.onSending (·.onOutput fun output => { output with needToDrop_ := false })),
        false) := by
  have none : (state.onKext (·.onSending (·.onOutput fun output =>
      { output with needToDrop_ := false }))).kext.prepareTargetItems_ = [] := unprepared
  unfold RemapClassManager.prepare
  dsimp only
  rw [none]
  rfl

theorem sendKey_types (defines : settings.DefinesVirtual) {params : KeyboardEventCallBack}
    (physicalEventType : PhysicalEventType) {sending : Sending}
    (unchanging : sending.output.Unchanging)
    (passes : EventOutputQueue.Passes settings params.eventType params.key) :
    Sending.Types (EventOutputQueue.typedAs params.eventType params.key) sending
      (Core.sendKey settings params physicalEventType sending) := by
  unfold Core.sendKey
  extract_lets flags sent repeated
  exact @EventOutputQueue.fireKey_types settings defines
    ⟨sent, AutogenId.maxValue, physicalEventType⟩ sending.output unchanging passes

theorem Keystroke.passes (defines : settings.DefinesVirtual) (ordinary : stroke.Ordinary) :
    EventOutputQueue.Passes settings stroke.eventType stroke.key := by
  rcases ordinary with ⟨-, typed⟩ | ⟨modify, hardware, modifier⟩
  · exact KeyReplacement.passes settings defines typed _
  · refine ⟨hardware, fun row member same => ?_, .inr modify⟩
    have unmodifying : ∀ row ∈ KeyCode.fnkeyhack,
        Pairs.normal.getModifierFlag row.toKeyCode_ .KEYCODE = ModifierFlag.ZERO := by decide
    rw [← same] at modifier
    exact modifier (unmodifying row member)

/-- The state in which the items are offered the keystroke. -/
def arrived (settings : Settings) (stroke : Keystroke items) (state : State) : State :=
  let state := state.onKext
    (·.onSending (·.onOutput fun output => { output with needToDrop_ := false }))
  state.onKext (·.onSending (·.onFlagStatus (·.setKey settings.pairs stroke.key stroke.flags)))

/-- The replacement that takes the keystroke. -/
def taker (settings : Settings) (stroke : Keystroke items) (state : State) : Option items.Rule :=
  stroke.offered.find? (takes (arrived settings stroke state).kext (stroke.params settings))

/-- What is sent, and what is remembered. -/
structure Steps (sent : List (Bool × KeyCode)) (pressing : List Nat) (before after : State) :
    Prop where
  types : Types sent before.kext.output after.kext.output
  pressingFromEvents : after.kext.pressingFromEvents = pressing
  prepareTargetItems_ : after.kext.prepareTargetItems_ = before.kext.prepareTargetItems_

theorem Steps.typing {sent : List (Bool × KeyCode)} {pressing : List Nat} {before after : State}
    (steps : Steps sent pressing before after) (typing : Typing before) : Typing after :=
  ⟨steps.prepareTargetItems_.trans typing.unprepared, steps.types.unchanging typing.unchanging⟩

theorem step_steps (defines : settings.DefinesVirtual) (ordinary : stroke.Ordinary)
    (typing : Typing state) :
    ((taker settings stroke state).elim
      (Steps (EventOutputQueue.typedAs stroke.eventType stroke.key) state.kext.pressingFromEvents)
      fun rule => Steps [((stroke.params settings).ex_iskeydown, rule.1.toKey)]
        (press (stroke.params settings) rule state.kext).pressingFromEvents)
      state (step settings config state stroke) := by
  unfold step Core.remap_KeyboardEventCallback
  extract_lets physicalEventType arriving prepared offered taken
  have quiet : Types [] state.kext.output (arrived settings stroke state).kext.output :=
    types_of_same rfl rfl rfl
  have idle : prepared = _ := prepare_idle typing.unprepared arriving items.remappings
  have offering : offered = (arrived settings stroke state, false) := by
    unfold offered
    rw [idle]
    rfl
  have all : taken = _ := (congrArg (RemapClassManager.remap settings config
    (stroke.offered.map offer) arriving) offering).trans
      (foldl_remap (stroke.params settings) physicalEventType stroke.now stroke.offered
        (arrived settings stroke state))
  rw [all]
  unfold taker
  generalize stroke.offered.find? (takes (arrived settings stroke state).kext
    (stroke.params settings)) = found
  cases found with
  | none =>
      have sent := @sendKey_types settings defines (stroke.params settings) physicalEventType _
        (quiet.unchanging typing.unchanging) (Keystroke.passes defines ordinary)
      exact ⟨quiet.quiet sent, rfl, rfl⟩
  | some rule =>
      have types := @KeyReplacement.remapAccepted_types settings defines rule.1
        (stroke.params settings).ex_iskeydown physicalEventType
        (press (stroke.params settings) rule (arrived settings stroke state).kext)
        (quiet.unchanging typing.unchanging)
      exact ⟨quiet.quiet types.output, types.pressingFromEvents, types.prepareTargetItems_⟩

/-- A key that goes down or up chooses as the abstract rules do. -/
theorem chosen_eq
    (pressed : stroke.eventType = EventType.DOWN ∨ stroke.eventType = EventType.UP) :
    items.rules.chosen state.kext.pressingFromEvents (stroke.event settings state.kext) =
      taker settings stroke state := by
  unfold Substitution.Rules.chosen Keystroke.event taker
  rcases pressed with down | up
  · have iskeydown : (stroke.params settings).ex_iskeydown = true := by
      simp [Keystroke.params, EventType.isKeyDownOrModifierDown, down]
    dsimp only
    rw [if_pos down, List.find?_filter]
    congr 1
    funext rule
    simp only [Substitution.Rules.takes, down, decide_true, Bool.true_or, Bool.and_true, takes,
      iskeydown, if_true, decide_eq_true_eq]
    rw [decide_eq_decide]
    exact and_comm
  · have other : stroke.eventType ≠ EventType.DOWN := by
      rw [up]
      decide
    have iskeyup : (stroke.params settings).ex_iskeydown = false := by
      simp [Keystroke.params, EventType.isKeyDownOrModifierDown, up, EventType.DOWN, EventType.UP,
        EventType.MODIFY]
    dsimp only
    rw [if_neg other]
    congr 1
    funext rule
    simp only [Substitution.Rules.takes, other, decide_false, Bool.false_or, takes, iskeyup,
      Bool.false_eq_true, if_false]
    rw [Bool.decide_and]
    rfl

theorem step_sent (defines : settings.DefinesVirtual) (ordinary : stroke.Ordinary)
    (typing : Typing state) (sends : stroke.eventType ≠ EventType.MODIFY) :
    Steps [items.rules.sent state.kext.pressingFromEvents (stroke.event settings state.kext)]
      (items.rules.step state.kext.pressingFromEvents (stroke.event settings state.kext)) state
      (step settings config state stroke) := by
  have pressed := (ordinary.resolve_right fun modify => sends modify.1).1
  have steps := @step_steps settings config items state stroke defines ordinary typing
  have iskeydown : (stroke.params settings).ex_iskeydown =
      decide (stroke.eventType = EventType.DOWN) := by
    rcases pressed with down | up
    · simp [Keystroke.params, EventType.isKeyDownOrModifierDown, down]
    · simp [Keystroke.params, EventType.isKeyDownOrModifierDown, up, EventType.DOWN, EventType.UP,
        EventType.MODIFY]
  rw [← chosen_eq pressed] at steps
  unfold Substitution.Rules.sent Substitution.Rules.step
  cases chosen : items.rules.chosen state.kext.pressingFromEvents
    (stroke.event settings state.kext) with
  | none =>
      rw [chosen] at steps
      have typed : EventOutputQueue.typedAs stroke.eventType stroke.key =
          [(decide (stroke.eventType = EventType.DOWN), stroke.key)] := by
        rcases pressed with down | up
        · simp [EventOutputQueue.typedAs, down]
        · simp [EventOutputQueue.typedAs, up, EventType.DOWN, EventType.UP]
      rw [typed] at steps
      exact steps
  | some rule =>
      rw [chosen] at steps
      unfold press at steps
      rw [iskeydown] at steps
      exact steps

theorem step_modify (defines : settings.DefinesVirtual) (ordinary : stroke.Ordinary)
    (typing : Typing state) (modify : stroke.eventType = EventType.MODIFY) :
    Steps [] state.kext.pressingFromEvents state (step settings config state stroke) := by
  have steps := @step_steps settings config items state stroke defines ordinary typing
  have modifier : Pairs.normal.getModifierFlag stroke.key .KEYCODE ≠ ModifierFlag.ZERO := by
    rcases ordinary with ⟨down | up, -⟩ | ⟨-, -, modifier⟩
    · rw [modify] at down
      exact absurd down (by decide)
    · rw [modify] at up
      exact absurd up (by decide)
    · exact modifier
  have none_takes : taker settings stroke state = none := by
    rw [taker, List.find?_eq_none]
    intro rule _ taken
    have same : rule.1.fromKey = stroke.key := (of_decide_eq_true taken).1
    exact modifier (same ▸ rule.1.fromTyped.unmodifying)
  rw [none_takes] at steps
  have typed : EventOutputQueue.typedAs stroke.eventType stroke.key = [] := by
    simp [EventOutputQueue.typedAs, modify, EventType.DOWN, EventType.UP, EventType.MODIFY]
  rw [typed] at steps
  exact steps

theorem run_sent (defines : settings.DefinesVirtual) {strokes : List (Keystroke items)}
    (ordinary : ∀ stroke ∈ strokes, stroke.Ordinary) (typing : Typing state) :
    (Transition.run (step settings config) state strokes).kext.output.typed =
      state.kext.output.typed ++ Substitution.Rules.sentAll items.rules.step items.rules.sent
        state.kext.pressingFromEvents (events settings config state strokes) := by
  induction strokes generalizing state with
  | nil => exact (List.append_nil _).symm
  | cons stroke strokes ih =>
      obtain ⟨here, rest⟩ := List.forall_mem_cons.1 ordinary
      rw [Transition.run_cons, events]
      by_cases modify : stroke.eventType = EventType.MODIFY
      · have steps := @step_modify settings config items state stroke defines here typing modify
        rw [if_pos modify, ih rest (steps.typing typing), steps.types.typed,
          steps.pressingFromEvents, List.append_nil]
      · have steps := @step_sent settings config items state stroke defines here typing modify
        rw [if_neg modify, ih rest (steps.typing typing), steps.types.typed,
          steps.pressingFromEvents, List.append_assoc]
        rfl

/-- The keys go down and up as the keystrokes do. A key is sent as the first replacement that counts
when it goes down, also when it goes up, whatever the items are offered in between. -/
theorem run_replaces (defines : settings.DefinesVirtual) {strokes : List (Keystroke items)}
    (ordinary : ∀ stroke ∈ strokes, stroke.Ordinary) (typing : Typing state)
    (idle : state.kext.pressingFromEvents = [])
    (permitted : Transition.Along items.rules.hold Substitution.Rules.Permitted (fun _ => none)
      (events settings config state strokes)) :
    (Transition.run (step settings config) state strokes).kext.output.typed =
      state.kext.output.typed ++ Substitution.Rules.sentAll items.rules.hold items.rules.sentHeld
        (fun _ => none) (events settings config state strokes) := by
  rw [run_sent defines ordinary typing, idle,
    Substitution.Rules.sentAll_eq Substitution.Rules.Agrees.start permitted]

end

/-- A virtual modifier, and the key codes of an item of the preferences. -/
def virtualSettings : Settings :=
  { KeyToKey.normalSettings with
    extra := [⟨⟨13⟩, fun type => .virtual (200 + type.ctorIdx)⟩]
    virtual := by
      simpa [Pairs.AreVirtual] using (by decide : ModifierFlag.getRawBits ⟨13⟩ = 0)
    vkConfig := [⟨0, .virtual 210, .virtual 211, .virtual 212, .virtual 213⟩] }

/-- From the key code 0 with modifiers. -/
def fromLetter (address : Nat) (modifiers : List ModifierFlag) (toKey : Nat) : KeyToKey :=
  let fromValues := (Bridge.DATATYPE_KEYCODE, 0) ::
    modifiers.map fun modifier => (Bridge.DATATYPE_MODIFIERFLAG, modifier.value)
  (fromValues ++ [(Bridge.DATATYPE_KEYCODE, toKey)]).foldl
    (fun keyToKey value => keyToKey.add virtualSettings.pairs value.1 value.2)
    { address := address, autogenId_ := 0 }

def letterReplacement : KeyReplacement where
  keyToKey := fromLetter 0 [] 11
  fromKey := ⟨0⟩
  toKey := ⟨11⟩
  toFlags := []
  fromTyped := ⟨by decide, by decide, by decide⟩
  toTyped := ⟨by decide, by decide, by decide⟩
  fromEvent_ := rfl
  toKeys_ := rfl
  beforeKeys_ := rfl
  afterKeys_ := rfl
  undelayed := rfl

def shiftedReplacement : KeyReplacement where
  keyToKey := fromLetter 1 [.SHIFT_L] 8
  fromKey := ⟨0⟩
  toKey := ⟨8⟩
  toFlags := []
  fromTyped := ⟨by decide, by decide, by decide⟩
  toTyped := ⟨by decide, by decide, by decide⟩
  fromEvent_ := rfl
  toKeys_ := rfl
  beforeKeys_ := rfl
  afterKeys_ := rfl
  undelayed := rfl

def letters : KeyReplacements := ⟨[shiftedReplacement, letterReplacement], by decide⟩

def shiftedRule : letters.Rule := ⟨shiftedReplacement, by simp [letters]⟩

def letterRule : letters.Rule := ⟨letterReplacement, by simp [letters]⟩

theorem letters_rule (rule : letters.Rule) : rule = shiftedRule ∨ rule = letterRule := by
  rcases List.mem_pair.mp rule.2 with same | same
  · exact .inl (Subtype.ext same)
  · exact .inr (Subtype.ext same)

def letterStroke (eventType : EventType) (key : KeyCode) (flags : Flags)
    (offered : List letters.Rule) : Keystroke letters :=
  ⟨eventType, key, flags, .MACBOOK, 0, offered⟩

/-- The key goes down with SHIFT_L, and goes up without it. Meanwhile the items have changed
their order. -/
def letterStrokes : List (Keystroke letters) :=
  [letterStroke .MODIFY .SHIFT_L ⟨0x20002⟩ [shiftedRule, letterRule],
    letterStroke .DOWN ⟨0⟩ ⟨0x20002⟩ [shiftedRule, letterRule],
    letterStroke .MODIFY .SHIFT_L ⟨0⟩ [shiftedRule, letterRule],
    letterStroke .UP ⟨0⟩ ⟨0⟩ [letterRule, shiftedRule],
    letterStroke .DOWN ⟨0⟩ ⟨0⟩ [shiftedRule, letterRule],
    letterStroke .UP ⟨0⟩ ⟨0⟩ [shiftedRule, letterRule]]

theorem run_replaces_letters :
    (Transition.run (step virtualSettings ⟨300, 50, 100, 83⟩)
      { kext := KeyToKeys.start virtualSettings } letterStrokes).kext.output.typed =
        [(true, ⟨8⟩), (false, ⟨8⟩), (true, ⟨11⟩), (false, ⟨11⟩)] := by
  have defines : virtualSettings.DefinesVirtual := by
    constructor
    · intro pair member type
      obtain rfl := List.mem_singleton.mp member
      cases type <;> decide
    · intro item member
      obtain rfl := List.mem_singleton.mp member
      decide
  have ordinary : ∀ stroke ∈ letterStrokes, stroke.Ordinary := by
    have typed : KeyCode.IsTyped ⟨0⟩ := ⟨by decide, by decide, by decide⟩
    have shift : KeyCode.IsHardware .SHIFT_L ∧
        Pairs.normal.getModifierFlag .SHIFT_L .KEYCODE ≠ ModifierFlag.ZERO := by decide
    simp only [letterStrokes, List.forall_mem_cons, List.not_mem_nil, false_implies, implies_true,
      and_true]
    exact ⟨.inr ⟨rfl, shift⟩, .inl ⟨.inl rfl, typed⟩, .inr ⟨rfl, shift⟩, .inl ⟨.inr rfl, typed⟩,
      .inl ⟨.inl rfl, typed⟩, .inl ⟨.inr rfl, typed⟩⟩
  have permitted : Transition.Along letters.rules.hold Substitution.Rules.Permitted (fun _ => none)
      (events virtualSettings ⟨300, 50, 100, 83⟩
        { kext := KeyToKeys.start virtualSettings } letterStrokes) := by
    refine ⟨rfl, fun rule _ => ?_, ?_, fun rule _ => ?_, trivial⟩
    · show rule ∈ [letterRule, shiftedRule]
      rcases letters_rule rule with rfl | rfl <;> simp
    · show letters.rules.hold _ _ ⟨0⟩ = none
      exact Function.update_self _ _ _
    · show rule ∈ [shiftedRule, letterRule]
      rcases letters_rule rule with rfl | rfl <;> simp
  rw [run_replaces defines ordinary ⟨rfl, rfl, rfl⟩ rfl permitted]
  decide +kernel

end KeyReplacements

end Karabiner
