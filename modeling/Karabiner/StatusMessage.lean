import Karabiner.FlagStatus
import Mathlib.Logic.Function.Basic

set_option autoImplicit false

/- The status messages of the lock, caps-lock and sticky counters, and the calls of
updateStatusMessage that the operations of FlagStatus make. -/
namespace Karabiner

/-- A C string in a buffer of BRIDGE_USERCLIENT_STATUS_MESSAGE_MAXLEN. -/
abbrev Message := List UInt8

namespace Message

def MAXLEN : Nat := 128

def strlcat (dst src : Message) : Message := dst ++ src.take (MAXLEN - 1 - dst.length)

theorem strlcat_eq_self_iff {dst src : Message} (short : src.length < MAXLEN - 1) :
    dst.strlcat src = src ↔ dst = [] := by
  constructor
  · intro same
    have length : dst.length + min (MAXLEN - 1 - dst.length) src.length = src.length := by
      rw [← List.length_take, ← List.length_append]
      exact congrArg List.length same
    have empty : dst.length = 0 := by omega
    exact List.length_eq_zero_iff.mp empty
  · intro empty
    rw [empty, strlcat, List.nil_append, List.length_nil, Nat.sub_zero,
      List.take_of_length_le (Nat.le_of_lt short)]

theorem strlcat_eq_nil_iff {dst src : Message} : dst.strlcat src = [] ↔ dst = [] ∧ src = [] := by
  rw [strlcat, List.append_eq_nil_iff]
  constructor
  · intro both
    obtain ⟨empty, taken⟩ := both
    rw [empty] at taken
    exact ⟨empty, by simpa [MAXLEN] using taken⟩
  · intro both
    rw [both.1, both.2]
    exact ⟨rfl, rfl⟩

end Message

/-- ModifierName::items_. -/
abbrev ModifierNames := List (ModifierFlag × Message)

namespace ModifierNames

def getName (names : ModifierNames) (flag : ModifierFlag) : Option Message :=
  (names.find? (·.1 = flag)).map Prod.snd

def ofString (name : String) : Message := name.toList.map fun c => .ofNat c.toNat

/-- The names right after clearVirtualModifiers. -/
def normal : ModifierNames :=
  [(.CAPSLOCK, ofString "caps"), (.SHIFT_L, ofString "shift"), (.SHIFT_R, ofString "shift"),
    (.CONTROL_L, ofString "control"), (.CONTROL_R, ofString "control"),
    (.OPTION_L, ofString "option"), (.OPTION_R, ofString "option"),
    (.COMMAND_L, ofString "command"), (.COMMAND_R, ofString "command"),
    (.FN, ofString "fn")]

end ModifierNames

namespace FlagStatus

/-- The indexes of the messages, in the order of updateStatusMessage. -/
inductive StatusMessage where
  | MODIFIER_LOCK
  | MODIFIER_CAPS_LOCK
  | MODIFIER_STICKY
  deriving DecidableEq, Repr

namespace StatusMessage

def indexes : List StatusMessage := [.MODIFIER_LOCK, .MODIFIER_CAPS_LOCK, .MODIFIER_STICKY]

def hyphen : Message := [0x2d]
def space : Message := [0x20]

/-- What is appended for one item. -/
def pieces (index : StatusMessage) (it : Item) (name : Message) : List Message :=
  match index with
  | .MODIFIER_LOCK =>
      if it.flag ≠ ModifierFlag.CAPSLOCK then
        if it.negativeLockCount > 0 then [hyphen, name, space]
        else if it.lockCount > 0 then [name, space]
        else []
      else []
  | .MODIFIER_CAPS_LOCK =>
      if it.flag = ModifierFlag.CAPSLOCK then
        if it.lockCount > 0 then [name, space] else []
      else []
  | .MODIFIER_STICKY => if it.stickyCount > 0 then [name, space] else []

/-- The overload with an index: the text that it leaves in statusmessage_. -/
def text (names : ModifierNames) (items : List Item) (index : StatusMessage) : Message :=
  items.foldl
    (fun message it =>
      match names.getName it.flag with
      | none => message
      | some name => (index.pieces it name).foldl Message.strlcat message)
    []

end StatusMessage

/-- CommonData::statusmessage_ and the static buffer of updateStatusMessage. -/
structure Board where
  statusmessage_ : StatusMessage → Message
  previousMessage : Message

def Board.start : Board := ⟨fun _ => [], []⟩

/-- A call of updateStatusMessage and the indexes that it sends a notification for. -/
structure Call where
  before : Board
  after : Board
  notified : List StatusMessage

section
variable (names : ModifierNames) (items : List Item)

/-- One round of the loop over the indexes. previousMessage is appended to, not set. -/
def Call.round (call : Call) (index : StatusMessage) : Call :=
  let previousMessage :=
    call.after.previousMessage.strlcat (call.after.statusmessage_ index)
  let message := index.text names items
  { call with
    after := ⟨Function.update call.after.statusmessage_ index message, previousMessage⟩
    notified :=
      if message ≠ previousMessage then call.notified ++ [index] else call.notified }

def updateStatusMessage (board : Board) : Call :=
  StatusMessage.indexes.foldl (Call.round names items) ⟨board, board, []⟩

end

/-- The first DEFINE_METHODS updates the messages for CapsLock only. -/
def Method.updatesStatusMessage (method : Method) (flag : ModifierFlag) : Bool :=
  match method with
  | .increase | .decrease | .temporaryIncrease | .temporaryDecrease
  | .lazyIncrease | .lazyDecrease => flag = ModifierFlag.CAPSLOCK
  | _ => true

/-- The global FlagStatus and the copy of it that a delayed action waits with. Both write the same
messages. calls holds every call of updateStatusMessage. -/
structure Announcer where
  pairs : Pairs
  names : ModifierNames
  status : FlagStatus
  flagStatusForDelayedActionKeys_ : FlagStatus
  board : Board
  calls : List Call

namespace Announcer

def start : Announcer where
  pairs := Pairs.normal
  names := ModifierNames.normal
  status := initialized Pairs.normal
  flagStatusForDelayedActionKeys_ := initialized Pairs.normal
  board := .start
  calls := []

def withItems (announcer : Announcer) (items : List Item) : Announcer :=
  { announcer with status := ⟨items⟩ }

def update (announcer : Announcer) : Announcer :=
  let call := updateStatusMessage announcer.names announcer.status.item announcer.board
  { announcer with board := call.after, calls := announcer.calls ++ [call] }

/-- The loop of DEFINE_METHODS, with the items that it has passed and those that are left. -/
def loop (method : Method) (selection : Selection) :
    List Item → List Item → Announcer → Announcer
  | passed, [], announcer => announcer.withItems passed
  | passed, it :: rest, announcer =>
      if selection.selects it.flag then
        let it := method.call it
        let announcer := announcer.withItems (passed ++ it :: rest)
        let announcer :=
          if method.updatesStatusMessage it.flag then announcer.update else announcer
        loop method selection (passed ++ [it]) rest announcer
      else loop method selection (passed ++ [it]) rest announcer

def perform (announcer : Announcer) (operation : Operation) : Announcer :=
  match operation with
  | .call method selection => loop method selection [] announcer.status.item announcer
  | .lazyEnable | .lazyDisableIfOff =>
      { announcer with status := announcer.status.perform announcer.pairs operation }
  | _ => { announcer with status := announcer.status.perform announcer.pairs operation }.update

/-- The operation of the copy. -/
def performOnCopy (announcer : Announcer) (operation : Operation) : Announcer :=
  let status := announcer.status
  let announcer := { announcer with status := announcer.flagStatusForDelayedActionKeys_ }
  let announcer := announcer.perform operation
  { announcer with status, flagStatusForDelayedActionKeys_ := announcer.status }

/-- initialize follows each registration of a virtual modifier. -/
inductive Step where
  | operation (operation : Operation)
  | copy
  | operationOnCopy (operation : Operation)
  | initialize_ (pairs : Pairs) (names : ModifierNames)

def step (announcer : Announcer) : Step → Announcer
  | .operation operation => announcer.perform operation
  | .copy => { announcer with flagStatusForDelayedActionKeys_ := announcer.status }
  | .operationOnCopy operation => announcer.performOnCopy operation
  | .initialize_ pairs names => { announcer with pairs, names, status := initialized pairs }

end Announcer

/-- The text that the new message of an index is compared with. -/
def Board.compared (board : Board) (index : StatusMessage) : Message :=
  let lock := board.previousMessage.strlcat (board.statusmessage_ .MODIFIER_LOCK)
  let capsLock := lock.strlcat (board.statusmessage_ .MODIFIER_CAPS_LOCK)
  match index with
  | .MODIFIER_LOCK => lock
  | .MODIFIER_CAPS_LOCK => capsLock
  | .MODIFIER_STICKY => capsLock.strlcat (board.statusmessage_ .MODIFIER_STICKY)

/-- The static buffer holds nothing but the old text wherever it is compared. -/
def Board.HoldsOld (board : Board) : Prop :=
  ∀ index, board.compared index = board.statusmessage_ index

/-- A notification is sent exactly for the messages that change. -/
def Call.Announced (call : Call) : Prop :=
  ∀ index, index ∈ call.notified ↔
    call.after.statusmessage_ index ≠ call.before.statusmessage_ index

/-- The messages are those of some counters. -/
def Board.Written (board : Board) : Prop :=
  ∃ names items, ∀ index, board.statusmessage_ index = StatusMessage.text names items index

section
variable (names : ModifierNames) (items : List Item) (board : Board)

theorem updateStatusMessage_before :
    (updateStatusMessage names items board).before = board := rfl

theorem updateStatusMessage_after (index : StatusMessage) :
    (updateStatusMessage names items board).after.statusmessage_ index =
      index.text names items := by
  cases index <;> simp [updateStatusMessage, StatusMessage.indexes, Call.round, Function.update]

theorem updateStatusMessage_notified (index : StatusMessage) :
    index ∈ (updateStatusMessage names items board).notified ↔
      index.text names items ≠ board.compared index := by
  have each : (updateStatusMessage names items board).notified =
      StatusMessage.indexes.filter fun index =>
        decide (index.text names items ≠ board.compared index) := by
    simp only [updateStatusMessage, StatusMessage.indexes, List.foldl_cons, List.foldl_nil,
      Call.round, Board.compared, List.filter_cons, List.filter_nil,
      Function.update, reduceCtorEq, dite_false]
    split <;> split <;> split <;> simp_all
  rw [each, List.mem_filter, decide_eq_true_iff, and_iff_right_iff_imp]
  intro _
  cases index <;> decide

theorem announced_iff :
    (updateStatusMessage names items board).Announced ↔
      ∀ index : StatusMessage, index.text names items ≠ board.compared index ↔
        index.text names items ≠ board.statusmessage_ index := by
  simp only [Call.Announced, updateStatusMessage_notified, updateStatusMessage_after,
    updateStatusMessage_before]

end

/-- Where the buffer holds something else, announcing the same counters again goes wrong. -/
theorem Board.announces_all_iff {board : Board} (written : board.Written) :
    (∀ names items, (updateStatusMessage names items board).Announced) ↔ board.HoldsOld := by
  constructor
  · intro announced index
    obtain ⟨names, items, same⟩ := written
    have right := (announced_iff names items board).mp (announced names items) index
    by_contra differs
    have silent : ¬index.text names items ≠ board.statusmessage_ index := by
      rw [same index]
      simp
    apply silent
    apply right.mp
    rw [← same index]
    exact fun equal => differs equal.symm
  · intro holds names items
    rw [announced_iff]
    intro index
    rw [holds index]

/-- As long as no message fills its buffer, nothing may have been appended yet, and nothing is
appended before the last message. -/
theorem Board.holdsOld_iff {board : Board}
    (short : ∀ index, (board.statusmessage_ index).length < Message.MAXLEN - 1) :
    board.HoldsOld ↔ board.previousMessage = [] ∧ board.statusmessage_ .MODIFIER_LOCK = [] ∧
      board.statusmessage_ .MODIFIER_CAPS_LOCK = [] := by
  have each : board.HoldsOld ↔ board.compared .MODIFIER_LOCK = board.statusmessage_ .MODIFIER_LOCK ∧
      board.compared .MODIFIER_CAPS_LOCK = board.statusmessage_ .MODIFIER_CAPS_LOCK ∧
      board.compared .MODIFIER_STICKY = board.statusmessage_ .MODIFIER_STICKY := by
    constructor
    · intro holds
      exact ⟨holds _, holds _, holds _⟩
    · intro holds index
      cases index with
      | MODIFIER_LOCK => exact holds.1
      | MODIFIER_CAPS_LOCK => exact holds.2.1
      | MODIFIER_STICKY => exact holds.2.2
  rw [each, Board.compared, Board.compared, Board.compared,
    Message.strlcat_eq_self_iff (short _), Message.strlcat_eq_self_iff (short _),
    Message.strlcat_eq_self_iff (short _), Message.strlcat_eq_nil_iff, Message.strlcat_eq_nil_iff,
    Message.strlcat_eq_nil_iff]
  constructor
  · intro all
    exact ⟨all.1, all.2.1.2, all.2.2.2⟩
  · intro all
    exact ⟨all.1, ⟨all.1, all.2.1⟩, ⟨all.1, all.2.1⟩, all.2.2⟩

namespace Announcer

/-- The messages are those of some counters, now and before each call so far. -/
structure Sound (announcer : Announcer) : Prop where
  now : announcer.board.Written
  calls : ∀ call ∈ announcer.calls, call.before.Written ∧
    ∃ names items, call = updateStatusMessage names items call.before

variable {announcer : Announcer}

theorem Sound.withItems (sound : announcer.Sound) (items : List Item) :
    (announcer.withItems items).Sound := ⟨sound.now, sound.calls⟩

theorem Sound.update (sound : announcer.Sound) : announcer.update.Sound where
  now := ⟨announcer.names, announcer.status.item, fun index =>
    updateStatusMessage_after announcer.names announcer.status.item announcer.board index⟩
  calls := by
    intro call member
    rcases List.mem_append.mp member with earlier | last
    · exact sound.calls call earlier
    · rw [List.mem_singleton.mp last]
      exact ⟨sound.now, announcer.names, announcer.status.item, rfl⟩

theorem Sound.loop (sound : announcer.Sound) (method : Method) (selection : Selection)
    (passed rest : List Item) : (announcer.loop method selection passed rest).Sound := by
  induction rest generalizing passed announcer with
  | nil => exact sound.withItems passed
  | cons it rest ih =>
      rw [Announcer.loop]
      split
      · apply ih
        split
        · exact (sound.withItems _).update
        · exact sound.withItems _
      · exact ih sound _

theorem Sound.perform (sound : announcer.Sound) (operation : Operation) :
    (announcer.perform operation).Sound := by
  have moved : ∀ status, Sound { announcer with status } := fun status =>
    ⟨sound.now, sound.calls⟩
  cases operation with
  | call method selection => exact sound.loop method selection [] _
  | lazyEnable => exact moved _
  | lazyDisableIfOff => exact moved _
  | set | setKey | reset | stickyActiveModifiersToggle | stickyActiveModifiersIncrease
  | stickyActiveModifiersDecrease | stickyClear | lockClear | negativeLockClear =>
      exact (moved _).update

theorem Sound.step (sound : announcer.Sound) (label : Step) : (announcer.step label).Sound := by
  cases label with
  | initialize_ pairs names => exact ⟨sound.now, sound.calls⟩
  | copy => exact ⟨sound.now, sound.calls⟩
  | operation operation => exact sound.perform operation
  | operationOnCopy operation =>
      have swapped :
          Sound { announcer with status := announcer.flagStatusForDelayedActionKeys_ } :=
        ⟨sound.now, sound.calls⟩
      have performed := swapped.perform operation
      exact ⟨performed.now, performed.calls⟩

theorem start_sound : start.Sound where
  now := ⟨[], [], fun _ => rfl⟩
  calls := by simp [start]

/-- The loop with the updates changes the counters as FlagStatus::METHOD does. -/
theorem loop_status (method : Method) (selection : Selection) (passed rest : List Item)
    (announcer : Announcer) :
    (announcer.loop method selection passed rest).status =
      ⟨passed ++ rest.map fun it =>
        if selection.selects it.flag then method.call it else it⟩ := by
  induction rest generalizing passed announcer with
  | nil => simp [loop, withItems]
  | cons it rest ih =>
      rw [loop]
      split
      · next selected => rw [ih]; simp [selected]
      · next other => rw [ih]; simp [other]

/-- Each operation leaves the counters that it leaves without the messages. -/
theorem perform_status (announcer : Announcer) (operation : Operation) :
    (announcer.perform operation).status =
      announcer.status.perform announcer.pairs operation := by
  cases operation with
  | call method selection =>
      rw [perform, loop_status, List.nil_append]
      rfl
  | _ => rfl

end Announcer

/-- A call of updateStatusMessage sends the right notifications, whatever the counters are, if
and only if the static buffer holds the old text wherever it is compared. -/
theorem status_messages_announced_iff (steps : List Announcer.Step) :
    ∀ call ∈ (Transition.run Announcer.step .start steps).calls,
      ((∀ names items, (updateStatusMessage names items call.before).Announced) ↔
        call.before.HoldsOld) ∧
      (call.before.HoldsOld → call.Announced) := by
  have sound := Transition.invariant_of_step Announcer.Sound
    (fun announcer label sound => sound.step label) steps Announcer.start_sound
  intro call member
  obtain ⟨written, names, items, same⟩ := sound.calls call member
  have exact_ := Board.announces_all_iff written
  refine ⟨exact_, fun holds => ?_⟩
  rw [same]
  exact exact_.mpr holds names items

theorem status_messages_announced_iff_first :
    let call := (Transition.run Announcer.step .start [.operation .set]).calls.head (by decide)
    ((∀ names items, (updateStatusMessage names items call.before).Announced) ↔
      call.before.HoldsOld) ∧ (call.before.HoldsOld → call.Announced) :=
  status_messages_announced_iff [.operation .set] _ (List.head_mem _)

/-- Locking Shift_L, and then an operation that changes no message. -/
theorem caps_lock_announced_unchanged :
    ¬∀ steps, ∀ call ∈ (Transition.run Announcer.step .start steps).calls,
      call.Announced := by
  intro claim
  have last := List.getLast_mem (l := (Transition.run Announcer.step .start
    [.operation (.call .lockIncrease (.flag .SHIFT_L)), .operation .set]).calls) (by decide)
  have caps := claim _ _ last .MODIFIER_CAPS_LOCK
  exact absurd caps (by decide)

end FlagStatus

end Karabiner
