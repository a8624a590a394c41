import Mathlib.Data.Option.Basic
import Karabiner.Transition

set_option autoImplicit false

/- Keys that are replaced while they go down and up. One machine remembers the names of the rules
that have replaced a key, the other remembers for each key what has replaced it. As long as a key
that goes up is offered the rule that has replaced it, both send the same. -/
namespace Substitution

variable {Key Rule Name : Type*}

/-- The names of two rules are not the same. -/
structure Rules (Key Rule Name : Type*) where
  name : Rule → Name
  source : Rule → Key
  target : Rule → Key
  named : Function.Injective name

/-- A key goes down or up, and is offered rules in their order. -/
structure Event (Key Rule : Type*) where
  down : Bool
  key : Key
  offered : List Rule

variable [DecidableEq Key] [DecidableEq Name] (rules : Rules Key Rule Name)

namespace Rules

/-- A key that goes up is replaced by a rule only if the rule is remembered. -/
def takes (active : List Name) (event : Event Key Rule) (rule : Rule) : Bool :=
  rules.source rule = event.key && (event.down || rules.name rule ∈ active)

def chosen (active : List Name) (event : Event Key Rule) : Option Rule :=
  event.offered.find? (rules.takes active event)

def replace (key : Key) (owner : Option Rule) : Key := (owner.map rules.target).getD key

def sent (active : List Name) (event : Event Key Rule) : Bool × Key :=
  (event.down, rules.replace event.key (rules.chosen active event))

def step (active : List Name) (event : Event Key Rule) : List Name :=
  match rules.chosen active event with
  | none => active
  | some rule =>
      if event.down then active ++ [rules.name rule] else active.erase (rules.name rule)

/-- The first rule for the key. -/
def first (event : Event Key Rule) : Option Rule :=
  event.offered.find? (rules.source · = event.key)

/-- For each key that is down, what has replaced it. -/
abbrev Held (Key Rule : Type*) := Key → Option (Option Rule)

def hold (held : Held Key Rule) (event : Event Key Rule) : Held Key Rule :=
  Function.update held event.key (if event.down then some (rules.first event) else none)

def sentHeld (held : Held Key Rule) (event : Event Key Rule) : Bool × Key :=
  (event.down, rules.replace event.key
    (if event.down then rules.first event else (held event.key).join))

/-- A key goes down when it is up, and is offered the rule that has replaced it when it goes up. -/
def Permitted (held : Held Key Rule) (event : Event Key Rule) : Prop :=
  if event.down then held event.key = none
  else ∀ rule ∈ (held event.key).join, rule ∈ event.offered

/-- All that is sent in a run. -/
def sentAll {State : Type*} (step : State → Event Key Rule → State)
    (sent : State → Event Key Rule → Bool × Key) : State → List (Event Key Rule) →
    List (Bool × Key)
  | _, [] => []
  | state, event :: events => sent state event :: sentAll step sent (step state event) events

/-- Of the rules for the key, the one that has replaced it is remembered once, and no other. -/
structure Owns (key : Key) (owner : Option Rule) (active : List Name) : Prop where
  source : ∀ rule ∈ owner, rules.source rule = key
  once : ∀ rule ∈ owner, active.count (rules.name rule) = 1
  others : ∀ rule, rules.source rule = key → rule ∉ owner → rules.name rule ∉ active

variable {rules} {key : Key} {owner : Option Rule} {active : List Name} {event : Event Key Rule}

theorem chosen_source {rule : Rule} (chosen : rules.chosen active event = some rule) :
    rules.source rule = event.key := by
  have taken := List.find?_some chosen
  rw [takes, Bool.and_eq_true, decide_eq_true_iff] at taken
  exact taken.1

theorem chosen_of_down (down : event.down = true) :
    rules.chosen active event = rules.first event := by
  unfold chosen first
  congr 1
  funext rule
  simp [takes, down]

/-- The rules for other keys are left alone. -/
theorem Owns.other (owns : rules.Owns key owner active) (apart : event.key ≠ key) :
    rules.Owns key owner (rules.step active event) := by
  unfold step
  split
  · exact owns
  · next chosen found =>
    have differs {rule : Rule} (source : rules.source rule = key) :
        rules.name rule ≠ rules.name chosen := by
      intro same
      rw [rules.named same, chosen_source found] at source
      exact apart source
    refine ⟨owns.source, fun rule member => ?_, fun rule source absent => ?_⟩
    · have ne := differs (owns.source rule member)
      split
      · rw [List.count_append, owns.once rule member, List.count_eq_zero_of_not_mem]
        simpa using ne
      · rw [List.count_erase_of_ne ne, owns.once rule member]
    · have none := owns.others rule source absent
      split
      · simp [none, differs source]
      · exact fun member => none (List.mem_of_mem_erase member)

theorem Owns.down (owns : rules.Owns event.key none active) (down : event.down = true) :
    rules.Owns event.key (rules.first event) (rules.step active event) := by
  have absent (rule : Rule) (source : rules.source rule = event.key) :
      rules.name rule ∉ active := owns.others rule source (by simp)
  rw [step, chosen_of_down down]
  cases found : rules.first event with
  | none => exact owns
  | some chosen =>
      have taken : rules.chosen active event = some chosen := (chosen_of_down down).trans found
      have chosen_key : rules.source chosen = event.key := chosen_source taken
      dsimp only
      rw [if_pos down]
      refine ⟨fun rule member => ?_, fun rule member => ?_, fun rule source other => ?_⟩
      · obtain rfl := Option.mem_some.1 member
        exact chosen_key
      · obtain rfl := Option.mem_some.1 member
        simp [List.count_eq_zero_of_not_mem (absent chosen chosen_key)]
      · have ne : rules.name rule ≠ rules.name chosen := by
          intro same
          exact other (Option.mem_some.2 (rules.named same).symm)
        simp [absent rule source, ne]

/-- What goes up is replaced by what has replaced it, and is forgotten. -/
theorem Owns.up (owns : rules.Owns event.key owner active) (up : event.down = false)
    (offered : ∀ rule ∈ owner, rule ∈ event.offered) :
    rules.chosen active event = owner ∧
      rules.Owns event.key none (rules.step active event) := by
  have chosen_owner : rules.chosen active event = owner := by
    cases found : rules.chosen active event with
    | some chosen =>
        have taken := List.find?_some found
        simp only [takes, up, Bool.false_or, Bool.and_eq_true, decide_eq_true_iff] at taken
        by_contra other
        have absent : chosen ∉ owner := fun member => other (Option.mem_def.1 member).symm
        exact owns.others chosen taken.1 absent taken.2
    | none =>
        cases owner with
        | none => rfl
        | some rule =>
            have here := List.find?_eq_none.1 found rule (offered rule (Option.mem_some_self rule))
            have remembered : rules.name rule ∈ active := by
              rw [← List.count_pos_iff, owns.once rule (Option.mem_some_self rule)]
              exact Nat.one_pos
            refine absurd ?_ here
            simp [takes, owns.source rule (Option.mem_some_self rule), remembered]
  refine ⟨chosen_owner, ?_⟩
  rw [step, chosen_owner]
  cases owner with
  | none => exact owns
  | some chosen =>
      dsimp only
      rw [up, if_neg Bool.false_ne_true]
      refine ⟨by simp, by simp, fun rule source _ => ?_⟩
      by_cases same : rule = chosen
      · rw [same, ← List.count_eq_zero, List.count_erase_self,
          owns.once chosen (Option.mem_some_self chosen)]
      · intro member
        exact owns.others rule source (fun here => same (Option.mem_some.1 here).symm)
          (List.mem_of_mem_erase member)

/-- What the first machine remembers is what the second one does. -/
def Agrees (rules : Rules Key Rule Name) (active : List Name) (held : Held Key Rule) : Prop :=
  ∀ key, rules.Owns key (held key).join active

omit [DecidableEq Key] in
theorem Agrees.start : rules.Agrees [] fun _ => none := by
  intro key
  exact ⟨by simp, by simp, by simp⟩

theorem Agrees.step {held : Held Key Rule} (agrees : rules.Agrees active held)
    (permitted : Permitted held event) :
    rules.sent active event = rules.sentHeld held event ∧
      rules.Agrees (rules.step active event) (rules.hold held event) := by
  have other {key : Key} (apart : event.key ≠ key) :
      rules.Owns key (rules.hold held event key).join (rules.step active event) := by
    rw [hold, Function.update_of_ne (Ne.symm apart)]
    exact (agrees key).other apart
  unfold Permitted at permitted
  cases direction : event.down with
  | true =>
      rw [if_pos direction] at permitted
      have own := agrees event.key
      rw [permitted] at own
      constructor
      · simp [sent, sentHeld, direction, chosen_of_down direction]
      · intro key
        by_cases same : event.key = key
        · subst same
          rw [hold, Function.update_self, if_pos direction]
          exact own.down direction
        · exact other same
  | false =>
      rw [if_neg (by simp [direction])] at permitted
      obtain ⟨chosen, released⟩ := (agrees event.key).up direction permitted
      constructor
      · simp [sent, sentHeld, direction, chosen]
      · intro key
        by_cases same : event.key = key
        · subst same
          rw [hold, Function.update_self, if_neg (by simp [direction])]
          exact released
        · exact other same

theorem sentAll_eq {held : Held Key Rule} {events : List (Event Key Rule)}
    (agrees : rules.Agrees active held)
    (permitted : Transition.Along rules.hold Permitted held events) :
    sentAll rules.step rules.sent active events =
      sentAll rules.hold rules.sentHeld held events := by
  induction events generalizing active held with
  | nil => rfl
  | cons event events ih =>
      obtain ⟨same, next⟩ := agrees.step permitted.1
      rw [sentAll, sentAll, same, ih next permitted.2]

end Rules

end Substitution
