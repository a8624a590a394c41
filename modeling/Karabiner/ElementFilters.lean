import Karabiner.FilterMeaning

set_option autoImplicit false

/- The words of an element make a filter that blocks as the element says. -/
namespace Karabiner

namespace FilterVector

open Bridge FilterMeaning

theorem names_scope {symbolMap : SymbolMap} {scope : String} {arg : List Char} {v : UInt32}
    (found : symbolMap.get (Text.normalizeIdentifier (scope ++ .ofList arg)) = .ok v) :
    Names symbolMap (scope.toList ++ arg) v.toNat := by
  refine ⟨v, ?_, rfl⟩
  rwa [String.ofList_append, String.ofList_toList]

/-- How a filter of names is written. -/
def IsNamed (filterType : Nat) : Prop :=
  Grouped filterType 1 ∧ isModifier filterType = false ∧ hasDatatype filterType = false ∧
    isDevice filterType = false

/-- How a filter of typed names is written. -/
def IsTyped (filterType : Nat) : Prop :=
  Grouped filterType 2 ∧ isModifier filterType = false ∧ hasDatatype filterType = true ∧
    isDevice filterType = false

instance (filterType : Nat) : Decidable (IsNamed filterType) :=
  inferInstanceAs (Decidable (_ ∧ _ ∧ _ ∧ _))

instance (filterType : Nat) : Decidable (IsTyped filterType) :=
  inferInstanceAs (Decidable (_ ∧ _ ∧ _ ∧ _))

/-- The word of a name. -/
def NamedBlock (P : List Char → Nat → Prop) (arg : List Char) (block : List UInt32) : Prop :=
  ∃ v, P arg (UInt32.toNat v) ∧ block = [v]

/-- The words of a name with its type. -/
def TypedBlock (symbolMap : SymbolMap) (arg : List Char) (block : List UInt32) : Prop :=
  ∃ v, Names symbolMap arg (UInt32.toNat v) ∧ block = [.ofNat (datatype arg), v]

section

variable {symbolMap : SymbolMap} {filterType : Nat} {scope : String}

theorem addArgument_named
    (plain : isModifier filterType = false ∧ hasDatatype filterType = false ∧
      isDevice filterType = false) (words : List UInt32) (arg : List Char) (next : List UInt32)
    (added : addArgument symbolMap filterType scope words arg = .ok next) :
    ∃ block, NamedBlock (fun token => Names symbolMap (scope.toList ++ token)) arg block ∧
      next = words ++ block := by
  rw [addArgument, plain.1, plain.2.1, plain.2.2, Bool.false_and] at added
  obtain ⟨_, same, added⟩ := Throwing.bind_ok added
  obtain rfl := Except.ok.inj same
  obtain ⟨v, found, added⟩ := Throwing.bind_ok added
  exact ⟨[v], ⟨v, names_scope found, rfl⟩, (Except.ok.inj added).symm⟩

theorem addArgument_typed (plain : isModifier filterType = false)
    (typed : hasDatatype filterType = true) (words : List UInt32) (arg : List Char)
    (next : List UInt32) (added : addArgument symbolMap filterType scope words arg = .ok next) :
    ∃ block, TypedBlock symbolMap arg block ∧ next = words ++ block := by
  rw [addArgument, plain, typed] at added
  obtain ⟨v, found, added⟩ := Throwing.bind_ok added
  exact ⟨_, ⟨v, ⟨v, found, rfl⟩, rfl⟩, (Except.ok.inj added).symm⟩

theorem datatype_lt (token : List Char) : datatype token < 2 ^ 32 := by
  rw [datatype, Utilities.getDatatype]
  split
  · next type found =>
    have member := List.mem_of_find?_eq_some found
    clear found
    revert type
    decide +kernel
  · decide

/-- The words of the arguments are in front of the size and the type. -/
theorem add_ok {text : String} {words : List UInt32} (plain : isDevice filterType = false)
    (encoded : add symbolMap filterType scope text = .ok words) :
    ∃ appended, (Text.tokens ',' (Text.removeWhitespaces text).toList).foldlM
        (addArgument symbolMap filterType scope) [] = .ok appended ∧
      (if appended.isEmpty then []
        else .ofNat (appended.length + 1) :: .ofNat filterType :: appended) = words := by
  obtain ⟨appended, added, finished⟩ := Throwing.bind_ok encoded
  rw [plain] at finished
  obtain ⟨_, same, finished⟩ := Throwing.bind_ok finished
  obtain rfl := Except.ok.inj same
  exact ⟨_, added, Except.ok.inj finished⟩

theorem Decodes.mono {words : List UInt32} {P Q : RemapFilter → Prop}
    (decodes : Decodes words P) (weaker : ∀ filter, P filter → Q filter) : Decodes words Q := by
  intro buffer p rest small here
  obtain ⟨behind, filter, created, own⟩ := decodes buffer p rest small here
  exact ⟨behind, filter, created, weaker filter own⟩

theorem decodes_if_mono {args : List (List Char)} {words : List UInt32} {P Q : RemapFilter → Prop}
    (found : if args = [] then words = [] else Decodes words P)
    (weaker : args ≠ [] → ∀ filter, P filter → Q filter) :
    if args = [] then words = [] else Decodes words Q := by
  by_cases empty : args = []
  · rw [if_pos empty] at found ⊢
    exact found
  · rw [if_neg empty] at found ⊢
    exact found.mono (weaker empty)

/-- One filter has all the properties. -/
theorem Decodes.all {Index : Type} {words : List UInt32} {P : RemapFilter → Prop}
    {Q : Index → RemapFilter → Prop} (decodes : Decodes words P)
    (each : ∀ i, Decodes words (Q i)) : Decodes words fun filter => P filter ∧
    ∀ i, Q i filter := by
  intro buffer p rest small here
  obtain ⟨behind, filter, created, own⟩ := decodes buffer p rest small here
  refine ⟨behind, filter, created, own, fun i => ?_⟩
  obtain ⟨_, other, again, also⟩ := each i buffer p rest small here
  rw [created] at again
  rwa [Option.some.inj again]

theorem named_values {P : List Char → Nat → Prop} {args : List (List Char)}
    {blocks : List (List UInt32)}
    (named : List.Forall₂ (NamedBlock P) args blocks) :
    List.Forall₂ P args (blocks.flatten.map UInt32.toNat) := by
  induction named with
  | nil => exact .nil
  | cons own _ ih =>
      obtain ⟨v, names, rfl⟩ := own
      exact .cons names ih

theorem typed_pairs {args : List (List Char)} {blocks : List (List UInt32)}
    (typed : List.Forall₂ (TypedBlock symbolMap) args blocks) :
    List.Forall₂ (Typed symbolMap) args (blocks.filterMap RemapFilter.pair) := by
  apply Related.filterMap_right _ typed
  rintro arg block ⟨v, names, rfl⟩
  exact ⟨_, rfl, UInt32.toNat_ofNat_of_lt' (datatype_lt arg), names⟩

/-- What decodes_written says of a filter whose blocks come from the arguments. -/
theorem decodes_arguments {n : Nat} {args : List (List Char)} {blocks : List (List UInt32)}
    {words : List UInt32} {R : List Char → List UInt32 → Prop} {P : RemapFilter → Prop}
    (grouped : Grouped filterType n) (positive : 0 < n) (made : List.Forall₂ R args blocks)
    (even : ∀ arg block, R arg block → block.length = n)
    (written : (if blocks.flatten.isEmpty then []
      else .ofNat (blocks.flatten.length + 1) :: .ofNat filterType :: blocks.flatten) = words)
    (own : P { type := filterType, targets := blocks }) :
    if args = [] then words = []
    else Decodes words fun filter => filter.type = filterType ∧ P filter := by
  have found := decodes_written P grouped positive (Related.forall_right even made) written own
  rw [if_congr (Related.nil_iff made) rfl rfl] at found
  apply decodes_if_mono found
  intro _ filter own
  exact ⟨own.1, own.2.2⟩

/-- A filter of names compares the values of the names, in their order. -/
theorem add_named {text : String} {words : List UInt32} {args : List (List Char)}
    (named : IsNamed filterType)
    (made : Text.tokens ',' (Text.removeWhitespaces text).toList = args)
    (encoded : add symbolMap filterType scope text = .ok words) :
    if args = [] then words = []
    else Decodes words fun filter => filter.type = filterType ∧
      List.Forall₂ (fun token value => Names symbolMap (scope.toList ++ token) value) args
        filter.values := by
  obtain ⟨grouped, plain⟩ := named
  obtain ⟨_, added, written⟩ := add_ok plain.2.2 encoded
  rw [made] at added
  obtain ⟨blocks, named, rfl⟩ := Related.foldlM_appends (addArgument_named plain) added
  apply decodes_arguments grouped (by decide) named _ written (named_values named)
  rintro arg block ⟨v, _, rfl⟩
  rfl

/-- A filter of typed names compares the types and the values. -/
theorem add_typed {text : String} {words : List UInt32} {args : List (List Char)}
    (isTyped : IsTyped filterType)
    (split : Text.tokens ',' (Text.removeWhitespaces text).toList = args)
    (encoded : add symbolMap filterType scope text = .ok words) :
    if args = [] then words = []
    else Decodes words fun filter => filter.type = filterType ∧
      List.Forall₂ (Typed symbolMap) args filter.pairs := by
  obtain ⟨grouped, typed⟩ := isTyped
  obtain ⟨_, added, written⟩ := add_ok typed.2.2 encoded
  rw [split] at added
  obtain ⟨blocks, made, rfl⟩ :=
    Related.foldlM_appends (addArgument_typed typed.1 typed.2.1) added
  apply decodes_arguments grouped (by decide) made _ written (typed_pairs made)
  rintro arg block ⟨v, _, rfl⟩
  rfl

end

end FilterVector

namespace RemapFilter

open Symbols (flat)

def isEventPair (pair : UInt32 × UInt32) : Bool := pair.1.toNat = Bridge.DATATYPE_EVENTTYPE

/-- The words that LastSentEventFilter keeps of a pair and of the event type behind it. -/
def eventTarget (item : (UInt32 × UInt32) × Option (UInt32 × UInt32)) : List UInt32 :=
  item.1.1 :: item.1.2 :: (item.2.map (·.2)).toList

/-- The constructor of LastSentEventFilter takes every event type to the pair in front of it. -/
theorem readLastSentEvents_flat {buffer : VectorBuffer} {vec length : Nat} {rest : List UInt32} :
    ∀ (pairs : List (UInt32 × UInt32)) (i fuel : Nat) (before : List (List UInt32)),
      buffer.words.drop (vec + i) = flat pairs ++ rest → length = i + 2 * pairs.length →
      pairs.length ≤ fuel →
      (readLastSentEvents buffer vec length fuel i before).value =
        before ++ (qualified isEventPair pairs).map eventTarget
  | [], i, fuel, before, _, whole, _ => by
      rw [qualified, List.map_nil, List.append_nil]
      rw [List.length_nil] at whole
      cases fuel with
      | zero => rfl
      | succ fuel =>
          rw [readLastSentEvents, if_neg (by omega)]
          rfl
  | [first], i, fuel + 1, before, here, whole, _ => by
      rw [List.length_singleton] at whole
      obtain ⟨datatype, next⟩ := VectorBuffer.words_drop_cons here
      obtain ⟨newval, later⟩ := VectorBuffer.words_drop_cons next
      have newval : buffer.word (vec + (i + 1)) = first.2 := newval
      have tail := readLastSentEvents_flat [] (i + 2) fuel (before ++ [[first.1, first.2]]) later
        whole (Nat.zero_le _)
      rw [readLastSentEvents, if_pos (by omega), Traced.value_bind, VectorBuffer.readWord_value,
        Traced.value_bind, VectorBuffer.readWord_value, if_neg (by omega), datatype,
        newval, tail, qualified, List.map_nil, List.append_nil]
      rfl
  | first :: second :: others, i, fuel + 1, before, here, whole, enough => by
      simp only [List.length_cons] at whole enough
      obtain ⟨datatype, next⟩ := VectorBuffer.words_drop_cons here
      obtain ⟨newval, later⟩ := VectorBuffer.words_drop_cons next
      obtain ⟨kind, behind⟩ := VectorBuffer.words_drop_cons later
      obtain ⟨eventType, last⟩ := VectorBuffer.words_drop_cons behind
      have newval : buffer.word (vec + (i + 1)) = first.2 := newval
      have kind : buffer.word (vec + (i + 2)) = second.1 := kind
      have eventType : buffer.word (vec + (i + 3)) = second.2 := eventType
      rw [readLastSentEvents, if_pos (by omega), Traced.value_bind, VectorBuffer.readWord_value,
        Traced.value_bind, VectorBuffer.readWord_value, if_pos (by omega), Traced.value_bind,
        VectorBuffer.readWord_value, datatype, newval, kind, qualified]
      by_cases event : second.1.toNat = Bridge.DATATYPE_EVENTTYPE
      · have whole : length = i + 4 + 2 * others.length := by omega
        have tail := readLastSentEvents_flat others (i + 4) fuel
          (before ++ [[first.1, first.2, second.2]]) last whole (by omega)
        rw [if_pos event, if_pos (show isEventPair second = true from decide_eq_true event),
          Traced.value_bind, VectorBuffer.readWord_value, eventType, tail, List.append_assoc]
        rfl
      · have plain : isEventPair second ≠ true := fun yes => event (of_decide_eq_true yes)
        have whole : length = i + 2 + 2 * (second :: others).length := by
          rw [List.length_cons]
          omega
        have tail := readLastSentEvents_flat (second :: others) (i + 2) fuel
          (before ++ [[first.1, first.2]]) later whole (by rw [List.length_cons]; omega)
        rw [if_neg event, if_neg plain, tail, List.append_assoc]
        rfl

theorem create_lastSentEvents {buffer : VectorBuffer} {vec : Nat} {type : UInt32}
    {pairs : List (UInt32 × UInt32)} {rest : List UInt32}
    (kind : type.toNat = Bridge.FILTERTYPE_LASTSENTEVENT_NOT ∨
      type.toNat = Bridge.FILTERTYPE_LASTSENTEVENT_ONLY)
    (here : buffer.words.drop vec = type :: flat pairs ++ rest) :
    (create buffer vec ((flat pairs).length + 1)).value =
      some { type := type.toNat, targets := (qualified isEventPair pairs).map eventTarget } := by
  obtain ⟨first, others⟩ := VectorBuffer.words_drop_cons here
  have known : Bridge.FILTERTYPE_NONE < type.toNat ∧ type.toNat < Bridge.FILTERTYPE_END := by
    rcases kind with same | same <;> rw [same] <;> decide
  have whole : (flat pairs).length = 0 + 2 * pairs.length := by
    rw [Symbols.flat_length, Nat.zero_add]
  have all := readLastSentEvents_flat pairs 0 (flat pairs).length [] others whole (by omega)
  rw [create, if_neg (by omega), Traced.value_bind, VectorBuffer.readWord_value, first]
  dsimp only
  rw [if_pos known, if_pos kind, Traced.value_bind, Nat.add_sub_cancel, all]
  rfl

end RemapFilter

namespace FilterVector

open Bridge FilterMeaning
open Symbols (flat)

section

variable {symbolMap : SymbolMap} {filterType : Nat} {scope : String}

/-- A pair with the datatype and the value of a name. -/
def TypedPair (symbolMap : SymbolMap) (arg : List Char) (pair : UInt32 × UInt32) : Prop :=
  pair.1.toNat = datatype arg ∧ Names symbolMap arg pair.2.toNat

theorem typedPairs_of_blocks {args : List (List Char)} {blocks : List (List UInt32)}
    (typed : List.Forall₂ (TypedBlock symbolMap) args blocks) :
    ∃ pairs, List.Forall₂ (TypedPair symbolMap) args pairs ∧ blocks.flatten = flat pairs := by
  induction typed with
  | nil => exact ⟨[], .nil, rfl⟩
  | @cons arg _ _ _ own _ ih =>
      obtain ⟨v, names, rfl⟩ := own
      obtain ⟨pairs, others, flattened⟩ := ih
      refine ⟨(.ofNat (datatype arg), v) :: pairs, .cons ⟨?_, names⟩ others, ?_⟩
      · exact UInt32.toNat_ofNat_of_lt' (datatype_lt arg)
      · rw [List.flatten_cons, flattened]
        rfl

/-- Names and pairs are qualified by event types in the same places. -/
theorem typedEvents_of_pairs {args : List (List Char)} {pairs : List (UInt32 × UInt32)}
    (typed : List.Forall₂ (TypedPair symbolMap) args pairs) :
    List.Forall₂ (TypedEvent symbolMap) (qualified isEventType args)
      (((qualified RemapFilter.isEventPair pairs).map RemapFilter.eventTarget).filterMap
        LastSentEventFilter.item) := by
  have agree (arg : List Char) (pair : UInt32 × UInt32) (own : TypedPair symbolMap arg pair) :
      isEventType arg = RemapFilter.isEventPair pair := by
    rw [isEventType, RemapFilter.isEventPair, own.1]
  rw [List.filterMap_map]
  apply Related.filterMap_right _ (qualified_forall₂ agree typed)
  rintro ⟨arg, behind⟩ ⟨pair, next⟩ ⟨⟨kind, named⟩, event⟩
  cases event with
  | none => exact ⟨_, rfl, kind, named, rfl⟩
  | some also => exact ⟨_, rfl, kind, named, also.2⟩

theorem add_lastSentEvent {text : String} {words : List UInt32} {args : List (List Char)}
    (kind : filterType = FILTERTYPE_LASTSENTEVENT_NOT ∨
      filterType = FILTERTYPE_LASTSENTEVENT_ONLY)
    (split : Text.tokens ',' (Text.removeWhitespaces text).toList = args)
    (encoded : add symbolMap filterType scope text = .ok words) :
    if args = [] then words = []
    else Decodes words fun filter => filter.type = filterType ∧
      List.Forall₂ (TypedEvent symbolMap) (qualified isEventType args)
        (LastSentEventFilter.items filter) := by
  have typed : isModifier filterType = false ∧ hasDatatype filterType = true ∧
      isDevice filterType = false := by
    rcases kind with rfl | rfl <;> decide
  obtain ⟨_, added, written⟩ := add_ok typed.2.2 encoded
  rw [split] at added
  obtain ⟨blocks, made, rfl⟩ :=
    Related.foldlM_appends (addArgument_typed typed.1 typed.2.1) added
  obtain ⟨pairs, paired, flattened⟩ := typedPairs_of_blocks made
  rw [List.nil_append, flattened] at written
  have none_iff := Related.nil_iff paired
  by_cases empty : args = []
  · rw [none_iff.2 empty] at written
    rw [if_pos empty, ← written]
    rfl
  · rw [if_neg empty]
    have nonempty : (flat pairs).isEmpty = false := by
      cases pairs with
      | nil => exact (empty (none_iff.1 rfl)).elim
      | cons => rfl
    rw [nonempty, if_neg Bool.false_ne_true] at written
    rw [← written]
    intro buffer p rest small here
    obtain ⟨size, next⟩ := VectorBuffer.words_drop_cons here
    have fits : (flat pairs).length + 1 < 2 ^ 32 := by
      have length := congrArg List.length here
      simp only [MAX_ALLOCATION_COUNT] at small
      simp only [List.length_drop, VectorBuffer.words_length, List.length_cons,
        List.length_append] at length
      omega
    have count : (buffer.word p).toNat = (flat pairs).length + 1 := by
      rw [size]
      exact UInt32.toNat_ofNat_of_lt' fits
    have type : (UInt32.ofNat filterType).toNat = filterType := by
      rcases kind with rfl | rfl <;> rfl
    rw [← type] at kind
    have created := RemapFilter.create_lastSentEvents kind next
    rw [count]
    refine ⟨?_, _, created, type, typedEvents_of_pairs paired⟩
    simp only [List.length_cons]
    omega

end

/-- The filter of a meaning, and when it blocks. -/
def Stands (symbolMap : SymbolMap) (args : List (List Char)) (meaning : Meaning)
    (filter : RemapFilter) : Prop :=
  filter.type = meaning.filterType ∧
    ∀ state, filter.isblocked state = true ↔ Blocks symbolMap state args meaning

variable {symbolMap : SymbolMap}

theorem device_groups_nil_iff {groups : List DeviceGroup} :
    groups.flatMap DeviceGroup.tokens = [] ↔ groups = [] := by
  cases groups with
  | nil => exact ⟨fun _ => rfl, fun _ => rfl⟩
  | cons group groups => simp [DeviceGroup.tokens]

theorem add_device_stands {isnot : Bool} {text : String} {words : List UInt32}
    {args : List (List Char)} (any : NamesAny symbolMap) (regular : Regular args)
    (split : Text.tokens ',' (Text.removeWhitespaces text).toList = args)
    (encoded : add symbolMap (Meaning.device isnot).filterType "" text = .ok words) :
    if args = [] then words = [] else Decodes words (Stands symbolMap args (.device isnot)) := by
  have device : isDevice (Meaning.device isnot).filterType = true := by cases isnot <;> rfl
  have all (groups : List DeviceGroup) (made : args = groups.flatMap DeviceGroup.tokens) :=
    add_device device (split.trans made) encoded
  obtain ⟨groups, made⟩ := regular
  have own := all groups made
  have none_iff : groups = [] ↔ args = [] := by rw [made, device_groups_nil_iff]
  rw [if_congr none_iff rfl rfl] at own
  by_cases empty : args = []
  · rw [if_pos empty] at own ⊢
    exact own
  · rw [if_neg empty] at own ⊢
    have each (made : { groups : List DeviceGroup // args = groups.flatMap DeviceGroup.tokens }) :
        Decodes words fun filter => List.Forall₂ (DeviceGroup.Means symbolMap) made.1
          (DeviceFilter.targets filter) := by
      have decodes := all made.1 made.2
      rw [if_neg fun none => empty (by rw [made.2, none]; rfl)] at decodes
      exact decodes.mono fun filter means => means.2.2
    apply (own.all each).mono
    intro filter means
    exact ⟨means.1.1, fun state => blocks_device any means.1.1 ⟨groups, made⟩
      fun groups made => means.2 ⟨groups, made⟩⟩

theorem isNamed_listing (isnot : Bool) (names : Listing) :
    IsNamed (Meaning.listing isnot names).filterType := by
  cases isnot <;> cases names <;> decide

theorem isNamed_pressingPhysicalKeys (greaterThan : Bool) :
    IsNamed (Meaning.pressingPhysicalKeys greaterThan).filterType := by
  cases greaterThan <;> decide

theorem isTyped_lastPhysicalKey (isnot : Bool) (direction : Direction) :
    IsTyped (Meaning.lastPhysicalKey isnot direction).filterType := by
  cases isnot <;> cases direction <;> decide

theorem isTyped_elapsedTime (greaterThan : Bool) (direction : Direction) :
    IsTyped (Meaning.elapsedTime greaterThan direction).filterType := by
  cases greaterThan <;> cases direction <;> decide

theorem isModifier_modifier (isnot : Bool) (counter : Counter) :
    isModifier (Meaning.modifier isnot counter).filterType = true := by
  cases isnot <;> cases counter <;> rfl

theorem lastSentEvent_type (isnot : Bool) :
    (Meaning.lastSentEvent isnot).filterType = FILTERTYPE_LASTSENTEVENT_NOT ∨
      (Meaning.lastSentEvent isnot).filterType = FILTERTYPE_LASTSENTEVENT_ONLY := by
  cases isnot
  · exact .inr rfl
  · exact .inl rfl

/-- The words of an element with arguments make a filter that blocks as the element says. -/
theorem encode_stands {element : Tree} {meaning : Meaning} {words : List UInt32}
    {args : List (List Char)} (any : NamesAny symbolMap)
    (described : describe element.tag = some meaning) (split : arguments element = args)
    (regular : ∀ isnot, meaning = .device isnot → Regular args)
    (encoded : encode symbolMap element = .ok words) :
    if args = [] then words = [] else Decodes words (Stands symbolMap args meaning) := by
  rw [encode, typeOf_eq, described] at encoded
  change add symbolMap meaning.filterType meaning.scope element.data = .ok words at encoded
  cases meaning with
  | listing isnot names =>
      apply decodes_if_mono (add_named (isNamed_listing isnot names) split encoded)
      intro _ filter means
      exact ⟨means.1, fun _ => blocks_listing means.1 means.2⟩
  | device isnot => exact add_device_stands any (regular isnot rfl) split encoded
  | modifier isnot counter =>
      apply decodes_if_mono (add_modifier (isModifier_modifier isnot counter) split encoded)
      intro _ filter means
      exact ⟨means.1, fun _ => blocks_modifier means.1 means.2.2⟩
  | lastPhysicalKey isnot direction =>
      apply decodes_if_mono (add_typed (isTyped_lastPhysicalKey isnot direction) split encoded)
      intro _ filter means
      exact ⟨means.1, fun _ => blocks_lastPhysicalKey means.1 means.2⟩
  | lastSentEvent isnot =>
      apply decodes_if_mono (add_lastSentEvent (lastSentEvent_type isnot) split encoded)
      intro _ filter means
      exact ⟨means.1, fun _ => blocks_lastSentEvent means.1 means.2⟩
  | elapsedTime greaterThan direction =>
      apply decodes_if_mono (add_typed (isTyped_elapsedTime greaterThan direction) split encoded)
      intro _ filter means
      exact ⟨means.1, fun _ => blocks_elapsedTime means.1 means.2⟩
  | pressingPhysicalKeys greaterThan =>
      apply decodes_if_mono (add_named (isNamed_pressingPhysicalKeys greaterThan) split encoded)
      intro written filter means
      exact ⟨means.1, fun _ => blocks_pressingPhysicalKeys written means.1 means.2⟩

end FilterVector

end Karabiner
