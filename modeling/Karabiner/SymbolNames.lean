import Karabiner.SymbolMap
import Karabiner.PartialRun

set_option autoImplicit false

/- xml_compiler::symbol_map with its table for get_name, and what its callers have been told: the
values that add returned. -/
namespace Karabiner

namespace SymbolMap

theorem find_append (symbolMap : SymbolMap) (name other : String) (value : UInt32) :
    (SymbolMap.mk (symbolMap.entries ++ [(name, value)])).find other =
      (symbolMap.find other).or (if other = name then some value else none) := by
  unfold find
  rw [List.lookup_append]
  congr 1
  by_cases same : other = name
  · simp [same]
  · have distinct : (other == name) = false := by simpa using same
    simp [same, List.lookup_cons, distinct]

theorem find_emplace (symbolMap : SymbolMap) (name other : String) (value : UInt32) :
    (symbolMap.emplace name value).find other =
      (symbolMap.find other).or (if other = name then some value else none) := by
  unfold emplace
  by_cases known : (symbolMap.find name).isSome = true
  · rw [if_pos known]
    by_cases same : other = name
    · obtain ⟨v, found⟩ := Option.isSome_iff_exists.1 known
      simp [same, found]
    · simp [same]
  · rw [if_neg known, find_append]

private theorem lookup_replace (entries : List (String × UInt32)) (name other : String)
    (value : UInt32) :
    (entries.map fun entry => if entry.1 = name then (name, value) else entry).lookup other =
      if other = name then (entries.lookup name).map fun _ => value else entries.lookup other := by
  induction entries with
  | nil => simp
  | cons entry entries ih =>
      obtain ⟨key, old⟩ := entry
      rw [List.map_cons, List.lookup_cons, List.lookup_cons, List.lookup_cons, ih]
      by_cases here : key = name
      · by_cases same : other = name
        · simp [here, same]
        · have distinct : (other == name) = false := by simpa using same
          simp [here, same, distinct]
      · by_cases same : other = name
        · have distinct : (name == key) = false := by simpa using Ne.symm here
          simp [here, same, distinct]
        · simp [here, same]

theorem find_assign (symbolMap : SymbolMap) (name other : String) (value : UInt32) :
    (symbolMap.assign name value).find other =
      if other = name then some value else symbolMap.find other := by
  unfold assign
  by_cases known : (symbolMap.find name).isSome = true
  · obtain ⟨v, found⟩ := Option.isSome_iff_exists.1 known
    rw [if_pos known]
    unfold find at found ⊢
    rw [lookup_replace, found]
    rfl
  · have absent : symbolMap.find name = none := by simpa using known
    rw [if_neg known, find_append]
    by_cases same : other = name
    · simp [same, absent]
    · simp [same]

theorem getOptional_of_find {symbolMap : SymbolMap} {name : String} {v : UInt32}
    (found : symbolMap.find name = some v) : symbolMap.getOptional name = some v := by
  rw [getOptional, found]

theorem find_of_getOptional {symbolMap : SymbolMap} {name : String} {v : UInt32}
    (registered : (symbolMap.find name).isSome = true)
    (got : symbolMap.getOptional name = some v) : symbolMap.find name = some v := by
  obtain ⟨w, found⟩ := Option.isSome_iff_exists.1 registered
  rw [found, ← got, getOptional_of_find found]

end SymbolMap

/-- symbol_map_ and map_for_get_name_. -/
structure SymbolTable where
  symbolMap : SymbolMap
  mapForGetName : List (String × String)

namespace SymbolTable

def cleared : SymbolTable := ⟨.cleared, []⟩

def nameKey (type : String) (value : UInt32) : String := type ++ "::" ++ toString value.toNat

def emplaceName (names : List (String × String)) (key name : String) : List (String × String) :=
  if (names.lookup key).isSome then names else names ++ [(key, name)]

/-- add with a value. -/
def addValue (table : SymbolTable) (type name : String) (value : UInt32) : SymbolTable where
  symbolMap := table.symbolMap.addValue type name value
  mapForGetName :=
    if name ≠ "VK__AUTOINDEX__BEGIN__" then
      emplaceName table.mapForGetName (nameKey type value) (type ++ "::" ++ name)
    else table.mapForGetName

/-- add with the next index of the type. There is none where an assertion fails. -/
def add (table : SymbolTable) (type name : String) : Option (UInt32 × SymbolTable) :=
  let n := type ++ "::VK__AUTOINDEX__BEGIN__"
  match table.symbolMap.getOptional n with
  | none => none
  | some v =>
      if v = 0xffffffff then none
      else
        some (v, { table with symbolMap := table.symbolMap.assign n (v + 1) }.addValue type name v)

def get (table : SymbolTable) (type name : String) : Except String UInt32 :=
  table.symbolMap.get (type ++ "::" ++ name)

def getName (table : SymbolTable) (type : String) (value : UInt32) : Option String :=
  table.mapForGetName.lookup (nameKey type value)

/-- A call of one of the two functions. -/
structure Call where
  type : String
  name : String
  value : Option UInt32
  deriving DecidableEq, Repr

def Call.fullName (call : Call) : String := call.type ++ "::" ++ call.name

/-- The entry that counts the indices of the type. -/
def Call.counter (call : Call) : String := call.type ++ "::VK__AUTOINDEX__BEGIN__"

def call (table : SymbolTable) (call : Call) : Option (UInt32 × SymbolTable) :=
  match call.value with
  | some value => some (value, table.addValue call.type call.name value)
  | none => table.add call.type call.name

/-- returned holds the calls so far, each with the value that it returned. -/
structure History where
  table : SymbolTable
  returned : List (Call × UInt32)

namespace History

def start : History := ⟨.cleared, []⟩

def step (history : History) (call : Call) : Option History :=
  (history.table.call call).map fun result =>
    ⟨result.2, history.returned ++ [(call, result.1)]⟩

/-- The value of every call so far is the one that get returns, and get_name names a symbol of
the value, as far as the names are concerned that it is about. -/
structure Consistent (about : String → Prop) (history : History) : Prop where
  get : ∀ entry ∈ history.returned, about entry.1.fullName →
    history.table.get entry.1.type entry.1.name = .ok entry.2
  getName : ∀ type value name, about name → history.table.getName type value = some name →
    history.table.symbolMap.get name = .ok value

/-- The value that the call is about to return: its own or the next index. -/
def nextValue (history : History) (call : Call) : Option UInt32 :=
  match call.value with
  | some value => some value
  | none => history.table.symbolMap.getOptional call.counter

/-- The name is a new one, or it is registered with the value that the call returns. -/
def SameValue (history : History) (call : Call) : Prop :=
  history.table.symbolMap.find call.fullName = none ∨
    history.table.symbolMap.find call.fullName = history.nextValue call

/-- A call that takes the next index neither is about the counter nor comes behind a call that
was. -/
structure Allowed (about : String → Prop) (history : History) (call : Call) : Prop where
  sameValue : about call.fullName → history.SameValue call
  counter : call.value = none → about call.counter → call.fullName ≠ call.counter ∧
    ∀ entry ∈ history.returned, entry.1.fullName ≠ call.counter

/-- What the next history finds. -/
theorem step_eq {history next : History} {call : Call} (stepped : history.step call = some next) :
    ∃ v, history.nextValue call = some v ∧ next.returned = history.returned ++ [(call, v)] ∧
      (∀ name, next.table.symbolMap.find name =
        (if call.value = none ∧ name = call.counter then some (v + 1)
          else history.table.symbolMap.find name).or
        (if name = call.fullName then some v else none)) ∧
      ∀ entry ∈ next.table.mapForGetName, entry ∈ history.table.mapForGetName ∨
        entry = (nameKey call.type v, call.fullName) := by
  have names (table : SymbolTable) (type name : String) (v : UInt32) :
      ∀ entry ∈ (table.addValue type name v).mapForGetName, entry ∈ table.mapForGetName ∨
        entry = (nameKey type v, type ++ "::" ++ name) := by
    intro entry member
    unfold addValue emplaceName at member
    dsimp only at member
    split at member
    · split at member
      · exact .inl member
      · simpa using member
    · exact .inl member
  obtain ⟨⟨v, table⟩, called, rfl⟩ := Option.map_eq_some_iff.1 stepped
  unfold SymbolTable.call at called
  cases value : call.value with
  | some w =>
      rw [value] at called
      cases called
      refine ⟨v, by simp [nextValue, value], rfl, fun name => ?_, names _ _ _ _⟩
      rw [if_neg (by simp)]
      exact SymbolMap.find_emplace _ _ _ _
  | none =>
      rw [value] at called
      unfold SymbolTable.add at called
      dsimp only at called
      split at called
      · cases called
      · next w found =>
        split at called
        · cases called
        · cases called
          refine ⟨v, by simpa [nextValue, value, Call.counter] using found, rfl,
            fun name => ?_, names _ _ _ _⟩
          show ((history.table.symbolMap.assign call.counter (v + 1)).emplace call.fullName v).find
            name = _
          rw [SymbolMap.find_emplace, SymbolMap.find_assign]
          simp

/-- Every name that was added is registered, and get_name knows only values that were returned. -/
structure Known (history : History) : Prop where
  registered : ∀ entry ∈ history.returned,
    (history.table.symbolMap.find entry.1.fullName).isSome = true
  names : ∀ entry ∈ history.table.mapForGetName, ∃ known ∈ history.returned,
    entry = (nameKey known.1.type known.2, known.1.fullName)

theorem known_step (history : History) (call : Call) (next : History)
    (stepped : history.step call = some next) (known : history.Known) : next.Known := by
  obtain ⟨v, -, returned, found, names⟩ := step_eq stepped
  constructor
  · intro entry member
    rw [found]
    rw [returned] at member
    cases List.mem_append.1 member with
    | inl old =>
        obtain ⟨w, before⟩ := Option.isSome_iff_exists.1 (known.registered entry old)
        split <;> simp [before]
    | inr new =>
        rw [List.mem_singleton.1 new]
        split <;> simp
  · intro entry member
    rw [returned]
    cases names entry member with
    | inl old =>
        obtain ⟨from_, listed, same⟩ := known.names entry old
        exact ⟨from_, List.mem_append_left _ listed, same⟩
    | inr new => exact ⟨(call, v), List.mem_append_right _ List.mem_cons_self, new⟩

private theorem toDigits_inj (m n : Nat) (same : Nat.toDigits 10 m = Nat.toDigits 10 n) :
    m = n := by
  have digit : ∀ i < 10, ∀ j < 10, Nat.digitChar i = Nat.digitChar j → i = j := by decide
  induction m using Nat.strongRecOn generalizing n with
  | ind m ih =>
      rw [Nat.toDigits_eq_if (n := m) (by omega), Nat.toDigits_eq_if (n := n) (by omega)] at same
      split at same
      · next small =>
        split at same
        · next alsoSmall => exact digit m small n alsoSmall (List.singleton_inj.1 same)
        · have short : Nat.toDigits 10 (n / 10) = [] := by
            have lengths := congrArg List.length same
            simp at lengths
          exact absurd short Nat.toDigits_ne_nil
      · next large =>
        split at same
        · have short : Nat.toDigits 10 (m / 10) = [] := by
            have lengths := congrArg List.length same
            simp at lengths
          exact absurd short Nat.toDigits_ne_nil
        · obtain ⟨first, last⟩ := List.append_inj' same rfl
          have high := ih (m / 10) (by omega) (n / 10) first
          have low := digit (m % 10) (by omega) (n % 10) (by omega) (List.singleton_inj.1 last)
          omega

/-- A type and a value can be read back from their key. -/
theorem nameKey_inj {type other : String} {value v : UInt32}
    (same : nameKey type value = nameKey other v) : type = other ∧ value = v := by
  have digits (n : UInt32) : ∀ c ∈ (toString n.toNat).toList.reverse, (c != ':') = true := by
    intro c member
    have digit : c.isDigit = true := by
      apply Nat.isDigit_of_mem_toDigits (b := 10) (n := n.toNat) (by omega) (by omega)
      rw [← Nat.toList_repr]
      exact List.mem_reverse.1 member
    have apart : c ≠ ':' := by
      rintro rfl
      exact absurd digit (by decide)
    simpa using apart
  have last (type : String) (n : UInt32) :
      (nameKey type n).toList.reverse.takeWhile
      (· != ':') = (toString n.toNat).toList.reverse := by
    unfold nameKey
    rw [String.toList_append, String.toList_append, List.reverse_append, List.reverse_append,
      List.takeWhile_append_of_pos (digits n)]
    simp
  have numbers : toString value.toNat = toString v.toNat := by
    apply String.toList_inj.1
    apply List.reverse_injective
    rw [← last type value, ← last other v, same]
  have values : value.toNat = v.toNat := by
    apply toDigits_inj
    rw [← Nat.toList_repr, ← Nat.toList_repr]
    exact congrArg String.toList numbers
  refine ⟨?_, UInt32.toNat_inj.1 values⟩
  unfold nameKey at same
  rw [numbers] at same
  apply String.toList_inj.1
  have texts := congrArg String.toList same
  simpa [String.toList_append] using texts

/-- What get_name says follows from what get says. -/
theorem Known.consistent_iff {history : History} (known : history.Known) {about : String → Prop} :
    history.Consistent about ↔ ∀ entry ∈ history.returned, about entry.1.fullName →
      history.table.symbolMap.find entry.1.fullName = some entry.2 := by
  constructor
  · intro consistent entry member concerned
    apply SymbolMap.find_of_getOptional (known.registered entry member)
    have got := consistent.get entry member concerned
    unfold SymbolTable.get SymbolMap.get at got
    split at got
    · next v found =>
      cases got
      exact found
    · cases got
  · intro found
    have get : ∀ entry ∈ history.returned, about entry.1.fullName →
        history.table.symbolMap.get entry.1.fullName = .ok entry.2 := by
      intro entry member concerned
      rw [SymbolMap.get, SymbolMap.getOptional_of_find (found entry member concerned)]
    refine ⟨get, fun type value name concerned named => ?_⟩
    obtain ⟨before, after, split, -⟩ := List.lookup_eq_some_iff.1 named
    have listed : (nameKey type value, name) ∈ history.table.mapForGetName := by
      rw [split]
      exact List.mem_append_right _ List.mem_cons_self
    obtain ⟨entry, member, same⟩ := known.names _ listed
    obtain ⟨key, rfl⟩ := Prod.mk.injEq _ _ _ _ ▸ same
    obtain ⟨-, rfl⟩ := nameKey_inj key
    exact get entry member concerned

/-- The next index is another number. -/
theorem succ_ne (v : UInt32) : v + 1 ≠ v := by
  intro same
  have zero : (1 : UInt32) = 0 := (UInt32.add_right_inj v).1 (same.trans (UInt32.add_zero v).symm)
  cases zero

theorem consistent_step_iff (about : String → Prop) (history : History) (call : Call)
    (next : History) (stepped : history.step call = some next) (known : history.Known)
    (consistent : history.Consistent about) :
    next.Consistent about ↔ history.Allowed about call := by
  obtain ⟨v, value, returned, found, -⟩ := step_eq stepped
  have before := known.consistent_iff.1 consistent
  rw [(known_step history call next stepped known).consistent_iff, returned]
  constructor
  · intro after
    have new := after (call, v) (List.mem_append_right _ List.mem_cons_self)
    rw [found, if_pos rfl] at new
    have ownName : call.value = none → about call.fullName →
        call.fullName ≠ call.counter := by
      intro auto concerned same
      have new := new concerned
      rw [if_pos ⟨auto, same⟩, Option.some_or] at new
      exact succ_ne v (Option.some.inj new)
    constructor
    · intro concerned
      have new := new concerned
      rw [if_neg fun both => ownName both.1 concerned both.2] at new
      unfold SameValue
      rw [value]
      cases old : history.table.symbolMap.find call.fullName with
      | none => exact .inl rfl
      | some w =>
          rw [old, Option.some_or] at new
          exact .inr new
    · intro auto concerned
      refine ⟨fun same => ownName auto (same ▸ concerned) same, fun entry member same => ?_⟩
      have concernedToo : about entry.1.fullName := same ▸ concerned
      have old := before entry member concernedToo
      have later := after entry (List.mem_append_left _ member) concernedToo
      rw [found, if_pos ⟨auto, same⟩, Option.some_or] at later
      have counted : history.table.symbolMap.find call.counter = some v :=
        SymbolMap.find_of_getOptional (same ▸ known.registered entry member)
          (by simpa [nextValue, auto] using value)
      rw [same, counted] at old
      exact succ_ne v (Option.some.inj (later.trans old.symm))
  · intro allowed entry member concerned
    rw [found]
    cases List.mem_append.1 member with
    | inl old =>
        have kept : ¬ (call.value = none ∧ entry.1.fullName = call.counter) :=
          fun both => (allowed.counter both.1 (both.2 ▸ concerned)).2 entry old both.2
        rw [if_neg kept, before entry old concerned, Option.some_or]
    | inr new =>
        rw [List.mem_singleton.1 new] at concerned ⊢
        have kept : ¬ (call.value = none ∧ call.fullName = call.counter) :=
          fun both => (allowed.counter both.1 (both.2 ▸ concerned)).1 both.2
        dsimp only
        rw [if_neg kept, if_pos rfl]
        rcases allowed.sameValue concerned with absent | same
        · rw [absent, Option.none_or]
        · rw [same, value, Option.some_or]

theorem known_start : start.Known :=
  ⟨fun _ member => absurd member List.not_mem_nil, fun _ member =>
    absurd member List.not_mem_nil⟩

theorem consistent_start (about : String → Prop) : start.Consistent about :=
  known_start.consistent_iff.2 fun _ member => absurd member List.not_mem_nil

theorem always_consistent_iff (about : String → Prop) (calls : List Call) :
    PartialRun.Always step (Consistent about) .start calls ↔
      PartialRun.Each step (Allowed about) .start calls :=
  PartialRun.always_iff_each Known known_step (consistent_step_iff about) calls known_start
    (consistent_start about)

end History

/-- A name that no call counts indices with. -/
def IsSymbol (name : String) : Prop := ∀ type, name ≠ type ++ "::VK__AUTOINDEX__BEGIN__"

/-- For every sequence of calls after clear, the values that add returns and the names of get_name
agree with get from then on if and only if no call adds a name again with another value and none
counts with a name that was added. The last is left out for the names that are no counters. -/
theorem symbol_map_consistent_iff (calls : List Call) :
    (PartialRun.Always History.step (History.Consistent fun _ => True) .start calls ↔
      PartialRun.Each History.step (History.Allowed fun _ => True) .start calls) ∧
    (PartialRun.Always History.step (History.Consistent IsSymbol) .start calls ↔
      PartialRun.Each History.step
        (fun history call => IsSymbol call.fullName → history.SameValue call) .start calls) := by
  refine ⟨History.always_consistent_iff _ calls, ?_⟩
  rw [History.always_consistent_iff]
  have same : (History.Allowed IsSymbol) =
      fun history call => IsSymbol call.fullName → history.SameValue call := by
    funext history call
    apply propext
    constructor
    · exact fun allowed => allowed.sameValue
    · exact fun sameValue => ⟨sameValue, fun _ concerned => absurd rfl (concerned call.type)⟩
  rw [same]

end SymbolTable

/-- The key codes that modifier_loader::~modifier_loader adds for the name of a modifier and pushes
to the initialize vector. -/
def modifierLoaderCalls (name : String) : List SymbolTable.Call :=
  [⟨"KeyCode", "VK_MODIFIER_" ++ name, none⟩,
    ⟨"KeyCode", "VK_LOCK_" ++ name, none⟩,
    ⟨"KeyCode", "VK_LOCK_" ++ name ++ "_FORCE_ON", none⟩,
    ⟨"KeyCode", "VK_LOCK_" ++ name ++ "_FORCE_OFF", none⟩,
    ⟨"KeyCode", "VK_NEGATIVE_LOCK_" ++ name, none⟩,
    ⟨"KeyCode", "VK_NEGATIVE_LOCK_" ++ name ++ "_FORCE_ON", none⟩,
    ⟨"KeyCode", "VK_NEGATIVE_LOCK_" ++ name ++ "_FORCE_OFF", none⟩,
    ⟨"KeyCode", "VK_STICKY_" ++ name, none⟩,
    ⟨"KeyCode", "VK_STICKY_" ++ name ++ "_FORCE_ON", none⟩,
    ⟨"KeyCode", "VK_STICKY_" ++ name ++ "_FORCE_OFF", none⟩]

namespace SymbolTable

/-- FOO_FORCE_ON is a modifier besides FOO, so that a lock key is added twice. Its second key code
is neither the one of get nor, although get_name names the symbol, one that get returns. -/
def forceOnCalls : List Call :=
  ⟨"KeyCode", "VK__AUTOINDEX__BEGIN__", some 0x10000000⟩ ::
    ["FOO", "FOO_FORCE_ON"].flatMap modifierLoaderCalls

def forceOnHistory : Option History := forceOnCalls.foldlM History.step History.start

/-- The key code that is pushed for the lock key of FOO_FORCE_ON, and the one of its name. -/
theorem forceOnHistory_values :
    forceOnHistory.map (fun history =>
        (decide ((⟨"KeyCode", "VK_LOCK_FOO_FORCE_ON", none⟩, 0x1000000b) ∈ history.returned),
          history.table.symbolMap.getOptional "KeyCode::VK_LOCK_FOO_FORCE_ON",
          history.table.getName "KeyCode" 0x1000000b)) =
      some (true, some 0x10000002, some "KeyCode::VK_LOCK_FOO_FORCE_ON") := by
  decide +kernel

theorem lock_force_on_added_twice :
    ¬ PartialRun.Always History.step (History.Consistent IsSymbol) .start forceOnCalls ∧
      ¬ PartialRun.Always History.step (History.Consistent fun _ => True) .start forceOnCalls := by
  obtain ⟨history, ran, values⟩ := Option.map_eq_some_iff.1 forceOnHistory_values
  obtain ⟨member, value, -⟩ := by simpa only [Prod.mk.injEq] using values
  have listed := of_decide_eq_true member
  have differs (about : String → Prop) (concerned : about "KeyCode::VK_LOCK_FOO_FORCE_ON") :
      ¬ PartialRun.Always History.step (History.Consistent about) .start forceOnCalls := by
    intro always
    have got := (always.final ran).get _ listed concerned
    have name : "KeyCode" ++ "::" ++ "VK_LOCK_FOO_FORCE_ON" = "KeyCode::VK_LOCK_FOO_FORCE_ON" := by
      decide +kernel
    simp only [SymbolTable.get, SymbolMap.get, name, value] at got
    cases got
  have symbol : IsSymbol "KeyCode::VK_LOCK_FOO_FORCE_ON" := by
    intro type same
    have last := congrArg (·.toList.getLast?) same
    simp [String.toList_append] at last
  exact ⟨differs _ symbol, differs _ trivial⟩

end SymbolTable

end Karabiner
