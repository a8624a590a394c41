import Karabiner.ElementFilters
import Karabiner.ReloadFreezes

set_option autoImplicit false

/- The items that the constructor of RemapClass makes of the entry of an identifier, and when
their filters block. -/
namespace Karabiner

open Bridge FilterMeaning
open Symbols (flat)

namespace RemapFilter

theorem create_known {buffer : VectorBuffer} {vec length : Nat} {filter : RemapFilter}
    (created : (create buffer vec length).value = some filter) :
    0 < length ∧ FILTERTYPE_NONE < (buffer.word vec).toNat ∧
      (buffer.word vec).toNat < FILTERTYPE_END := by
  rw [create] at created
  by_cases none : length = 0
  · rw [if_pos none] at created
    cases created
  · rw [if_neg none, Traced.value_bind, VectorBuffer.readWord_value] at created
    dsimp only at created
    by_cases known : FILTERTYPE_NONE < (buffer.word vec).toNat ∧
        (buffer.word vec).toNat < FILTERTYPE_END
    · exact ⟨by omega, known⟩
    · rw [if_neg known] at created
      cases created

end RemapFilter

namespace RemapClass

/-- The item as remapping sees it. -/
def Item.inWorld {World : Type*} (read : World → FilterState)
    (make : RemapFunc → Remapping.RemapFuncBase World) (item : Item) : Remapping.Item World where
  processor := item.processor.map make
  filters := item.filters.map (RemapFilter.inWorld read)

theorem appendFilter_back (items : List Item) (back : Item) (filter : RemapFilter) :
    appendFilter (items ++ [back]) (some filter) =
      items ++ [{ back with filters := back.filters ++ [filter] }] := by
  simp [appendFilter]

section

variable {buffer : VectorBuffer} {finish : Nat}

theorem addEntries_entry {p fuel size : Nat} {remapclass next : RemapClass}
    {manager after : RemapClassManager} (sized : (buffer.word p).toNat = size)
    (positive : 0 < size) (inside : p + 1 + size ≤ finish)
    (added : (addEntryOfType buffer (p + 1) size remapclass manager
      (buffer.word (p + 1)).toNat).value = .next next after) :
    (addEntries buffer finish (fuel + 1) p remapclass manager).value =
      (addEntries buffer finish fuel (p + 1 + size) next after).value := by
  rw [addEntries, if_neg (by omega), if_neg (by omega), Traced.value_bind,
    VectorBuffer.readWord_value, sized, if_neg (by omega), if_pos positive, Traced.value_bind,
    addEntry, Traced.value_bind, VectorBuffer.readWord_value, added]
  rfl

variable (buffer finish)

/-- The constructor goes on behind the words with an object that has the second property, if
it came to them with one that has the first. -/
def Reads (words : List UInt32) (before after : RemapClass → Prop) : Prop :=
  ∀ (p : Nat) (rest : List UInt32) (remapclass : RemapClass) (manager : RemapClassManager)
    (fuel : Nat), buffer.words.drop p = words ++ rest → p + words.length ≤ finish →
    before remapclass → ∃ next manager' fuel', after next ∧ fuel ≤ fuel' ∧
      (addEntries buffer finish (fuel + words.length) p remapclass manager).value =
        (addEntries buffer finish fuel' (p + words.length) next manager').value

variable {buffer finish}

theorem reads_nil (property : RemapClass → Prop) : Reads buffer finish [] property property := by
  intro p rest remapclass manager fuel _ _ own
  exact ⟨remapclass, manager, fuel, own, Nat.le_refl _, rfl⟩

theorem Reads.append {words others : List UInt32} {before between after : RemapClass → Prop}
    (first : Reads buffer finish words before between)
    (second : Reads buffer finish others between after) :
    Reads buffer finish (words ++ others) before after := by
  intro p rest remapclass manager fuel here inside start
  rw [List.length_append] at inside
  rw [List.append_assoc] at here
  obtain ⟨middle, manager', fuel', reached, enough, same⟩ :=
    first p (others ++ rest) remapclass manager (fuel + others.length) here (by omega) start
  have behind : buffer.words.drop (p + words.length) = others ++ rest := by
    rw [← List.drop_drop, here, List.drop_left]
  obtain ⟨last, manager'', fuel'', ended, left, also⟩ :=
    second (p + words.length) rest middle manager' (fuel' - others.length) behind (by omega)
      reached
  refine ⟨last, manager'', fuel'', ended, by omega, ?_⟩
  rw [List.length_append, Nat.add_comm words.length, ← Nat.add_assoc, same,
    Nat.add_comm others.length, ← Nat.add_assoc, ← also, Nat.sub_add_cancel (by omega)]

theorem Reads.mono {words : List UInt32} {before after weaker : RemapClass → Prop}
    (reads : Reads buffer finish words before after)
    (implies : ∀ remapclass, after remapclass → weaker remapclass) :
    Reads buffer finish words before weaker := by
  intro p rest remapclass manager fuel here inside start
  obtain ⟨next, manager', fuel', reached, left⟩ := reads p rest remapclass manager fuel here
    inside start
  exact ⟨next, manager', fuel', implies next reached, left⟩

theorem reads_exists {Index : Type} {words : List UInt32} {before : Index → RemapClass → Prop}
    {after : RemapClass → Prop} (each : ∀ i, Reads buffer finish words (before i) after) :
    Reads buffer finish words (fun remapclass => ∃ i, before i remapclass) after := by
  intro p rest remapclass manager fuel here inside start
  obtain ⟨i, own⟩ := start
  exact each i p rest remapclass manager fuel here inside own

theorem reads_and {known : Prop} {words : List UInt32} {before after : RemapClass → Prop}
    (reads : known → Reads buffer finish words before after) :
    Reads buffer finish words (fun remapclass => known ∧ before remapclass) after := by
  intro p rest remapclass manager fuel here inside start
  exact reads start.1 p rest remapclass manager fuel here inside start.2

/-- Words that are one entry. -/
theorem reads_entry {words : List UInt32} {before after : RemapClass → Prop}
    (entry : ∀ (p : Nat) (rest : List UInt32) (remapclass : RemapClass)
      (manager : RemapClassManager), buffer.words.drop p = words ++ rest → before remapclass →
      p + 1 + (buffer.word p).toNat = p + words.length ∧ 0 < (buffer.word p).toNat ∧
      ∃ next manager', after next ∧
        (addEntryOfType buffer (p + 1) (buffer.word p).toNat remapclass manager
          (buffer.word (p + 1)).toNat).value = .next next manager') :
    Reads buffer finish words before after := by
  intro p rest remapclass manager fuel here inside start
  obtain ⟨whole, positive, next, manager', reached, added⟩ := entry p rest remapclass manager
    here start
  have fits : p + 1 + (buffer.word p).toNat ≤ finish := by omega
  have step : (addEntries buffer finish (fuel + words.length - 1 + 1) p remapclass manager).value =
      _ := addEntries_entry rfl positive fits added
  rw [Nat.sub_add_cancel (by omega), whole] at step
  exact ⟨next, manager', fuel + words.length - 1, reached, by omega, step⟩

theorem length_lt {p : Nat} {words rest : List UInt32}
    (small : buffer.size / 4 ≤ MAX_ALLOCATION_COUNT)
    (here : buffer.words.drop p = words ++ rest) : words.length < 2 ^ 32 := by
  have length := congrArg List.length here
  simp only [MAX_ALLOCATION_COUNT] at small
  simp only [List.length_drop, VectorBuffer.words_length, List.length_append] at length
  omega

/-- A counted record is one entry. -/
theorem reads_frame {type : UInt32} {body : List UInt32} {before after : RemapClass → Prop}
    (small : buffer.size / 4 ≤ MAX_ALLOCATION_COUNT)
    (entry : ∀ (p : Nat) (rest : List UInt32) (remapclass : RemapClass)
      (manager : RemapClassManager), buffer.words.drop p = type :: body ++ rest →
      before remapclass → ∃ next manager', after next ∧
        (addEntryOfType buffer p (body.length + 1) remapclass manager type.toNat).value =
          .next next manager') :
    Reads buffer finish (Framing.frame UInt32.ofNat (type :: body)) before after := by
  apply reads_entry
  intro p rest remapclass manager here start
  have fits := length_lt small here
  obtain ⟨size, next⟩ := VectorBuffer.words_drop_cons here
  obtain ⟨first, _⟩ := VectorBuffer.words_drop_cons next
  simp only [Framing.frame, List.length_cons] at fits
  have bound : (type :: body).length < 2 ^ 32 := by
    rw [List.length_cons]
    omega
  have count : (buffer.word p).toNat = body.length + 1 := by
    rw [size]
    exact UInt32.toNat_ofNat_of_lt' bound
  have added := entry (p + 1) rest remapclass manager next start
  rw [count, first]
  refine ⟨?_, Nat.succ_pos _, added⟩
  simp only [Framing.frame, List.length_cons]
  omega

/-- The record of an autogen becomes a new item. -/
theorem reads_item {type : UInt32} {pairs : List (UInt32 × UInt32)} {items : List Item}
    (small : buffer.size / 4 ≤ MAX_ALLOCATION_COUNT)
    (known : REMAPTYPE_NONE < type.toNat ∧ type.toNat < REMAPTYPE_END) :
    Reads buffer finish (Framing.frame UInt32.ofNat (type :: flat pairs))
      (fun remapclass => remapclass.items = items)
      (fun remapclass => remapclass.items = items ++
        [{ processor := some (.fed type.toNat pairs) }]) := by
  apply reads_frame small
  intro p rest remapclass manager here start
  have created := RemapFunc.create_flat known here
  rw [show 1 + 2 * pairs.length = (flat pairs).length + 1 by
    rw [Symbols.flat_length, Nat.add_comm]] at created
  rw [addEntryOfType, entryKind, if_pos known]
  dsimp only
  rw [addItem, Traced.value_bind, created]
  exact ⟨_, _, congrArg (· ++ _) start, rfl⟩

theorem reads_statusMessage {body : List UInt32} {items : List Item}
    (small : buffer.size / 4 ≤ MAX_ALLOCATION_COUNT) :
    Reads buffer finish (Framing.frame UInt32.ofNat (.ofNat STATUSMESSAGE :: body))
      (fun remapclass => remapclass.items = items)
      (fun remapclass => remapclass.items = items) := by
  apply reads_frame small
  intro p rest remapclass manager _ start
  refine ⟨_, _, ?_, rfl⟩
  exact start

theorem reads_vkConfig {body : List UInt32} {items : List Item}
    (small : buffer.size / 4 ≤ MAX_ALLOCATION_COUNT) (four : body.length = 4) :
    Reads buffer finish (Framing.frame UInt32.ofNat (.ofNat VK_CONFIG :: body))
      (fun remapclass => remapclass.items = items)
      (fun remapclass => remapclass.items = items) := by
  apply reads_frame small
  intro p rest remapclass manager _ start
  rw [four]
  exact ⟨remapclass, _, start, rfl⟩

/-- The words of a filter add it to the last item. -/
theorem reads_filter {words : List UInt32} {property : RemapFilter → Prop} {items : List Item}
    {back : Item} (small : buffer.size / 4 ≤ MAX_ALLOCATION_COUNT)
    (decodes : FilterVector.Decodes words property) :
    Reads buffer finish words (fun remapclass => remapclass.items = items ++ [back])
      (fun remapclass => ∃ filter, property filter ∧
        remapclass.items = items ++ [{ back with filters := back.filters ++ [filter] }]) := by
  apply reads_entry
  intro p rest remapclass manager here start
  obtain ⟨whole, filter, created, own⟩ := decodes buffer p rest small here
  obtain ⟨positive, known⟩ := RemapFilter.create_known created
  have noItem : ¬(REMAPTYPE_NONE < (buffer.word (p + 1)).toNat ∧
      (buffer.word (p + 1)).toNat < REMAPTYPE_END) := by
    have after : FILTERTYPE_NONE < (buffer.word (p + 1)).toNat := known.1
    simp only [FILTERTYPE_NONE, REMAPTYPE_END] at after ⊢
    omega
  have some_item : remapclass.items.length ≠ 0 := by simp [start]
  refine ⟨whole, positive, { remapclass with items := _ }, manager,
    ⟨filter, own, (appendFilter_back items back filter)⟩, ?_⟩
  rw [addEntryOfType, entryKind, if_neg noItem, if_pos known]
  dsimp only
  rw [addFilter, if_neg some_item, Traced.value_bind, created, start]
  rfl

end

end RemapClass

namespace FilterScope

open RemapClass (Reads)
open FilterVector (encode Stands Decodes)

/-- The elements that may be filters around an autogen, each with the symbols that its
arguments are looked up in. -/
def sources (symbols : Symbols) (path : List Scope) : List (SymbolMap × Tree) :=
  path.flatMap fun scope =>
    scope.children.map ((Symbols.announce^[scope.announced] symbols).symbolMap, ·)

/-- What an element makes, if it is a filter with arguments. -/
def Makes (source : SymbolMap × Tree) (filters : List RemapFilter) : Prop :=
  (filters = [] ∧
    ∀ meaning, describe source.2.tag = some meaning → arguments source.2 = []) ∨
  ∃ meaning filter, describe source.2.tag = some meaning ∧ arguments source.2 ≠ [] ∧
    filters = [filter] ∧ Stands source.1 (arguments source.2) meaning filter

/-- ANY is known, and the arguments of device_not and device_only are groups. -/
structure Usable (source : SymbolMap × Tree) : Prop where
  any : NamesAny source.1
  regular : ∀ isnot, describe source.2.tag = some (.device isnot) → Regular (arguments source.2)

/-- The words of the filters of a path are those of one element after the other. -/
theorem encodings_ok {symbols : Symbols} {path : List Scope} :
    ∀ {words : List UInt32}, encodings symbols path = .ok words →
      ∃ blocks, List.Forall₂ (fun source block => encode source.1 source.2 = .ok block)
        (sources symbols path) blocks ∧ words = blocks.flatten := by
  induction path with
  | nil =>
      intro words encoded
      obtain rfl := Except.ok.inj encoded
      exact ⟨[], .nil, rfl⟩
  | cons scope path ih =>
      intro words encoded
      obtain ⟨parts, mapped, rfl⟩ := Related.map_ok encoded
      rw [List.mapM_cons] at mapped
      obtain ⟨own, traversed, mapped⟩ := Throwing.bind_ok mapped
      obtain ⟨others, rest, mapped⟩ := Throwing.bind_ok mapped
      obtain rfl := Except.ok.inj mapped
      have outer : encodings symbols path = .ok others.flatten := by
        rw [encodings, rest]
        rfl
      obtain ⟨blocks, made, flattened⟩ := ih outer
      obtain ⟨inner, encodedAll, rfl⟩ := Related.map_ok traversed
      have here := Related.mapM_ok encodedAll
      refine ⟨inner ++ blocks, ?_, ?_⟩
      · rw [sources, List.flatMap_cons]
        apply List.rel_append _ made
        rw [List.forall₂_map_left_iff]
        exact here
      · rw [List.flatten_cons, List.flatten_append, flattened]

section

variable {buffer : VectorBuffer} {finish : Nat}

/-- The words of an element add the filter that it makes to the last item. -/
theorem reads_source {source : SymbolMap × Tree} {words : List UInt32}
    {items : List RemapClass.Item} {back : RemapClass.Item}
    (small : buffer.size / 4 ≤ MAX_ALLOCATION_COUNT) (usable : Usable source)
    (encoded : encode source.1 source.2 = .ok words) :
    Reads buffer finish words (fun remapclass => remapclass.items = items ++ [back])
      (fun remapclass => ∃ filters, Makes source filters ∧
        remapclass.items = items ++ [{ back with filters := back.filters ++ filters }]) := by
  have unchanged : back = { back with filters := back.filters ++ [] } := by rw [List.append_nil]
  cases described : describe source.2.tag with
  | none =>
      rw [encode, typeOf_eq, described] at encoded
      obtain rfl := Except.ok.inj encoded
      apply (RemapClass.reads_nil _).mono
      intro remapclass same
      rw [unchanged] at same
      exact ⟨[],
        .inl ⟨rfl, fun meaning known => by rw [described] at known; cases known⟩, same⟩
  | some meaning =>
      have stands := FilterVector.encode_stands usable.any described rfl
        (fun isnot same => usable.regular isnot (same ▸ described)) encoded
      by_cases empty : arguments source.2 = []
      · rw [if_pos empty] at stands
        subst stands
        apply (RemapClass.reads_nil _).mono
        intro remapclass same
        rw [unchanged] at same
        exact ⟨[], .inl ⟨rfl, fun _ _ => empty⟩, same⟩
      · rw [if_neg empty] at stands
        apply (RemapClass.reads_filter small stands).mono
        intro remapclass added
        obtain ⟨filter, own, same⟩ := added
        exact ⟨[filter], .inr ⟨meaning, filter, described, empty, rfl, own⟩, same⟩

/-- The words of some elements add the filters that they make, in their order. -/
theorem reads_sources {sources : List (SymbolMap × Tree)} {blocks : List (List UInt32)}
    {items : List RemapClass.Item} (small : buffer.size / 4 ≤ MAX_ALLOCATION_COUNT)
    (usable : ∀ source ∈ sources, Usable source)
    (encoded : List.Forall₂ (fun source block => encode source.1 source.2 = .ok block) sources
      blocks) : ∀ back : RemapClass.Item,
    Reads buffer finish blocks.flatten (fun remapclass => remapclass.items = items ++ [back])
      (fun remapclass => ∃ groups, List.Forall₂ Makes sources groups ∧
        remapclass.items =
          items ++ [{ back with filters := back.filters ++ groups.flatten }]) := by
  induction encoded with
  | nil =>
      intro back
      apply (RemapClass.reads_nil _).mono
      intro remapclass same
      refine ⟨[], .nil, ?_⟩
      rw [List.flatten_nil, List.append_nil]
      exact same
  | @cons source block others rest own _ ih =>
      intro back
      rw [List.flatten_cons]
      have first : Reads buffer finish block (fun remapclass => remapclass.items = items ++ [back])
          _ := reads_source small (usable source List.mem_cons_self) own
      apply first.append
      apply RemapClass.reads_exists
      intro filters
      apply RemapClass.reads_and
      intro makes
      have others := ih (fun other member => usable other (List.mem_cons_of_mem _ member))
        { back with filters := back.filters ++ filters }
      apply others.mono
      intro remapclass added
      obtain ⟨groups, made, same⟩ := added
      rw [List.append_assoc] at same
      exact ⟨filters :: groups, .cons makes made, same⟩

end

/-- A filter among the children of an element of the path, of a kind that counts, blocks in
the state. -/
def Blocked (symbols : Symbols) (path : List Scope) (state : FilterState)
    (counts : Meaning → Bool) : Prop :=
  ∃ scope ∈ path, ∃ element ∈ scope.children, ∃ meaning,
    describe element.tag = some meaning ∧ counts meaning = true ∧ arguments element ≠ [] ∧
      Blocks (Symbols.announce^[scope.announced] symbols).symbolMap state (arguments element)
        meaning

theorem mem_sources {symbols : Symbols} {path : List Scope} {source : SymbolMap × Tree} :
    source ∈ sources symbols path ↔ ∃ scope ∈ path, ∃ element ∈ scope.children,
      ((Symbols.announce^[scope.announced] symbols).symbolMap, element) = source := by
  rw [sources, List.mem_flatMap]
  simp only [List.mem_map]

/-- A filter blocks, of a kind that counts, exactly where an element on the path says so. -/
theorem blocked_iff {symbols : Symbols} {path : List Scope} {groups : List (List RemapFilter)}
    (made : List.Forall₂ Makes (sources symbols path) groups) (state : FilterState)
    (counts : Meaning → Bool) (countsType : Nat → Bool)
    (agree : ∀ meaning, countsType meaning.filterType = counts meaning) :
    (∃ filter ∈ groups.flatten, countsType filter.type = true ∧
      filter.isblocked state = true) ↔ Blocked symbols path state counts := by
  constructor
  · intro found
    obtain ⟨filter, member, counted, blocks⟩ := found
    obtain ⟨filters, inside, own⟩ := List.mem_flatten.1 member
    obtain ⟨source, known, makes⟩ := Related.exists_of_mem made.flip filters inside
    obtain ⟨scope, onPath, element, child, rfl⟩ := mem_sources.1 known
    rcases makes with ⟨rfl, _⟩ | ⟨meaning, only, described, written, rfl, stands⟩
    · cases own
    · obtain rfl := List.mem_singleton.1 own
      rw [stands.1, agree] at counted
      exact ⟨scope, onPath, element, child, meaning, described, counted, written,
        (stands.2 state).1 blocks⟩
  · intro blocked
    obtain ⟨scope, onPath, element, child, meaning, described, counted, written, blocks⟩ :=
      blocked
    have known : ((Symbols.announce^[scope.announced] symbols).symbolMap, element) ∈
        sources symbols path := mem_sources.2 ⟨scope, onPath, element, child, rfl⟩
    obtain ⟨filters, inside, makes⟩ := Related.exists_of_mem made _ known
    rcases makes with ⟨_, none⟩ | ⟨other, filter, also, _, rfl, stands⟩
    · exact (written (none meaning described)).elim
    · obtain rfl := Option.some.inj (described.symm.trans also)
      refine ⟨filter, List.mem_flatten.2 ⟨_, inside, List.mem_singleton_self _⟩, ?_,
        (stands.2 state).2 blocks⟩
      rw [stands.1, agree]
      exact counted

/-- An announced name is one of a key code. -/
theorem get_announce {symbols : Symbols} {name : String}
    (different : ∀ rest, name ≠ "KeyCode" ++ "::" ++ rest) :
    symbols.announce.symbolMap.get name = symbols.symbolMap.get name := by
  rw [Symbols.announce]
  cases added : symbols.symbolMap.add "KeyCode" symbols.newkeycode with
  | none => rfl
  | some next =>
      have found := SymbolMap.find_add_of_type different added
      rw [SymbolMap.get, SymbolMap.get, SymbolMap.getOptional, SymbolMap.getOptional, found]

theorem namesAny_announced {symbols : Symbols} (any : NamesAny symbols.symbolMap)
    (announced : Nat) : NamesAny (Symbols.announce^[announced] symbols).symbolMap := by
  induction announced with
  | zero => exact any
  | succ announced ih =>
      rw [Function.iterate_succ_apply']
      constructor
      · rw [get_announce, ih.product]
        intro rest same
        have heads := congrArg (·.toList.head?) same
        simp at heads
      · rw [get_announce, ih.location]
        intro rest same
        have heads := congrArg (·.toList.head?) same
        simp at heads

/-- The arguments of device_not and device_only around some autogens are groups. -/
def RegularDevices (sites : List Site) : Prop :=
  ∀ site ∈ sites, ∀ scope ∈ site.path, ∀ element ∈ scope.children, ∀ isnot,
    describe element.tag = some (.device isnot) → Regular (arguments element)

theorem usable_sources {symbols : Symbols} {site : Site} (any : NamesAny symbols.symbolMap)
    (regular : RegularDevices [site]) : ∀ source ∈ sources symbols site.path,
    Usable source := by
  intro source member
  obtain ⟨scope, onPath, element, child, rfl⟩ := mem_sources.1 member
  exact ⟨namesAny_announced any _, fun isnot =>
    regular site (List.mem_singleton_self _) scope onPath element child isnot⟩

/-- A record that is no status message is the type and the pairs of a remap function. -/
theorem record_ok {symbols : Symbols} {autogen : List Char} {record : List UInt32}
    (status : Loader.isShowStatusMessage autogen = false)
    (own : symbols.record autogen = .ok record) :
    ∃ type pairs, record = type :: flat pairs ∧
      REMAPTYPE_NONE < UInt32.toNat type ∧ UInt32.toNat type < REMAPTYPE_END := by
  rw [Symbols.record, status, if_neg Bool.false_ne_true] at own
  by_cases simultaneous : Loader.isSimultaneousKeyPresses autogen = true
  · rw [if_pos simultaneous] at own
    obtain ⟨values, found, rfl⟩ := Related.map_ok own
    exact ⟨_, _, congrArg _ (Symbols.values_ok found).2, by decide⟩
  · rw [if_neg simultaneous] at own
    cases found : Loader.types.find? fun type => type.1.toList.isPrefixOf autogen with
    | none =>
        rw [found] at own
        cases own
    | some type =>
        rw [found] at own
        obtain ⟨values, valued, rfl⟩ := Related.map_ok own
        have all : ∀ type ∈ Loader.types, REMAPTYPE_NONE < (UInt32.ofNat type.2).toNat ∧
            (UInt32.ofNat type.2).toNat < REMAPTYPE_END := by decide
        exact ⟨_, _, congrArg _ (Symbols.values_ok valued).2,
          all type (List.mem_of_find?_eq_some found)⟩

section

variable {World : Type*} (read : World → FilterState)
  (make : RemapFunc → Remapping.RemapFuncBase World)

/-- The item is made of the arguments of the autogen. A key-down is blocked where a filter
around it blocks, and a key-up where one of a device does. -/
structure Fitted (symbols : Symbols) (announced : Nat) (site : Site) (item : RemapClass.Item) :
    Prop where
  processor : ∃ type pairs,
    (Symbols.announce^[announced] symbols).record site.autogen = .ok (type :: flat pairs) ∧
      item.processor = some (.fed type.toNat pairs)
  isblocked : ∀ world, (item.inWorld read make).isblocked world = true ↔
    Blocked symbols site.path (read world) fun _ => true
  isblockedKeyup : ∀ world, (item.inWorld read make).isblockedKeyup world = true ↔
    Blocked symbols site.path (read world) Meaning.isDevice

/-- The items of some autogens: one for each that is no status message, in their order. -/
inductive Built (symbols : Symbols) : Nat → List Site → List RemapClass.Item → Prop
  | nil (announced : Nat) : Built symbols announced [] []
  | message {announced : Nat} {site : Site} {sites : List Site} {items : List RemapClass.Item}
      (status : Loader.isShowStatusMessage site.autogen = true)
      (others : Built symbols (announced + announcements [site]) sites items) :
      Built symbols announced (site :: sites) items
  | item {announced : Nat} {site : Site} {sites : List Site} {item : RemapClass.Item}
      {items : List RemapClass.Item} (status : Loader.isShowStatusMessage site.autogen = false)
      (own : Fitted read make symbols announced site item)
      (others : Built symbols (announced + announcements [site]) sites items) :
      Built symbols announced (site :: sites) (item :: items)

variable {read make}

theorem fitted_of_made {symbols : Symbols} {announced : Nat} {site : Site} {type : UInt32}
    {pairs : List (UInt32 × UInt32)} {groups : List (List RemapFilter)}
    (own : (Symbols.announce^[announced] symbols).record site.autogen = .ok (type :: flat pairs))
    (made : List.Forall₂ Makes (sources symbols site.path) groups) :
    Fitted read make symbols announced site
      { processor := some (.fed type.toNat pairs), filters := groups.flatten } := by
  refine ⟨⟨type, pairs, own, rfl⟩, ?_, ?_⟩
  · intro world
    rw [← blocked_iff made (read world) (fun _ => true) (fun _ => true) fun _ => rfl]
    generalize groups.flatten = filters
    simp [Remapping.Item.isblocked, RemapClass.Item.inWorld, RemapFilter.inWorld]
  · intro world
    rw [← blocked_iff made (read world) Meaning.isDevice FilterVector.isDevice
      isDevice_filterType]
    generalize groups.flatten = filters
    simp [Remapping.Item.isblockedKeyup, RemapClass.Item.inWorld, RemapFilter.inWorld,
      Remapping.RemapFilterBase.isblockedKeyup, Remapping.RemapFilterBase.isDeviceFilter,
      FilterVector.isDevice]

variable {buffer : VectorBuffer} {finish : Nat}

/-- The constructor makes the items of the autogens out of the words that they compile to. -/
theorem reads_sites {symbols : Symbols} {announced : Nat} {sites : List Site}
    {words : List UInt32} (small : buffer.size / 4 ≤ MAX_ALLOCATION_COUNT)
    (any : NamesAny symbols.symbolMap) (compiled : Compiled symbols announced sites words) :
    RegularDevices sites → ∀ items : List RemapClass.Item,
    Reads buffer finish words (fun remapclass => remapclass.items = items)
      (fun remapclass => ∃ more, Built read make symbols announced sites more ∧
        remapclass.items = items ++ more) := by
  induction compiled with
  | nil announced =>
      intro _ items
      apply (RemapClass.reads_nil _).mono
      intro remapclass same
      refine ⟨[], .nil announced, ?_⟩
      rw [List.append_nil]
      exact same
  | @cons announced site sites record filters rest own scope _ ih =>
      intro regular items
      have later := ih fun other member => regular other (List.mem_cons_of_mem _ member)
      cases status : Loader.isShowStatusMessage site.autogen with
      | true =>
          rw [if_pos status] at scope
          obtain rfl := Except.ok.inj scope
          rw [Symbols.record, if_pos status] at own
          obtain rfl := Except.ok.inj own
          rw [List.append_nil]
          apply ((RemapClass.reads_statusMessage small).append (later items)).mono
          intro remapclass built
          obtain ⟨more, others, same⟩ := built
          exact ⟨more, .message status others, same⟩
      | false =>
          have loud : ¬ Loader.isShowStatusMessage site.autogen = true := by simp [status]
          rw [if_neg loud] at scope
          obtain ⟨type, pairs, rfl, known⟩ := record_ok status own
          obtain ⟨blocks, encoded, rfl⟩ := encodings_ok scope
          have usable := usable_sources any
            (fun other member => regular other (List.mem_singleton.1 member ▸ List.mem_cons_self))
          have start : Reads buffer finish (Framing.frame UInt32.ofNat (type :: flat pairs))
              (fun remapclass => remapclass.items = items) _ := RemapClass.reads_item small known
          apply (start.append (reads_sources small usable encoded _)).append
          apply RemapClass.reads_exists
          intro groups
          apply RemapClass.reads_and
          intro made
          apply (later _).mono
          intro remapclass built
          obtain ⟨more, others, same⟩ := built
          rw [List.append_assoc] at same
          exact ⟨_, .item status (fitted_of_made own made) others, same⟩

theorem vkConfig_ok {symbols : Symbols} {node : Tree} {identifier : String} {config : List UInt32}
    (own : vkConfig symbols node identifier = .ok config) :
    config = [] ∨ ∃ keycodes : List UInt32, keycodes.length = 4 ∧
      config = Framing.frame UInt32.ofNat (.ofNat VK_CONFIG :: keycodes) := by
  rw [vkConfig] at own
  by_cases optional : (node.getOptional "vk_config").isSome = true
  · rw [if_pos optional] at own
    obtain ⟨keycodes, found, rfl⟩ := Related.map_ok own
    have four : Loader.vkConfigNames.length = keycodes.length :=
      (Related.mapM_ok found).length_eq
    refine .inr ⟨keycodes, four.symm, ?_⟩
    rw [Framing.frame, List.length_cons, ← four]
    rfl
  · rw [if_neg optional] at own
    exact .inl (Except.ok.inj own).symm

theorem reads_config {symbols : Symbols} {node : Tree} {identifier : String}
    {config : List UInt32} {items : List RemapClass.Item}
    (small : buffer.size / 4 ≤ MAX_ALLOCATION_COUNT)
    (own : vkConfig symbols node identifier = .ok config) :
    Reads buffer finish config (fun remapclass => remapclass.items = items)
      (fun remapclass => remapclass.items = items) := by
  rcases vkConfig_ok own with rfl | ⟨keycodes, four, rfl⟩
  · exact RemapClass.reads_nil _
  · exact RemapClass.reads_vkConfig small four

end

/-- The constructor of RemapClass makes, of the entry that an identifier compiles to, an item
for each autogen below it, and its filters block where the elements around the autogen say so. -/
theorem construct_filters_as_written {World : Type*} (read : World → FilterState)
    (make : RemapFunc → Remapping.RemapFuncBase World) {symbols : Symbols} {forest : List Tree}
    {node : Tree} {entry : UInt32 × List UInt32} (any : NamesAny symbols.symbolMap)
    (regular : RegularDevices (sites forest)) (compiled : CompiledEntry symbols forest node entry)
    {buffer : VectorBuffer} {p : Nat} {rest : List UInt32} {manager : RemapClassManager}
    (small : buffer.size / 4 ≤ MAX_ALLOCATION_COUNT)
    (here : buffer.words.drop p = entry.2 ++ rest)
    (room : manager.allocationCount + entry.2.length ≤ MAX_ALLOCATION_COUNT) (configindex : Nat) :
    Built read make symbols 0 (sites forest)
      (RemapClass.construct buffer p entry.2.length configindex manager).value.1.items := by
  obtain ⟨config, words, whole, configured, own⟩ := compiled.body
  have reads : Reads buffer (p + entry.2.length) entry.2 (fun remapclass => remapclass.items = [])
      fun remapclass => ∃ more, Built read make symbols 0 (sites forest) more ∧
        remapclass.items = [] ++ more := by
    rw [whole]
    exact (reads_config small configured).append (reads_sites small any own regular [])
  rw [RemapClass.construct]
  dsimp only
  rw [if_neg (by omega)]
  obtain ⟨last, manager', fuel, built, _, same⟩ := reads p rest
    { identity := manager.nextIdentity, configindex } _ 0 here (Nat.le_refl _) rfl
  obtain ⟨items, own, same_items⟩ := built
  have ended : (RemapClass.addEntries buffer (p + entry.2.length) fuel (p + entry.2.length) last
      manager').value = (last, manager') := by
    cases fuel with
    | zero => rfl
    | succ fuel =>
        rw [RemapClass.addEntries, if_pos rfl]
        rfl
  rw [Nat.zero_add, ended] at same
  rw [same, same_items]
  exact own

def filteredForest : List Tree :=
  [.node "identifier" "a" [], .node "device_not" "DeviceVendor::A" [], .node "only" "X" [],
    .node "autogen" "__KeyToKey__ KeyCode::A, KeyCode::B" []]

def filteredSymbols : Symbols where
  symbolMap := ⟨[("ConfigIndex::a", 0), ("ApplicationType::X", 7), ("DeviceVendor::A", 1),
    ("DeviceProduct::ANY", 0), ("DeviceLocation::ANY", 0), ("KeyCode::A", 3), ("KeyCode::B", 4)]⟩
  symbolMapCacheOptionSeparator := 5
  symbolMapCacheOptionUseSeparator := 4

def filteredEntry : List UInt32 := [5, 21, 1, 3, 1, 4, 4, 51, 1, 0, 0, 2, 44, 7]

theorem sites_filteredForest :
    sites filteredForest =
      [⟨[⟨0, filteredForest⟩], "__KeyToKey__KeyCode::A,KeyCode::B".toList⟩] := by
  have expanded : Autogen.expand (Loader.prepareAutogen
      (Text.trimLeftCopy "__KeyToKey__ KeyCode::A, KeyCode::B")) =
      ["__KeyToKey__KeyCode::A,KeyCode::B".toList] := by decide +kernel
  simp [sites, filteredForest, sitesOfNodes, sitesOfNode, expanded]

theorem compiled_filteredForest :
    CompiledEntry filteredSymbols filteredForest (.node "identifier" "a" [])
      (0, filteredEntry) := by
  have index : filteredSymbols.symbolMap.get
      ("ConfigIndex::" ++ Text.normalizeIdentifier (Text.trimCopy "a")) = .ok 0 := by
    decide +kernel
  have record : (Symbols.announce^[0] filteredSymbols).record
      "__KeyToKey__KeyCode::A,KeyCode::B".toList = .ok [21, 1, 3, 1, 4] := by decide +kernel
  have filters : (if Loader.isShowStatusMessage "__KeyToKey__KeyCode::A,KeyCode::B".toList
      then .ok [] else encodings filteredSymbols [⟨0, filteredForest⟩]) =
      .ok [4, 51, 1, 0, 0, 2, 44, 7] := by decide +kernel
  have compiled := @Compiled.single filteredSymbols 0 _ _ _ _ record filters
  refine ⟨index, [], filteredEntry, rfl, rfl, ?_⟩
  rw [sites_filteredForest]
  exact compiled

theorem construct_filters_as_written_filteredForest :
    Built id (fun remapFunc => { type := remapFunc.type }) filteredSymbols 0 (sites filteredForest)
      (RemapClass.construct (.ofWords ([1, 15, 0] ++ filteredEntry)) 3 filteredEntry.length 0
        {}).value.1.items := by
  have regular : RegularDevices (sites filteredForest) := by
    have all : ∀ element ∈ filteredForest, ∀ isnot,
        describe element.tag = some (.device isnot) →
        arguments element = ["DeviceVendor::A".toList] := by decide +kernel
    have one : Regular ["DeviceVendor::A".toList] :=
      ⟨[⟨"DeviceVendor::A".toList, none, none, by decide, by simp, by simp, by simp⟩], rfl⟩
    rw [sites_filteredForest]
    intro site member scope onPath element child isnot described
    obtain rfl := List.mem_singleton.1 member
    obtain rfl := List.mem_singleton.1 onPath
    rw [all element child isnot described]
    exact one
  have any : NamesAny filteredSymbols.symbolMap := ⟨by decide, by decide⟩
  have here : (VectorBuffer.ofWords ([1, 15, 0] ++ filteredEntry)).words.drop 3 =
      filteredEntry ++ [] := by
    rw [VectorBuffer.ofWords_words]
    rfl
  exact construct_filters_as_written id _ any regular compiled_filteredForest (by decide) here
    (by decide) 0

end FilterScope

end Karabiner
