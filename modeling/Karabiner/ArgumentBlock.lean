import Karabiner.InitializeVectorLoader
import Karabiner.LoadAccepts

set_option autoImplicit false

/- The block of words that add_to_initialize_vector appends, written as the source writes it,
and what the kernel extension reads out of it. -/
namespace Karabiner

namespace Symbols

/-- The vector under construction, with the count that is written into it at the end. -/
structure Block where
  vector : InitializeVector
  count : UInt32

namespace Block

def pushBack (block : Block) (v : UInt32) : Block where
  vector := block.vector.pushBack v
  count := block.count + 1

def insert (block : Block) (index : Nat) (v : UInt32) : Block where
  vector := block.vector.insert index v
  count := block.count + 1

end Block

section

variable (symbols : Symbols) (valueStartIndex : Nat)

/-- One round of the inner loop. -/
def pushValue (arg : List Char) (state : Nat × Block) (value : List Char) :
    Except String (Nat × Block) := do
  let (datatype, block) := state
  let newdatatype := Utilities.getDatatype (.ofList value)
  if newdatatype = Bridge.DATATYPE_NONE then
    throw ("Unknown symbol:\n\n" ++ .ofList value)
  else if datatype ≠ 0 ∧ newdatatype ≠ Bridge.DATATYPE_MODIFIERFLAG then
    throw ("Cannot connect(|) except ModifierFlag:\n\n" ++ .ofList arg)
  else
    let datatype := newdatatype
    let newvalue ← symbols.symbolMap.get (.ofList value)
    let block := (block.pushBack (.ofNat datatype)).pushBack newvalue
    if datatype = Bridge.DATATYPE_OPTION ∧ newvalue = symbols.symbolMapCacheOptionSeparator then
      let block := block.insert valueStartIndex symbols.symbolMapCacheOptionUseSeparator
      return (datatype, block.insert valueStartIndex (.ofNat Bridge.DATATYPE_OPTION))
    else return (datatype, block)

/-- One round of the outer loop. -/
def pushArgument (block : Block) (arg : List Char) : Except String Block := do
  let (datatype, block) ←
    (Text.tokens '|' arg).foldlM (symbols.pushValue valueStartIndex arg) (0, block)
  if datatype = Bridge.DATATYPE_MODIFIERFLAG then
    return (block.pushBack (.ofNat Bridge.DATATYPE_MODIFIERFLAGS_END)).pushBack 1
  else return block

end

/-- add_to_initialize_vector. -/
def addToInitializeVector (symbols : Symbols) (filterVector : List UInt32) (params : List Char)
    (type : UInt32) (vector : InitializeVector) : Except String InitializeVector := do
  let params := replaceAliases params
  let countIndex := vector.data.length
  let vector := (vector.pushBack 0).pushBack type
  let valueStartIndex := vector.data.length
  let block ← (Text.tokens ',' params).foldlM
      (symbols.pushArgument valueStartIndex) ⟨vector, 1⟩
  let vector := block.vector.update countIndex block.count
  return filterVector.foldl InitializeVector.pushBack vector

end Symbols

namespace InitializeVector

/-- The entry under construction with more words behind it. -/
def extend (vector : InitializeVector) (words : List UInt32) : InitializeVector :=
  { vector with
    data := vector.data.set vector.startIndex
      (vector.data.getD vector.startIndex 0 + .ofNat words.length) ++ words }

theorem extend_update (vector : InitializeVector) (words : List UInt32) (w v : UInt32) :
    (vector.extend (w :: words)).update vector.data.length v = vector.extend (v :: words) := by
  rw [update, extend, extend]
  dsimp only
  rw [List.set_append_right _ _ (by simp), List.length_set, Nat.sub_self]
  rfl

section

variable {vector : InitializeVector} (opened : vector.startIndex < vector.data.length)

include opened

theorem increment_extend (words : List UInt32) :
    increment (vector.extend words).data vector.startIndex =
      vector.data.set vector.startIndex
        (vector.data.getD vector.startIndex 0 + .ofNat (words.length + 1)) ++ words := by
  have counted : UInt32.ofNat (words.length + 1) = .ofNat words.length + 1 := by
    rw [UInt32.ofNat_add]
    rfl
  have inside : vector.startIndex < (vector.data.set vector.startIndex
      (vector.data.getD vector.startIndex 0 + .ofNat words.length)).length := by
    rwa [List.length_set]
  rw [increment, extend, List.set_append_left _ _ inside, List.getD_append _ _ _ _ inside,
    List.set_set, counted, ← UInt32.add_assoc]
  congr 3
  simp [opened]

theorem extend_pushBack (words : List UInt32) (v : UInt32) :
    (vector.extend words).pushBack v = vector.extend (words ++ [v]) := by
  have incremented := increment_extend opened words
  have position : (vector.extend words).startIndex = vector.startIndex := rfl
  rw [pushBack, position, incremented, extend, extend, List.length_append, List.append_assoc]
  rfl

theorem extend_insert {words : List UInt32} {k : Nat} (inside : k ≤ words.length) (v : UInt32) :
    (vector.extend words).insert (vector.data.length + k) v =
      vector.extend (words.take k ++ v :: words.drop k) := by
  have incremented := increment_extend opened words
  have length : (words.take k ++ v :: words.drop k).length = words.length + 1 := by
    rw [List.length_append, List.length_cons, List.length_take, List.length_drop]
    omega
  have position : (vector.extend words).startIndex = vector.startIndex := rfl
  rw [insert, position, incremented, extend, extend, length, List.take_append, List.drop_append,
    List.length_set,
    Nat.add_sub_cancel_left, List.take_of_length_le (by rw [List.length_set]; omega),
    List.drop_eq_nil_of_le (by rw [List.length_set]; omega), List.append_assoc]
  rfl

theorem extend_foldl_pushBack (words more : List UInt32) :
    more.foldl pushBack (vector.extend words) = vector.extend (words ++ more) := by
  induction more generalizing words with
  | nil => rw [List.append_nil, List.foldl_nil]
  | cons v more ih =>
      rw [List.foldl_cons, extend_pushBack opened, ih, List.append_assoc]
      rfl

theorem extend_nil : vector.extend [] = vector := by
  have same : vector.data.getD vector.startIndex 0 = vector.data[vector.startIndex] := by
    simp [opened]
  rw [extend, List.append_nil, same]
  simp

end

end InitializeVector

namespace Symbols

/-- The block after so many values. -/
def Block.holding (vector : InitializeVector) (type : UInt32) (values : List UInt32) : Block where
  vector := vector.extend (0 :: type :: values)
  count := .ofNat (values.length + 1)

section

variable {vector : InitializeVector} (opened : vector.startIndex < vector.data.length)
  (type : UInt32)

include opened

theorem Block.holding_pushBack (values : List UInt32) (v : UInt32) :
    (holding vector type values).pushBack v = holding vector type (values ++ [v]) := by
  have pushed := InitializeVector.extend_pushBack opened (0 :: type :: values) v
  rw [pushBack, holding, holding, pushed, List.length_append]
  congr 1
  rw [List.length_singleton, UInt32.ofNat_add (values.length + 1) 1]
  rfl

theorem Block.holding_insert (values : List UInt32) (v : UInt32) :
    (holding vector type values).insert (vector.data.length + 2) v =
      holding vector type (v :: values) := by
  have inserted := @InitializeVector.extend_insert vector opened (0 :: type :: values) 2
    (by simp) v
  rw [insert, holding, holding, inserted, List.length_cons, UInt32.ofNat_add (values.length + 1) 1]
  rfl

theorem pushValue_holding (symbols : Symbols) (arg : List Char) (state : Nat × List UInt32)
    (value : List Char) :
    symbols.pushValue (vector.data.length + 2) arg (state.1, .holding vector type state.2) value =
      (fun state => (state.1, Block.holding vector type state.2)) <$>
        symbols.addValue arg state value := by
  rw [pushValue, addValue]
  dsimp only
  split
  · rfl
  split
  · rfl
  cases symbols.symbolMap.get (.ofList value) with
  | error what => rfl
  | ok newvalue =>
      have pushed : ((Block.holding vector type state.2).pushBack
          (.ofNat (Utilities.getDatatype (.ofList value)))).pushBack newvalue =
          .holding vector type
            (state.2 ++ [.ofNat (Utilities.getDatatype (.ofList value)), newvalue]) := by
        rw [Block.holding_pushBack opened, Block.holding_pushBack opened, List.append_assoc]
        rfl
      show (if _ then _ else _) = _ <$> (if _ then _ else _)
      rw [pushed, Block.holding_insert opened, Block.holding_insert opened]
      split
      · rfl
      · rfl

theorem pushArgument_holding (symbols : Symbols) (values : List UInt32) (arg : List Char) :
    symbols.pushArgument (vector.data.length + 2) (.holding vector type values) arg =
      Block.holding vector type <$> symbols.addArgument values arg := by
  have inner := Throwing.foldlM_view (fun state : Nat × List UInt32 =>
    (state.1, Block.holding vector type state.2)) (pushValue_holding opened type symbols arg)
    (Text.tokens '|' arg) (0, values)
  rw [pushArgument, addArgument, inner]
  cases (Text.tokens '|' arg).foldlM (symbols.addValue arg) (0, values) with
  | error what => rfl
  | ok state =>
      show (if _ then _ else _) = _ <$> (if _ then _ else _)
      split
      · rw [Block.holding_pushBack opened, Block.holding_pushBack opened, List.append_assoc]
        rfl
      · rfl

/-- The entry under construction gets the block and the filter words, and nothing else changes. -/
theorem addToInitializeVector_eq (symbols : Symbols) (filterVector : List UInt32)
    (params : List Char) :
    symbols.addToInitializeVector filterVector params type vector =
      (fun values => vector.extend
        (.ofNat (values.length + 1) :: type :: values ++ filterVector)) <$>
        symbols.values params := by
  have head : (vector.pushBack 0).pushBack type = vector.extend [0, type] := by
    have first := InitializeVector.extend_pushBack opened [] 0
    rw [InitializeVector.extend_nil opened] at first
    rw [first]
    exact InitializeVector.extend_pushBack opened [0] type
  have position : (vector.extend [0, type]).data.length = vector.data.length + 2 := by
    simp [InitializeVector.extend]
  have outer :=
    Throwing.foldlM_view (Block.holding vector type) (pushArgument_holding opened type symbols)
    (Text.tokens ',' (replaceAliases params)) []
  rw [addToInitializeVector, values]
  dsimp only
  rw [head, position]
  show (_ >>= _) = _
  rw [show (⟨vector.extend [0, type], 1⟩ : Block) = .holding vector type [] from rfl, outer]
  cases (Text.tokens ',' (replaceAliases params)).foldlM symbols.addArgument [] with
  | error what => rfl
  | ok values =>
      have updated := InitializeVector.extend_update vector (type :: values) 0
        (.ofNat (values.length + 1))
      have filtered := InitializeVector.extend_foldl_pushBack opened
        (.ofNat (values.length + 1) :: type :: values) filterVector
      rw [← updated] at filtered
      exact congrArg Except.ok filtered

end

/-- The tokens of each comma group. -/
def groups (params : List Char) : List (List (List Char)) :=
  (Text.tokens ',' (replaceAliases params)).map (Text.tokens '|')

def datatype (token : List Char) : Nat := Utilities.getDatatype (.ofList token)

/-- The two words of pairs, one pair after the other. -/
def flat (pairs : List (UInt32 × UInt32)) : List UInt32 :=
  pairs.flatMap fun pair => [pair.1, pair.2]

@[simp] theorem flat_append (first second : List (UInt32 × UInt32)) :
    flat (first ++ second) = flat first ++ flat second := List.flatMap_append

@[simp] theorem flat_length (pairs : List (UInt32 × UInt32)) :
    (flat pairs).length = 2 * pairs.length := by
  induction pairs with
  | nil => rfl
  | cons pair pairs ih =>
      rw [flat, List.flatMap_cons, List.length_append, ← flat, ih]
      simp only [List.length_cons, List.length_nil]
      omega

section

variable (symbols : Symbols)

def pair (token : List Char) : UInt32 × UInt32 :=
  (.ofNat (datatype token), (symbols.symbolMap.getOptional (.ofList token)).getD 0)

/-- The token has a datatype and a value. -/
def Known (token : List Char) : Prop :=
  datatype token ≠ Bridge.DATATYPE_NONE ∧
    symbols.symbolMap.get (.ofList token) = .ok (symbols.pair token).2

def isSeparator (token : List Char) : Bool :=
  datatype token = Bridge.DATATYPE_OPTION ∧
    (symbols.pair token).2 = symbols.symbolMapCacheOptionSeparator

def useSeparator : UInt32 × UInt32 :=
  (.ofNat Bridge.DATATYPE_OPTION, symbols.symbolMapCacheOptionUseSeparator)

def endsInModifierFlag (group : List (List Char)) : Bool :=
  group.getLast?.any fun token => datatype token = Bridge.DATATYPE_MODIFIERFLAG

def groupPairs (group : List (List Char)) : List (UInt32 × UInt32) :=
  group.map symbols.pair ++
    if endsInModifierFlag group then [(.ofNat Bridge.DATATYPE_MODIFIERFLAGS_END, 1)] else []

/-- What the arguments are meant to be to the remap function. -/
def pairs (params : List Char) : List (UInt32 × UInt32) :=
  List.replicate ((groups params).flatten.countP symbols.isSeparator) symbols.useSeparator ++
    (groups params).flatMap symbols.groupPairs

variable {symbols}

theorem get_ok {name : String} {v : UInt32} (found : symbols.symbolMap.get name = .ok v) :
    symbols.symbolMap.getOptional name = some v := by
  rw [SymbolMap.get] at found
  cases own : symbols.symbolMap.getOptional name with
  | none =>
      rw [own] at found
      cases found
  | some value =>
      rw [own] at found
      rw [Except.ok.inj found]

theorem addValue_ok {arg token : List Char} {state next : Nat × List UInt32}
    (added : symbols.addValue arg state token = .ok next) :
    symbols.Known token ∧ next.1 = datatype token ∧
      next.2 = flat (List.replicate ([token].countP symbols.isSeparator) symbols.useSeparator) ++
        (state.2 ++ flat [symbols.pair token]) := by
  rw [addValue] at added
  dsimp only at added
  split at added
  · cases added
  rename_i some_type
  split at added
  · cases added
  cases found : symbols.symbolMap.get (.ofList token) with
  | error what =>
      rw [found] at added
      cases added
  | ok newvalue =>
      have value : (symbols.pair token).2 = newvalue := by
        rw [pair, get_ok found]
        rfl
      rw [found] at added
      refine ⟨⟨some_type, by rw [found, value]⟩, ?_⟩
      change (if _ then _ else _) = _ at added
      split at added
      · rename_i separates
        obtain rfl := Except.ok.inj added
        have counted : symbols.isSeparator token = true := by
          rw [isSeparator, value]
          exact decide_eq_true separates
        refine ⟨rfl, ?_⟩
        rw [List.countP_singleton, if_pos counted, ← value]
        rfl
      · rename_i plain
        obtain rfl := Except.ok.inj added
        have uncounted : ¬ symbols.isSeparator token = true := by
          rw [isSeparator, value]
          exact fun separates => plain (of_decide_eq_true separates)
        refine ⟨rfl, ?_⟩
        rw [List.countP_singleton, if_neg uncounted, ← value]
        rfl

theorem addValues_ok {arg : List Char} {tokens : List (List Char)} {state next : Nat × List UInt32}
    (added : tokens.foldlM (symbols.addValue arg) state = .ok next) :
    (∀ token ∈ tokens, symbols.Known token) ∧
      next.1 = (tokens.getLast?.map datatype).getD state.1 ∧
      next.2 = flat (List.replicate (tokens.countP symbols.isSeparator) symbols.useSeparator) ++
        (state.2 ++ flat (tokens.map symbols.pair)) := by
  induction tokens generalizing state with
  | nil =>
      obtain rfl := Except.ok.inj added
      exact ⟨by simp, rfl, by simp [flat]⟩
  | cons token tokens ih =>
      obtain ⟨middle, first, added⟩ := Throwing.foldlM_cons_ok added
      obtain ⟨known, last, values⟩ := addValue_ok first
      obtain ⟨rest_known, rest_last, rest_values⟩ := ih added
      refine ⟨List.forall_mem_cons.2 ⟨known, rest_known⟩, ?_, ?_⟩
      · rw [rest_last, last]
        cases tokens with
        | nil => rfl
        | cons other tokens =>
            rw [List.getLast?_cons_cons]
            cases reached : (other :: tokens).getLast? with
            | none => simp at reached
            | some final => rfl
      · have counted : (token :: tokens).countP symbols.isSeparator =
            tokens.countP symbols.isSeparator + [token].countP symbols.isSeparator := by
          show ([token] ++ tokens).countP _ = _
          rw [List.countP_append, Nat.add_comm]
        have mapped : (token :: tokens).map symbols.pair =
            [symbols.pair token] ++ tokens.map symbols.pair := rfl
        rw [rest_values, values, counted, mapped, List.replicate_add, flat_append, flat_append]
        simp only [List.append_assoc]

theorem addArgument_ok {values next : List UInt32} {arg : List Char}
    (added : symbols.addArgument values arg = .ok next) :
    (∀ token ∈ Text.tokens '|' arg, symbols.Known token) ∧
      next = flat (List.replicate ((Text.tokens '|' arg).countP symbols.isSeparator)
        symbols.useSeparator) ++ (values ++ flat (symbols.groupPairs (Text.tokens '|' arg))) := by
  rw [addArgument] at added
  cases inner : (Text.tokens '|' arg).foldlM (symbols.addValue arg) (0, values) with
  | error what =>
      rw [inner] at added
      cases added
  | ok state =>
      rw [inner] at added
      obtain ⟨known, last, own⟩ := addValues_ok inner
      have ends : state.1 = Bridge.DATATYPE_MODIFIERFLAG ↔
          endsInModifierFlag (Text.tokens '|' arg) = true := by
        rw [last, endsInModifierFlag]
        cases (Text.tokens '|' arg).getLast? with
        | none => exact ⟨fun absent => absurd (show 0 = 2 from absent) (by decide),
            fun absent => by cases absent⟩
        | some token => simp
      refine ⟨known, ?_⟩
      change (if _ then _ else _) = _ at added
      rw [groupPairs]
      split at added
      · rename_i modifier
        obtain rfl := Except.ok.inj added
        rw [if_pos (ends.1 modifier), own, flat_append]
        simp only [List.append_assoc]
        rfl
      · rename_i other
        obtain rfl := Except.ok.inj added
        rw [if_neg fun modifier => other (ends.2 modifier), own, List.append_nil]

theorem addArguments_ok {args : List (List Char)} {values next : List UInt32}
    (added : args.foldlM symbols.addArgument values = .ok next) :
    (∀ token ∈ (args.map (Text.tokens '|')).flatten, symbols.Known token) ∧
      next = flat (List.replicate
          ((args.map (Text.tokens '|')).flatten.countP symbols.isSeparator) symbols.useSeparator) ++
        (values ++ flat ((args.map (Text.tokens '|')).flatMap symbols.groupPairs)) := by
  induction args generalizing values with
  | nil =>
      obtain rfl := Except.ok.inj added
      exact ⟨by simp, by simp [flat]⟩
  | cons arg args ih =>
      obtain ⟨middle, first, added⟩ := Throwing.foldlM_cons_ok added
      obtain ⟨known, own⟩ := addArgument_ok first
      obtain ⟨rest_known, rest⟩ := ih added
      rw [List.map_cons, List.flatten_cons, List.flatMap_cons]
      refine ⟨?_, ?_⟩
      · intro token member
        rcases List.mem_append.1 member with here | later
        · exact known token here
        · exact rest_known token later
      · rw [rest, own, List.countP_append, Nat.add_comm, List.replicate_add, flat_append,
          flat_append]
        simp only [List.append_assoc]

theorem values_ok {params : List Char} {words : List UInt32}
    (accepted : symbols.values params = .ok words) :
    (∀ token ∈ (groups params).flatten, symbols.Known token) ∧
    words = flat (symbols.pairs params) := by
  obtain ⟨known, own⟩ := addArguments_ok accepted
  refine ⟨known, ?_⟩
  rw [own, pairs, flat_append, List.nil_append]
  rfl

end

end Symbols

open Symbols (flat)

namespace RemapFunc

def isIgnorePassThrough (pair : UInt32 × UInt32) : Bool :=
  pair.1.toNat = Bridge.DATATYPE_OPTION ∧ pair.2.toNat = Option_IGNORE_PASSTHROUGH

/-- The remap function that was given so many pairs. -/
def fed (type : Nat) (pairs : List (UInt32 × UInt32)) : RemapFunc where
  type := type
  parameters := pairs.filter fun pair => !isIgnorePassThrough pair
  ignorePassThrough := pairs.any isIgnorePassThrough

/-- Two words at a time, the loop takes in what was written pair by pair. -/
theorem addAll_flat {buffer : VectorBuffer} {vec length : Nat} (type : Nat)
    {pairs : List (UInt32 × UInt32)} {rest : List UInt32} :
    ∀ (i fuel : Nat) (before : List (UInt32 × UInt32)),
      buffer.words.drop (vec + i) = flat pairs ++ rest → length = i + 2 * pairs.length →
      pairs.length ≤ fuel →
      (addAll buffer vec length fuel i (fed type before)).value = fed type (before ++ pairs) := by
  induction pairs with
  | nil =>
      intro i fuel before _ whole _
      rw [List.append_nil]
      cases fuel with
      | zero => rfl
      | succ fuel =>
          rw [addAll, if_pos (by simp only [whole, List.length_nil]; omega)]
          rfl
  | cons pair pairs ih =>
      intro i fuel before here whole enough
      rw [List.length_cons] at whole enough
      cases fuel with
      | zero => omega
      | succ fuel =>
          obtain ⟨datatype, next⟩ := VectorBuffer.words_drop_cons here
          obtain ⟨newval, others⟩ := VectorBuffer.words_drop_cons next
          have later : buffer.words.drop (vec + (i + 2)) = flat pairs ++ rest := others
          have tail := ih (i + 2) fuel (before ++ [pair]) later (by omega) (by omega)
          rw [List.append_assoc, List.singleton_append] at tail
          rw [← tail, addAll, if_neg (by omega), Traced.value_bind, VectorBuffer.readWord_value,
            Traced.value_bind, VectorBuffer.readWord_value, datatype,
            show vec + (i + 1) = vec + i + 1 by omega, newval]
          by_cases ignored : isIgnorePassThrough pair = true
          · have given : fed type (before ++ [pair]) =
                { fed type before with ignorePassThrough := true } := by
              simp [fed, ignored]
            rw [if_pos (of_decide_eq_true ignored), given]
          · have given : fed type (before ++ [pair]) =
                { fed type before with parameters := (fed type before).parameters ++ [pair] } := by
              simp [fed, ignored]
            rw [if_neg fun both => ignored (decide_eq_true both), given]

theorem create_flat {buffer : VectorBuffer} {vec : Nat} {type : UInt32}
    {pairs : List (UInt32 × UInt32)} {rest : List UInt32}
    (known : Bridge.REMAPTYPE_NONE < type.toNat ∧ type.toNat < Bridge.REMAPTYPE_END)
    (here : buffer.words.drop vec = type :: flat pairs ++ rest) :
    (create buffer vec (1 + 2 * pairs.length)).value = some (fed type.toNat pairs) := by
  obtain ⟨first, others⟩ := VectorBuffer.words_drop_cons here
  have all := addAll_flat type.toNat 1 (1 + 2 * pairs.length) [] others rfl (by omega)
  rw [create, if_neg (by omega), Traced.value_bind, VectorBuffer.readWord_value, first,
    if_pos known, Traced.value_map]
  exact congrArg some all

end RemapFunc

namespace RemapClass

/-- The constructor of RemapClass makes one item of the block and goes on behind it. -/
theorem addEntries_block {buffer : VectorBuffer} {finish p fuel : Nat} {type : UInt32}
    {pairs : List (UInt32 × UInt32)} {rest : List UInt32}
    (known : Bridge.REMAPTYPE_NONE < type.toNat ∧ type.toNat < Bridge.REMAPTYPE_END)
    (small : buffer.size / 4 ≤ MAX_ALLOCATION_COUNT)
    (here : buffer.words.drop p =
      .ofNat ((flat pairs).length + 1) :: type :: flat pairs ++ rest)
    (inside : p + ((flat pairs).length + 2) ≤ finish) (remapclass : RemapClass)
    (manager : RemapClassManager) :
    (addEntries buffer finish (fuel + 1) p remapclass manager).value =
      (addEntries buffer finish fuel (p + ((flat pairs).length + 2)) { remapclass with
        items := remapclass.items ++ [{ processor := some (.fed type.toNat pairs) }]
        isSimultaneouskeypresses := remapclass.isSimultaneouskeypresses ||
          type.toNat = Bridge.REMAPTYPE_SIMULTANEOUSKEYPRESSES } manager).value := by
  obtain ⟨size, next⟩ := VectorBuffer.words_drop_cons here
  have fits : (flat pairs).length + 1 < 2 ^ 32 := by
    have length := congrArg List.length here
    simp only [MAX_ALLOCATION_COUNT] at small
    simp only [List.length_drop, VectorBuffer.words_length, List.length_cons,
      List.length_append] at length
    omega
  have count : (UInt32.ofNat ((flat pairs).length + 1)).toNat = (flat pairs).length + 1 :=
    UInt32.toNat_ofNat_of_lt' fits
  obtain ⟨first, _⟩ := VectorBuffer.words_drop_cons next
  have created := RemapFunc.create_flat known next
  have length : 1 + 2 * pairs.length = (flat pairs).length + 1 := by
    rw [Symbols.flat_length]
    omega
  rw [length] at created
  rw [addEntries, if_neg (by omega), if_neg (by omega), Traced.value_bind,
    VectorBuffer.readWord_value, size, count, if_neg (by omega), if_pos (by omega),
    Traced.value_bind, addEntry, Traced.value_bind, VectorBuffer.readWord_value, first,
    addEntryOfType, entryKind, if_pos known]
  dsimp only
  rw [addItem, Traced.value_bind, created]
  show (addEntries buffer finish fuel (p + 1 + ((flat pairs).length + 1)) _ _).value = _
  rw [show p + 1 + ((flat pairs).length + 1) = p + ((flat pairs).length + 2) by omega]
  rfl

end RemapClass

namespace Loader

open Throwing

theorem each_pushBack_apply (words : List UInt32) (loader : Loader) :
    each pushBack words loader =
      .returns ⟨⟩
      { loader with vector := words.foldl InitializeVector.pushBack loader.vector } := by
  induction words generalizing loader with
  | nil => rfl
  | cons word words ih =>
      rw [each, bind_apply]
      exact ih { loader with vector := loader.vector.pushBack word }

/-- The loader leaves the vector that the source's own order of writes leaves. -/
theorem addToInitializeVector_writes (params : List Char) (type : Nat) (loader : Loader)
    (opened : loader.vector.startIndex < loader.vector.data.length) :
    addToInitializeVector params type loader =
      match loader.toSymbols.addToInitializeVector loader.filterVector params (.ofNat type)
          loader.vector with
      | .ok vector => .returns ⟨⟩ { loader with vector }
      | .error what => .throws what loader := by
  rw [Symbols.addToInitializeVector_eq opened, addToInitializeVector, bind_apply]
  show (ofExcept (loader.values params) >>= _) loader = _
  rw [bind_apply]
  cases loader.values params with
  | error what => rfl
  | ok values =>
      have pushed := InitializeVector.extend_foldl_pushBack opened []
        (.ofNat (values.length + 1) :: .ofNat type :: values ++ loader.filterVector)
      rw [InitializeVector.extend_nil opened, List.nil_append, List.foldl_append] at pushed
      show (each pushBack values >>= fun _ => each pushBack loader.filterVector)
        { loader with vector := (loader.vector.pushBack _).pushBack _ } = _
      rw [bind_apply, each_pushBack_apply]
      dsimp only
      rw [each_pushBack_apply]
      exact congrArg (fun vector => Outcome.returns PUnit.unit { loader with vector }) pushed

end Loader

/-- The arguments of an accepted list reach the remap function as they were written, and the
words behind them stay aligned. -/
theorem argument_list_survives {symbols : Symbols} {filterVector : List UInt32}
    {params : List Char} {type : UInt32} {vector vector' : InitializeVector}
    (opened : vector.startIndex < vector.data.length)
    (known : Bridge.REMAPTYPE_NONE < type.toNat ∧ type.toNat < Bridge.REMAPTYPE_END)
    (accepted : symbols.addToInitializeVector filterVector params type vector = .ok vector') :
    let pairs := symbols.pairs params
    let block := .ofNat ((flat pairs).length + 1) :: type :: flat pairs
    let remapFunc : RemapFunc := {
      type := type.toNat
      parameters := pairs.filter fun pair => !RemapFunc.isIgnorePassThrough pair
      ignorePassThrough := pairs.any RemapFunc.isIgnorePassThrough }
    (∀ token ∈ (Symbols.groups params).flatten, symbols.Known token) ∧
    vector'.data = vector.data.set vector.startIndex
      (vector.data.getD vector.startIndex 0 + .ofNat (block ++ filterVector).length) ++
        (block ++ filterVector) ∧
    ∀ (buffer : VectorBuffer) (p : Nat) (rest : List UInt32),
      buffer.words.drop p = block ++ rest →
      (RemapFunc.create buffer (p + 1) ((flat pairs).length + 1)).value = some remapFunc ∧
      (buffer.size / 4 ≤ MAX_ALLOCATION_COUNT →
        ∀ (finish fuel : Nat) (remapclass : RemapClass) (manager : RemapClassManager),
          p + block.length ≤ finish →
          (RemapClass.addEntries buffer finish (fuel + 1) p remapclass manager).value =
            (RemapClass.addEntries buffer finish fuel (p + block.length) { remapclass with
              items := remapclass.items ++ [{ processor := some remapFunc }]
              isSimultaneouskeypresses := remapclass.isSimultaneouskeypresses ||
                type.toNat = Bridge.REMAPTYPE_SIMULTANEOUSKEYPRESSES } manager).value) := by
  rw [Symbols.addToInitializeVector_eq opened] at accepted
  cases written : symbols.values params with
  | error what =>
      rw [written] at accepted
      cases accepted
  | ok words =>
      rw [written] at accepted
      obtain rfl := Except.ok.inj accepted
      obtain ⟨all_known, rfl⟩ := Symbols.values_ok written
      refine ⟨all_known, rfl, ?_⟩
      intro buffer p rest here
      obtain ⟨_, next⟩ := VectorBuffer.words_drop_cons here
      constructor
      · have created := RemapFunc.create_flat known next
        rw [← Symbols.flat_length, Nat.add_comm 1] at created
        exact created
      · intro small finish fuel remapclass manager inside
        exact RemapClass.addEntries_block known small here inside remapclass manager

def sampleSymbols : Symbols where
  symbolMap := ⟨[("KeyCode::A", 0), ("KeyCode::B", 11), ("ModifierFlag::SHIFT_L", 131072),
    ("ModifierFlag::FN", 8388608), ("Option::SEPARATOR", 5), ("Option::IGNORE_PASSTHROUGH", 1)]⟩
  symbolMapCacheOptionSeparator := 5
  symbolMapCacheOptionUseSeparator := 4

def sampleParams : List Char :=
  ("KeyCode::A,ModifierFlag::SHIFT_L|ModifierFlag::FN@beginKeyCode::B@end" ++
    "Option::IGNORE_PASSTHROUGH").toList

def sampleVector : InitializeVector where
  data := [0, 1, 7]
  isConfigIndexAdded := []
  maxConfigIndex := 0
  freezed := false
  startIndex := 1
  ended := false

def sampleWords : List UInt32 :=
  [12, 4, 1, 0, 2, 131072, 2, 8388608, 3, 1, 1, 11, 12, 5, 12, 1]

theorem argument_list_survives_sample :
    (RemapFunc.create (.ofWords ([0, 22, 7, 17, 21] ++ sampleWords ++ [3, 65, 131072])) 4
      17).value = some {
        type := 21
        parameters := [(12, 4), (1, 0), (2, 131072), (2, 8388608), (3, 1), (1, 11), (12, 5)]
        ignorePassThrough := true } := by
  have pairs : flat (sampleSymbols.pairs sampleParams) = sampleWords := by decide +kernel
  have accepted : sampleSymbols.addToInitializeVector [3, 65, 131072] sampleParams 21 sampleVector =
      .ok { sampleVector with
        data := [0, 22, 7, 17, 21] ++ sampleWords ++ [3, 65, 131072] } := by decide +kernel
  obtain ⟨_, _, reads⟩ := argument_list_survives (by decide) (by decide) accepted
  have here := reads (.ofWords ([0, 22, 7, 17, 21] ++ sampleWords ++ [3, 65, 131072])) 3
    [3, 65, 131072] (by rw [VectorBuffer.ofWords_words, pairs]; rfl)
  rw [pairs] at here
  rw [show 17 = sampleWords.length + 1 from rfl, here.1]
  decide +kernel

end Karabiner
