import Karabiner.Autogen
import Karabiner.FilterVector
import Karabiner.InitializeVector
import Karabiner.Throwing

set_option autoImplicit false

/- xml_compiler::remapclasses_initialize_vector_loader, on trees without include. -/
namespace Karabiner

namespace Bridge

def REMAPTYPE_PASSTHROUGH : Nat := 20
def REMAPTYPE_KEYTOKEY : Nat := 21
def REMAPTYPE_DOUBLEPRESSMODIFIER : Nat := 22
def REMAPTYPE_DROPKEYAFTERREMAP : Nat := 23
def REMAPTYPE_DROPALLKEYS : Nat := 24
def REMAPTYPE_DROPPOINTINGRELATIVECURSORMOVE : Nat := 25
def REMAPTYPE_DROPSCROLLWHEEL : Nat := 26
def REMAPTYPE_FLIPPOINTINGRELATIVE : Nat := 27
def REMAPTYPE_FLIPSCROLLWHEEL : Nat := 28
def REMAPTYPE_FORCENUMLOCKON : Nat := 29
def REMAPTYPE_HOLDINGKEYTOKEY : Nat := 30
def REMAPTYPE_IGNOREMULTIPLESAMEKEYPRESS : Nat := 31
def REMAPTYPE_KEYOVERLAIDMODIFIER : Nat := 32
def REMAPTYPE_KEYDOWNUPTOKEY : Nat := 33
def REMAPTYPE_POINTINGRELATIVETOKEY : Nat := 34
def REMAPTYPE_POINTINGRELATIVETOSCROLL : Nat := 35
def REMAPTYPE_SETKEYBOARDTYPE : Nat := 37
def REMAPTYPE_SCROLLWHEELTOSCROLLWHEEL : Nat := 38
def REMAPTYPE_SCROLLWHEELTOKEY : Nat := 39
def REMAPTYPE_BLOCKUNTILKEYUP : Nat := 40

end Bridge

/-- What the loader looks names up in, with the names that it adds itself. -/
structure Symbols where
  symbolMap : SymbolMap
  simultaneousKeycodeIndex : UInt32 := 0
  symbolMapCacheOptionSeparator : UInt32
  symbolMapCacheOptionUseSeparator : UInt32
  deriving Repr

/-- The loader, with the parts of the compiler that it writes to. -/
structure Loader extends Symbols where
  vector : InitializeVector
  identifierMap : List (UInt32 × String) := []
  errorInformation : ErrorInformation := {}
  filterVector : List UInt32 := []
  deriving Repr

namespace Symbols

/-- The aliases that add_to_initialize_vector replaces. -/
def replaceAliases (params : List Char) : List Char :=
  [("SimultaneousKeyPresses::Option::RAW", "Option::SIMULTANEOUSKEYPRESSES_RAW"),
    ("KeyCode::VK_CHANGE_INPUTMODE_", "KeyCode::VK_CHANGE_INPUTSOURCE_"),
    ("@begin", ","), ("@end", ",Option::SEPARATOR,"),
    ("__\x7b", ","), ("\x7d__", ",Option::SEPARATOR,")].foldl
    (fun params (search, format) => Text.replaceAll search.toList format.toList 0 params) params

/-- A piece between two |, with the type of the piece before it. A separator puts an option
in front of all values. -/
def addValue (symbols : Symbols) (arg : List Char) (state : Nat × List UInt32)
    (value : List Char) : Except String (Nat × List UInt32) := do
  let (datatype, values) := state
  let newdatatype := Utilities.getDatatype (.ofList value)
  if newdatatype = Bridge.DATATYPE_NONE then
    throw ("Unknown symbol:\n\n" ++ .ofList value)
  else if datatype ≠ 0 ∧ newdatatype ≠ Bridge.DATATYPE_MODIFIERFLAG then
    throw ("Cannot connect(|) except ModifierFlag:\n\n" ++ .ofList arg)
  else
    let newvalue ← symbols.symbolMap.get (.ofList value)
    let values := values ++ [.ofNat newdatatype, newvalue]
    if newdatatype = Bridge.DATATYPE_OPTION ∧
        newvalue = symbols.symbolMapCacheOptionSeparator then
      return (newdatatype, .ofNat Bridge.DATATYPE_OPTION ::
        symbols.symbolMapCacheOptionUseSeparator :: values)
    else return (newdatatype, values)

def addArgument (symbols : Symbols) (values : List UInt32) (arg : List Char) :
    Except String (List UInt32) := do
  let (datatype, values) ← (Text.tokens '|' arg).foldlM (symbols.addValue arg) (0, values)
  if datatype = Bridge.DATATYPE_MODIFIERFLAG then
    return values ++ [.ofNat Bridge.DATATYPE_MODIFIERFLAGS_END, 1]
  else return values

/-- The words that add_to_initialize_vector pushes between the type and the filters. -/
def values (symbols : Symbols) (params : List Char) : Except String (List UInt32) :=
  (Text.tokens ',' (replaceAliases params)).foldlM symbols.addArgument []

/-- The name that __SimultaneousKeyPresses__ adds. -/
def newkeycode (symbols : Symbols) : String :=
  "VK_SIMULTANEOUSKEYPRESSES_" ++ toString symbols.simultaneousKeycodeIndex

end Symbols

abbrev Load := Throwing Loader

namespace Loader

open Throwing

/-- The constructor. -/
def make (symbolMap : SymbolMap) (vector : InitializeVector)
    (identifierMap : List (UInt32 × String)) (errorInformation : ErrorInformation) :
    Except String Loader := do
  return { symbolMap, vector, identifierMap, errorInformation
           symbolMapCacheOptionSeparator := ← symbolMap.get "Option::SEPARATOR"
           symbolMapCacheOptionUseSeparator := ← symbolMap.get "Option::USE_SEPARATOR" }

def setError (message : String) : Load PUnit :=
  modify fun loader => { loader with errorInformation := loader.errorInformation.set message }

def get (name : String) : Load UInt32 := fun loader =>
  ofExcept (loader.symbolMap.get name) loader

/-- symbol_map_.add -/
def addSymbol (type name : String) : Load UInt32 := fun loader =>
  match loader.symbolMap.add type name with
  | some (value, symbolMap) => .returns value { loader with symbolMap }
  | none => .aborts

/-- identifier_map_[config_index] = raw_identifier -/
def assigned (identifierMap : List (UInt32 × String)) (configIndex : UInt32)
    (rawIdentifier : String) : List (UInt32 × String) :=
  (configIndex, rawIdentifier) :: identifierMap.filter (·.1 ≠ configIndex)

def assignIdentifier (configIndex : UInt32) (rawIdentifier : String) : Load PUnit :=
  modify fun loader => { loader with
    identifierMap := assigned loader.identifierMap configIndex rawIdentifier }

def start (configIndex : UInt32) (rawIdentifier : String) : Load PUnit := fun loader =>
  match loader.vector.start configIndex rawIdentifier with
  | .ok vector => .returns ⟨⟩ { loader with vector }
  | .error what => .throws what loader

def perform (call : InitializeVector.Call) : Load PUnit :=
  modify fun loader => { loader with vector := loader.vector.perform call }

def pushBack (v : UInt32) : Load PUnit := perform (.pushBack v)

/-- What was pushed before an exception is cut off with the rest of its entry, by the next
start or by freeze: the values are looked up before anything is pushed. -/
def addToInitializeVector (params : List Char) (type : Nat) : Load PUnit := do
  let loader ← read
  let values ← ofExcept (loader.values params)
  pushBack (.ofNat (values.length + 1))
  pushBack (.ofNat type)
  each pushBack values
  each pushBack loader.filterVector

def types : List (String × Nat) :=
  [("__PassThrough__", Bridge.REMAPTYPE_PASSTHROUGH),
    ("__KeyToKey__", Bridge.REMAPTYPE_KEYTOKEY),
    ("__KeyToConsumer__", Bridge.REMAPTYPE_KEYTOKEY),
    ("__KeyToPointingButton__", Bridge.REMAPTYPE_KEYTOKEY),
    ("__DoublePressModifier__", Bridge.REMAPTYPE_DOUBLEPRESSMODIFIER),
    ("__HoldingKeyToKey__", Bridge.REMAPTYPE_HOLDINGKEYTOKEY),
    ("__IgnoreMultipleSameKeyPress__", Bridge.REMAPTYPE_IGNOREMULTIPLESAMEKEYPRESS),
    ("__KeyOverlaidModifier__", Bridge.REMAPTYPE_KEYOVERLAIDMODIFIER),
    ("__KeyDownUpToKey__", Bridge.REMAPTYPE_KEYDOWNUPTOKEY),
    ("__ConsumerToConsumer__", Bridge.REMAPTYPE_KEYTOKEY),
    ("__ConsumerToKey__", Bridge.REMAPTYPE_KEYTOKEY),
    ("__PointingButtonToPointingButton__", Bridge.REMAPTYPE_KEYTOKEY),
    ("__PointingButtonToKey__", Bridge.REMAPTYPE_KEYTOKEY),
    ("__PointingRelativeToKey__", Bridge.REMAPTYPE_POINTINGRELATIVETOKEY),
    ("__PointingRelativeToScroll__", Bridge.REMAPTYPE_POINTINGRELATIVETOSCROLL),
    ("__BlockUntilKeyUp__", Bridge.REMAPTYPE_BLOCKUNTILKEYUP),
    ("__DropKeyAfterRemap__", Bridge.REMAPTYPE_DROPKEYAFTERREMAP),
    ("__SetKeyboardType__", Bridge.REMAPTYPE_SETKEYBOARDTYPE),
    ("__ForceNumLockOn__", Bridge.REMAPTYPE_FORCENUMLOCKON),
    ("__DropAllKeys__", Bridge.REMAPTYPE_DROPALLKEYS),
    ("__DropPointingRelativeCursorMove__", Bridge.REMAPTYPE_DROPPOINTINGRELATIVECURSORMOVE),
    ("__DropScrollWheel__", Bridge.REMAPTYPE_DROPSCROLLWHEEL),
    ("__FlipPointingRelative__", Bridge.REMAPTYPE_FLIPPOINTINGRELATIVE),
    ("__FlipScrollWheel__", Bridge.REMAPTYPE_FLIPSCROLLWHEEL),
    ("__ScrollWheelToScrollWheel__", Bridge.REMAPTYPE_SCROLLWHEELTOSCROLLWHEEL),
    ("__ScrollWheelToKey__", Bridge.REMAPTYPE_SCROLLWHEELTOKEY)]

def isShowStatusMessage (autogen : List Char) : Bool :=
  "__ShowStatusMessage__".toList.isPrefixOf autogen

/-- The count that is updated behind push_string is known before it. -/
def addStatusMessage (params : List Char) : Load PUnit := do
  let string := Text.utf8 (Text.trim params)
  pushBack (.ofNat ((InitializeVector.stringWords string).length + 1))
  pushBack (.ofNat Bridge.STATUSMESSAGE)
  perform (.pushString string)

def isSimultaneousKeyPresses (autogen : List Char) : Bool :=
  "__SimultaneousKeyPresses__".toList.isPrefixOf autogen

def addSimultaneousKeyPresses (params : List Char) : Load PUnit := do
  let loader ← read
  let _ ← addSymbol "KeyCode" loader.newkeycode
  modify fun loader => { loader with
    simultaneousKeycodeIndex := loader.simultaneousKeycodeIndex + 1 }
  addToInitializeVector ("KeyCode::".toList ++ loader.newkeycode.toList ++ [','] ++ params)
    Bridge.REMAPTYPE_SIMULTANEOUSKEYPRESSES

/-- The second part of handle_autogen, where no macro is left. -/
def addAutogen (rawAutogen : String) (autogen : List Char) : Load PUnit := do
  if isShowStatusMessage autogen then
    addStatusMessage (autogen.drop "__ShowStatusMessage__".length)
  else if isSimultaneousKeyPresses autogen then
    addSimultaneousKeyPresses (autogen.drop "__SimultaneousKeyPresses__".length)
  else
    match types.find? fun type => type.1.toList.isPrefixOf autogen with
    | some (symbol, type) => addToInitializeVector (autogen.drop symbol.length) type
    | none => fail ("Invalid <autogen>:\n\n<autogen>" ++ rawAutogen ++ "</autogen>")

def handleAutogen (rawAutogen : String) (autogen : List Char) : Load PUnit :=
  match _preprocessed : Autogen.preprocess autogen with
  | some texts => each (fun text => handleAutogen rawAutogen text.1) texts.attach
  | none => addAutogen rawAutogen autogen
  termination_by Text.weight Autogen.weigh autogen
  decreasing_by exact Autogen.preprocess_lighter _preprocessed text.1 text.2

/-- What traverse_autogen_ makes of the text of an autogen before it is handled. -/
def prepareAutogen (rawAutogen : String) : List Char :=
  let autogen :=
    match rawAutogen.toList with
    | '-' :: '-' :: rest => Text.replaceFirst ['-', '-'] ['_', '_'] ('_' :: '_' :: rest)
    | autogen => autogen
  if isShowStatusMessage autogen then autogen
  else (Text.removeWhitespaces (.ofList autogen)).toList

def traverseFilters (forest : List Tree) : Load PUnit := fun loader =>
  match FilterVector.traverse loader.symbolMap forest with
  | .ok words => .returns ⟨⟩ { loader with filterVector := loader.filterVector ++ words }
  | .error what => .throws what loader

mutual

/-- The second loop of traverse_autogen_. -/
def traverseNodes (rawIdentifier : String) : List Tree → Load PUnit
  | [] => pure ⟨⟩
  | node :: rest => do
      traverseNode rawIdentifier node
      traverseNodes rawIdentifier rest

def traverseNode (rawIdentifier : String) : Tree → Load PUnit
  | .node tag data children => do
      if tag = "item" then
        setError ("You should not write <identifier> in <item> which has child <item> nodes.\n" ++
          "Remove <identifier>" ++ rawIdentifier ++ "</identifier>.")
      else if tag ≠ "autogen" then
        let loader ← read
        let s := loader.filterVector.length
        -- traverse_autogen_ of the children
        traverseFilters children
        traverseNodes rawIdentifier children
        modify fun loader => { loader with filterVector := loader.filterVector.take s }
      else
        let rawAutogen := Text.trimLeftCopy data
        handleAutogen rawAutogen (prepareAutogen rawAutogen)

end

def traverseAutogen (rawIdentifier : String) (forest : List Tree) : Load PUnit := do
  traverseFilters forest
  traverseNodes rawIdentifier forest

def validIdentifier (rawIdentifier parentTagName : String) : Load Bool :=
  if rawIdentifier = "" then do
    setError "Empty <identifier>."
    return false
  else if parentTagName ≠ "item" then do
    setError ("<identifier> must be placed directly under <item>:\n\n<identifier>" ++
      rawIdentifier ++ "</identifier>")
    return false
  else pure true

def vkConfigNames : List String :=
  ["VK_CONFIG_TOGGLE_", "VK_CONFIG_FORCE_ON_", "VK_CONFIG_FORCE_OFF_",
    "VK_CONFIG_SYNC_KEYDOWNUP_"]

def pushVkConfig (node : Tree) (identifier : String) : Load PUnit :=
  if (node.getOptional "vk_config").isSome then do
    pushBack 5
    pushBack (.ofNat Bridge.VK_CONFIG)
    each (fun name => do
      let keycode ← get ("KeyCode::" ++ name ++ identifier)
      pushBack keycode)
      vkConfigNames
  else pure ⟨⟩

/-- What traverse does between start and end. -/
def compileIdentifier (forest : List Tree) (node : Tree) (rawIdentifier : String) :
    Load PUnit := do
  pushVkConfig node (Text.normalizeIdentifier rawIdentifier)
  modify fun loader => { loader with filterVector := [] }
  traverseAutogen rawIdentifier forest

/-- What traverse does with an identifier, given what it does between start and end. -/
def identify (parentTagName : String) (node : Tree) (body : String → Load PUnit) :
    Load PUnit :=
  if (node.getOptional "essential").isSome then pure ⟨⟩
  else do
    let rawIdentifier := Text.trimCopy node.data
    let valid ← validIdentifier rawIdentifier parentTagName
    if valid then do
      let configIndex ← get ("ConfigIndex::" ++ Text.normalizeIdentifier rawIdentifier)
      assignIdentifier configIndex rawIdentifier
      start configIndex rawIdentifier
      body rawIdentifier
      perform .finishEntry
    else pure ⟨⟩

/-- The forest is that of the parent element. -/
def visitIdentifier (forest : List Tree) (parentTagName : String) (node : Tree) : Load PUnit :=
  identify parentTagName node (compileIdentifier forest node)

/-- The index and the text of an identifier that gets as far as the identifier map. -/
def reaches (symbolMap : SymbolMap) (parentTagName : String) (node : Tree) :
    Option (UInt32 × String) :=
  let rawIdentifier := Text.trimCopy node.data
  if (node.getOptional "essential").isSome ∨ rawIdentifier = "" ∨ parentTagName ≠ "item" then
    none
  else
    match symbolMap.get ("ConfigIndex::" ++ Text.normalizeIdentifier rawIdentifier) with
    | .ok configIndex => some (configIndex, rawIdentifier)
    | .error _ => none

mutual

/-- The loop of traverse. The forest is what it loops over. -/
def traverseRest (forest : List Tree) (parentTagName : String) : List Tree → Load PUnit
  | [] => pure ⟨⟩
  | node :: rest => do
      attempt (visit forest parentTagName node) setError
      traverseRest forest parentTagName rest

def visit (forest : List Tree) (parentTagName : String) : Tree → Load PUnit
  | .node tag data children =>
      if tag ≠ "identifier" then
        if children.isEmpty then pure ⟨⟩ else traverseRest children tag children
      else visitIdentifier forest parentTagName (.node tag data children)

end

def traverse (parentTagName : String) (forest : List Tree) : Load PUnit :=
  traverseRest forest parentTagName forest

theorem reaches_some {symbolMap : SymbolMap} {parentTagName : String} {node : Tree}
    {configIndex : UInt32} {rawIdentifier : String}
    (reached : reaches symbolMap parentTagName node = some (configIndex, rawIdentifier)) :
    rawIdentifier = Text.trimCopy node.data ∧
      symbolMap.get ("ConfigIndex::" ++ Text.normalizeIdentifier rawIdentifier) =
        .ok configIndex := by
  unfold reaches at reached
  dsimp only at reached
  split at reached
  · cases reached
  · split at reached
    · rename_i index found
      obtain ⟨rfl, rfl⟩ := Prod.mk.inj (Option.some.inj reached)
      exact ⟨rfl, found⟩
    · cases reached

/-- The loaders are the same but for the error information. -/
def SameButErrors (before after : Loader) : Prop :=
  after = { before with errorInformation := after.errorInformation }

/-- An identifier that does not get to the identifier map leaves no trace but an error. -/
theorem identify_unreached {parentTagName : String} {node : Tree} {loader : Loader}
    (unreached : reaches loader.symbolMap parentTagName node = none)
    (body : String → Load PUnit) :
    (identify parentTagName node body).Ensures (· = loader) (fun _ => SameButErrors loader)
      (SameButErrors loader) := by
  rintro before rfl
  unfold identify
  by_cases essential : (node.getOptional "essential").isSome = true
  · rw [if_pos essential]
    rfl
  rw [if_neg essential, bind_apply, validIdentifier]
  by_cases empty : Text.trimCopy node.data = ""
  · rw [if_pos empty]
    rfl
  rw [if_neg empty]
  by_cases misplaced : parentTagName ≠ "item"
  · rw [if_pos misplaced]
    rfl
  have placed : ¬((node.getOptional "essential").isSome = true ∨ Text.trimCopy node.data = "" ∨
      parentTagName ≠ "item") := by
    rintro (essential' | empty' | misplaced')
    exacts [essential essential', empty empty', misplaced misplaced']
  rw [reaches, if_neg placed] at unreached
  rw [if_neg misplaced, pure_apply]
  dsimp only
  rw [if_pos rfl, bind_apply, get]
  cases found : before.symbolMap.get
      ("ConfigIndex::" ++ Text.normalizeIdentifier (Text.trimCopy node.data)) with
  | ok configIndex =>
      rw [found] at unreached
      cases unreached
  | error what => rfl

/-- The identifier map is written before start is called. -/
theorem identify_reached {parentTagName : String} {node : Tree} {loader : Loader}
    {configIndex : UInt32} {rawIdentifier : String}
    (reached : reaches loader.symbolMap parentTagName node = some (configIndex, rawIdentifier))
    (body : String → Load PUnit) :
    identify parentTagName node body loader = (do
      assignIdentifier configIndex rawIdentifier
      start configIndex rawIdentifier
      body rawIdentifier
      perform .finishEntry : Load PUnit) loader := by
  unfold reaches at reached
  by_cases placed : ¬((node.getOptional "essential").isSome = true ∨
      Text.trimCopy node.data = "" ∨ parentTagName ≠ "item")
  · rw [if_neg placed] at reached
    cases found : loader.symbolMap.get
        ("ConfigIndex::" ++ Text.normalizeIdentifier (Text.trimCopy node.data)) with
    | ok index =>
        rw [found] at reached
        obtain ⟨rfl, rfl⟩ := Prod.mk.inj (Option.some.inj reached)
        rw [not_or, not_or] at placed
        rw [identify, if_neg placed.1, bind_apply, validIdentifier, if_neg placed.2.1,
          if_neg placed.2.2, pure_apply]
        dsimp only
        rw [if_pos rfl, bind_apply, get, found]
        rfl
    | error what =>
        rw [found] at reached
        cases reached
  · rw [if_pos (not_not.1 placed)] at reached
    cases reached

end Loader

end Karabiner
