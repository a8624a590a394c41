import Karabiner.ExtractedPtree
import Karabiner.IdentifierMap

set_option autoImplicit false

/- xml_compiler::reload. A loader is given the children of the roots of the files that it
traverses, one file behind the other, with the includes expanded as it sees them: nothing
for a file that cannot be parsed, the caution for one that is missing. -/
namespace Karabiner

namespace Loader

open Throwing

/-- The keycodes that a modifier gets. -/
def modifierKeycodes (name : String) : List String :=
  ["VK_MODIFIER_" ++ name, "VK_LOCK_" ++ name, "VK_LOCK_" ++ name ++ "_FORCE_ON",
    "VK_LOCK_" ++ name ++ "_FORCE_OFF", "VK_NEGATIVE_LOCK_" ++ name,
    "VK_NEGATIVE_LOCK_" ++ name ++ "_FORCE_ON", "VK_NEGATIVE_LOCK_" ++ name ++ "_FORCE_OFF",
    "VK_STICKY_" ++ name, "VK_STICKY_" ++ name ++ "_FORCE_ON",
    "VK_STICKY_" ++ name ++ "_FORCE_OFF"]

def pushModifier (modifier : UInt32 × String × Bool) : Load PUnit := do
  let (index, name, notify) := modifier
  pushBack 12
  pushBack (.ofNat Bridge.VK_MODIFIER)
  pushBack index
  each (fun keycode => do
    let v ← addSymbol "KeyCode" keycode
    pushBack v) (modifierKeycodes name)
  if notify then do
    let string := Text.utf8 name.toList
    pushBack (.ofNat ((InitializeVector.stringWords string).length + 2))
    pushBack (.ofNat Bridge.MODIFIERNAME)
    pushBack index
    perform (.pushString string)
  else pure ⟨⟩

def pushKeycode (type : Nat) (keycode : UInt32) : Load PUnit := do
  pushBack 2
  pushBack (.ofNat type)
  pushBack keycode

end Loader

/-- The members of xml_compiler that a loader reads. -/
structure Compiler where
  errorInformation : ErrorInformation := {}
  replacement : Replacement := []
  symbolMap : SymbolMap := .cleared
  /-- Index, name and notify, in the order that the map is iterated in. -/
  modifierMap : List (UInt32 × String × Bool) := []
  /-- The names of app_vector_. -/
  appNames : List String := []
  /-- The keys of the map. -/
  vkChangeInputsourceMap : List UInt32 := []
  vkOpenUrlMap : List UInt32 := []
  identifierMap : List (UInt32 × String) := []
  vector : InitializeVector := .cleared
  deriving Repr

abbrev Compile := Throwing Compiler

namespace Compiler

open Throwing

def setError (message : String) : Compile PUnit :=
  modify fun compiler => { compiler with
    errorInformation := compiler.errorInformation.set message }

def addSymbol (type name : String) : Compile UInt32 := fun compiler =>
  match compiler.symbolMap.add type name with
  | some (value, symbolMap) => .returns value { compiler with symbolMap }
  | none => .aborts

def addValue (type name : String) (value : UInt32) : Compile PUnit :=
  modify fun compiler => { compiler with
    symbolMap := compiler.symbolMap.addValue type name value }

/-- The members that a loader of the vector shares, without those of its own. -/
def loader (compiler : Compiler) : Loader where
  symbolMap := compiler.symbolMap
  symbolMapCacheOptionSeparator := 0
  symbolMapCacheOptionUseSeparator := 0
  vector := compiler.vector
  identifierMap := compiler.identifierMap
  errorInformation := compiler.errorInformation

def handBack (compiler : Compiler) (loader : Loader) : Compiler := { compiler with
  symbolMap := loader.symbolMap, vector := loader.vector
  identifierMap := loader.identifierMap, errorInformation := loader.errorInformation }

/-- What a loader does to the members that it shares. -/
def lend (loader : Loader) (action : Load PUnit) : Compile PUnit := fun compiler =>
  match action loader with
  | .returns _ loader => .returns ⟨⟩ (compiler.handBack loader)
  | .throws what loader => .throws what (compiler.handBack loader)
  | .aborts => .aborts

/-- What a destructor does to them. -/
def onLoader (action : Load PUnit) : Compile PUnit := fun compiler =>
  lend compiler.loader action compiler

section

variable (isDefinition : String → Bool)

mutual

/-- The loop that the loaders of definitions share: what is no definition is entered. -/
def traverse (handle : Tree → Compile PUnit) : List Tree → Compile PUnit
  | [] => pure ⟨⟩
  | node :: rest => do
      visit handle node
      traverse handle rest

def visit (handle : Tree → Compile PUnit) : Tree → Compile PUnit
  | .node tag data children =>
      if isDefinition tag then handle (.node tag data children)
      else if children.isEmpty then pure ⟨⟩
      else traverse handle children

end

mutual

/-- The definitions that the loop handles. -/
def definitions : List Tree → List Tree
  | [] => []
  | node :: rest => definitionsOf node ++ definitions rest

def definitionsOf : Tree → List Tree
  | .node tag data children =>
      if isDefinition tag then [.node tag data children] else definitions children

end

end

/-- The attributes of symbol_map that are there and not empty, up to the first that is not
there, and the errors about the others. -/
def attributes (tree : Tree) : List String → List String × List String
  | [] => ([], [])
  | attr :: attrs =>
      match tree.getOptional attr with
      | none => ([], ["No '" ++ attr ++ "' Attribute within <symbol_map>."])
      | some v =>
          let value := Text.removeWhitespaces v
          let (values, errors) := attributes tree attrs
          if value = "" then
            (values, ("Empty '" ++ attr ++ "' Attribute within <symbol_map>.") :: errors)
          else (value :: values, errors)

/-- The type, name and value of a symbol_map. -/
def symbolOf (tree : Tree) : Option (String × String × UInt32) :=
  match (attributes tree ["type", "name", "value"]).1 with
  | [type, name, value] => (Text.toUint32 value).map fun value => (type, name, value)
  | _ => none

def handleSymbolMap (tree : Tree) : Compile PUnit := do
  let (values, errors) := attributes tree ["type", "name", "value"]
  each setError errors
  match values with
  | [type, name, value] =>
      match Text.toUint32 value with
      | some v => addValue type name v
      | none => setError ("Invalid 'value' Attribute within <symbol_map>:\n\n<symbol_map type=\"" ++
          type ++ "\" name=\"" ++ name ++ "\" value=\"" ++ value ++ "\" />")
  | _ => pure ⟨⟩

def handleModifier (tree : Tree) : Compile PUnit := do
  let name := tree.data
  let notify := tree.getOptional "notify"
  if notify ≠ none ∧ notify ≠ some "false" ∧ notify ≠ some "true" then
    setError ("Invalid 'notify' attribute within <modifierdef>: " ++ notify.getD "")
  else if name = "" then setError "Empty <modifierdef>."
  else
    let compiler ← read
    if (compiler.symbolMap.getOptional ("ModifierFlag::" ++ name)).isNone then do
      let v ← addSymbol "ModifierFlag" name
      modify fun compiler => { compiler with
        modifierMap := compiler.modifierMap ++ [(v, name, notify != some "false")] }
    else pure ⟨⟩

/-- The text of the last child with this tag. -/
def lastChild (tree : Tree) (tag : String) : Option String :=
  ((tree.children.filter (·.tag = tag)).getLast?).map (·.data)

/-- The end of the loop of replacement_loader. -/
def handleReplacement (tree : Tree) : Compile PUnit :=
  modify fun compiler =>
    let (replacement, world) := addReplacement
      (lastChild tree "replacementname", lastChild tree "replacementvalue") compiler.replacement
      { errorInformation := compiler.errorInformation }
    { compiler with replacement, errorInformation := world.errorInformation }

def appendEnvironmentsToReplacement (home systemXmlDirectory : String) : Compile PUnit :=
  modify fun compiler => { compiler with
    replacement := (compiler.replacement.emplace "ENV_HOME" home).emplace
      "ENV_Karabiner_Resources" systemXmlDirectory }

def handleApp (tree : Tree) : Compile PUnit := do
  match (lastChild tree "appname").map Text.removeWhitespaces with
  | none => setError "No <appname> within <appdef>."
  | some name =>
      if name = "" then setError "Empty <appname> within <appdef>."
      else
        let compiler ← read
        if name ∈ compiler.appNames then pure ⟨⟩
        else do
          let _ ← addSymbol "ApplicationType" name
          modify fun compiler => { compiler with appNames := compiler.appNames ++ [name] }

/-- The texts that add_rule_regex makes a std::regex of. -/
def regexes (tree : Tree) : List String :=
  ((tree.children.filter (·.tag = "regex")).map (Text.trimCopy ·.data)).filter (· ≠ "")

/-- The constructor of std::regex throws for a text that is no regular expression. -/
def handleWindowName (isRegex : String → Bool) (tree : Tree) : Compile PUnit := do
  each (fun regex => if isRegex regex then pure ⟨⟩ else fail "regex_error") (regexes tree)
  match (lastChild tree "name").map Text.removeWhitespaces with
  | none => setError "No <name> within <windownamedef>."
  | some name =>
      if name = "" then setError "Empty <name> within <windownamedef>."
      else do
        let _ ← addSymbol "WindowName" name
        return ⟨⟩

def handleUiElementRole (tree : Tree) : Compile PUnit := do
  let name := Text.removeWhitespaces tree.data
  if name = "" then setError "Empty <uielementroledef>."
  else do
    let _ ← addSymbol "UIElementRole" name
    return ⟨⟩

/-- The type of a device definition, and the tags of its name and its value. -/
def deviceTags (tag : String) : String × String × String :=
  if tag = "devicevendordef" then ("DeviceVendor", "vendorname", "vendorid")
  else if tag = "deviceproductdef" then ("DeviceProduct", "productname", "productid")
  else ("DeviceLocation", "locationname", "locationid")

def handleDevice (tree : Tree) : Compile PUnit := do
  let (type, nameTag, valueTag) := deviceTags tree.tag
  let within := "> within <" ++ tree.tag ++ ">"
  match (lastChild tree nameTag).map Text.removeWhitespaces,
      (lastChild tree valueTag).map Text.trimCopy with
  | none, _ => setError ("No <" ++ nameTag ++ within ++ ".")
  | some name, value =>
      if name = "" then setError ("Empty <" ++ nameTag ++ within ++ ".")
      else
        match value with
        | none => setError ("No <" ++ valueTag ++ within ++ ".")
        | some value =>
            if value = "" then setError ("Empty <" ++ valueTag ++ within ++ ".")
            else
              match Text.toUint32 value with
              | none =>
                  setError ("Invalid <" ++ valueTag ++ within ++ ":\n\n<" ++ valueTag ++ ">" ++
                  value ++ "</" ++ valueTag ++ ">")
              | some v => addValue type name v

/-- The names that a definition with a checked beginning refuses. -/
def misnamed (tree : Tree) (beginning : String) : List String :=
  ((tree.children.filter (·.tag = "name")).map (Text.removeWhitespaces ·.data)).filter
    fun name => !beginning.toList.isPrefixOf name.toList

/-- The name without its first "KeyCode::". -/
def withoutType (name : String) : String :=
  .ofList (Text.replaceFirst "KeyCode::".toList [] name.toList)

def misnamedInputsource (tree : Tree) : List String :=
  if tree.tag = "vkchangeinputsourcedef" then misnamed tree "KeyCode::VK_CHANGE_INPUTSOURCE_"
  else []

def handleInputsource (tree : Tree) : Compile PUnit := do
  let wrong := misnamedInputsource tree
  each (fun name => setError ("<name> within <vkchangeinputsourcedef> must start with " ++
    "\"KeyCode::VK_CHANGE_INPUTSOURCE_\":\n\n<name>" ++ name ++ "</name>")) wrong
  if !wrong.isEmpty then pure ⟨⟩
  else
    match (lastChild tree "name").map Text.removeWhitespaces with
    | none => setError ("No <name> within <" ++ tree.tag ++ ">.")
    | some name =>
        if name = "" then setError ("Empty <name> within <" ++ tree.tag ++ ">.")
        else if tree.tag = "vkchangeinputsourcedef" then do
          let compiler ← read
          if (compiler.symbolMap.getOptional name).isNone then do
            let keycode ← addSymbol "KeyCode" (withoutType name)
            modify fun compiler => { compiler with
              vkChangeInputsourceMap := compiler.vkChangeInputsourceMap ++ [keycode] }
          else pure ⟨⟩
        else do
          let _ ← addSymbol "InputSource" name
          return ⟨⟩

def handleUrl (tree : Tree) : Compile PUnit := do
  let wrong := misnamed tree "KeyCode::VK_OPEN_URL_"
  each (fun name => setError ("<name> within <vkopenurldef> must start with " ++
    "\"KeyCode::VK_OPEN_URL_\":\n\n<name>" ++ name ++ "</name>")) wrong
  if !wrong.isEmpty then pure ⟨⟩
  else
    match (lastChild tree "name").map Text.removeWhitespaces,
        (lastChild tree "url").map Text.trimCopy with
    | none, _ => setError ("No <name> within <" ++ tree.tag ++ ">.")
    | some name, url =>
        if name = "" then setError ("Empty <name> within <" ++ tree.tag ++ ">.")
        else if url = none then setError ("No <url> within <" ++ tree.tag ++ ">.")
        else if url = some "" then setError ("Empty <url> within <" ++ tree.tag ++ ">.")
        else do
          let compiler ← read
          if (compiler.symbolMap.getOptional name).isNone then do
            let keycode ← addSymbol "KeyCode" (withoutType name)
            modify fun compiler => { compiler with
              vkOpenUrlMap := compiler.vkOpenUrlMap ++ [keycode] }
          else pure ⟨⟩

/-- ~modifier_loader -/
def destroyModifierLoader : Compile PUnit := do
  let compiler ← read
  onLoader (Loader.define "system.vk_modifier_definition"
    (each Loader.pushModifier compiler.modifierMap))

/-- ~inputsource_loader -/
def destroyInputsourceLoader : Compile PUnit := do
  let compiler ← read
  onLoader (Loader.define "system.vk_change_inputsource_definition"
    (each (Loader.pushKeycode Bridge.VK_CHANGE_INPUTSOURCE) compiler.vkChangeInputsourceMap))

/-- ~url_loader -/
def destroyUrlLoader : Compile PUnit := do
  let compiler ← read
  onLoader (Loader.define "system.vk_open_url_definition"
    (each (Loader.pushKeycode Bridge.VK_OPEN_URL) compiler.vkOpenUrlMap))

/-- An identifier in remapclasses_initialize_vector_prepare_loader, with the identifiers of
high and of normal priority so far. -/
def prepareIdentifier (parentTagName : String) (tree : Tree)
    (identifiers : List String × List String) : Compile (List String × List String) := do
  let rawIdentifier := Text.trimCopy tree.data
  if rawIdentifier = "" then do
    setError "Empty <identifier>."
    return identifiers
  else if parentTagName ≠ "item" then do
    setError ("<identifier> must be placed directly under <item>:\n\n<identifier>" ++
      rawIdentifier ++ "</identifier>")
    return identifiers
  else if (tree.getOptional "essential").isSome then return identifiers
  else do
    let identifier := Text.normalizeIdentifier rawIdentifier
    each (fun name => do
        let _ ← addSymbol "KeyCode" (name ++ identifier)
        return ⟨⟩)
      (if (tree.getOptional "vk_config").isSome then Loader.vkConfigNames else [])
    if "notsave_".toList.isPrefixOf identifier.toList ||
        (tree.getOptional "high_priority").isSome then
      return (identifiers.1 ++ [identifier], identifiers.2)
    else return (identifiers.1, identifiers.2 ++ [identifier])

def prepareOwn (parentTagName : String) (tree : Tree)
    (identifiers : List String × List String) : Compile (List String × List String) :=
  if tree.tag = "identifier" then prepareIdentifier parentTagName tree identifiers
  else pure identifiers

/-- An essential identifier is not looked into. -/
def isSkipped (parentTagName : String) (tree : Tree) : Bool :=
  tree.tag = "identifier" && Text.trimCopy tree.data ≠ "" && parentTagName = "item" &&
    (tree.getOptional "essential").isSome

mutual

/-- remapclasses_initialize_vector_prepare_loader::traverse, without the preferences. -/
def prepare (parentTagName : String) (identifiers : List String × List String) :
    List Tree → Compile (List String × List String)
  | [] => pure identifiers
  | node :: rest => do
      let identifiers ← prepareNode parentTagName identifiers node
      prepare parentTagName identifiers rest

def prepareNode (parentTagName : String) (identifiers : List String × List String) :
    Tree → Compile (List String × List String)
  | .node tag data children =>
      if tag = "autogen" then pure identifiers
      else do
        let identifiers ← prepareOwn parentTagName (.node tag data children) identifiers
        if isSkipped parentTagName (.node tag data children) || children.isEmpty then
          pure identifiers
        else prepare tag identifiers children

end

/-- The prepare loader with its cleanup. -/
def prepareAll (forest : List Tree) : Compile PUnit := do
  let identifiers ← prepare "" ([], []) forest
  each (fun identifier => do
    let _ ← addSymbol "ConfigIndex" identifier
    return ⟨⟩) (identifiers.1 ++ identifiers.2)

end Compiler

/-- A walk of remapclasses_initialize_vector_loader over a file: what its steps throw is
caught inside. -/
structure Walk where
  action : Load PUnit
  keeps : action.Ensures (fun loader => ∃ entries, loader.vector.Holds entries)
    (fun _ loader => ∃ entries, loader.vector.Holds entries) fun _ => False

/-- What each of the loaders is given to traverse, and the values of the environment. -/
structure Seen where
  replacement : List Tree := []
  home : String := ""
  systemXmlDirectory : String := ""
  symbolMap : List Tree := []
  modifier : List Tree := []
  app : List Tree := []
  windowName : List Tree := []
  uiElementRole : List Tree := []
  device : List Tree := []
  inputsource : List Tree := []
  url : List Tree := []
  number : List Tree := []
  checkbox : List Tree := []
  remapclasses : Walk

namespace Compiler

open Throwing

/-- The loader is made, walks over the files and hands back what it has written. -/
def loadRemapclasses (walk : Walk) : Compile PUnit := fun compiler =>
  match Loader.make compiler.symbolMap compiler.vector compiler.identifierMap
      compiler.errorInformation with
  | .error what => .throws what compiler
  | .ok loader => lend loader walk.action compiler

def freeze : Compile PUnit := fun compiler =>
  match compiler.vector.freeze with
  | .ok vector => .returns ⟨⟩ { compiler with vector }
  | .error what => .throws what compiler

def isDevicedef (tag : String) : Bool :=
  tag = "devicevendordef" || tag = "deviceproductdef" || tag = "devicelocationdef"

def isInputsourcedef (tag : String) : Bool :=
  tag = "vkchangeinputsourcedef" || tag = "inputsourcedef"

/-- The try block of reload. A destructor also runs when its loader throws. -/
def loadAll (isRegex : String → Bool) (seen : Seen) : Compile PUnit := do
  traverse (· = "replacementdef") handleReplacement seen.replacement
  appendEnvironmentsToReplacement seen.home seen.systemXmlDirectory
  traverse (· = "symbol_map") handleSymbolMap seen.symbolMap
  cleanup (traverse (· = "modifierdef") handleModifier seen.modifier) destroyModifierLoader
  traverse (· = "appdef") handleApp seen.app
  traverse (· = "windownamedef") (handleWindowName isRegex) seen.windowName
  traverse (· = "uielementroledef") handleUiElementRole seen.uiElementRole
  traverse isDevicedef handleDevice seen.device
  cleanup (traverse isInputsourcedef handleInputsource seen.inputsource) destroyInputsourceLoader
  cleanup (traverse (· = "vkopenurldef") handleUrl seen.url) destroyUrlLoader
  prepareAll seen.number
  prepareAll seen.checkbox
  loadRemapclasses seen.remapclasses
  freeze

/-- What reload makes of the cleared members. -/
def reload (isRegex : String → Bool) (seen : Seen) : Outcome Compiler PUnit :=
  attempt (loadAll isRegex seen) setError {}

end Compiler

end Karabiner
