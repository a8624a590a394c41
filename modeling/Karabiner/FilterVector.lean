import Karabiner.RemapClassLoad
import Karabiner.SymbolMap

set_option autoImplicit false

/- xml_compiler::filter_vector. -/
namespace Karabiner

namespace Bridge

def DATATYPE_NONE : Nat := 0
def DATATYPE_KEYCODE : Nat := 1
def DATATYPE_MODIFIERFLAG : Nat := 2
def DATATYPE_MODIFIERFLAGS_END : Nat := 3
def DATATYPE_CONSUMERKEYCODE : Nat := 4
def DATATYPE_POINTINGBUTTON : Nat := 5
def DATATYPE_SCROLLWHEEL : Nat := 6
def DATATYPE_POINTINGRELATIVE : Nat := 7
def DATATYPE_KEYBOARDTYPE : Nat := 8
def DATATYPE_DEVICEVENDOR : Nat := 9
def DATATYPE_DEVICEPRODUCT : Nat := 10
def DATATYPE_DEVICELOCATION : Nat := 11
def DATATYPE_MILLISECOND : Nat := 13
def DATATYPE_DELAYUNTILREPEAT : Nat := 14
def DATATYPE_KEYREPEAT : Nat := 15
def DATATYPE_THRESHOLDMILLISECOND : Nat := 16
def DATATYPE_COUNT : Nat := 17
def FILTERTYPE_ELAPSEDTIMESINCELASTPRESSED_GREATERTHAN : Nat := 53
def FILTERTYPE_ELAPSEDTIMESINCELASTPRESSED_LESSTHAN : Nat := 54
def FILTERTYPE_ELAPSEDTIMESINCELASTRELEASED_GREATERTHAN : Nat := 55
def FILTERTYPE_ELAPSEDTIMESINCELASTRELEASED_LESSTHAN : Nat := 56
def FILTERTYPE_LASTPRESSEDPHYSICALKEY_NOT : Nat := 59
def FILTERTYPE_LASTPRESSEDPHYSICALKEY_ONLY : Nat := 60
def FILTERTYPE_LASTRELEASEDPHYSICALKEY_NOT : Nat := 61
def FILTERTYPE_LASTRELEASEDPHYSICALKEY_ONLY : Nat := 62
def FILTERTYPE_MODIFIER_NOT : Nat := 65
def FILTERTYPE_MODIFIER_ONLY : Nat := 66
def FILTERTYPE_MODIFIER_LOCKED_NOT : Nat := 67
def FILTERTYPE_MODIFIER_LOCKED_ONLY : Nat := 68
def FILTERTYPE_MODIFIER_STUCK_NOT : Nat := 69
def FILTERTYPE_MODIFIER_STUCK_ONLY : Nat := 70

end Bridge

namespace Utilities

/-- xml_compiler_utilities::get_datatype -/
def getDatatype (s : String) : Nat :=
  let types : List (String × Nat) :=
    [("KeyCode::", Bridge.DATATYPE_KEYCODE),
      ("ModifierFlag::", Bridge.DATATYPE_MODIFIERFLAG),
      ("ConsumerKeyCode::", Bridge.DATATYPE_CONSUMERKEYCODE),
      ("PointingButton::", Bridge.DATATYPE_POINTINGBUTTON),
      ("ScrollWheel::", Bridge.DATATYPE_SCROLLWHEEL),
      ("PointingRelative::", Bridge.DATATYPE_POINTINGRELATIVE),
      ("KeyboardType::", Bridge.DATATYPE_KEYBOARDTYPE),
      ("DeviceVendor::", Bridge.DATATYPE_DEVICEVENDOR),
      ("DeviceProduct::", Bridge.DATATYPE_DEVICEPRODUCT),
      ("DeviceLocation::", Bridge.DATATYPE_DEVICELOCATION),
      ("Option::", Bridge.DATATYPE_OPTION),
      ("Millisecond::", Bridge.DATATYPE_MILLISECOND),
      ("DelayUntilRepeat::", Bridge.DATATYPE_DELAYUNTILREPEAT),
      ("KeyRepeat::", Bridge.DATATYPE_KEYREPEAT),
      ("ThresholdMillisecond::", Bridge.DATATYPE_THRESHOLDMILLISECOND),
      ("Count::", Bridge.DATATYPE_COUNT),
      ("EventType::", Bridge.DATATYPE_EVENTTYPE)]
  match types.find? fun type => type.1.toList.isPrefixOf s.toList with
  | some type => type.2
  | none => Bridge.DATATYPE_NONE

end Utilities

namespace FilterVector

open Bridge

/-- The filter type of an element and what its arguments are prefixed with. -/
def typeOf (tag : String) : Option (Nat × String) :=
  let types : List (String × Nat × String) :=
    [("not", FILTERTYPE_APPLICATION_NOT, "ApplicationType::"),
      ("only", FILTERTYPE_APPLICATION_ONLY, "ApplicationType::"),
      ("windowname_not", FILTERTYPE_WINDOWNAME_NOT, "WindowName::"),
      ("windowname_only", FILTERTYPE_WINDOWNAME_ONLY, "WindowName::"),
      ("uielementrole_not", FILTERTYPE_UIELEMENTROLE_NOT, "UIElementRole::"),
      ("uielementrole_only", FILTERTYPE_UIELEMENTROLE_ONLY, "UIElementRole::"),
      ("config_not", FILTERTYPE_CONFIG_NOT, "ConfigIndex::"),
      ("config_only", FILTERTYPE_CONFIG_ONLY, "ConfigIndex::"),
      ("device_not", FILTERTYPE_DEVICE_NOT, ""),
      ("device_only", FILTERTYPE_DEVICE_ONLY, ""),
      ("elapsedtimesincelastpressed_greaterthan",
        FILTERTYPE_ELAPSEDTIMESINCELASTPRESSED_GREATERTHAN, ""),
      ("elapsedtimesincelastpressed_lessthan",
        FILTERTYPE_ELAPSEDTIMESINCELASTPRESSED_LESSTHAN, ""),
      ("elapsedtimesincelastreleased_greaterthan",
        FILTERTYPE_ELAPSEDTIMESINCELASTRELEASED_GREATERTHAN, ""),
      ("elapsedtimesincelastreleased_lessthan",
        FILTERTYPE_ELAPSEDTIMESINCELASTRELEASED_LESSTHAN, ""),
      ("modifier_not", FILTERTYPE_MODIFIER_NOT, ""),
      ("modifier_only", FILTERTYPE_MODIFIER_ONLY, ""),
      ("modifierlocked_not", FILTERTYPE_MODIFIER_LOCKED_NOT, ""),
      ("modifierlocked_only", FILTERTYPE_MODIFIER_LOCKED_ONLY, ""),
      ("modifierstuck_not", FILTERTYPE_MODIFIER_STUCK_NOT, ""),
      ("modifierstuck_only", FILTERTYPE_MODIFIER_STUCK_ONLY, ""),
      ("inputsource_not", FILTERTYPE_INPUTSOURCE_NOT, "InputSource::"),
      ("inputmode_not", FILTERTYPE_INPUTSOURCE_NOT, "InputSource::"),
      ("inputsourcedetail_not", FILTERTYPE_INPUTSOURCE_NOT, "InputSource::"),
      ("inputmodedetail_not", FILTERTYPE_INPUTSOURCE_NOT, "InputSource::"),
      ("inputsource_only", FILTERTYPE_INPUTSOURCE_ONLY, "InputSource::"),
      ("inputmode_only", FILTERTYPE_INPUTSOURCE_ONLY, "InputSource::"),
      ("inputsourcedetail_only", FILTERTYPE_INPUTSOURCE_ONLY, "InputSource::"),
      ("inputmodedetail_only", FILTERTYPE_INPUTSOURCE_ONLY, "InputSource::"),
      ("lastpressedphysicalkey_not", FILTERTYPE_LASTPRESSEDPHYSICALKEY_NOT, ""),
      ("lastpressedphysicalkey_only", FILTERTYPE_LASTPRESSEDPHYSICALKEY_ONLY, ""),
      ("lastreleasedphysicalkey_not", FILTERTYPE_LASTRELEASEDPHYSICALKEY_NOT, ""),
      ("lastreleasedphysicalkey_only", FILTERTYPE_LASTRELEASEDPHYSICALKEY_ONLY, ""),
      ("lastsentevent_not", FILTERTYPE_LASTSENTEVENT_NOT, ""),
      ("lastsentevent_only", FILTERTYPE_LASTSENTEVENT_ONLY, ""),
      ("pressingphysicalkeys_greaterthan", FILTERTYPE_PRESSINGPHYSICALKEYS_GREATERTHAN,
        "Count::RawValue::"),
      ("pressingphysicalkeys_lessthan", FILTERTYPE_PRESSINGPHYSICALKEYS_LESSTHAN,
        "Count::RawValue::")]
  types.lookup tag

def isModifier (filterType : Nat) : Bool :=
  filterType ∈ [FILTERTYPE_MODIFIER_NOT, FILTERTYPE_MODIFIER_ONLY,
    FILTERTYPE_MODIFIER_LOCKED_NOT, FILTERTYPE_MODIFIER_LOCKED_ONLY,
    FILTERTYPE_MODIFIER_STUCK_NOT, FILTERTYPE_MODIFIER_STUCK_ONLY]

def hasDatatype (filterType : Nat) : Bool :=
  filterType ∈ [FILTERTYPE_ELAPSEDTIMESINCELASTPRESSED_GREATERTHAN,
    FILTERTYPE_ELAPSEDTIMESINCELASTPRESSED_LESSTHAN,
    FILTERTYPE_ELAPSEDTIMESINCELASTRELEASED_GREATERTHAN,
    FILTERTYPE_ELAPSEDTIMESINCELASTRELEASED_LESSTHAN,
    FILTERTYPE_LASTPRESSEDPHYSICALKEY_NOT, FILTERTYPE_LASTPRESSEDPHYSICALKEY_ONLY,
    FILTERTYPE_LASTRELEASEDPHYSICALKEY_NOT, FILTERTYPE_LASTRELEASEDPHYSICALKEY_ONLY,
    FILTERTYPE_LASTSENTEVENT_NOT, FILTERTYPE_LASTSENTEVENT_ONLY]

def isDevice (filterType : Nat) : Bool :=
  filterType ∈ [FILTERTYPE_DEVICE_NOT, FILTERTYPE_DEVICE_ONLY]

/-- The words are those behind the filter type. -/
def fillOmittedDeviceSpecifying (symbolMap : SymbolMap) (words : List UInt32) :
    Except String (List UInt32) := do
  match words.length % 3 with
  | 0 => return words
  | 1 =>
      let product ← symbolMap.get "DeviceProduct::ANY"
      return words ++ [product, ← symbolMap.get "DeviceLocation::ANY"]
  | _ => return words ++ [← symbolMap.get "DeviceLocation::ANY"]

def addModifierFlag (symbolMap : SymbolMap) (words : List UInt32) (key : String) :
    Except String (List UInt32) := do
  let value ← symbolMap.get (Text.normalizeIdentifier key)
  return words ++ [.ofNat DATATYPE_MODIFIERFLAG, value]

/-- One round of the loop of add_. -/
def addArgument (symbolMap : SymbolMap) (filterType : Nat) (scope : String)
    (words : List UInt32) (arg : List Char) : Except String (List UInt32) := do
  if isModifier filterType then
    let words ← (Text.tokens '|' arg).foldlM (fun words value =>
      addModifierFlag symbolMap words (scope ++ .ofList value)) words
    return words ++ [.ofNat DATATYPE_MODIFIERFLAGS_END, 1]
  else if hasDatatype filterType then
    let arg := Text.normalizeIdentifier (.ofList arg)
    return words ++ [.ofNat (Utilities.getDatatype arg), ← symbolMap.get arg]
  else
    let words ←
      if isDevice filterType && "DeviceVendor".toList.isPrefixOf arg then
        fillOmittedDeviceSpecifying symbolMap words
      else pure words
    return words ++ [← symbolMap.get (Text.normalizeIdentifier (scope ++ .ofList arg))]

/-- What add_ appends. What it has appended before it throws is cleared before it is read. -/
def add (symbolMap : SymbolMap) (filterType : Nat) (scope string : String) :
    Except String (List UInt32) := do
  let args := Text.tokens ',' (Text.removeWhitespaces string).toList
  let words ← args.foldlM (addArgument symbolMap filterType scope) []
  let words ← if isDevice filterType then fillOmittedDeviceSpecifying symbolMap words
    else pure words
  return if words.isEmpty then [] else .ofNat (words.length + 1) :: .ofNat filterType :: words

/-- What the element of a list of children appends, if it is a filter. -/
def encode (symbolMap : SymbolMap) (tree : Tree) : Except String (List UInt32) :=
  match typeOf tree.tag with
  | some (filterType, scope) => add symbolMap filterType scope tree.data
  | none => .ok []

/-- What traverse appends. -/
def traverse (symbolMap : SymbolMap) (forest : List Tree) : Except String (List UInt32) :=
  List.flatten <$> forest.mapM (encode symbolMap)

end FilterVector

end Karabiner
