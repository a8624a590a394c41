import Karabiner.XmlTree

set_option autoImplicit false

/- xml_compiler::symbol_map, without the table for get_name. -/
namespace Karabiner

structure SymbolMap where
  entries : List (String × UInt32)
  deriving Repr

namespace SymbolMap

/-- The state after clear. -/
def cleared : SymbolMap := ⟨[("ConfigIndex::VK__AUTOINDEX__BEGIN__", 0)]⟩

/-- The text behind the first "::RawValue::" of a name. -/
def rawValue : List Char → Option (List Char)
  | [] => none
  | c :: rest =>
      if "::RawValue::".toList.isPrefixOf (c :: rest) then
        some ((c :: rest).drop "::RawValue::".length)
      else rawValue rest

def find (symbolMap : SymbolMap) (name : String) : Option UInt32 :=
  symbolMap.entries.lookup name

def getOptional (symbolMap : SymbolMap) (name : String) : Option UInt32 :=
  match symbolMap.find name with
  | some v => some v
  | none => (rawValue name.toList).bind fun value => Text.toUint32 (.ofList value)

def get (symbolMap : SymbolMap) (name : String) : Except String UInt32 :=
  match symbolMap.getOptional name with
  | some v => .ok v
  | none => .error ("Unknown symbol:\n\n" ++ name)

def emplace (symbolMap : SymbolMap) (name : String) (value : UInt32) : SymbolMap :=
  if (symbolMap.find name).isSome then symbolMap
  else ⟨symbolMap.entries ++ [(name, value)]⟩

/-- symbol_map_[name] = value -/
def assign (symbolMap : SymbolMap) (name : String) (value : UInt32) : SymbolMap :=
  if (symbolMap.find name).isSome then
    ⟨symbolMap.entries.map fun entry => if entry.1 = name then (name, value) else entry⟩
  else ⟨symbolMap.entries ++ [(name, value)]⟩

/-- add with a value. -/
def addValue (symbolMap : SymbolMap) (type name : String) (value : UInt32) : SymbolMap :=
  symbolMap.emplace (type ++ "::" ++ name) value

/-- add with the next index of the type. There is none where an assertion fails. -/
def add (symbolMap : SymbolMap) (type name : String) : Option (UInt32 × SymbolMap) :=
  let n := type ++ "::VK__AUTOINDEX__BEGIN__"
  match symbolMap.getOptional n with
  | none => none
  | some v =>
      if v = 0xffffffff then none
      else some (v, (symbolMap.assign n (v + 1)).addValue type name v)

end SymbolMap

end Karabiner
