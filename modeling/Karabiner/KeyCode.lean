import Mathlib.Data.List.Basic

set_option autoImplicit false

/- Key codes, modifier flags and the table that pairs them. The numeric values
are the ones the bridge generator assigns to keycode/data/*.data. -/
namespace Karabiner

structure ModifierFlag where
  value : Nat
  deriving DecidableEq, Repr

namespace ModifierFlag

def ZERO : ModifierFlag := ⟨0⟩
def CAPSLOCK : ModifierFlag := ⟨1⟩
def SHIFT_L : ModifierFlag := ⟨2⟩
def SHIFT_R : ModifierFlag := ⟨3⟩
def CONTROL_L : ModifierFlag := ⟨4⟩
def CONTROL_R : ModifierFlag := ⟨5⟩
def OPTION_L : ModifierFlag := ⟨6⟩
def OPTION_R : ModifierFlag := ⟨7⟩
def COMMAND_L : ModifierFlag := ⟨8⟩
def COMMAND_R : ModifierFlag := ⟨9⟩
def NUMPAD : ModifierFlag := ⟨10⟩
def FN : ModifierFlag := ⟨11⟩
def NONE : ModifierFlag := ⟨12⟩

/-- Flags of modifierdef.xml have no bits of their own. -/
def getRawBits (flag : ModifierFlag) : BitVec 32 :=
  if flag = CAPSLOCK then 0x10000
  else if flag = SHIFT_L then 0x20002
  else if flag = SHIFT_R then 0x20004
  else if flag = CONTROL_L then 0x40001
  else if flag = CONTROL_R then 0x42000
  else if flag = OPTION_L then 0x80020
  else if flag = OPTION_R then 0x80040
  else if flag = COMMAND_L then 0x100008
  else if flag = COMMAND_R then 0x100010
  else if flag = NUMPAD then 0x200000
  else if flag = FN then 0x800000
  else 0

end ModifierFlag

structure Flags where
  value : BitVec 32
  deriving DecidableEq, Repr

namespace Flags

def add (flags : Flags) (flag : ModifierFlag) : Flags := ⟨flags.value ||| flag.getRawBits⟩

def isOn (flags : Flags) (flag : ModifierFlag) : Bool :=
  if flag = ModifierFlag.ZERO then true
  else
    let bits := flag.getRawBits
    if bits = 0 then false else flags.value &&& bits == bits

end Flags

structure KeyCode where
  value : Nat
  deriving DecidableEq, Repr

namespace KeyCode

def COMMAND_R : KeyCode := ⟨0x36⟩
def COMMAND_L : KeyCode := ⟨0x37⟩
def SHIFT_L : KeyCode := ⟨0x38⟩
def CAPSLOCK : KeyCode := ⟨0x39⟩
def OPTION_L : KeyCode := ⟨0x3a⟩
def CONTROL_L : KeyCode := ⟨0x3b⟩
def SHIFT_R : KeyCode := ⟨0x3c⟩
def OPTION_R : KeyCode := ⟨0x3d⟩
def CONTROL_R : KeyCode := ⟨0x3e⟩
def FN : KeyCode := ⟨0x3f⟩

/-- The virtual key codes are numbered in the order of the table from VK__BEGIN__ on. -/
def virtual (index : Nat) : KeyCode := ⟨0x10000000 + index⟩

def VK_NONE : KeyCode := virtual 1
def VK_PSEUDO_KEY : KeyCode := virtual 2

end KeyCode

inductive KeyCodeType where
  | KEYCODE
  | VK_LOCK
  | VK_LOCK_FORCE_ON
  | VK_LOCK_FORCE_OFF
  | VK_NEGATIVE_LOCK
  | VK_NEGATIVE_LOCK_FORCE_ON
  | VK_NEGATIVE_LOCK_FORCE_OFF
  | VK_STICKY
  | VK_STICKY_FORCE_ON
  | VK_STICKY_FORCE_OFF
  deriving DecidableEq, Repr

structure Pair where
  modifierFlag : ModifierFlag
  keyCode : KeyCodeType → KeyCode

/-- KeyCodeModifierFlagPairs: the normal modifiers, then the registered virtual ones. -/
abbrev Pairs := List Pair

namespace Pairs

/-- REGISTER_MODIFIER. The virtual codes of one kind are numbered in the order of
registration: ten for the toggle, ten to force on, ten to force off. -/
def registerModifier (index : Nat) (flag : ModifierFlag) (key : KeyCode) : Pair where
  modifierFlag := flag
  keyCode
    | .KEYCODE => key
    | .VK_LOCK => .virtual (0x6 + index)
    | .VK_LOCK_FORCE_ON => .virtual (0x6 + 10 + index)
    | .VK_LOCK_FORCE_OFF => .virtual (0x6 + 20 + index)
    | .VK_NEGATIVE_LOCK => .virtual (0x25 + index)
    | .VK_NEGATIVE_LOCK_FORCE_ON => .virtual (0x25 + 10 + index)
    | .VK_NEGATIVE_LOCK_FORCE_OFF => .virtual (0x25 + 20 + index)
    | .VK_STICKY => .virtual (0x44 + index)
    | .VK_STICKY_FORCE_ON => .virtual (0x44 + 10 + index)
    | .VK_STICKY_FORCE_OFF => .virtual (0x44 + 20 + index)

/-- The table right after clearVirtualModifiers. -/
def normal : Pairs :=
  [registerModifier 0 .CAPSLOCK .CAPSLOCK,
   registerModifier 1 .COMMAND_L .COMMAND_L,
   registerModifier 2 .COMMAND_R .COMMAND_R,
   registerModifier 3 .CONTROL_L .CONTROL_L,
   registerModifier 4 .CONTROL_R .CONTROL_R,
   registerModifier 5 .FN .FN,
   registerModifier 6 .OPTION_L .OPTION_L,
   registerModifier 7 .OPTION_R .OPTION_R,
   registerModifier 8 .SHIFT_L .SHIFT_L,
   registerModifier 9 .SHIFT_R .SHIFT_R]

def getKeyCode (pairs : Pairs) (flag : ModifierFlag) (type : KeyCodeType) : KeyCode :=
  match pairs.find? (·.modifierFlag = flag) with
  | some pair => pair.keyCode type
  | none => .VK_NONE

def getModifierFlag (pairs : Pairs) (key : KeyCode) (type : KeyCodeType) : ModifierFlag :=
  match pairs.find? (·.keyCode type = key) with
  | some pair => pair.modifierFlag
  | none => .ZERO

def flags (pairs : Pairs) : List ModifierFlag := pairs.map (·.modifierFlag)

end Pairs

end Karabiner
