import Karabiner.XmlTree

set_option autoImplicit false

/- The macros of an autogen, which the first part of handle_autogen replaces. -/
namespace Karabiner

namespace Autogen

/-- An occurrence of the first text has the autogen handled again, once for each
replacement of the second text. -/
structure Macro where
  found : List Char
  replacements : List (List Char × List Char)

def eitherLeftOrRight : List Macro :=
  [("MODIFIERFLAG_EITHER_LEFT_OR_RIGHT_COMMAND", "ModifierFlag::COMMAND"),
    ("MODIFIERFLAG_EITHER_LEFT_OR_RIGHT_CONTROL", "ModifierFlag::CONTROL"),
    ("MODIFIERFLAG_EITHER_LEFT_OR_RIGHT_SHIFT", "ModifierFlag::SHIFT"),
    ("MODIFIERFLAG_EITHER_LEFT_OR_RIGHT_OPTION", "ModifierFlag::OPTION"),
    ("VK_COMMAND", "ModifierFlag::COMMAND"),
    ("VK_CONTROL", "ModifierFlag::CONTROL"),
    ("VK_SHIFT", "ModifierFlag::SHIFT"),
    ("VK_OPTION", "ModifierFlag::OPTION")].map fun (name, flag) =>
    let name := name.toList
    ⟨name, [(name, flag.toList ++ ['_', 'L']), (name, flag.toList ++ ['_', 'R'])]⟩

def modifierflags : List Macro :=
  [("MODIFIERFLAGS_CCOS_L",
      "ModifierFlag::COMMAND_L|ModifierFlag::CONTROL_L|ModifierFlag::OPTION_L|ModifierFlag::SHIFT_L"),
    ("MODIFIERFLAGS_CCS_L",
      "ModifierFlag::COMMAND_L|ModifierFlag::CONTROL_L|ModifierFlag::SHIFT_L"),
    ("MODIFIERFLAGS_CCO_L",
      "ModifierFlag::COMMAND_L|ModifierFlag::CONTROL_L|ModifierFlag::OPTION_L"),
    ("VK_MOD_CCOS_L",
      "ModifierFlag::COMMAND_L|ModifierFlag::CONTROL_L|ModifierFlag::OPTION_L|ModifierFlag::SHIFT_L"),
    ("VK_MOD_CCS_L",
      "ModifierFlag::COMMAND_L|ModifierFlag::CONTROL_L|ModifierFlag::SHIFT_L"),
    ("VK_MOD_CCO_L",
      "ModifierFlag::COMMAND_L|ModifierFlag::CONTROL_L|ModifierFlag::OPTION_L")].map
    fun (name, flag) => ⟨name.toList, [(name.toList, flag.toList)]⟩

/-- pqrs::vector::make_combination. The seeds are given from the last to the first. -/
def makeCombination : List String → List (List String)
  | [] => [[]]
  | last :: seeds =>
      let combinations := makeCombination seeds
      combinations ++ combinations.map (· ++ [last])

def combination : List (List String) :=
  makeCombination ["MODIFIERFLAG_EITHER_LEFT_OR_RIGHT_SHIFT",
    "MODIFIERFLAG_EITHER_LEFT_OR_RIGHT_OPTION", "ModifierFlag::FN",
    "MODIFIERFLAG_EITHER_LEFT_OR_RIGHT_CONTROL", "MODIFIERFLAG_EITHER_LEFT_OR_RIGHT_COMMAND"]

def modifierflagsAny : List Macro :=
  ["MODIFIERFLAGS_ANY", "VK_MOD_ANY"].map fun name =>
    ⟨name.toList, combination.map fun flags =>
      (name.toList, ['|'].intercalate (flags.map String.toList) ++ "|ModifierFlag::NONE".toList)⟩

def fromkeycode : List Macro :=
  [("HOME", "CURSOR_LEFT"), ("END", "CURSOR_RIGHT"), ("PAGEUP", "CURSOR_UP"),
    ("PAGEDOWN", "CURSOR_DOWN"), ("FORWARD_DELETE", "DELETE")].flatMap fun (key, other) =>
    let fromkeycode := "FROMKEYCODE_".toList ++ key.toList
    let keycode := "KeyCode::".toList ++ key.toList
    let otherKeycodeWithFn := "KeyCode::".toList ++ other.toList ++ ",ModifierFlag::FN".toList
    [⟨fromkeycode ++ ",ModifierFlag::".toList,
        [(fromkeycode, keycode), (fromkeycode ++ [','], otherKeycodeWithFn ++ ['|'])]⟩,
      ⟨fromkeycode, [(fromkeycode, keycode), (fromkeycode, otherKeycodeWithFn)]⟩]

def macros : List Macro := eitherLeftOrRight ++ modifierflags ++ modifierflagsAny ++ fromkeycode

/-- The texts that handle_autogen is called with again, if a macro is found. -/
def preprocess (autogen : List Char) : Option (List (List Char)) :=
  match macros.find? fun known => Text.contains known.found autogen with
  | some known => some (known.replacements.map fun (search, format) =>
      Text.replaceAll search format 0 autogen)
  | none =>
      let withRepeat := "__KeyOverlaidModifierWithRepeat__".toList
      let strip := "__StripModifierFromScrollWheel__".toList
      if withRepeat.isPrefixOf autogen then
        some [Text.replaceFirst withRepeat
          "__KeyOverlaidModifier__Option::KEYOVERLAIDMODIFIER_REPEAT,".toList autogen]
      else if strip.isPrefixOf autogen then
        some [Text.replaceFirst strip "__ScrollWheelToScrollWheel__".toList autogen ++
          ",ModifierFlag::NONE".toList]
      else none

/-- Letters of the macros that their replacements have fewer of. -/
def weigh (c : Char) : Nat :=
  if c = 'G' then 1
  else if c = 'V' ∨ c = 'Y' then 100
  else if c = 'h' then 1000
  else if c = 'p' then 2000
  else 0

theorem macros_lighter : ∀ known ∈ macros, ∀ replacement ∈ known.replacements,
    replacement.1 ≠ [] ∧ replacement.1 <+: known.found ∧
      Text.weight weigh replacement.2 < Text.weight weigh replacement.1 := by
  decide +kernel

theorem preprocess_lighter {autogen : List Char} {texts : List (List Char)}
    (preprocessed : preprocess autogen = some texts) :
    ∀ text ∈ texts, Text.weight weigh text < Text.weight weigh autogen := by
  rw [preprocess] at preprocessed
  cases found : macros.find? fun known => Text.contains known.found autogen with
  | some known =>
      rw [found] at preprocessed
      obtain rfl := Option.some.inj preprocessed
      intro text member
      obtain ⟨replacement, inside, rfl⟩ := List.mem_map.1 member
      have known_mem := List.mem_of_find?_eq_some found
      obtain ⟨nonempty, part, lighter⟩ := macros_lighter known known_mem replacement inside
      apply Text.weight_replaceAll_lt nonempty lighter
      have contained : Text.contains known.found autogen = true := by
        simpa using List.find?_some found
      exact Text.contains_of_prefix part contained
  | none =>
      rw [found] at preprocessed
      dsimp only at preprocessed
      by_cases withRepeat : "__KeyOverlaidModifierWithRepeat__".toList.isPrefixOf autogen = true
      · rw [if_pos withRepeat] at preprocessed
        obtain rfl := Option.some.inj preprocessed
        intro text member
        rw [List.mem_singleton.1 member]
        exact Text.weight_replaceFirst_lt (by decide) (by decide +kernel) withRepeat
      · rw [if_neg withRepeat] at preprocessed
        by_cases strip : "__StripModifierFromScrollWheel__".toList.isPrefixOf autogen = true
        · rw [if_pos strip] at preprocessed
          obtain rfl := Option.some.inj preprocessed
          intro text member
          rw [List.mem_singleton.1 member, Text.weight_append]
          have none_added : Text.weight weigh ",ModifierFlag::NONE".toList = 0 := by
            decide +kernel
          rw [none_added, Nat.add_zero]
          exact Text.weight_replaceFirst_lt (by decide) (by decide +kernel) strip
        · rw [if_neg strip] at preprocessed
          cases preprocessed

end Autogen

end Karabiner
