import Karabiner.EventInputQueue
import Karabiner.FilterVector
import Karabiner.Throwing

set_option autoImplicit false

/- The device and modifier filters, from the text of an element to the targets that the
kernel extension checks. -/
namespace Karabiner

namespace DeviceFilter

def target : List UInt32 → Option DeviceIdentifier
  | [vendor, product, location] => some ⟨vendor.toNat, product.toNat, location.toNat⟩
  | _ => none

/-- targets_. The filter keeps the words of its targets. -/
def targets (filter : RemapFilter) : List DeviceIdentifier := filter.targets.filterMap target

theorem target_length {words : List UInt32} {identifier : DeviceIdentifier}
    (decoded : target words = some identifier) : words.length = 3 := by
  match words, decoded with
  | [_, _, _], _ => rfl

theorem targets_decoded {groups : List (List UInt32)} {identifiers : List DeviceIdentifier}
    (decoded : List.Forall₂ (fun words identifier => target words = some identifier) groups
      identifiers) :
    groups.filterMap target = identifiers ∧ ∀ words ∈ groups, words.length = 3 := by
  induction decoded with
  | nil => exact ⟨rfl, by simp⟩
  | cons own _ ih =>
      refine ⟨?_, List.forall_mem_cons.2 ⟨target_length own, ih.2⟩⟩
      rw [List.filterMap_cons_some own, ih.1]

end DeviceFilter

namespace ModifierFilter

/-- One round of the loop of the constructor. -/
def add (targets : List (List ModifierFlag)) : List UInt32 → List (List ModifierFlag)
  | [datatype, newval] =>
      if datatype.toNat = Bridge.DATATYPE_MODIFIERFLAG then
        match targets.getLast? with
        | some back => targets.dropLast ++ [back ++ [⟨newval.toNat⟩]]
        | none => targets
      else if datatype.toNat = Bridge.DATATYPE_MODIFIERFLAGS_END then targets ++ [[]]
      else targets
  | _ => targets

/-- targets_. -/
def targets (filter : RemapFilter) : List (List ModifierFlag) := filter.targets.foldl add [[]]

end ModifierFilter

namespace RemapFilter

theorem readWords_value {buffer : VectorBuffer} {words rest : List UInt32} :
    ∀ {p : Nat}, buffer.words.drop p = words ++ rest →
      (readWords buffer p words.length).value = words := by
  induction words with
  | nil =>
      intro p _
      rfl
  | cons word words ih =>
      intro p here
      obtain ⟨first, others⟩ := VectorBuffer.words_drop_cons here
      rw [List.length_cons, readWords, Traced.value_bind, VectorBuffer.readWord_value, first,
        Traced.value_map, ih others]

/-- Words that were written in groups are read in the same groups. -/
theorem readGroups_flatten {buffer : VectorBuffer} {group vec length : Nat}
    {groups : List (List UInt32)} {rest : List UInt32} (positive : 0 < group)
    (even : ∀ words ∈ groups, words.length = group) :
    ∀ (i fuel : Nat) (before : List (List UInt32)),
      buffer.words.drop (vec + i) = groups.flatten ++ rest →
      length = i + group * groups.length → groups.length ≤ fuel →
      (readGroups buffer group vec length fuel i before).value = before ++ groups := by
  induction groups with
  | nil =>
      intro i fuel before _ whole _
      rw [List.append_nil]
      cases fuel with
      | zero => rfl
      | succ fuel =>
          rw [List.length_nil, Nat.mul_zero] at whole
          rw [readGroups, if_neg (by omega)]
          rfl
  | cons words groups ih =>
      intro i fuel before here whole enough
      have width := even words List.mem_cons_self
      rw [List.length_cons] at whole enough
      rw [Nat.mul_succ] at whole
      cases fuel with
      | zero => omega
      | succ fuel =>
          rw [List.flatten_cons, List.append_assoc] at here
          have later : buffer.words.drop (vec + (i + group)) = groups.flatten ++ rest := by
            have dropped := congrArg (List.drop words.length) here
            rw [List.drop_left, List.drop_drop, width] at dropped
            rw [← Nat.add_assoc]
            exact dropped
          have tail := ih (fun other member => even other (List.mem_cons_of_mem _ member))
            (i + group) fuel (before ++ [words]) later (by omega) (by omega)
          have read := readWords_value here
          rw [width] at read
          rw [readGroups, if_pos (by omega), Traced.value_bind, read, tail, List.append_assoc]
          rfl

end RemapFilter

namespace FilterVector

open Bridge

/-- The symbol map has the value for the name. -/
def Names (symbolMap : SymbolMap) (token : List Char) (value : Nat) : Prop :=
  ∃ v, symbolMap.get (Text.normalizeIdentifier (.ofList token)) = .ok v ∧ v.toNat = value

/-- A name, or what stands for it where it is omitted. -/
def NamesOr (symbolMap : SymbolMap) (any : String) : Option (List Char) → Nat → Prop
  | some token, value => Names symbolMap token value
  | none, value => ∃ v, symbolMap.get any = .ok v ∧ v.toNat = value

/-- DeviceVendor[, DeviceProduct[, DeviceLocation]] -/
structure DeviceGroup where
  vendor : List Char
  product : Option (List Char)
  location : Option (List Char)
  vendorNamed : "DeviceVendor::".toList <+: vendor
  productNamed : ∀ token ∈ product, "DeviceProduct::".toList <+: token
  locationNamed : ∀ token ∈ location, "DeviceLocation::".toList <+: token
  ordered : location.isSome → product.isSome

namespace DeviceGroup

def tokens (group : DeviceGroup) : List (List Char) :=
  group.vendor :: (group.product.toList ++ group.location.toList)

/-- The device that the group is for. -/
structure Means (symbolMap : SymbolMap) (group : DeviceGroup) (device : DeviceIdentifier) :
    Prop where
  vendor : Names symbolMap group.vendor device.vendor
  product : NamesOr symbolMap "DeviceProduct::ANY" group.product device.product
  location : NamesOr symbolMap "DeviceLocation::ANY" group.location device.locationId

end DeviceGroup

section

variable {symbolMap : SymbolMap}

/-- What is appended to a number of words, by their rest modulo three. -/
theorem fill_ok {words filled : List UInt32}
    (fills : fillOmittedDeviceSpecifying symbolMap words = .ok filled) :
    (words.length % 3 = 0 ∧ filled = words) ∨
    (words.length % 3 = 1 ∧ ∃ product location,
      symbolMap.get "DeviceProduct::ANY" = .ok product ∧
      symbolMap.get "DeviceLocation::ANY" = .ok location ∧
      filled = words ++ [product, location]) ∨
    (words.length % 3 = 2 ∧ ∃ location, symbolMap.get "DeviceLocation::ANY" = .ok location ∧
      filled = words ++ [location]) := by
  have rests : words.length % 3 = 0 ∨ words.length % 3 = 1 ∨ words.length % 3 = 2 := by omega
  rw [fillOmittedDeviceSpecifying] at fills
  rcases rests with zero | one | two
  · rw [zero] at fills
    exact .inl ⟨zero, (Except.ok.inj fills).symm⟩
  · rw [one] at fills
    obtain ⟨product, any_product, fills⟩ := Throwing.bind_ok fills
    obtain ⟨location, any_location, fills⟩ := Throwing.bind_ok fills
    have same := (Except.ok.inj fills).symm
    exact .inr (.inl ⟨one, product, location, any_product, any_location, same⟩)
  · rw [two] at fills
    obtain ⟨location, any_location, fills⟩ := Throwing.bind_ok fills
    exact .inr (.inr ⟨two, location, any_location, (Except.ok.inj fills).symm⟩)

theorem fill_length {words filled : List UInt32}
    (fills : fillOmittedDeviceSpecifying symbolMap words = .ok filled) :
    filled.length % 3 = 0 := by
  rcases fill_ok fills with ⟨zero, rfl⟩ | ⟨one, product, location, _, _, rfl⟩ |
    ⟨two, location, _, rfl⟩
  · exact zero
  · simp only [List.length_append, List.length_cons, List.length_nil]
    omega
  · simp only [List.length_append, List.length_cons, List.length_nil]
    omega

theorem fill_one {words filled : List UInt32} {vendor : UInt32} (whole : words.length % 3 = 0)
    (fills : fillOmittedDeviceSpecifying symbolMap (words ++ [vendor]) = .ok filled) :
    ∃ product location, symbolMap.get "DeviceProduct::ANY" = .ok product ∧
      symbolMap.get "DeviceLocation::ANY" = .ok location ∧
      filled = words ++ [vendor, product, location] := by
  have length : (words ++ [vendor]).length = words.length + 1 := List.length_append
  rcases fill_ok fills with
    ⟨zero, _⟩ | ⟨_, product, location, found, any_location, rfl⟩ | ⟨two, _⟩
  · omega
  · exact ⟨product, location, found, any_location, List.append_assoc ..⟩
  · omega

theorem fill_two {words filled : List UInt32} {vendor product : UInt32}
    (whole : words.length % 3 = 0)
    (fills : fillOmittedDeviceSpecifying symbolMap (words ++ [vendor, product]) = .ok filled) :
    ∃ location, symbolMap.get "DeviceLocation::ANY" = .ok location ∧
      filled = words ++ [vendor, product, location] := by
  have length : (words ++ [vendor, product]).length = words.length + 2 := List.length_append
  rcases fill_ok fills with ⟨zero, _⟩ | ⟨one, _⟩ | ⟨_, location, found, rfl⟩
  · omega
  · omega
  · exact ⟨location, found, List.append_assoc ..⟩

theorem fill_three {words filled : List UInt32} {vendor product location : UInt32}
    (whole : words.length % 3 = 0)
    (fills : fillOmittedDeviceSpecifying symbolMap (words ++ [vendor, product, location]) =
      .ok filled) :
    filled = words ++ [vendor, product, location] := by
  have length : (words ++ [vendor, product, location]).length = words.length + 3 :=
    List.length_append
  rcases fill_ok fills with ⟨_, same⟩ | ⟨one, _⟩ | ⟨two, _⟩
  · exact same
  · omega
  · omega

section

variable {filterType : Nat} (device : isDevice filterType = true)

include device

/-- A device filter appends the value of each name, to words that are filled in front of
a vendor. -/
theorem addArgument_device {words next : List UInt32} {arg : List Char}
    (added : addArgument symbolMap filterType "" words arg = .ok next) :
    ∃ base v, (if "DeviceVendor".toList <+: arg then
        fillOmittedDeviceSpecifying symbolMap words = .ok base else base = words) ∧
      symbolMap.get (Text.normalizeIdentifier (.ofList arg)) = .ok v ∧ next = base ++ [v] := by
  have others : isModifier filterType = false ∧ hasDatatype filterType = false := by
    rw [isDevice, decide_eq_true_eq, List.mem_cons, List.mem_singleton] at device
    rcases device with rfl | rfl
    · decide
    · decide
  rw [addArgument, others.1, others.2, device, Bool.true_and, String.empty_append] at added
  by_cases starts : "DeviceVendor".toList.isPrefixOf arg = true
  · rw [starts] at added
    obtain ⟨base, fills, added⟩ := Throwing.bind_ok added
    obtain ⟨v, found, added⟩ := Throwing.bind_ok added
    refine ⟨base, v, ?_, found, (Except.ok.inj added).symm⟩
    rw [if_pos (List.isPrefixOf_iff_prefix.1 starts)]
    exact fills
  · rw [Bool.eq_false_iff.2 starts] at added
    obtain ⟨_, same, added⟩ := Throwing.bind_ok added
    obtain rfl := Except.ok.inj same
    obtain ⟨v, found, added⟩ := Throwing.bind_ok added
    refine ⟨words, v, ?_, found, (Except.ok.inj added).symm⟩
    rw [if_neg fun named => starts (List.isPrefixOf_iff_prefix.2 named)]

theorem addArgument_vendor {words next : List UInt32} {arg : List Char}
    (named : "DeviceVendor::".toList <+: arg)
    (added : addArgument symbolMap filterType "" words arg = .ok next) :
    ∃ base v, fillOmittedDeviceSpecifying symbolMap words = .ok base ∧
      symbolMap.get (Text.normalizeIdentifier (.ofList arg)) = .ok v ∧ next = base ++ [v] := by
  obtain ⟨base, v, filled, found, appended⟩ := addArgument_device device added
  have vendor : "DeviceVendor".toList <+: "DeviceVendor::".toList := by decide
  rw [if_pos (vendor.trans named)] at filled
  exact ⟨base, v, filled, found, appended⟩

theorem addArgument_part {words next : List UInt32} {kind arg : List Char}
    (apart : ¬ "DeviceVendor".toList <+: kind)
    (long : "DeviceVendor".toList.length ≤ kind.length)
    (named : kind <+: arg) (added : addArgument symbolMap filterType "" words arg = .ok next) :
    ∃ v, symbolMap.get (Text.normalizeIdentifier (.ofList arg)) = .ok v ∧
      next = words ++ [v] := by
  obtain ⟨base, v, filled, found, appended⟩ := addArgument_device device added
  rw [if_neg fun vendor => apart (List.prefix_of_prefix_length_le vendor named long)] at filled
  rw [filled] at appended
  exact ⟨v, found, appended⟩

/-- What a group appends, once it is filled. -/
theorem addGroup {words next filled : List UInt32} {group : DeviceGroup}
    (added : group.tokens.foldlM (addArgument symbolMap filterType "") words = .ok next)
    (fills : fillOmittedDeviceSpecifying symbolMap next = .ok filled) :
    ∃ base target identifier, fillOmittedDeviceSpecifying symbolMap words = .ok base ∧
      DeviceFilter.target target = some identifier ∧ group.Means symbolMap identifier ∧
      filled = base ++ target := by
  obtain ⟨_, first, added⟩ := Throwing.foldlM_cons_ok added
  obtain ⟨base, vendor, base_filled, vendor_found, rfl⟩ :=
    addArgument_vendor device group.vendorNamed first
  have whole := fill_length base_filled
  have vendor_names : Names symbolMap group.vendor vendor.toNat := ⟨vendor, vendor_found, rfl⟩
  refine ⟨base, ?_⟩
  cases product_eq : group.product with
  | none =>
      have no_location : group.location = none := by
        cases location_eq : group.location with
        | none => rfl
        | some token =>
            have both := group.ordered (by rw [location_eq]; rfl)
            rw [product_eq] at both
            cases both
      rw [product_eq, no_location] at added
      obtain rfl := Except.ok.inj added
      obtain ⟨product, location, any_product, any_location, rfl⟩ := fill_one whole fills
      refine ⟨[vendor, product, location], _, base_filled, rfl, ⟨vendor_names, ?_, ?_⟩, rfl⟩
      · rw [product_eq]
        exact ⟨product, any_product, rfl⟩
      · rw [no_location]
        exact ⟨location, any_location, rfl⟩
  | some product_token =>
      rw [product_eq] at added
      obtain ⟨_, second, added⟩ := Throwing.foldlM_cons_ok added
      obtain ⟨product, product_found, rfl⟩ := addArgument_part device (by decide) (by decide)
        (group.productNamed product_token product_eq) second
      cases location_eq : group.location with
      | none =>
          rw [location_eq] at added
          obtain rfl := Except.ok.inj added
          rw [List.append_assoc] at fills
          obtain ⟨location, any_location, rfl⟩ := fill_two whole fills
          refine ⟨[vendor, product, location], _, base_filled, rfl,
            ⟨vendor_names, ?_, ?_⟩, rfl⟩
          · rw [product_eq]
            exact ⟨product, product_found, rfl⟩
          · rw [location_eq]
            exact ⟨location, any_location, rfl⟩
      | some location_token =>
          rw [location_eq] at added
          obtain ⟨_, third, added⟩ := Throwing.foldlM_cons_ok added
          obtain ⟨location, location_found, rfl⟩ := addArgument_part device (by decide)
            (by decide) (group.locationNamed location_token location_eq) third
          obtain rfl := Except.ok.inj added
          rw [List.append_assoc, List.append_assoc] at fills
          have same := fill_three whole fills
          refine ⟨[vendor, product, location], _, base_filled, rfl,
            ⟨vendor_names, ?_, ?_⟩, same⟩
          · rw [product_eq]
            exact ⟨product, product_found, rfl⟩
          · rw [location_eq]
            exact ⟨location, location_found, rfl⟩

/-- Every mix of groups is filled to three words a group. -/
theorem addGroups {groups : List DeviceGroup} :
    ∀ {words next filled : List UInt32},
      (groups.flatMap DeviceGroup.tokens).foldlM (addArgument symbolMap filterType "") words =
        .ok next →
      fillOmittedDeviceSpecifying symbolMap next = .ok filled →
      ∃ base targets identifiers, fillOmittedDeviceSpecifying symbolMap words = .ok base ∧
        List.Forall₂ (fun target identifier => DeviceFilter.target target = some identifier)
          targets identifiers ∧
        List.Forall₂ (DeviceGroup.Means symbolMap) groups identifiers ∧
        filled = base ++ targets.flatten := by
  induction groups with
  | nil =>
      intro words next filled added fills
      obtain rfl := Except.ok.inj added
      exact ⟨filled, [], [], fills, .nil, .nil, (List.append_nil _).symm⟩
  | cons group groups ih =>
      intro words next filled added fills
      rw [List.flatMap_cons, List.foldlM_append] at added
      obtain ⟨_, first, added⟩ := Throwing.bind_ok added
      obtain ⟨middle, targets, identifiers, middle_filled, decoded, means, rfl⟩ :=
        ih added fills
      obtain ⟨base, target, identifier, base_filled, own, own_means, rfl⟩ :=
        addGroup device first middle_filled
      exact ⟨base, target :: targets, identifier :: identifiers, base_filled,
        .cons own decoded, .cons own_means means, by rw [List.append_assoc]; rfl⟩

end

/-- The words of the flags that a modifier filter connects. -/
def flagPairs (values : List UInt32) : List (List UInt32) :=
  values.map fun v => [.ofNat DATATYPE_MODIFIERFLAG, v]

def flagsEnd : List UInt32 := [.ofNat DATATYPE_MODIFIERFLAGS_END, 1]

def flagTargets (groups : List (List UInt32)) : List (List UInt32) :=
  groups.flatMap fun values => flagPairs values ++ [flagsEnd]

theorem flagTargets_even (groups : List (List UInt32)) :
    ∀ words ∈ flagTargets groups, words.length = 2 := by
  intro words member
  obtain ⟨values, _, inside⟩ := List.mem_flatMap.1 member
  rcases List.mem_append.1 inside with pair | last
  · obtain ⟨v, _, rfl⟩ := List.mem_map.1 pair
    rfl
  · rw [List.mem_singleton.1 last]
    rfl

theorem flagTargets_eq_nil {groups : List (List UInt32)} : flagTargets groups = [] ↔
    groups = [] := by
  cases groups with
  | nil => exact ⟨fun _ => rfl, fun _ => rfl⟩
  | cons values groups => simp [flagTargets]

def NamesFlag (symbolMap : SymbolMap) (token : List Char) (v : UInt32) : Prop :=
  symbolMap.get (Text.normalizeIdentifier (.ofList token)) = .ok v

theorem addModifierFlags_ok {tokens : List (List Char)} :
    ∀ {words next : List UInt32},
      tokens.foldlM (fun words value => addModifierFlag symbolMap words ("" ++ .ofList value))
        words = .ok next →
      ∃ values, List.Forall₂ (NamesFlag symbolMap) tokens values ∧
        next = words ++ (flagPairs values).flatten := by
  induction tokens with
  | nil =>
      intro words next added
      obtain rfl := Except.ok.inj added
      exact ⟨[], .nil, (List.append_nil _).symm⟩
  | cons token tokens ih =>
      intro words next added
      obtain ⟨_, first, added⟩ := Throwing.foldlM_cons_ok added
      rw [String.empty_append] at first
      obtain ⟨v, found, first⟩ := Throwing.bind_ok first
      obtain rfl := Except.ok.inj first
      obtain ⟨values, names, rfl⟩ := ih added
      exact ⟨v :: values, .cons found names, List.append_assoc ..⟩

section

variable {filterType : Nat} (modifier : isModifier filterType = true)

include modifier

theorem addArgument_modifier {words next : List UInt32} {arg : List Char}
    (added : addArgument symbolMap filterType "" words arg = .ok next) :
    ∃ values, List.Forall₂ (NamesFlag symbolMap) (Text.tokens '|' arg) values ∧
      next = words ++ (flagPairs values ++ [flagsEnd]).flatten := by
  rw [addArgument, if_pos modifier] at added
  obtain ⟨_, inner, added⟩ := Throwing.bind_ok added
  obtain ⟨values, names, rfl⟩ := addModifierFlags_ok inner
  refine ⟨values, names, ?_⟩
  rw [← Except.ok.inj added, List.flatten_append, List.append_assoc]
  rfl

/-- A modifier filter appends the flags of each group and then an end. -/
theorem addArguments_modifier {args : List (List Char)} :
    ∀ {words next : List UInt32},
      args.foldlM (addArgument symbolMap filterType "") words = .ok next →
      ∃ groups, List.Forall₂ (List.Forall₂ (NamesFlag symbolMap)) (args.map (Text.tokens '|'))
          groups ∧
        next = words ++ (flagTargets groups).flatten := by
  induction args with
  | nil =>
      intro words next added
      obtain rfl := Except.ok.inj added
      exact ⟨[], .nil, (List.append_nil _).symm⟩
  | cons arg args ih =>
      intro words next added
      obtain ⟨_, first, added⟩ := Throwing.foldlM_cons_ok added
      obtain ⟨values, names, rfl⟩ := addArgument_modifier modifier first
      obtain ⟨groups, others, rfl⟩ := ih added
      refine ⟨values :: groups, .cons names others, ?_⟩
      simp only [flagTargets, List.flatMap_cons, List.flatten_append, List.append_assoc]

end

end

end FilterVector

namespace ModifierFilter

open FilterVector (flagPairs flagsEnd flagTargets)

theorem foldl_add_flags (values : List UInt32) :
    ∀ (before : List (List ModifierFlag)) (back : List ModifierFlag),
      (flagPairs values).foldl add (before ++ [back]) =
        before ++ [back ++ values.map fun v => ⟨v.toNat⟩] := by
  induction values with
  | nil =>
      intro before back
      rw [List.map_nil, List.append_nil]
      rfl
  | cons v values ih =>
      intro before back
      have first : add (before ++ [back]) [.ofNat Bridge.DATATYPE_MODIFIERFLAG, v] =
          before ++ [back ++ [⟨v.toNat⟩]] := by
        rw [add, if_pos (by decide), List.getLast?_append_of_ne_nil _ (by simp)]
        simp
      rw [flagPairs, List.map_cons, List.foldl_cons, first]
      exact (ih before (back ++ [⟨v.toNat⟩])).trans (by rw [List.append_assoc])

/-- One target a group, and the one that the last end begins. -/
theorem foldl_add_groups (groups : List (List UInt32)) :
    ∀ before : List (List ModifierFlag),
      (flagTargets groups).foldl add (before ++ [[]]) =
        before ++ groups.map (fun values => values.map fun v => ⟨v.toNat⟩) ++ [[]] := by
  induction groups with
  | nil =>
      intro before
      rw [List.map_nil, List.append_nil]
      rfl
  | cons values groups ih =>
      intro before
      have ended : ∀ targets : List (List ModifierFlag),
          add targets flagsEnd = targets ++ [[]] := by
        intro targets
        rw [flagsEnd, add, if_neg (by decide), if_pos (by decide)]
      rw [flagTargets, List.flatMap_cons, List.foldl_append, List.foldl_append, foldl_add_flags,
        List.foldl_cons, ended, List.foldl_nil, List.nil_append, ← flagTargets, ih, List.map_cons,
        List.append_assoc]
      simp only [List.cons_append, List.append_assoc, List.nil_append]

end ModifierFilter

namespace RemapFilter

theorem create_flatten {buffer : VectorBuffer} {vec : Nat} {type : UInt32}
    {groups : List (List UInt32)} {rest : List UInt32}
    (known : Bridge.FILTERTYPE_NONE < type.toNat ∧ type.toNat < Bridge.FILTERTYPE_END)
    (plain : ¬(type.toNat = Bridge.FILTERTYPE_LASTSENTEVENT_NOT ∨
      type.toNat = Bridge.FILTERTYPE_LASTSENTEVENT_ONLY))
    (even : ∀ words ∈ groups, words.length = groupOf type.toNat)
    (here : buffer.words.drop vec = type :: groups.flatten ++ rest) :
    (create buffer vec (groups.flatten.length + 1)).value =
      some { type := type.toNat, targets := groups } := by
  obtain ⟨first, others⟩ := VectorBuffer.words_drop_cons here
  have positive : 0 < groupOf type.toNat := by
    rw [groupOf]
    split
    · omega
    · split <;> omega
  have length : groups.flatten.length = groupOf type.toNat * groups.length := by
    rw [List.length_flatten, List.map_congr_left even, List.map_const', List.sum_replicate_nat,
      Nat.mul_comm]
  have enough := Nat.le_mul_of_pos_left groups.length positive
  have whole : groups.flatten.length = 0 + groupOf type.toNat * groups.length := by omega
  have all := readGroups_flatten positive even 0 groups.flatten.length [] others whole (by omega)
  rw [create, if_neg (by omega), Traced.value_bind, VectorBuffer.readWord_value, first]
  dsimp only
  rw [if_pos known, if_neg plain, Traced.value_bind, Nat.add_sub_cancel, all]
  rfl

end RemapFilter

namespace FilterVector

open Bridge

/-- The kernel extension makes a filter with the property of the words, and goes on behind
them. -/
def Decodes (words : List UInt32) (property : RemapFilter → Prop) : Prop :=
  ∀ (buffer : VectorBuffer) (p : Nat) (rest : List UInt32),
    buffer.size / 4 ≤ MAX_ALLOCATION_COUNT → buffer.words.drop p = words ++ rest →
    p + 1 + (buffer.word p).toNat = p + words.length ∧
    ∃ filter, (RemapFilter.create buffer (p + 1) (buffer.word p).toNat).value = some filter ∧
      property filter

/-- A filter type whose targets have so many words each. -/
def Grouped (filterType n : Nat) : Prop :=
  RemapFilter.groupOf filterType = n ∧ filterType < 2 ^ 32 ∧
    (FILTERTYPE_NONE < filterType ∧ filterType < FILTERTYPE_END) ∧
    ¬(filterType = FILTERTYPE_LASTSENTEVENT_NOT ∨ filterType = FILTERTYPE_LASTSENTEVENT_ONLY)

instance (filterType n : Nat) : Decidable (Grouped filterType n) :=
  inferInstanceAs (Decidable (_ ∧ _ ∧ _ ∧ _))

theorem grouped_device {filterType : Nat} (device : isDevice filterType = true) :
    Grouped filterType 3 := by
  have all : ∀ type ∈ [FILTERTYPE_DEVICE_NOT, FILTERTYPE_DEVICE_ONLY],
      Grouped type 3 := by decide
  exact all filterType (of_decide_eq_true device)

theorem grouped_modifier {filterType : Nat} (modifier : isModifier filterType = true) :
    Grouped filterType 2 := by
  have all : ∀ type ∈ [FILTERTYPE_MODIFIER_NOT, FILTERTYPE_MODIFIER_ONLY,
      FILTERTYPE_MODIFIER_LOCKED_NOT, FILTERTYPE_MODIFIER_LOCKED_ONLY,
      FILTERTYPE_MODIFIER_STUCK_NOT, FILTERTYPE_MODIFIER_STUCK_ONLY], Grouped type 2 := by decide
  exact all filterType (of_decide_eq_true modifier)

theorem decodes_flatten {filterType n : Nat} {groups : List (List UInt32)}
    {property : RemapFilter → Prop} (grouped : Grouped filterType n)
    (even : ∀ words ∈ groups, words.length = n)
    (own : property { type := filterType, targets := groups }) :
    Decodes (.ofNat (groups.flatten.length + 1) :: .ofNat filterType :: groups.flatten)
      property := by
  obtain ⟨group, small_type, known, plain⟩ := grouped
  intro buffer p rest small here
  obtain ⟨size, next⟩ := VectorBuffer.words_drop_cons here
  have fits : groups.flatten.length + 1 < 2 ^ 32 := by
    have length := congrArg List.length here
    simp only [MAX_ALLOCATION_COUNT] at small
    simp only [List.length_drop, VectorBuffer.words_length, List.length_cons,
      List.length_append] at length
    omega
  have count : (buffer.word p).toNat = groups.flatten.length + 1 := by
    rw [size]
    exact UInt32.toNat_ofNat_of_lt' fits
  have type : (UInt32.ofNat filterType).toNat = filterType :=
    UInt32.toNat_ofNat_of_lt' small_type
  rw [count]
  constructor
  · simp only [List.length_cons]
    omega
  · rw [← type] at group known plain own
    have created := RemapFilter.create_flatten known plain
      (fun words member => (even words member).trans group.symm) next
    exact ⟨_, created, own⟩

/-- Nothing is left over of what add writes. -/
theorem decodes_written {filterType n : Nat} {groups : List (List UInt32)} {words : List UInt32}
    (property : RemapFilter → Prop) (grouped : Grouped filterType n) (positive : 0 < n)
    (even : ∀ words ∈ groups, words.length = n)
    (written : (if groups.flatten.isEmpty then []
      else .ofNat (groups.flatten.length + 1) :: .ofNat filterType :: groups.flatten) = words)
    (own : property { type := filterType, targets := groups }) :
    if groups = [] then words = []
    else Decodes words fun filter =>
      filter.type = filterType ∧ filter.targets.flatten = words.drop 2 ∧ property filter := by
  cases groups with
  | nil =>
      rw [if_pos rfl, ← written]
      rfl
  | cons first groups =>
      have first_length := even first List.mem_cons_self
      have nonempty : (first :: groups).flatten.isEmpty = false := by
        cases first with
        | nil =>
            rw [List.length_nil] at first_length
            omega
        | cons word first => rfl
      rw [nonempty, if_neg Bool.false_ne_true] at written
      rw [if_neg (List.cons_ne_nil _ _), ← written]
      exact decodes_flatten grouped even ⟨rfl, rfl, own⟩

theorem lookup_all {Value : Type} {entries : List (String × Value)} {P : Value → Prop}
    (all : ∀ entry ∈ entries, P entry.2) {name : String} {value : Value}
    (found : entries.lookup name = some value) : P value := by
  obtain ⟨before, after, split, _⟩ := List.lookup_eq_some_iff.1 found
  exact all (name, value) (by rw [split]; simp)

theorem typeOf_scope {tag : String} {filterType : Nat} {scope : String}
    (tagged : typeOf tag = some (filterType, scope))
    (kind : isDevice filterType = true ∨ isModifier filterType = true) : scope = "" := by
  rw [typeOf] at tagged
  exact @lookup_all _ _ (fun value => isDevice value.1 = true ∨ isModifier value.1 = true →
    value.2 = "") (by decide +kernel) _ _ tagged kind

theorem forall₂_filter_nonempty {α β : Type} {R : α → β → Prop} {first : List (List α)}
    {second : List (List β)} (all : List.Forall₂ (List.Forall₂ R) first second) :
    List.Forall₂ (List.Forall₂ R) (first.filter (!·.isEmpty))
    (second.filter (!·.isEmpty)) := by
  induction all with
  | nil => exact .nil
  | cons own _ ih =>
      cases own with
      | nil => exact ih
      | cons here later => exact .cons (.cons here later) ih

theorem add_device {symbolMap : SymbolMap} {filterType : Nat} {text : String}
    {words : List UInt32} {groups : List DeviceGroup} (device : isDevice filterType = true)
    (made : Text.tokens ',' (Text.removeWhitespaces text).toList =
      groups.flatMap DeviceGroup.tokens)
    (encoded : add symbolMap filterType "" text = .ok words) :
    if groups = [] then words = []
    else Decodes words fun filter =>
      filter.type = filterType ∧ filter.targets.flatten = words.drop 2 ∧
        List.Forall₂ (DeviceGroup.Means symbolMap) groups (DeviceFilter.targets filter) := by
  obtain ⟨appended, all_added, finished⟩ := Throwing.bind_ok encoded
  rw [device] at finished
  obtain ⟨filled, fills, finished⟩ := Throwing.bind_ok finished
  rw [made] at all_added
  obtain ⟨base, targets, identifiers, base_filled, decoded, means, rfl⟩ :=
    addGroups device all_added fills
  obtain rfl := Except.ok.inj base_filled
  have same_length := decoded.length_eq.trans means.length_eq.symm
  obtain ⟨decoded, even⟩ := DeviceFilter.targets_decoded decoded
  have none_iff : targets = [] ↔ groups = [] := by
    rw [← List.length_eq_zero_iff, ← List.length_eq_zero_iff, same_length]
  have found := decodes_written
    (fun filter => List.Forall₂ (DeviceGroup.Means symbolMap) groups
      (DeviceFilter.targets filter))
    (grouped_device device) (by decide) even (Except.ok.inj finished)
    (by rwa [DeviceFilter.targets, decoded])
  rwa [if_congr none_iff rfl rfl] at found

theorem not_device {filterType : Nat} (modifier : isModifier filterType = true) :
    isDevice filterType = false := by
  have all : ∀ type ∈ [FILTERTYPE_MODIFIER_NOT, FILTERTYPE_MODIFIER_ONLY,
      FILTERTYPE_MODIFIER_LOCKED_NOT, FILTERTYPE_MODIFIER_LOCKED_ONLY,
      FILTERTYPE_MODIFIER_STUCK_NOT, FILTERTYPE_MODIFIER_STUCK_ONLY],
      isDevice type = false := by decide
  exact all filterType (of_decide_eq_true modifier)

theorem add_modifier {symbolMap : SymbolMap} {filterType : Nat} {text : String}
    {words : List UInt32} {args : List (List Char)} (modifier : isModifier filterType = true)
    (made : Text.tokens ',' (Text.removeWhitespaces text).toList = args)
    (encoded : add symbolMap filterType "" text = .ok words) :
    if args = [] then words = []
    else Decodes words fun filter =>
      filter.type = filterType ∧ filter.targets.flatten = words.drop 2 ∧
        List.Forall₂ (List.Forall₂ fun token flag => Names symbolMap token flag.value)
          ((args.map (Text.tokens '|')).filter (!·.isEmpty))
          ((ModifierFilter.targets filter).filter (!·.isEmpty)) := by
  obtain ⟨appended, all_added, finished⟩ := Throwing.bind_ok encoded
  rw [not_device modifier] at finished
  obtain ⟨_, same, finished⟩ := Throwing.bind_ok finished
  obtain rfl := Except.ok.inj same
  rw [made] at all_added
  obtain ⟨groups, names, rfl⟩ := addArguments_modifier modifier all_added
  have none_iff : flagTargets groups = [] ↔ args = [] := by
    have same_length := names.length_eq
    rw [List.length_map] at same_length
    rw [flagTargets_eq_nil, ← List.length_eq_zero_iff, ← same_length, List.length_eq_zero_iff]
  have means : List.Forall₂ (List.Forall₂ fun token flag => Names symbolMap token flag.value)
      (args.map (Text.tokens '|'))
      (groups.map fun values => values.map fun v => (⟨v.toNat⟩ : ModifierFlag)) := by
    rw [List.forall₂_map_right_iff]
    apply names.imp
    intro tokens values own
    rw [List.forall₂_map_right_iff]
    apply own.imp
    intro token v named
    exact ⟨v, named, rfl⟩
  have nonempty := forall₂_filter_nonempty means
  have targets : ModifierFilter.targets { type := filterType, targets := flagTargets groups } =
      (groups.map fun values => values.map fun v => (⟨v.toNat⟩ : ModifierFlag)) ++ [[]] :=
    ModifierFilter.foldl_add_groups groups []
  have found := decodes_written
    (fun filter =>
      List.Forall₂ (List.Forall₂ fun token flag => Names symbolMap token flag.value)
      ((args.map (Text.tokens '|')).filter (!·.isEmpty))
      ((ModifierFilter.targets filter).filter (!·.isEmpty)))
    (grouped_modifier modifier) (by decide) (flagTargets_even groups) (Except.ok.inj finished) (by
      rw [targets, List.filter_append]
      simpa using nonempty)
  rwa [if_congr none_iff rfl rfl] at found

/-- The kernel extension finds the groups of a device filter, with ANY for what is omitted,
and the connected flags of a modifier filter, in the order of the text. -/
theorem filters_decode {symbolMap : SymbolMap} {tag text : String} {children : List Tree}
    {filterType : Nat} {scope : String} {words : List UInt32}
    (tagged : typeOf tag = some (filterType, scope))
    (encoded : encode symbolMap (.node tag text children) = .ok words) :
    let args := Text.tokens ',' (Text.removeWhitespaces text).toList
    (isDevice filterType = true → ∀ groups : List DeviceGroup,
      args = groups.flatMap DeviceGroup.tokens →
      if groups = [] then words = []
      else Decodes words fun filter =>
        filter.type = filterType ∧ filter.targets.flatten = words.drop 2 ∧
          List.Forall₂ (DeviceGroup.Means symbolMap) groups (DeviceFilter.targets filter)) ∧
    (isModifier filterType = true →
      if args = [] then words = []
      else Decodes words fun filter =>
        filter.type = filterType ∧ filter.targets.flatten = words.drop 2 ∧
          List.Forall₂ (List.Forall₂ fun token flag => Names symbolMap token flag.value)
            ((args.map (Text.tokens '|')).filter (!·.isEmpty))
            ((ModifierFilter.targets filter).filter (!·.isEmpty))) := by
  intro args
  rw [encode, show (Tree.node tag text children).tag = tag from rfl, tagged] at encoded
  constructor
  · intro device groups made
    obtain rfl := typeOf_scope tagged (.inl device)
    exact add_device device made encoded
  · intro modifier
    obtain rfl := typeOf_scope tagged (.inr modifier)
    exact add_modifier modifier rfl encoded

def sampleSymbolMap : SymbolMap :=
  ⟨[("DeviceVendor::A", 1), ("DeviceVendor::B", 2), ("DeviceProduct::C", 3),
    ("DeviceProduct::ANY", 0), ("DeviceLocation::ANY", 9)]⟩

def sampleGroups : List DeviceGroup :=
  [{ vendor := "DeviceVendor::A".toList
     product := none
     location := none
     vendorNamed := by decide
     productNamed := by simp
     locationNamed := by simp
     ordered := by simp },
    { vendor := "DeviceVendor::B".toList
      product := some "DeviceProduct::C".toList
      location := none
      vendorNamed := by decide
      productNamed := by
        intro token member
        obtain rfl := Option.mem_some.1 member
        decide
      locationNamed := by simp
      ordered := by simp }]

theorem filters_decode_sample :
    Decodes [7, 52, 1, 0, 9, 2, 3, 9] fun filter =>
      List.Forall₂ (DeviceGroup.Means sampleSymbolMap) sampleGroups
        (DeviceFilter.targets filter) := by
  have tagged : typeOf "device_only" = some (52, "") := by decide
  have encoded : encode sampleSymbolMap
      (.node "device_only" "DeviceVendor::A, DeviceVendor::B,DeviceProduct::C" []) =
      .ok [7, 52, 1, 0, 9, 2, 3, 9] := by decide +kernel
  have decodes := (filters_decode tagged encoded).1 (by decide) sampleGroups (by decide +kernel)
  rw [if_neg (show sampleGroups ≠ [] from List.cons_ne_nil _ _)] at decodes
  intro buffer p rest small here
  obtain ⟨behind, filter, created, _, _, means⟩ := decodes buffer p rest small here
  exact ⟨behind, filter, created, means⟩

end FilterVector

end Karabiner
