import Karabiner.InitializeVectorLoader
import Mathlib.Logic.Function.Iterate

set_option autoImplicit false

/- The scope of a filter is the element that it is a child of. -/
namespace Karabiner

/-- The autogens that a text stands for when all of its macros are replaced. -/
def Autogen.expand (autogen : List Char) : List (List Char) :=
  match _preprocessed : preprocess autogen with
  | some texts => texts.attach.flatMap fun text => expand text.1
  | none => [autogen]
  termination_by Text.weight weigh autogen
  decreasing_by exact preprocess_lighter _preprocessed text.1 text.2

namespace Symbols

/-- The symbols after the next name of __SimultaneousKeyPresses__ was added. -/
def announce (symbols : Symbols) : Symbols :=
  match symbols.symbolMap.add "KeyCode" symbols.newkeycode with
  | some (_, symbolMap) => { symbols with
      symbolMap, simultaneousKeycodeIndex := symbols.simultaneousKeycodeIndex + 1 }
  | none => symbols

/-- The words of an autogen itself, which its count counts. -/
def record (symbols : Symbols) (autogen : List Char) : Except String (List UInt32) :=
  if Loader.isShowStatusMessage autogen then
    .ok (.ofNat Bridge.STATUSMESSAGE :: InitializeVector.stringWords
      (Text.utf8 (Text.trim (autogen.drop "__ShowStatusMessage__".length))))
  else if Loader.isSimultaneousKeyPresses autogen then
    (.ofNat Bridge.REMAPTYPE_SIMULTANEOUSKEYPRESSES :: ·) <$>
      symbols.announce.values ("KeyCode::".toList ++ symbols.newkeycode.toList ++ [','] ++
        autogen.drop "__SimultaneousKeyPresses__".length)
  else
    match Loader.types.find? fun type => type.1.toList.isPrefixOf autogen with
    | some (symbol, type) => (.ofNat type :: ·) <$> symbols.values (autogen.drop symbol.length)
    | none => .error "Invalid <autogen>"

end Symbols

namespace FilterScope

/-- An element on the way to an autogen: the number of __SimultaneousKeyPresses__ that the
identifier has had before the element, and the children of the element. -/
structure Scope where
  announced : Nat
  children : List Tree

/-- An autogen without macros, below the elements from the parent of the identifier down to
its own parent. -/
structure Site where
  path : List Scope
  autogen : List Char

def announcements (sites : List Site) : Nat :=
  sites.countP (Loader.isSimultaneousKeyPresses ·.autogen)

mutual

/-- The autogens in some children of the last element of the path, in document order. -/
def sitesOfNodes (path : List Scope) (announced : Nat) : List Tree → List Site
  | [] => []
  | node :: rest =>
      let own := sitesOfNode path announced node
      own ++ sitesOfNodes path (announced + announcements own) rest

def sitesOfNode (path : List Scope) (announced : Nat) : Tree → List Site
  | .node tag data children =>
      if tag = "item" then []
      else if tag ≠ "autogen" then
        sitesOfNodes (path ++ [⟨announced, children⟩]) announced children
      else
        (Autogen.expand (Loader.prepareAutogen (Text.trimLeftCopy data))).map (⟨path, ·⟩)

end

/-- The autogens of an identifier, given the children of its parent. -/
def sites (forest : List Tree) : List Site := sitesOfNodes [⟨0, forest⟩] 0 forest

/-- The encodings of all filters that are children of the elements of a path, outermost element
first, the children of each in document order. -/
def encodings (symbols : Symbols) (path : List Scope) : Except String (List UInt32) :=
  List.flatten <$> path.mapM fun scope => List.flatten <$> scope.children.mapM
    (FilterVector.encode (Symbols.announce^[scope.announced] symbols).symbolMap)

/-- Autogens compile to these words: each to a counted record, and behind it the encodings of
its path unless it is a status message. -/
inductive Compiled (symbols : Symbols) : Nat → List Site → List UInt32 → Prop
  | nil (announced : Nat) : Compiled symbols announced [] []
  | cons {announced : Nat} {site : Site} {sites : List Site} {record filters rest : List UInt32}
      (own : (Symbols.announce^[announced] symbols).record site.autogen = .ok record)
      (scope : (if Loader.isShowStatusMessage site.autogen then .ok []
        else encodings symbols site.path) = .ok filters)
      (others : Compiled symbols (announced + announcements [site]) sites rest) :
      Compiled symbols announced (site :: sites)
        (Framing.frame UInt32.ofNat record ++ filters ++ rest)

mutual

/-- The identifiers in a tree, each with the children of its parent. -/
def identifiersOfNodes (forest : List Tree) : List Tree → List (List Tree × Tree)
  | [] => []
  | node :: rest => identifiersOfNode forest node ++ identifiersOfNodes forest rest

def identifiersOfNode (forest : List Tree) : Tree → List (List Tree × Tree)
  | .node tag data children =>
      if tag ≠ "identifier" then identifiersOfNodes children children
      else [(forest, .node tag data children)]

end

def identifiers (forest : List Tree) : List (List Tree × Tree) :=
  identifiersOfNodes forest forest

/-- The words in front of the autogens. -/
def vkConfig (symbols : Symbols) (node : Tree) (identifier : String) :
    Except String (List UInt32) :=
  if (node.getOptional "vk_config").isSome then
    (fun keycodes => 5 :: .ofNat Bridge.VK_CONFIG :: keycodes) <$>
      Loader.vkConfigNames.mapM fun name => symbols.symbolMap.get
        ("KeyCode::" ++ name ++ identifier)
  else .ok []

/-- The entry of an identifier is its index, the words for vk_config and its autogens with
their filters. -/
structure CompiledEntry (symbols : Symbols) (forest : List Tree) (node : Tree)
    (entry : UInt32 × List UInt32) : Prop where
  index : symbols.symbolMap.get
    ("ConfigIndex::" ++ Text.normalizeIdentifier (Text.trimCopy node.data)) = .ok entry.1
  body : ∃ config words, entry.2 = config ++ words ∧
    vkConfig symbols node (Text.normalizeIdentifier (Text.trimCopy node.data)) = .ok config ∧
    Compiled symbols 0 (sites forest) words

theorem announcements_append (first second : List Site) :
    announcements (first ++ second) = announcements first + announcements second :=
  List.countP_append

theorem Compiled.append {symbols : Symbols} {announced : Nat} {first second : List Site}
    {words others : List UInt32} (compiled : Compiled symbols announced first words)
    (rest : Compiled symbols (announced + announcements first) second others) :
    Compiled symbols announced (first ++ second) (words ++ others) := by
  induction compiled with
  | nil announced => exact rest
  | @cons announced site sites record filters words own scope _ ih =>
      have counted : announcements (site :: sites) =
          announcements [site] + announcements sites := announcements_append [site] sites
      rw [counted, ← Nat.add_assoc] at rest
      have joined := Compiled.cons own scope (ih rest)
      rw [List.cons_append, List.append_assoc]
      exact joined

theorem Compiled.single {symbols : Symbols} {announced : Nat} {path : List Scope}
    {autogen : List Char} {record filters : List UInt32}
    (own : (Symbols.announce^[announced] symbols).record autogen = .ok record)
    (scope : (if Loader.isShowStatusMessage autogen then .ok [] else encodings symbols path) =
      .ok filters) :
    Compiled symbols announced [⟨path, autogen⟩]
    (Framing.frame UInt32.ofNat record ++ filters) := by
  have compiled : Compiled symbols announced [⟨path, autogen⟩] _ := .cons own scope (.nil _)
  rw [List.append_nil] at compiled
  exact compiled

theorem encodings_append {symbols : Symbols} {path : List Scope} {scope : Scope}
    {outer own : List UInt32} (outside : encodings symbols path = .ok outer)
    (inside : FilterVector.traverse (Symbols.announce^[scope.announced] symbols).symbolMap
      scope.children = .ok own) :
    encodings symbols (path ++ [scope]) = .ok (outer ++ own) := by
  unfold FilterVector.traverse at inside
  unfold encodings at outside ⊢
  rw [List.mapM_append, List.mapM_cons, inside, List.mapM_nil]
  cases inner : path.mapM fun scope => List.flatten <$> scope.children.mapM
      (FilterVector.encode (Symbols.announce^[scope.announced] symbols).symbolMap) with
  | error what =>
      rw [inner] at outside
      cases outside
  | ok words =>
      rw [inner] at outside
      have flat : words.flatten = outer := Except.ok.inj outside
      show Except.ok (words ++ [own]).flatten = _
      rw [List.flatten_append, flat]
      simp

end FilterScope

end Karabiner
