import Karabiner.XmlTree
import Karabiner.FilePath

set_option autoImplicit false

/- xml_compiler::extracted_ptree: the iterator that expands includes as it reaches them. All
iterators over the trees of one root share the stack and the included files. -/
namespace Karabiner

/-- pqrs::string::replacement -/
abbrev Replacement := List (String × String)

namespace Replacement

def emplace (replacement : Replacement) (name value : String) : Replacement :=
  if (replacement.lookup name).isSome then replacement else replacement ++ [(name, value)]

/-- The entries of the parent whose names are not found. -/
def inherit (replacement parent : Replacement) : Replacement :=
  parent.foldl (fun replacement entry => replacement.emplace entry.1 entry.2) replacement

end Replacement

/-- What reading a file gives: the property tree, empty where it cannot be parsed. -/
structure Reading where
  document : List Tree
  error : Option String := none
  warnings : String := ""

/-- The files that can be read, by normalized path. What boost makes of a text depends on
the replacement of the names in double curly braces. -/
abbrev XmlFiles := List (String × (Replacement → Reading))

/-- What stands for a file that cannot be read. -/
def caution (path : String) : Tree :=
  .node "root" "" [.node "item" "" [
    .node "name" "Caution:" [.node "<xmlattr>" "" [.node "style" "caution" []]],
    .node "appendix" (path ++ " is not found.    ") []]]

def XmlFiles.readXml (files : XmlFiles) (path : String) (replacement : Replacement) : Reading :=
  match files.lookup path with
  | some read => read replacement
  | none => { document := [caution path] }

/-- The members of xml_compiler that an iteration changes. -/
structure World where
  globalIncludedFiles : List String := []
  errorInformation : ErrorInformation := {}
  replacementWarnings : String := ""
  deriving DecidableEq, Repr

def World.setError (world : World) (message : String) : World :=
  { world with errorInformation := world.errorInformation.set message }

/-- stack_data. An extracted frame keeps the tree of a file. -/
structure Frame where
  /-- The nodes from it to end. -/
  it : List Tree
  parentReplacement : Replacement
  file : Option String
  deriving Repr

def Frame.extracted (frame : Frame) : Bool := frame.file.isSome

structure Extraction where
  /-- The top is the first. -/
  stack : List Frame
  /-- The back is the first. -/
  localIncludedFiles : List String
  world : World
  deriving Repr

namespace Extraction

def ended (s : Extraction) (level : Nat) : Bool := s.stack.length < level

def popFile (frame : Frame) (files : List String) : List String :=
  if frame.extracted then files.tail else files

def collapseFrames (level : Nat) : List Frame → List String → List Frame × List String
  | [], files => ([], files)
  | frame :: below, files =>
      if below.length + 1 < level || !frame.it.isEmpty then (frame :: below, files)
      else collapseFrames level below (popFile frame files)

def collapse (s : Extraction) (level : Nat) : Extraction :=
  let (stack, localIncludedFiles) := collapseFrames level s.stack s.localIncludedFiles
  { s with stack, localIncludedFiles }

def destroyFrames (level : Nat) : List Frame → List String → List Frame × List String
  | [], files => ([], files)
  | frame :: below, files =>
      if below.length + 1 < level then (frame :: below, files)
      else destroyFrames level below (popFile frame files)

/-- The destructor of an iterator. -/
def destroy (s : Extraction) (level : Nat) : Extraction :=
  let (stack, localIncludedFiles) := destroyFrames level s.stack s.localIncludedFiles
  { s with stack, localIncludedFiles }

/-- ++(top.it) -/
def advance (s : Extraction) : Extraction :=
  match s.stack with
  | [] => s
  | frame :: below => { s with stack := { frame with it := frame.it.tail } :: below }

/-- The frame of the nodes that an iterator is made for. -/
def enter (s : Extraction) (it : List Tree) (parentReplacement : Replacement) : Extraction :=
  { s with stack := { it, parentReplacement, file := none } :: s.stack }

/-- The frame of an included file. -/
def enterFile (s : Extraction) (file : String) (it : List Tree)
    (parentReplacement : Replacement) : Extraction :=
  { s with
    stack := { it, parentReplacement, file := some file } :: s.stack
    localIncludedFiles := file :: s.localIncludedFiles }

end Extraction

/-- What extract_include_ does about an include once its replacement is there: the file that
is read, with its property tree, unless the include is left as it is. -/
def lookAtInclude (files : XmlFiles) (it : Tree) (localIncludedFiles : List String)
    (replacement : Replacement) (world : World) : World × Option (String × List Tree) :=
  match it.getOptional "path" with
  | none => (world.setError "`path` attribute is not found in <include>.", none)
  | some path =>
      let directory := (FilePath.dirname (localIncludedFiles.headD "")).value
      let xmlFilePath := (FilePath.makeFilePath directory path).value
      if xmlFilePath = "" then (world, none)
      else if (it.getOptional "once").isSome && world.globalIncludedFiles.contains xmlFilePath then
        (world, none)
      else
        let world := { world with
          globalIncludedFiles := world.globalIncludedFiles ++ [xmlFilePath] }
        if localIncludedFiles.contains xmlFilePath then
          (world.setError ("An infinite include loop is detected:\n" ++ xmlFilePath), none)
        else
          let reading := files.readXml xmlFilePath replacement
          let world := { world with
            errorInformation := reading.error.elim world.errorInformation world.errorInformation.set
            replacementWarnings := world.replacementWarnings ++ reading.warnings }
          (world, some (xmlFilePath, reading.document))

/-- The children of the root element. -/
def rootChildren : List Tree → List Tree
  | [] => []
  | root :: _ => root.children

section

variable (files : XmlFiles)
  (extract : Nat → Extraction → Option Extraction)
  (load : List Tree → Replacement → Replacement → Extraction →
    Option (Replacement × Extraction))

/-- The replacement of an include itself. -/
def ownReplacement (it : Tree) (parentReplacement : Replacement) (s : Extraction) :
    Option (Replacement × Extraction) :=
  if it.children.isEmpty then some ([], s) else load it.children parentReplacement [] s

/-- extract_include_, with the calls of itself and of the loader of replacements. -/
def extractIncludeWith (level : Nat) (s : Extraction) : Option Extraction :=
  if s.ended level then some s
  else
    match s.stack with
    | ⟨it :: _, parentReplacement, _⟩ :: _ =>
        if it.tag ≠ "include" then some s
        else do
          let (own, s) ← ownReplacement load it parentReplacement s
          let replacement := Replacement.inherit own parentReplacement
          let (world, opened) := lookAtInclude files it s.localIncludedFiles replacement s.world
          let s := { s with world }
          match opened with
          | none => some s
          | some (file, document) =>
              let s := s.advance
              if (rootChildren document).isEmpty then some (s.collapse level)
              else do
                let s ← extract level (s.enterFile file (rootChildren document) replacement)
                some (s.collapse level)
    | _ => some s

end

section

variable {α : Type} (watch : Extraction → Bool)
  (extract : Nat → Extraction → Option Extraction)

/-- set_node_. What is watched is asserted whenever a node is set. -/
def setNode (s : Extraction) : Option Extraction := if watch s then some s else none

/-- The constructor, for an iterator of this level. -/
def start (level : Nat) (children : List Tree) (replacement : Replacement) (s : Extraction) :
    Option Extraction :=
  if children.isEmpty then setNode watch s
  else do
    let s ← extract level (s.enter children replacement)
    setNode watch s

def increment (level : Nat) (s : Extraction) : Option Extraction := do
  let s ← extract level (s.advance.collapse level)
  setNode watch s

/-- A range-based for from the iterator on. The body says whether it leaves the loop. There is
nothing when the fuel or the assertion fails. -/
def loop (body : Tree → Replacement → α → Extraction → Option (α × Bool × Extraction))
    (level : Nat) : Nat → α → Extraction → Option (α × Extraction)
  | 0, _, _ => none
  | fuel + 1, a, s =>
      if s.ended level then some (a, s)
      else
        match s.stack with
        | ⟨tree :: _, parentReplacement, _⟩ :: _ => do
            let (a, left, s) ← body tree parentReplacement a s
            if left then some (a, s)
            else do
              let s ← increment watch extract level s
              loop body level fuel a s
        | _ => none

/-- A range-based for over an extracted_ptree. -/
def forEach
    (body : Tree → Replacement → α → Extraction → Option (α × Bool × Extraction))
    (fuel : Nat) (children : List Tree) (replacement : Replacement) (a : α) (s : Extraction) :
    Option (α × Extraction) := do
  let level := s.stack.length + 1
  let s ← start watch extract level children replacement s
  let (a, s) ← loop watch extract body level fuel a s
  some (a, s.destroy level)

end

/-- The end of replacement_loader::traverse, for the name and the value of a definition. -/
def addReplacement (found : Option String × Option String) (replacement : Replacement)
    (world : World) : Replacement × World :=
  match found with
  | (none, _) => (replacement, world.setError "No <replacementname> within <replacementdef>.")
  | (some name, value) =>
      if name = "" then
        (replacement, world.setError "Empty <replacementname> within <replacementdef>.")
      else
        let world :=
          if name.toList.any fun c => c = '\x7b' || c = '\x7d' then
            world.setError ("Do not use '\x7b\x7b' and '\x7d\x7d' within <replacementname>:\n\n" ++
              name)
          else world
        match value with
        | none =>
            (replacement, world.setError
              ("No <replacementvalue> within <replacementdef>:\n\n" ++ name))
        | some value => (replacement.emplace name value, world)

/-- A child of a replacementdef. -/
def readReplacement (tree : Tree) (_ : Replacement) (found : Option String × Option String)
    (s : Extraction) : Option ((Option String × Option String) × Bool × Extraction) :=
  if tree.tag = "replacementname" then some ((some tree.data, found.2), false, s)
  else if tree.tag = "replacementvalue" then some ((found.1, some tree.data), false, s)
  else some (found, false, s)

section

variable (watch : Extraction → Bool) (extract : Nat → Extraction → Option Extraction)
  (load : List Tree → Replacement → Replacement → Extraction →
    Option (Replacement × Extraction))

/-- The body of the loop of replacement_loader::traverse. -/
def loadNode (fuel : Nat) (tree : Tree) (parentReplacement replacement : Replacement)
    (s : Extraction) : Option (Replacement × Bool × Extraction) :=
  if tree.tag ≠ "replacementdef" then
    if tree.children.isEmpty then some (replacement, false, s)
    else do
      let (replacement, s) ← load tree.children parentReplacement replacement s
      some (replacement, false, s)
  else do
    let (found, s) ← forEach watch extract readReplacement fuel tree.children parentReplacement
      (none, none) s
    let (replacement, world) := addReplacement found replacement s.world
    some (replacement, false, { s with world })

end

mutual

def extractInclude (files : XmlFiles) (watch : Extraction → Bool) :
    Nat → Nat → Extraction → Option Extraction
  | 0, _, _ => none
  | fuel + 1, level, s =>
      extractIncludeWith files (extractInclude files watch fuel) (loadReplacement files watch fuel)
        level s

/-- replacement_loader::traverse -/
def loadReplacement (files : XmlFiles) (watch : Extraction → Bool) :
    Nat → List Tree → Replacement → Replacement → Extraction →
    Option (Replacement × Extraction)
  | 0, _, _, _, _ => none
  | fuel + 1, children, parentReplacement, replacement, s =>
      forEach watch (extractInclude files watch fuel)
        (loadNode watch (extractInclude files watch fuel) (loadReplacement files watch fuel) fuel)
        fuel children parentReplacement replacement s

end

end Karabiner
