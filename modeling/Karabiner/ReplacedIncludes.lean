import Karabiner.IncludeCleanup

set_option autoImplicit false

/- Which includes are to be replaced, and by which nodes, where a file that cannot be read leaves
its include alone. extract_include_ puts a caution in the place of such an include. -/
namespace Karabiner

open Filter

/-- The file that an include names, seen from the file that is being expanded. -/
def named (inside : List String) (node : Tree) : Option String :=
  (node.getOptional "path").map fun path =>
    (FilePath.makeFilePath (FilePath.dirname (inside.headD "")).value path).value

/-- The include asks for the file: it is not suppressed by its once attribute, and the file is none
of those that are being expanded. -/
structure Wanted (inside : List String) (node : Tree) (world : World) (file : String) : Prop where
  tag : node.tag = "include"
  path : named inside node = some file
  nonempty : file ≠ ""
  once : (node.getOptional "once").isSome → file ∉ world.globalIncludedFiles
  outside : file ∉ inside

/-- The file is included, and reading it is reported. -/
def World.reads (world : World) (file : String) (reading : Reading) : World where
  globalIncludedFiles := world.globalIncludedFiles ++ [file]
  errorInformation := reading.error.elim world.errorInformation world.errorInformation.set
  replacementWarnings := world.replacementWarnings ++ reading.warnings

/-- The include is left alone. That it has no path or makes a loop is reported. -/
def World.leave (world : World) (inside : List String) (node : Tree) : World :=
  match named inside node with
  | none => world.setError "`path` attribute is not found in <include>."
  | some file =>
      if file ∈ inside ∧ file ≠ "" ∧
          ((node.getOptional "once").isSome → file ∉ world.globalIncludedFiles) then
        { world with globalIncludedFiles := world.globalIncludedFiles ++ [file] }.setError
          ("An infinite include loop is detected:\n" ++ file)
      else world

/-- Either the include asks for a file, which is read, or it stays. -/
theorem lookAtInclude_cases (files : XmlFiles) {node : Tree} (tag : node.tag = "include")
    (inside : List String) (replacement : Replacement) (world : World) :
    (∃ file, Wanted inside node world file ∧
      lookAtInclude files node inside replacement world =
        (world.reads file (files.readXml file replacement),
          some (file, (files.readXml file replacement).document))) ∨
    ((∀ file, ¬Wanted inside node world file) ∧
      lookAtInclude files node inside replacement world = (world.leave inside node, none)) := by
  unfold lookAtInclude World.leave
  cases given : node.getOptional "path" with
  | none =>
      right
      have nothing : named inside node = none := by rw [named, given, Option.map_none]
      rw [nothing]
      refine ⟨fun file wanted => ?_, rfl⟩
      have clash := nothing.symm.trans wanted.path
      cases clash
  | some path =>
      have resolved : named inside node =
          some (FilePath.makeFilePath (FilePath.dirname (inside.headD "")).value path).value := by
        rw [named, given, Option.map_some]
      rw [resolved]
      dsimp only
      generalize (FilePath.makeFilePath (FilePath.dirname (inside.headD "")).value
        path).value = file
        at resolved
      have only {other : String} (wanted : Wanted inside node world other) : other = file :=
        Option.some.inj (wanted.path.symm.trans resolved)
      by_cases empty : file = ""
      · right
        rw [if_pos empty, if_neg fun loop => loop.2.1 empty]
        exact ⟨fun other wanted => wanted.nonempty ((only wanted).trans empty), rfl⟩
      · rw [if_neg empty]
        by_cases suppressed : ((node.getOptional "once").isSome &&
            world.globalIncludedFiles.contains file) = true
        · obtain ⟨once, again⟩ := Bool.and_eq_true_iff.1 suppressed
          have again : file ∈ world.globalIncludedFiles := by simpa using again
          right
          rw [if_pos suppressed, if_neg fun loop => loop.2.2 once again]
          exact ⟨fun other wanted => wanted.once once (only wanted ▸ again), rfl⟩
        · rw [if_neg suppressed]
          have first : (node.getOptional "once").isSome → file ∉ world.globalIncludedFiles := by
            intro once again
            exact suppressed (Bool.and_eq_true_iff.2 ⟨once, by simpa using again⟩)
          by_cases loop : file ∈ inside
          · right
            rw [if_pos (by simpa using loop), if_pos ⟨loop, empty, first⟩]
            exact ⟨fun other wanted => wanted.outside (only wanted ▸ loop), rfl⟩
          · left
            rw [if_neg (by simpa using loop)]
            exact ⟨file, ⟨tag, resolved, empty, first, loop⟩, rfl⟩

section

variable (files : XmlFiles) (watch : Extraction → Bool) (root : String)

/-- What textual inclusion makes of a node: the children of the root element of a file, with the
file and its replacement, or nothing where the node stays. The definitions below an include are
read first. -/
inductive Expands (inside : List String) (parentReplacement : Replacement) (node : Tree) :
    World → World → Option (String × List Tree × Replacement) → Prop
  | other {world : World} (tag : node.tag ≠ "include") :
      Expands inside parentReplacement node world world none
  | stays {before loaded : World} {own : Replacement} (tag : node.tag = "include")
      (loads : Loads files watch root inside node.children parentReplacement ([], before)
        (own, loaded))
      (unreadable : ∀ file, Wanted inside node loaded file → files.lookup file = none) :
      Expands inside parentReplacement node before (loaded.leave inside node) none
  | replaced {before loaded : World} {own : Replacement} {file : String}
      {read : Replacement → Reading}
      (loads : Loads files watch root inside node.children parentReplacement ([], before)
        (own, loaded))
      (wanted : Wanted inside node loaded file) (readable : files.lookup file = some read) :
      Expands inside parentReplacement node before
        (loaded.reads file (read (Replacement.inherit own parentReplacement)))
        (some (file, rootChildren (read (Replacement.inherit own parentReplacement)).document,
          Replacement.inherit own parentReplacement))

/-- A file that the node asks for can be read. -/
def Readable (inside : List String) (parentReplacement : Replacement) (node : Tree)
    (world : World) : Prop :=
  ∀ own loaded, Loads files watch root inside node.children parentReplacement ([], world)
    (own, loaded) → ∀ file, Wanted inside node loaded file → (files.lookup file).isSome

end

theorem Returns.unique {β : Type} {run : Nat → Option β} {b c : β} (first : Returns run b)
    (second : Returns run c) : b = c := by
  obtain ⟨fuel, one, two⟩ := (first.and second).exists
  exact Option.some.inj (one.symm.trans two)

section

variable {files : XmlFiles} {watch : Extraction → Bool} {root : String} {inside : List String}
  {stack : List Frame} {parentReplacement : Replacement} {node : Tree}

theorem Loads.unique {children : List Tree} {before first second : Replacement × World}
    (sound : Sound root stack inside)
    (one : Loads files watch root inside children parentReplacement before first)
    (two : Loads files watch root inside children parentReplacement before second) :
    first = second := by
  have same := (one stack sound).unique (two stack sound)
  obtain ⟨own, rest⟩ := Prod.mk.inj same
  exact Prod.ext own (Extraction.mk.inj rest).2.2

theorem Wanted.unique {world : World} {file other : String} (one : Wanted inside node world file)
    (two : Wanted inside node world other) : file = other :=
  Option.some.inj (one.path.symm.trans two.path)

theorem XmlFiles.readXml_of_lookup {file : String} {read : Replacement → Reading}
    (there : files.lookup file = some read) (replacement : Replacement) :
    files.readXml file replacement = read replacement := by
  rw [XmlFiles.readXml, there]

/-- Where the file can be read, extract_include_ does to a node what textual inclusion does. -/
theorem Expands.examined {world after : World}
    {opened : Option (String × List Tree × Replacement)}
    (expands : Expands files watch root inside parentReplacement node world after opened)
    (readable : opened = none → Readable files watch root inside parentReplacement node world) :
    Examined files watch root inside parentReplacement node world after opened := by
  cases expands with
  | other tag => exact .other tag
  | stays tag loads unreadable =>
      rename_i loaded own
      rcases lookAtInclude_cases files tag inside (Replacement.inherit own parentReplacement) loaded
        with ⟨file, wanted, -⟩ | ⟨-, look⟩
      · have there := readable rfl own loaded loads file wanted
        rw [unreadable file wanted] at there
        cases there
      · exact .included tag loads look
  | replaced loads wanted there =>
      rename_i loaded own file read
      rcases lookAtInclude_cases files wanted.tag inside
          (Replacement.inherit own parentReplacement) loaded
        with ⟨other, wanted', look⟩ | ⟨nothing, -⟩
      · obtain rfl := wanted.unique wanted'
        rw [XmlFiles.readXml_of_lookup there] at look
        exact .included wanted.tag loads look
      · exact absurd wanted (nothing file)

theorem Examined.expands {world after : World}
    {opened : Option (String × List Tree × Replacement)}
    (look : Examined files watch root inside parentReplacement node world after opened)
    (readable : Readable files watch root inside parentReplacement node world) :
    Expands files watch root inside parentReplacement node world after opened := by
  cases look with
  | other tag => exact .other tag
  | included tag loads look =>
      rename_i loaded own opened
      rcases lookAtInclude_cases files tag inside (Replacement.inherit own parentReplacement) loaded
        with ⟨file, wanted, look'⟩ | ⟨nothing, look'⟩
      · obtain ⟨rfl, rfl⟩ := Prod.mk.inj (look.symm.trans look')
        obtain ⟨read, there⟩ :=
          Option.isSome_iff_exists.1 (readable own loaded loads file wanted)
        rw [XmlFiles.readXml_of_lookup there]
        exact .replaced loads wanted there
      · obtain ⟨rfl, rfl⟩ := Prod.mk.inj (look.symm.trans look')
        exact .stays tag loads fun file wanted => absurd wanted (nothing file)

/-- A file that cannot be read gives a caution, where textual inclusion leaves the node alone. -/
theorem Examined.caution (sound : Sound root stack inside) {world after : World}
    {opened : Option (String × List Tree × Replacement)}
    (look : Examined files watch root inside parentReplacement node world after opened)
    (missing : ¬Readable files watch root inside parentReplacement node world) :
    node.tag = "include" ∧
      (∃ file replacement, opened = some (file, (caution file).children, replacement)) ∧
      ∀ after' opened', Expands files watch root inside parentReplacement node world after'
        opened' → opened' = none := by
  unfold Readable at missing
  push Not at missing
  obtain ⟨own, loaded, loads, file, wanted, absent⟩ := missing
  have lost : files.lookup file = none := Option.not_isSome_iff_eq_none.1 absent
  refine ⟨wanted.tag, ?_, ?_⟩
  · cases look with
    | other tag => exact absurd wanted.tag tag
    | included tag loads' look =>
        obtain ⟨rfl, rfl⟩ := Prod.mk.inj (loads.unique sound loads')
        rcases lookAtInclude_cases files tag inside (Replacement.inherit own parentReplacement)
          loaded with ⟨other, wanted', look'⟩ | ⟨nothing, -⟩
        · obtain rfl := wanted.unique wanted'
          obtain ⟨rfl, rfl⟩ := Prod.mk.inj (look.symm.trans look')
          rw [XmlFiles.readXml, lost]
          exact ⟨file, _, rfl⟩
        · exact absurd wanted (nothing file)
  · intro after' opened' expands
    cases expands with
    | other tag => rfl
    | stays tag loads' unreadable => rfl
    | replaced loads' wanted' there =>
        obtain ⟨rfl, rfl⟩ := Prod.mk.inj (loads.unique sound loads')
        obtain rfl := wanted.unique wanted'
        rw [lost] at there
        cases there

theorem Expands.unique (sound : Sound root stack inside) {world first second : World}
    {opened opened' : Option (String × List Tree × Replacement)}
    (one : Expands files watch root inside parentReplacement node world first opened)
    (two : Expands files watch root inside parentReplacement node world second opened') :
    first = second ∧ opened = opened' := by
  cases one with
  | other tag =>
      cases two with
      | other tag' => exact ⟨rfl, rfl⟩
      | stays tag' => exact absurd tag' tag
      | replaced loads wanted => exact absurd wanted.tag tag
  | stays tag loads unreadable =>
      cases two with
      | other tag' => exact absurd tag tag'
      | stays tag' loads' unreadable' =>
          obtain ⟨rfl, rfl⟩ := Prod.mk.inj (loads.unique sound loads')
          exact ⟨rfl, rfl⟩
      | replaced loads' wanted there =>
          obtain ⟨rfl, rfl⟩ := Prod.mk.inj (loads.unique sound loads')
          rw [unreadable _ wanted] at there
          cases there
  | replaced loads wanted there =>
      cases two with
      | other tag' => exact absurd wanted.tag tag'
      | stays tag' loads' unreadable =>
          obtain ⟨rfl, rfl⟩ := Prod.mk.inj (loads.unique sound loads')
          rw [unreadable _ wanted] at there
          cases there
      | replaced loads' wanted' there' =>
          obtain ⟨rfl, rfl⟩ := Prod.mk.inj (loads.unique sound loads')
          obtain rfl := wanted.unique wanted'
          obtain rfl := Option.some.inj (there.symm.trans there')
          exact ⟨rfl, rfl⟩

theorem Expands.fresh {world after : World} {file : String} {children : List Tree}
    {replacement : Replacement}
    (expands : Expands files watch root inside parentReplacement node world after
      (some (file, children, replacement))) : file ∉ inside := by
  cases expands with
  | replaced loads wanted there => exact wanted.outside

end

/-- The name or the value that a child of a replacementdef gives. -/
def readChild (found : Option String × Option String) (node : Tree) :
    Option String × Option String :=
  if node.tag = "replacementname" then (some node.data, found.2)
  else if node.tag = "replacementvalue" then (found.1, some node.data)
  else found

mutual

/-- What definitions without includes among them mean. -/
def defined : List Tree → Replacement × World → Replacement × World
  | [], x => x
  | node :: rest, x => defined rest (definedBy node x)

def definedBy : Tree → Replacement × World → Replacement × World
  | .node tag _ children, x =>
      if tag = "replacementdef" then
        addReplacement (children.foldl readChild (none, none)) x.1 x.2
      else defined children x

end

theorem defined_eq_foldl (nodes : List Tree) (x : Replacement × World) :
    defined nodes x = nodes.foldl (fun x node => definedBy node x) x := by
  induction nodes generalizing x with
  | nil => rfl
  | cons node rest ih => exact ih (definedBy node x)

theorem definedBy_eq (node : Tree) (x : Replacement × World) :
    definedBy node x =
      if node.tag = "replacementdef" then
        addReplacement (node.children.foldl readChild (none, none)) x.1 x.2
      else defined node.children x := by
  obtain ⟨tag, data, children⟩ := node
  rfl

theorem addReplacement_globalIncludedFiles (found : Option String × Option String)
    (replacement : Replacement) (world : World) :
    (addReplacement found replacement world).2.globalIncludedFiles = world.globalIncludedFiles := by
  have flagged (condition : Bool) (message : String) :
      (if condition = true then world.setError message else world).globalIncludedFiles =
        world.globalIncludedFiles := by
    split <;> rfl
  obtain ⟨name, value⟩ := found
  cases name with
  | none => rfl
  | some name =>
      rw [addReplacement]
      by_cases empty : name = ""
      · rw [if_pos empty]
        rfl
      · rw [if_neg empty]
        cases value with
        | none => exact flagged _ _
        | some value => exact flagged _ _

/-- Definitions include no file. -/
theorem defined_globalIncludedFiles (nodes : List Tree) (x : Replacement × World) :
    (defined nodes x).2.globalIncludedFiles = x.2.globalIncludedFiles := by
  refine defined.induct
    (fun nodes x => (defined nodes x).2.globalIncludedFiles = x.2.globalIncludedFiles)
    (fun node x => (definedBy node x).2.globalIncludedFiles = x.2.globalIncludedFiles)
    ?_ ?_ (fun x => rfl) (fun node rest x ih ih' => ih'.trans ih) nodes x
  · intro data children x
    exact addReplacement_globalIncludedFiles _ _ _
  · intro tag data children x other ih
    have passed : definedBy (.node tag data children) x = defined children x := if_neg other
    rw [passed]
    exact ih

theorem plain_cons {node : Tree} {rest : List Tree} (plain : includes (node :: rest) = false) :
    node.tag ≠ "include" ∧ includes node.children = false ∧ includes rest = false := by
  obtain ⟨tag, data, children⟩ := node
  rw [includes, includesNode, Bool.or_eq_false_iff, Bool.or_eq_false_iff,
    decide_eq_false_iff_not] at plain
  exact ⟨plain.1.1, plain.1.2, plain.2⟩

section

variable {files : XmlFiles} {watch : Extraction → Bool} {root : String} {inside : List String}
  {parentReplacement : Replacement}

/-- Nodes that are no includes are visited one after the other. -/
theorem plain_course {α : Type}
    {body : Nat → Tree → Replacement → α → Extraction →
      Option (α × Bool × Extraction)}
    {next : α × World → Tree → α × World} {nodes : List Tree}
    (plain : ∀ node ∈ nodes, node.tag ≠ "include")
    (does : ∀ node ∈ nodes, ∀ x, Does root body inside parentReplacement node x false
      (next x node))
    (looks : Bool) (x : α × World) :
    ∃ looks', Course files watch root body looks inside parentReplacement nodes x
      (.through looks')
      (nodes.foldl next x) := by
  induction nodes generalizing looks x with
  | nil => exact ⟨looks, .nil looks inside parentReplacement x⟩
  | cons node rest ih =>
      obtain ⟨other, plain'⟩ := List.forall_mem_cons.1 plain
      obtain ⟨own, does'⟩ := List.forall_mem_cons.1 does
      obtain ⟨looks', course⟩ := ih plain' does' true (next x node)
      have stays : Stays files watch root looks inside parentReplacement node x.2 x.2 := by
        cases looks with
        | true => exact Examined.other other
        | false => exact rfl
      exact ⟨looks', .visit stays (own x) course⟩

theorem readReplacement_does (node : Tree) (x : (Option String × Option String) × World) :
    Does root (fun _ => readReplacement) inside parentReplacement node x false
      (readChild x.1 node, x.2) := by
  intro stack sound
  apply Eventually.of_forall
  intro fuel
  dsimp only
  rw [readReplacement, readChild]
  split
  · rfl
  · split
    · rfl
    · rfl

theorem plain_mem {nodes : List Tree} (plain : includes nodes = false) :
    ∀ node ∈ nodes, node.tag ≠ "include" ∧ includes node.children = false := by
  induction nodes with
  | nil => exact fun _ none => absurd none List.not_mem_nil
  | cons node rest ih =>
      obtain ⟨tag, below, plain'⟩ := plain_cons plain
      exact List.forall_mem_cons.2 ⟨⟨tag, below⟩, ih plain'⟩

/-- Where no include is among the definitions, the loader takes what they say, and no file is
included. -/
theorem loads_plain (watched : ∀ s : Extraction, Sound root s.stack s.localIncludedFiles →
      watch s = true) {nodes : List Tree} (plain : includes nodes = false)
    (x : Replacement × World) :
    Loads files watch root inside nodes parentReplacement x (defined nodes x) := by
  generalize size : sizeOf nodes = n
  induction n using Nat.strongRecOn generalizing nodes x with
  | ind n ih =>
      have does : ∀ node ∈ nodes, ∀ x, Does root (fun fuel => loadNode watch
          (extractInclude files watch fuel) (loadReplacement files watch fuel) fuel) inside
          parentReplacement node x false (definedBy node x) := by
        intro node member x stack sound
        obtain ⟨-, below⟩ := plain_mem plain node member
        have smaller : sizeOf node.children < n := by
          have inside := List.sizeOf_lt_of_mem member
          obtain ⟨tag, data, children⟩ := node
          rw [Tree.node.sizeOf_spec] at inside
          show sizeOf children < n
          omega
        rw [definedBy_eq]
        by_cases tag : node.tag = "replacementdef"
        · obtain ⟨looks, course⟩ := @plain_course files watch root inside parentReplacement _
            (fun _ => readReplacement) (fun x node => (readChild x.1 node, x.2)) node.children
            (fun child member => (plain_mem below child member).1)
            (fun child _ x => readReplacement_does child x) true ((none, none), x.2)
          have pairs (children : List Tree) (found : Option String × Option String) :
              children.foldl (fun x node => (readChild x.1 node, x.2)) (found, x.2) =
                (children.foldl readChild found, x.2) := by
            induction children generalizing found with
            | nil => rfl
            | cons child children ih => exact ih _
          rw [pairs] at course
          filter_upwards [course.forEach_returns watched sound] with fuel run
          rw [loadNode, if_neg (not_not.2 tag), run, if_pos tag]
          rfl
        · by_cases empty : node.children = []
          · apply Eventually.of_forall
            intro fuel
            dsimp only
            rw [loadNode, if_pos tag, empty, if_pos List.isEmpty_nil, if_neg tag]
            rfl
          · filter_upwards [ih _ smaller below x rfl stack sound] with fuel run
            rw [loadNode, if_pos tag, if_neg fun none => empty (List.isEmpty_iff.1 none), run,
              if_neg tag]
            rfl
      obtain ⟨looks, course⟩ := @plain_course files watch root inside parentReplacement _ _
        (fun x node => definedBy node x) nodes (fun node member => (plain_mem plain node member).1)
        does true x
      rw [← defined_eq_foldl] at course
      intro stack sound
      apply Returns.of_succ
      exact course.forEach_returns watched sound

/-- An include that asks for a readable file, with no include among its definitions. -/
theorem expands_plain (watched : ∀ s : Extraction, Sound root s.stack s.localIncludedFiles →
      watch s = true) {node : Tree} (plain : includes node.children = false) {world : World}
    {file : String} {read : Replacement → Reading} (wanted : Wanted inside node world file)
    (readable : files.lookup file = some read) :
    let (own, loaded) := defined node.children ([], world)
    let replacement := Replacement.inherit own parentReplacement
    Expands files watch root inside parentReplacement node world
      (loaded.reads file (read replacement))
      (some (file, rootChildren (read replacement).document, replacement)) := by
  have same := defined_globalIncludedFiles node.children ([], world)
  have loads := @loads_plain files watch root inside parentReplacement watched _ plain ([], world)
  generalize defined node.children ([], world) = x at same loads
  obtain ⟨own, loaded⟩ := x
  have wanted' : Wanted inside node loaded file :=
    ⟨wanted.tag, wanted.path, wanted.nonempty, fun once => same ▸ wanted.once once,
      wanted.outside⟩
  exact .replaced loads wanted' readable

end

end Karabiner
