import Karabiner.IncludeCourse

set_option autoImplicit false

/- Every traversal ends, whatever files include each other, and leaves the stack and the
included files as they were. -/
namespace Karabiner

open Filter

section

variable (files : XmlFiles) (watch : Extraction → Bool) (root : String) {α : Type}
  (body : Nat → Tree → Replacement → α → Extraction → Option (α × Bool × Extraction))

/-- There is a course over these nodes. -/
def Ends (inside : List String) (nodes : List Tree) : Prop :=
  ∀ (looks : Bool) (parentReplacement : Replacement) (x : α × World), ∃ ending y,
    Course files watch root body looks inside parentReplacement nodes x ending y

end

mutual

/-- There is an include among the nodes or below them. -/
def includes : List Tree → Bool
  | [] => false
  | node :: rest => includesNode node || includes rest

def includesNode : Tree → Bool
  | .node tag _ children => tag = "include" || includes children

end

/-- The files that can still be entered. -/
def fresh (files : XmlFiles) (inside : List String) : Nat :=
  (files.filter fun file => file.1 ∉ inside).length

/-- A bound on how deep the includes among the nodes nest. -/
def pending (files : XmlFiles) (inside : List String) (nodes : List Tree) : Nat :=
  if includes nodes then fresh files inside + 1 else 0

section

variable {files : XmlFiles} {inside : List String}

theorem pending_mono {nodes nodes' : List Tree}
    (within : includes nodes = true → includes nodes' = true) :
    pending files inside nodes ≤ pending files inside nodes' := by
  unfold pending
  by_cases some' : includes nodes = true
  · rw [if_pos some', if_pos (within some')]
  · rw [if_neg some']
    exact Nat.zero_le _

theorem pending_rest (node : Tree) (rest : List Tree) :
    pending files inside rest ≤ pending files inside (node :: rest) := by
  apply pending_mono
  intro later
  rw [includes, later, Bool.or_true]

theorem pending_children (node : Tree) (rest : List Tree) :
    pending files inside node.children ≤ pending files inside (node :: rest) := by
  obtain ⟨tag, data, children⟩ := node
  apply pending_mono
  intro below
  have own : includes children = true := below
  rw [includes, includesNode, own, Bool.or_true, Bool.true_or]

theorem fresh_lt {file : String} {read : Replacement → Reading} (there : (file, read) ∈ files)
    (outside : file ∉ inside) : fresh files (file :: inside) < fresh files inside := by
  unfold fresh
  induction files with
  | nil => cases there
  | cons first rest ih =>
      have fewer : (rest.filter fun other => other.1 ∉ file :: inside).length ≤
          (rest.filter fun other => other.1 ∉ inside).length := by
        apply List.Sublist.length_le
        apply List.monotone_filter_right
        intro other
        simp only [List.mem_cons, not_or, decide_eq_true_eq, and_imp]
        exact fun _ elsewhere => elsewhere
      rw [List.filter_cons, List.filter_cons]
      rcases List.mem_cons.1 there with rfl | later
      · simp only [List.mem_cons, true_or, not_true, decide_false, Bool.false_eq_true, if_false,
          outside, not_false_iff, decide_true, if_true, List.length_cons]
        simp only [List.mem_cons] at fewer
        omega
      · have strict := ih later
        by_cases own : first.1 ∉ file :: inside
        · have own' : first.1 ∉ inside := fun member => own (List.mem_cons_of_mem _ member)
          rw [if_pos (decide_eq_true own), if_pos (decide_eq_true own'), List.length_cons,
            List.length_cons]
          omega
        · rw [if_neg (by simpa using own)]
          split
          · rw [List.length_cons]
            omega
          · exact strict

theorem mem_of_lookup_eq {file : String} {read : Replacement → Reading}
    (found : files.lookup file = some read) : (file, read) ∈ files := by
  induction files with
  | nil => cases found
  | cons first rest ih =>
      rw [List.lookup_cons] at found
      cases same : file == first.1 with
      | true =>
          rw [same] at found
          have name := beq_iff_eq.1 same
          have content := Option.some.inj found
          rw [name, ← content]
          exact List.mem_cons_self
      | false =>
          rw [same] at found
          exact List.mem_cons_of_mem _ (ih found)

/-- A file that is included leaves less to include, whatever it holds. -/
theorem pending_included {node : Tree} {rest : List Tree} (tag : node.tag = "include")
    {file : String} (outside : file ∉ inside) (replacement : Replacement) :
    pending files (file :: inside) (rootChildren (files.readXml file replacement).document) <
      pending files inside (node :: rest) := by
  have there : includes (node :: rest) = true := by
    obtain ⟨name, data, children⟩ := node
    have own : name = "include" := tag
    rw [includes, includesNode, own]
    simp
  have whole : pending files inside (node :: rest) = fresh files inside + 1 := if_pos there
  rw [whole, XmlFiles.readXml]
  cases found : files.lookup file with
  | none =>
      have nothing : includes (rootChildren [caution file]) = false := by
        simp [rootChildren, caution, Tree.children, includes, includesNode]
      show pending files (file :: inside) (rootChildren [caution file]) < _
      rw [pending, nothing, if_neg Bool.false_ne_true]
      omega
  | some read =>
      have fewer := fresh_lt (mem_of_lookup_eq found) outside
      have bounded : pending files (file :: inside) (rootChildren (read replacement).document) ≤
          fresh files (file :: inside) + 1 := by
        unfold pending
        split <;> omega
      dsimp only
      omega

/-- Induction over the nodes, what is below them and the files that they can include. -/
theorem include_induction (Q : List String → List Tree → Prop) (files : XmlFiles)
    (nil : ∀ inside, Q inside [])
    (cons : ∀ inside node rest, Q inside node.children → Q inside rest →
      (node.tag = "include" → ∀ file, file ∉ inside → ∀ replacement,
        Q (file :: inside) (rootChildren (files.readXml file replacement).document)) →
      Q inside (node :: rest)) : ∀ inside nodes, Q inside nodes := by
  intro inside nodes
  generalize bound : pending files inside nodes = n
  induction n using Nat.strongRecOn generalizing inside nodes with
  | ind n outer =>
      generalize size : sizeOf nodes = m
      induction m using Nat.strongRecOn generalizing nodes with
      | ind m inner =>
          have smaller (other : List Tree) (less : sizeOf other < m)
              (bounded : pending files inside other ≤ n) : Q inside other := by
            rcases Nat.lt_or_eq_of_le bounded with fewer | same
            · exact outer _ fewer inside other rfl
            · exact inner _ less other same rfl
          cases nodes with
          | nil => exact nil inside
          | cons node rest =>
              rw [List.cons.sizeOf_spec] at size
              apply cons
              · apply smaller _ _ (bound ▸ pending_children node rest)
                obtain ⟨tag, data, children⟩ := node
                rw [Tree.node.sizeOf_spec] at size
                show sizeOf children < m
                omega
              · apply smaller _ _ (bound ▸ pending_rest node rest)
                omega
              · intro tag file outside replacement
                exact outer _ (bound ▸ pending_included tag outside replacement) _ _ rfl

end

section

variable {files : XmlFiles} {watch : Extraction → Bool} {root : String} {α : Type}
  {body : Nat → Tree → Replacement → α → Extraction → Option (α × Bool × Extraction)}
  {inside : List String}

theorem ends_cons {node : Tree} {rest : List Tree}
    (loads : ∀ parentReplacement world, ∃ after,
      Loads files watch root inside node.children parentReplacement ([], world) after)
    (does : ∀ parentReplacement x, ∃ left y, Does root body inside parentReplacement
      node x left y)
    (later : Ends files watch root body inside rest)
    (deeper : node.tag = "include" → ∀ file, file ∉ inside → ∀ replacement,
      Ends files watch root body (file :: inside)
        (rootChildren (files.readXml file replacement).document)) :
    Ends files watch root body inside (node :: rest) := by
  rintro looks parentReplacement ⟨a, world⟩
  have passes {examined : World}
      (stays : Stays files watch root looks inside parentReplacement node world examined) :
      ∃ ending y, Course files watch root body looks inside parentReplacement (node :: rest)
        (a, world) ending y := by
    obtain ⟨left, y, own⟩ := does parentReplacement (a, examined)
    cases left with
    | true => exact ⟨_, _, .leave stays own⟩
    | false =>
        obtain ⟨ending, z, course⟩ := later true parentReplacement y
        exact ⟨_, _, .visit stays own course⟩
  cases looks with
  | false => exact passes (show Stays files watch root false _ _ _ _ world from rfl)
  | true =>
      by_cases tag : node.tag = "include"
      · obtain ⟨⟨own, loaded⟩, loads⟩ := loads parentReplacement world
        generalize looked : lookAtInclude files node inside
          (Replacement.inherit own parentReplacement) loaded = result
        obtain ⟨examined, opened⟩ := result
        have look := Examined.included tag loads looked
        cases opened with
        | none => exact passes look
        | some pair =>
            obtain ⟨file, document⟩ := pair
            obtain ⟨outside, content⟩ := lookAtInclude_fresh looked
            by_cases empty : rootChildren document = []
            · obtain ⟨ending, z, course⟩ := later false parentReplacement (a, examined)
              rw [Option.map_some, empty] at look
              exact ⟨_, _, .empty look course⟩
            · have inner := deeper tag file outside (Replacement.inherit own parentReplacement)
              rw [← content] at inner
              obtain ⟨ending, y, course⟩ := inner true
                (Replacement.inherit own parentReplacement) (a, examined)
              cases ending with
              | left => exact ⟨_, _, .fileLeft look empty course⟩
              | through looks =>
                  obtain ⟨ending, z, behind⟩ := later looks parentReplacement y
                  exact ⟨_, _, .file look empty course behind⟩
      · exact passes (Examined.other tag)

theorem ends_nil (inside : List String) : Ends files watch root body inside [] :=
  fun looks parentReplacement x => ⟨_, _, .nil looks inside parentReplacement x⟩

variable (watched : ∀ s : Extraction, Sound root s.stack s.localIncludedFiles → watch s = true)

include watched

theorem loads_of_ends {children : List Tree}
    (ends : Ends files watch root (fun fuel => loadNode watch (extractInclude files watch fuel)
      (loadReplacement files watch fuel) fuel) inside children)
    (parentReplacement : Replacement) (before : Replacement × World) :
    ∃ after, Loads files watch root inside children parentReplacement before after := by
  obtain ⟨ending, y, course⟩ := ends true parentReplacement before
  refine ⟨y, ?_⟩
  intro stack sound
  apply Returns.of_succ
  exact course.forEach_returns watched sound

theorem loader_does {node : Tree}
    (ends : Ends files watch root (fun fuel => loadNode watch (extractInclude files watch fuel)
      (loadReplacement files watch fuel) fuel) inside node.children)
    (reads : Ends files watch root (fun _ => readReplacement) inside node.children)
    (parentReplacement : Replacement) (x : Replacement × World) :
    ∃ left y, Does root (fun fuel => loadNode watch (extractInclude files watch fuel)
      (loadReplacement files watch fuel) fuel) inside parentReplacement node x left y := by
  by_cases tag : node.tag ≠ "replacementdef"
  · by_cases empty : node.children.isEmpty = true
    · refine ⟨false, x, ?_⟩
      intro stack sound
      apply Eventually.of_forall
      intro fuel
      dsimp only
      rw [loadNode, if_pos tag, if_pos empty]
    · obtain ⟨after, loads⟩ := loads_of_ends watched ends parentReplacement x
      refine ⟨false, after, ?_⟩
      intro stack sound
      filter_upwards [loads stack sound] with fuel run
      rw [loadNode, if_pos tag, if_neg empty, run]
      rfl
  · obtain ⟨ending, y, course⟩ := reads true parentReplacement ((none, none), x.2)
    refine ⟨false, addReplacement y.1 x.1 y.2, ?_⟩
    intro stack sound
    filter_upwards [course.forEach_returns watched sound] with fuel run
    rw [loadNode, if_neg tag, run]
    rfl

omit watched in
theorem reader_does (node : Tree) (parentReplacement : Replacement)
    (x : (Option String × Option String) × World) :
    ∃ left y, Does root (fun _ => readReplacement) inside parentReplacement node x left y := by
  by_cases name : node.tag = "replacementname"
  · refine ⟨false, ((some node.data, x.1.2), x.2), ?_⟩
    intro stack sound
    apply Eventually.of_forall
    intro fuel
    dsimp only
    rw [readReplacement, if_pos name]
  · by_cases value : node.tag = "replacementvalue"
    · refine ⟨false, ((x.1.1, some node.data), x.2), ?_⟩
      intro stack sound
      apply Eventually.of_forall
      intro fuel
      dsimp only
      rw [readReplacement, if_neg name, if_pos value]
    · refine ⟨false, x, ?_⟩
      intro stack sound
      apply Eventually.of_forall
      intro fuel
      dsimp only
      rw [readReplacement, if_neg name, if_neg value]

theorem loaders_end (inside : List String) (nodes : List Tree) :
    Ends files watch root (fun fuel => loadNode watch (extractInclude files watch fuel)
      (loadReplacement files watch fuel) fuel) inside nodes ∧
    Ends files watch root (fun _ => readReplacement) inside nodes := by
  revert inside nodes
  apply include_induction (fun inside nodes =>
    Ends files watch root (fun fuel => loadNode watch (extractInclude files watch fuel)
      (loadReplacement files watch fuel) fuel) inside nodes ∧
    Ends files watch root (fun _ => readReplacement) inside nodes) files
  · exact fun inside => ⟨ends_nil inside, ends_nil inside⟩
  · rintro inside node rest ⟨loaded, read⟩ ⟨loaded', read'⟩ deeper
    have loads (parentReplacement : Replacement) (world : World) :=
      loads_of_ends watched loaded parentReplacement ([], world)
    constructor
    · apply ends_cons loads (loader_does watched loaded read) loaded'
      exact fun tag file outside replacement => (deeper tag file outside replacement).1
    · apply ends_cons loads (fun _ _ => reader_does _ _ _) read'
      exact fun tag file outside replacement => (deeper tag file outside replacement).2

/-- The loader of replacements comes to an end. -/
theorem loads_total (inside : List String) (children : List Tree)
    (parentReplacement : Replacement) (before : Replacement × World) :
    ∃ after, Loads files watch root inside children parentReplacement before after :=
  loads_of_ends watched (loaders_end watched inside children).1 parentReplacement before

end

/-- What a traversal does at a node. -/
inductive Inner where
  /-- It goes over the children of the node. -/
  | children
  /-- It goes over the nodes of the loop that it is in once more. -/
  | again
  deriving DecidableEq, Repr

structure Answer where
  inner : List Inner
  /-- The loop is left at the node. -/
  left : Bool
  deriving DecidableEq, Repr

/-- The body of a loop: what the oracle says about the nodes visited so far. -/
def answerNode (oracle : List Tree → Answer)
    (below : List Tree → Replacement → List Tree → Extraction →
      Option (List Tree × Extraction))
    (again : List Tree → Extraction → Option (List Tree × Extraction)) (node : Tree)
    (parentReplacement : Replacement) (visited : List Tree) (s : Extraction) :
    Option (List Tree × Bool × Extraction) := do
  let answer := oracle (visited ++ [node])
  let (visited, s) ← answer.inner.foldlM (fun (visited, s) inner =>
    match inner with
    | .children => below node.children parentReplacement visited s
    | .again => again visited s) (visited ++ [node], s)
  some (visited, answer.left, s)

/-- A traversal whose loops do at each node what the oracle says. Loops over the nodes of a loop
are in each other at most as often as the depth says. -/
def traverse (files : XmlFiles) (watch : Extraction → Bool) (oracle : List Tree → Answer) :
    (depth fuel : Nat) → List Tree → Replacement → List Tree → Extraction →
    Option (List Tree × Extraction)
  | _, 0, _, _, _, _ => none
  | depth, fuel + 1, children, replacement, visited, s =>
      let again : List Tree → Extraction → Option (List Tree × Extraction) :=
        match depth with
        | 0 => fun visited s => some (visited, s)
        | depth + 1 => traverse files watch oracle depth fuel children replacement
      forEach watch (extractInclude files watch fuel)
        (answerNode oracle (traverse files watch oracle depth fuel) again) fuel children
        replacement visited s

/-- What a loop does when it goes over its own nodes. -/
def onceMore (files : XmlFiles) (watch : Extraction → Bool) (oracle : List Tree → Answer)
    (depth fuel : Nat) (children : List Tree) (replacement : Replacement) :
    List Tree → Extraction → Option (List Tree × Extraction) :=
  match depth with
  | 0 => fun visited s => some (visited, s)
  | depth + 1 => traverse files watch oracle depth fuel children replacement

section

variable {files : XmlFiles} {watch : Extraction → Bool} {root : String}
  {oracle : List Tree → Answer} {inside : List String}

/-- The run always comes back to where it has begun. -/
def ComesBack (root : String) (inside : List String)
    (run : Nat → List Tree → Extraction → Option (List Tree × Extraction)) : Prop :=
  ∀ before : List Tree × World, ∃ after : List Tree × World, ∀ stack,
    Sound root stack inside →
    Returns (fun fuel => run fuel before.1 ⟨stack, inside, before.2⟩)
      (after.1, ⟨stack, inside, after.2⟩)

theorem answerNode_does {node : Tree} {parentReplacement : Replacement}
    {below : Nat → List Tree → Replacement → List Tree → Extraction →
      Option (List Tree × Extraction)}
    {again : Nat → List Tree → Extraction → Option (List Tree × Extraction)}
    (own : ComesBack root inside fun fuel => below fuel node.children parentReplacement)
    (anew : ComesBack root inside again) (x : List Tree × World) :
    ∃ left y, Does root (fun fuel => answerNode oracle (below fuel) (again fuel)) inside
      parentReplacement node x left y := by
  have requests (inner : List Inner) : ComesBack root inside fun fuel visited s =>
      inner.foldlM (fun (visited, s) inner =>
        match inner with
        | .children => below fuel node.children parentReplacement visited s
        | .again => again fuel visited s) (visited, s) := by
    induction inner with
    | nil => exact fun before => ⟨before, fun stack _ => Eventually.of_forall fun _ => rfl⟩
    | cons first inner ih =>
        intro before
        have one : ComesBack root inside fun fuel visited s =>
            match first with
            | .children => below fuel node.children parentReplacement visited s
            | .again => again fuel visited s := by
          cases first with
          | children => exact own
          | again => exact anew
        obtain ⟨middle, first_returns⟩ := one before
        obtain ⟨after, rest_returns⟩ := ih middle
        refine ⟨after, ?_⟩
        intro stack sound
        filter_upwards [first_returns stack sound, rest_returns stack sound]
          with fuel first_eq rest_eq
        rw [List.foldlM_cons, ← rest_eq]
        dsimp only at first_eq ⊢
        rw [first_eq]
        rfl
  let answer := oracle (x.1 ++ [node])
  obtain ⟨after, returns⟩ := requests answer.inner (x.1 ++ [node], x.2)
  refine ⟨answer.left, after, ?_⟩
  intro stack sound
  filter_upwards [returns stack sound] with fuel run
  rw [answerNode]
  dsimp only at run ⊢
  rw [run]
  rfl

variable (watched : ∀ s : Extraction, Sound root s.stack s.localIncludedFiles → watch s = true)

include watched

omit watched in
theorem traverse_succ (depth fuel : Nat) (children : List Tree) (replacement : Replacement)
    (visited : List Tree) (s : Extraction) :
    traverse files watch oracle depth (fuel + 1) children replacement visited s =
      forEach watch (extractInclude files watch fuel) (answerNode oracle
        (traverse files watch oracle depth fuel)
        (onceMore files watch oracle depth fuel children replacement)) fuel children replacement
        visited s := by
  cases depth <;> rfl

theorem comesBack_of_ends {depth : Nat} {children : List Tree}
    (ends : ∀ nodes parentReplacement, Ends files watch root (fun fuel => answerNode oracle
      (traverse files watch oracle depth fuel)
      (onceMore files watch oracle depth fuel nodes parentReplacement)) inside children)
    (replacement : Replacement) : ComesBack root inside fun fuel =>
      traverse files watch oracle depth fuel children replacement := by
  intro before
  obtain ⟨ending, after, course⟩ := ends children replacement true replacement before
  refine ⟨after, ?_⟩
  intro stack sound
  apply Returns.of_succ
  filter_upwards [course.forEach_returns watched sound] with fuel run
  rw [traverse_succ]
  exact run

theorem comesBack_of_onceMore {depth : Nat}
    (anew : ∀ inside children replacement, ComesBack root inside fun fuel =>
      onceMore files watch oracle depth fuel children replacement)
    (inside : List String) (children : List Tree) (replacement : Replacement) :
    ComesBack root inside fun fuel =>
      traverse files watch oracle depth fuel children replacement := by
  apply comesBack_of_ends watched
  revert inside children
  apply include_induction (fun inside children => ∀ nodes parentReplacement,
    Ends files watch root (fun fuel => answerNode oracle (traverse files watch oracle depth fuel)
      (onceMore files watch oracle depth fuel nodes parentReplacement)) inside children) files
  · exact fun inside _ _ => ends_nil inside
  · intro inside node rest below later deeper nodes parentReplacement
    apply ends_cons
    · exact fun parentReplacement world => loads_total watched _ _ _ _
    · intro own x
      exact answerNode_does (comesBack_of_ends watched below own)
        (anew inside nodes parentReplacement) x
    · exact later nodes parentReplacement
    · exact fun tag file outside replacement =>
        deeper tag file outside replacement nodes parentReplacement

/-- Whatever the oracle says, a traversal comes to an end and back to where it has begun. -/
theorem traverse_comesBack (depth : Nat) (inside : List String) (children : List Tree)
    (replacement : Replacement) : ComesBack root inside fun fuel =>
      traverse files watch oracle depth fuel children replacement := by
  induction depth generalizing inside children replacement with
  | zero =>
      apply comesBack_of_onceMore watched
      intro inside children replacement before
      exact ⟨before, fun stack _ => Eventually.of_forall fun _ => rfl⟩
  | succ depth ih =>
      apply comesBack_of_onceMore watched
      exact fun inside children replacement => ih inside children replacement

end

/-- What is asserted whenever a node is set. -/
def assertSound (root : String) (s : Extraction) : Bool :=
  s.localIncludedFiles = s.stack.filterMap (·.file) ++ [root] && s.localIncludedFiles.Nodup

theorem assertSound_of_sound {root : String} {s : Extraction}
    (sound : Sound root s.stack s.localIncludedFiles) : assertSound root s = true := by
  unfold assertSound
  rw [Bool.and_eq_true]
  exact ⟨decide_eq_true sound.files, decide_eq_true sound.distinct⟩

/-- Whatever files include each other, and whatever a traversal does at the nodes, it comes to
an end and leaves the stack and the included files as they were. So it does under the assertion
that at each place the included files are the root and one for each extracted frame, and none of
them twice. -/
theorem traversal_cleans_up (files : XmlFiles) (root : String) (oracle : List Tree → Answer)
    (depth : Nat) (children : List Tree) (replacement : Replacement) (world : World) :
    ∀ watch ∈ [fun _ => true, assertSound root], ∃ visited after,
      Returns (fun fuel => traverse files watch oracle depth fuel children replacement []
        ⟨[], [root], world⟩) (visited, ⟨[], [root], after⟩) := by
  intro watch listed
  have watched (s : Extraction) (sound : Sound root s.stack s.localIncludedFiles) :
      watch s = true := by
    rcases List.mem_cons.1 listed with rfl | other
    · rfl
    · rw [List.mem_singleton.1 other]
      exact assertSound_of_sound sound
  have comesBack : ComesBack root [root] fun fuel =>
      traverse files watch oracle depth fuel children replacement :=
    traverse_comesBack watched depth [root] children replacement
  obtain ⟨⟨visited, after⟩, returns⟩ := comesBack ([], world)
  have begins : Sound root [] [root] := ⟨rfl, by simp⟩
  exact ⟨visited, after, returns [] begins⟩

/-- Two files that include each other. -/
theorem traversal_cleans_up_cycle :
    ∃ visited after, Returns (fun fuel => traverse
        [("/b.xml", fun _ => ⟨[.node "root" "" [.node "include" ""
          [.node "<xmlattr>" "" [.node "path" "a.xml" []]], .node "item" "" []]], none, ""⟩)]
        (assertSound "/a.xml") (fun _ => ⟨[.children], false⟩) 0 fuel
        [.node "include" "" [.node "<xmlattr>" "" [.node "path" "b.xml" []]]] [] []
        ⟨[], ["/a.xml"], {}⟩)
      (visited, ⟨[], ["/a.xml"], after⟩) :=
  traversal_cleans_up _ "/a.xml" _ 0 _ [] {} (assertSound "/a.xml") (by simp)

/-- What is visited there. -/
example : (traverse [("/b.xml", fun _ => ⟨[.node "root" "" [.node "include" ""
      [.node "<xmlattr>" "" [.node "path" "a.xml" []]], .node "item" "" []]], none, ""⟩)]
    (assertSound "/a.xml") (fun _ => ⟨[.children], false⟩) 0 9
    [.node "include" "" [.node "<xmlattr>" "" [.node "path" "b.xml" []]]] [] []
    ⟨[], ["/a.xml"], {}⟩).map (fun result => result.1.map (·.tag)) =
    some ["include", "<xmlattr>", "path", "item"] := by decide +kernel

end Karabiner
