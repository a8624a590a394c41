import Mathlib.Order.Filter.AtTopBot.Basic
import Karabiner.ExtractedPtree

set_option autoImplicit false

/- How an iterator goes over the nodes of a frame, file by file instead of over the shared
stack. Behind an include whose file gives nothing, the next node is not looked at. -/
namespace Karabiner

open Filter

/-- The run gives this value whenever it has enough fuel. -/
def Returns {β : Type} (run : Nat → Option β) (b : β) : Prop :=
  ∀ᶠ fuel in atTop, run fuel = some b

theorem eventually_of_succ {P : Nat → Prop} (later : ∀ᶠ fuel in atTop, P (fuel + 1)) :
    ∀ᶠ fuel in atTop, P fuel := by
  obtain ⟨bound, enough⟩ := eventually_atTop.1 later
  apply eventually_atTop.2
  refine ⟨bound + 1, ?_⟩
  intro fuel large
  obtain ⟨less, rfl⟩ := Nat.exists_eq_add_of_le' (show 1 ≤ fuel by omega)
  exact enough less (by omega)

theorem Returns.of_succ {β : Type} {run : Nat → Option β} {b : β}
    (returns : Returns (fun fuel => run (fuel + 1)) b) : Returns run b :=
  eventually_of_succ returns

/-- The files that are being expanded are those of the extracted frames, and none of them
twice. -/
structure Sound (root : String) (stack : List Frame) (inside : List String) : Prop where
  files : inside = stack.filterMap (·.file) ++ [root]
  distinct : inside.Nodup

namespace Sound

variable {root : String} {stack : List Frame} {inside : List String} {frame : Frame}

theorem enter (sound : Sound root stack inside) (children : List Tree)
    (replacement : Replacement) :
    Sound root (⟨children, replacement, none⟩ :: stack) inside where
  files := sound.files
  distinct := sound.distinct

theorem enterFile (sound : Sound root stack inside) {file : String} (fresh : file ∉ inside)
    (children : List Tree) (replacement : Replacement) :
    Sound root (⟨children, replacement, some file⟩ :: stack) (file :: inside) where
  files := by
    rw [sound.files]
    rfl
  distinct := List.nodup_cons.2 ⟨fresh, sound.distinct⟩

theorem moved (sound : Sound root (frame :: stack) inside) (it : List Tree) :
    Sound root ({ frame with it } :: stack) inside where
  files := sound.files
  distinct := sound.distinct

/-- An include is behind the iterator, and its file is entered. -/
theorem included {node : Tree} {rest children : List Tree}
    {parentReplacement replacement : Replacement} {file : Option String}
    (sound : Sound root (⟨node :: rest, parentReplacement, file⟩ :: stack) inside)
    {name : String}
    (fresh : name ∉ inside) :
    Sound root
    (⟨children, replacement, some name⟩ :: ⟨rest, parentReplacement, file⟩ :: stack)
      (name :: inside) := (sound.moved rest).enterFile fresh children replacement

end Sound

namespace Extraction

theorem collapse_of_node {level : Nat} {frame : Frame} (there : frame.it ≠ [])
    (below : List Frame) (inside : List String) (world : World) :
    (⟨frame :: below, inside, world⟩ : Extraction).collapse level =
      ⟨frame :: below, inside, world⟩ := by
  have nonempty : frame.it.isEmpty = false := List.isEmpty_eq_false_iff.2 there
  simp [collapse, collapseFrames, nonempty]

theorem collapse_of_end {level : Nat} {frame : Frame} (finished : frame.it = [])
    {below : List Frame} (own : level ≤ below.length + 1) (inside : List String)
    (world : World) :
    (⟨frame :: below, inside, world⟩ : Extraction).collapse level =
      (⟨below, popFile frame inside, world⟩ : Extraction).collapse level := by
  have open' : ¬ below.length + 1 < level := by omega
  simp [collapse, collapseFrames, finished, open']

theorem collapseFrames_twice (level : Nat) (stack : List Frame) (inside : List String) :
    collapseFrames level (collapseFrames level stack inside).1
      (collapseFrames level stack inside).2 = collapseFrames level stack inside := by
  induction stack generalizing inside with
  | nil => rfl
  | cons frame below ih =>
      by_cases stays : (below.length + 1 < level || !frame.it.isEmpty) = true
      · have same : collapseFrames level (frame :: below) inside = (frame :: below, inside) := by
          rw [collapseFrames, if_pos stays]
        rw [same, same]
      · rw [collapseFrames, if_neg stays]
        exact ih _

theorem collapse_collapse (s : Extraction) (level : Nat) :
    (s.collapse level).collapse level = s.collapse level := by
  have twice := collapseFrames_twice level s.stack s.localIncludedFiles
  unfold collapse
  dsimp only
  rw [twice]

theorem destroy_pop {level : Nat} {below : List Frame} (own : level ≤ below.length + 1)
    (frame : Frame) (inside : List String) (world : World) :
    (⟨frame :: below, inside, world⟩ : Extraction).destroy level =
      (⟨below, popFile frame inside, world⟩ : Extraction).destroy level := by
  have open' : ¬ below.length + 1 < level := by omega
  simp [destroy, destroyFrames, open']

theorem destroy_of_ended {s : Extraction} {level : Nat} (ended : s.stack.length < level) :
    s.destroy level = s := by
  obtain ⟨stack, inside, world⟩ := s
  cases stack with
  | nil => rfl
  | cons frame below => simp_all [destroy, destroyFrames]

theorem collapse_of_ended {s : Extraction} {level : Nat} (ended : s.stack.length < level) :
    s.collapse level = s := by
  obtain ⟨stack, inside, world⟩ := s
  cases stack with
  | nil => rfl
  | cons frame below => simp_all [collapse, collapseFrames]

end Extraction

section

variable (files : XmlFiles) (watch : Extraction → Bool) (root : String)

/-- What the loader of replacements does to its replacement and to the world while these files
are expanded. -/
def Loads (inside : List String) (children : List Tree) (parentReplacement : Replacement)
    (before : Replacement × World) (after : Replacement × World) : Prop :=
  ∀ stack, Sound root stack inside →
    Returns (fun fuel => loadReplacement files watch fuel children parentReplacement before.1
      ⟨stack, inside, before.2⟩) (after.1, ⟨stack, inside, after.2⟩)

/-- What extract_include_ makes of a node: the children that an include gives, with their file
and its replacement, or nothing where the node stays. -/
inductive Examined (inside : List String) (parentReplacement : Replacement) (node : Tree) :
    World → World → Option (String × List Tree × Replacement) → Prop
  | other {world : World} (tag : node.tag ≠ "include") :
      Examined inside parentReplacement node world world none
  | included {before loaded after : World} {own : Replacement}
      {opened : Option (String × List Tree)} (tag : node.tag = "include")
      (loads : Loads files watch root inside node.children parentReplacement ([], before)
        (own, loaded))
      (look : lookAtInclude files node inside (Replacement.inherit own parentReplacement) loaded =
        (after, opened)) :
      Examined inside parentReplacement node before after
        (opened.map fun opened =>
          (opened.1, rootChildren opened.2, Replacement.inherit own parentReplacement))

end

section

variable {α : Type}

/-- What the body of a loop does at a node while these files are expanded. -/
def Does (root : String)
    (body : Nat → Tree → Replacement → α → Extraction →
      Option (α × Bool × Extraction))
    (inside : List String) (parentReplacement : Replacement) (node : Tree) (before : α × World)
    (left : Bool) (after : α × World) : Prop :=
  ∀ stack, Sound root stack inside →
    Returns (fun fuel => body fuel node parentReplacement before.1 ⟨stack, inside, before.2⟩)
      (after.1, left, ⟨stack, inside, after.2⟩)

/-- How the nodes of a frame end: all of them are behind the iterator, and it then looks at the
node behind them or not, or the loop is left. -/
inductive Ending where
  | through (looks : Bool)
  | left
  deriving DecidableEq

variable (files : XmlFiles) (watch : Extraction → Bool) (root : String)
  (body : Nat → Tree → Replacement → α → Extraction → Option (α × Bool × Extraction))

/-- The iterator stays at the node. -/
def Stays (looks : Bool) (inside : List String) (parentReplacement : Replacement) (node : Tree)
    (before after : World) : Prop :=
  if looks then Examined files watch root inside parentReplacement node before after none
  else after = before

/-- The way over the nodes of a frame. -/
inductive Course : Bool → List String → Replacement → List Tree → α × World → Ending →
    α × World → Prop
  | nil (looks : Bool) (inside : List String) (parentReplacement : Replacement) (x : α × World) :
      Course looks inside parentReplacement [] x (.through looks) x
  | leave {looks : Bool} {inside : List String} {parentReplacement : Replacement} {node : Tree}
      {rest : List Tree} {a : α} {world examined : World} {y : α × World}
      (stays : Stays files watch root looks inside parentReplacement node world examined)
      (does : Does root body inside parentReplacement node (a, examined) true y) :
      Course looks inside parentReplacement (node :: rest) (a, world) .left y
  | visit {looks : Bool} {inside : List String} {parentReplacement : Replacement} {node : Tree}
      {rest : List Tree} {a : α} {world examined : World} {y z : α × World} {ending : Ending}
      (stays : Stays files watch root looks inside parentReplacement node world examined)
      (does : Does root body inside parentReplacement node (a, examined) false y)
      (later : Course true inside parentReplacement rest y ending z) :
      Course looks inside parentReplacement (node :: rest) (a, world) ending z
  | empty {inside : List String} {parentReplacement replacement : Replacement} {node : Tree}
      {rest : List Tree} {a : α} {world examined : World} {z : α × World} {ending : Ending}
      {file : String}
      (look : Examined files watch root inside parentReplacement node world examined
        (some (file, [], replacement)))
      (later : Course false inside parentReplacement rest (a, examined) ending z) :
      Course true inside parentReplacement (node :: rest) (a, world) ending z
  | file {looks : Bool} {inside : List String} {parentReplacement replacement : Replacement}
      {node : Tree} {rest children : List Tree} {a : α} {world examined : World}
      {y z : α × World} {ending : Ending} {file : String}
      (look : Examined files watch root inside parentReplacement node world examined
        (some (file, children, replacement)))
      (nonempty : children ≠ [])
      (inner : Course true (file :: inside) replacement children (a, examined) (.through looks) y)
      (later : Course looks inside parentReplacement rest y ending z) :
      Course true inside parentReplacement (node :: rest) (a, world) ending z
  | fileLeft {inside : List String} {parentReplacement replacement : Replacement} {node : Tree}
      {rest children : List Tree} {a : α} {world examined : World} {y : α × World}
      {file : String}
      (look : Examined files watch root inside parentReplacement node world examined
        (some (file, children, replacement)))
      (nonempty : children ≠ [])
      (inner : Course true (file :: inside) replacement children (a, examined) .left y) :
      Course true inside parentReplacement (node :: rest) (a, world) .left y

/-- extract_include_ where the iterator looks at its node. -/
def extractIf (looks : Bool) (fuel level : Nat) (s : Extraction) : Option Extraction :=
  if looks then extractInclude files watch fuel level s else some s

/-- The loop from a node on that is looked at or not. -/
def resume (looks : Bool) (level : Nat) (a : α) (s : Extraction) (fuel rounds : Nat) :
    Option (α × Extraction) := do
  let s ← extractIf files watch looks fuel level s
  let s ← setNode watch s
  loop watch (extractInclude files watch fuel) (body fuel) level rounds a s

/-- With enough fuel and rounds this is the result. -/
def Evaluates {β : Type} (run : Nat → Nat → Option β) (b : β) : Prop :=
  ∃ steps, ∀ᶠ fuel in atTop, ∀ rounds, steps ≤ rounds → run fuel rounds = some b

/-- A run gets behind the nodes of a frame, and comes to what the loop comes to from there; or it
leaves the loop, where the destructor makes of the stack what it makes of the last one. -/
def Finishes (level : Nat) (ending : Ending) (a : α) (last : Extraction)
    (run : Nat → Nat → Option (α × Extraction)) : Prop :=
  match ending with
  | .through looks => ∀ result,
      Evaluates (resume files watch body looks level a (last.collapse level)) result →
      Evaluates run result
  | .left => ∃ s : Extraction, Evaluates run (a, s) ∧ s.destroy level = last.destroy level

end

section

variable {files : XmlFiles} {watch : Extraction → Bool} {root : String}

theorem lookAtInclude_fresh {node : Tree} {inside : List String} {replacement : Replacement}
    {world after : World} {file : String} {document : List Tree}
    (look : lookAtInclude files node inside replacement world = (after, some (file, document))) :
    file ∉ inside ∧ document = (files.readXml file replacement).document := by
  unfold lookAtInclude at look
  cases path : node.getOptional "path" with
  | none =>
      rw [path] at look
      cases look
  | some path =>
      rw [path] at look
      dsimp only at look
      split at look
      · cases look
      · split at look
        · cases look
        · split at look
          · cases look
          · rename_i other
            simp only [Prod.mk.injEq, Option.some.injEq] at look
            obtain ⟨_, rfl, rfl⟩ := look
            refine ⟨?_, rfl⟩
            simpa using other

theorem Examined.fresh {inside : List String} {parentReplacement : Replacement} {node : Tree}
    {world after : World} {file : String} {children : List Tree} {replacement : Replacement}
    (look : Examined files watch root inside parentReplacement node world after
      (some (file, children, replacement))) : file ∉ inside := by
  generalize shape : some (file, children, replacement) = opened at look
  cases look with
  | other tag => cases shape
  | included tag loads look =>
      rename_i own opened
      cases opened with
      | none => cases shape
      | some pair =>
          obtain ⟨name, document⟩ := pair
          simp only [Option.map_some, Option.some.injEq, Prod.mk.injEq] at shape
          rw [shape.1]
          exact (lookAtInclude_fresh look).1

/-- A loop over nothing. -/
theorem loads_nil {inside : List String} {parentReplacement own : Replacement}
    {world loaded : World} {stack : List Frame} (sound : Sound root stack inside)
    (loads : Loads files watch root inside [] parentReplacement ([], world) (own, loaded)) :
    own = [] ∧ loaded = world := by
  obtain ⟨bound, enough⟩ := eventually_atTop.1 (loads stack sound)
  have run : loadReplacement files watch (bound + 1 + 1) [] parentReplacement []
      ⟨stack, inside, world⟩ = _ := enough (bound + 1 + 1) (by omega)
  have ends : (⟨stack, inside, world⟩ : Extraction).ended (stack.length + 1) = true := by
    simp [Extraction.ended]
  rw [loadReplacement, forEach, start, if_pos List.isEmpty_nil, setNode] at run
  by_cases watched : watch ⟨stack, inside, world⟩ = true
  · rw [if_pos watched, Option.bind_eq_bind, Option.bind_some, loop, if_pos ends] at run
    simp only [Option.bind_eq_bind, Option.bind_some, Option.some.injEq, Prod.mk.injEq] at run
    rw [Extraction.destroy_of_ended (by simp)] at run
    simp_all
  · rw [if_neg watched] at run
    cases run

/-- extract_include_ at an include, once its replacement is loaded. -/
theorem extractInclude_included {inside : List String} {parentReplacement own : Replacement}
    {node : Tree} {rest : List Tree} {file : Option String} {below : List Frame} {level : Nat}
    {world loaded : World} (tag : node.tag = "include") (open' : level ≤ below.length + 1)
    (sound : Sound root (⟨node :: rest, parentReplacement, file⟩ :: below) inside)
    (loads : Loads files watch root inside node.children parentReplacement ([], world)
      (own, loaded)) :
    ∀ᶠ fuel in atTop, extractInclude files watch (fuel + 1) level
        ⟨⟨node :: rest, parentReplacement, file⟩ :: below, inside, world⟩ =
      match lookAtInclude files node inside (Replacement.inherit own parentReplacement) loaded with
      | (after, none) =>
          some ⟨⟨node :: rest, parentReplacement, file⟩ :: below, inside, after⟩
      | (after, some (name, document)) =>
          let s : Extraction := ⟨⟨rest, parentReplacement, file⟩ :: below, inside, after⟩
          if (rootChildren document).isEmpty then some (s.collapse level)
          else (extractInclude files watch fuel level (s.enterFile name (rootChildren document)
            (Replacement.inherit own parentReplacement))).map (·.collapse level) := by
  have going : ¬ (⟨⟨node :: rest, parentReplacement, file⟩ :: below, inside, world⟩ :
      Extraction).ended level = true := by
    simp only [Extraction.ended, List.length_cons, decide_eq_true_eq]
    omega
  have loaded_eq : ∀ᶠ fuel in atTop,
      ownReplacement (loadReplacement files watch fuel) node parentReplacement
        ⟨⟨node :: rest, parentReplacement, file⟩ :: below, inside, world⟩ =
      some (own, ⟨⟨node :: rest, parentReplacement, file⟩ :: below, inside, loaded⟩) := by
    by_cases empty : node.children.isEmpty = true
    · rw [List.isEmpty_iff.1 empty] at loads
      obtain ⟨rfl, rfl⟩ := loads_nil sound loads
      apply Eventually.of_forall
      intro fuel
      rw [ownReplacement, if_pos empty]
    · filter_upwards [loads _ sound] with fuel run
      rw [ownReplacement, if_neg empty]
      exact run
  filter_upwards [loaded_eq] with fuel run
  rw [extractInclude, extractIncludeWith, if_neg going]
  dsimp only
  rw [if_neg (not_not.2 tag), run]
  simp only [Option.bind_eq_bind, Option.bind_some]
  cases looked : lookAtInclude files node inside (Replacement.inherit own parentReplacement)
      loaded with
  | mk after opened =>
      cases opened with
      | none => rfl
      | some pair =>
          obtain ⟨name, document⟩ := pair
          dsimp only [Extraction.advance, List.tail_cons]
          split
          · rfl
          · rw [Option.map_eq_bind]
            rfl

theorem extractInclude_stays {inside : List String} {parentReplacement : Replacement}
    {node : Tree} {rest : List Tree} {file : Option String} {below : List Frame} {level : Nat}
    {world after : World} (open' : level ≤ below.length + 1)
    (sound : Sound root (⟨node :: rest, parentReplacement, file⟩ :: below) inside)
    (look : Examined files watch root inside parentReplacement node world after none) :
    Returns (fun fuel => extractInclude files watch fuel level
        ⟨⟨node :: rest, parentReplacement, file⟩ :: below, inside, world⟩)
      ⟨⟨node :: rest, parentReplacement, file⟩ :: below, inside, after⟩ := by
  apply Returns.of_succ
  generalize shape : none = opened at look
  cases look with
  | other tag =>
      apply Eventually.of_forall
      intro fuel
      show extractInclude files watch (fuel + 1) level _ = _
      rw [extractInclude, extractIncludeWith]
      split
      · rfl
      · dsimp only
        rw [if_pos tag]
  | included tag loads look =>
      rename_i loaded own opened
      cases opened with
      | some pair => cases shape
      | none =>
          filter_upwards [extractInclude_included tag open' sound loads] with fuel run
          rw [run, look]

theorem extractInclude_empty {inside : List String} {parentReplacement replacement : Replacement}
    {node : Tree} {rest : List Tree} {file : Option String} {below : List Frame} {level : Nat}
    {world after : World} {name : String} (open' : level ≤ below.length + 1)
    (sound : Sound root (⟨node :: rest, parentReplacement, file⟩ :: below) inside)
    (look : Examined files watch root inside parentReplacement node world after
      (some (name, [], replacement))) :
    Returns (fun fuel => extractInclude files watch fuel level
        ⟨⟨node :: rest, parentReplacement, file⟩ :: below, inside, world⟩)
      ((⟨⟨rest, parentReplacement, file⟩ :: below, inside, after⟩ :
        Extraction).collapse level) := by
  apply Returns.of_succ
  generalize shape : some (name, [], replacement) = opened at look
  cases look with
  | other tag => cases shape
  | included tag loads look =>
      rename_i loaded own opened
      cases opened with
      | none => cases shape
      | some pair =>
          obtain ⟨other, document⟩ := pair
          simp only [Option.map_some, Option.some.injEq, Prod.mk.injEq] at shape
          filter_upwards [extractInclude_included tag open' sound loads] with fuel run
          rw [run, look]
          dsimp only
          rw [if_pos (List.isEmpty_iff.2 shape.2.1.symm)]

theorem extractInclude_file {inside : List String} {parentReplacement replacement : Replacement}
    {node : Tree} {rest children : List Tree} {file : Option String} {below : List Frame}
    {level : Nat} {world after : World} {name : String} (open' : level ≤ below.length + 1)
    (sound : Sound root (⟨node :: rest, parentReplacement, file⟩ :: below) inside)
    (look : Examined files watch root inside parentReplacement node world after
      (some (name, children, replacement))) (nonempty : children ≠ []) :
    ∀ᶠ fuel in atTop, extractInclude files watch (fuel + 1) level
        ⟨⟨node :: rest, parentReplacement, file⟩ :: below, inside, world⟩ =
      (extractInclude files watch fuel level
        ⟨⟨children, replacement, some name⟩ :: ⟨rest, parentReplacement, file⟩ :: below,
          name :: inside, after⟩).map (·.collapse level) := by
  generalize shape : some (name, children, replacement) = opened at look
  cases look with
  | other tag => cases shape
  | included tag loads look =>
      rename_i loaded own opened
      cases opened with
      | none => cases shape
      | some pair =>
          obtain ⟨other, document⟩ := pair
          simp only [Option.map_some, Option.some.injEq, Prod.mk.injEq] at shape
          obtain ⟨rfl, rfl, rfl⟩ := shape
          filter_upwards [extractInclude_included tag open' sound loads] with fuel run
          rw [run, look]
          dsimp only [Extraction.enterFile]
          rw [if_neg fun empty => nonempty (List.isEmpty_iff.1 empty)]

section

variable {α : Type}
  {body : Nat → Tree → Replacement → α → Extraction → Option (α × Bool × Extraction)}

/-- extract_include_ at an include comes to where it comes to in the file. -/
theorem extractInclude_through {inside : List String}
    {parentReplacement replacement : Replacement} {node : Tree} {rest children : List Tree}
    {file : Option String} {below : List Frame} {level : Nat} {world after : World}
    {name : String} {s : Extraction} (open' : level ≤ below.length + 1)
    (sound : Sound root (⟨node :: rest, parentReplacement, file⟩ :: below) inside)
    (look : Examined files watch root inside parentReplacement node world after
      (some (name, children, replacement))) (nonempty : children ≠ [])
    (inner : Returns (fun fuel => extractInclude files watch fuel level
      ⟨⟨children, replacement, some name⟩ :: ⟨rest, parentReplacement, file⟩ :: below,
        name :: inside, after⟩) s) (collapsed : s.collapse level = s) :
    Returns (fun fuel => extractInclude files watch fuel level
      ⟨⟨node :: rest, parentReplacement, file⟩ :: below, inside, world⟩) s := by
  apply Returns.of_succ
  filter_upwards [inner, extractInclude_file open' sound look nonempty] with fuel inner_eq outer_eq
  rw [outer_eq, inner_eq, Option.map_some, collapsed]

/-- extract_include_ comes to a place that is collapsed. -/
theorem Course.extracts {looks : Bool} {inside : List String} {replacement : Replacement}
    {children : List Tree} {x y : α × World} {ending : Ending}
    (course : Course files watch root body looks inside replacement children x ending y)
    (looking : looks = true) (nonempty : children ≠ []) {file : Option String}
    {below : List Frame} {level : Nat} (open' : level ≤ below.length + 1)
    (sound : Sound root (⟨children, replacement, file⟩ :: below) inside) :
    ∃ s : Extraction, Returns (fun fuel => extractInclude files watch fuel level
        ⟨⟨children, replacement, file⟩ :: below, inside, x.2⟩) s ∧
        s.collapse level = s := by
  induction course generalizing file below with
  | nil looks inside replacement x => exact absurd rfl nonempty
  | leave own does =>
      rw [looking] at own
      exact ⟨_, extractInclude_stays open' sound own,
        Extraction.collapse_of_node (List.cons_ne_nil _ _) _ _ _⟩
  | visit own does later ih =>
      rw [looking] at own
      exact ⟨_, extractInclude_stays open' sound own,
        Extraction.collapse_of_node (List.cons_ne_nil _ _) _ _ _⟩
  | empty look later ih =>
      exact ⟨_, extractInclude_empty open' sound look, Extraction.collapse_collapse _ _⟩
  | file look inhabited inner later ih _ =>
      obtain ⟨s, inner_eq, collapsed⟩ :=
        ih rfl inhabited (show level ≤ (_ :: below).length + 1 from Nat.le_succ_of_le open')
          (sound.included look.fresh)
      exact ⟨s, extractInclude_through open' sound look inhabited inner_eq collapsed, collapsed⟩
  | fileLeft look inhabited inner ih =>
      obtain ⟨s, inner_eq, collapsed⟩ :=
        ih rfl inhabited (show level ≤ (_ :: below).length + 1 from Nat.le_succ_of_le open')
          (sound.included look.fresh)
      exact ⟨s, extractInclude_through open' sound look inhabited inner_eq collapsed, collapsed⟩

theorem stays_extracts {looks : Bool} {inside : List String} {parentReplacement : Replacement}
    {node : Tree} {rest : List Tree} {file : Option String} {below : List Frame} {level : Nat}
    {world examined : World} (open' : level ≤ below.length + 1)
    (sound : Sound root (⟨node :: rest, parentReplacement, file⟩ :: below) inside)
    (stays : Stays files watch root looks inside parentReplacement node world examined) :
    Returns (fun fuel => extractIf files watch looks fuel level
        ⟨⟨node :: rest, parentReplacement, file⟩ :: below, inside, world⟩)
      ⟨⟨node :: rest, parentReplacement, file⟩ :: below, inside, examined⟩ := by
  unfold Stays at stays
  cases looks with
  | false =>
      rw [if_neg Bool.false_ne_true] at stays
      apply Eventually.of_forall
      intro fuel
      rw [stays]
      rfl
  | true =>
      rw [if_pos rfl] at stays
      exact extractInclude_stays open' sound stays

/-- Where an include gives nothing, the loop goes on behind it without a look. -/
theorem empty_evaluates {inside : List String} {parentReplacement replacement : Replacement}
    {node : Tree} {rest : List Tree} {file : Option String} {below : List Frame} {level : Nat}
    {a : α} {world examined : World} {name : String} {result : α × Extraction}
    (open' : level ≤ below.length + 1)
    (sound : Sound root (⟨node :: rest, parentReplacement, file⟩ :: below) inside)
    (look : Examined files watch root inside parentReplacement node world examined
      (some (name, [], replacement)))
    (later : Evaluates (resume files watch body false level a
      ((⟨⟨rest, parentReplacement, file⟩ :: below, inside, examined⟩ :
        Extraction).collapse level)) result) :
    Evaluates (resume files watch body true level a
      ⟨⟨node :: rest, parentReplacement, file⟩ :: below, inside, world⟩) result := by
  obtain ⟨steps, enough⟩ := later
  refine ⟨steps, ?_⟩
  filter_upwards [enough, extractInclude_empty open' sound look] with fuel rest_eq extract_eq
  intro rounds many
  have settled : extractIf files watch true fuel level
      ⟨⟨node :: rest, parentReplacement, file⟩ :: below, inside, world⟩ = _ := extract_eq
  rw [← rest_eq rounds many, resume, resume, settled]
  rfl

/-- Where an include gives the children of a file, the loop goes on at the first of them. -/
theorem file_evaluates {inside : List String} {parentReplacement replacement : Replacement}
    {node : Tree} {rest children : List Tree} {file : Option String} {below : List Frame}
    {level : Nat} {a : α} {world examined : World} {y : α × World} {ending : Ending}
    {name : String} {result : α × Extraction} (open' : level ≤ below.length + 1)
    (sound : Sound root (⟨node :: rest, parentReplacement, file⟩ :: below) inside)
    (look : Examined files watch root inside parentReplacement node world examined
      (some (name, children, replacement))) (nonempty : children ≠ [])
    (inner : Course files watch root body true (name :: inside) replacement children (a, examined)
      ending y)
    (later : Evaluates (resume files watch body true level a
      ⟨⟨children, replacement, some name⟩ :: ⟨rest, parentReplacement, file⟩ :: below,
        name :: inside, examined⟩) result) :
    Evaluates (resume files watch body true level a
      ⟨⟨node :: rest, parentReplacement, file⟩ :: below, inside, world⟩) result := by
  obtain ⟨steps, enough⟩ := later
  refine ⟨steps, ?_⟩
  have entered : Sound root
      (⟨children, replacement, some name⟩ :: ⟨rest, parentReplacement, file⟩ :: below)
      (name :: inside) := sound.included look.fresh
  obtain ⟨s, inner_eq, collapsed⟩ :=
    inner.extracts rfl nonempty (Nat.le_succ_of_le open') entered
  have outer_eq := extractInclude_through open' sound look nonempty inner_eq collapsed
  filter_upwards [enough, inner_eq, outer_eq] with fuel rest_eq inner_eq outer_eq
  intro rounds many
  rw [← rest_eq rounds many, resume, resume, extractIf, extractIf, if_pos rfl, if_pos rfl,
    inner_eq, outer_eq]

variable (watched : ∀ s : Extraction, Sound root s.stack s.localIncludedFiles → watch s = true)

include watched

theorem setNode_sound {s : Extraction} (sound : Sound root s.stack s.localIncludedFiles) :
    setNode watch s = some s := by
  rw [setNode, if_pos (watched s sound)]

/-- The loop at a node whose body does not leave it. -/
theorem visit_evaluates {looks : Bool} {inside : List String} {parentReplacement : Replacement}
    {node : Tree} {rest : List Tree} {file : Option String} {below : List Frame} {level : Nat}
    {a : α} {world examined : World} {y : α × World} {result : α × Extraction}
    (open' : level ≤ below.length + 1)
    (sound : Sound root (⟨node :: rest, parentReplacement, file⟩ :: below) inside)
    (stays : Stays files watch root looks inside parentReplacement node world examined)
    (does : Does root body inside parentReplacement node (a, examined) false y)
    (later : Evaluates (resume files watch body true level y.1
      ((⟨⟨rest, parentReplacement, file⟩ :: below, inside, y.2⟩ :
        Extraction).collapse level))
      result) :
    Evaluates (resume files watch body looks level a
      ⟨⟨node :: rest, parentReplacement, file⟩ :: below, inside, world⟩) result := by
  obtain ⟨steps, enough⟩ := later
  refine ⟨steps + 1, ?_⟩
  filter_upwards [enough, stays_extracts open' sound stays, does _ sound]
    with fuel rest_eq extract_eq body_eq
  intro rounds many
  obtain ⟨less, rfl⟩ := Nat.exists_eq_add_of_le' (show 1 ≤ rounds by omega)
  have going : ¬ (⟨⟨node :: rest, parentReplacement, file⟩ :: below, inside, examined⟩ :
      Extraction).ended level = true := by
    simp only [Extraction.ended, List.length_cons, decide_eq_true_eq]
    omega
  have set_eq := setNode_sound watched
    (show Sound root (Extraction.mk (⟨node :: rest, parentReplacement, file⟩ :: below) inside
      examined).stack _ from sound)
  rw [resume, extract_eq]
  simp only [Option.bind_eq_bind, Option.bind_some]
  rw [set_eq, Option.bind_some, loop, if_neg going]
  dsimp only at body_eq ⊢
  rw [body_eq]
  simp only [Option.bind_eq_bind, Option.bind_some, Bool.false_eq_true, if_false]
  rw [← rest_eq less (by omega), resume, increment, extractIf, if_pos rfl]
  simp only [Option.bind_eq_bind, Extraction.advance, List.tail_cons]
  rw [Option.bind_assoc]

/-- The loop at a node whose body leaves it. -/
theorem leave_evaluates {looks : Bool} {inside : List String} {parentReplacement : Replacement}
    {node : Tree} {rest : List Tree} {file : Option String} {below : List Frame} {level : Nat}
    {a : α} {world examined : World} {y : α × World} (open' : level ≤ below.length + 1)
    (sound : Sound root (⟨node :: rest, parentReplacement, file⟩ :: below) inside)
    (stays : Stays files watch root looks inside parentReplacement node world examined)
    (does : Does root body inside parentReplacement node (a, examined) true y) :
    Evaluates (resume files watch body looks level a
        ⟨⟨node :: rest, parentReplacement, file⟩ :: below, inside, world⟩)
      (y.1, ⟨⟨node :: rest, parentReplacement, file⟩ :: below, inside, y.2⟩) := by
  refine ⟨1, ?_⟩
  filter_upwards [stays_extracts open' sound stays, does _ sound] with fuel extract_eq body_eq
  intro rounds many
  obtain ⟨less, rfl⟩ := Nat.exists_eq_add_of_le' (show 1 ≤ rounds by omega)
  have going : ¬ (⟨⟨node :: rest, parentReplacement, file⟩ :: below, inside, examined⟩ :
      Extraction).ended level = true := by
    simp only [Extraction.ended, List.length_cons, decide_eq_true_eq]
    omega
  have set_eq := setNode_sound watched
    (show Sound root (Extraction.mk (⟨node :: rest, parentReplacement, file⟩ :: below) inside
      examined).stack _ from sound)
  rw [resume, extract_eq]
  simp only [Option.bind_eq_bind, Option.bind_some]
  rw [set_eq, Option.bind_some, loop, if_neg going]
  dsimp only at body_eq ⊢
  rw [body_eq]
  rfl

omit watched in
theorem Finishes.mono {level : Nat} {ending : Ending} {a : α} {last : Extraction}
    {run run' : Nat → Nat → Option (α × Extraction)}
    (finishes : Finishes files watch body level ending a last run)
    (leads : ∀ result, Evaluates run result → Evaluates run' result) :
    Finishes files watch body level ending a last run' := by
  cases ending with
  | through looks => exact fun result later => leads result (finishes result later)
  | left =>
      obtain ⟨s, evaluates, destroyed⟩ := finishes
      exact ⟨s, leads _ evaluates, destroyed⟩

/-- What the way over the nodes of a frame means for the loop. -/
theorem Course.finishes {looks : Bool} {inside : List String} {parentReplacement : Replacement}
    {nodes : List Tree} {x y : α × World} {ending : Ending}
    (course : Course files watch root body looks inside parentReplacement nodes x ending y)
    {file : Option String} {below : List Frame} {level : Nat} (open' : level ≤ below.length + 1)
    (sound : Sound root (⟨nodes, parentReplacement, file⟩ :: below) inside) :
    Finishes files watch body level ending y.1
      ⟨below, Extraction.popFile ⟨[], parentReplacement, file⟩ inside, y.2⟩
      (resume files watch body looks level x.1
        ((⟨⟨nodes, parentReplacement, file⟩ :: below, inside, x.2⟩ :
          Extraction).collapse level)) := by
  induction course generalizing file below with
  | nil looks inside parentReplacement x =>
      intro result later
      rw [Extraction.collapse_of_end rfl open']
      exact later
  | leave own does =>
      rw [Extraction.collapse_of_node (List.cons_ne_nil _ _)]
      refine ⟨_, leave_evaluates watched open' sound own does, ?_⟩
      rw [Extraction.destroy_pop open']
      rfl
  | visit own does later ih =>
      rw [Extraction.collapse_of_node (List.cons_ne_nil _ _)]
      apply (ih open' (sound.moved _)).mono
      intro result
      exact visit_evaluates watched open' sound own does
  | empty look later ih =>
      rw [Extraction.collapse_of_node (List.cons_ne_nil _ _)]
      apply (ih open' (sound.moved _)).mono
      intro result
      exact empty_evaluates open' sound look
  | file look inhabited inner later ih₁ ih₂ =>
      rw [Extraction.collapse_of_node (List.cons_ne_nil _ _)]
      apply (ih₂ open' (sound.moved _)).mono
      intro result evaluates
      apply file_evaluates open' sound look inhabited inner
      have through := ih₁ (show level ≤ (_ :: below).length + 1 from Nat.le_succ_of_le open')
        (sound.included look.fresh) result evaluates
      rwa [Extraction.collapse_of_node inhabited] at through
  | fileLeft look inhabited inner ih =>
      rw [Extraction.collapse_of_node (List.cons_ne_nil _ _)]
      obtain ⟨s, evaluates, destroyed⟩ :=
        ih (show level ≤ (_ :: below).length + 1 from Nat.le_succ_of_le open')
          (sound.included look.fresh)
      rw [Extraction.collapse_of_node inhabited] at evaluates
      refine ⟨s, file_evaluates open' sound look inhabited inner evaluates, ?_⟩
      rw [destroyed, Extraction.destroy_pop open']
      rfl

/-- Nothing happens to an iterator that has ended. -/
theorem ended_evaluates {inside : List String} {stack : List Frame} {level : Nat}
    (sound : Sound root stack inside) (ended : stack.length < level) (looks : Bool) (a : α)
    (world : World) :
    Evaluates (resume files watch body looks level a ⟨stack, inside, world⟩)
      (a, ⟨stack, inside, world⟩) := by
  have past : (⟨stack, inside, world⟩ : Extraction).ended level = true := decide_eq_true ended
  refine ⟨1, ?_⟩
  apply eventually_of_succ
  apply Eventually.of_forall
  intro fuel rounds many
  obtain ⟨less, rfl⟩ := Nat.exists_eq_add_of_le' many
  have extract_eq : extractIf files watch looks (fuel + 1) level ⟨stack, inside, world⟩ =
      some ⟨stack, inside, world⟩ := by
    cases looks with
    | false => rfl
    | true => rw [extractIf, if_pos rfl, extractInclude, extractIncludeWith, if_pos past]
  have set_eq := setNode_sound watched
    (show Sound root (Extraction.mk stack inside world).stack _ from sound)
  rw [resume, extract_eq, Option.bind_eq_bind, Option.bind_some, set_eq, Option.bind_some, loop,
    if_pos past]

omit watched in
theorem forEach_eq (fuel : Nat) (children : List Tree) (parentReplacement : Replacement) (a : α)
    (s : Extraction) :
    forEach watch (extractInclude files watch fuel) (body fuel) fuel children
    parentReplacement a s =
      (resume files watch body (!children.isEmpty) (s.stack.length + 1) a
        (if children.isEmpty then s else s.enter children parentReplacement) fuel fuel).map
        fun result => (result.1, result.2.destroy (s.stack.length + 1)) := by
  rw [forEach, start, resume, extractIf, Option.map_eq_bind]
  cases children with
  | nil => exact (Option.bind_assoc _ _ _).symm
  | cons child children =>
      simp only [List.isEmpty_cons, Bool.false_eq_true, if_false, Bool.not_false, if_true,
        Option.bind_eq_bind]
      cases extractInclude files watch fuel (s.stack.length + 1)
          (s.enter (child :: children) parentReplacement) with
      | none => rfl
      | some entered =>
          rw [Option.bind_some, Option.bind_some]
          cases setNode watch entered <;> rfl

/-- What the way over the nodes means for a range-based for over them. -/
theorem Course.forEach_returns {inside : List String} {parentReplacement : Replacement}
    {children : List Tree} {x y : α × World} {ending : Ending}
    (course : Course files watch root body true inside parentReplacement children x ending y)
    {stack : List Frame} (sound : Sound root stack inside) :
    Returns (fun fuel => forEach watch (extractInclude files watch fuel) (body fuel) fuel children
      parentReplacement x.1 ⟨stack, inside, x.2⟩) (y.1, ⟨stack, inside, y.2⟩) := by
  have past : stack.length < stack.length + 1 := Nat.lt_succ_self _
  have evaluates : ∃ s : Extraction, Evaluates (resume files watch body (!children.isEmpty)
      (stack.length + 1) x.1 (if children.isEmpty then ⟨stack, inside, x.2⟩
        else ⟨⟨children, parentReplacement, none⟩ :: stack, inside, x.2⟩)) (y.1, s) ∧
      s.destroy (stack.length + 1) = ⟨stack, inside, y.2⟩ := by
    by_cases empty : children = []
    · subst empty
      cases course with
      | nil looks inside parentReplacement x =>
          exact ⟨_, ended_evaluates watched sound past false x.1 x.2,
            Extraction.destroy_of_ended past⟩
    · have inhabited : children.isEmpty = false := List.isEmpty_eq_false_iff.2 empty
      have entered := sound.enter children parentReplacement
      have finishes := course.finishes watched (Nat.le_refl (stack.length + 1)) entered
      rw [Extraction.collapse_of_node empty] at finishes
      rw [inhabited, if_neg Bool.false_ne_true]
      cases ending with
      | through looks =>
          refine ⟨⟨stack, inside, y.2⟩, ?_, Extraction.destroy_of_ended past⟩
          apply finishes
          rw [Extraction.collapse_of_ended past]
          exact ended_evaluates watched sound past looks y.1 y.2
      | left =>
          obtain ⟨s, evaluates, destroyed⟩ := finishes
          exact ⟨s, evaluates, destroyed.trans (Extraction.destroy_of_ended past)⟩
  obtain ⟨s, ⟨steps, enough⟩, destroyed⟩ := evaluates
  filter_upwards [enough, eventually_ge_atTop steps] with fuel run many
  rw [forEach_eq]
  have evaluated := run fuel many
  dsimp only [Extraction.enter]
  rw [evaluated, Option.map_some, destroyed]

end

end

end Karabiner
