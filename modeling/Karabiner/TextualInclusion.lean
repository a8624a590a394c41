import Karabiner.ReplacedIncludes

set_option autoImplicit false

/- When the nodes that a traversal visits are those of textual inclusion. -/
namespace Karabiner

open Filter

/-- A node that is visited, the members of xml_compiler then, and the visits of its children. -/
inductive Visit where
  | mk (node : Tree) (world : World) (inner : List Visit)

def Visit.world : Visit → World | .mk _ world _ => world

/-- The children of a node, where the traversal enters it. -/
def visitInner (enter : Tree → Bool)
    (visitAll : List Tree → Replacement → List Visit → Extraction →
      Option (List Visit × Extraction))
    (node : Tree) (parentReplacement : Replacement) (s : Extraction) :
    Option (List Visit × Extraction) :=
  if enter node then visitAll node.children parentReplacement [] s else some ([], s)

def visitNode (enter : Tree → Bool)
    (visitAll : List Tree → Replacement → List Visit → Extraction →
      Option (List Visit × Extraction))
    (node : Tree) (parentReplacement : Replacement) (visits : List Visit) (s : Extraction) :
    Option (List Visit × Bool × Extraction) := do
  let (inner, after) ← visitInner enter visitAll node parentReplacement s
  some (visits ++ [.mk node s.world inner], false, after)

/-- A traversal that visits all nodes. -/
def visitAll (files : XmlFiles) (watch : Extraction → Bool) (enter : Tree → Bool) :
    Nat → List Tree → Replacement → List Visit → Extraction →
    Option (List Visit × Extraction)
  | 0, _, _, _, _ => none
  | fuel + 1, children, replacement, visits, s =>
      forEach watch (extractInclude files watch fuel)
        (visitNode enter (visitAll files watch enter fuel)) fuel children replacement visits s

/-- The children of a node that are visited. -/
def entered (enter : Tree → Bool) (node : Tree) : List Tree :=
  if enter node then node.children else []

section

variable (files : XmlFiles) (watch : Extraction → Bool) (root : String) (enter : Tree → Bool)

/-- Textual inclusion while these files are expanded: an include that is to be replaced gives way to
what becomes of the children of its file; every other node is visited, and it then makes no
difference here whether the iterator has looked at it. -/
inductive Textual : List String → Replacement → List Tree → World →
    List Visit → World → Prop
  | nil (inside : List String) (parentReplacement : Replacement) (world : World) :
      Textual inside parentReplacement [] world [] world
  | stays {inside : List String} {parentReplacement : Replacement} {node : Tree}
      {rest : List Tree} {world looked visited after last : World} {inner visits : List Visit}
      (look : Expands files watch root inside parentReplacement node world looked none)
      (either : visited = looked ∨ visited = world)
      (below : Textual inside parentReplacement (entered enter node) visited inner after)
      (later : Textual inside parentReplacement rest after visits last) :
      Textual inside parentReplacement (node :: rest) world (.mk node visited inner :: visits) last
  | replaced {inside : List String} {parentReplacement replacement : Replacement} {node : Tree}
      {rest children : List Tree} {world looked after last : World} {inner visits : List Visit}
      {file : String}
      (look : Expands files watch root inside parentReplacement node world looked
        (some (file, children, replacement)))
      (own : Textual (file :: inside) replacement children looked inner after)
      (later : Textual inside parentReplacement rest after visits last) :
      Textual inside parentReplacement (node :: rest) world (inner ++ visits) last

/-- The traversal: behind an include that gives nothing, a node is visited without a look. -/
inductive Visits : Bool → List String → Replacement → List Tree → World →
    Bool → List Visit →
    World → Prop
  | nil (looks : Bool) (inside : List String) (parentReplacement : Replacement) (world : World) :
      Visits looks inside parentReplacement [] world looks [] world
  | stays {looks looks' looks'' : Bool} {inside : List String} {parentReplacement : Replacement}
      {node : Tree} {rest : List Tree} {world visited after last : World}
      {inner visits : List Visit}
      (own : Stays files watch root looks inside parentReplacement node world visited)
      (below : Visits true inside parentReplacement (entered enter node) visited looks' inner after)
      (later : Visits true inside parentReplacement rest after looks'' visits last) :
      Visits looks inside parentReplacement (node :: rest) world looks''
        (.mk node visited inner :: visits) last
  | empty {looks : Bool} {inside : List String} {parentReplacement replacement : Replacement}
      {node : Tree} {rest : List Tree} {world looked last : World} {visits : List Visit}
      {file : String}
      (look : Examined files watch root inside parentReplacement node world looked
        (some (file, [], replacement)))
      (later : Visits false inside parentReplacement rest looked looks visits last) :
      Visits true inside parentReplacement (node :: rest) world looks visits last
  | file {looks looks' : Bool} {inside : List String} {parentReplacement replacement : Replacement}
      {node : Tree} {rest children : List Tree} {world looked after last : World}
      {inner visits : List Visit} {file : String}
      (look : Examined files watch root inside parentReplacement node world looked
        (some (file, children, replacement)))
      (nonempty : children ≠ [])
      (own : Visits true (file :: inside) replacement children looked looks inner after)
      (later : Visits looks inside parentReplacement rest after looks' visits last) :
      Visits true inside parentReplacement (node :: rest) world looks' (inner ++ visits) last

/-- The same where no include that is to be replaced comes directly behind one that gives
nothing, and every file that a node asks for when the iterator looks at it can be read. -/
inductive Unhidden : Bool → List String → Replacement → List Tree → World →
    Bool → World → Prop
  | nil (looks : Bool) (inside : List String) (parentReplacement : Replacement) (world : World) :
      Unhidden looks inside parentReplacement [] world looks world
  | stays {looks looks' looks'' : Bool} {inside : List String} {parentReplacement : Replacement}
      {node : Tree} {rest : List Tree} {world looked after last : World}
      (look : Expands files watch root inside parentReplacement node world looked none)
      (readable : looks = true → Readable files watch root inside parentReplacement node world)
      (below : Unhidden true inside parentReplacement (entered enter node)
        (if looks then looked else world) looks' after)
      (later : Unhidden true inside parentReplacement rest after looks'' last) :
      Unhidden looks inside parentReplacement (node :: rest) world looks'' last
  | empty {looks : Bool} {inside : List String} {parentReplacement replacement : Replacement}
      {node : Tree} {rest : List Tree} {world looked last : World} {file : String}
      (look : Expands files watch root inside parentReplacement node world looked
        (some (file, [], replacement)))
      (later : Unhidden false inside parentReplacement rest looked looks last) :
      Unhidden true inside parentReplacement (node :: rest) world looks last
  | file {looks looks' : Bool} {inside : List String} {parentReplacement replacement : Replacement}
      {node : Tree} {rest children : List Tree} {world looked after last : World} {file : String}
      (look : Expands files watch root inside parentReplacement node world looked
        (some (file, children, replacement)))
      (nonempty : children ≠ [])
      (own : Unhidden true (file :: inside) replacement children looked looks after)
      (later : Unhidden looks inside parentReplacement rest after looks' last) :
      Unhidden true inside parentReplacement (node :: rest) world looks' last

end

/-- How many files have been included. -/
def World.included (world : World) : Nat := world.globalIncludedFiles.length

section

variable {files : XmlFiles} {watch : Extraction → Bool}

theorem lookAtInclude_grows {node : Tree} {inside : List String} {replacement : Replacement}
    {world after : World} {opened : Option (String × List Tree)}
    (look : lookAtInclude files node inside replacement world = (after, opened)) :
    world.included ≤ after.included ∧
    (opened.isSome = true → world.included < after.included) := by
  unfold lookAtInclude at look
  cases path : node.getOptional "path" with
  | none =>
      rw [path] at look
      obtain ⟨rfl, rfl⟩ := Prod.mk.inj look
      exact ⟨Nat.le_refl _, fun impossible => absurd impossible Bool.false_ne_true⟩
  | some path =>
      rw [path] at look
      dsimp only at look
      split at look
      · obtain ⟨rfl, rfl⟩ := Prod.mk.inj look
        exact ⟨Nat.le_refl _, fun impossible => absurd impossible Bool.false_ne_true⟩
      · split at look
        · obtain ⟨rfl, rfl⟩ := Prod.mk.inj look
          exact ⟨Nat.le_refl _, fun impossible => absurd impossible Bool.false_ne_true⟩
        · split at look
          · obtain ⟨rfl, rfl⟩ := Prod.mk.inj look
            refine ⟨?_, fun impossible => absurd impossible Bool.false_ne_true⟩
            simp [World.included, World.setError]
          · obtain ⟨rfl, rfl⟩ := Prod.mk.inj look
            simp [World.included]

/-- The run forgets no included file. -/
def Grows {α : Type} (run : α → Extraction → Option (α × Extraction)) : Prop :=
  ∀ a s b after, run a s = some (b, after) → s.world.included ≤ after.world.included

def ExtractGrows (extract : Nat → Extraction → Option Extraction) : Prop :=
  ∀ level s after, extract level s = some after → s.world.included ≤ after.world.included

theorem extractIncludeWith_grows {extract : Nat → Extraction → Option Extraction}
    {load : List Tree → Replacement → Replacement → Extraction →
      Option (Replacement × Extraction)}
    (extracts : ExtractGrows extract)
    (loads : ∀ children parentReplacement, Grows (load children parentReplacement)) :
    ExtractGrows (extractIncludeWith files extract load) := by
  intro level s after run
  unfold extractIncludeWith at run
  split at run
  · rw [Option.some.inj run]
  · split at run
    · rename_i it rest parentReplacement file below stack_eq
      split at run
      · rw [Option.some.inj run]
      · rw [Option.bind_eq_bind, Option.bind_eq_some_iff] at run
        obtain ⟨⟨own, loaded⟩, load_eq, run⟩ := run
        have first : s.world.included ≤ loaded.world.included := by
          unfold ownReplacement at load_eq
          split at load_eq
          · rw [(Prod.mk.inj (Option.some.inj load_eq)).2]
          · exact loads _ _ _ _ _ _ load_eq
        dsimp only at run
        generalize looked : lookAtInclude files it loaded.localIncludedFiles
          (Replacement.inherit own parentReplacement) loaded.world = result at run
        obtain ⟨world, opened⟩ := result
        have second := (lookAtInclude_grows looked).1
        cases opened with
        | none =>
            rw [← Option.some.inj run]
            exact Nat.le_trans first second
        | some pair =>
            obtain ⟨name, document⟩ := pair
            dsimp only at run
            have advanced (s : Extraction) : s.advance.world = s.world := by
              unfold Extraction.advance
              split <;> rfl
            split at run
            · rw [← Option.some.inj run]
              show s.world.included ≤ (Extraction.advance _).world.included
              rw [advanced]
              exact Nat.le_trans first second
            · rw [Option.bind_eq_bind, Option.bind_eq_some_iff] at run
              obtain ⟨inner, extract_eq, run⟩ := run
              have third := extracts _ _ _ extract_eq
              rw [← Option.some.inj run]
              apply Nat.le_trans first
              apply Nat.le_trans second
              have same : ((⟨loaded.stack, loaded.localIncludedFiles, world⟩ :
                  Extraction).advance.enterFile name (rootChildren document)
                    (Replacement.inherit own parentReplacement)).world = world := advanced _
              rw [same] at third
              exact third
    · rw [Option.some.inj run]

section

variable {α : Type} {extract : Nat → Extraction → Option Extraction}
  {body : Tree → Replacement → α → Extraction → Option (α × Bool × Extraction)}

theorem setNode_eq {s after : Extraction} (run : setNode watch s = some after) : after = s := by
  unfold setNode at run
  split at run
  · exact (Option.some.inj run).symm
  · cases run

theorem loop_grows (extracts : ExtractGrows extract)
    (bodies : ∀ node parentReplacement a s b left after,
      body node parentReplacement a s = some (b, left, after) →
      s.world.included ≤ after.world.included) (level fuel : Nat) :
    Grows (loop watch extract body level fuel) := by
  induction fuel with
  | zero =>
      intro a s b after run
      cases run
  | succ fuel ih =>
      intro a s b after run
      rw [loop] at run
      split at run
      · rw [(Prod.mk.inj (Option.some.inj run)).2]
      · split at run
        · rw [Option.bind_eq_bind, Option.bind_eq_some_iff] at run
          obtain ⟨⟨c, left, middle⟩, body_eq, run⟩ := run
          have first := bodies _ _ _ _ _ _ _ body_eq
          dsimp only at run
          split at run
          · rw [← (Prod.mk.inj (Option.some.inj run)).2]
            exact first
          · rw [Option.bind_eq_bind, Option.bind_eq_some_iff] at run
            obtain ⟨next, increment_eq, run⟩ := run
            rw [increment, Option.bind_eq_bind, Option.bind_eq_some_iff] at increment_eq
            obtain ⟨looked, extract_eq, set_eq⟩ := increment_eq
            have second := extracts _ _ _ extract_eq
            have third := ih _ _ _ _ run
            rw [setNode_eq set_eq] at third
            have same : (middle.advance.collapse level).world = middle.world := by
              show middle.advance.world = _
              unfold Extraction.advance
              split <;> rfl
            rw [same] at second
            omega
        · cases run

theorem forEach_grows (extracts : ExtractGrows extract)
    (bodies : ∀ node parentReplacement a s b left after,
      body node parentReplacement a s = some (b, left, after) →
      s.world.included ≤ after.world.included) (fuel : Nat) (children : List Tree)
    (replacement : Replacement) :
    Grows (forEach watch extract body fuel children replacement) := by
  intro a s b after run
  rw [forEach] at run
  dsimp only at run
  rw [Option.bind_eq_bind, Option.bind_eq_some_iff] at run
  obtain ⟨begun, start_eq, run⟩ := run
  rw [Option.bind_eq_bind, Option.bind_eq_some_iff] at run
  obtain ⟨⟨c, last⟩, loop_eq, run⟩ := run
  have second := loop_grows extracts bodies _ _ _ _ _ _ loop_eq
  have first : s.world.included ≤ begun.world.included := by
    unfold start at start_eq
    split at start_eq
    · rw [setNode_eq start_eq]
    · rw [Option.bind_eq_bind, Option.bind_eq_some_iff] at start_eq
      obtain ⟨looked, extract_eq, set_eq⟩ := start_eq
      have grown := extracts _ _ _ extract_eq
      rw [setNode_eq set_eq]
      exact grown
  rw [← (Prod.mk.inj (Option.some.inj run)).2]
  show _ ≤ last.world.included
  omega

end

/-- Neither extract_include_ nor the loader of replacements forgets an included file. -/
theorem code_grows (fuel : Nat) : ExtractGrows (extractInclude files watch fuel) ∧
    ∀ children parentReplacement,
      Grows (loadReplacement files watch fuel children parentReplacement) := by
  induction fuel with
  | zero =>
      constructor
      · intro level s after run
        cases run
      · intro children parentReplacement a s b after run
        cases run
  | succ fuel ih =>
      obtain ⟨extracts, loads⟩ := ih
      constructor
      · intro level s after run
        rw [extractInclude] at run
        exact extractIncludeWith_grows extracts loads level s after run
      · intro children parentReplacement a s b after run
        rw [loadReplacement] at run
        refine forEach_grows extracts ?_ fuel children parentReplacement a s b after run
        intro node parent a s b left after run
        unfold loadNode at run
        split at run
        · split at run
          · rw [(Prod.mk.inj (Prod.mk.inj (Option.some.inj run)).2).2]
          · rw [Option.bind_eq_bind, Option.bind_eq_some_iff] at run
            obtain ⟨⟨own, loaded⟩, load_eq, run⟩ := run
            rw [← (Prod.mk.inj (Prod.mk.inj (Option.some.inj run)).2).2]
            exact loads _ _ _ _ _ _ load_eq
        · rw [Option.bind_eq_bind, Option.bind_eq_some_iff] at run
          obtain ⟨⟨found, read⟩, read_eq, run⟩ := run
          have first := forEach_grows extracts (by
            intro node parent found s found' left after run
            unfold readReplacement at run
            split at run
            · rw [(Prod.mk.inj (Prod.mk.inj (Option.some.inj run)).2).2]
            · split at run <;> rw [(Prod.mk.inj (Prod.mk.inj (Option.some.inj run)).2).2])
            fuel node.children parent (none, none) s found read read_eq
          rw [← (Prod.mk.inj (Prod.mk.inj (Option.some.inj run)).2).2]
          show s.world.included ≤
            (addReplacement found a read.world).2.globalIncludedFiles.length
          rw [addReplacement_globalIncludedFiles]
          exact first

end

section

variable {files : XmlFiles} {watch : Extraction → Bool} {root : String} {enter : Tree → Bool}

section

variable {inside : List String} {stack : List Frame}

theorem leave_included (world : World) (inside : List String) (node : Tree) :
    world.included ≤ (world.leave inside node).included := by
  unfold World.leave
  split
  · exact Nat.le_refl _
  · split
    · simp [World.included, World.setError]
    · exact Nat.le_refl _

theorem Loads.grows {children : List Tree} {parentReplacement : Replacement}
    {before after : Replacement × World} (sound : Sound root stack inside)
    (loads : Loads files watch root inside children parentReplacement before after) :
    before.2.included ≤ after.2.included := by
  obtain ⟨fuel, load_eq⟩ := (loads stack sound).exists
  exact (code_grows fuel).2 _ _ _ _ _ _ load_eq

theorem Expands.grows {parentReplacement : Replacement} {node : Tree} {world after : World}
    {opened : Option (String × List Tree × Replacement)} (sound : Sound root stack inside)
    (expands : Expands files watch root inside parentReplacement node world after opened) :
    world.included ≤ after.included ∧
      (opened.isSome = true → world.included < after.included) := by
  cases expands with
  | other tag => exact ⟨Nat.le_refl _, fun impossible => absurd impossible Bool.false_ne_true⟩
  | stays tag loads unreadable =>
      refine ⟨?_, fun impossible => absurd impossible Bool.false_ne_true⟩
      exact Nat.le_trans (loads.grows sound) (leave_included _ inside node)
  | replaced loads wanted there =>
      rename_i loaded own file read
      have grown : (loaded.reads file (read (Replacement.inherit own parentReplacement))).included =
          loaded.included + 1 := by
        simp [World.included, World.reads]
      have first : world.included ≤ loaded.included := loads.grows sound
      rw [grown]
      exact ⟨by omega, fun _ => by omega⟩

theorem Expands.entered {parentReplacement replacement : Replacement} {node : Tree}
    {world after : World} {file : String} {children : List Tree}
    (expands : Expands files watch root inside parentReplacement node world after
      (some (file, children, replacement))) (sound : Sound root stack inside) :
    Sound root (⟨children, replacement, some file⟩ :: stack) (file :: inside) :=
  sound.enterFile expands.fresh children replacement

/-- Where the iterator stays at a node, the node asks for no file that is missing. -/
theorem Examined.readable {parentReplacement : Replacement} {node : Tree} {world after : World}
    (sound : Sound root stack inside)
    (look : Examined files watch root inside parentReplacement node world after none) :
    Readable files watch root inside parentReplacement node world := by
  by_contra missing
  obtain ⟨-, ⟨file, replacement, shape⟩, -⟩ := look.caution sound missing
  cases shape

/-- A caution begins with an item. -/
theorem Visits.caution_head {looks looks' : Bool} {inside : List String} {replacement : Replacement}
    {world last : World} {visits : List Visit} {file : String}
    (actual : Visits files watch root enter looks inside replacement (caution file).children world
      looks' visits last) :
    ∃ node seen inner rest, node.tag ≠ "include" ∧ visits = .mk node seen inner :: rest := by
  have other : "item" ≠ "include" := by decide
  cases actual with
  | stays own below later =>
      refine ⟨_, _, _, _, ?_, rfl⟩
      exact other
  | empty look later =>
      generalize shape : some (_, _, _) = opened at look
      cases look with
      | other tag => cases shape
      | included tag => exact absurd tag other
  | file look nonempty own later =>
      generalize shape : some (_, _, _) = opened at look
      cases look with
      | other tag => cases shape
      | included tag => exact absurd tag other

end

/-- Textual inclusion forgets no included file. -/
theorem Textual.grows {inside : List String} {parentReplacement : Replacement}
    {nodes : List Tree} {world last : World} {visits : List Visit}
    (textual : Textual files watch root enter inside parentReplacement nodes world visits last)
    {stack : List Frame} (sound : Sound root stack inside) :
    world.included ≤ last.included ∧ ∀ visit ∈ visits,
    world.included ≤ visit.world.included := by
  induction textual generalizing stack with
  | nil inside parentReplacement world => exact ⟨Nat.le_refl _, fun _ none => by cases none⟩
  | stays look either below later ih ih' =>
      rename_i world looked visited _ _ _ _
      have first := (look.grows sound).1
      have seen : world.included ≤ visited.included := by
        rcases either with rfl | rfl
        · exact first
        · exact Nat.le_refl _
      have second := (ih sound).1
      obtain ⟨third, rest⟩ := ih' sound
      refine ⟨by omega, ?_⟩
      intro visit member
      rcases List.mem_cons.1 member with rfl | behind
      · exact seen
      · have fourth := rest visit behind
        omega
  | replaced look own later ih ih' =>
      have first := (look.grows sound).1
      obtain ⟨second, inner⟩ := ih (look.entered sound)
      obtain ⟨third, rest⟩ := ih' sound
      refine ⟨by omega, ?_⟩
      intro visit member
      rcases List.mem_append.1 member with within | behind
      · have fourth := inner visit within
        omega
      · have fourth := rest visit behind
        omega

/-- Where the visits of the traversal begin like those of textual inclusion, no include is
hidden, and they are the same. -/
theorem Visits.unhidden {looks looks' : Bool} {inside : List String}
    {parentReplacement : Replacement} {nodes : List Tree} {world last last' : World}
    {visits visits' : List Visit}
    (actual : Visits files watch root enter looks inside parentReplacement nodes world looks'
      visits last)
    (textual : Textual files watch root enter inside parentReplacement nodes world visits' last')
    {stack : List Frame} (sound : Sound root stack inside) {more more' : List Visit}
    (same : visits ++ more = visits' ++ more')
    (behind : ∀ visit ∈ more', last'.included ≤ visit.world.included) :
    Unhidden files watch root enter looks inside parentReplacement nodes world looks' last ∧
      visits = visits' ∧ last = last' := by
  induction actual generalizing visits' last' stack more more' with
  | nil looks inside parentReplacement world =>
      cases textual with
      | nil => exact ⟨.nil _ _ _ _, rfl, rfl⟩
  | stays own below later ih ih' =>
      rename_i looks _ _ inside parentReplacement node _ world visited _ _ seen rest
      have readable : looks = true →
          Readable files watch root inside parentReplacement node world := by
        rintro rfl
        exact Examined.readable sound own
      have place {looked : World} (look : Expands files watch root inside parentReplacement node
          world looked none) : (if looks then looked else world) = visited := by
        cases looks with
        | true => exact (look.unique sound (Examined.expands own (readable rfl))).1
        | false => exact own.symm
      cases textual with
      | stays look either below' later' =>
          rw [List.cons_append, List.cons_append] at same
          obtain ⟨head, tail⟩ := List.cons.inj same
          obtain ⟨rfl, inner⟩ := Visit.mk.inj head |>.2
          obtain ⟨unhidden, _, rfl⟩ := ih below' sound
            (congrArg (· ++ []) inner) (fun _ none => by cases none)
          obtain ⟨unhidden', rfl, rfl⟩ := ih' later' sound tail behind
          rw [← place look] at unhidden
          exact ⟨.stays look readable unhidden unhidden', by rw [inner], rfl⟩
      | replaced look own' later' =>
          exfalso
          cases looks with
          | true =>
              have clash := (look.unique sound (Examined.expands own (readable rfl))).2
              cases clash
          | false =>
              -- The visit of the include stands where every other one is behind its file.
              have unseen : visited = world := own
              have grown := (look.grows sound).2 rfl
              obtain ⟨first, inner⟩ := own'.grows (look.entered sound)
              obtain ⟨second, rest'⟩ := later'.grows sound
              have head : Visit.mk node visited seen ∈ _ ++ more' :=
                same ▸ List.mem_append_left more List.mem_cons_self
              have later_seen : world.included < visited.included := by
                rcases List.mem_append.1 head with within | further
                · rcases List.mem_append.1 within with member | member
                  · exact Nat.lt_of_lt_of_le grown (inner _ member)
                  · exact Nat.lt_of_lt_of_le grown (Nat.le_trans first (rest' _ member))
                · exact Nat.lt_of_lt_of_le grown
                    (Nat.le_trans first (Nat.le_trans second (behind _ further)))
              rw [unseen] at later_seen
              exact Nat.lt_irrefl _ later_seen
  | empty look later ih =>
      rename_i inside parentReplacement replacement node _ world _ _ _ file
      have readable : Readable files watch root inside parentReplacement node world := by
        by_contra missing
        obtain ⟨-, ⟨file, replacement, shape⟩, -⟩ := look.caution sound missing
        cases shape
      have expands := look.expands readable
      cases textual with
      | stays look' either below' later' =>
          have clash := (expands.unique sound look').2
          cases clash
      | replaced look' own later' =>
          obtain ⟨rfl, shape⟩ := expands.unique sound look'
          cases shape
          cases own with
          | nil =>
              obtain ⟨unhidden, visits_eq, last_eq⟩ := ih later' sound same behind
              exact ⟨.empty expands unhidden, visits_eq, last_eq⟩
  | file look nonempty own later ih ih' =>
      rename_i looks _ inside parentReplacement replacement node rest children world _ _ _ _ _ file
      by_cases readable : Readable files watch root inside parentReplacement node world
      · have expands := look.expands readable
        cases textual with
        | stays look' either below' later' =>
            have clash := (expands.unique sound look').2
            cases clash
        | replaced look' own' later' =>
            obtain ⟨rfl, shape⟩ := expands.unique sound look'
            cases shape
            obtain ⟨second, rest⟩ := later'.grows sound
            rw [List.append_assoc, List.append_assoc] at same
            obtain ⟨unhidden, rfl, rfl⟩ := ih own' (expands.entered sound) same (by
              intro visit member
              rcases List.mem_append.1 member with within | further
              · exact rest visit within
              · exact Nat.le_trans second (behind visit further))
            obtain ⟨unhidden', rfl, rfl⟩ :=
              ih' later' sound (List.append_cancel_left same) behind
            exact ⟨.file expands nonempty unhidden unhidden', rfl, rfl⟩
      · -- The traversal visits the caution, textual inclusion the include.
        exfalso
        obtain ⟨tag, ⟨name, other, shape⟩, nothing⟩ := look.caution sound readable
        obtain ⟨rfl, rest_eq⟩ := Prod.mk.inj (Option.some.inj shape)
        obtain ⟨rfl, rfl⟩ := Prod.mk.inj rest_eq
        obtain ⟨first, seen, inner, others, different, rfl⟩ := own.caution_head
        cases textual with
        | stays look' either below' later' =>
            obtain ⟨head, -⟩ := List.cons.inj same
            exact different ((Visit.mk.inj head).1 ▸ tag)
        | replaced look' own' later' =>
            have clash := nothing _ _ look'
            cases clash

/-- Where no include is hidden, the traversal is textual inclusion. -/
theorem Unhidden.visits {looks looks' : Bool} {inside : List String}
    {parentReplacement : Replacement} {nodes : List Tree} {world last : World}
    (unhidden : Unhidden files watch root enter looks inside parentReplacement nodes world looks'
      last) :
    ∃ visits, Visits files watch root enter looks inside parentReplacement nodes world looks'
        visits last ∧
      Textual files watch root enter inside parentReplacement nodes world visits last := by
  induction unhidden with
  | nil looks inside parentReplacement world => exact ⟨[], .nil _ _ _ _, .nil _ _ _⟩
  | stays look readable below later ih ih' =>
      rename_i looks _ _ inside parentReplacement node _ world looked _ _
      obtain ⟨inner, actual, textual⟩ := ih
      obtain ⟨visits, actual', textual'⟩ := ih'
      have own : Stays files watch root looks inside parentReplacement node world
          (if looks then looked else world) := by
        cases looks with
        | true => exact look.examined fun _ => readable rfl
        | false => exact rfl
      have either : (if looks then looked else world) = looked ∨
          (if looks then looked else world) = world := by
        cases looks with
        | true => exact .inl rfl
        | false => exact .inr rfl
      exact ⟨_, .stays own actual actual', .stays look either textual textual'⟩
  | empty look later ih =>
      obtain ⟨visits, actual, textual⟩ := ih
      exact ⟨visits, .empty (look.examined fun staying => by cases staying) actual,
        .replaced look (.nil _ _ _) textual⟩
  | file look nonempty own later ih ih' =>
      obtain ⟨inner, actual, textual⟩ := ih
      obtain ⟨visits, actual', textual'⟩ := ih'
      exact ⟨_, .file (look.examined fun staying => by cases staying) nonempty actual actual',
        .replaced look textual textual'⟩

variable (watched : ∀ s : Extraction, Sound root s.stack s.localIncludedFiles → watch s = true)

include watched

theorem visits_total (inside : List String) (nodes : List Tree) :
    ∀ (looks : Bool) (parentReplacement : Replacement) (world : World), ∃ looks' visits last,
      Visits files watch root enter looks inside parentReplacement nodes world looks'
      visits last := by
  revert inside nodes
  apply include_induction (fun inside nodes => ∀ (looks : Bool) (parentReplacement : Replacement)
    (world : World), ∃ looks' visits last, Visits files watch root enter looks inside
      parentReplacement nodes world looks' visits last) files
  · exact fun inside looks parentReplacement world => ⟨_, _, _, .nil looks inside _ world⟩
  · intro inside node rest below later deeper looks parentReplacement world
    have entered_total (looks : Bool) (world : World) : ∃ looks' visits last,
        Visits files watch root enter looks inside parentReplacement (entered enter node) world
          looks' visits last := by
      unfold entered
      split
      · exact below looks parentReplacement world
      · exact ⟨_, _, _, .nil looks inside parentReplacement world⟩
    have passes {visited : World}
        (stays : Stays files watch root looks inside parentReplacement node world visited) :
        ∃ looks' visits last, Visits files watch root enter looks inside parentReplacement
          (node :: rest) world looks' visits last := by
      obtain ⟨_, inner, after, own⟩ := entered_total true visited
      obtain ⟨looks', visits, last, behind⟩ := later true parentReplacement after
      exact ⟨_, _, _, .stays stays own behind⟩
    cases looks with
    | false => exact passes (show Stays files watch root false _ _ _ _ world from rfl)
    | true =>
        by_cases tag : node.tag = "include"
        · obtain ⟨⟨own, loaded⟩, loads⟩ :=
            loads_total watched inside node.children parentReplacement ([], world)
          generalize looked : lookAtInclude files node inside
            (Replacement.inherit own parentReplacement) loaded = result
          obtain ⟨examined, opened⟩ := result
          have look := Examined.included tag loads looked
          cases opened with
          | none => exact passes look
          | some pair =>
              obtain ⟨file, document⟩ := pair
              obtain ⟨outside, content⟩ := lookAtInclude_fresh looked
              by_cases empty : rootChildren document = []
              · obtain ⟨looks', visits, last, behind⟩ := later false parentReplacement examined
                rw [Option.map_some, empty] at look
                exact ⟨_, _, _, .empty look behind⟩
              · have inner := deeper tag file outside (Replacement.inherit own parentReplacement)
                rw [← content] at inner
                obtain ⟨looks', visits, after, course⟩ := inner true
                  (Replacement.inherit own parentReplacement) examined
                obtain ⟨looks'', visits', last, behind⟩ := later looks' parentReplacement after
                exact ⟨_, _, _, .file look empty course behind⟩
        · exact passes (Examined.other tag)

/-- The visits are the course of the traversal. -/
theorem Visits.course {looks looks' : Bool} {inside : List String}
    {parentReplacement : Replacement} {nodes : List Tree} {world last : World}
    {visits : List Visit}
    (actual : Visits files watch root enter looks inside parentReplacement nodes world looks'
      visits last) (before : List Visit) :
    Course files watch root (fun fuel => visitNode enter (visitAll files watch enter fuel)) looks
      inside parentReplacement nodes (before, world) (.through looks')
      (before ++ visits, last) := by
  induction actual generalizing before with
  | nil looks inside parentReplacement world =>
      rw [List.append_nil]
      exact .nil looks inside parentReplacement (before, world)
  | stays own below later ih ih' =>
      rename_i inside parentReplacement node _ _ visited after _ inner visits
      have does : Does root (fun fuel => visitNode enter (visitAll files watch enter fuel)) inside
          parentReplacement node (before, visited) false
          (before ++ [.mk node visited inner], after) := by
        intro stack sound
        have inner_eq : Returns (fun fuel => visitInner enter (visitAll files watch enter fuel)
            node parentReplacement ⟨stack, inside, visited⟩)
            (inner, ⟨stack, inside, after⟩) := by
          unfold visitInner
          by_cases enters : enter node = true
          · have course := ih []
            rw [entered, if_pos enters] at course
            apply Returns.of_succ
            filter_upwards [course.forEach_returns watched sound] with fuel run
            rw [if_pos enters]
            exact run
          · rw [entered, if_neg enters] at below
            cases below with
            | nil =>
                apply Eventually.of_forall
                intro fuel
                dsimp only
                rw [if_neg enters]
        filter_upwards [inner_eq] with fuel run
        rw [visitNode, run]
        rfl
      have behind := ih' (before ++ [.mk node visited inner])
      rw [List.append_assoc] at behind
      exact .visit own does behind
  | empty look later ih => exact .empty look (ih before)
  | file look nonempty own later ih ih' =>
      rename_i inner _ _
      have behind := ih' (before ++ inner)
      rw [List.append_assoc] at behind
      exact .file look nonempty (ih before) behind

theorem Visits.returns {looks : Bool} {children : List Tree} {replacement : Replacement}
    {world last : World} {visits : List Visit}
    (actual : Visits files watch root enter true [root] replacement children world looks visits
      last) :
    Returns (fun fuel => visitAll files watch enter fuel children replacement []
      ⟨[], [root], world⟩) (visits, ⟨[], [root], last⟩) := by
  have begins : Sound root [] [root] := ⟨rfl, by simp⟩
  apply Returns.of_succ
  exact (actual.course watched []).forEach_returns watched begins

end

/-- The visits of a traversal are those of textual inclusion, level by level, exactly if no
include that is to be replaced comes directly behind one that gives nothing, and no include that is
looked at asks for a file that cannot be read. -/
theorem visits_textual_iff_unhidden (files : XmlFiles) (root : String) (enter : Tree → Bool)
    (children : List Tree) (replacement : Replacement) (world : World) :
    let code : Extraction → Bool := fun _ => true
    ∃ visits after,
      Returns (fun fuel => visitAll files code enter fuel children replacement []
        ⟨[], [root], world⟩) (visits, ⟨[], [root], after⟩) ∧
      ((∃ last, Textual files code root enter [root] replacement children world visits last) ↔
        ∃ looks last, Unhidden files code root enter true [root] replacement children world looks
          last) := by
  intro code
  have watched (s : Extraction) (_ : Sound root s.stack s.localIncludedFiles) : code s = true := rfl
  have begins : Sound root [] [root] := ⟨rfl, by simp⟩
  have total : ∃ looks visits last, Visits files code root enter true [root] replacement children
      world looks visits last := visits_total watched [root] children true replacement world
  obtain ⟨looks, visits, after, actual⟩ := total
  refine ⟨visits, after, actual.returns watched, ?_, ?_⟩
  · rintro ⟨last, textual⟩
    have same : visits ++ [] = visits ++ [] := rfl
    exact ⟨looks, after,
      (actual.unhidden textual begins same (fun _ none => by cases none)).1⟩
  · rintro ⟨looks', last, unhidden⟩
    obtain ⟨visits', actual', textual⟩ := unhidden.visits
    have equal := (actual.returns watched).unique (actual'.returns watched)
    rw [(Prod.mk.inj equal).1]
    exact ⟨last, textual⟩

/-- An include of another file without once is replaced. -/
theorem Expands.opens {files : XmlFiles} {watch : Extraction → Bool} {root : String}
    {inside : List String} {parentReplacement : Replacement} {node : Tree}
    {world after : World} {opened : Option (String × List Tree × Replacement)}
    (expands : Expands files watch root inside parentReplacement node world after opened)
    {file : String} {read : Replacement → Reading} (tag : node.tag = "include")
    (path : named inside node = some file) (always : node.getOptional "once" = none)
    (nonempty : file ≠ "") (outside : file ∉ inside) (there : files.lookup file = some read) :
    ∃ replacement,
      opened = some (file, rootChildren (read replacement).document, replacement) := by
  have wanted (loaded : World) : Wanted inside node loaded file := by
    refine ⟨tag, path, nonempty, fun once => ?_, outside⟩
    rw [always] at once
    cases once
  cases expands with
  | other different => exact absurd tag different
  | stays _ loads unreadable =>
      rw [unreadable file (wanted _)] at there
      cases there
  | replaced loads wanted' there' =>
      obtain rfl := (wanted _).unique wanted'
      obtain rfl := Option.some.inj (there.symm.trans there')
      exact ⟨_, rfl⟩

def includeOf (path : String) : Tree :=
  .node "include" "" [.node "<xmlattr>" "" [.node "path" path []]]

/-- A file whose root is empty, and one with an item. -/
def emptyAndFilled : XmlFiles := [("/empty.xml", fun _ => ⟨[.node "root" "" []], none, ""⟩),
  ("/filled.xml", fun _ => ⟨[.node "root" "" [.node "item" "" []]], none, ""⟩)]

/-- Behind an include of an empty file, the next one is visited as it is. -/
theorem hidden_include_not_textual :
    ¬ ∀ (files : XmlFiles) (root : String) (enter : Tree → Bool) (children : List Tree)
      (replacement : Replacement) (world : World) (visits : List Visit) (after : Extraction),
      Returns (fun fuel => visitAll files (fun _ => true) enter fuel children replacement []
        ⟨[], [root], world⟩) (visits, after) →
      ∃ last, Textual files (fun _ => true) root enter [root] replacement children world visits
        last := by
  intro always
  have watched (s : Extraction) (_ : Sound "/root.xml" s.stack s.localIncludedFiles) :
      (fun _ : Extraction => true) s = true := rfl
  have begins : Sound "/root.xml" [] ["/root.xml"] := ⟨rfl, by simp⟩
  have total : ∃ looks visits last, Visits emptyAndFilled (fun _ => true) "/root.xml"
      (fun _ => true) true ["/root.xml"] [] [includeOf "empty.xml", includeOf "filled.xml"] {} looks
      visits last := visits_total watched ["/root.xml"] _ true [] {}
  obtain ⟨looks, visits, after, actual⟩ := total
  obtain ⟨last, textual⟩ := always _ _ _ _ _ _ _ _ (actual.returns watched)
  have same : visits ++ [] = visits ++ [] := rfl
  obtain ⟨unhidden, _⟩ := actual.unhidden textual begins same fun _ none => by cases none
  have resolves : named ["/root.xml"] (includeOf "empty.xml") = some "/empty.xml" ∧
      named ["/root.xml"] (includeOf "filled.xml") = some "/filled.xml" := by decide +kernel
  cases unhidden with
  | stays look readable below later =>
      obtain ⟨replacement, opened⟩ := look.opens rfl resolves.1 rfl (by decide) (by decide) rfl
      cases opened
  | empty look later =>
      cases later with
      | stays look readable below later =>
          obtain ⟨replacement, opened⟩ :=
            look.opens rfl resolves.2 rfl (by decide) (by decide) rfl
          cases opened
  | file look nonempty own later =>
      obtain ⟨replacement, opened⟩ := look.opens rfl resolves.1 rfl (by decide) (by decide) rfl
      obtain ⟨_, children_eq⟩ := Prod.mk.inj (Option.some.inj opened)
      exact nonempty (Prod.mk.inj children_eq).1

end Karabiner
