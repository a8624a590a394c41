import Karabiner.Traced
import Mathlib.Algebra.Group.Nat.Defs

set_option autoImplicit false

/- pqrs::file_path. The events are the indices that path[i] is read or written at. -/
namespace Karabiner.FilePath

/-- An index in front of the first one wraps around. -/
def pred (pos : Nat) : Nat := if pos = 0 then 2 ^ 64 - 1 else pos - 1

def read (path : List Char) (i : Nat) : Traced Nat Char := .emit [i] (path.getD i default)

def write (path : List Char) (i : Nat) (c : Char) : Traced Nat (List Char) :=
  .emit [i] (path.set i c)

/-- The conjunction stops at the first comparison that fails. -/
def compare (path : List Char) : List (Nat × Char) → Traced Nat Bool
  | [] => pure true
  | (i, c) :: rest => do
      let own ← read path i
      if own = c then compare path rest else pure false

/-- path.rfind('/', pos) -/
def rfind (path : List Char) (pos : Nat) : Option Nat :=
  let before := path.take (pos + 1)
  (before.reverse.findIdx? (· = '/')).map (before.length - 1 - ·)

/-- get_dirname_position from a position on; there is none for npos. -/
def getDirnamePosition (path : List Char) (pos : Option Nat) : Traced Nat Nat := do
  if path.isEmpty then return 0
  let pos := pos.getD (path.length - 1)
  if path.length ≤ pos then return 0
  let c ← read path pos
  if pos = 0 then return if c = '/' then 1 else 0
  match rfind path (if c = '/' then pos - 1 else pos) with
  | none => return 0
  | some 0 => return 1
  | some i => return i

def processDot (path : List Char) (pos : Nat) : Traced Nat Nat := do
  if path.isEmpty then return pos
  if 2 < pos then
    if ← compare path [(pos - 2, '/'), (pos - 1, '.')] then return pos - 2
  if pos = 1 then
    if ← compare path [(0, '.')] then return 0
  return pos

def processDotdot (path : List Char) (pos : Nat) : Traced Nat Nat := do
  if 4 < pos then
    if ← compare path [(pos - 5, '.'), (pos - 4, '.'), (pos - 3, '/'), (pos - 2, '.'),
        (pos - 1, '.')] then return pos
  if 2 < pos then
    if ← compare path [(pos - 3, '/'), (pos - 2, '.'), (pos - 1, '.')] then
      return ← getDirnamePosition path (some (pos - 3))
  return pos

def dirname (path : String) : Traced Nat String := do
  let pos ← getDirnamePosition path.toList none
  return if pos = 0 then "." else .ofList (path.toList.take pos)

/-- Whether normalize leaves out the character at src, and where it writes next. -/
def place (path : List Char) (dest src : Nat) : Traced Nat (Bool × Nat) := do
  if ← compare path [(pred dest, '/'), (src, '/')] then return (true, dest)
  let c ← read path src
  if c = '/' then
    let dest ← processDot path dest
    let dest ← processDotdot path dest
    if dest = 0 then
      let first ← read path 0
      return (first ≠ '/', dest)
    else
      let before ← read path (dest - 1)
      return (before = '/', dest)
  else return (false, dest)

/-- A round of the loop of normalize. -/
def normalizeRound (state : List Char × Nat) (src : Nat) : Traced Nat (List Char × Nat) := do
  let (path, dest) := state
  let (skipped, dest) ← place path dest src
  if skipped then return (path, dest)
  else if dest = src then return (path, dest + 1)
  else
    let c ← read path src
    let path ← write path dest c
    return (path, dest + 1)

def normalize (path : String) : Traced Nat String := do
  let path := path.toList
  if path.isEmpty then return "."
  let (path, dest) ← (List.range' 1 (path.length - 1)).foldlM normalizeRound (path, 1)
  let dest ← processDot path dest
  let dest ← processDotdot path dest
  if dest = 0 then
    let path ← write path 0 '.'
    return .ofList (path.take 1)
  else return .ofList (path.take dest)

/-- xml_compiler::make_file_path -/
def makeFilePath (baseDirectory path : String) : Traced Nat String :=
  normalize (if "/".toList.isPrefixOf path.toList then path else baseDirectory ++ "/" ++ path)

example : (makeFilePath "/a/./b//c/.." "../d.xml").value = "/a/d.xml" := by decide +kernel

end Karabiner.FilePath
