import GolfProgress.Files.Path
import Std.Data.HashMap

/-!
# File trees

Directories and files in memory, by their places below the root.  A path is
followed part by part from the root or from the working directory; every part
but the last has to lead through a directory that is there.

Making directories keeps those that were made before one could not be.
-/

set_option autoImplicit false

namespace GolfProgress

/-- What may stand at a place. -/
inductive FileNode where
  | directory
  | file (content : List UInt8)
deriving DecidableEq, Repr, Inhabited

/-- The parts that lead from the root to a place. -/
abbrev Place := List String

/-- Directories and files, and the working directory. -/
structure FileTree where
  nodes : Std.HashMap Place FileNode := {}
  home : Place := []
deriving Repr, Inhabited

namespace FileTree

/-- What stands at a place; the root is always a directory. -/
def find? (tree : FileTree) (place : Place) : Option FileNode :=
  if place = [] then some .directory else tree.nodes[place]?

/-- The tree with something put at a place. -/
def put (tree : FileTree) (place : Place) (node : FileNode) : FileTree :=
  { tree with nodes := tree.nodes.insert place node }

/-- Where a path begins. -/
def start (tree : FileTree) (path : String) : Place :=
  if Path.isAbsolute path then [] else tree.home

/-- The place that one part leads to. -/
def step (place : Place) (part : String) : Place :=
  if part = "" ∨ part = "." then place
  else if part = ".." then place.dropLast
  else place ++ [part]

def directory? (tree : FileTree) : Place → List String → Option Place
  | place, [] => if tree.find? place = some .directory then some place else none
  | place, part :: rest =>
    if tree.find? place = some .directory then tree.directory? (step place part) rest else none

/-- The place in a directory that a path names; none when the path can only name
a directory. -/
def target? (tree : FileTree) (path : String) : Option Place := do
  let parts := Path.parts path
  let last ← parts.getLast?
  if last = "" ∨ last = "." ∨ last = ".." then none
  return (← tree.directory? (tree.start path) parts.dropLast) ++ [last]

/-- What a path leads to. -/
def look? (tree : FileTree) (path : String) : Option FileNode :=
  if !Path.isUsable path then none
  else match tree.target? path with
    | some place => tree.find? place
    | none =>
      if path = "" then none
      else (tree.directory? (tree.start path) (Path.parts path)).map fun _ => .directory

/-- Makes every directory that some parts lead through; whether they are all there
then.  A file may stand in the way, or a part may be no name. -/
def makeThrough (tree : FileTree) (place : Place) : List String → Bool × FileTree
  | [] => (true, tree)
  | part :: rest =>
    let next := step place part
    match tree.find? next with
    | some .directory => tree.makeThrough next rest
    | some (.file _) => (false, tree)
    | none =>
      if Path.isName part then (tree.put next .directory).makeThrough next rest
      else (false, tree)

/-- Makes the directory that a path names, and those around it; whether they are
all there then. -/
def makeDirectories (tree : FileTree) (path : String) : Bool × FileTree :=
  if Path.isUsable path then tree.makeThrough (tree.start path) (Path.parts path)
  else (false, tree)

/-- The tree with a file written; none when it cannot stand there. -/
def write? (tree : FileTree) (path : String) (content : List UInt8) : Option FileTree := do
  let place ← tree.target? path
  if Path.isUsable path && place.getLast?.all Path.isName &&
      tree.find? place ≠ some .directory then
    some (tree.put place (.file content))
  else none

/-- What is put at a place is found there. -/
theorem find?_put (tree : FileTree) (place : Place) (node : FileNode) (inner : place ≠ []) :
    (tree.put place node).find? place = some node := by
  simp [put, find?, inner]

/-- What is put at a place changes no other. -/
theorem find?_put_of_ne (tree : FileTree) (place other : Place) (node : FileNode)
    (differs : other ≠ place) : (tree.put place node).find? other = tree.find? other := by
  simp [put, find?, Std.HashMap.getElem?_insert, differs.symm]

end FileTree

end GolfProgress
