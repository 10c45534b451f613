import ServiceContainer.Failure
import ServiceContainer.Path

/-!
A tree of files and directories, and what reading and writing paths in it does. Nothing exists outside the
tree, so paths that lead out of it lead nowhere.
-/

namespace ServiceContainer

inductive FileNode where
  | directory
  | file (content : ByteArray)

/-- Where a node is: the names on the way to it from the top. -/
abbrev Place := List String

/-- Nodes by place; of several for one place, the first counts. -/
structure FileTree where
  nodes : List (Place × FileNode) := []

namespace FileTree

def node? (tree : FileTree) (place : Place) : Option FileNode :=
  if place = [] then some .directory else tree.nodes.lookup place

def put (tree : FileTree) (place : Place) (node : FileNode) : FileTree := ⟨(place, node) :: tree.nodes⟩

/-- Puts a node into the tree, and a directory at every place on the way to it. -/
def add (tree : FileTree) (path : Path) (node : FileNode) : FileTree :=
  let place := path.steps
  let ancestors := (List.range place.length).map place.take
  (ancestors.foldl (fun tree ancestor => tree.put ancestor .directory) tree).put place node

def requireDirectory (tree : FileTree) (place : Place) : Except FileFailure Unit :=
  match tree.node? place with
  | some .directory => .ok ()
  | _ => .error .notADirectory

/-- Goes one step on from a directory. -/
def enter (tree : FileTree) (place : Place) (step : String) : Except FileFailure Place := do
  tree.requireDirectory place
  if step = "." then return place
  else if step = ".." then
    if place = [] then throw .notFound else return place.dropLast
  else if (tree.node? (place ++ [step])).isSome then return place ++ [step]
  else throw .notFound

def follow (tree : FileTree) (path : Path) (steps : List String) : Except FileFailure Place :=
  if '\x00' ∈ path.toList then .error .nulInPath
  else if path = "" || path.isAbsolute then .error .notFound
  else steps.foldlM tree.enter []

def read (tree : FileTree) (path : Path) : Except FileFailure String := do
  let place ← tree.follow path path.steps
  if path.endsInSlash then tree.requireDirectory place
  match tree.node? place with
  | some (.file content) => (String.fromUTF8? content).elim (throw .notUtf8) pure
  | _ => throw .isADirectory

/-- Where writing to a path puts the file. Its directory must exist. -/
def target (tree : FileTree) (path : Path) : Except FileFailure Place := do
  let directory ← tree.follow path path.steps.dropLast
  tree.requireDirectory directory
  let name := path.steps.getLast?.getD "."
  if path.endsInSlash || name = "." || name = ".." then throw .isADirectory
  match tree.node? (directory ++ [name]) with
  | some .directory => throw .isADirectory
  | _ => return directory ++ [name]

def write (tree : FileTree) (path : Path) (text : String) : Except FileFailure FileTree :=
  (tree.target path).map fun place => tree.put place (.file text.toUTF8)

end FileTree

end ServiceContainer
