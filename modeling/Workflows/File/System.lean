import Workflows.File.Fault
import Workflows.Text.Search

/-!
# File systems

A file system is a tree of files and directories, kept by their paths in short form (the names on the way
from the root, with slashes between them), the newest first, which is the order that a directory is read
in. Paths given to the operations start at the root or in the working directory, and may also hold empty
names, points and the way back to the directory before.

* `FileSystem.locate`: where a path leads to;
* `FileSystem.read`, `.write`, `.rename`, `.makeDirectories`, `.entries`: the operations, which fail as the
  system does;
* `FileSystem.files`: the paths of all files below the working directory.
-/

namespace Workflows

/-- A file with its text, or a directory. -/
inductive FileNode where
  | file (text : String)
  | directory
  deriving DecidableEq

/-- A place: the names on the way to it from the root. -/
abbrev Place := List String

/-- A tree of files and directories. -/
structure FileSystem where
  /-- What there is, by path in short form, the newest first. -/
  nodes : List (String × FileNode)
  /-- The working directory. -/
  working : Place
  deriving DecidableEq

namespace FileSystem

/-- The path of a place in short form. -/
def shortPath (place : Place) : String := String.intercalate "/" place

/-- The directories on the way to a place, its own with them. -/
def onTheWay (place : Place) : List (String × FileNode) :=
  (List.range place.length).map fun n => (shortPath (place.take (place.length - n)), .directory)

/-- A file system with nothing in it but a working directory. -/
def new (working : Place) : FileSystem := ⟨onTheWay working, working⟩

variable (fs : FileSystem)

/-- What is at a place. -/
def node? (place : Place) : Option FileNode :=
  if place.isEmpty then some .directory else fs.nodes.lookup (shortPath place)

/-- Fails unless there is a directory at a place. -/
def needDirectory (place : Place) : Except File.Fault Unit :=
  match fs.node? place with
  | some .directory => .ok ()
  | some (.file _) => .error .notDirectory
  | none => .error .notFound

/-- Goes from a place along names; all but the last must lead to directories. -/
def walk (place : Place) : List String → Except File.Fault Place
  | [] => .ok place
  | name :: rest => do
    fs.needDirectory place
    if name = "" || name = "." then walk place rest
    else if name = ".." then walk place.dropLast rest
    else walk (place ++ [name]) rest

/-- Where a path leads to; the last name need not be that of anything. -/
def locate (path : String) : Except File.Fault Place :=
  if path.isEmpty then .error .notFound
  else fs.walk (if path.startsWith "/" then [] else fs.working) (Text.splitAt '/' path)

/-- What a path leads to. -/
def find (path : String) : Except File.Fault FileNode := do
  match fs.node? (← fs.locate path) with
  | some node => return node
  | none => throw .notFound

/-- Whether a path leads to anything. -/
def exists? (path : String) : Bool :=
  match fs.find path with
  | .ok _ => true
  | .error _ => false

/-- Whether a path leads to a directory. -/
def isDirectory (path : String) : Bool :=
  match fs.find path with
  | .ok .directory => true
  | _ => false

/-- The file system without what is at a place. -/
def remove (place : Place) : FileSystem :=
  { fs with nodes := fs.nodes.filter fun b => b.1 ≠ shortPath place }

/-- The file system with something new at a place. -/
def add (place : Place) (node : FileNode) : FileSystem :=
  { fs with nodes := (shortPath place, node) :: (fs.remove place).nodes }

/-- The file system with something else at a place, as old as what was there. -/
def put (place : Place) (node : FileNode) : FileSystem :=
  if (fs.node? place).isSome then
    { fs with nodes := fs.nodes.map fun b => if b.1 = shortPath place then (b.1, node) else b }
  else fs.add place node

/-- The text of a file. -/
def read (path : String) : Except File.Fault String := do
  match ← fs.find path with
  | .file text => return text
  | .directory => throw .isDirectory

/-- Writes the text of a file, in place of what was in it. -/
def write (path text : String) : Except File.Fault FileSystem := do
  let place ← fs.locate path
  match fs.node? place with
  | some .directory => throw .isDirectory
  | _ => return fs.put place (.file text)

/-- Gives a file another path, in place of the file there. -/
def rename (source target : String) : Except File.Fault FileSystem := do
  let origin ← fs.locate source
  let goal ← fs.locate target
  match fs.node? origin, fs.node? goal with
  | none, _ => throw .notFound
  | some (.file _), some .directory => throw .isDirectory
  | some node, _ => return (fs.remove origin).add goal node

/-- Makes a directory in an existing one. -/
def makeDirectory (path : String) : Except File.Fault FileSystem := do
  let place ← fs.locate path
  match fs.node? place with
  | some _ => throw .exists
  | none => return fs.add place .directory

/-- The path that the last name of a path is in. -/
def parentPath (path : String) : Option String :=
  match (Text.splitAt '/' path).reverse with
  | [] | [_] => none
  | _ :: before => some (String.intercalate "/" before.reverse)

/-- Makes a directory and those it lies in, where they are missing. -/
def makeDirectories : Nat → String → FileSystem → Except File.Fault FileSystem
  | 0, _, _ => .error .notFound
  | fuel + 1, path, fs =>
    if path.isEmpty then .ok fs
    else
      match fs.makeDirectory path with
      | .ok fs => .ok fs
      | .error .notFound =>
        match parentPath path with
        | none => .error .notFound
        | some parent => do
          let fs ← makeDirectories fuel parent fs
          fs.makeDirectory path
      | .error fault => if fs.isDirectory path then .ok fs else .error fault

/-- What all paths in short form below a place begin with. -/
def pathStart (place : Place) : String := if place.isEmpty then "" else shortPath place ++ "/"

/-- What follows the start of a text. -/
def dropStart? (start s : String) : Option String :=
  if s.startsWith start then some (String.ofList (s.toList.drop start.length)) else none

/-- The names of what is in a directory, the newest first. -/
def entries (path : String) : Except File.Fault (List String) := do
  let place ← fs.locate path
  fs.needDirectory place
  return fs.nodes.filterMap fun (p, _) =>
    (dropStart? (pathStart place) p).filter fun name => !name.isEmpty && !name.toList.contains '/'

/-- The paths of all files below the working directory, in ascending order. -/
def files : List String :=
  (fs.nodes.filterMap fun (p, node) =>
    match node with
    | .file _ => dropStart? (pathStart fs.working) p
    | .directory => none).mergeSort (· ≤ ·)

end FileSystem

end Workflows
