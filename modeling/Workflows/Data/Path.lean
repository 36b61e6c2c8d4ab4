/-!
# Paths

Paths are texts with their names divided by slashes.

* `Path.join`: a path below another one; an absolute path stands for itself;
* `Path.fileName?`, `Path.stem?`, `Path.extension?`: the last name and its two parts;
* `Path.withExtension`: the path with another extension.
-/

namespace Workflows

namespace Path

/-- `path` below `base`. -/
def join (base path : String) : String :=
  if path.startsWith "/" || base.isEmpty then path
  else if base.endsWith "/" then base ++ path
  else base ++ "/" ++ path

/-- The names in a path, without empty ones and those that mean the same place. -/
def names (path : String) : List String :=
  ((path.toList.splitOn '/').map String.ofList).filter fun n => n != "" && n != "."

/-- The last name in a path, unless it goes back to the place before. -/
def fileName? (path : String) : Option String :=
  match (names path).getLast? with
  | some ".." => none
  | name => name

/-- A name divided at its last point; a point at its start does not divide it. -/
def splitName (name : String) : String × Option String :=
  let cs := name.toList
  let ext := (cs.reverse.takeWhile (· ≠ '.')).reverse
  let before := cs.take (cs.length - ext.length - 1)
  if before.isEmpty then (name, none) else (String.ofList before, some (String.ofList ext))

/-- The last name in a path, without its extension. -/
def stem? (path : String) : Option String := (fileName? path).map fun n => (splitName n).1

/-- The extension of the last name in a path. -/
def extension? (path : String) : Option String := (fileName? path).bind fun n => (splitName n).2

/-- `directory` joined with `name` and the extension `ext`. -/
def file (directory name ext : String) : String := join directory (name ++ "." ++ ext)

end Path

end Workflows
