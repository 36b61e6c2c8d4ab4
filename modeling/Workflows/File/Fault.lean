/-!
# Faults of files

`File.Fault` lists why a file operation fails, and `File.Fault.message` is what the system calls it.
-/

namespace Workflows

namespace File

/-- Why a file operation fails. -/
inductive Fault where
  | notFound
  | exists
  | notDirectory
  | isDirectory
  deriving DecidableEq

/-- What the system calls a fault. -/
def Fault.message : Fault → String
  | .notFound => "No such file or directory (os error 2)"
  | .exists => "File exists (os error 17)"
  | .notDirectory => "Not a directory (os error 20)"
  | .isDirectory => "Is a directory (os error 21)"

end File

end Workflows
