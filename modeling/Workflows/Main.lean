import Workflows.Cli.Program
import Workflows.Interpreter
import Workflows.Yaml.Printer
import Std.Time.DateTime.Timestamp

/-!
# The command

The outermost layer: it copies the files that a command line may touch into a file system, lets
`Cli.program` run on it, and copies back what has changed.
-/

namespace Workflows

namespace Command

/-- The names on the way from the root to the working directory. -/
def workingPlace : IO Place := do
  return (Text.splitAt '/' (← IO.currentDir).toString).filter (!·.isEmpty)

/-- Copies what a path leads to: a file with its text, or a directory with the files in it. -/
def capture (fs : FileSystem) (path : String) : IO FileSystem := do
  let here ← try some <$> IO.FS.realPath path catch _ => pure none
  let some here := here | return fs
  if ← here.isDir then
    let fs := ((FileSystem.makeDirectories (path.length + 1) path fs).toOption).getD fs
    (← here.readDir).foldlM (fun fs entry => do
      if ← entry.path.isDir then return fs
      captureFile fs (Path.join path entry.fileName)) fs
  else captureFile fs path
where
  /-- Copies a file, with the directories that it lies in. -/
  captureFile (fs : FileSystem) (path : String) : IO FileSystem := do
    let text ← try some <$> IO.FS.readFile path catch _ => pure none
    let some text := text | return fs
    let fs := match FileSystem.parentPath path with
      | some parent => ((FileSystem.makeDirectories (path.length + 1) parent fs).toOption).getD fs
      | none => fs
    return ((fs.write path text).toOption).getD fs

/-- Copies back what has changed, the oldest first. -/
def restore (before after : FileSystem) : IO Unit := do
  for (path, node) in after.nodes.reverse do
    if before.nodes.lookup path ≠ some node then
      match node with
      | .directory => IO.FS.createDirAll ("/" ++ path)
      | .file text => IO.FS.writeFile ("/" ++ path) text

/-- The paths that an invocation touches besides its settings. -/
def touched (i : Cli.Invocation) (c : Config) (store : FileStore) : List String :=
  let given := match i.command with
    | .run workflow entity .. => [workflow, entity]
    | .validate workflow => [workflow]
    | _ => []
  given ++ [store.executions, store.workflows, c.policiesPath]

/-- The files that a command line may touch. -/
def gatherFiles (surroundings : Cli.Surroundings) (arguments : List String) : IO FileSystem := do
  let fs := FileSystem.new (← workingPlace)
  match Cli.parse arguments with
  | .ok (.call i) =>
    let fs ← capture fs (i.config.getD Config.usualFile)
    match (Cli.settings surroundings i).run.run fs with
    | (.ok c, fs) => (touched i c (surroundings.store c)).foldlM capture fs
    | (.error _, fs) => return fs
  | _ => return fs

/-- An id made of two random numbers of 64 bits: 32 hexadecimal digits in five groups, with the version 4
and the variant in their places. -/
def idText (high low : Nat) : String :=
  let high := high / 0x10000 * 0x10000 + 0x4000 + high % 0x1000
  let low := 0x8000000000000000 + low % 0x4000000000000000
  let digits := Json.hex 16 (high % 0x10000000000000000) ++ Json.hex 16 low
  let group (start length : Nat) : String := String.ofList ((digits.drop start).take length)
  String.intercalate "-" [group 0 8, group 8 4, group 12 4, group 16 4, group 20 12]

/-- The next of a sequence of numbers of 64 bits that look random. -/
def scramble (seed k : Nat) : Nat :=
  let z := (seed + (k + 1) * 0x9e3779b97f4a7c15) % 0x10000000000000000
  let z := (z ^^^ (z >>> 30)) * 0xbf58476d1ce4e5b9 % 0x10000000000000000
  let z := (z ^^^ (z >>> 27)) * 0x94d049bb133111eb % 0x10000000000000000
  z ^^^ (z >>> 31)

/-- What the program finds around it. The clock goes on by a microsecond from reading to reading. -/
def surroundings : IO Cli.Surroundings := do
  let names := ["PROCFLOW_DATA_DIR", "PROCFLOW_PYTHON", "CLICOLOR_FORCE"]
  let environment ← names.filterMapM fun name => do
    return (← IO.getEnv name).map fun value => (name, value)
  let seed ← IO.rand 0 0xffffffffffffffff
  let other ← IO.rand 0 0xffffffffffffffff
  let now ← Std.Time.Timestamp.now
  let start : Int := now.toNanosecondsSinceUnixEpoch.val
  return {
    environment := fun name => environment.lookup name
    mint := fun k => idText (scramble seed k) (scramble other k)
    clock := fun k =>
      let nanos := start + 1000 * k
      ⟨nanos / 1000000000, (nanos % 1000000000).toNat⟩
    runScript := Interpreter.run
    printYaml := Yaml.print }

end Command

end Workflows

open Workflows in
/-- Runs a command line. -/
def main (arguments : List String) : IO UInt32 := do
  let surroundings ← Command.surroundings
  let before ← Command.gatherFiles surroundings arguments
  let ending := Cli.program surroundings arguments before
  Command.restore before ending.files
  IO.print ending.stdout
  IO.eprint ending.stderr
  return ending.status.toUInt32
