import Workflows.Interpreter.Evaluation
import Workflows.Interpreter.StatementReader
import Workflows.Script.Report

/-!
# The interpreter of scripts

What the command line starts for a script step is an interpreter of its own, apart from the workflows. The
modules below `Interpreter` stand for it, so that the command can be run: `Interpreter.run` is its value of
`runScript`. No other module knows of it: steps take any function from requests to endings.

* `Interpreter.errorReport`: what is written about an error that nothing caught;
* `Interpreter.ending`: how a run ends, given the signal that stopped it, if any;
* `Interpreter.run`: runs a request: the script's names are bound, its statements are run, and the item of
  `result` is written behind the mark.
-/

namespace Workflows

namespace Interpreter

open Run

/-! ## Error reports -/

/-- The line of a script with a number. -/
def sourceLine (source : String) (line : Nat) : String :=
  ((source.toList.splitOn '\n').map String.ofList)[line - 1]?.getD ""

/-- The marks under the place of an error, unless it is the whole line: carets under its core, if it has
one, and tildes under the rest. -/
def placeMarks (line : String) (place : Span) : String :=
  let cs := line.toList
  let blanks := (cs.takeWhile Text.isBlankChar).length
  let stripped := (Text.trimChars cs).length
  let start := place.column - blanks
  let oneLine := place.endLine = place.line
  let stop := if oneLine then place.endColumn - blanks else stripped
  let core := if oneLine then place.core else none
  if stop - start ≥ stripped && core.isNone then ""
  else
    let mark (k : Nat) : Char := match core with
      | some (a, b) => if a - blanks ≤ k && k < b - blanks then '^' else '~'
      | none => '^'
    let marks := (List.range (stop - start)).map fun k => mark (start + k)
    "    " ++ String.ofList (List.replicate start ' ' ++ marks) ++ "\n"

/-- The report of one call. -/
def callReport (source : String) (place : Span) (function : String) : String :=
  let line := sourceLine source place.line
  "  File \"user_code.py\", line " ++ toString place.line ++ ", in " ++ function ++ "\n    "
    ++ String.ofList (line.toList.dropWhile Text.isBlankChar) ++ "\n" ++ placeMarks line place

/-- How many calls from one line are reported one by one. -/
def shownCalls : Nat := 3

/-- What is said of `n` calls from one line after those that were reported. -/
def repetition (n : Nat) : List String :=
  if n ≤ shownCalls then []
  else
    let more := n - shownCalls
    ["  [Previous line repeated " ++ toString more ++ " more time" ++ (if more = 1 then "" else "s")
      ++ "]\n"]

/-- The reports of calls, each made within the one before; `n` calls from the line and function `last`
came directly before them. -/
def callReports (source : String) : Option (Nat × String) → Nat → List (Span × String) → List String
  | _, n, [] => repetition n
  | last, n, (place, function) :: rest =>
    let report := callReport source place function
    if last = some (place.line, function) then
      let further := callReports source last (n + 1) rest
      if n < shownCalls then report :: further else further
    else repetition n ++ report :: callReports source (some (place.line, function)) 1 rest

/-- The report's head: the call that runs the script. -/
def reportHead (line : Nat) (code : String) : String :=
  "Traceback (most recent call last):\n  File \"runner.py\", line " ++ toString line
    ++ ", in <module>\n    " ++ code ++ "\n"

/-- What is written about an error that nothing caught. -/
def errorReport (source : String) (m : Machine) (error : Item) (trace : Trace) : String :=
  let calls := (trace.here.map fun place => (place, "<module>")).toList ++ trace.calls
  let kind := match error with
    | .cell a => match m.cells[a]? with
      | some (.error kind _) => kind
      | _ => m.typeName error
    | _ => m.typeName error
  let message := m.str error
  reportHead 19 "exec(code, namespace)"
    ++ String.join (callReports source none 0 calls)
    ++ kind ++ (if message.isEmpty then "" else ": " ++ message) ++ "\n"

/-- What is written about a text that is no script. -/
def misreadingReport (source : String) (e : Misreading) (place : Span) : String :=
  let line := sourceLine source place.line
  let blanks := (line.toList.takeWhile Text.isBlankChar).length
  let width := if place.endLine = place.line then max 1 (place.endColumn - place.column) else 1
  let marks := if e.marksPlace then
      String.ofList (List.replicate (4 + place.column - blanks) ' ' ++ List.replicate width '^') ++ "\n"
    else ""
  let read := "code = compile(source.read(), \"user_code.py\", \"exec\")"
  reportHead 18 read
    ++ String.ofList (List.replicate 11 ' ' ++ List.replicate (read.length - 7) '^') ++ "\n"
    ++ "  File \"user_code.py\", line " ++ toString place.line ++ "\n    " ++ Text.trim line ++ "\n"
    ++ marks ++ (if e.isIndentation then "IndentationError: " else "SyntaxError: ")
    ++ e.message ++ "\n"

/-! ## Runs -/

/-- How deeply terms, statements and calls may be nested in one another. -/
def maxLevels : Nat := 20000

/-- An object that stands for null, or for data that counts as nothing, is empty. -/
def orEmpty (v : Option Value) : Value :=
  match v with
  | some (.object (m :: ms)) => .object (m :: ms)
  | some (.list (i :: is)) => .list (i :: is)
  | _ => .object []

/-- The names that a script finds bound. -/
def givenNames (context : Value) : Run (List (String × Item)) := do
  let members := context.object?.getD .empty
  let plain (name : String) : Run (String × Item) := do
    return (name, ← ofValue ((members.get? name).getD .null))
  return [
    ("__name__", .text "__procflow__"),
    ("entity", ← ofValue (orEmpty (members.get? "entity"))),
    ← plain "entity_type", ← plain "entity_id", ← plain "entity_name", ← plain "user_email",
    ("step_results", ← ofValue (orEmpty (members.get? "step_results"))),
    ("result", ← newDict [(.text "passed", .bool true)])]

/-- Runs statements and writes the item of `result` behind the mark. -/
def runAll (context : Value) (statements : List Statement) : Run Unit := do
  let frame ← newFrame ⟨none, [], []⟩
  let names ← givenNames context
  modify fun m => { m with frames := m.frames.modify frame fun fr => { fr with bindings := names } }
  let _ ← perform maxLevels frame statements
  let result := ((← Run.frame frame).bindings.lookup "result").getD .none
  let asText : Item → Run Item := fun i => return .text ((← get).str i)
  write false (Script.frame (← encode { Encoding.plain with default := some asText } result))

/-- The status and the words that a script leaves with. -/
def exitOf (m : Machine) : List Item → Nat × String
  | [] | [.none] => (0, "")
  | [i] =>
    match i.int? with
    | some n => ((n.emod 256).toNat, "")
    | none => (1, m.str i ++ "\n")
  | items => (1, m.str (.tuple items) ++ "\n")

/-- Ends a run with a status after some last words, which go to standard error. -/
def exitWith (status : Nat) (words : String) : Run ScriptEnding := do
  flush
  write true words
  let m ← get
  return .exited status m.stdout m.stderr

/-- How a run ends, given the signal that stopped it, if any. -/
def ending (source : String) : Except Signal Unit → Run ScriptEnding
  | .ok _ => exitWith 0 ""
  | .error .timedOut => return .timedOut
  | .error .flooded => return .flooded
  | .error .tooDeep => exitWith 1 "RecursionError: maximum recursion depth exceeded\n"
  | .error (.left status) => do
    let m ← get
    return .exited status m.stdout m.stderr
  | .error (.raised error trace) => do
    let m ← get
    let arguments := match error with
      | .cell a => match m.cells[a]? with
        | some (.error kind arguments) => if isKindOf kind "SystemExit" then some arguments else none
        | _ => none
      | _ => none
    match arguments with
    | some arguments => let (status, words) := exitOf m arguments; exitWith status words
    | none => exitWith 1 (errorReport source m error trace)

/-- A script's text with every line's end written as a line feed. -/
def plainLines : List Char → List Char
  | '\r' :: '\n' :: rest => '\n' :: plainLines rest
  | '\r' :: rest => '\n' :: plainLines rest
  | c :: rest => c :: plainLines rest
  | [] => []

/-- Runs a script by its interpreter. -/
def interpret (r : ScriptRequest) : ScriptEnding :=
  let source := String.ofList (plainLines r.code.toList)
  let start : Machine := {
    cells := #[], frames := #[], stdout := "", held := "", stderr := ""
    timeLeft := r.timeoutSeconds * 1000000, spaceLeft := r.maxOutputBytes, depth := 0, handled := [] }
  let running : Run ScriptEnding := do
    match program source with
    | .ok statements => ending source (← outcome (runAll r.context statements))
    | .error (e, place) => exitWith 1 (misreadingReport source e place)
  match running start with
  | .ok e _ => e
  | .error .timedOut _ => .timedOut
  | .error _ _ => .flooded

/-- The programs that run scripts. -/
def interpreters : List String := ["python3", "/usr/bin/python3", "/bin/python3"]

/-- Programs that start but run no script, with their status. -/
def idlePrograms : List (String × Nat) := [
  ("true", 0), ("/bin/true", 0), ("/usr/bin/true", 0), ("echo", 0), ("/bin/echo", 0),
  ("/usr/bin/echo", 0), ("false", 1), ("/bin/false", 1), ("/usr/bin/false", 1)]

/-- Runs a request. A script that has no time at all is stopped before it starts. -/
def run (r : ScriptRequest) : ScriptEnding :=
  if interpreters.contains r.interpreter then
    if r.timeoutSeconds = 0 then .timedOut else interpret r
  else
    match idlePrograms.lookup r.interpreter with
    | some status => if r.timeoutSeconds = 0 then .timedOut else .exited status "" ""
    | none => .notStarted "No such file or directory (os error 2)"

end Interpreter

end Workflows
