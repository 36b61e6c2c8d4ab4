import Workflows.Execution.Outcome
import Workflows.Json.Reader
import Workflows.Json.Printer
import Workflows.Text.Blank
import Workflows.Text.Search

/-!
# Reports of scripts

A script is run by an interpreter, which ends its standard output with a mark and the script's result.

* `ScriptRequest`, `ScriptEnding`: what is run, and how it ended;
* `ScriptError`, `ScriptError.heading`, `ScriptError.message`: why there is no outcome;
* `frame`: what is written after a script's own output; `readOutput`: the result behind the last mark;
* `outcomeOfResult`: the outcome that a result stands for;
* `ScriptEnding.outcome`: the outcome of a script.
-/

namespace Workflows

/-- A script to be run. -/
structure ScriptRequest where
  interpreter : String
  code : String
  /-- What the script sees of the run. -/
  context : Value
  timeoutSeconds : Nat
  maxOutputBytes : Nat

/-- How a script ended. -/
inductive ScriptEnding where
  /-- The interpreter could not be started. -/
  | notStarted (reason : String)
  /-- The script's files could not be written, or its process not be watched. -/
  | unattended (reason : String)
  /-- The script ran longer than allowed. -/
  | timedOut
  /-- The script wrote without end. -/
  | flooded
  /-- The script ended by itself, with an exit status and what it wrote. -/
  | exited (status : Nat) (stdout stderr : String)
  /-- A signal, given by its number and name, ended the script, which had written this. -/
  | killed (signal stdout stderr : String)
  deriving DecidableEq

/-- Why a script gives no outcome. -/
inductive ScriptError where
  | notStarted (interpreter reason : String)
  | unattended (reason : String)
  | outputExceeded (bytes : Nat)
  | timedOut (seconds : Nat)
  | exited (status : Nat) (tail : String)
  | killed (signal tail : String)
  | noResult
  | malformedResult
  | unfitResult
  deriving DecidableEq

namespace ScriptError

/-- What stands before the text of an error. -/
def heading : ScriptError → String
  | .unattended _ => "Script I/O error: "
  | _ => "Script error: "

/-- How a script ended, behind the last lines of its standard error. -/
def endingText (status tail : String) : String :=
  if tail.isEmpty then status else tail ++ " (" ++ status ++ ")"

/-- The text of an error. -/
def message : ScriptError → String
  | .notStarted interpreter reason => "failed to start " ++ interpreter ++ ": " ++ reason
  | .unattended reason => reason
  | .outputExceeded bytes => "output exceeded " ++ toString bytes ++ " bytes"
  | .timedOut seconds => "timed out after " ++ toString seconds ++ "s"
  | .exited status tail => endingText ("exit status: " ++ toString status) tail
  | .killed signal tail => endingText ("signal: " ++ signal) tail
  | .noResult => "script produced no result"
  | .malformedResult => "invalid result: not a JSON value"
  | .unfitResult => "result must be a boolean or an object with a boolean 'passed'"

end ScriptError

namespace Script

/-- The mark before a result. -/
def resultMark : String := "__PROCFLOW_RESULT__"

/-- What stands on standard output after the script's own output: a mark and the result's text. -/
def frame (result : String) : String := "\n" ++ resultMark ++ result ++ "\n"

/-- How many of the last lines of standard error are kept. -/
def tailLines : Nat := 5

/-- The last lines of standard error that are not blank. -/
def stderrTail (stderr : String) : String :=
  let kept := (Text.lines stderr).filter fun l => !Text.isBlank l
  String.intercalate "\n" (kept.drop (kept.length - tailLines))

/-- The message of a verdict without one. -/
def verdictMessage (passed : Bool) : String := if passed then "Script passed" else "Script failed"

/-- The outcome that a result stands for: a verdict, or an object with a verdict, a message and data. -/
def outcomeOfResult : Value → Except ScriptError Outcome
  | .bool passed => .ok (.verdict passed (verdictMessage passed))
  | .object members => do
    let result := Dict.ofList members
    let passed ← match result.get? "passed" with
      | none | some .null => pure true
      | some (.bool b) => pure b
      | some _ => throw .unfitResult
    let message := ((result.get? "message").bind Value.text?).getD (verdictMessage passed)
    let data := (result.get? "data").bind Value.object?
    return { Outcome.verdict passed message with data }
  | _ => .error .unfitResult

/-- The outcome in what a script wrote: the result behind the last mark. -/
def readOutput (stdout : String) : Except ScriptError Outcome :=
  match Text.afterLast? resultMark stdout with
  | none => .error .noResult
  | some payload =>
    match Json.parse? (Text.trim payload) with
    | none => .error .malformedResult
    | some result => outcomeOfResult result

end Script

/-- A script that was asked for by `r` wrote more than it may. -/
def ScriptRequest.exceeds (r : ScriptRequest) (stdout stderr : String) : Bool :=
  r.maxOutputBytes < stdout.utf8ByteSize + stderr.utf8ByteSize

/-- The outcome of a script that was asked for by `r`. -/
def ScriptEnding.outcome (r : ScriptRequest) : ScriptEnding → Except ScriptError Outcome
  | .notStarted reason => .error (.notStarted r.interpreter reason)
  | .unattended reason => .error (.unattended reason)
  | .timedOut => .error (.timedOut r.timeoutSeconds)
  | .flooded => .error (.outputExceeded r.maxOutputBytes)
  | .exited status stdout stderr =>
    if r.exceeds stdout stderr then .error (.outputExceeded r.maxOutputBytes)
    else if status ≠ 0 then .error (.exited status (Script.stderrTail stderr))
    else Script.readOutput stdout
  | .killed signal stdout stderr =>
    if r.exceeds stdout stderr then .error (.outputExceeded r.maxOutputBytes)
    else .error (.killed signal (Script.stderrTail stderr))

end Workflows
