import Workflows.Data.Document

/-!
# Outcomes of steps

* `Outcome`: what carrying out a step came to; `Outcome.pass`, `.fail`, `.verdict`, `.ofError`;
* `Outcome.reason?`: why a step failed, in words;
* `StepResult`: the part of an outcome that later steps see.
-/

namespace Workflows

/-- What carrying out a step came to. -/
structure Outcome where
  passed : Bool
  message : Option String
  data : Option Object
  /-- Why there is no verdict. -/
  error : Option String
  /-- Whether the run waits for a decision after the step. -/
  blocking : Bool
  deriving DecidableEq

/-- The part of an outcome that later steps see. -/
structure StepResult where
  passed : Bool
  message : Option String
  data : Option Object
  deriving DecidableEq

namespace Outcome

/-- A verdict with a message. -/
def verdict (passed : Bool) (message : String) : Outcome :=
  { passed, message := some message, data := none, error := none, blocking := false }

/-- A positive verdict. -/
def pass (message : String) : Outcome := verdict true message

/-- A negative verdict. -/
def fail (message : String) : Outcome := verdict false message

/-- A failure that is no verdict. -/
def ofError (error : String) : Outcome :=
  { passed := false, message := none, data := none, error := some error, blocking := false }

/-- The outcome with data. -/
def withData (o : Outcome) (members : List (String × Value)) : Outcome :=
  { o with data := some (Dict.ofList members) }

/-- Why the step failed: its message, else its error. -/
def reason? (o : Outcome) : Option String := o.message <|> o.error

/-- What later steps see of an outcome. -/
def result (o : Outcome) : StepResult := ⟨o.passed, o.message, o.data⟩

open Document

/-- The fields of an outcome. -/
def fields : List Field := ["passed", "message", "data", "error", "blocking"].map .plain

/-- The outcome of a document. -/
def decode? {δ : Type} [Document δ] (d : δ) : Option Outcome := do
  let fs ← fields? fields d
  return {
    passed := ← fs.required "passed" bool?
    message := ← fs.optional "message" text?
    data := ← fs.optional "data" object?
    error := ← fs.optional "error" text?
    blocking := ← fs.orElse "blocking" false bool? }

/-- An outcome as data. -/
def encode (o : Outcome) : Value :=
  .record [
    ("passed", some (.bool o.passed)),
    ("message", o.message.map .text),
    ("data", o.data.map .ofObject),
    ("error", o.error.map .text),
    ("blocking", some (.bool o.blocking))]

end Outcome

namespace StepResult

open Document

/-- The fields of a result. -/
def fields : List Field := ["passed", "message", "data"].map .plain

/-- The result of a document. -/
def decode? {δ : Type} [Document δ] (d : δ) : Option StepResult := do
  let fs ← fields? fields d
  return {
    passed := ← fs.required "passed" bool?
    message := ← fs.optional "message" text?
    data := ← fs.optional "data" object? }

/-- A result as data. -/
def encode (r : StepResult) : Value :=
  .record [
    ("passed", some (.bool r.passed)),
    ("message", r.message.map .text),
    ("data", r.data.map .ofObject)]

/-- The result after a decision from outside: its verdict, its data over what the step had given, and
its message where it names one. -/
def decide (r : StepResult) (passed : Bool) (data : Option Object) : StepResult :=
  { passed
    message := (data.bind fun d => (d.get? "message").bind Value.text?) <|> r.message
    data := match data with
      | none => r.data
      | some d => some ((r.data.getD {}).overlay d) }

end StepResult

/-- Step results as data, by step. -/
def encodeResults (results : Dict StepResult) : Value := .ofObject (results.map StepResult.encode)

end Workflows
