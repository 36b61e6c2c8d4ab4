import Workflows.Carry.Fault

/-!
# Settings of steps

* `Setting.text?`: a text that is not blank, trimmed; `Setting.required` fails without one;
* `Setting.count`, `Setting.flag`: a number and a truth value, also written as a text.
-/

namespace Workflows

namespace Setting

/-- A setting that is a text and not blank, trimmed. -/
def text? (config : Object) (key : String) : Option String :=
  ((config.get? key).bind Value.text?).bind Text.nonBlank?

/-- A setting that must be a text that is not blank, trimmed. -/
def required (config : Object) (key : String) : Except StepFault String :=
  match text? config key with
  | some s => .ok s
  | none => .error (.notConfigured key)

/-- A whole number of 64 bits written in digits, with a plus sign if any. -/
def word? (s : String) : Option Nat :=
  let digits := match s.toList with
    | '+' :: rest => rest
    | cs => cs
  (Decimal.readNat? digits).filter fun n => n < 0x10000000000000000

/-- A setting that is a number, or a text that writes one. -/
def count (config : Object) (key : String) (default : Nat) : Except StepFault Nat :=
  match config.get? key with
  | none | some .null => .ok default
  | some v =>
    let n := match v with
      | .text s => word? (Text.trim s)
      | v => v.nat?
    match n with
    | some n => .ok n
    | none => .error (.badSetting key .count v)

/-- A setting that is a truth value, or the text of one in any case. -/
def flag (config : Object) (key : String) (default : Bool) : Except StepFault Bool :=
  match config.get? key with
  | none | some .null => .ok default
  | some (.bool b) => .ok b
  | some v =>
    match v.text?.map Text.lowerAscii with
    | some "true" => .ok true
    | some "false" => .ok false
    | _ => .error (.badSetting key .truth v)

end Setting

end Workflows
