import Workflows.Definition.Basic

/-!
# Findings about definitions

A definition is never refused for what it says; these are the findings about it.

* `Finding`, `Finding.message`, `Finding.isError`: what can be found;
* `Definition.reachable`: the ids of the steps that the entry leads to, found by following branches
  from step to step;
* `Definition.lint`: all findings, in order.
-/

namespace Workflows

/-- What can be found about a definition. -/
inductive Finding where
  | noSteps
  | duplicateId (id : String)
  | blankId (position : Nat)
  | unknownKind (step kind : String)
  | missingConfig (step key : String)
  | danglingBranch (step : String) (branch : Branch) (target : String)
  | unreachable (id : String)
  deriving DecidableEq

namespace Finding

/-- The text of a finding. -/
def message : Finding → String
  | .noSteps => "Workflow has no steps"
  | .duplicateId id => "Duplicate step ID: '" ++ id ++ "'"
  | .blankId position => "Step #" ++ toString position ++ " has empty or whitespace-only ID"
  | .unknownKind step kind => "Step '" ++ step ++ "' has unknown type '" ++ kind ++ "'"
  | .missingConfig step key => "Step '" ++ step ++ "' is missing required config '" ++ key ++ "'"
  | .danglingBranch step branch target =>
    "Step '" ++ step ++ "' " ++ branch.name ++ " references unknown step '" ++ target ++ "'"
  | .unreachable id => "Step '" ++ id ++ "' is unreachable from the entry step"

/-- Whether a run that comes upon the finding fails. -/
def isError : Finding → Bool
  | .unreachable _ => false
  | _ => true

end Finding

/-- Whether a required setting is there: neither null nor a blank text. -/
def Value.isSet : Option Value → Bool
  | none => false
  | some .null => false
  | some (.text s) => !Text.isBlank s
  | some _ => true

/-- The findings about a step at a position, on its own. -/
def Step.lint (s : Step) (position : Nat) : List Finding :=
  if Text.isBlank s.id then [.blankId position]
  else if s.kind.isKnown then
    (s.kind.requiredKeys.filter fun key => !Value.isSet (s.config.get? key)).map (.missingConfig s.id)
  else [.unknownKind s.id s.kind.name]

namespace Definition

variable (w : Definition)

/-- The targets of a step that name a step. -/
def successors (id : String) : List String :=
  match w.find? id with
  | none => []
  | some s => (s.branches.map (·.2)).filter fun t => (w.find? t).isSome

/-- Follows branches from the ids in `queue`, of which and of whose successors `seen` holds those met
so far. Each step is taken from the queue at most once, so fuel for every step suffices. -/
def explore : Nat → List String → List String → List String
  | 0, _, seen => seen
  | _, [], seen => seen
  | fuel + 1, id :: queue, seen =>
    let fresh := (w.successors id).foldl
      (fun fresh t => if seen.contains t || fresh.contains t then fresh else fresh ++ [t]) []
    explore fuel (queue ++ fresh) (seen ++ fresh)

/-- The ids of the steps that the entry leads to, its own with them. -/
def reachable : List String :=
  match w.entry? with
  | none => []
  | some s => explore w w.steps.length [s.id] [s.id]

/-- Whether a step before the given position has the id of the step there. -/
def isRepeated (position : Nat) (s : Step) : Bool :=
  !s.id.isEmpty && (w.steps.take position).any fun t => t.id == s.id

/-- The findings about the steps themselves. -/
def stepFindings : List Finding :=
  w.steps.zipIdx.flatMap fun (s, i) =>
    (if w.isRepeated i s then [.duplicateId s.id] else []) ++ s.lint i

/-- The findings about branches that lead nowhere. -/
def branchFindings : List Finding :=
  w.steps.flatMap fun s =>
    (s.branches.filter fun b => !(w.steps.any fun t => !t.id.isEmpty && t.id == b.2)).map fun b =>
      .danglingBranch s.id b.1 b.2

/-- The findings about steps that no run comes upon. -/
def reachFindings : List Finding :=
  let reached := w.reachable
  (w.steps.filter fun s => !s.id.isEmpty && !reached.contains s.id).map fun s => .unreachable s.id

/-- All findings about a definition. -/
def lint : List Finding :=
  if w.steps.isEmpty then [.noSteps]
  else w.stepFindings ++ w.branchFindings ++ w.reachFindings

end Definition

end Workflows
