/-!
# Command lines

* `Cli.Command`, `Cli.Invocation`: what the program is asked to do, and with which settings;
* `Cli.UsageError`: why a command line is refused;
* `Cli.gather`: words, options and flags, in whatever order they are given;
* `Cli.parse`: the request of a command line.
-/

namespace Workflows

namespace Cli

/-- What the program is asked to do. -/
inductive Command where
  | run (workflow entity entityType entityId : String) (entityName actor : Option String)
  | resume (execution : String) (approve : Bool) (data : Option String)
  | display (execution : String)
  | list
  | validate (workflow : String)
  deriving DecidableEq

/-- A command with the settings of the program. -/
structure Invocation where
  command : Command
  config : Option String
  dataDir : Option String
  verbose : Bool
  deriving DecidableEq

/-- What a command line asks for. -/
inductive Wish where
  | help
  | version
  | call (i : Invocation)
  deriving DecidableEq

/-- An option that takes a value. -/
inductive ValueOption where
  | config
  | dataDir
  | entity
  | entityType
  | entityId
  | entityName
  | actor
  | data
  deriving DecidableEq

namespace ValueOption

/-- How an option is written. -/
def flag : ValueOption → String
  | .config => "--config"
  | .dataDir => "--data-dir"
  | .entity => "--entity"
  | .entityType => "--entity-type"
  | .entityId => "--entity-id"
  | .entityName => "--entity-name"
  | .actor => "--actor"
  | .data => "--data"

/-- The option that is written so. -/
def ofFlag? : String → Option ValueOption
  | "--config" => some .config
  | "--data-dir" => some .dataDir
  | "--entity" => some .entity
  | "--entity-type" => some .entityType
  | "--entity-id" => some .entityId
  | "--entity-name" => some .entityName
  | "--actor" => some .actor
  | "--data" => some .data
  | _ => none

end ValueOption

/-- Why a command line is refused. -/
inductive UsageError where
  | conflictingDecisions
  | missingValue (flag : String)
  | unknownOption (argument : String)
  | noCommand
  | missingOperand (command operand : String)
  | missingOption (o : ValueOption)
  | missingDecision
  | unknownCommand (name : String)
  | unexpectedArgument (argument : String)
  deriving DecidableEq

/-- The text of an error. -/
def UsageError.message : UsageError → String
  | .conflictingDecisions => "--approve and --reject are mutually exclusive"
  | .missingValue flag => flag ++ " requires a value"
  | .unknownOption argument => "Unknown option: " ++ argument
  | .noCommand => "No command given"
  | .missingOperand command operand => command ++ " requires " ++ operand
  | .missingOption o => "run requires " ++ o.flag
  | .missingDecision => "resume requires --approve or --reject"
  | .unknownCommand name => "Unknown command: " ++ name
  | .unexpectedArgument argument => "Unexpected argument: " ++ argument

/-- What was given on a command line so far. -/
structure Gathered where
  words : List String
  /-- The options with their values, last one first. -/
  given : List (ValueOption × String)
  decision : Option Bool
  verbose : Bool
  deriving DecidableEq

namespace Gathered

/-- Nothing was given. -/
def empty : Gathered := ⟨[], [], none, false⟩

/-- The value of an option, the last one given. -/
def value? (g : Gathered) (o : ValueOption) : Option String := g.given.lookup o

/-- A decision added to what was given, unless it goes against an earlier one. -/
def decide (g : Gathered) (approve : Bool) : Except UsageError Gathered :=
  match g.decision with
  | some earlier =>
    if earlier = approve then .ok g else .error .conflictingDecisions
  | none => .ok { g with decision := some approve }

/-- The operand of a command, and the words after it. -/
def operand (command what : String) : List String → Except UsageError (String × List String)
  | [] => .error (.missingOperand command what)
  | word :: rest => .ok (word, rest)

/-- The value of an option that a run cannot do without. -/
def need (g : Gathered) (o : ValueOption) : Except UsageError String :=
  match g.value? o with
  | some v => .ok v
  | none => .error (.missingOption o)

/-- The command that was given, and the words left over. -/
def commandWithRest (g : Gathered) : Except UsageError (Command × List String) := do
  match g.words with
  | [] => throw .noCommand
  | "run" :: rest =>
    let (workflow, rest) ← operand "run" "a workflow file" rest
    let entity ← g.need .entity
    let entityType ← g.need .entityType
    let entityId ← g.need .entityId
    return (.run workflow entity entityType entityId (g.value? .entityName) (g.value? .actor), rest)
  | "resume" :: rest =>
    let (execution, rest) ← operand "resume" "an execution id" rest
    match g.decision with
    | some approve => return (.resume execution approve (g.value? .data), rest)
    | none => throw .missingDecision
  | "show" :: rest =>
    let (execution, rest) ← operand "show" "an execution id" rest
    return (.display execution, rest)
  | "list" :: rest => return (.list, rest)
  | "validate" :: rest =>
    let (workflow, rest) ← operand "validate" "a workflow file" rest
    return (.validate workflow, rest)
  | name :: _ => throw (.unknownCommand name)

/-- The command that was given, with nothing left over. -/
def command (g : Gathered) : Except UsageError Command := do
  match ← g.commandWithRest with
  | (c, []) => return c
  | (_, extra :: _) => throw (.unexpectedArgument extra)

/-- The command that was given, with its settings. -/
def invocation (g : Gathered) : Except UsageError Invocation := do
  return ⟨← g.command, g.value? .config, g.value? .dataDir, g.verbose⟩

end Gathered

/-- Takes arguments one after the other; a question for help or for the version is answered at once. -/
def gather : List String → Gathered → Except UsageError Wish
  | [], g => g.invocation.map .call
  | argument :: rest, g =>
    if argument = "--help" || argument = "-h" then .ok .help
    else if argument = "--version" || argument = "-V" then .ok .version
    else if argument = "--verbose" || argument = "-v" then gather rest { g with verbose := true }
    else if argument = "--approve" || argument = "--reject" then
      match g.decide (argument = "--approve") with
      | .ok g => gather rest g
      | .error e => .error e
    else
      match ValueOption.ofFlag? argument, rest with
      | some _, [] => .error (.missingValue argument)
      | some o, value :: rest => gather rest { g with given := (o, value) :: g.given }
      | none, rest =>
        if argument.startsWith "-" then .error (.unknownOption argument)
        else gather rest { g with words := g.words ++ [argument] }

/-- The request of a command line, without the program's name. -/
def parse (arguments : List String) : Except UsageError Wish := gather arguments .empty

end Cli

end Workflows
