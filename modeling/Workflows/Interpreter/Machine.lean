import Workflows.Interpreter.Program
import Workflows.Interpreter.ErrorKind

/-!
# The state of a running script

* `Interpreter.Item`: what terms stand for; what can change stands in cells, `Cell`, and is known by its
  address;
* `Interpreter.Frame`: the names of a function's run, or of the script;
* `Interpreter.Machine`: cells, frames, what has been written, and the time and space that are left;
* `Interpreter.Signal`: why a run does not go on; `Interpreter.Run`: a step that changes the state and may give a
  signal;
* `Run.raise`, `Run.alloc`, `Run.tick`, `Run.write`: the smallest steps; `Run.within`, `Run.inCall` note where
  errors come from.
-/

namespace Workflows

namespace Interpreter

/-- Where a cell or a frame stands. -/
abbrev Address := Nat

/-- What a view of a dictionary shows. -/
inductive ViewKind where
  | keys | values | entries
  deriving DecidableEq

/-- What a term stands for. -/
inductive Item where
  | none
  | bool (b : Bool)
  | int (n : Int)
  | real (x : Float)
  | text (s : String)
  | tuple (items : List Item)
  | range (start stop step : Int)
  | cell (a : Address)
  | view (kind : ViewKind) (dict : Address)
  /-- A function of the language. -/
  | native (name : String)
  /-- A type or a kind of error of the language. -/
  | kind (name : String)
  /-- A function of a receiver. -/
  | method (receiver : Item) (name : String)
  /-- A library of the language. -/
  | library (name : String)
  /-- Standard output, or standard error. -/
  | stream (isError : Bool)
  /-- Standard input, which is used up. -/
  | input
  deriving Inhabited

/-- What a function does. -/
inductive Body where
  | term (t : Term)
  | block (statements : List Statement)
  deriving Inhabited

/-- A function of the script. -/
structure Function where
  name : String
  parameters : List (ParameterKind × String × Option Item)
  body : Body
  /-- The names that are its own. -/
  own : List String
  /-- The frame that it was defined in. -/
  frame : Address
  deriving Inhabited

/-- What stands at an address and may change. -/
inductive Cell where
  | list (items : List Item)
  /-- Entries in the order in which their keys were added. -/
  | dict (entries : List (Item × Item))
  | set (items : List Item)
  /-- The items that are still to come. -/
  | cursor (items : List Item)
  | function (f : Function)
  | error (kind : String) (arguments : List Item)
  deriving Inhabited

/-- The names of a function's run, or of the script. -/
structure Frame where
  /-- The frame around this one; the script's has none. -/
  outer : Option Address
  /-- The names that are bound here; all of them in the script's frame. -/
  own : List String
  bindings : List (String × Item)
  deriving Inhabited

/-- Where an error was raised, and the calls that led there. -/
structure Trace where
  /-- The place in the function that is left, once it is known. -/
  here : Option Span
  /-- The places of the calls and the functions they stand in, the outermost first. -/
  calls : List (Span × String)
  deriving DecidableEq, Inhabited

/-- Why a run does not go on. -/
inductive Signal where
  | raised (error : Item) (trace : Trace)
  | timedOut
  | flooded
  /-- Terms, statements and calls are nested too deeply. -/
  | tooDeep
  /-- The script left at once with a status. -/
  | left (status : Nat)
  deriving Inhabited

/-- The state of a running script. -/
structure Machine where
  cells : Array Cell
  frames : Array Frame
  stdout : String
  /-- What was written to standard output and is held back. -/
  held : String
  stderr : String
  /-- The microseconds that are left; a step takes one. -/
  timeLeft : Nat
  /-- How many bytes may still be written. -/
  spaceLeft : Nat
  /-- How many calls are under way. -/
  depth : Nat
  /-- The errors that are being handled, the latest first. -/
  handled : List (Item × Trace)
  deriving Inhabited

/-- A step of a run. -/
abbrev Run := EStateM Signal Machine

namespace Run

variable {α : Type}

/-- Puts a cell at a new address. -/
def alloc (c : Cell) : Run Item := modifyGet fun m =>
  (.cell m.cells.size, { m with cells := m.cells.push c })

/-- The cell at an address. -/
def cell (a : Address) : Run Cell := return (← get).cells[a]?.getD default

/-- Changes the cell at an address. -/
def setCell (a : Address) (c : Cell) : Run Unit :=
  modify fun m => { m with cells := m.cells.setIfInBounds a c }

/-- Raises an error of a kind with arguments. -/
def raiseWith (kind : String) (arguments : List Item) : Run α := do
  throw (.raised (← alloc (.error kind arguments)) ⟨none, []⟩)

/-- Raises an error of a kind with a message. -/
def raise (kind message : String) : Run α := raiseWith kind [.text message]

/-- Takes time. -/
def spend (microseconds : Nat) : Run Unit := do
  let m ← get
  if m.timeLeft ≤ microseconds then throw .timedOut
  set { m with timeLeft := m.timeLeft - microseconds }

/-- Takes the time of one step. -/
def tick : Run Unit := spend 1

/-- Uses up space for what is handed over. -/
def useSpace (bytes : Nat) : Run Unit := do
  let m ← get
  if m.spaceLeft < bytes then throw .flooded
  set { m with spaceLeft := m.spaceLeft - bytes }

/-- Hands over what is held back. -/
def flush : Run Unit := do
  useSpace (← get).held.utf8ByteSize
  modify fun m => { m with stdout := m.stdout ++ m.held, held := "" }

/-- How many bytes are held back at most. -/
def holdLimit : Nat := 8192

/-- Writes a text; standard output holds back short texts. -/
def write (isError : Bool) (s : String) : Run Unit := do
  if isError then
    useSpace s.utf8ByteSize
    modify fun m => { m with stderr := m.stderr ++ s }
  else
    modify fun m => { m with held := m.held ++ s }
    if holdLimit < (← get).held.utf8ByteSize then flush

/-- A new list. -/
def newList (items : List Item) : Run Item := alloc (.list items)

/-- A new dictionary. -/
def newDict (entries : List (Item × Item)) : Run Item := alloc (.dict entries)

/-- Repeats a step until it yields something, at most `n` times; a run that takes longer is out of time. -/
def repeatUntil (step : Run (Option α)) : Nat → Run α
  | 0 => throw .timedOut
  | n + 1 => do
    match ← step with
    | some a => return a
    | none => repeatUntil step n

/-- How a step ends. -/
def outcome (step : Run α) : Run (Except Signal α) := fun m =>
  match step m with
  | .ok a m => .ok (.ok a) m
  | .error e m => .ok (.error e) m

/-- Notes the place of an error that is raised by a step, unless a closer place is known. -/
def within (place : Span) (step : Run α) : Run α := fun m =>
  match step m with
  | .error (.raised error ⟨none, calls⟩) m => .error (.raised error ⟨some place, calls⟩) m
  | r => r

/-- Notes the call that an error left, if a step raises one. -/
def inCall (function : String) (step : Run α) : Run α := fun m =>
  match step m with
  | .error (.raised error ⟨here, calls⟩) m =>
    .error (.raised error ⟨none, (here.getD default, function) :: calls⟩) m
  | r => r

end Run

/-- The name of an item's type. -/
def Machine.typeName (m : Machine) : Item → String
  | .none => "NoneType"
  | .bool _ => "bool"
  | .int _ => "int"
  | .real _ => "float"
  | .text _ => "str"
  | .tuple _ => "tuple"
  | .range .. => "range"
  | .view .keys _ => "dict_keys"
  | .view .values _ => "dict_values"
  | .view .entries _ => "dict_items"
  | .native _ | .method .. => "builtin_function_or_method"
  | .kind _ => "type"
  | .library _ => "module"
  | .stream _ | .input => "_io.TextIOWrapper"
  | .cell a =>
    match m.cells[a]? with
    | some (.list _) => "list"
    | some (.dict _) => "dict"
    | some (.set _) => "set"
    | some (.cursor _) => "generator"
    | some (.function _) => "function"
    | some (.error kind _) => shortKind kind
    | none => "object"

end Interpreter

end Workflows
