import Workflows.Interpreter.Lexer
import Workflows.Interpreter.Program

/-!
# Streams of tokens

* `Interpreter.Stream`: the tokens that are left and the place of the last one taken;
* `Parse`: a reading step; `fail`, `peek`, `takeMark`, `expectMark`, …: the smallest steps;
* `many`, `chain`: steps repeated; `separated`: items between commas.
-/

namespace Workflows

namespace Interpreter

/-- The tokens that are left, and the place of the last one taken. -/
structure Stream where
  rest : List Placed
  last : Span

/-- A step that reads a part of a script. -/
abbrev Parse (α : Type) := StateT Stream (Except ReadError) α

namespace Parse

variable {α : Type}

/-- The place of the next token. -/
def span : Parse Span := do
  let s ← get
  match s.rest with
  | p :: _ => return p.span
  | [] => return { s.last with line := s.last.endLine, column := s.last.endColumn }

/-- The place from `start` to the last token taken. -/
def spanFrom (start : Span) : Parse Span := return start.to (← get).last

/-- Refuses the next token. -/
def fail (e : Misreading) : Parse α := do throw (e, ← span)

/-- The next token. -/
def peek : Parse (Option Token) := return (← get).rest.head?.map (·.token)

/-- The token behind the next one. -/
def peekSecond : Parse (Option Token) := return (← get).rest[1]?.map (·.token)

/-- Takes the next token. -/
def advance : Parse Unit := modify fun s =>
  match s.rest with
  | p :: rest => ⟨rest, p.span⟩
  | [] => s

/-- Takes a token if it comes next. -/
def take (token : Token) : Parse Bool := do
  if (← peek) = some token then advance; return true else return false

/-- Takes an operator or a bracket if it comes next. -/
def takeMark (s : String) : Parse Bool := take (.mark s)

/-- Takes a keyword if it comes next. -/
def takeKeyword (s : String) : Parse Bool := take (.keyword s)

/-- Takes an operator or a bracket, which must come next. -/
def expectMark (s : String) : Parse Unit := do
  unless ← takeMark s do fail (if s = ":" then .expected s else .invalid)

/-- Takes a keyword, which must come next. -/
def expectKeyword (s : String) : Parse Unit := do unless ← takeKeyword s do fail .invalid

/-- Takes a name, which must come next. -/
def expectName : Parse String := do
  match ← peek with
  | some (.name s) => advance; return s
  | _ => fail .invalid

/-- Whether the next token is an operator or a bracket of a list. -/
def atMark (ms : List String) : Parse Bool := do
  match ← peek with
  | some (.mark s) => return ms.contains s
  | _ => return false

/-- Whether the next token is a keyword. -/
def atKeyword (s : String) : Parse Bool := return (← peek) = some (.keyword s)

/-- Repeats a step as long as it yields something, at most `n` times. -/
def collect (step : Parse (Option α)) : Nat → Parse (List α)
  | 0 => return []
  | n + 1 => do
    match ← step with
    | some a => return a :: (← collect step n)
    | none => return []

/-- Repeats a step as long as it yields something. -/
def many (step : Parse (Option α)) : Parse (List α) := do collect step ((← get).rest.length + 1)

/-- Extends a value as long as a step can, at most `n` times. -/
def extend (step : α → Parse (Option α)) : Nat → α → Parse α
  | 0, a => return a
  | n + 1, a => do
    match ← step a with
    | some b => extend step n b
    | none => return a

/-- Extends a value as long as a step can. -/
def chain (step : α → Parse (Option α)) (a : α) : Parse α := do extend step ((← get).rest.length + 1) a

/-- Items between commas up to a closing bracket, which is taken; a comma may stand before it. -/
def separated (closing : String) (item : Parse α) : Parse (List α) := do
  let items ← many do
    if ← atMark [closing] then return none
    let a ← item
    unless ← takeMark "," do
      unless ← atMark [closing] do fail .invalid
    return some a
  expectMark closing
  return items

end Parse

end Interpreter

end Workflows
