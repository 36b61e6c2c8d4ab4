import Workflows.Interpreter.TermReader

/-!
# Reading statements

* `Scope`: what a statement stands in, which decides whether it may leave a loop or a function;
* `simple`, `compound`: statements of one line and statements with blocks;
* `suite`: a block, indented on lines of its own or behind the colon;
* `Interpreter.program`: all statements of a script.
-/

namespace Workflows

namespace Interpreter

open Parse

/-- What a statement stands in. -/
structure Scope where
  inLoop : Bool
  inFunction : Bool
  deriving DecidableEq

namespace StatementReader

variable (full : Parse Term)

/-- Terms with items that may be spread. -/
def terms : Parse Term :=
  termList do if ← takeMark "*" then return .starred (← full) else
    match ← peek, ← peekSecond with
    | some (.name s), some (.mark ":=") => advance; advance; return .bind s (← full)
    | _, _ => full

/-- Refuses a term that may not be assigned to, at its place. -/
def checkTarget (place : Span) (t : Term) : Parse Unit :=
  match t.unassignable? with
  | some what =>
    let hint := if ["None", "True", "False", "ellipsis"].contains what then ""
      else " here. Maybe you meant '==' instead of '='?"
    throw (.unassignable (what ++ hint), place)
  | none => return ()

/-- The marks that update a target. -/
def updates : List (String × BinaryOp) := [
  ("+=", .add), ("-=", .subtract), ("*=", .multiply), ("/=", .divide), ("//=", .floorDivide),
  ("%=", .modulo), ("**=", .power), ("<<=", .shiftLeft), (">>=", .shiftRight), ("&=", .bitAnd),
  ("|=", .bitOr), ("^=", .bitXor)]

/-- Further targets and the value of an assignment. -/
def assignment (targets : List Term) : Nat → Parse Statement
  | 0 => fail .invalid
  | n + 1 => do
    let start ← span
    let t ← terms full
    if ← atMark ["="] then
      checkTarget (← spanFrom start) t
      advance
      assignment (targets ++ [t]) n
    else return .assign targets t

/-- Whether a statement ends here. -/
def atEnd : Parse Bool := do
  match ← peek with
  | some .newline | some (.mark ";") | none => return true
  | _ => return false

/-- A statement that starts with a term. -/
def ofTerm : Parse Statement := do
  let start ← span
  let t ← terms full
  let place ← spanFrom start
  match ← peek with
  | some (.mark "=") =>
    checkTarget place t
    advance
    assignment full [t] ((← get).rest.length + 1)
  | some (.mark ":") =>
    advance
    let _ ← full
    if ← takeMark "=" then return .assign [t] (← terms full) else return .pass
  | some (.mark m) =>
    match updates.lookup m with
    | some op =>
      checkTarget place t
      advance
      return .update t op (← terms full)
    | none => return .value t
  | some _ =>
    match t.bare, ← atEnd with
    | .name f, false =>
      if f = "print" || f = "exec" then
        let _ ← terms full
        throw (.missingBrackets f, ← spanFrom start)
      else return .value t
    | _, _ => return .value t
  | none => return .value t

/-- A name of a module, with its parts. -/
def path : Parse String := do
  let first ← expectName
  let others ← many do if ← takeMark "." then return some (← expectName) else return none
  return String.intercalate "." (first :: others)

/-- A name and the name that it is bound to, if another one. -/
def renamed (read : Parse String) : Parse (String × Option String) := do
  let name ← read
  if ← takeKeyword "as" then return (name, some (← expectName)) else return (name, none)

/-- Items between commas, at least one. -/
def commas {α : Type} (item : Parse α) : Parse (List α) := do
  let first ← item
  let others ← many do if ← takeMark "," then return some (← item) else return none
  return first :: others

/-- A term, unless the statement ends here. -/
def optional : Parse (Option Term) := do if ← atEnd then return none else return some (← terms full)

/-- The statements of one line up to a semicolon; loading several modules takes several statements. -/
def simple (scope : Scope) : Parse (List Statement) := do
  let start ← span
  let one (s : Parse Statement) : Parse (List Statement) := do
    advance
    let s ← s
    return [.located (← spanFrom start) s]
  match ← peek with
  | some (.keyword "pass") => one (return .pass)
  | some (.keyword "break") =>
    if scope.inLoop then one (return .stop) else throw (.misplaced "break", start)
  | some (.keyword "continue") =>
    if scope.inLoop then one (return .again) else throw (.misplaced "continue", start)
  | some (.keyword "return") =>
    let given ← one do return .give (← optional full)
    if scope.inFunction then return given else throw (.misplaced "return", ← spanFrom start)
  | some (.keyword "raise") => one do
    if ← atEnd then return .raise none none
    let error ← full
    if ← takeKeyword "from" then return .raise (some error) (some (← full))
    return .raise (some error) none
  | some (.keyword "assert") => one do
    let test ← full
    if ← takeMark "," then return .assert test (some (← full)) else return .assert test none
  | some (.keyword "del") => one do
    match ← terms full with
    | .spot _ (.tuple ts) => return .delete ts
    | t => return .delete [t]
  | some (.keyword "global") | some (.keyword "nonlocal") => one do return .outer (← commas expectName)
  | some (.keyword "import") =>
    advance
    let loads ← commas (renamed path)
    let place ← spanFrom start
    return loads.map fun (path, name) => .located place (.load path name)
  | some (.keyword "from") => one do
    let path ← path
    expectKeyword "import"
    let names ← if ← takeMark "(" then separated ")" (renamed expectName)
      else commas (renamed expectName)
    return .loadFrom path (names.map fun (name, known) => (name, known.getD name))
  | _ =>
    let s ← ofTerm full
    return [.located (← spanFrom start) s]

/-- The statements of one line and its end. -/
def line (scope : Scope) : Parse (List Statement) := do
  let first ← simple full scope
  let others ← many do
    if ← takeMark ";" then
      if ← atEnd then return none
      return some (← simple full scope)
    return none
  unless ← take .newline do
    if (← peek).isSome then fail .invalid
  return first ++ others.flatten

variable (block : Scope → Parse (List Statement))

/-- A block: lines of their own that are indented, or the rest of this line. -/
def suite (what : String) (start : Span) (scope : Scope) : Parse (List Statement) := do
  expectMark ":"
  if ← take .newline then
    unless ← take .indent do fail (.missingBlock what start.line)
    block scope
  else line full scope

/-- The branches behind the first one. The argument bounds their number. -/
def branches (scope : Scope) : Nat → Parse (List Statement)
  | 0 => return []
  | n + 1 => do
    let start ← span
    if ← takeKeyword "elif" then
      let test ← full
      let yes ← suite full block "'elif' statement" start scope
      return [.branch test yes (← branches scope n)]
    else if ← takeKeyword "else" then suite full block "'else' statement" start scope
    else return []

/-- A block behind a keyword, if the keyword comes next. -/
def clause (word : String) (scope : Scope) : Parse (List Statement) := do
  let start ← span
  if ← takeKeyword word then suite full block ("'" ++ word ++ "' statement") start scope else return []

/-- The errors that an attempt catches and what is done about them. -/
def handlers (scope : Scope) : Parse (List (Option Term × Option String × List Statement)) := many do
  let start ← span
  if ← takeKeyword "except" then
    let (kind, name) ← if ← atMark [":"] then pure (none, none)
      else do
        let kind ← full
        let name ← if ← takeKeyword "as" then some <$> expectName else pure none
        pure (some kind, name)
    return some (kind, name, ← suite full block "'except' statement" start scope)
  return none

/-- A statement with blocks, if one comes next. -/
def compound? (targets : Parse Term) (scope : Scope) : Parse (Option Statement) := do
  let start ← span
  let loop : Scope := { scope with inLoop := true }
  match ← peek with
  | some (.keyword "if") =>
    advance
    let test ← TermReader.named fun _ => full
    let yes ← suite full block "'if' statement" start scope
    return some (.branch test yes (← branches full block scope ((← get).rest.length + 1)))
  | some (.keyword "while") =>
    advance
    let test ← TermReader.named fun _ => full
    let body ← suite full block "'while' statement" start loop
    return some (.loop test body (← clause full block "else" scope))
  | some (.keyword "for") =>
    advance
    let target ← targets
    expectKeyword "in"
    let items ← terms full
    let body ← suite full block "'for' statement" start loop
    let otherwise ← clause full block "else" scope
    return some (.located (← spanFrom start) (.each target items body otherwise))
  | some (.keyword "def") =>
    advance
    let name ← expectName
    unless ← takeMark "(" do fail (.expected "(")
    let parameters ← TermReader.parameters (fun _ => full) ")" true
    if ← takeMark "->" then let _ ← full
    return some (.define name parameters (← suite full block "function definition" start ⟨false, true⟩))
  | some (.keyword "try") =>
    advance
    let body ← suite full block "'try' statement" start scope
    let handlers ← handlers full block scope
    let otherwise ← clause full block "else" scope
    return some (.attempt body handlers otherwise (← clause full block "finally" scope))
  | _ => return none

/-- One statement, or those of one line. -/
def statements (targets : Parse Term) (scope : Scope) : Parse (List Statement) := do
  match ← peek with
  | some .indent => fail .unexpectedIndent
  | _ =>
    match ← compound? full block targets scope with
    | some s => return [s]
    | none => line full scope

end StatementReader

/-- The statements of a block and its end, nested no deeper than a number of levels; terms are nested no
deeper than another number of levels. -/
def block (depth : Nat) : Nat → Scope → Stream → Except ReadError (List Statement × Stream)
  | 0, _, s => (fail .invalid : Parse (List Statement)) s
  | n + 1, scope, s =>
    let reading : Parse (List Statement) := do
      let all ← many do
        match ← peek with
        | some .dedent => advance; return none
        | none => return none
        | _ => return some (← StatementReader.statements (fun s => term depth .full s)
            (fun scope s => block depth n scope s)
            (TermReader.targets fun grade s => term depth grade s) scope)
      return all.flatten
    reading s

/-- The statements of a script. -/
def program (source : String) : Except ReadError (List Statement) := do
  let ps ← tokens source
  let depth := ps.length + 1
  let (statements, rest) ← block depth depth ⟨false, false⟩ ⟨ps, default⟩
  match rest.rest with
  | [] => return statements
  | p :: _ => throw (.invalid, p.span)

end Interpreter

end Workflows
