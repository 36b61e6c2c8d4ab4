import Workflows.Interpreter.Token

/-!
# Scripts as trees

* `Interpreter.Term`: what has a value; `Term.spot` keeps a term's place for error reports;
* `Interpreter.Statement`: what is done; a script is a list of statements;
* `Term.unassignable?`: what may not be assigned to;
* `Statement.assigned`: the names that a list of statements binds, which are a function's own.
-/

namespace Workflows

namespace Interpreter

/-- Operators on one value. -/
inductive UnaryOp where
  | negative | positive | invert
  deriving DecidableEq

/-- Operators on two values. -/
inductive BinaryOp where
  | add | subtract | multiply | divide | floorDivide | modulo | power | shiftLeft | shiftRight | bitAnd
  | bitOr | bitXor
  deriving DecidableEq

/-- The sign of an operator. -/
def BinaryOp.sign : BinaryOp → String
  | .add => "+"
  | .subtract => "-"
  | .multiply => "*"
  | .divide => "/"
  | .floorDivide => "//"
  | .modulo => "%"
  | .power => "** or pow()"
  | .shiftLeft => "<<"
  | .shiftRight => ">>"
  | .bitAnd => "&"
  | .bitOr => "|"
  | .bitXor => "^"

/-- Comparisons of two values. -/
inductive Comparison where
  | eq | ne | lt | le | gt | ge | isIn | notIn | same | notSame
  deriving DecidableEq

/-- The sign of a comparison. -/
def Comparison.sign : Comparison → String
  | .eq => "=="
  | .ne => "!="
  | .lt => "<"
  | .le => "<="
  | .gt => ">"
  | .ge => ">="
  | .isIn => "in"
  | .notIn => "not in"
  | .same => "is"
  | .notSame => "is not"

/-- How an argument is given. -/
inductive ArgumentKind where
  | positional
  | named (name : String)
  /-- All items of a value, by position. -/
  | spread
  /-- All entries of a dictionary, by name. -/
  | spreadNames
  deriving DecidableEq

/-- How a parameter is bound. -/
inductive ParameterKind where
  | plain
  /-- By name only. -/
  | nameOnly
  /-- To the positional arguments that are left over. -/
  | rest
  /-- To the named arguments that are left over. -/
  | restNames
  deriving DecidableEq

/-- What a comprehension builds. -/
inductive Collection where
  | list | set | dict
  /-- The items one by one. -/
  | lazy
  deriving DecidableEq

/-- A term of a script. -/
inductive Term where
  | none
  | ellipsis
  | bool (b : Bool)
  | int (n : Nat)
  | real (x : Float)
  | text (s : String)
  /-- The texts of terms, one after the other. -/
  | joined (parts : List Term)
  /-- The text of a term, after a conversion and in a format. -/
  | shown (t : Term) (conversion : Option Char) (format : Term)
  | name (s : String)
  | tuple (items : List Term)
  | list (items : List Term)
  | set (items : List Term)
  /-- Keys and their values; a value without a key is a dictionary to be taken over. -/
  | dict (entries : List (Option Term × Term))
  | starred (t : Term)
  | unary (op : UnaryOp) (t : Term)
  | binary (op : BinaryOp) (a b : Term)
  | and (a b : Term)
  | or (a b : Term)
  | not (t : Term)
  | compare (first : Term) (others : List (Comparison × Term))
  | choice (test yes no : Term)
  | function (parameters : List (ParameterKind × String × Option Term)) (body : Term)
  | call (f : Term) (arguments : List (ArgumentKind × Term))
  | attribute (t : Term) (name : String)
  | item (t index : Term)
  | slice (start stop step : Option Term)
  /-- The element, a value beside it for dictionaries, and the loops: target, items and conditions. -/
  | comprehension (kind : Collection) (element : Term) (value : Option Term)
      (loops : List (Term × Term × List Term))
  | bind (name : String) (t : Term)
  | spot (span : Span) (t : Term)
  deriving Inhabited

/-- Parameters of a function, with defaults. -/
abbrev Parameters := List (ParameterKind × String × Option Term)

/-- A statement of a script. -/
inductive Statement where
  | value (t : Term)
  | assign (targets : List Term) (t : Term)
  | update (target : Term) (op : BinaryOp) (t : Term)
  | delete (targets : List Term)
  | pass
  | stop
  | again
  | give (t : Option Term)
  | raise (error cause : Option Term)
  | assert (test : Term) (message : Option Term)
  | load (path : String) (name : Option String)
  | loadFrom (path : String) (names : List (String × String))
  /-- Names that belong to an outer function or to the script. -/
  | outer (names : List String)
  | branch (test : Term) (yes no : List Statement)
  | loop (test : Term) (body otherwise : List Statement)
  | each (target items : Term) (body otherwise : List Statement)
  | define (name : String) (parameters : Parameters) (body : List Statement)
  /-- A body, the errors that are caught with the names they are bound to, and what follows. -/
  | attempt (body : List Statement) (handlers : List (Option Term × Option String × List Statement))
      (otherwise last : List Statement)
  | located (span : Span) (s : Statement)
  deriving Inhabited

/-- A term without its place. -/
def Term.bare : Term → Term
  | .spot _ t => t.bare
  | t => t

/-- The place of a term, if it was kept. -/
def Term.span? : Term → Option Span
  | .spot span _ => some span
  | _ => Option.none

/-- What a term that may not be assigned to is called; nothing for one that may. -/
def Term.unassignable? : Term → Option String
  | .spot _ t => t.unassignable?
  | .name _ | .attribute .. | .item .. | .tuple _ | .list _ | .starred _ => Option.none
  | .none => some "None"
  | .bool true => some "True"
  | .bool false => some "False"
  | .ellipsis => some "ellipsis"
  | .call .. => some "function call"
  | .compare .. => some "comparison"
  | .int _ | .real _ | .text _ => some "literal"
  | .joined _ | .shown .. => some "f-string expression"
  | .function .. => some "lambda"
  | .choice .. => some "conditional expression"
  | .dict _ => some "dict literal"
  | .set _ => some "set display"
  | .comprehension .list .. => some "list comprehension"
  | .comprehension .set .. => some "set comprehension"
  | .comprehension .dict .. => some "dict comprehension"
  | .comprehension .lazy .. => some "generator expression"
  | _ => some "expression"

mutual

/-- The names that an assignment to a term binds. -/
def Term.boundNames : Term → List String
  | .name s => [s]
  | .spot _ t | .starred t => t.boundNames
  | .tuple ts | .list ts => Term.boundNamesOfAll ts
  | _ => []

/-- The names that an assignment to some of the terms binds. -/
def Term.boundNamesOfAll : List Term → List String
  | [] => []
  | t :: rest => t.boundNames ++ Term.boundNamesOfAll rest

end

mutual

/-- The names that a statement binds. -/
def Statement.bound : Statement → List String
  | .assign targets _ => Term.boundNamesOfAll targets
  | .update target _ _ => target.boundNames
  | .delete targets => Term.boundNamesOfAll targets
  | .load path name => [name.getD ((path.splitOn ".").headD path)]
  | .loadFrom _ names => names.map (·.2)
  | .branch _ yes no => Statement.boundByAll yes ++ Statement.boundByAll no
  | .loop _ body otherwise => Statement.boundByAll body ++ Statement.boundByAll otherwise
  | .each target _ body otherwise =>
    target.boundNames ++ Statement.boundByAll body ++ Statement.boundByAll otherwise
  | .define name _ _ => [name]
  | .attempt body handlers otherwise last =>
    Statement.boundByAll body ++ Statement.boundByHandlers handlers ++ Statement.boundByAll otherwise
      ++ Statement.boundByAll last
  | .located _ s => s.bound
  | _ => []

/-- The names that a list of statements binds. -/
def Statement.boundByAll : List Statement → List String
  | [] => []
  | s :: rest => s.bound ++ Statement.boundByAll rest

/-- The names that the handlers of errors bind. -/
def Statement.boundByHandlers : List (Option Term × Option String × List Statement) → List String
  | [] => []
  | (_, name, body) :: rest => name.toList ++ Statement.boundByAll body ++ Statement.boundByHandlers rest

end

mutual

/-- The names that a statement leaves to an outer function or to the script. -/
def Statement.outerNames : Statement → List String
  | .outer names => names
  | .branch _ yes no => Statement.outerNamesOfAll yes ++ Statement.outerNamesOfAll no
  | .loop _ body otherwise | .each _ _ body otherwise =>
    Statement.outerNamesOfAll body ++ Statement.outerNamesOfAll otherwise
  | .attempt body _ otherwise last =>
    Statement.outerNamesOfAll body ++ Statement.outerNamesOfAll otherwise
      ++ Statement.outerNamesOfAll last
  | .located _ s => s.outerNames
  | _ => []

/-- The names that a list of statements leaves to an outer function or to the script. -/
def Statement.outerNamesOfAll : List Statement → List String
  | [] => []
  | s :: rest => s.outerNames ++ Statement.outerNamesOfAll rest

end

/-- The names that are a function's own: those that its body binds and does not leave to others. -/
def Statement.ownNames (body : List Statement) : List String :=
  let outer := Statement.outerNamesOfAll body
  (Statement.boundByAll body).filter fun name => !outer.contains name

end Interpreter

end Workflows
