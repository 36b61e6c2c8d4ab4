import Workflows.Interpreter.Stream

/-!
# Reading terms

Each function reads one kind of term and is given `deep`, which reads a term one level further down.

* `Grade`: how loose the operators of a term may be;
* `atom`, `primary`, `factor`: names, literals and brackets; lookups and calls; signs and powers;
* `arithmetic`, `comparison`, `conjunction`, `disjunction`: operators from the tightest to the loosest;
* `Interpreter.term`: a term nested no deeper than a number of levels; `termList`: terms between commas.
-/

namespace Workflows

namespace Interpreter

open Parse

/-- How loose the operators of a term may be. -/
inductive Grade where
  /-- Arithmetic only, as in the targets of loops. -/
  | arithmetic
  /-- Comparisons, negations, conjunctions and disjunctions too. -/
  | test
  /-- Choices and functions too. -/
  | full
  deriving DecidableEq

namespace TermReader

variable (deep : Grade → Parse Term)

/-- A term that may be bound to a name. -/
def named : Parse Term := do
  match ← peek, ← peekSecond with
  | some (.name s), some (.mark ":=") => advance; advance; return .bind s (← deep .full)
  | _, _ => deep .full

/-- A term that may stand for all its items. -/
def item : Parse Term := do if ← takeMark "*" then return .starred (← deep .full) else named deep

/-- A text literal with the literals that follow it. -/
def texts (ofPieces : List Piece → Parse Term) : Parse Term := do
  let parts ← many do
    match ← peek with
    | some (.text s) => advance; return some (.text s)
    | some (.formatted ps) => advance; return some (← ofPieces ps)
    | _ => return none
  match parts with
  | [t] => return t
  | parts =>
    let plain := parts.filterMap fun
      | .text s => some s
      | _ => none
    return if plain.length = parts.length then .text (String.join plain) else .joined parts

/-- The term written inside a formatted text. -/
def embedded (source : String) : Parse Term := do
  let span ← span
  let ps ← termTokens source span
  let (t, s) ← (deep .full).run ⟨ps, span⟩
  if s.rest.isEmpty then return t else fail .invalid

/-- The pieces of a formatted text; formats may hold fields themselves. -/
def formatted (ps : List Piece) : Parse Term := do
  let fields (format : String → Parse Term) (ps : List Piece) : Parse Term := do
    let parts ← ps.mapM fun p => match p with
      | .plain s => return Term.text s
      | .field source conversion spec => return .shown (← embedded deep source) conversion (← format spec)
    return .joined parts
  fields (fun spec => fields (fun s => return .text s) (pieces true (spec.length + 1) [] spec.toList)) ps

/-- Targets between commas, up to the word `in`. -/
def targets : Parse Term := do
  let one : Parse Term := do
    if ← takeMark "*" then return .starred (← deep .arithmetic) else deep .arithmetic
  let first ← one
  if ← atMark [","] then
    let others ← many do
      if ← takeMark "," then
        if ← atKeyword "in" then return none
        return some (← one)
      return none
    return .tuple (first :: others)
  return first

/-- The loops of a comprehension. -/
def loops : Parse (List (Term × Term × List Term)) := many do
  if ← takeKeyword "for" then
    let target ← targets deep
    expectKeyword "in"
    let items ← deep .test
    let conditions ← many do
      if ← takeKeyword "if" then return some (← deep .test) else return none
    return some (target, items, conditions)
  else return none

/-- The inside of round brackets, behind the opening one. -/
def parenthesized : Parse Term := do
  if ← takeMark ")" then return .tuple []
  let first ← item deep
  if ← atKeyword "for" then
    let loops ← loops deep
    expectMark ")"
    return .comprehension .lazy first none loops
  if ← takeMark "," then
    return .tuple (first :: (← separated ")" (item deep)))
  expectMark ")"
  return first

/-- The inside of square brackets, behind the opening one. -/
def listed : Parse Term := do
  if ← takeMark "]" then return .list []
  let first ← item deep
  if ← atKeyword "for" then
    let loops ← loops deep
    expectMark "]"
    return .comprehension .list first none loops
  if ← takeMark "," then
    return .list (first :: (← separated "]" (item deep)))
  expectMark "]"
  return .list [first]

/-- An entry of a dictionary. -/
def entry : Parse (Option Term × Term) := do
  if ← takeMark "**" then return (none, ← deep .full)
  let key ← deep .full
  expectMark ":"
  return (some key, ← deep .full)

/-- The inside of braces, behind the opening one. -/
def braced : Parse Term := do
  if ← takeMark "\x7d" then return .dict []
  if ← takeMark "**" then
    let first ← deep .full
    if ← takeMark "," then
      return .dict ((none, first) :: (← separated "\x7d" (entry deep)))
    expectMark "\x7d"
    return .dict [(none, first)]
  let first ← item deep
  if ← takeMark ":" then
    let value ← deep .full
    if ← atKeyword "for" then
      let loops ← loops deep
      expectMark "\x7d"
      return .comprehension .dict first (some value) loops
    if ← takeMark "," then
      return .dict ((some first, value) :: (← separated "\x7d" (entry deep)))
    expectMark "\x7d"
    return .dict [(some first, value)]
  if ← atKeyword "for" then
    let loops ← loops deep
    expectMark "\x7d"
    return .comprehension .set first none loops
  if ← takeMark "," then
    return .set (first :: (← separated "\x7d" (item deep)))
  expectMark "\x7d"
  return .set [first]

/-- Names, literals and brackets. -/
def atom : Parse Term := do
  let start ← span
  match ← peek with
  | some (.name s) => advance; return .spot start (.name s)
  | some (.int n) => advance; return .int n
  | some (.real x) => advance; return .real x
  | some (.text _) | some (.formatted _) => texts (formatted deep)
  | some (.keyword "None") => advance; return .none
  | some (.keyword "True") => advance; return .bool true
  | some (.keyword "False") => advance; return .bool false
  | some (.mark "...") => advance; return .ellipsis
  | some (.mark "(") => advance; parenthesized deep
  | some (.mark "[") => advance; listed deep
  | some (.mark "\x7b") => advance; braced deep
  | _ => fail .invalid

/-- An argument of a call. -/
def argument : Parse (ArgumentKind × Term) := do
  if ← takeMark "**" then return (.spreadNames, ← deep .full)
  if ← takeMark "*" then return (.spread, ← deep .full)
  match ← peek, ← peekSecond with
  | some (.name s), some (.mark "=") => advance; advance; return (.named s, ← deep .full)
  | _, _ =>
    let t ← named deep
    if ← atKeyword "for" then
      return (.positional, .comprehension .lazy t none (← loops deep))
    return (.positional, t)

/-- An index or a slice. -/
def subscript : Parse Term := do
  let bound : Parse (Option Term) := do
    if ← atMark [":", "]", ","] then return none else return some (← named deep)
  let start ← bound
  if ← takeMark ":" then
    let stop ← bound
    let step ← if ← takeMark ":" then bound else pure none
    return .slice start stop step
  match start with
  | some t => return t
  | none => fail .invalid

/-- Lookups and calls behind an atom. -/
def primary : Parse Term := do
  let start ← span
  let first ← atom deep
  chain (fun t => do
    if ← takeMark "." then
      let name ← expectName
      return some (.spot (← spanFrom start) (.attribute t name))
    if ← takeMark "(" then
      let arguments ← separated ")" (argument deep)
      return some (.spot (← spanFrom start) (.call t arguments))
    let bracket ← span
    if ← takeMark "[" then
      let first ← subscript deep
      let index ← if ← takeMark "," then
          pure (.tuple (first :: (← separated "]" (subscript deep))))
        else do
          expectMark "]"
          pure first
      let place ← spanFrom start
      return some (.spot { place with core := some (bracket.column, place.endColumn) } (.item t index))
    return none) first

/-- Signs before a primary and a power behind it. The argument bounds their number. -/
def factor : Nat → Parse Term
  | 0 => fail .invalid
  | n + 1 => do
    let start ← span
    let sign? : Option UnaryOp := match ← peek with
      | some (.mark "-") => some .negative
      | some (.mark "+") => some .positive
      | some (.mark "~") => some .invert
      | _ => none
    match sign? with
    | some op =>
      advance
      let t ← factor n
      return .spot (← spanFrom start) (.unary op t)
    | none =>
      let a ← primary deep
      let sign ← span
      if ← takeMark "**" then
        let b ← factor n
        let place ← spanFrom start
        return .spot { place with core := some (sign.column, sign.endColumn) } (.binary .power a b)
      return a

/-- The operators on two values, the loosest first. -/
def levels : List (List (String × BinaryOp)) := [
  [("|", .bitOr)],
  [("^", .bitXor)],
  [("&", .bitAnd)],
  [("<<", .shiftLeft), (">>", .shiftRight)],
  [("+", .add), ("-", .subtract)],
  [("*", .multiply), ("//", .floorDivide), ("/", .divide), ("%", .modulo)]]

/-- Operators of one level, from the left to the right. -/
def leftward (ops : List (String × BinaryOp)) (tighter : Parse Term) : Parse Term := do
  let start ← span
  let first ← tighter
  chain (fun a => do
    let sign ← span
    match ← peek with
    | some (.mark m) =>
      match ops.lookup m with
      | some op =>
        advance
        let b ← tighter
        let place ← spanFrom start
        return some (.spot { place with core := some (sign.column, sign.endColumn) } (.binary op a b))
      | none => return none
    | _ => return none) first

/-- Sums, products and the like. -/
def arithmetic : Parse Term := do
  let depth := (← get).rest.length + 1
  levels.foldr leftward (factor deep depth)

/-- The comparison that comes next, if any. -/
def comparison? : Parse (Option Comparison) := do
  match ← peek, ← peekSecond with
  | some (.mark "=="), _ => advance; return some .eq
  | some (.mark "!="), _ => advance; return some .ne
  | some (.mark "<"), _ => advance; return some .lt
  | some (.mark "<="), _ => advance; return some .le
  | some (.mark ">"), _ => advance; return some .gt
  | some (.mark ">="), _ => advance; return some .ge
  | some (.keyword "in"), _ => advance; return some .isIn
  | some (.keyword "not"), some (.keyword "in") => advance; advance; return some .notIn
  | some (.keyword "is"), some (.keyword "not") => advance; advance; return some .notSame
  | some (.keyword "is"), _ => advance; return some .same
  | _, _ => return none

/-- A row of comparisons. -/
def comparison (operand : Parse Term) : Parse Term := do
  let start ← span
  let first ← operand
  let others ← many do
    match ← comparison? with
    | some op => return some (op, ← operand)
    | none => return none
  if others.isEmpty then return first
  return .spot (← spanFrom start) (.compare first others)

/-- Negations of a comparison. The argument bounds their number. -/
def negation (operand : Parse Term) : Nat → Parse Term
  | 0 => fail .invalid
  | n + 1 => do if ← takeKeyword "not" then return .not (← negation operand n) else comparison operand

/-- Operands between a keyword. -/
def between (word : String) (join : Term → Term → Term) (operand : Parse Term) : Parse Term := do
  chain (fun a => do
    if ← takeKeyword word then return some (join a (← operand)) else return none) (← operand)

/-- Alternatives of conjunctions of comparisons. -/
def disjunction (operand : Parse Term) : Parse Term := do
  let depth := (← get).rest.length + 1
  between "or" .or (between "and" .and (negation operand depth))

/-- Parameters up to a closing mark, which is taken. -/
def parameters (closing : String) (annotated : Bool) : Parse Parameters := do
  let plain (kind : ParameterKind) : Parse (ParameterKind × String × Option Term) := do
    let name ← expectName
    if annotated then
      if ← takeMark ":" then let _ ← deep .full
    let default ← if ← takeMark "=" then some <$> deep .full else pure none
    return (kind, name, default)
  let all ← separated closing do
    if ← takeMark "**" then return [← plain .restNames]
    if ← takeMark "*" then
      if ← atMark [","] then return [(.rest, "", none)]
      return [← plain .rest]
    if ← takeMark "/" then return []
    return [← plain .plain]
  let ps := all.flatten
  let before := ps.takeWhile fun p => p.1 ≠ .rest
  let after := (ps.dropWhile fun p => p.1 ≠ .rest).map fun p =>
    if p.1 = .plain then (.nameOnly, p.2) else p
  return before ++ after

/-- A term of a grade. -/
def step : Grade → Parse Term
  | .arithmetic => arithmetic deep
  | .test => disjunction (arithmetic deep)
  | .full => do
    if ← takeKeyword "lambda" then
      let ps ← parameters deep ":" false
      return .function ps (← deep .full)
    let yes ← disjunction (arithmetic deep)
    if ← takeKeyword "if" then
      let condition ← disjunction (arithmetic deep)
      expectKeyword "else"
      return .choice condition yes (← deep .full)
    return yes

end TermReader

/-- A term of a grade, nested no deeper than a number of levels. -/
def term : Nat → Grade → Stream → Except ReadError (Term × Stream)
  | 0, _, s => (fail .invalid : Parse Term) s
  | n + 1, grade, s => TermReader.step (fun grade s => term n grade s) grade s

/-- Terms between commas; several of them, or one with a comma, make a tuple. -/
def termList (item : Parse Term) : Parse Term := do
  let start ← span
  let first ← item
  if ← atMark [","] then
    let others ← many do
      if ← takeMark "," then
        match ← peek with
        | some (.mark m) => if ["=", ")", "]", "\x7d", ":", ";"].contains m then return none
        | some .newline | none => return none
        | _ => pure ()
        return some (← item)
      return none
    return .spot (← spanFrom start) (.tuple (first :: others))
  return first

end Interpreter

end Workflows
