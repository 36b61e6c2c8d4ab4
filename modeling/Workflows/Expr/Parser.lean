import Workflows.Expr.Basic
import Workflows.Expr.Lexer

/-!
# From tokens to trees

The grammar, the loosest binding first:

    expr       = and { OR and }
    and        = unary { AND unary }
    unary      = NOT unary | comparison
    comparison = operand [ op operand ]
    operand    = path | literal | "(" expr ")" | "[" [ operand { "," operand } [ "," ] ] "]"

* `Cursor`: the tokens still to be read and how many nesting levels are open; `Cursor.descend` opens
  one and fails past `maxNesting`, `Cursor.ascend` closes some;
* `parseOr`, `parseAnd`, `parseUnary`, `parseComparison`, `parseOperand`: one function a rule;
* `Expr.ofTokens`, `Expr.parse`: a whole expression.

A group, a list, a `NOT` and each further operand of an `AND` or `OR` chain open a level.
-/

namespace Workflows

/-- How many levels may be open at once. -/
def maxNesting : Nat := 64

/-- The tokens still to be read and the number of open levels. The end token is the last of them, and the only
one of its kind: so the lexer gives them, and `Cursor.advance` relies on it, since it stays at a token that
has none behind it. -/
structure Cursor where
  rest : List Token
  depth : Nat
  deriving DecidableEq

namespace Cursor

/-- The next token; past the end still the end token. -/
def peek (c : Cursor) : Token := c.rest.headD ⟨.eof, "", 0⟩

/-- The kind of the next token. -/
def kind (c : Cursor) : TokenKind := c.peek.kind

/-- The kind of the token after the next one. -/
def secondKind (c : Cursor) : TokenKind :=
  match c.rest with
  | _ :: t :: _ => t.kind
  | _ => c.kind

/-- Past the next token. The last token is never passed: it is the end token. -/
def advance (c : Cursor) : Cursor :=
  match c.rest with
  | _ :: t :: rest => { c with rest := t :: rest }
  | _ => c

/-- Opens a level. -/
def descend (c : Cursor) : Except ExprError Cursor :=
  if maxNesting ≤ c.depth then .error (.malformed c.peek.column .tooDeep)
  else .ok { c with depth := c.depth + 1 }

/-- Closes `levels` levels. -/
def ascend (c : Cursor) (levels : Nat) : Cursor := { c with depth := c.depth - levels }

/-- Past a token of the given kind, which must be the next one. -/
def expect (c : Cursor) (kind : TokenKind) : Except ExprError Cursor :=
  if c.kind = kind then .ok c.advance
  else if c.kind = .eof then .error (.unexpectedEnd (.token kind))
  else .error (.unexpectedToken (.token kind) c.peek)

end Cursor

/-- The least and the greatest number that is read as a whole one. -/
def inWord (n : Int) : Bool := -0x8000000000000000 ≤ n ∧ n < 0x8000000000000000

/-- The number of a number token: a whole one within 64 bits, else a finite double. -/
def Token.number? (t : Token) : Except ExprError Value :=
  let cs := t.text.toList
  match Decimal.readInt? cs with
  | some n => if inWord n then .ok (.number (.int n)) else real cs
  | none => real cs
where
  /-- The token's text as a double. -/
  real (cs : List Char) : Except ExprError Value :=
    match (Decimal.read? cs).bind Real64.ofFloat? with
    | some x => .ok (.number (.real x))
    | none => .error (.malformed t.column (.number t.text))

/-- The comparison operator at the cursor and how many tokens it takes up. -/
def Cursor.compareOp? (c : Cursor) : Option (CompareOp × Nat) :=
  match c.kind with
  | .eq => some (.eq, 1)
  | .ne => some (.ne, 1)
  | .lt => some (.lt, 1)
  | .le => some (.le, 1)
  | .gt => some (.gt, 1)
  | .ge => some (.ge, 1)
  | .contains => some (.contains, 1)
  | .isIn => some (.isIn, 1)
  | .not => if c.secondKind = .isIn then some (.notIn, 2) else none
  | _ => none

/-- A rule of the grammar yields a tree and the cursor behind it, or an error. -/
abbrev Parsing := Except ExprError

/-- What is said when the fuel runs out, which it never does. -/
def outOfFuel {α : Type} (c : Cursor) : Parsing α := .error (.malformed c.peek.column .tooDeep)

mutual

/-- A chain of `OR`. -/
def parseOr : Nat → Cursor → Parsing (Expr × Cursor)
  | 0, c => outOfFuel c
  | fuel + 1, c => do
    let (left, c) ← parseAnd fuel c
    orChain fuel 0 left c

/-- The further operands of a chain of `OR`, of which `chained` have been read. -/
def orChain : Nat → Nat → Expr → Cursor → Parsing (Expr × Cursor)
  | 0, _, _, c => outOfFuel c
  | fuel + 1, chained, left, c =>
    if c.kind = .or then do
      let c ← c.advance.descend
      let (right, c) ← parseAnd fuel c
      orChain fuel (chained + 1) (.or left right) c
    else .ok (left, c.ascend chained)

/-- A chain of `AND`. -/
def parseAnd : Nat → Cursor → Parsing (Expr × Cursor)
  | 0, c => outOfFuel c
  | fuel + 1, c => do
    let (left, c) ← parseUnary fuel c
    andChain fuel 0 left c

/-- The further operands of a chain of `AND`, of which `chained` have been read. -/
def andChain : Nat → Nat → Expr → Cursor → Parsing (Expr × Cursor)
  | 0, _, _, c => outOfFuel c
  | fuel + 1, chained, left, c =>
    if c.kind = .and then do
      let c ← c.advance.descend
      let (right, c) ← parseUnary fuel c
      andChain fuel (chained + 1) (.and left right) c
    else .ok (left, c.ascend chained)

/-- A comparison with any number of `NOT` before it. -/
def parseUnary : Nat → Cursor → Parsing (Expr × Cursor)
  | 0, c => outOfFuel c
  | fuel + 1, c =>
    if c.kind = .not then do
      let c ← c.advance.descend
      let (inner, c) ← parseUnary fuel c
      .ok (.not inner, c.ascend 1)
    else parseComparison fuel c

/-- An operand, or two with an operator between them. -/
def parseComparison : Nat → Cursor → Parsing (Expr × Cursor)
  | 0, c => outOfFuel c
  | fuel + 1, c => do
    let (left, c) ← parseOperand fuel c
    match c.compareOp? with
    | none => .ok (left, c)
    | some (op, width) =>
      let c := if width = 2 then c.advance.advance else c.advance
      let (right, c) ← parseOperand fuel c
      .ok (.compare op left right, c)

/-- A path, a literal, a group or a list. -/
def parseOperand : Nat → Cursor → Parsing (Expr × Cursor)
  | 0, c => outOfFuel c
  | fuel + 1, c =>
    let t := c.peek
    match t.kind with
    | .identifier => .ok (.path t.text, c.advance)
    | .text => .ok (.literal (.text t.text), c.advance)
    | .number => t.number?.map fun v => (.literal v, c.advance)
    | .true => .ok (.literal (.bool true), c.advance)
    | .false => .ok (.literal (.bool false), c.advance)
    | .null => .ok (.literal .null, c.advance)
    | .openParen => do
      let c ← c.advance.descend
      let (inner, c) ← parseOr fuel c
      let c ← c.expect .closeParen
      .ok (inner, c.ascend 1)
    | .openBracket => do
      let c ← c.advance.descend
      let (items, c) ← parseItems fuel c
      let c ← c.expect .closeBracket
      .ok (.list items, c.ascend 1)
    | .eof => .error (.unexpectedEnd .operand)
    | _ => .error (.unexpectedToken .operand t)

/-- The items of a list up to its closing bracket; a comma may follow the last one. -/
def parseItems : Nat → Cursor → Parsing (List Expr × Cursor)
  | 0, c => outOfFuel c
  | fuel + 1, c =>
    if c.kind = .closeBracket then .ok ([], c)
    else do
      let (item, c) ← parseOperand fuel c
      if c.kind = .comma then
        let (items, c) ← parseItems fuel c.advance
        .ok (item :: items, c)
      else .ok ([item], c)

end

namespace Expr

/-- Fuel for a list of tokens: no token is reached through more than eight rules. -/
def fuelFor (tokens : List Token) : Nat := 8 * tokens.length + 8

/-- The tree of a list of tokens that ends with the end token. -/
def ofTokens (tokens : List Token) : Except ExprError Expr :=
  let c : Cursor := ⟨tokens, 0⟩
  if c.kind = .eof then .error .empty
  else do
    let (e, c) ← parseOr (fuelFor tokens) c
    if c.kind = .eof then .ok e
    else .error (.unexpectedToken (.token .eof) c.peek)

/-- The tree of a text. -/
def parse (s : String) : Except ExprError Expr := tokenize s >>= ofTokens

end Expr

end Workflows
