/-!
# Tokens of expressions

* `TokenKind` and its name in messages; `Token`: a kind, a text and the column it starts at;
* `ExprError`: what can be wrong with an expression, and `ExprError.message`.
-/

namespace Workflows

/-- The kinds of tokens. -/
inductive TokenKind where
  | and | or | not | contains | isIn | true | false | null
  | identifier | text | number
  | eq | ne | lt | le | gt | ge
  | openParen | closeParen | openBracket | closeBracket | comma
  | eof
  deriving DecidableEq, Inhabited

/-- The name of a kind in messages. -/
def TokenKind.name : TokenKind → String
  | .and => "AND"
  | .or => "OR"
  | .not => "NOT"
  | .contains => "CONTAINS"
  | .isIn => "IN"
  | .true => "true"
  | .false => "false"
  | .null => "null"
  | .identifier => "identifier"
  | .text => "string literal"
  | .number => "number"
  | .eq => "=="
  | .ne => "!="
  | .lt => "<"
  | .le => "<="
  | .gt => ">"
  | .ge => ">="
  | .openParen => "("
  | .closeParen => ")"
  | .openBracket => "["
  | .closeBracket => "]"
  | .comma => ","
  | .eof => "end of input"

/-- A token: its kind, its text (for a text literal what it stands for) and its column, from 1. -/
structure Token where
  kind : TokenKind
  text : String
  column : Nat
  deriving DecidableEq, Inhabited

/-- The types of values in messages. -/
inductive ValueType where
  | null | boolean | number | text | list | object
  deriving DecidableEq

/-- The name of a type in messages. -/
def ValueType.name : ValueType → String
  | .null => "null"
  | .boolean => "boolean"
  | .number => "number"
  | .text => "string"
  | .list => "list"
  | .object => "object"

/-- The operators that compare two operands. -/
inductive CompareOp where
  | eq | ne | lt | le | gt | ge | contains | isIn | notIn
  deriving DecidableEq

/-- An operator as it is written. -/
def CompareOp.text : CompareOp → String
  | .eq => "=="
  | .ne => "!="
  | .lt => "<"
  | .le => "<="
  | .gt => ">"
  | .ge => ">="
  | .contains => "CONTAINS"
  | .isIn => "IN"
  | .notIn => "NOT IN"

/-! ## Errors -/

/-- Why no token can be formed, or no tree be built, at a column. -/
inductive Malformation where
  /-- No token starts with this character. -/
  | character (c : Char)
  /-- This character only stands twice in a row. -/
  | undoubled (c : Char)
  /-- A text literal without its closing quote. -/
  | unclosedText
  /-- A number token that is no number. -/
  | number (text : String)
  /-- More nesting than is allowed. -/
  | tooDeep
  deriving DecidableEq

/-- What a malformation is called. -/
def Malformation.message : Malformation → String
  | .character c => "Unexpected character '" ++ c.toString ++ "'"
  | .undoubled c => "Expected '" ++ c.toString ++ c.toString ++ "'"
  | .unclosedText => "Unterminated string literal"
  | .number text => "'" ++ text ++ "' is not a valid number"
  | .tooDeep => "Expression nested too deeply"

/-- What should have stood at a place. -/
inductive Expected where
  | operand
  | token (kind : TokenKind)
  deriving DecidableEq

/-- What an expectation is called. -/
def Expected.name : Expected → String
  | .operand => "operand"
  | .token kind => kind.name

/-- What can be wrong with an expression, or with its operands. -/
inductive ExprError where
  | malformed (column : Nat) (what : Malformation)
  | unexpectedToken (expected : Expected) (found : Token)
  | unexpectedEnd (expected : Expected)
  | empty
  | typeMismatch (op : CompareOp) (left right : ValueType)
  deriving DecidableEq

/-- The text of an error. -/
def ExprError.message : ExprError → String
  | .malformed column what =>
    "Syntax error at column " ++ toString column ++ ": " ++ what.message
  | .unexpectedToken expected found =>
    "Unexpected token at column " ++ toString found.column ++ ": expected " ++ expected.name ++
      ", found '" ++ found.text ++ "'"
  | .unexpectedEnd expected => "Unexpected end of expression: expected " ++ expected.name
  | .empty => "Empty expression"
  | .typeMismatch op left right =>
    "Cannot apply '" ++ op.text ++ "' to " ++ left.name ++ " and " ++ right.name

end Workflows
