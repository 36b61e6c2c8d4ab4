/-!
# Tokens of scripts

* `Interpreter.Token`, `Interpreter.Piece`: words, numbers, texts, marks and the layout of lines;
* `Interpreter.Span`: where something stands in a script; `Interpreter.Placed`: a token with its place;
* `Interpreter.Misreading`, `Misreading.message`: why a text is no script;
* `Interpreter.keywords`, `Interpreter.marks`.
-/

namespace Workflows

namespace Interpreter

/-- A place in a script: lines count from one, columns from zero, the end is behind the last character. -/
structure Span where
  line : Nat
  column : Nat
  endLine : Nat
  endColumn : Nat
  /-- The columns of the part that matters most: an operator, or the brackets of a lookup. -/
  core : Option (Nat × Nat)
  deriving DecidableEq, Inhabited

/-- The place from the start of one span to the end of another. -/
def Span.to (a b : Span) : Span := ⟨a.line, a.column, b.endLine, b.endColumn, none⟩

/-- A part of a formatted text. -/
inductive Piece where
  /-- Characters that stand for themselves. -/
  | plain (s : String)
  /-- A term in braces, the letter of its conversion and its format. -/
  | field (source : String) (conversion : Option Char) (format : String)
  deriving DecidableEq

/-- The smallest units of a script. -/
inductive Token where
  | name (s : String)
  | keyword (s : String)
  | int (n : Nat)
  | real (x : Float)
  | text (s : String)
  | formatted (pieces : List Piece)
  /-- An operator or a bracket. -/
  | mark (s : String)
  /-- The end of a logical line. -/
  | newline
  /-- The start of a block. -/
  | indent
  /-- The end of a block. -/
  | dedent
  deriving DecidableEq

/-- A token and where it stands. -/
structure Placed where
  token : Token
  span : Span
  deriving DecidableEq

/-- Why a text is no script. -/
inductive Misreading where
  | invalid
  | unclosed (bracket : Char)
  | unmatched (bracket : Char)
  | mismatched (closing opening : Char)
  | unterminatedText (line : Nat)
  | unterminatedLongText (line : Nat)
  | strayCharacter (c : Char)
  | strayBackslash
  | badNumber
  | unindent
  | unexpectedIndent
  | missingBlock (what : String) (line : Nat)
  | expected (what : String)
  | unassignable (what : String)
  | misplaced (what : String)
  /-- An argument behind the name of a function without brackets. -/
  | missingBrackets (function : String)
  deriving DecidableEq

/-- Whether an error is one of indentation. -/
def Misreading.isIndentation : Misreading → Bool
  | .unindent | .unexpectedIndent | .missingBlock .. => true
  | _ => false

/-- Whether a report marks the place of an error under its line. -/
def Misreading.marksPlace : Misreading → Bool
  | .unexpectedIndent => false
  | _ => true

/-- The text of a misreading. -/
def Misreading.message : Misreading → String
  | .invalid => "invalid syntax"
  | .unclosed c => "'" ++ c.toString ++ "' was never closed"
  | .unmatched c => "unmatched '" ++ c.toString ++ "'"
  | .mismatched c o =>
    "closing parenthesis '" ++ c.toString ++ "' does not match opening parenthesis '" ++ o.toString ++ "'"
  | .unterminatedText line => "unterminated string literal (detected at line " ++ toString line ++ ")"
  | .unterminatedLongText line =>
    "unterminated triple-quoted string literal (detected at line " ++ toString line ++ ")"
  | .strayCharacter c => "invalid character '" ++ c.toString ++ "'"
  | .strayBackslash => "unexpected character after line continuation character"
  | .badNumber => "invalid decimal literal"
  | .unindent => "unindent does not match any outer indentation level"
  | .unexpectedIndent => "unexpected indent"
  | .missingBlock what line =>
    "expected an indented block after " ++ what ++ " on line " ++ toString line
  | .expected what => "expected '" ++ what ++ "'"
  | .unassignable what => "cannot assign to " ++ what
  | .missingBrackets f =>
    "Missing parentheses in call to '" ++ f ++ "'. Did you mean " ++ f ++ "(...)?"
  | .misplaced what => "'" ++ what ++ "' outside " ++ (if what = "return" then "function" else "loop")

/-- The words that are no names. -/
def keywords : List String :=
  ["False", "None", "True", "and", "as", "assert", "async", "await", "break", "class", "continue", "def",
   "del", "elif", "else", "except", "finally", "for", "from", "global", "if", "import", "in", "is",
   "lambda", "nonlocal", "not", "or", "pass", "raise", "return", "try", "while", "with", "yield"]

/-- The operators and brackets, longer ones before those that they start with. -/
def marks : List String :=
  ["**=", "//=", ">>=", "<<=", "...", "**", "//", ">>", "<<", "<=", ">=", "==", "!=", "->", "+=", "-=",
   "*=", "/=", "%=", "&=", "|=", "^=", "@=", ":=", "+", "-", "*", "/", "%", "@", "&", "|", "^", "~", "<",
   ">", "(", ")", "[", "]", "\x7b", "\x7d", ",", ":", ".", ";", "="]

end Interpreter

end Workflows
