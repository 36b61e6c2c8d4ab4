import Workflows.Expr.Token
import Workflows.Text.Blank
import Workflows.Text.Letter
import Workflows.Decimal.Reading

/-!
# Reading tokens

* `Lexeme`: a token's kind and text and the number of characters it takes up;
* `lexeme`: the token at the start of a text that starts with no blank;
* `tokensFrom`, `tokenize`: all tokens of a text, blanks between them skipped, an end token last.
-/

namespace Workflows

/-- A token read off the start of a text; it takes up the first character and `more` after it. -/
structure Lexeme where
  kind : TokenKind
  text : String
  more : Nat
  deriving DecidableEq

/-- How many characters a lexeme takes up. -/
def Lexeme.width (l : Lexeme) : Nat := l.more + 1

/-- The body of a text literal: what it stands for and how many characters it takes up, the closing
quote with it. A backslash makes the character after it literal, but `\n` and `\t` stand for a line
feed and a tab. -/
def textBody? (quote : Char) : List Char → Option (List Char × Nat)
  | [] => none
  | c :: rest =>
    if c = '\\' then
      match rest with
      | [] => none
      | e :: rest =>
        (textBody? quote rest).map fun (body, n) => (unescaped e :: body, n + 2)
    else if c = quote then some ([], 1)
    else (textBody? quote rest).map fun (body, n) => (c :: body, n + 1)
where
  /-- What a backslash and a character stand for. -/
  unescaped (c : Char) : Char := if c = 'n' then '\n' else if c = 't' then '\t' else c

/-- The characters of a number after its first one. -/
def isNumberChar (c : Char) : Bool := Decimal.isDigit c || c = '.'

/-- The characters that start a word. -/
def isWordStart (c : Char) : Bool := Text.isLetter c || c = '_'

/-- The characters of a word after its first one. -/
def isWordRest (c : Char) : Bool := Text.isWordChar c || c = '_' || c = '.'

/-- The kind of a word: a keyword in any case of its ASCII letters, else an identifier. -/
def wordKind (word : String) : TokenKind :=
  match Text.upperAscii word with
  | "AND" => .and
  | "OR" => .or
  | "NOT" => .not
  | "CONTAINS" => .contains
  | "IN" => .isIn
  | "TRUE" => .true
  | "FALSE" => .false
  | "NULL" => .null
  | "NONE" => .null
  | _ => .identifier

/-- The characters of `rest` up to the first that is not of a class, as a token after `first`. -/
def run (kind : String → TokenKind) (p : Char → Bool) (first : Char) (rest : List Char) : Lexeme :=
  let body := rest.takeWhile p
  let text := String.ofList (first :: body)
  ⟨kind text, text, body.length⟩

/-- An operator of one character that may be followed by another one. -/
def operator (rest : List Char) (alone : TokenKind × String) (pairs : List (Char × TokenKind × String)) :
    Lexeme :=
  match rest with
  | [] => ⟨alone.1, alone.2, 0⟩
  | c :: _ =>
    match pairs.lookup c with
    | some (kind, text) => ⟨kind, text, 1⟩
    | none => ⟨alone.1, alone.2, 0⟩

/-- A token of one character written twice. -/
def doubled (c : Char) (kind : TokenKind) (rest : List Char) : Except Malformation Lexeme :=
  if rest.head? = some c then .ok ⟨kind, String.ofList [c, c], 1⟩ else .error (.undoubled c)

/-- The token at the start of `c :: rest`, where `c` is no blank. -/
def lexeme (c : Char) (rest : List Char) : Except Malformation Lexeme :=
  match c with
  | '(' => .ok ⟨.openParen, "(", 0⟩
  | ')' => .ok ⟨.closeParen, ")", 0⟩
  | '[' => .ok ⟨.openBracket, "[", 0⟩
  | ']' => .ok ⟨.closeBracket, "]", 0⟩
  | ',' => .ok ⟨.comma, ",", 0⟩
  | '=' => .ok (operator rest (.eq, "==") [('=', .eq, "==")])
  | '!' => .ok (operator rest (.not, "!") [('=', .ne, "!=")])
  | '<' => .ok (operator rest (.lt, "<") [('=', .le, "<="), ('>', .ne, "<>")])
  | '>' => .ok (operator rest (.gt, ">") [('=', .ge, ">=")])
  | '&' => doubled '&' .and rest
  | '|' => doubled '|' .or rest
  | c =>
    if c = '"' || c = '\'' then
      match textBody? c rest with
      | some (body, n) => .ok ⟨.text, String.ofList body, n⟩
      | none => .error .unclosedText
    else if Decimal.isDigit c || (c = '-' && (rest.head?.any Decimal.isDigit)) then
      .ok (run (fun _ => .number) isNumberChar c rest)
    else if isWordStart c then .ok (run wordKind isWordRest c rest)
    else .error (.character c)

/-- The tokens of a text whose first character stands in `column`. -/
def tokensFrom (column : Nat) : List Char → Except ExprError (List Token)
  | [] => .ok [⟨.eof, "", column⟩]
  | c :: rest =>
    if Text.isBlankChar c then tokensFrom (column + 1) rest
    else
      match lexeme c rest with
      | .error what => .error (.malformed column what)
      | .ok l =>
        match tokensFrom (column + l.width) (rest.drop l.more) with
        | .error e => .error e
        | .ok tokens => .ok (⟨l.kind, l.text, column⟩ :: tokens)
termination_by cs => cs.length
decreasing_by all_goals (simp only [List.length_cons, List.length_drop]; omega)

/-- The tokens of a text. -/
def tokenize (s : String) : Except ExprError (List Token) := tokensFrom 1 s.toList

end Workflows
