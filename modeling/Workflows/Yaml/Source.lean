/-!
# Positions in a text

* `Yaml.isBreak`, `Yaml.isBlank`, `Yaml.isAllowed`: classes of characters;
* `Yaml.Source`: what is left of a text, with its position: `skip` and `skipLine` go on by a character
  and by a line break;
* `Yaml.Source.atDocumentMark`: whether a line begins with the mark of a document.
-/

namespace Workflows

namespace Yaml

/-- Whether `c` ends a line. -/
def isBreak (c : Char) : Bool :=
  c = '\n' || c = '\r' || c = '\u0085' || c = '\u2028' || c = '\u2029'

/-- Whether `c` separates within a line. -/
def isBlank (c : Char) : Bool := c = ' ' || c = '\t'

/-- Whether `c` may occur in a text. -/
def isAllowed (c : Char) : Bool :=
  let n := c.toNat
  c = '\t' || c = '\n' || c = '\r' || (0x20 ≤ n && n ≤ 0x7E) || n = 0x85 ||
    (0xA0 ≤ n && n ≤ 0xD7FF) || (0xE000 ≤ n && n ≤ 0xFFFD) || 0x10000 ≤ n

/-- The line break that stands in a scalar for one in the text. -/
def breakChar (c : Char) : Char := if c = '\u2028' || c = '\u2029' then c else '\n'

/-- The mark that may begin a text. -/
def byteOrderMark : Char := '\uFEFF'

/-- What is left of a text, with the position of its start. -/
structure Source where
  rest : List Char
  index : Nat
  line : Nat
  column : Nat

namespace Source

/-- The whole of a text. -/
def start (cs : List Char) : Source :=
  ⟨match cs with
    | c :: rest => if c = byteOrderMark then rest else c :: rest
    | [] => [], 0, 0, 0⟩

variable (s : Source)

/-- The next character. -/
def peek? : Option Char := s.rest.head?

/-- The character after `n` others. -/
def at? (n : Nat) : Option Char := s.rest[n]?

/-- Whether the character after `n` others is `c`. -/
def has (n : Nat) (c : Char) : Bool := s.at? n == some c

/-- Whether a blank, a line break or the end comes after `n` characters. -/
def endsWord (n : Nat) : Bool :=
  match s.at? n with
  | none => true
  | some c => isBlank c || isBreak c

/-- Whether a line break or the end comes next. -/
def atLineEnd : Bool :=
  match s.peek? with
  | none => true
  | some c => isBreak c

/-- The text after a character that ends no line. -/
def skip : Source := { s with rest := s.rest.drop 1, index := s.index + 1, column := s.column + 1 }

/-- The text after `n` characters that end no line. -/
def skips (n : Nat) : Source := { s with rest := s.rest.drop n, index := s.index + n, column := s.column + n }

/-- The text after a line break; a carriage return and a line feed are one. -/
def skipLine : Source :=
  let width := if s.has 0 '\r' && s.has 1 '\n' then 2 else 1
  { rest := s.rest.drop width, index := s.index + width, line := s.line + 1, column := 0 }

/-- The text after the characters at its start that `p` takes, which end no line. -/
def skipWhile (p : Char → Bool) : Source := s.skips (s.rest.takeWhile p).length

/-- The text from the next line break on. -/
def skipToLineEnd : Source := s.skipWhile fun c => !isBreak c

/-- Whether a line begins with three times `c` and then a blank or its end. -/
def atMark (c : Char) : Bool :=
  s.column = 0 && s.has 0 c && s.has 1 c && s.has 2 c && s.endsWord 3

/-- Whether a line begins with the mark of a document. -/
def atDocumentMark : Bool := s.atMark '-' || s.atMark '.'

end Source

end Yaml

end Workflows
