import Workflows.Interpreter.Token
import Workflows.Text.Letter
import Workflows.Decimal.Reading
import Workflows.Json.Reader

/-!
# Reading the tokens of a script

* `Interpreter.Cursor`: what is left of a text and the place of its first character;
* `readText`: a text literal, plain, raw or formatted; `readNumeral`: a number;
* `Interpreter.tokens`: all tokens of a script. The depth of indentation opens and closes blocks; inside
  brackets and after a backslash a line goes on.
-/

namespace Workflows

namespace Interpreter

/-- What is left of a text, and where it starts. -/
structure Cursor where
  line : Nat
  column : Nat
  rest : List Char
  deriving DecidableEq, Inhabited

namespace Cursor

/-- Moves behind the next `n` characters. -/
def advance (c : Cursor) : Nat → Cursor
  | 0 => c
  | n + 1 =>
    match c.rest with
    | [] => c
    | '\n' :: rest => advance ⟨c.line + 1, 0, rest⟩ n
    | _ :: rest => advance ⟨c.line, c.column + 1, rest⟩ n

/-- The span from `c` to `d`. -/
def spanTo (c d : Cursor) : Span := ⟨c.line, c.column, d.line, d.column, none⟩

end Cursor

/-- An error and the place that it is reported at. -/
abbrev ReadError := Misreading × Span

/-! ## Names and numbers -/

/-- Whether a name may start with `c`. -/
def isNameStart (c : Char) : Bool := Text.isLetter c || c = '_'

/-- Whether a name may go on with `c`. -/
def isNameRest (c : Char) : Bool := Text.isWordChar c || c = '_'

/-- The number that digits stand for in a base. -/
def natInBase (base : Nat) (digits : List Char) : Nat :=
  digits.foldl (fun n c => base * n + (Json.hexValue? c).getD 0) 0

/-- The characters of a whole number in a base; underscores may stand between them. -/
def isBaseDigit (base : Nat) (c : Char) : Bool :=
  c = '_' || (match Json.hexValue? c with
    | some v => decide (v < base)
    | none => false)

/-- A decimal number: its digits, places and exponent as they are written. -/
def decimalChars (cs : List Char) : List Char × List Char :=
  let digit (c : Char) : Bool := Decimal.isDigit c || c = '_'
  let whole := cs.takeWhile digit
  let afterWhole := cs.dropWhile digit
  let (places, afterPlaces) := match afterWhole with
    | '.' :: rest => ('.' :: rest.takeWhile digit, rest.dropWhile digit)
    | rest => ([], rest)
  let (exponent, rest) := match afterPlaces with
    | e :: s :: d :: rest =>
      if (e = 'e' || e = 'E') && (s = '+' || s = '-') && Decimal.isDigit d then
        (e :: s :: d :: rest.takeWhile digit, rest.dropWhile digit)
      else if (e = 'e' || e = 'E') && Decimal.isDigit s then
        (e :: s :: (d :: rest).takeWhile digit, (d :: rest).dropWhile digit)
      else ([], afterPlaces)
    | [e, s] => if (e = 'e' || e = 'E') && Decimal.isDigit s then ([e, s], []) else ([], afterPlaces)
    | _ => ([], afterPlaces)
  (whole ++ places ++ exponent, rest)

/-- The double that a decimal with a point or an exponent stands for. -/
def realOfChars (cs : List Char) : Float :=
  let cs := cs.filter (· ≠ '_')
  let whole := cs.takeWhile Decimal.isDigit
  let afterWhole := cs.dropWhile Decimal.isDigit
  let (places, afterPlaces) := match afterWhole with
    | '.' :: rest => Decimal.splitDigits rest
    | rest => ([], rest)
  let exponent : Int := match afterPlaces with
    | _ :: rest => (Decimal.readInt? rest).getD 0
    | [] => 0
  Decimal.nearest (Decimal.natOfDigits (whole ++ places)) (exponent - places.length)

/-- A number at the start of a text: its token and how many characters it takes up. -/
def readNumeral (cs : List Char) : Token × Nat :=
  let based (base : Nat) (rest : List Char) : Token × Nat :=
    let digits := rest.takeWhile (isBaseDigit base)
    (.int (natInBase base (digits.filter (· ≠ '_'))), digits.length + 2)
  match cs with
  | '0' :: 'x' :: rest | '0' :: 'X' :: rest => based 16 rest
  | '0' :: 'o' :: rest | '0' :: 'O' :: rest => based 8 rest
  | '0' :: 'b' :: rest | '0' :: 'B' :: rest => based 2 rest
  | _ =>
    let chars := (decimalChars cs).1
    if chars.all fun c => Decimal.isDigit c || c = '_' then
      (.int (Decimal.natOfDigits (chars.filter (· ≠ '_'))), chars.length)
    else (.real (realOfChars chars), chars.length)

/-! ## Texts -/

/-- How a text literal is written. -/
structure TextStyle where
  quote : Char
  /-- Whether the quote is written three times. -/
  long : Bool
  raw : Bool
  formatted : Bool
  deriving DecidableEq

/-- The characters of a literal up to its closing quote, as they are written, and how many characters
they and the quote take up. -/
def literalBody (style : TextStyle) : List Char → Option (List Char × Nat)
  | [] => none
  | '\\' :: c :: rest => (literalBody style rest).map fun (body, n) => ('\\' :: c :: body, n + 2)
  | c :: rest =>
    if c = style.quote then
      if style.long then
        if rest.take 2 = [c, c] then some ([], 3)
        else (literalBody style rest).map fun (body, n) => (c :: body, n + 1)
      else some ([], 1)
    else if c = '\n' && !style.long then none
    else (literalBody style rest).map fun (body, n) => (c :: body, n + 1)

/-- The character with a number, if it is one. -/
def charOfNat? (n : Nat) : Option Char := if h : n.isValidChar then some (Char.ofNatAux n h) else none

/-- The characters that a backslash and what follows it stand for, and how many characters follow it. -/
def escape : List Char → List Char × Nat
  | '\n' :: _ => ([], 1)
  | '\\' :: _ => (['\\'], 1)
  | '\x27' :: _ => (['\x27'], 1)
  | '"' :: _ => (['"'], 1)
  | 'a' :: _ => (['\x07'], 1)
  | 'b' :: _ => (['\x08'], 1)
  | 'f' :: _ => (['\x0c'], 1)
  | 'n' :: _ => (['\n'], 1)
  | 'r' :: _ => (['\r'], 1)
  | 't' :: _ => (['\t'], 1)
  | 'v' :: _ => (['\x0b'], 1)
  | 'x' :: rest => hexadecimal 'x' 2 rest
  | 'u' :: rest => hexadecimal 'u' 4 rest
  | 'U' :: rest => hexadecimal 'U' 8 rest
  | c :: rest =>
    let octal := (c :: rest.take 2).takeWhile fun d => '0' ≤ d && d ≤ '7'
    if octal.isEmpty then (['\\', c], 1)
    else ([Char.ofNat (natInBase 8 octal)], octal.length)
  | [] => (['\\'], 0)
where
  /-- A character given by a number of hexadecimal digits. -/
  hexadecimal (letter : Char) (digits : Nat) (rest : List Char) : List Char × Nat :=
    let written := (rest.take digits).takeWhile fun c => (Json.hexValue? c).isSome
    if written.length = digits then
      ([(charOfNat? (natInBase 16 written)).getD '\ufffd'], digits + 1)
    else (['\\', letter], 1)

/-- The characters that a literal's body stands for. The first argument bounds their number. -/
def unescape : Nat → List Char → List Char
  | n + 1, '\\' :: rest => let (cs, k) := escape rest; cs ++ unescape n (rest.drop k)
  | n + 1, c :: rest => c :: unescape n rest
  | _, _ => []

/-- The characters up to a mark that stands in no bracket and no quotes, and the rest from it on. -/
def upToMark (stops : List Char) (depth : Nat) (quote : Option Char) :
    List Char → List Char × List Char
  | [] => ([], [])
  | c :: rest =>
    let take (depth : Nat) (quote : Option Char) : List Char × List Char :=
      let (taken, left) := upToMark stops depth quote rest
      (c :: taken, left)
    match quote with
    | some q => take depth (if c = q then none else some q)
    | none =>
      if depth = 0 && stops.contains c && !(c = '!' && rest.head? = some '=') then ([], c :: rest)
      else if c = '\x27' || c = '"' then take depth (some c)
      else if c = '(' || c = '[' || c = '\x7b' then take (depth + 1) none
      else if c = ')' || c = ']' || c = '\x7d' then take (depth - 1) none
      else take depth none

/-- The pieces of a formatted text. The first argument bounds their number. -/
def pieces (raw : Bool) : Nat → List Char → List Char → List Piece
  | 0, held, _ => flush held
  | _, held, [] => flush held
  | n + 1, held, '\x7b' :: '\x7b' :: rest => pieces raw n ('\x7b' :: held) rest
  | n + 1, held, '\x7d' :: '\x7d' :: rest => pieces raw n ('\x7d' :: held) rest
  | n + 1, held, '\x7b' :: rest =>
    let (source, left) := upToMark ['!', ':', '\x7d'] 0 none rest
    let (conversion, left) := match left with
      | '!' :: c :: left => (some c, left)
      | left => (none, left)
    let (format, left) := match left with
      | ':' :: left => upToMark ['\x7d'] 0 none left
      | left => ([], left)
    flush held ++ .field (String.ofList source) conversion (String.ofList format)
      :: pieces raw n [] (left.drop 1)
  | n + 1, held, c :: rest => pieces raw n (c :: held) rest
where
  /-- The characters held back, in reverse, as a piece. -/
  flush (held : List Char) : List Piece :=
    if held.isEmpty then []
    else
      let chars := held.reverse
      [.plain (String.ofList (if raw then chars else unescape chars.length chars))]

/-- The letters before a text literal and its style, if a literal starts here: how many letters there are. -/
def textStyle? (cs : List Char) : Option (TextStyle × Nat) :=
  let letters := cs.takeWhile fun c => "rRbBuUfF".toList.contains c
  match cs.drop letters.length with
  | q :: rest =>
    if (q = '\x27' || q = '"') && letters.length ≤ 2 then
      let long := rest.take 2 = [q, q]
      let has (c d : Char) : Bool := letters.contains c || letters.contains d
      some (⟨q, long, has 'r' 'R', has 'f' 'F'⟩, letters.length)
    else none
  | [] => none

/-- A text literal: its token and how many characters it takes up. -/
def readText (style : TextStyle) (letters : Nat) (cs : List Char) : Option (Token × Nat) :=
  let opening := letters + if style.long then 3 else 1
  (literalBody style (cs.drop opening)).map fun (body, n) =>
    let token : Token :=
      if style.formatted then .formatted (pieces style.raw (body.length + 1) [] body)
      else .text (String.ofList (if style.raw then body else unescape body.length body))
    (token, opening + n)

/-! ## Lines and blocks -/

/-- What has been read. -/
structure Reading where
  cursor : Cursor
  /-- The tokens read so far, the last one first. -/
  tokens : List Placed
  /-- The open brackets, the innermost first. -/
  brackets : List (Char × Span)
  /-- The indentation of the open blocks, the innermost first. -/
  blocks : List Nat
  /-- Whether a logical line starts here. -/
  atStart : Bool

namespace Reading

/-- Adds a token of the next `n` characters. -/
def push (r : Reading) (token : Token) (n : Nat) : Reading :=
  let cursor := r.cursor.advance n
  { r with cursor, tokens := ⟨token, r.cursor.spanTo cursor⟩ :: r.tokens }

/-- Passes over the next `n` characters. -/
def skip (r : Reading) (n : Nat) : Reading := { r with cursor := r.cursor.advance n }

/-- The place of the next `n` characters. -/
def here (r : Reading) (n : Nat) : Span := r.cursor.spanTo (r.cursor.advance n)

/-- Closes the blocks that are indented deeper than `width`. -/
def close (width : Nat) : Nat → Reading → Reading
  | 0, r => r
  | n + 1, r =>
    match r.blocks with
    | b :: blocks => if width < b then close width n { r.push .dedent 0 with blocks } else r
    | [] => r

/-- Takes the indentation of a logical line; blank lines are passed over. -/
def startLine (r : Reading) : Except ReadError Reading :=
  let blanks := r.cursor.rest.takeWhile fun c => c = ' ' || c = '\t' || c = '\x0c'
  let width := blanks.foldl (fun w c => if c = '\t' then (w / 8 + 1) * 8 else w + 1) 0
  let inside := r.skip blanks.length
  match inside.cursor.rest with
  | [] | '\n' :: _ | '#' :: _ | '\r' :: _ => .ok { inside with atStart := false }
  | _ =>
    let current := r.blocks.headD 0
    if width = current then .ok { inside with atStart := false }
    else if current < width then
      .ok { inside.push .indent 0 with blocks := width :: r.blocks, atStart := false }
    else
      let closed := close width r.blocks.length inside
      if closed.blocks.headD 0 = width then .ok { closed with atStart := false }
      else .error (.unindent, inside.here 1)

/-- Takes a line's end: a token if the logical line ends here and holds anything. -/
def endLine (r : Reading) : Reading :=
  if !r.brackets.isEmpty then r.skip 1
  else
    match r.tokens with
    | [] => { r.skip 1 with atStart := true }
    | ⟨.newline, _⟩ :: _ | ⟨.dedent, _⟩ :: _ | ⟨.indent, _⟩ :: _ => { r.skip 1 with atStart := true }
    | _ => { r.push .newline 1 with atStart := true }

/-- The opening bracket of a closing one. -/
def openingOf (c : Char) : Char := if c = ')' then '(' else if c = ']' then '[' else '\x7b'

/-- Takes an operator or a bracket. -/
def takeMark (r : Reading) (c : Char) : Except ReadError Reading :=
  match marks.find? fun m => m.toList.isPrefixOf r.cursor.rest with
  | none => .error (if c.toNat < 128 then .invalid else .strayCharacter c, r.here 1)
  | some m =>
    let taken := r.push (.mark m) m.length
    if ['(', '[', '\x7b'].contains c then .ok { taken with brackets := (c, r.here 1) :: r.brackets }
    else if [')', ']', '\x7d'].contains c then
      match r.brackets with
      | [] => .error (.unmatched c, r.here 1)
      | (o, _) :: brackets =>
        if o = openingOf c then .ok { taken with brackets } else .error (.mismatched c o, r.here 1)
    else .ok taken

/-- Takes the next token. -/
def step (r : Reading) : Except ReadError Reading :=
  match r.cursor.rest with
  | [] => .ok r
  | '\n' :: _ => .ok r.endLine
  | ' ' :: _ | '\t' :: _ | '\r' :: _ | '\x0c' :: _ => .ok (r.skip 1)
  | '#' :: rest => .ok (r.skip (1 + (rest.takeWhile (· ≠ '\n')).length))
  | '\\' :: '\n' :: _ => .ok (r.skip 2)
  | '\\' :: _ => .error (.strayBackslash, r.here 1)
  | c :: rest =>
    match textStyle? (c :: rest) with
    | some (style, letters) =>
      match readText style letters (c :: rest) with
      | some (token, n) => .ok (r.push token n)
      | none =>
        let last := r.cursor.line + if style.long then rest.count '\n' else 0
        .error (if style.long then .unterminatedLongText last else .unterminatedText last, r.here 1)
    | none =>
      if isNameStart c then
        let word := String.ofList ((c :: rest).takeWhile isNameRest)
        .ok (r.push (if keywords.contains word then .keyword word else .name word) word.length)
      else if Decimal.isDigit c || (c = '.' && (rest.head?.map Decimal.isDigit).getD false) then
        let (token, n) := readNumeral (c :: rest)
        match (c :: rest).drop n with
        | d :: _ => if isNameStart d then .error (.badNumber, r.here 1) else .ok (r.push token n)
        | [] => .ok (r.push token n)
      else r.takeMark c

/-- Ends the last line and every block. -/
def finish (r : Reading) : Except ReadError (List Placed) :=
  match r.brackets with
  | (c, span) :: _ => .error (.unclosed c, span)
  | [] =>
    let ended := match r.tokens with
      | [] | ⟨.newline, _⟩ :: _ | ⟨.dedent, _⟩ :: _ => r
      | _ => r.push .newline 0
    .ok (close 0 ended.blocks.length ended).tokens.reverse

/-- Takes tokens until the text ends, at most so many times. -/
def run : Nat → Reading → Except ReadError (List Placed)
  | 0, r => r.finish
  | n + 1, r =>
    if r.cursor.rest.isEmpty then r.finish
    else if r.atStart then
      match r.startLine with
      | .ok r => run n r
      | .error e => .error e
    else
      match r.step with
      | .ok r => run n r
      | .error e => .error e

end Reading

/-- The tokens of a script. -/
def tokens (source : String) : Except ReadError (List Placed) :=
  let cs := source.toList
  Reading.run (2 * cs.length + 2) ⟨⟨1, 0, cs⟩, [], [], [], true⟩

/-- The tokens of a term inside a formatted text, where lines do not count. -/
def termTokens (source : String) (span : Span) : Except ReadError (List Placed) :=
  let cs := source.toList
  match Reading.run (2 * cs.length + 2) ⟨⟨span.line, span.column, cs⟩, [], [], [], false⟩ with
  | .ok ps => .ok (ps.filter fun p => p.token ≠ .newline)
  | .error e => .error e

end Interpreter

end Workflows
