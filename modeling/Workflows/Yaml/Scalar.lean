import Workflows.Json.Reader
import Workflows.Yaml.Source

/-!
# Scalars of YAML

* `Yaml.Fold`: a scalar of several lines on its way; `Fold.join` puts a space or line breaks in the
  place of what lay between two words;
* `Yaml.quoted`, `Yaml.plain`, `Yaml.block`: the scalar at the start of a text, and what follows it.
-/

namespace Workflows

namespace Yaml

/-- A scalar on its way; lists of characters have the last one first. -/
structure Fold where
  text : List Char
  /-- The blanks since the last word on its line. -/
  blanks : List Char
  /-- A line has ended since the last word. -/
  broken : Bool
  /-- The first line break since the last word. -/
  first : Option Char
  /-- The further line breaks. -/
  more : List Char

namespace Fold

/-- A scalar without any character. -/
def empty : Fold := ⟨[], [], false, none, []⟩

/-- Whether something lies between the last word and here. -/
def isApart (f : Fold) : Bool := f.broken || !f.blanks.isEmpty

/-- Puts what lies between two words in its folded form into the text: a single line break is a space,
and of several the first does not count. -/
def join (f : Fold) : Fold :=
  let between :=
    if f.broken then
      match f.first with
      | some '\n' => if f.more.isEmpty then [' '] else f.more
      | some c => f.more ++ [c]
      | none => f.more
    else f.blanks
  { empty with text := between ++ f.text }

/-- Adds a character of a word. -/
def push (f : Fold) (c : Char) : Fold := { f.join with text := c :: f.join.text }

/-- Adds a blank, which counts only if no line has ended since the last word. -/
def blank (f : Fold) (c : Char) : Fold := if f.broken then f else { f with blanks := c :: f.blanks }

/-- Adds a line break. -/
def newLine (f : Fold) (c : Char) : Fold :=
  if f.broken then { f with more := breakChar c :: f.more }
  else { f with blanks := [], broken := true, first := some (breakChar c) }

/-- The text so far. -/
def done (f : Fold) : String := String.ofList f.text.reverse

end Fold

/-! ## Quoted scalars -/

/-- The amount of hexadecimal digits, most significant first. -/
def hexNumber? (cs : List Char) : Option Nat :=
  cs.foldlM (fun n c => (Json.hexValue? c).map fun d => n * 16 + d) 0

/-- The character of a code point, unless it is half of a surrogate pair or too large. -/
def scalarChar? (n : Nat) : Option Char :=
  if (0xD800 ≤ n && n ≤ 0xDFFF) || 0x10FFFF < n then none else some (Char.ofNat n)

/-- The character that a backslash and `c` stand for. -/
def unescape? (c : Char) : Option Char :=
  match c with
  | '0' => some '\x00'
  | 'a' => some '\x07'
  | 'b' => some '\x08'
  | 't' | '\t' => some '\t'
  | 'n' => some '\n'
  | 'v' => some '\x0b'
  | 'f' => some '\x0c'
  | 'r' => some '\r'
  | 'e' => some '\x1b'
  | ' ' => some ' '
  | '"' => some '"'
  | '/' => some '/'
  | '\\' => some '\\'
  | 'N' => some '\u0085'
  | '_' => some '\u00a0'
  | 'L' => some '\u2028'
  | 'P' => some '\u2029'
  | _ => none

/-- How many digits follow a backslash and `c`. -/
def escapeWidth? (c : Char) : Option Nat :=
  match c with
  | 'x' => some 2
  | 'u' => some 4
  | 'U' => some 8
  | _ => none

/-- The character of the escape after a backslash, and what follows it. -/
def escape? (s : Source) : Option (Char × Source) := do
  let c ← s.peek?
  match escapeWidth? c with
  | none => return (← unescape? c, s.skip)
  | some width =>
    let digits := s.skip.rest.take width
    if digits.length < width then none
    let c ← scalarChar? (← hexNumber? digits)
    return (c, s.skip.skips width)

/-- The rest of a quoted scalar, and what follows its closing quote. -/
def quoted (double : Bool) : Nat → Fold → Source → Option (String × Source)
  | 0, _, _ => none
  | fuel + 1, f, s =>
    if s.atDocumentMark then none
    else
      match s.peek? with
      | none => none
      | some c =>
        if isBlank c then quoted double fuel (f.blank c) s.skip
        else if isBreak c then quoted double fuel (f.newLine c) s.skipLine
        else if c = '\'' && !double then
          if s.has 1 '\'' then quoted double fuel (f.push '\'') (s.skips 2) else some (f.join.done, s.skip)
        else if c = '"' && double then some (f.join.done, s.skip)
        else if c = '\\' && double then
          if (s.at? 1).any isBreak then
            quoted double fuel { f.join with broken := true } s.skip.skipLine
          else
            match escape? s.skip with
            | some (e, s) => quoted double fuel (f.push e) s
            | none => none
        else quoted double fuel (f.push c) s.skip

/-! ## Plain scalars -/

/-- Whether `c` ends a plain scalar within brackets. -/
def isFlowIndicator (c : Char) : Bool := c = ',' || c = '[' || c = ']' || c = '\x7b' || c = '\x7d'

/-- A plain scalar, and what follows it. Lines that are indented by less than `indent` do not belong to it,
save within brackets. -/
def plain (flow : Bool) (indent : Int) : Nat → Fold → Source → Option (Fold × Source)
  | 0, _, _ => none
  | fuel + 1, f, s =>
    match s.peek? with
    | none => some (f, s)
    | some c =>
      if isBlank c then
        if f.broken && c = '\t' && s.column < indent then none else plain flow indent fuel (f.blank c) s.skip
      else if isBreak c then plain flow indent fuel (f.newLine c) s.skipLine
      else if f.isApart && !flow && s.column < indent then some (f, s)
      else if s.atDocumentMark || (c = '#' && f.isApart) then some (f, s)
      else if flow && c = ':' && (s.at? 1).any (fun d => isFlowIndicator d || d = '?') then none
      else if (c = ':' && s.endsWord 1) || (flow && isFlowIndicator c) then some (f, s)
      else plain flow indent fuel (f.push c) s.skip

/-! ## Block scalars -/

/-- Which line breaks at the end of a block scalar belong to it. -/
inductive Chomping where
  | strip
  | clip
  | keep
  deriving DecidableEq

/-- The sign of how the end is treated. -/
def chomping? (c : Char) : Option Chomping :=
  if c = '+' then some .keep else if c = '-' then some .strip else none

/-- The indentation that a digit asks for; it cannot be zero. -/
def increment? (s : Source) : Option (Nat × Source) :=
  match s.peek? with
  | some c =>
    if Decimal.isDigit c then
      if c = '0' then none else some (Decimal.digitValue c, s.skip)
    else some (0, s)
  | none => some (0, s)

/-- The sign and the digit after the indicator of a block scalar, in either order. -/
def blockHeader? (s : Source) : Option (Chomping × Nat × Source) := do
  match s.peek?.bind chomping? with
  | some chomping =>
    let (increment, s) ← increment? s.skip
    return (chomping, increment, s)
  | none =>
    let (increment, s) ← increment? s
    if increment = 0 then return (.clip, 0, s)
    match s.peek?.bind chomping? with
    | some chomping => return (chomping, increment, s.skip)
    | none => return (.clip, increment, s)

/-- The text after the rest of a line that holds nothing but a comment. -/
def endLine? (s : Source) : Option Source :=
  let s := s.skipWhile isBlank
  let s := if s.has 0 '#' then s.skipToLineEnd else s
  if s.atLineEnd then some (if s.peek?.isSome then s.skipLine else s) else none

/-- Takes the indentation and the empty lines at the start of a text: the line breaks, last one first, the
greatest column met, and what follows. `indent` is zero as long as it is not known. -/
def blockBreaks (indent : Nat) : Nat → List Char → Nat → Source → Option (List Char × Nat × Source)
  | 0, _, _, _ => none
  | fuel + 1, breaks, greatest, s =>
    let spaces := (s.rest.takeWhile (· = ' ')).length
    let s := s.skips (if indent = 0 then spaces else min spaces (indent - s.column))
    let greatest := max greatest s.column
    match s.peek? with
    | some c =>
      if c = '\t' && (indent = 0 || s.column < indent) then none
      else if isBreak c then blockBreaks indent fuel (breakChar c :: breaks) greatest s.skipLine
      else some (breaks, greatest, s)
    | none => some (breaks, greatest, s)

/-- A block scalar on its way; lists of characters have the last one first. -/
structure BlockFold where
  text : List Char
  /-- The line break after the last line. -/
  first : Option Char
  /-- The line breaks after that. -/
  more : List Char
  /-- The last line begins with a blank. -/
  indented : Bool

/-- The text with what lies between two lines. -/
def BlockFold.join (folded : Bool) (f : BlockFold) (indented : Bool) : List Char :=
  if folded && f.first = some '\n' && !f.indented && !indented then
    f.more ++ (if f.more.isEmpty then ' ' :: f.text else f.text)
  else f.more ++ f.first.toList ++ f.text

/-- The lines of a block scalar. -/
def blockLines (folded : Bool) (indent : Nat) : Nat → BlockFold → Source → Option (BlockFold × Source)
  | 0, _, _ => none
  | fuel + 1, f, s =>
    match s.peek? with
    | none => some (f, s)
    | some c =>
      if s.column ≠ indent then some (f, s)
      else
        let indented := isBlank c
        let line := s.rest.takeWhile fun c => !isBreak c
        let text := line.reverse ++ f.join folded indented
        let s := s.skips line.length
        let first := s.peek?.map breakChar
        let s := if s.peek?.isSome then s.skipLine else s
        match blockBreaks indent (s.rest.length + 1) [] 0 s with
        | none => none
        | some (more, _, s) => blockLines folded indent fuel ⟨text, first, more, indented⟩ s

/-- A block scalar after its indicator, and what follows it; `parent` is the indentation around it. -/
def block (folded : Bool) (parent : Int) (s : Source) : Option (String × Source) := do
  let (chomping, increment, s) ← blockHeader? s
  let s ← endLine? s
  let given := if increment = 0 then 0 else (max parent 0).toNat + increment
  let (breaks, greatest, s) ← blockBreaks given (s.rest.length + 1) [] 0 s
  let indent := if given = 0 then max greatest (max (parent + 1).toNat 1) else given
  let (f, s) ← blockLines folded indent (s.rest.length + 1) ⟨[], none, breaks, false⟩ s
  let last := if chomping = .strip then [] else f.first.toList
  let tail := if chomping = .keep then f.more else []
  return (String.ofList (tail ++ last ++ f.text).reverse, s)

end Yaml

end Workflows
