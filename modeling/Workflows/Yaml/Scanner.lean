import Workflows.Yaml.Scalar
import Workflows.Yaml.Token

/-!
# Scanning YAML

A scanner goes over a text from left to right. Indentation opens and closes blocks, and a token that
turns out to be the key of a mapping gets its mark, and the start of the mapping, put before it.

* `Yaml.PossibleKey`: where a key without a mark of its own may have begun;
* `Yaml.Scanner`: a scanner on its way; `Scanner.next` takes the next token;
* `Yaml.scan?`: all tokens of a text.
-/

namespace Workflows

namespace Yaml

/-- Where a key without a mark of its own may have begun. -/
structure PossibleKey where
  /-- How many tokens came before. -/
  position : Nat
  index : Nat
  line : Nat
  column : Nat
  /-- Nothing but a key may stand there. -/
  required : Bool

/-- The greatest length of a key without a mark of its own. -/
def maxKeyLength : Nat := 1024

/-- A scanner on its way. -/
structure Scanner where
  source : Source
  /-- The tokens so far, last one first. -/
  tokens : List Token
  /-- The column of the innermost block, `-1` outside of all. -/
  indent : Int
  /-- The columns of the blocks around it, innermost first. -/
  outer : List Int
  /-- The possible keys within the open brackets, innermost first. -/
  flowKeys : List (Option PossibleKey)
  /-- The possible key outside of all brackets. -/
  blockKey : Option PossibleKey
  /-- Whether a key may begin here. -/
  keyAllowed : Bool

namespace Scanner

/-- A scanner at the start of a text. -/
def start (cs : List Char) : Scanner :=
  { source := .start cs, tokens := [], indent := -1, outer := [], flowKeys := [], blockKey := none,
    keyAllowed := true }

variable (sc : Scanner)

/-- Whether the scanner is within brackets. -/
def inFlow : Bool := !sc.flowKeys.isEmpty

/-- The possible key at this level of brackets. -/
def key? : Option PossibleKey :=
  match sc.flowKeys with
  | k :: _ => k
  | [] => sc.blockKey

/-- The scanner with another possible key at this level. -/
def withKey (k : Option PossibleKey) : Scanner :=
  match sc.flowKeys with
  | _ :: rest => { sc with flowKeys := k :: rest }
  | [] => { sc with blockKey := k }

/-- The scanner with a further token. -/
def emit (t : Token) : Scanner := { sc with tokens := t :: sc.tokens }

/-- Puts a token before those from a position on. -/
def insertAt (position : Nat) (t : Token) : Scanner :=
  { sc with tokens := sc.tokens.insertIdx (sc.tokens.length - position) t }

/-- Gives up the possible key at this level, unless nothing else may stand there. -/
def dropKey : Option Scanner :=
  if sc.key?.any (·.required) then none else some (sc.withKey none)

/-- Notes that a key may begin here. -/
def saveKey : Option Scanner :=
  if sc.keyAllowed then
    sc.dropKey.map fun s => s.withKey (some {
      position := sc.tokens.length
      index := sc.source.index
      line := sc.source.line
      column := sc.source.column
      required := !sc.inFlow && sc.indent = sc.source.column })
  else some sc

/-- Whether a possible key can no longer be one: it would reach over lines, or be too long. -/
def isStale (k : PossibleKey) : Bool :=
  k.line < sc.source.line || k.index + maxKeyLength < sc.source.index

/-- A possible key, unless it is stale; nothing if it is stale and required. -/
def refresh : Option PossibleKey → Option (Option PossibleKey)
  | none => some none
  | some k => if sc.isStale k then if k.required then none else some none else some (some k)

/-- Gives up the possible keys that are stale. -/
def dropStaleKeys : Option Scanner := do
  let flowKeys ← sc.flowKeys.mapM sc.refresh
  let blockKey ← sc.refresh sc.blockKey
  return { sc with flowKeys, blockKey }

/-- Closes the blocks to the right of a column; `fuel` bounds how many. -/
def closeBlocks (column : Int) : Nat → Scanner → Scanner
  | 0, sc => sc
  | fuel + 1, sc =>
    if sc.indent ≤ column then sc
    else
      match sc.outer with
      | indent :: outer => closeBlocks column fuel { sc.emit .blockEnd with indent, outer }
      | [] => sc

/-- Closes the blocks to the right of a column, outside of brackets. -/
def unroll (column : Int) : Scanner :=
  if sc.inFlow then sc else closeBlocks column sc.outer.length sc

/-- Opens a block at a column to the right of the innermost one, outside of brackets; its start is put
before the tokens from a position on. -/
def roll (column position : Nat) (t : Token) : Scanner :=
  if !sc.inFlow && sc.indent < column then
    { sc.insertAt position t with indent := column, outer := sc.indent :: sc.outer }
  else sc

/-- Opens a block here. -/
def rollHere (t : Token) : Scanner := sc.roll sc.source.column sc.tokens.length t

/-- Goes on in the text. -/
def goTo (s : Source) : Scanner := { sc with source := s }

/-- Says whether a key may begin after this. -/
def allow (b : Bool) : Scanner := { sc with keyAllowed := b }

/-- Goes over blanks, comments and empty lines. -/
def skipToToken : Nat → Scanner → Scanner
  | 0, sc => sc
  | fuel + 1, sc =>
    let s := if sc.source.index = 0 && sc.source.has 0 byteOrderMark then sc.source.skip else sc.source
    let tabs := sc.inFlow || !sc.keyAllowed
    let s := s.skipWhile fun c => c = ' ' || (tabs && c = '\t')
    let s := if s.has 0 '#' then s.skipToLineEnd else s
    match s.peek? with
    | some c =>
      if isBreak c then
        skipToToken fuel { sc with source := s.skipLine, keyAllowed := sc.keyAllowed || !sc.inFlow }
      else sc.goTo s
    | none => sc.goTo s

/-! ## Tokens of one kind -/

/-- Closes all blocks; no possible key remains. -/
def closeAll : Option Scanner := (sc.unroll (-1)).dropKey.map fun sc => sc.allow false

/-- The end of the text. -/
def streamEnd : Option Scanner :=
  (sc.unroll (-1)).dropKey.map fun sc => (sc.allow false).emit .streamEnd

/-- A mark of a document. -/
def documentMark (t : Token) : Option Scanner :=
  sc.closeAll.map fun sc => (sc.goTo (sc.source.skips 3)).emit t

/-- A number of a version, and what follows it. -/
def versionNumber? (s : Source) : Option (Nat × Source) :=
  let digits := s.rest.takeWhile Decimal.isDigit
  if digits.isEmpty || 9 < digits.length then none
  else some (Decimal.natOfDigits digits, s.skips digits.length)

/-- The name of the directive that gives the version. -/
def versionDirective : List Char := "%YAML".toList

/-- The directive that gives the version, which must be 1.1 or 1.2; there is no other directive. -/
def directive : Option Scanner := do
  let sc ← sc.closeAll
  let s := sc.source
  if s.rest.take versionDirective.length ≠ versionDirective then none
  let s := s.skips versionDirective.length
  if !(s.peek?.any isBlank) then none
  let (major, s) ← versionNumber? (s.skipWhile isBlank)
  if !s.has 0 '.' then none
  let (minor, s) ← versionNumber? s.skip
  if major ≠ 1 || (minor ≠ 1 && minor ≠ 2) then none
  let s ← endLine? s
  return (sc.goTo s).emit .version

/-- An opening bracket. -/
def openFlow (t : Token) : Option Scanner :=
  sc.saveKey.map fun sc =>
    (({ sc with flowKeys := none :: sc.flowKeys }.allow true).goTo sc.source.skip).emit t

/-- A closing bracket. -/
def closeFlow (t : Token) : Option Scanner :=
  sc.dropKey.map fun sc =>
    (({ sc with flowKeys := sc.flowKeys.drop 1 }.allow false).goTo sc.source.skip).emit t

/-- A comma within brackets. -/
def flowEntry : Option Scanner :=
  sc.dropKey.map fun sc => ((sc.allow true).goTo sc.source.skip).emit .flowEntry

/-- The mark of an item of a block. -/
def blockEntry : Option Scanner :=
  if !sc.inFlow && !sc.keyAllowed then none
  else
    let sc := sc.rollHere .blockSequenceStart
    sc.dropKey.map fun sc => ((sc.allow true).goTo sc.source.skip).emit .blockEntry

/-- The mark of a key. -/
def keyMark : Option Scanner :=
  if !sc.inFlow && !sc.keyAllowed then none
  else
    let sc := sc.rollHere .blockMappingStart
    sc.dropKey.map fun sc => ((sc.allow !sc.inFlow).goTo sc.source.skip).emit .key

/-- The mark of a value, after a key without a mark or with one. -/
def valueMark : Option Scanner :=
  let mark (sc : Scanner) : Scanner := (sc.goTo sc.source.skip).emit .value
  match sc.key? with
  | some k =>
    let sc := (sc.insertAt k.position .key).roll k.column k.position .blockMappingStart
    some (mark ((sc.withKey none).allow false))
  | none =>
    if !sc.inFlow && !sc.keyAllowed then none
    else some (mark ((sc.rollHere .blockMappingStart).allow !sc.inFlow))

/-- Whether `c` may occur in a name. -/
def isNameChar (c : Char) : Bool := c.isAlphanum || c = '-' || c = '_'

/-- The characters other than blanks and the end that may follow the name of an anchor. -/
def nameEnds : List Char := ['?', ':', ',', ']', '\x7d', '%', '@', '\x60']

/-- The name of an anchor or an alias. -/
def anchor (t : String → Token) : Option Scanner := do
  let sc ← sc.saveKey
  let s := sc.source.skip
  let name := s.rest.takeWhile isNameChar
  let s := s.skips name.length
  if name.isEmpty || !(s.endsWord 0 || s.peek?.any nameEnds.contains) then none
  return ((sc.allow false).goTo s).emit (t (String.ofList name))

/-- Whether `c` may occur in a tag; brackets and commas may only between angle brackets. -/
def isTagChar (verbatim : Bool) (c : Char) : Bool :=
  isNameChar c || [';', '/', '?', ':', '@', '&', '=', '+', '$', '.', '%', '!', '~', '*', '\'', '(', ')'].contains c
    || (verbatim && [',', '[', ']'].contains c)

/-- A tag after its first character, and what follows it. -/
def tagText? (s : Source) : Option (Tag × Source) :=
  if s.has 0 '<' then
    let suffix := s.skip.rest.takeWhile (isTagChar true)
    let s := s.skip.skips suffix.length
    if suffix.isEmpty || !s.has 0 '>' then none else some (⟨"", String.ofList suffix⟩, s.skip)
  else
    let name := s.rest.takeWhile isNameChar
    let afterName := s.skips name.length
    if afterName.has 0 '!' then
      let suffix := afterName.skip.rest.takeWhile (isTagChar false)
      if suffix.isEmpty then none
      else
        some (⟨"!" ++ String.ofList name ++ "!", String.ofList suffix⟩, afterName.skip.skips suffix.length)
    else
      let suffix := s.rest.takeWhile (isTagChar false)
      let tag : Tag := if suffix.isEmpty then ⟨"", "!"⟩ else ⟨"!", String.ofList suffix⟩
      some (tag, s.skips suffix.length)

/-- A tag. -/
def tag : Option Scanner := do
  let sc ← sc.saveKey
  let (t, s) ← tagText? sc.source.skip
  if !(s.endsWord 0 || (sc.inFlow && s.has 0 ',')) then none
  return ((sc.allow false).goTo s).emit (.tag t)

/-- A block scalar. -/
def blockScalar (folded : Bool) : Option Scanner := do
  let sc ← sc.dropKey
  let (text, s) ← block folded sc.indent sc.source.skip
  return ((sc.allow true).goTo s).emit (.scalar text (if folded then .folded else .literal))

/-- A quoted scalar. -/
def quotedScalar (double : Bool) : Option Scanner := do
  let sc ← sc.saveKey
  let s := sc.source.skip
  let (text, s) ← quoted double (s.rest.length + 1) .empty s
  return ((sc.allow false).goTo s).emit (.scalar text (if double then .doubleQuoted else .singleQuoted))

/-- A plain scalar; if it ends with a line, a key may begin after it. -/
def plainScalar : Option Scanner := do
  let sc ← sc.saveKey
  let (f, s) ← plain sc.inFlow (sc.indent + 1) (sc.source.rest.length + 1) .empty sc.source
  return ((sc.allow f.broken).goTo s).emit (.scalar f.done .plain)

/-- The characters that begin no plain scalar. -/
def indicators : List Char :=
  ['-', '?', ':', ',', '[', ']', '\x7b', '\x7d', '#', '&', '*', '!', '|', '>', '\'', '"', '%', '@', '\x60']

/-- Whether a plain scalar begins here. -/
def beginsPlain (c : Char) : Bool :=
  let s := sc.source
  (!s.endsWord 0 && !indicators.contains c)
    || (c = '-' && !(s.at? 1).any isBlank)
    || (!sc.inFlow && (c = '?' || c = ':') && !s.endsWord 1)

/-- The token that begins with `c`. -/
def token (c : Char) : Option Scanner :=
  let s := sc.source
  let word := s.endsWord 1
  if s.column = 0 && c = '%' then sc.directive
  else if s.atMark '-' then sc.documentMark .documentStart
  else if s.atMark '.' then sc.documentMark .documentEnd
  else if c = '[' then sc.openFlow .flowSequenceStart
  else if c = '\x7b' then sc.openFlow .flowMappingStart
  else if c = ']' then sc.closeFlow .flowSequenceEnd
  else if c = '\x7d' then sc.closeFlow .flowMappingEnd
  else if c = ',' then sc.flowEntry
  else if c = '-' && word then sc.blockEntry
  else if c = '?' && (sc.inFlow || word) then sc.keyMark
  else if c = ':' && (sc.inFlow || word) then sc.valueMark
  else if c = '*' then sc.anchor .alias
  else if c = '&' then sc.anchor .anchor
  else if c = '!' then sc.tag
  else if c = '|' && !sc.inFlow then sc.blockScalar false
  else if c = '>' && !sc.inFlow then sc.blockScalar true
  else if c = '\'' then sc.quotedScalar false
  else if c = '"' then sc.quotedScalar true
  else if sc.beginsPlain c then sc.plainScalar
  else none

/-- Takes the next token. -/
def next : Option Scanner := do
  let sc := skipToToken (sc.source.rest.length + 1) sc
  let sc ← sc.dropStaleKeys
  let sc := sc.unroll sc.source.column
  match sc.source.peek? with
  | none => sc.streamEnd
  | some c => sc.token c

/-- Takes all tokens; each but the last takes a character. -/
def all : Nat → Scanner → Option (List Token)
  | 0, _ => none
  | fuel + 1, sc =>
    match sc.next with
    | none => none
    | some sc =>
      match sc.tokens with
      | .streamEnd :: _ => some sc.tokens.reverse
      | _ => all fuel sc

end Scanner

/-- All tokens of a text. -/
def scan? (cs : List Char) : Option (List Token) :=
  if cs.all isAllowed then Scanner.all (cs.length + 1) (.start cs) else none

end Yaml

end Workflows
