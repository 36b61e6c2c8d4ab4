/-!
# Blank text

* `Text.isBlankChar`: the characters of the Unicode property White_Space;
* `Text.trim`: a text without the blank characters at its ends;
* `Text.isBlank`: texts of blank characters only; `Text.nonBlank?` keeps the others, trimmed.
-/

namespace Workflows

namespace Text

/-- Whether `c` is white space. -/
def isBlankChar (c : Char) : Bool :=
  let n := c.toNat
  (0x9 ≤ n && n ≤ 0xD) || n = 0x20 || n = 0x85 || n = 0xA0 || n = 0x1680 ||
    (0x2000 ≤ n && n ≤ 0x200A) || n = 0x2028 || n = 0x2029 || n = 0x202F || n = 0x205F || n = 0x3000

/-- `cs` without the blank characters at its end. -/
def trimEnd (cs : List Char) : List Char := (cs.reverse.dropWhile isBlankChar).reverse

/-- `cs` without the blank characters at its ends. -/
def trimChars (cs : List Char) : List Char := trimEnd (cs.dropWhile isBlankChar)

/-- `s` without the blank characters at its ends. -/
def trim (s : String) : String := String.ofList (trimChars s.toList)

/-- Whether `s` holds nothing but blank characters. -/
def isBlank (s : String) : Bool := s.toList.all isBlankChar

/-- `s` trimmed, unless it is blank. -/
def nonBlank? (s : String) : Option String :=
  if isBlank s then none else some (trim s)

/-- The lower case of an ASCII capital; other characters stay. -/
def lowerAscii (s : String) : String := s.map fun c => if c.isUpper then c.toLower else c

/-- The upper case of an ASCII small letter; other characters stay. -/
def upperAscii (s : String) : String := s.map fun c => if c.isLower then c.toUpper else c

end Text

end Workflows
