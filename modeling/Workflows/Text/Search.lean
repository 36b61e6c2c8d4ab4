/-!
# Finding and replacing text

* `Text.replaceAll`: every occurrence of a pattern, from left to right, by another text;
* `Text.afterLast?`: what follows the last occurrence of a mark;
* `Text.splitAt`: the pieces of a text between the occurrences of a character;
* `Text.lines`: the lines of a text, without their ends.
-/

namespace Workflows

namespace Text

/-- Replaces the occurrences of `pattern`; the first `skip` characters belong to one already replaced. -/
def replaceFrom (pattern replacement : List Char) : Nat → List Char → List Char
  | _, [] => []
  | skip + 1, _ :: rest => replaceFrom pattern replacement skip rest
  | 0, c :: rest =>
    if pattern.isPrefixOf (c :: rest) then replacement ++ replaceFrom pattern replacement (pattern.length - 1) rest
    else c :: replaceFrom pattern replacement 0 rest

/-- Every occurrence of `pattern` in `s` replaced by `replacement`. -/
def replaceAll (pattern replacement s : String) : String :=
  String.ofList (replaceFrom pattern.toList replacement.toList 0 s.toList)

/-- What follows the last occurrence of `mark`, or `found` where there is none. -/
def afterLastFrom (mark : List Char) (found : Option (List Char)) : List Char → Option (List Char)
  | [] => found
  | c :: rest =>
    afterLastFrom mark
      (if mark.isPrefixOf (c :: rest) then some ((c :: rest).drop mark.length) else found) rest

/-- What follows the last occurrence of `mark` in `s`. -/
def afterLast? (mark s : String) : Option String :=
  (afterLastFrom mark.toList none s.toList).map String.ofList

/-- The pieces of `s` between the occurrences of `c`. -/
def splitAt (c : Char) (s : String) : List String := (s.toList.splitOn c).map String.ofList

/-- A line without the carriage return at its end. -/
def dropReturn (line : List Char) : List Char :=
  match line.reverse with
  | '\r' :: rest => rest.reverse
  | _ => line

/-- The lines of `s`; a carriage return before a line feed does not count, nor does an empty line after
the last line feed. -/
def lines (s : String) : List String :=
  match (s.toList.splitOn '\n').reverse with
  | [] => []
  | last :: before =>
    (before.reverse.map dropReturn ++ if last.isEmpty then [] else [last]).map String.ofList

end Text

end Workflows
