import Workflows.Execution.Record
import Workflows.Text.Search

/-!
# Colours

`Cli.Paint` is a colour or weight of text on a terminal; `Cli.Paint.apply` puts it on a text, where colours
are wanted. A width counts the text without the signs for the terminal.
-/

namespace Workflows

namespace Cli

/-- A colour or weight of text. -/
inductive Paint where
  | bold
  | red
  | green
  | cyan
  | boldRed
  | boldGreen
  | boldYellow
  deriving DecidableEq

namespace Paint

/-- The number of a colour or weight on a terminal. -/
def code : Paint → String
  | .bold => "1"
  | .red => "31"
  | .green => "32"
  | .cyan => "36"
  | .boldRed => "1;31"
  | .boldGreen => "1;32"
  | .boldYellow => "1;33"

/-- The sign that begins a colour or weight. -/
def begin (p : Paint) : String := "\x1b[" ++ p.code ++ "m"

/-- The sign that ends all colours and weights. -/
def reset : String := "\x1b[0m"

/-- A text in a colour, which is taken up again where the text itself ends all colours. -/
def apply (colour : Bool) (p : Paint) (s : String) : String :=
  if colour then p.begin ++ Text.replaceAll reset (reset ++ p.begin) s ++ reset else s

end Paint

/-- The colour of a status. -/
def statusPaint : Status → Paint
  | .succeeded => .boldGreen
  | .failed => .boldRed
  | .paused => .boldYellow
  | .running => .cyan

end Cli

end Workflows
