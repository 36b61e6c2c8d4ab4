/-!
# Kinds of errors of scripts

* `Interpreter.errorParents`: every kind of error with the kind that it is a special case of;
* `isErrorKind`, `isKindOf`: whether a name is a kind, and whether a kind is a special case of another.
-/

namespace Workflows

namespace Interpreter

/-- Every kind of error with the kind that it is a special case of. -/
def errorParents : List (String × String) := [
  ("SystemExit", "BaseException"), ("KeyboardInterrupt", "BaseException"), ("Exception", "BaseException"),
  ("ArithmeticError", "Exception"), ("ZeroDivisionError", "ArithmeticError"),
  ("OverflowError", "ArithmeticError"), ("FloatingPointError", "ArithmeticError"),
  ("AssertionError", "Exception"), ("AttributeError", "Exception"), ("EOFError", "Exception"),
  ("ImportError", "Exception"), ("ModuleNotFoundError", "ImportError"),
  ("LookupError", "Exception"), ("IndexError", "LookupError"), ("KeyError", "LookupError"),
  ("MemoryError", "Exception"), ("NameError", "Exception"), ("UnboundLocalError", "NameError"),
  ("OSError", "Exception"), ("FileNotFoundError", "OSError"), ("PermissionError", "OSError"),
  ("TimeoutError", "OSError"), ("ConnectionError", "OSError"),
  ("RuntimeError", "Exception"), ("NotImplementedError", "RuntimeError"),
  ("RecursionError", "RuntimeError"), ("StopIteration", "Exception"), ("TypeError", "Exception"),
  ("ValueError", "Exception"), ("UnicodeError", "ValueError"), ("UnicodeDecodeError", "UnicodeError"),
  ("UnicodeEncodeError", "UnicodeError"), ("json.decoder.JSONDecodeError", "ValueError"),
  ("Warning", "Exception"), ("UserWarning", "Warning"), ("DeprecationWarning", "Warning")]

/-- Whether a name is the name of a kind of error. -/
def isErrorKind (name : String) : Bool :=
  name = "BaseException" || (errorParents.lookup name).isSome

/-- Whether a kind is another one or a special case of it, going up at most so many kinds. -/
def isKindWithin : Nat → String → String → Bool
  | 0, _, _ => false
  | n + 1, kind, other =>
    kind = other || (match errorParents.lookup kind with
      | some parent => isKindWithin n parent other
      | none => false)

/-- Whether a kind of error is another one or a special case of it. -/
def isKindOf (kind other : String) : Bool := isKindWithin (errorParents.length + 1) kind other

/-- The last part of a kind's name, under which scripts know it. -/
def shortKind (kind : String) : String := (kind.splitOn ".").getLastD kind

end Interpreter

end Workflows
