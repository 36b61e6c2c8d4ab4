import Workflows.Interpreter.Native
import Workflows.Json.Reader

/-!
# Libraries of the language

* `Library.names`: the libraries that can be loaded;
* `Library.member`: what a library holds; `Library.call`: its functions.
-/

namespace Workflows

namespace Interpreter

open Run

namespace Library

/-- The libraries that can be loaded. -/
def names : List String := ["sys", "os", "time", "json", "math", "builtins"]

/-- Other libraries that are found, of which nothing can be used. -/
def emptyNames : List String := [
  "re", "datetime", "random", "collections", "itertools", "functools", "string", "uuid", "hashlib",
  "subprocess", "pathlib", "typing", "decimal", "io", "copy", "base64", "enum", "logging", "operator",
  "os.path", "signal", "socket", "statistics", "tempfile", "textwrap", "threading", "traceback", "warnings"]

/-- The functions of the libraries. -/
def functions : List String := [
  "sys.exit", "os._exit", "os.getcwd", "os.getenv", "time.sleep", "time.time", "time.monotonic",
  "time.perf_counter", "json.dumps", "json.loads", "json.dump", "math.floor", "math.ceil", "math.sqrt",
  "math.fabs", "math.isnan", "math.isinf", "math.isfinite", "math.trunc", "math.pow", "math.exp",
  "math.log", "math.log2", "math.log10", "math.sin", "math.cos", "math.tan", "math.gcd", "math.fsum"]

/-- The variables that a script's surroundings set. -/
def environment : List (Item × Item) := [
  (.text "LANG", .text "C.UTF-8"), (.text "PYTHONIOENCODING", .text "utf-8"),
  (.text "PATH", .text "/usr/local/sbin:/usr/local/bin:/usr/sbin:/usr/bin:/sbin:/bin")]

/-- What a library holds under a name. -/
def member (library name : String) : Run Item := do
  match library ++ "." ++ name with
  | "sys.stdout" | "sys.__stdout__" => return .stream false
  | "sys.stderr" | "sys.__stderr__" => return .stream true
  | "sys.stdin" | "sys.__stdin__" => return .input
  | "sys.argv" => newList [.text "runner.py"]
  | "sys.maxsize" => return .int 0x7fffffffffffffff
  | "sys.platform" => return .text "linux"
  | "sys.version_info" => return .tuple [.int 3, .int 11, .int 2, .text "final", .int 0]
  | "sys.executable" => return .text "/usr/bin/python3"
  | "os.environ" => newDict environment
  | "os.name" => return .text "posix"
  | "os.sep" => return .text "/"
  | "os.linesep" => return .text "\n"
  | "math.pi" => return .real 3.141592653589793
  | "math.e" => return .real 2.718281828459045
  | "math.tau" => return .real 6.283185307179586
  | "math.inf" => return .real (1.0 / 0.0)
  | "math.nan" => return .real (0.0 / 0.0)
  | "json.JSONDecodeError" => return .kind "json.decoder.JSONDecodeError"
  | path =>
    if functions.contains path then return .native path
    else if name = "__name__" then return .text library
    else if library = "builtins" && Native.functions.contains name then return .native name
    else raise "AttributeError" ("module '" ++ library ++ "' has no attribute '" ++ name ++ "'")

/-- How a script wants data to be written. -/
def encoding (invoke : Callback) (args : Arguments) : Run Encoding := do
  let indent := match args.named.lookup "indent" with
    | some (.int n) => some (String.ofList (List.replicate n.toNat ' '))
    | some (.text s) => some s
    | _ => none
  let (itemMark, keyMark) := match args.named.lookup "separators" with
    | some (.tuple [.text a, .text b]) => (a, b)
    | _ => (if indent.isSome then "," else ", ", ": ")
  let default := match args.named.lookup "default" with
    | none | some .none => none
    | some f => some fun i => invoke f [i]
  return {
    default, itemMark, keyMark, indent
    sortKeys := ← truth ((args.named.lookup "sort_keys").getD (.bool false))
    ascii := ← truth ((args.named.lookup "ensure_ascii").getD (.bool true)) }

/-- A function of a double. -/
def onReal (f : Float → Float) (args : Arguments) (name : String) : Run Item := do
  return .real (f (← real (← args.required name 0)))

/-- A whole number made of a double. -/
def toInt (f : Float → Float) (args : Arguments) (name : String) : Run Item := do
  match (← args.required name 0).amount? with
  | some (.int n) => return .int n
  | some (.real x) =>
    if x.isNaN then raise "ValueError" "cannot convert float NaN to integer"
    if x.isInf then raise "OverflowError" "cannot convert float infinity to integer"
    return .int (truncated (f x))
  | none => raise "TypeError" ("must be real number, not " ++ (← typeName (← args.required name 0)))

/-- A function that is defined for numbers of a range only. -/
def within (fits : Float → Bool) (f : Float → Float) (args : Arguments) (name : String) : Run Item := do
  let x ← real (← args.required name 0)
  if !x.isNaN && !fits x then raise "ValueError" "math domain error"
  return .real (f x)

/-- A function of a library. -/
def call (invoke : Callback) (path : String) (args : Arguments) : Run Item := do
  match path with
  | "sys.exit" => raiseWith "SystemExit" args.positional
  | "os._exit" =>
    let n ← args.int path 0
    throw (.left (n.emod 256).toNat)
  | "os.getcwd" => return .text "/tmp"
  | "os.getenv" =>
    let m ← get
    return (m.find? environment (← args.required path 0)).getD (args.getD 1 "default" .none)
  | "time.sleep" =>
    let x ← real (← args.required path 0)
    if x < 0 then raise "ValueError" "sleep length must be non-negative"
    spend (x * 1000000).toUInt64.toNat
    return .none
  | "time.time" | "time.monotonic" | "time.perf_counter" =>
    return .real (1.7e9 - Float.ofNat (← get).timeLeft / 1000000)
  | "json.dumps" => return .text (← encode (← encoding invoke args) (← args.required path 0))
  | "json.dump" =>
    let text ← encode (← encoding invoke args) (← args.required path 0)
    match ← args.required path 1 with
    | .stream isError => write isError text; return .none
    | i => raise "AttributeError" ("'" ++ (← typeName i) ++ "' object has no attribute 'write'")
  | "json.loads" =>
    let source ← args.required path 0
    let .text s := source
      | raise "TypeError" ("the JSON object must be str, bytes or bytearray, not " ++ (← typeName source))
    match Json.read? s with
    | some v => ofValue v
    | none => raise "json.decoder.JSONDecodeError" "Expecting value: line 1 column 1 (char 0)"
  | "math.floor" => toInt Float.floor args path
  | "math.ceil" => toInt Float.ceil args path
  | "math.trunc" => toInt id args path
  | "math.sqrt" => within (0 ≤ ·) Float.sqrt args path
  | "math.fabs" => onReal Float.abs args path
  | "math.exp" => onReal Float.exp args path
  | "math.log" =>
    let x ← within (0 < ·) Float.log args path
    match args.positional[1]? with
    | some base => return .real ((← real x) / (← real base).log)
    | none => return x
  | "math.log2" => within (0 < ·) Float.log2 args path
  | "math.log10" => within (0 < ·) Float.log10 args path
  | "math.sin" => onReal Float.sin args path
  | "math.cos" => onReal Float.cos args path
  | "math.tan" => onReal Float.tan args path
  | "math.pow" => return .real ((← real (← args.required path 0)).pow (← real (← args.required path 1)))
  | "math.isnan" => return .bool (← real (← args.required path 0)).isNaN
  | "math.isinf" => return .bool (← real (← args.required path 0)).isInf
  | "math.isfinite" => return .bool (← real (← args.required path 0)).isFinite
  | "math.gcd" =>
    let ns ← args.positional.mapM integer
    return .int (ns.foldl (fun (g : Nat) n => g.gcd n.natAbs) 0 : Nat)
  | "math.fsum" =>
    let xs ← (← items (← args.required path 0)).mapM real
    return .real (xs.foldl (· + ·) 0)
  | path => Native.call invoke path args

end Library

end Interpreter

end Workflows
