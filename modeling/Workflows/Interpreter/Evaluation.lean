import Workflows.Interpreter.Library

/-!
# Running scripts

* `Run.lookup`, `Run.bindName`: names and the frames that they belong to;
* `Deeper`: how the terms and blocks inside a term or a statement are run;
* `Evaluation.invoke`: a call; `Evaluation.term`: the item of a term; `Evaluation.statement`: a statement;
* `Interpreter.evaluate`, `Interpreter.perform`: terms and blocks nested no deeper than a number of levels.
-/

namespace Workflows

namespace Interpreter

open Run

/-- How the running of statements goes on. -/
inductive Flow where
  | next
  /-- A loop is left. -/
  | stop
  /-- A loop's next turn is taken. -/
  | again
  /-- A function gives an item. -/
  | give (i : Item)

namespace Run

/-- What a name of the language stands for. -/
def languageName (name : String) : Run Item := do
  if Native.functions.contains name then return .native name
  else if Native.kinds.contains name then return .kind name
  else if name = "OSError" || name = "IOError" || name = "EnvironmentError" then return .kind "OSError"
  else if isErrorKind name then return .kind name
  else raise "NameError" ("name '" ++ name ++ "' is not defined")

/-- The frame at an address. -/
def frame (f : Address) : Run Frame := return (← get).frames[f]?.getD default

/-- What a name stands for in a frame, going outwards at most so many frames. -/
def lookupWithin (name : String) : Nat → Address → Run Item
  | 0, _ => languageName name
  | n + 1, f => do
    let fr ← frame f
    match fr.bindings.lookup name, fr.outer with
    | some i, _ => return i
    | none, none => languageName name
    | none, some outer =>
      if fr.own.contains name then
        raise "UnboundLocalError"
          ("cannot access local variable '" ++ name ++ "' where it is not associated with a value")
      else lookupWithin name n outer

/-- What a name stands for in a frame. -/
def lookup (f : Address) (name : String) : Run Item := do lookupWithin name (← get).frames.size f

/-- The frame that a name belongs to, going outwards at most so many frames. -/
def ownerWithin (name : String) : Nat → Address → Run Address
  | 0, f => return f
  | n + 1, f => do
    let fr ← frame f
    match fr.outer with
    | none => return f
    | some outer => if fr.own.contains name then return f else ownerWithin name n outer

/-- Changes the bindings of the frame that a name belongs to. -/
def changeBindings (f : Address) (name : String)
    (change : List (String × Item) → List (String × Item)) : Run Unit := do
  let owner ← ownerWithin name (← get).frames.size f
  modify fun m => { m with frames := m.frames.modify owner fun fr => { fr with bindings := change fr.bindings } }

/-- Binds a name. -/
def bindName (f : Address) (name : String) (i : Item) : Run Unit :=
  changeBindings f name fun bs => (name, i) :: bs.filter (·.1 ≠ name)

/-- Unbinds a name, which must be bound. -/
def unbindName (f : Address) (name : String) : Run Unit := do
  let owner ← ownerWithin name (← get).frames.size f
  if ((← frame owner).bindings.lookup name).isNone then
    raise "NameError" ("name '" ++ name ++ "' is not defined")
  changeBindings f name fun bs => bs.filter (·.1 ≠ name)

/-- A new frame. -/
def newFrame (fr : Frame) : Run Address := modifyGet fun m =>
  (m.frames.size, { m with frames := m.frames.push fr })

end Run

/-- How the terms and blocks inside a term or a statement are run. -/
structure Deeper where
  term : Address → Term → Run Item
  block : Address → List Statement → Run Flow

namespace Evaluation

variable (deep : Deeper)

/-! ## Calls -/

/-- How deeply calls may be nested. -/
def maxCalls : Nat := 996

/-- Names in quotes, as a list in words. -/
def nameList (names : List String) : String :=
  let quoted := names.map fun n => "'" ++ n ++ "'"
  match quoted.reverse with
  | [] => ""
  | [one] => one
  | [b, a] => a ++ " and " ++ b
  | last :: others => String.intercalate ", " others.reverse ++ ", and " ++ last

/-- The end of a word that counts things. -/
def plural (n : Nat) : String := if n = 1 then "" else "s"

/-- What the parameters of a function are bound to. -/
def bindParameters (f : Function) (args : Arguments) : Run (List (String × Item)) := do
  let plain := f.parameters.filter (·.1 = .plain)
  let given := (plain.zip args.positional).map fun (p, i) => (p.2.1, i)
  let extra := args.positional.drop plain.length
  let takesRest := f.parameters.any fun p => p.1 = .rest && p.2.1 ≠ ""
  if !extra.isEmpty && !takesRest then
    let least := plain.countP (·.2.2.isNone)
    let n := plain.length
    raise "TypeError" (f.name ++ "() takes " ++ (if least = n then "" else "from " ++ toString least ++ " to ")
      ++ toString n ++ " positional argument" ++ plural n ++ " but " ++ toString args.positional.length
      ++ (if args.positional.length = 1 then " was" else " were") ++ " given")
  let byName := f.parameters.filter fun p => p.1 = .plain || p.1 = .nameOnly
  let (known, unknown) := args.named.partition fun a => byName.any fun p => p.2.1 = a.1
  let takesNames := f.parameters.any (·.1 = .restNames)
  if !takesNames then
    if let (name, _) :: _ := unknown then
      raise "TypeError" (f.name ++ "() got an unexpected keyword argument '" ++ name ++ "'")
  for (name, _) in known do
    if (given.lookup name).isSome then
      raise "TypeError" (f.name ++ "() got multiple values for argument '" ++ name ++ "'")
  let bound := given ++ known
  for (kind, what) in [(ParameterKind.plain, "positional"), (.nameOnly, "keyword-only")] do
    let missing := f.parameters.filter fun p => p.1 = kind && (bound.lookup p.2.1).isNone && p.2.2.isNone
    if !missing.isEmpty then
      raise "TypeError" (f.name ++ "() missing " ++ toString missing.length ++ " required " ++ what
        ++ " argument" ++ plural missing.length ++ ": " ++ nameList (missing.map (·.2.1)))
  f.parameters.foldlM (fun bs (kind, name, default) => do
    match kind with
    | .plain | .nameOnly => return (name, (bound.lookup name).getD (default.getD .none)) :: bs
    | .rest => return (name, .tuple extra) :: bs
    | .restNames =>
      return (name, ← newDict (unknown.map fun (n, i) => (.text n, i))) :: bs) []

/-- A call of a function of the script. -/
def invokeFunction (f : Function) (args : Arguments) : Run Item := do
  if maxCalls < (← get).depth then raise "RecursionError" "maximum recursion depth exceeded"
  let bindings ← bindParameters f args
  let names := f.parameters.map (·.2.1)
  let frame ← newFrame ⟨some f.frame, names ++ f.own, bindings⟩
  modify fun m => { m with depth := m.depth + 1 }
  let result ← outcome (inCall f.name do
    match f.body with
    | .term t => deep.term frame t
    | .block body =>
      match ← deep.block frame body with
      | .give i => return i
      | _ => return .none)
  modify fun m => { m with depth := m.depth - 1 }
  match result with
  | .ok i => return i
  | .error e => throw e

/-- A call of an item with arguments. -/
def invokeWith (f : Item) (args : Arguments) : Run Item := do
  tick
  let callback : Callback := fun g is => do
    match g with
    | .cell a =>
      match ← cell a with
      | .function h => invokeFunction deep h ⟨is, []⟩
      | _ => raise "TypeError" ("'" ++ (← typeName g) ++ "' object is not callable")
    | .native name => Library.call (fun _ _ => return .none) name ⟨is, []⟩
    | .kind name => Native.construct name ⟨is, []⟩
    | .method receiver name => Native.method (fun _ _ => return .none) receiver name ⟨is, []⟩
    | g => raise "TypeError" ("'" ++ (← typeName g) ++ "' object is not callable")
  match f with
  | .native name => Library.call callback name args
  | .kind name => Native.construct name args
  | .method receiver name => Native.method callback receiver name args
  | .cell a =>
    match ← cell a with
    | .function g => invokeFunction deep g args
    | _ => callback f []
  | f => callback f []

/-! ## Assignments -/

/-- The items that some targets are assigned, if there are as many; a starred target takes what the others
leave over. -/
def unpacked (targets : List Term) (i : Item) : Run (List Item) := do
  match ← items? i with
  | none => raise "TypeError" ("cannot unpack non-iterable " ++ (← typeName i) ++ " object")
  | some xs =>
    let starred : Term → Bool
      | .starred _ => true
      | _ => false
    let n := targets.length
    match targets.findIdx? starred with
    | none =>
      if xs.length < n then
        raise "ValueError" ("not enough values to unpack (expected " ++ toString n ++ ", got "
          ++ toString xs.length ++ ")")
      if n < xs.length then
        raise "ValueError" ("too many values to unpack (expected " ++ toString n ++ ")")
      return xs
    | some k =>
      if xs.length + 1 < n then
        raise "ValueError" ("not enough values to unpack (expected at least " ++ toString (n - 1)
          ++ ", got " ++ toString xs.length ++ ")")
      let after := n - 1 - k
      let middle := (xs.drop k).take (xs.length - k - after)
      return xs.take k ++ (← newList middle) :: xs.drop (xs.length - after)

mutual

/-- Assigns an item to a target. -/
def assign (f : Address) (i : Item) : Term → Run Unit
  | .spot span t => within span (assign f i t)
  | .starred t => assign f i t
  | .name s => bindName f s i
  | .tuple ts => do assignAll f (← unpacked ts i) ts
  | .list ts => do assignAll f (← unpacked ts i) ts
  | .item t index => do
    let container ← deep.term f t
    putAt container (← deep.term f index) i
  | .attribute t name => do
    let item ← deep.term f t
    raise "AttributeError" ("'" ++ (← typeName item) ++ "' object has no attribute '" ++ name ++ "'")
  | _ => return ()

/-- Assigns items to targets, one to each. -/
def assignAll (f : Address) : List Item → List Term → Run Unit
  | i :: is, t :: ts => do
    assign f i t
    assignAll f is ts
  | _, _ => return ()

end

/-- Removes what a target stands for. -/
def delete (f : Address) : Term → Run Unit
  | .spot span t => within span (delete f t)
  | .name s => unbindName f s
  | .item t index => do
    let container ← deep.term f t
    dropAt container (← deep.term f index)
  | .attribute t name => do
    let item ← deep.term f t
    raise "AttributeError" ("'" ++ (← typeName item) ++ "' object has no attribute '" ++ name ++ "'")
  | _ => return ()

/-! ## Terms -/

/-- The items of terms, of which some are spread. -/
def spread (f : Address) (ts : List Term) : Run (List Item) := do
  let parts ← ts.mapM fun
    | .starred t => do items (← deep.term f t)
    | t => return [← deep.term f t]
  return parts.flatten

/-- The arguments of a call. -/
def arguments (f : Address) (given : List (ArgumentKind × Term)) : Run Arguments := do
  given.foldlM (fun args (kind, t) => do
    let i ← deep.term f t
    match kind with
    | .positional => return { args with positional := args.positional ++ [i] }
    | .named name => return { args with named := args.named ++ [(name, i)] }
    | .spread => return { args with positional := args.positional ++ (← items i) }
    | .spreadNames =>
      let m ← get
      let entries := match i with
        | .cell a => m.entries a
        | _ => []
      return { args with named := args.named ++ entries.map fun (k, v) => (m.str k, v) }) ⟨[], []⟩

/-- Runs a step for every turn of nested loops. -/
def turns (f : Address) (step : Run Unit) : List (Term × Term × List Term) → Run Unit
  | [] => step
  | (target, source, conditions) :: rest => do
    let all ← items (← deep.term f source)
    all.forM fun i => do
      tick
      assign deep f i target
      if ← conditions.allM fun c => do truth (← deep.term f c) then turns f step rest

/-- What a comprehension builds. -/
def comprehend (f : Address) (kind : Collection) (element : Term) (value : Option Term)
    (loops : List (Term × Term × List Term)) : Run Item := do
  let inner ← newFrame ⟨some f, Term.boundNamesOfAll (loops.map (·.1)), []⟩
  let found ← newList []
  let .cell a := found | return .none
  turns deep inner (do
    let i ← deep.term inner element
    let entry ← match value with
      | some v => pure (.tuple [i, ← deep.term inner v])
      | none => pure i
    match ← cell a with
    | .list held => setCell a (.list (entry :: held))
    | _ => return ()) loops
  let .list held ← cell a | return .none
  let all := held.reverse
  match kind with
  | .list => newList all
  | .lazy => alloc (.cursor all)
  | .set =>
    all.forM checkKey
    alloc (.set ((← get).distinct all))
  | .dict =>
    let pairs := all.filterMap fun
      | .tuple [k, v] => some (k, v)
      | _ => none
    pairs.forM fun (k, _) => checkKey k
    let m ← get
    newDict (pairs.foldl (fun es (k, v) => m.insert es k v) [])

/-- A row of comparisons, each of which must hold. -/
def comparisons (f : Address) : Item → List (Comparison × Term) → Run Item
  | _, [] => return .bool true
  | a, (op, t) :: rest => do
    let b ← deep.term f t
    if ← Operator.compare op a b then comparisons f b rest else return .bool false

/-- A new function. -/
def function (f : Address) (name : String) (parameters : Parameters) (body : Body) (own : List String) :
    Run Item := do
  let parameters ← parameters.mapM fun (kind, name, default) => do
    match default with
    | some t => return (kind, name, some (← deep.term f t))
    | none => return (kind, name, none)
  alloc (.function ⟨name, parameters, body, own, f⟩)

/-- What stands behind a point of an item. -/
def member (item : Item) (name : String) : Run Item :=
  match item with
  | .library library => Library.member library name
  | item => Run.member item name

/-- The item of a term. -/
def term (f : Address) (t : Term) : Run Item := do
  let optional (t : Option Term) : Run Item := do
    match t with
    | some t => deep.term f t
    | none => return .none
  match t with
  | .spot span t => within span (deep.term f t)
  | .none => return .none
  | .ellipsis => return .kind "ellipsis"
  | .bool b => return .bool b
  | .int n => return .int n
  | .real x => return .real x
  | .text s => return .text s
  | .joined parts =>
    let texts ← parts.mapM fun p => do return (← get).str (← deep.term f p)
    return .text (String.join texts)
  | .shown t conversion format =>
    let item ← converted (← deep.term f t) conversion
    let format ← deep.term f format
    return .text (← formatted item ((← get).str format))
  | .name s => lookup f s
  | .tuple ts => return .tuple (← spread deep f ts)
  | .list ts => newList (← spread deep f ts)
  | .set ts =>
    let all ← spread deep f ts
    all.forM checkKey
    alloc (.set ((← get).distinct all))
  | .dict entries =>
    let found ← entries.foldlM (fun es (key, value) => do
      match key with
      | some key =>
        let k ← deep.term f key
        let v ← deep.term f value
        checkKey k
        return (← get).insert es k v
      | none => updated es (← deep.term f value)) []
    newDict found
  | .starred t => deep.term f t
  | .unary op t => Operator.unary op (← deep.term f t)
  | .binary op a b =>
    let x ← deep.term f a
    Operator.binary op x (← deep.term f b)
  | .and a b =>
    let x ← deep.term f a
    if ← truth x then deep.term f b else return x
  | .or a b =>
    let x ← deep.term f a
    if ← truth x then return x else deep.term f b
  | .not t => return .bool (!(← truth (← deep.term f t)))
  | .compare first others => comparisons deep f (← deep.term f first) others
  | .choice test yes no => if ← truth (← deep.term f test) then deep.term f yes else deep.term f no
  | .function parameters body => function deep f "<lambda>" parameters (.term body) []
  | .call g given =>
    let g ← deep.term f g
    invokeWith deep g (← arguments deep f given)
  | .attribute t name => member (← deep.term f t) name
  | .item t (.slice start stop step) =>
    let container ← deep.term f t
    slice container (← optional start) (← optional stop) (← optional step)
  | .item t index =>
    let container ← deep.term f t
    itemAt container (← deep.term f index)
  | .slice .. => return .none
  | .comprehension kind element value loops => comprehend deep f kind element value loops
  | .bind name t =>
    let i ← deep.term f t
    bindName f name i
    return i

/-! ## Statements -/

/-- Runs statements one after the other. -/
def inOrder (step : Statement → Run Flow) : List Statement → Run Flow
  | [] => return .next
  | s :: rest => do
    match ← step s with
    | .next => inOrder step rest
    | flow => return flow

/-- A bound on the turns of a loop that no run reaches. -/
def maxTurns : Nat := 0x1000000000000000

/-- The turns of a loop: a step says whether there is another turn. -/
def loop (f : Address) (hasNext : Run Bool) (body otherwise : List Statement) : Run Flow :=
  repeatUntil (do
    tick
    if ← hasNext then
      match ← deep.block f body with
      | .stop => return some .next
      | .give i => return some (.give i)
      | _ => return none
    else return some (← deep.block f otherwise)) maxTurns

/-- The turns of a loop over items. -/
def each (f : Address) (target source : Term) (body otherwise : List Statement) : Run Flow := do
  match ← deep.term f source with
  | .range start stop step =>
    let counter ← alloc (.cursor [.int 0])
    let .cell a := counter | return .next
    let count := Item.rangeLength start stop step
    loop deep f (do
      match ← cell a with
      | .cursor [.int k] =>
        if k < count then
          setCell a (.cursor [.int (k + 1)])
          assign deep f (.int (start + step * k)) target
          return true
        else return false
      | _ => return false) body otherwise
  | source =>
    let a ← match source with
      | .cell a =>
        match ← cell a with
        | .cursor _ => pure source
        | _ => alloc (.cursor (← items source))
      | source => alloc (.cursor (← items source))
    let .cell a := a | return .next
    loop deep f (do
      match ← cell a with
      | .cursor (i :: rest) =>
        setCell a (.cursor rest)
        assign deep f i target
        return true
      | _ => return false) body otherwise

/-- The error that an item stands for when it is raised. -/
def toError (i : Item) : Run Item := do
  let refuse : Run Item := raise "TypeError" "exceptions must derive from BaseException"
  match i with
  | .kind kind => if isErrorKind kind then alloc (.error kind []) else refuse
  | .cell a =>
    match ← cell a with
    | .error .. => return i
    | _ => refuse
  | _ => refuse

/-- Whether a kind of error, or one of several kinds, catches an error. -/
def catches (error : Item) (kind : Item) : Run Bool := do
  let m ← get
  match kind with
  | .kind _ => return Native.isOf m error kind
  | .tuple kinds => return kinds.any (Native.isOf m error)
  | _ => raise "TypeError" "catching classes that do not inherit from BaseException is not allowed"

/-- What is done about an error: the first handler that catches it, or else the error goes on. -/
def handle (f : Address) (error : Item) (trace : Trace) :
    List (Option Term × Option String × List Statement) → Run Flow
  | [] => throw (.raised error trace)
  | (kind, name, body) :: rest => do
    let caught ← match kind with
      | some kind => catches error (← deep.term f kind)
      | none => pure true
    if !caught then handle f error trace rest
    else
      modify fun m => { m with handled := (error, trace) :: m.handled }
      if let some name := name then bindName f name error
      let result ← outcome (deep.block f body)
      if let some name := name then changeBindings f name fun bs => bs.filter (·.1 ≠ name)
      modify fun m => { m with handled := m.handled.drop 1 }
      match result with
      | .ok flow => return flow
      | .error e => throw e

/-- A body whose errors are handled, and what follows it in any case. -/
def attempt (f : Address) (body : List Statement)
    (handlers : List (Option Term × Option String × List Statement))
    (otherwise last : List Statement) : Run Flow := do
  let result ← outcome do
    match ← outcome (deep.block f body) with
    | .ok .next => deep.block f otherwise
    | .ok flow => return flow
    | .error (.raised error trace) => handle deep f error trace handlers
    | .error e => throw e
  match result with
  | .ok flow =>
    match ← deep.block f last with
    | .next => return flow
    | other => return other
  | .error (.raised error trace) =>
    match ← deep.block f last with
    | .next => throw (.raised error trace)
    | other => return other
  | .error e => throw e

/-- Loads a library. -/
def load (path : String) : Run Item := do
  if Library.names.contains path || Library.emptyNames.contains path then return .library path
  else raise "ModuleNotFoundError" ("No module named '" ++ path ++ "'")

/-- Runs a statement. -/
def statement (f : Address) : Statement → Run Flow
  | .located span s => do
    tick
    within span (deep.block f [s])
  | .value t => do
    let _ ← deep.term f t
    return .next
  | .assign targets t => do
    let i ← deep.term f t
    targets.forM (assign deep f i)
    return .next
  | .update target op t => do
    let a ← deep.term f target
    let b ← deep.term f t
    match op, a, (← get).sequence? a with
    | .add, .cell x, some xs => setCell x (.list (xs ++ (← items b)))
    | op, a, _ => assign deep f (← Operator.binary op a b) target
    return .next
  | .delete targets => do
    targets.forM (delete deep f)
    return .next
  | .pass => return .next
  | .stop => return .stop
  | .again => return .again
  | .give t => do
    match t with
    | some t => return .give (← deep.term f t)
    | none => return .give .none
  | .raise none _ => do
    match (← get).handled with
    | (error, trace) :: _ => throw (.raised error trace)
    | [] => raise "RuntimeError" "No active exception to reraise"
  | .raise (some t) _ => do
    let error ← toError (← deep.term f t)
    throw (.raised error ⟨none, []⟩)
  | .assert test message => do
    if ← truth (← deep.term f test) then return .next
    let arguments ← match message with
      | some t => pure [← deep.term f t]
      | none => pure []
    let failure : Run Flow := raiseWith "AssertionError" arguments
    match test.span? with
    | some place => within { place with core := none } failure
    | none => failure
  | .load path name => do
    let library ← load path
    match name with
    | some name => bindName f name library
    | none =>
      let root := (path.splitOn ".").headD path
      bindName f root (.library root)
    return .next
  | .loadFrom path names => do
    let _ ← load path
    for (name, known) in names do
      match ← outcome (Library.member path name) with
      | .ok i => bindName f known i
      | .error _ =>
        raise "ImportError" ("cannot import name '" ++ name ++ "' from '" ++ path ++ "' (unknown location)")
    return .next
  | .outer _ => return .next
  | .branch test yes no => do
    if ← truth (← deep.term f test) then deep.block f yes else deep.block f no
  | .loop test body otherwise => loop deep f (do truth (← deep.term f test)) body otherwise
  | .each target source body otherwise => each deep f target source body otherwise
  | .define name parameters body => do
    bindName f name (← function deep f name parameters (.block body) (Statement.ownNames body))
    return .next
  | .attempt body handlers otherwise last => attempt deep f body handlers otherwise last

end Evaluation

mutual

/-- The item of a term that is nested, with the calls in it, no deeper than a number of levels. -/
def evaluate : Nat → Address → Term → Machine → EStateM.Result Signal Machine Item
  | 0, _, _, m => .error .tooDeep m
  | n + 1, f, t, m => Evaluation.term ⟨fun f t m => evaluate n f t m, fun f b m => perform n f b m⟩ f t m

/-- Runs a block that is nested, with the calls in it, no deeper than a number of levels. -/
def perform : Nat → Address → List Statement → Machine → EStateM.Result Signal Machine Flow
  | 0, _, _, m => .error .tooDeep m
  | n + 1, f, b, m =>
    Evaluation.inOrder
      (Evaluation.statement ⟨fun f t m => evaluate n f t m, fun f b m => perform n f b m⟩ f) b m

end

end Interpreter

end Workflows
