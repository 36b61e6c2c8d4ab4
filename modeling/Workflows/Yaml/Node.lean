import Workflows.Data.Document
import Workflows.Yaml.Parser
import Workflows.Yaml.Plain

/-!
# Documents of YAML

* `Yaml.Node`: a document as a tree; an instance of `Document`;
* `Yaml.anchors`: the parts that names stand for; `Yaml.compose`: the tree of the parts of a document.
-/

namespace Workflows

namespace Yaml

/-- A document as a tree. -/
inductive Node where
  /-- There is no document. -/
  | missing
  | scalar (text : String) (style : Style) (tag : Option String)
  | list (items : List Node) (tag : Option String)
  | mapping (members : List (Node × Node)) (tag : Option String)
  /-- A node nested too deep to be read. -/
  | tooDeep
  deriving Inhabited

/-! ## From parts to trees -/

/-- What anchors stand for: the number of every name, and the parts from a numbered node on. -/
structure Anchors where
  numbers : Dict Nat
  nodes : List (Nat × List Event)

namespace Anchors

/-- No name stands for anything. -/
def empty : Anchors := ⟨{}, []⟩

/-- Gives a name to the node at the start of some parts. The number is how many names there are, so that a
name that is given anew takes the number of the name that is given next. -/
def give (a : Anchors) (name : Option String) (parts : List Event) : Anchors :=
  match name with
  | none => a
  | some name => ⟨a.numbers.insert name a.numbers.size, (a.numbers.size, parts) :: a.nodes⟩

end Anchors

/-- The parts with every alias replaced by the number of its anchor, together with what anchors stand for;
nothing if an alias has no anchor before it. -/
def numbered : List Event → Anchors → Option (List (Option Nat) × Anchors)
  | [], a => some ([], a)
  | part :: rest, a =>
    let (number, a) := match part with
      | .alias name => ((a.numbers.get? name).map some, a)
      | .scalar _ _ ps | .listStart ps | .mappingStart ps => (some none, a.give ps.anchor (part :: rest))
      | .listEnd | .mappingEnd => (some none, a)
    match number, numbered rest a with
    | some n, some (ns, a) => some (n :: ns, a)
    | _, _ => none

/-- A part, with the number that an alias stands for. -/
abbrev Part := Event × Option Nat

/-- What follows the list or mapping that `depth` levels up began. -/
def skipParts : Nat → List Part → List Part
  | _, [] => []
  | depth, (part, _) :: rest =>
    match part with
    | .listStart _ | .mappingStart _ => skipParts (depth + 1) rest
    | .listEnd | .mappingEnd => if depth ≤ 1 then rest else skipParts (depth - 1) rest
    | .alias _ | .scalar .. => if depth = 0 then rest else skipParts depth rest

/-- The greatest nesting of lists and mappings. -/
def maxNesting : Nat := 128

mutual

/-- The tree at the start of some parts, and what follows it; `depth` more levels may be opened. The
table holds the parts that numbers stand for. -/
def tree (table : Nat → List Part) (size : Nat) (depth : Nat) (parts : List Part) : Node × List Part :=
  let (target, rest) := match parts with
    | (.alias _, some n) :: rest => (table n, some rest)
    | parts => (parts, none)
  let (node, after) : Node × List Part := match target, depth with
    | [], _ => (.missing, [])
    | (.scalar text style ps, _) :: after, _ => (.scalar text style ps.tag, after)
    | (.listStart ps, _) :: after, depth + 1 =>
      let (items, after) := trees table size depth size after
      (.list items ps.tag, after)
    | (.mappingStart ps, _) :: after, depth + 1 =>
      let (members, after) := treePairs table size depth size after
      (.mapping members ps.tag, after)
    | parts, _ => (.tooDeep, skipParts 0 parts)
  (node, rest.getD after)
termination_by (depth, 0)

/-- The trees up to the end of a list. -/
def trees (table : Nat → List Part) (size : Nat) (depth : Nat) (fuel : Nat) (parts : List Part) :
    List Node × List Part :=
  match fuel, parts with
  | fuel + 1, part :: rest =>
    if part.1 = .listEnd then ([], rest)
    else
      let (node, rest) := tree table size depth (part :: rest)
      let (nodes, rest) := trees table size depth fuel rest
      (node :: nodes, rest)
  | _, parts => ([], parts)
termination_by (depth, fuel + 1)

/-- The pairs of trees up to the end of a mapping. -/
def treePairs (table : Nat → List Part) (size : Nat) (depth : Nat) (fuel : Nat) (parts : List Part) :
    List (Node × Node) × List Part :=
  match fuel, parts with
  | fuel + 1, part :: rest =>
    if part.1 = .mappingEnd then ([], rest)
    else
      let (key, rest) := tree table size depth (part :: rest)
      let (value, rest) := tree table size depth rest
      let (pairs, rest) := treePairs table size depth fuel rest
      ((key, value) :: pairs, rest)
  | _, parts => ([], parts)
termination_by (depth, fuel + 1)

end

/-- The tree of the parts of a document. -/
def compose (events : List Event) : Option Node :=
  (numbered events .empty).map fun (numbers, anchors) =>
    let parts := events.zip numbers
    let table (n : Nat) : List Part :=
      match anchors.nodes.lookup n with
      | some target => parts.drop (parts.length - target.length)
      | none => []
    (tree table parts.length maxNesting parts).1

/-! ## Reading trees -/

namespace Node

/-- The text of a scalar of any style. -/
def text? : Node → Option String
  | .scalar text _ _ => some text
  | _ => none

/-- Whether nothing is written where a node should be. -/
def isEmpty : Node → Bool
  | .missing => true
  | .scalar text style _ => text.isEmpty && style = .plain
  | _ => false

/-- The text of a scalar without quotes, or of a literal block with the given tag. -/
def plainText? (tag : String) : Node → Option String
  | .scalar text .plain _ => some text
  | .scalar text .literal (some t) => if t = coreTag ++ tag then some text else none
  | _ => none

/-- Whether a tag is one of the writer's own; such a node is data of no shape. -/
def isOwnTag (tag : Option String) : Bool :=
  match tag with
  | some t => t.startsWith "!"
  | none => false

/-- The data of a scalar. -/
def scalarValue? (text : String) (style : Style) (tag : Option String) : Option Value :=
  match tag with
  | some t =>
    if t = coreTag ++ "bool" then (boolOf? text).map .bool
    else if t = coreTag ++ "int" then (wholeOf? text).bind intValue?
    else if t = coreTag ++ "float" then (real? text).map .ofFloat
    else if t = coreTag ++ "null" then if isNullText text then some .null else none
    else if isOwnTag tag then none
    else some (.text text)
  | none => if style = .plain then plainValue? text else some (.text text)

mutual

/-- The data of a node. -/
def value? : Node → Option Value
  | .missing => some .null
  | .scalar text style tag => scalarValue? text style tag
  | .list items tag => if isOwnTag tag then none else (values? items).map .list
  | .mapping members tag =>
    if isOwnTag tag then none
    else (memberValues? members).map fun ms => .object (Bindings.ascending ms)
  | .tooDeep => none

/-- The data of nodes. -/
def values? : List Node → Option (List Value)
  | [] => some []
  | n :: rest =>
    match value? n, values? rest with
    | some v, some vs => some (v :: vs)
    | _, _ => none

/-- The data of members, which are named by scalars. -/
def memberValues? : List (Node × Node) → Option (List (String × Value))
  | [] => some []
  | (k, n) :: rest =>
    match text? k, value? n, memberValues? rest with
    | some k, some v, some ms => some ((k, v) :: ms)
    | _, _, _ => none

end

/-- The items of a list, none where nothing is written. -/
def items? : Node → Option (List Node)
  | .list items _ => some items
  | n => if n.isEmpty then some [] else none

/-- The members of a mapping, none where nothing is written. -/
def members? : Node → Option (List (String × Node))
  | .mapping members _ => members.mapM fun m => m.1.text?.map fun k => (k, m.2)
  | n => if n.isEmpty then some [] else none

/-- Whether an optional field is absent: nothing is written, or null without quotes. -/
def isAbsent : Node → Bool
  | .missing => true
  | .scalar text .plain none => text.isEmpty || isNullText text
  | .scalar text .plain (some t) => t = coreTag ++ "null" && isNullText text
  | _ => false

instance : Document Node where
  text? := text?
  bool? n := (n.plainText? "bool").bind boolOf?
  nat? n := ((n.plainText? "int").bind unsigned?).filter fun n => (n : Int) ≤ Number.maxInt
  real? n := (n.plainText? "float").bind fun s => (real? s).bind Real64.ofFloat?
  name? := text?
  isAbsent := isAbsent
  items? := items?
  members? := members?
  positional? _ := none
  value? := value?

end Node

end Yaml

end Workflows
