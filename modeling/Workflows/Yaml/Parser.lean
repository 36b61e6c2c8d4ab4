import Workflows.Yaml.Token

/-!
# Parsing YAML

* `Yaml.Event`: the parts of a document in their order; a list or a mapping is what lies between its
  start and its end;
* `Yaml.parse?`: the parts of the one document in a list of tokens, none if there is no document.

The functions of the grammar take the parts so far, last one first, and the tokens ahead.
-/

namespace Workflows

namespace Yaml

/-- What is said of a node before it: a name for aliases and a tag. -/
structure Properties where
  anchor : Option String
  tag : Option String
  deriving DecidableEq

/-- Nothing is said. -/
def Properties.none : Properties := ⟨Option.none, Option.none⟩

/-- A part of a document. -/
inductive Event where
  | alias (name : String)
  | scalar (text : String) (style : Style) (ps : Properties)
  | listStart (ps : Properties)
  | listEnd
  | mappingStart (ps : Properties)
  | mappingEnd
  deriving DecidableEq

/-- The parts of a document so far, last one first. -/
abbrev Events := List Event

/-- The place of a node where nothing is written. -/
def Event.nothing : Event := .scalar "" .plain .none

/-- The start of the tags that the format itself defines. -/
def coreTag : String := "tag:yaml.org,2002:"

/-- The full text of a tag; one without a suffix says nothing. -/
def Tag.resolve? (t : Tag) : Option (Option String) :=
  if t.handle = "" then if t.suffix = "!" then some none else some (some t.suffix)
  else if t.handle = "!" then some (some ("!" ++ t.suffix))
  else if t.handle = "!!" then some (some (coreTag ++ t.suffix))
  else none

/-- What is said of the node ahead: an anchor and a tag at most, and whether there is either. -/
def properties? (ts : List Token) : Option (Properties × Bool × List Token) :=
  match ts with
  | .anchor name :: .tag t :: rest => t.resolve?.map fun tag => (⟨some name, tag⟩, true, rest)
  | .tag t :: .anchor name :: rest => t.resolve?.map fun tag => (⟨some name, tag⟩, true, rest)
  | .anchor name :: rest => some (⟨some name, none⟩, true, rest)
  | .tag t :: rest => t.resolve?.map fun tag => (⟨none, tag⟩, true, rest)
  | rest => some (.none, false, rest)

/-- Where a node stands. -/
inductive Position where
  /-- Within brackets. -/
  | flow
  /-- In a block. -/
  | block
  /-- In a block mapping, whose lists need no indentation of their own. -/
  | member
  deriving DecidableEq

mutual

/-- A node. -/
def node : Nat → Position → Events → List Token → Option (Events × List Token)
  | 0, _, _, _ => none
  | _, _, acc, .alias name :: rest => some (.alias name :: acc, rest)
  | fuel + 1, position, acc, ts =>
    match properties? ts with
    | none => none
    | some (ps, given, ts) =>
      match position, ts with
      | .member, .blockEntry :: _ => bareItems fuel (.listStart ps :: acc) ts
      | _, .scalar text style :: rest => some (.scalar text style ps :: acc, rest)
      | _, .flowSequenceStart :: rest => flowItems fuel true (.listStart ps :: acc) rest
      | _, .flowMappingStart :: rest => flowMembers fuel true (.mappingStart ps :: acc) rest
      | .block, .blockSequenceStart :: rest | .member, .blockSequenceStart :: rest =>
        blockItems fuel (.listStart ps :: acc) rest
      | .block, .blockMappingStart :: rest | .member, .blockMappingStart :: rest =>
        blockMembers fuel (.mappingStart ps :: acc) rest
      | _, ts => if given then some (.scalar "" .plain ps :: acc, ts) else none

/-- The items of a block. -/
def blockItems : Nat → Events → List Token → Option (Events × List Token)
  | 0, _, _ => none
  | fuel + 1, acc, ts =>
    match ts with
    | .blockEntry :: .blockEntry :: rest => blockItems fuel (.nothing :: acc) (.blockEntry :: rest)
    | .blockEntry :: .blockEnd :: rest => blockItems fuel (.nothing :: acc) (.blockEnd :: rest)
    | .blockEntry :: rest =>
      match node fuel .block acc rest with
      | some (acc, rest) => blockItems fuel acc rest
      | none => none
    | .blockEnd :: rest => some (.listEnd :: acc, rest)
    | _ => none

/-- The items of a list without indentation of its own. -/
def bareItems : Nat → Events → List Token → Option (Events × List Token)
  | 0, _, _ => none
  | fuel + 1, acc, ts =>
    match ts with
    | .blockEntry :: rest =>
      match rest with
      | .blockEntry :: _ | .key :: _ | .value :: _ | .blockEnd :: _ =>
        bareItems fuel (.nothing :: acc) rest
      | rest =>
        match node fuel .block acc rest with
        | some (acc, rest) => bareItems fuel acc rest
        | none => none
    | ts => some (.listEnd :: acc, ts)

/-- The node of a key or a value of a block, which may be missing. -/
def memberNode : Nat → Events → List Token → Option (Events × List Token)
  | 0, _, _ => none
  | fuel + 1, acc, ts =>
    match ts with
    | .key :: _ | .value :: _ | .blockEnd :: _ => some (.nothing :: acc, ts)
    | ts => node fuel .member acc ts

/-- The members of a block. -/
def blockMembers : Nat → Events → List Token → Option (Events × List Token)
  | 0, _, _ => none
  | fuel + 1, acc, ts =>
    match ts with
    | .key :: rest =>
      match memberNode fuel acc rest with
      | none => none
      | some (acc, .value :: rest) =>
        match memberNode fuel acc rest with
        | none => none
        | some (acc, rest) => blockMembers fuel acc rest
      | some (acc, rest) => blockMembers fuel (.nothing :: acc) rest
    | .blockEnd :: rest => some (.mappingEnd :: acc, rest)
    | _ => none

/-- The items between brackets. -/
def flowItems : Nat → Bool → Events → List Token → Option (Events × List Token)
  | 0, _, _, _ => none
  | fuel + 1, isFirst, acc, ts =>
    let entry := match isFirst, ts with
      | true, ts | _, .flowEntry :: ts => some ts
      | false, .flowSequenceEnd :: rest => some (.flowSequenceEnd :: rest)
      | false, _ => none
    match entry with
    | none => none
    | some (.flowSequenceEnd :: rest) => some (.listEnd :: acc, rest)
    | some (.key :: rest) =>
      match pair fuel (.mappingStart .none :: acc) rest with
      | some (acc, rest) => flowItems fuel false (.mappingEnd :: acc) rest
      | none => none
    | some ts =>
      match node fuel .flow acc ts with
      | some (acc, rest) => flowItems fuel false acc rest
      | none => none

/-- The key and the value of a pair that is an item between brackets. -/
def pair : Nat → Events → List Token → Option (Events × List Token)
  | 0, _, _ => none
  | fuel + 1, acc, ts =>
    let key : Option (Events × List Token) := match ts with
      | .value :: rest | .flowEntry :: rest | .flowSequenceEnd :: rest => some (.nothing :: acc, rest)
      | ts => node fuel .flow acc ts
    match key with
    | none => none
    | some (acc, .value :: rest) =>
      match rest with
      | .flowEntry :: _ | .flowSequenceEnd :: _ => some (.nothing :: acc, rest)
      | rest => node fuel .flow acc rest
    | some (acc, rest) => some (.nothing :: acc, rest)

/-- The members between brackets. -/
def flowMembers : Nat → Bool → Events → List Token → Option (Events × List Token)
  | 0, _, _, _ => none
  | fuel + 1, isFirst, acc, ts =>
    let entry := match isFirst, ts with
      | true, ts | _, .flowEntry :: ts => some ts
      | false, .flowMappingEnd :: rest => some (.flowMappingEnd :: rest)
      | false, _ => none
    match entry with
    | none => none
    | some (.flowMappingEnd :: rest) => some (.mappingEnd :: acc, rest)
    | some (.key :: rest) =>
      let key : Option (Events × List Token) := match rest with
        | .value :: _ | .flowEntry :: _ | .flowMappingEnd :: _ => some (.nothing :: acc, rest)
        | rest => node fuel .flow acc rest
      match key with
      | none => none
      | some (acc, .value :: rest) =>
        match rest with
        | .flowEntry :: _ | .flowMappingEnd :: _ => flowMembers fuel false (.nothing :: acc) rest
        | rest =>
          match node fuel .flow acc rest with
          | some (acc, rest) => flowMembers fuel false acc rest
          | none => none
      | some (acc, rest) => flowMembers fuel false (.nothing :: acc) rest
    | some ts =>
      match node fuel .flow acc ts with
      | some (acc, rest) => flowMembers fuel false (.nothing :: acc) rest
      | none => none

end

/-- The node of a document, nothing where the document ends at once. -/
def content (fuel : Nat) (ts : List Token) : Option (Events × List Token) :=
  match ts with
  | .version :: _ | .documentStart :: _ | .documentEnd :: _ | .streamEnd :: _ => some ([.nothing], ts)
  | ts => node fuel .block [] ts

/-- Whether nothing follows a document but marks of its end. -/
def isOver (ts : List Token) : Bool :=
  match ts.dropWhile (· = .documentEnd) with
  | [.streamEnd] => true
  | _ => false

/-- The parts of the one document of some tokens, in order; there are none if there is no document. -/
def parse? (ts : List Token) : Option (List Event) :=
  let fuel := 4 * ts.length + 8
  let document (r : Option (Events × List Token)) : Option (List Event) :=
    r.bind fun (acc, rest) => if isOver rest then some acc.reverse else none
  match ts with
  | [.streamEnd] => some []
  | .documentStart :: rest | .version :: .documentStart :: rest => document (content fuel rest)
  | .version :: _ => none
  | ts => document (node fuel .block [] ts)

end Yaml

end Workflows
