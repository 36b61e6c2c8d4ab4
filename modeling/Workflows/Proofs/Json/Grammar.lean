import Workflows.Proofs.Json.Numeral

/-!
# The grammar of JSON

What texts are written forms of a value, independently of how they are read.

* `Json.Space`: what may stand between tokens;
* `Json.Spells`: how a text stands between quotes;
* `Json.Part`: the parts of a document; `Json.Writes`: the rules;
* `Json.Written`: a text is a written form of a value;
* `Value.depth`: how many lists and objects of a value lie within each other.
-/

namespace Workflows

/-! ## Nesting -/

namespace Value

mutual

/-- How many lists and objects lie within each other. -/
def depth : Value → Nat
  | .list items => depthItems items + 1
  | .object members => depthMembers members + 1
  | _ => 0

def depthItems : List Value → Nat
  | [] => 0
  | v :: rest => max (depth v) (depthItems rest)

def depthMembers : List (String × Value) → Nat
  | [] => 0
  | (_, v) :: rest => max (depth v) (depthMembers rest)

end

end Value

namespace Json

/-- What may stand between tokens. -/
def Space (cs : List Char) : Prop := ∀ c ∈ cs, isSpace c

theorem eq_of_isSpace {c : Char} (blank : isSpace c) : c = ' ' ∨ c = '\n' ∨ c = '\t' ∨ c = '\r' := by
  simpa [isSpace, or_assoc] using blank

/-- How a text stands between quotes: a character stands for itself, or behind a backslash there is a letter
for it, its code or the two halves of its code. -/
inductive Spells : List Char → List Char → Prop
  | nil : Spells [] []
  | plain {c : Char} {cs s : List Char} (quote : c ≠ '"') (escape : c ≠ '\\') (visible : 0x20 ≤ c.toNat)
      (next : Spells cs s) : Spells (c :: cs) (c :: s)
  | letter {c e : Char} {cs s : List Char} (stands : unescape? c = some e) (next : Spells cs s) :
      Spells ('\\' :: c :: cs) (e :: s)
  | code {a b c d : Char} {n : Nat} {cs s : List Char} (hex : hex4? a b c d = some n)
      (high : isHighSurrogate n = false) (low : isLowSurrogate n = false) (next : Spells cs s) :
      Spells ('\\' :: 'u' :: a :: b :: c :: d :: cs) (Char.ofNat n :: s)
  | codes {a b c d a' b' c' d' : Char} {n m : Nat} {cs s : List Char} (hex : hex4? a b c d = some n)
      (high : isHighSurrogate n) (hex' : hex4? a' b' c' d' = some m) (low : isLowSurrogate m)
      (next : Spells cs s) : Spells ('\\' :: 'u' :: a :: b :: c :: d :: '\\' :: 'u' :: a' :: b' :: c' :: d' :: cs)
      (surrogatePair n m :: s)

/-- The parts of a document. -/
inductive Part where
  | value (v : Value)
  /-- A value with space around it. -/
  | padded (v : Value)
  /-- The inside of a list that is not empty. -/
  | items (vs : List Value)
  | member (k : String) (v : Value)
  /-- The inside of an object that is not empty. -/
  | members (ms : List (String × Value))

/-- How the parts of a document are written. -/
inductive Writes : Part → List Char → Prop
  | null : Writes (.value .null) ['n', 'u', 'l', 'l']
  | isTrue : Writes (.value (.bool true)) ['t', 'r', 'u', 'e']
  | isFalse : Writes (.value (.bool false)) ['f', 'a', 'l', 's', 'e']
  | number {m : Numeral} {n : Number} (amount : m.value? = some n) : Writes (.value (.number n)) m.chars
  | text {s : String} {cs : List Char} (spells : Spells cs s.toList) :
      Writes (.value (.text s)) ('"' :: (cs ++ ['"']))
  | emptyList {gap : List Char} (space : Space gap) : Writes (.value (.list [])) ('[' :: (gap ++ [']']))
  | list {vs : List Value} {cs : List Char} (items : Writes (.items vs) cs) :
      Writes (.value (.list vs)) ('[' :: (cs ++ [']']))
  | emptyObject {gap : List Char} (space : Space gap) :
      Writes (.value (.object [])) ('\x7b' :: (gap ++ ['\x7d']))
  | object {ms : List (String × Value)} {cs : List Char} (members : Writes (.members ms) cs) :
      Writes (.value (.object ms)) ('\x7b' :: (cs ++ ['\x7d']))
  | padded {v : Value} {lead cs trail : List Char} (before : Space lead) (core : Writes (.value v) cs)
      (after : Space trail) : Writes (.padded v) (lead ++ (cs ++ trail))
  | lastItem {v : Value} {cs : List Char} (item : Writes (.padded v) cs) : Writes (.items [v]) cs
  | item {v : Value} {vs : List Value} {cs ds : List Char} (item : Writes (.padded v) cs)
      (others : Writes (.items vs) ds) : Writes (.items (v :: vs)) (cs ++ ',' :: ds)
  | member {k : String} {v : Value} {lead cs gap ds : List Char} (before : Space lead)
      (spells : Spells cs k.toList) (between : Space gap) (value : Writes (.padded v) ds) :
      Writes (.member k v) (lead ++ '"' :: (cs ++ '"' :: (gap ++ ':' :: ds)))
  | lastMember {k : String} {v : Value} {cs : List Char} (member : Writes (.member k v) cs) :
      Writes (.members [(k, v)]) cs
  | members {k : String} {v : Value} {ms : List (String × Value)} {cs ds : List Char}
      (member : Writes (.member k v) cs) (others : Writes (.members ms) ds) :
      Writes (.members ((k, v) :: ms)) (cs ++ ',' :: ds)

/-- A text is a written form of a value. -/
def Written (v : Value) (text : String) : Prop := Writes (.padded v) text.toList

end Json

end Workflows
