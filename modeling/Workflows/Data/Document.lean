import Workflows.Data.Value

/-!
# Documents

Records are read from documents of more than one written form. A form says how it reads as a text, a
number, a list and so on; the records say which fields they have.

* `Document`: the ways in which a form can be read; `Value` is one;
* `Document.Field`, `Document.fields?`: the fields of a record under their proper names, unknown ones
  left out; a field given twice, also under another of its names, is refused;
* `Document.Fields.required`, `.optional`, `.orElse`: one field that must be there, that may be absent,
  that has a default;
* `Value.record`: the object of the members that are present.
-/

namespace Workflows

/-- A written form that records are read from. Each reading fails where the form does not fit. -/
class Document (δ : Type) where
  /-- A text field. -/
  text? : δ → Option String
  /-- A truth field. -/
  bool? : δ → Option Bool
  /-- A whole number that is not negative, at most `2 ^ 64 - 1`. -/
  nat? : δ → Option Nat
  /-- A double; whole numbers are taken too. -/
  real? : δ → Option Real64
  /-- One of a set of names. -/
  name? : δ → Option String
  /-- Whether an optional field of this form is absent. -/
  isAbsent : δ → Bool
  /-- A list. -/
  items? : δ → Option (List δ)
  /-- Named members in their order; a name may come twice. -/
  members? : δ → Option (List (String × δ))
  /-- The fields of a record in their order, where the form may leave out the names. -/
  positional? : δ → Option (List δ)
  /-- Data of any shape, in canonical form. -/
  value? : δ → Option Value

namespace Document

/-- A field of a record: its proper name and the other names that it may be given under. -/
structure Field where
  name : String
  aliases : List String

/-- A field with one name. -/
def Field.plain (name : String) : Field := ⟨name, []⟩

/-- Whether a field may be given under `key`. -/
def Field.answersTo (f : Field) (key : String) : Bool := f.name == key || f.aliases.contains key

/-- The fields of a record that are given, under their proper names. -/
abbrev Fields (δ : Type) := List (String × δ)

variable {δ α : Type}

/-- Takes one member into the fields read so far. -/
def take (record : List Field) (read : Fields δ) (member : String × δ) : Option (Fields δ) :=
  match record.find? (·.answersTo member.1) with
  | none => some read
  | some f => if (read.lookup f.name).isSome then none else some ((f.name, member.2) :: read)

/-- The given fields of a record. -/
def fields? [Document δ] (record : List Field) (d : δ) : Option (Fields δ) :=
  match positional? d with
  | some items =>
    if items.length ≤ record.length then some ((record.map (·.name)).zip items) else none
  | none => (members? d).bind fun members => members.foldlM (take record) []

/-- A dictionary of values that are all read in one way; of two members of one name the later counts. -/
def dict? [Document δ] (read : δ → Option α) (d : δ) : Option (Dict α) := do
  let members ← members? d
  let bindings ← members.mapM fun m => (read m.2).map fun a => (m.1, a)
  return Dict.ofList bindings

/-- A list of values that are all read in one way. -/
def list? [Document δ] (read : δ → Option α) (d : δ) : Option (List α) := do
  let items ← items? d
  items.mapM read

/-- An object of any shape. -/
def object? [Document δ] (d : δ) : Option Object := dict? value? d

namespace Fields

/-- A field that must be given. -/
def required (fs : Fields δ) (name : String) (read : δ → Option α) : Option α :=
  (fs.lookup name).bind read

/-- A field that may be missing or absent. -/
def optional [Document δ] (fs : Fields δ) (name : String) (read : δ → Option α) : Option (Option α) :=
  match fs.lookup name with
  | none => some none
  | some d => if isAbsent d then some none else (read d).map some

/-- A field that has a default. -/
def orElse (fs : Fields δ) (name : String) (default : α) (read : δ → Option α) : Option α :=
  match fs.lookup name with
  | none => some default
  | some d => read d

end Fields

end Document

namespace Value

/-- The object of the members that are present. -/
def record (members : List (String × Option Value)) : Value :=
  ofObject (Dict.ofList (members.filterMap fun m => m.2.map fun v => (m.1, v)))

/-- A number that is whole, not negative and at most `2 ^ 64 - 1`. -/
def nat? : Value → Option Nat
  | .number (.int n) => if 0 ≤ n ∧ n ≤ Number.maxInt then some n.toNat else none
  | _ => none

instance : Document Value where
  text? := text?
  bool?
    | .bool b => some b
    | _ => none
  nat? := nat?
  real?
    | .number n => Real64.ofFloat? n.toFloat
    | _ => none
  name?
    | .text s => some s
    | .object [(s, .null)] => some s
    | _ => none
  isAbsent := isNull
  items? := list?
  members?
    | .object members => some members
    | _ => none
  positional? := list?
  value? v := some v.canonical

end Value

end Workflows
