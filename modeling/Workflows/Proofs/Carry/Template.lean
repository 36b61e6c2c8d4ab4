import Mathlib.Data.List.Chain
import Workflows.Carry.Template
import Workflows.Proofs.Text.Search

/-!
# What templates become

A template is rendered in two passes over its text, the second of which also goes over the entity's type that the
first has put in.

* `Template.Part`: what a template is made of; `Template.partsOf`: the parts of a text, from left to right;
  `Template.flatMap_written`: they make up the text;
* `Template.fill`: a template with its marks filled, and all else as it is;
* `Template.Apart`: parts that no mark goes over; `Template.apart_text`: those of every template are such;
* `Template.render_eq_fill`: how a template is rendered, by its parts;
* **`Template.render_verbatim_iff`**: which entities are put in as they are.
-/

namespace Workflows

namespace Template

/-! ## Parts -/

/-- What a template is made of: characters, and the marks for the entity's type and name. -/
inductive Part where
  | char (c : Char)
  | type
  | name
  deriving DecidableEq

/-- How a part is written. -/
def Part.written : Part → List Char
  | .char c => [c]
  | .type => typeMark.toList
  | .name => nameMark.toList

/-- A part with a type and a name put in for their marks. -/
def Part.filled (type name : List Char) : Part → List Char
  | .char c => [c]
  | .type => type
  | .name => name

/-- The parts of a text, from left to right; the first `skip` characters belong to a mark. -/
def partsFrom : Nat → List Char → List Part
  | _, [] => []
  | skip + 1, _ :: rest => partsFrom skip rest
  | 0, c :: rest =>
    if typeMark.toList.isPrefixOf (c :: rest) then .type :: partsFrom (typeMark.toList.length - 1) rest
    else if nameMark.toList.isPrefixOf (c :: rest) then .name :: partsFrom (nameMark.toList.length - 1) rest
    else .char c :: partsFrom 0 rest

/-- The parts of the text of a template. -/
def partsOf (template : Option String) : List Part := partsFrom 0 (text template).toList

/-- A template with every mark that stands in it filled, by a type or by a name. -/
def fill (type name : String) (template : Option String) : String :=
  String.ofList ((partsOf template).flatMap (Part.filled type.toList name.toList))

theorem mark_append_drop {m rest : List Char} {c : Char} (some : m ≠ []) (here : m.isPrefixOf (c :: rest)) :
    m ++ rest.drop (m.length - 1) = c :: rest := by
  obtain ⟨after, whole⟩ := List.isPrefixOf_iff_prefix.1 here
  cases m with
  | nil => exact absurd rfl some
  | cons d m =>
    obtain ⟨rfl, rfl⟩ := List.cons.inj whole
    simp

theorem typeMark_ne_nil : typeMark.toList ≠ [] := by decide

theorem nameMark_ne_nil : nameMark.toList ≠ [] := by decide

theorem written_partsFrom (skip : Nat) (cs : List Char) :
    (partsFrom skip cs).flatMap Part.written = cs.drop skip := by
  fun_induction partsFrom skip cs with
  | case1 => simp
  | case2 skip c rest ih => exact ih
  | case3 c rest here ih => rw [List.flatMap_cons, ih, Part.written, mark_append_drop typeMark_ne_nil here]; rfl
  | case4 c rest _ here ih => rw [List.flatMap_cons, ih, Part.written, mark_append_drop nameMark_ne_nil here]; rfl
  | case5 c rest _ _ ih => rw [List.flatMap_cons, ih]; rfl

/-- The parts of a template make up its text. -/
theorem written_partsOf (template : Option String) :
    (partsOf template).flatMap Part.written = (text template).toList :=
  written_partsFrom 0 _

/-! ## Parts that stand apart -/

/-- Whether the mark for the name cannot go on with a part. -/
def Part.ends : Part → Bool
  | .char c => !nameMark.toList.contains c
  | _ => false

/-- Only marks begin with a brace, and none goes on after the mark for the type. -/
structure Apart (ps : List Part) : Prop where
  plain : Part.char '\x7b' ∉ ps
  ended : ps.IsChain fun p q => p = .type → q.ends = true

instance (ps : List Part) : Decidable (Apart ps) :=
  decidable_of_iff (_ ∧ _) ⟨fun ⟨plain, ended⟩ => ⟨plain, ended⟩, fun ⟨plain, ended⟩ => ⟨plain, ended⟩⟩

theorem apart_text (template : Option String) : Apart (partsOf template) := by
  unfold partsOf text
  split <;> decide +kernel

variable {ps : List Part} {p : Part} {c : Char} {type name : List Char}

theorem Apart.tail (apart : Apart (p :: ps)) : Apart ps :=
  ⟨fun mem => apart.plain (List.mem_cons_of_mem _ mem), apart.ended.tail⟩

theorem Apart.not_prefix {mark rest : List Char} (apart : Apart (.char c :: ps)) :
    ¬ '\x7b' :: mark <+: c :: rest := by
  intro found
  obtain ⟨same, -⟩ := List.cons_prefix_cons.1 found
  exact apart.plain (same ▸ List.mem_cons_self)

/-! ## Rendering -/

open Text

theorem typeMark_not_prefix (rest : List Char) : ¬ typeMark.toList <+: nameMark.toList ++ rest := by
  intro found
  have within := List.prefix_of_prefix_length_le found (List.prefix_append _ _) (by decide)
  exact absurd within (by decide)

/-- The mark for the type does not occur in the one for the name, so that this stays. -/
theorem replaceFrom_nameMark (rest : List Char) :
    replaceFrom typeMark.toList type 0 (nameMark.toList ++ rest) =
      nameMark.toList ++ replaceFrom typeMark.toList type 0 rest := by
  have later : ∀ w : List Char, '\x7b' ∉ w →
      replaceFrom typeMark.toList type 0 (w ++ rest) = w ++ replaceFrom typeMark.toList type 0 rest := by
    intro w plain
    induction w with
    | nil => rfl
    | cons c w ih =>
      have other : ¬ typeMark.toList <+: c :: (w ++ rest) := fun found =>
        plain ((List.cons_prefix_cons.1 found).1 ▸ List.mem_cons_self)
      rw [List.cons_append, replaceFrom_miss other, ih fun mem => plain (List.mem_cons_of_mem _ mem),
        List.cons_append]
  have whole : nameMark.toList = '\x7b' :: nameMark.toList.tail := by decide
  have other : ¬ typeMark.toList <+: '\x7b' :: (nameMark.toList.tail ++ rest) := by
    rw [← List.cons_append, ← whole]
    exact typeMark_not_prefix rest
  rw [whole, List.cons_append, replaceFrom_miss other, later _ (by decide), List.cons_append]

/-- The first pass puts the type in. -/
theorem Apart.replace_type (apart : Apart ps) :
    replaceFrom typeMark.toList type 0 (ps.flatMap Part.written) =
      ps.flatMap (Part.filled type nameMark.toList) := by
  induction ps with
  | nil => rfl
  | cons p ps ih =>
    rw [List.flatMap_cons, List.flatMap_cons, ← ih apart.tail]
    cases p with
    | char c => exact replaceFrom_miss apart.not_prefix
    | type => exact replaceFrom_hit typeMark_ne_nil _
    | name => exact replaceFrom_nameMark _

/-- The second pass goes over the type too. -/
theorem Apart.replace_name (apart : Apart ps) :
    replaceFrom nameMark.toList name 0 (ps.flatMap (Part.filled type nameMark.toList)) =
      ps.flatMap (Part.filled (replaceFrom nameMark.toList name 0 type) name) := by
  induction ps with
  | nil => rfl
  | cons p ps ih =>
    rw [List.flatMap_cons, List.flatMap_cons, ← ih apart.tail]
    cases p with
    | char c => exact replaceFrom_miss apart.not_prefix
    | name => exact replaceFrom_hit nameMark_ne_nil _
    | type =>
      cases ps with
      | nil => simp [Part.filled, replaceFrom]
      | cons q ps =>
        have ends : q.ends = true := apart.ended.rel rfl
        cases q with
        | type | name => cases ends
        | char d =>
          -- no occurrence runs out of the type into what follows it, as `d` is not in the mark
          have apart' : d ∉ nameMark.toList := by simpa [Part.ends] using ends
          change replaceFrom _ _ 0 (type ++ d :: _) = replaceFrom _ _ 0 type ++ replaceFrom _ _ 0 (d :: _)
          rw [replaceFrom_apart nameMark_ne_nil apart']
          exact congrArg _ (replaceFrom_miss apart.tail.not_prefix).symm

variable (template : Option String) (ctx : Context)

/-- **A template is rendered with the name put in for its mark, also where that stands in the type.** -/
theorem render_eq_fill :
    let name := ctx.entityName.getD ctx.entityId
    render template ctx = fill (replaceAll nameMark name ctx.entityType) name template := by
  intro name
  have apart := apart_text template
  rw [render, fill, replaceAll, replaceAll, String.toList_ofList, ← written_partsOf, apart.replace_type,
    apart.replace_name, replaceAll, String.toList_ofList]

/-! ## Filling -/

/-- How long a filled text is. -/
theorem length_flatMap_filled (ps : List Part) (type name : List Char) :
    (ps.flatMap (Part.filled type name)).length =
      (ps.flatMap (Part.filled [] name)).length + ps.count .type * type.length := by
  induction ps with
  | nil => simp
  | cons p ps ih =>
    rw [List.flatMap_cons, List.flatMap_cons, List.length_append, List.length_append, ih, List.count_cons]
    cases p <;> simp [Part.filled, Nat.add_mul] <;> omega

/-- A text that has the mark for the type tells the types apart that it is filled with. -/
theorem filled_inj {type' : List Char} (marked : .type ∈ ps)
    (same : ps.flatMap (Part.filled type name) = ps.flatMap (Part.filled type' name)) : type = type' := by
  have lengths := congrArg List.length same
  rw [length_flatMap_filled, length_flatMap_filled ps type', Nat.add_left_cancel_iff] at lengths
  have length := Nat.eq_of_mul_eq_mul_left (List.count_pos_iff.2 marked) lengths
  clear lengths
  induction ps with
  | nil => cases marked
  | cons p ps ih =>
    rw [List.flatMap_cons, List.flatMap_cons] at same
    cases p with
    | type => exact (List.append_inj same length).1
    | char c => exact ih (by simpa using marked) (List.append_cancel_left same)
    | name => exact ih (by simpa using marked) (List.append_cancel_left same)

theorem fill_eq_iff {type type' name : String} :
    fill type name template = fill type' name template ↔ .type ∉ partsOf template ∨ type = type' := by
  rw [fill, fill, ← String.toList_inj, String.toList_ofList, String.toList_ofList]
  constructor
  · intro same
    by_cases marked : .type ∈ partsOf template
    · exact .inr (String.toList_inj.1 (filled_inj marked same))
    · exact .inl marked
  · rintro (unmarked | rfl)
    · refine List.flatMap_congr fun p mem => ?_
      cases p with
      | type => exact absurd mem unmarked
      | char c | name => rfl
    · rfl

/-- **Which entities are put in as they are.** A template is rendered as its text with every mark that stands in it
filled, character for character, just where it has no mark for the type, or the type does not hold the mark for the
name, or that mark is the name. Otherwise the name stands in the type for its mark, too. -/
theorem render_verbatim_iff :
    let name := ctx.entityName.getD ctx.entityId
    render template ctx = fill (Text.replaceAll nameMark name ctx.entityType) name template ∧
      (render template ctx = fill ctx.entityType name template ↔
        .type ∉ partsOf template ∨ ¬ nameMark.toList <:+: ctx.entityType.toList ∨ name = nameMark) := by
  intro name
  refine ⟨render_eq_fill template ctx, ?_⟩
  rw [render_eq_fill, fill_eq_iff, replaceAll_eq_self_iff (by decide)]

/-- A type that is the mark for the name: it is not put in as it is. -/
theorem render_type_named_mark :
    let ctx : Context := {
      entity := {}
      entityType := nameMark
      entityId := "7"
      entityName := some "Sales"
      actor := none
      trigger := none
      executionId := "1"
      workflowId := "w"
      workflowName := "W"
      results := {} }
    render (some "validation_failed") ctx = "Validation failed for Sales 'Sales'" ∧
      fill ctx.entityType "Sales" (some "validation_failed") = "Validation failed for \x7bentity_name\x7d 'Sales'" := by
  decide +kernel

end Template

end Workflows
