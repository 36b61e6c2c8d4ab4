import Workflows.Carry.Setting
import Workflows.Execution.Context

/-!
# Tag steps

* `Tag.value?`: the value that a step gives a tag; `Tag.place`: the place for tags in an entity (`place_cases`);
* `Tag.assign`, `Tag.remove`: the outcome and the entity afterwards, also where the step fails.
-/

namespace Workflows

namespace Tag

/-- The value that a source stands for. -/
def sourced? (ctx : Context) (now : Time) (source : String) : Option String :=
  match source with
  | "current_user" => ctx.actor
  | "project_name" => ctx.entityText? "project_name" <|> ctx.entityText? "project_id"
  | "entity_name" => ctx.entityName
  | "timestamp" => some now.offsetText
  | _ => none

/-- The value that is written out: a text that is not blank, a number or a truth value. -/
def literal? : Option Value → Option String
  | some (.text s) => Text.nonBlank? s
  | some (.number n) => some (Json.compact (.number n))
  | some (.bool b) => some (Json.compact (.bool b))
  | _ => none

/-- The value that a step gives a tag: from a source, or written out; never empty. -/
def value? (config : Object) (ctx : Context) (now : Time) : Option String :=
  let value := match Setting.text? config "value_source" with
    | some source => sourced? ctx now source
    | none => literal? (config.get? "value")
  value.filter fun v => !v.isEmpty

/-- The tag that a step gives: its key and its value. -/
def given (config : Object) (ctx : Context) (now : Time) : Except StepFault (String × String) := do
  let key ← Setting.required config "key"
  let some value := value? config ctx now | throw .unresolvedTag
  return (key, value)

/-- The tags of an entity, and the entity with a place for them, which is made where it has none, or null. -/
def place (entity : Object) : Except StepFault Object × Object :=
  let entity := match entity.get? "tags" with
    | none | some .null => entity.insert "tags" (.ofObject {})
    | some _ => entity
  match (entity.get? "tags").bind Value.object? with
  | some tags => (.ok tags, entity)
  | none => (.error .tagsNotObject, entity)

/-- A place for tags is there, is made, or cannot be made, and then the entity stays as it is. -/
theorem place_cases (entity : Object) :
    (∃ tags, place entity = (.ok tags, entity)) ∨
      (∃ tags, place entity = (.ok tags, entity.insert "tags" (.ofObject {}))) ∨
      place entity = (.error .tagsNotObject, entity) := by
  unfold place
  cases slot : entity.get? "tags" with
  | none => exact .inr (.inl ⟨{}, by simp⟩)
  | some v =>
    cases v with
    | null => exact .inr (.inl ⟨{}, by simp⟩)
    | object members => exact .inl ⟨Dict.ofList members, by simp [slot, Value.object?]⟩
    | _ => exact .inr (.inr (by simp [slot, Value.object?]))

/-- Gives the entity a tag. -/
def assign (config : Object) (ctx : Context) (now : Time) : Except StepFault Outcome × Object :=
  match given config ctx now with
  | .error fault => (.error fault, ctx.entity)
  | .ok (key, value) =>
    match place ctx.entity with
    | (.error fault, entity) => (.error fault, entity)
    | (.ok tags, entity) =>
      let outcome := (Outcome.pass ("Assigned tag " ++ key ++ "=" ++ value)).withData
        [("key", .text key), ("value", .text value)]
      (.ok outcome, entity.insert "tags" (.ofObject (tags.insert key (.text value))))

/-- Takes a tag from the entity, if it has it. -/
def remove (config : Object) (ctx : Context) : Except StepFault Outcome × Object :=
  match Setting.required config "key" with
  | .error fault => (.error fault, ctx.entity)
  | .ok key =>
    let (removed, entity) := match (ctx.entity.get? "tags").bind Value.object? with
      | some tags =>
        if tags.contains key then (true, ctx.entity.insert "tags" (.ofObject (tags.erase key)))
        else (false, ctx.entity)
      | none => (false, ctx.entity)
    let outcome := (Outcome.pass ("Removed tag " ++ key)).withData
      [("key", .text key), ("removed", .bool removed)]
    (.ok outcome, entity)

end Tag

end Workflows
