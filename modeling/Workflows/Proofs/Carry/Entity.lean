import Workflows.Proofs.Carry.Outcome

/-!
# What steps do to the entity

Only tag steps change the entity, only when they pass, and then nothing but its tags.

* `TagsOnly`: a tag step changes the tags of the entity, and only where it passes;
* **`carryOut_entity`**: the entity after a step of any kind;
* `SameButTags`: two entities agree on everything but their tags;
* `carryOut_sameButTags`: so do the entities before and after a step;
* `Carried.context`: the context after a step;
* **`carryOut_shape`**: the shape of outcomes, and what a step changes in the context.
-/

namespace Workflows

/-- The entity is as before, or the step passed and changed its tags. -/
def TagsOnly (entity : Object) (r : Except StepFault Outcome × Object) : Prop :=
  r.2 = entity ∨ (settle r.1).passed = true ∧ ∃ tags, r.2 = entity.insert "tags" tags

section Tag

variable (config : Object) (ctx : Context)

theorem tagsOnly_assign (now : Time) : TagsOnly ctx.entity (Tag.assign config ctx now) := by
  unfold Tag.assign
  split
  · exact .inl rfl
  · -- A place that was made for the tags is written over in the end.
    rcases Tag.place_cases ctx.entity with ⟨tags, there⟩ | ⟨tags, made⟩ | failed
    · rw [there]
      exact .inr ⟨rfl, _, rfl⟩
    · rw [made]
      exact .inr ⟨rfl, _, Dict.insert_insert ..⟩
    · rw [failed]
      exact .inl rfl

/-- The tags stay as they are where the tag to be removed is not among them. -/
theorem tagsOnly_remove : TagsOnly ctx.entity (Tag.remove config ctx) := by
  unfold Tag.remove
  split
  · exact .inl rfl
  · dsimp only
    split
    · split
      · exact .inr ⟨rfl, _, rfl⟩
      · exact .inl rfl
    · exact .inl rfl

end Tag

/-- **Only a tag step that passes changes the entity, and only its tags.** -/
theorem carryOut_entity (services : Services) (now : Time) (s : Step) (ctx : Context)
    (outbox : Outbox) :
    let carried := s.carryOut services now ctx outbox
    carried.entity = ctx.entity ∨
      (s.kind = .assignTag ∨ s.kind = .removeTag) ∧ carried.outcome.passed = true ∧
        ∃ tags, carried.entity = ctx.entity.insert "tags" tags := by
  unfold Step.carryOut
  cases s.kind with
  | assignTag => exact (tagsOnly_assign s.config ctx now).imp_right fun changed => ⟨.inl rfl, changed⟩
  | removeTag => exact (tagsOnly_remove s.config ctx).imp_right fun changed => ⟨.inr rfl, changed⟩
  | _ => exact .inl rfl

/-- Two entities agree on everything but their tags. -/
def SameButTags (a b : Object) : Prop := ∀ key, key ≠ "tags" → a.get? key = b.get? key

theorem SameButTags.refl (a : Object) : SameButTags a a := fun _ _ => rfl

theorem SameButTags.trans {a b c : Object} (hab : SameButTags a b) (hbc : SameButTags b c) :
    SameButTags a c :=
  fun key other => (hab key other).trans (hbc key other)

theorem sameButTags_insert (a : Object) (tags : Value) : SameButTags a (a.insert "tags" tags) := by
  intro key other
  rw [Dict.get?_insert, if_neg other.symm]

/-- A step leaves everything but the tags of the entity as it is. -/
theorem carryOut_sameButTags (services : Services) (now : Time) (s : Step) (ctx : Context)
    (outbox : Outbox) : SameButTags ctx.entity (s.carryOut services now ctx outbox).entity := by
  rcases carryOut_entity services now s ctx outbox with same | ⟨-, -, tags, changed⟩
  · rw [same]
    exact .refl _
  · rw [changed]
    exact sameButTags_insert _ tags

/-- The context after a step: all but the entity is as before. -/
def Carried.context (carried : Carried) (ctx : Context) : Context := { ctx with entity := carried.entity }

/-- **Outcomes have a fixed shape, and a step that fails leaves the context alone.** A pass has a message and no
error, a failure one of the two and not the other, and the run waits just after an approval that passes. Only a
tag step that passes changes the context, and only the tags of the entity. -/
theorem carryOut_shape (services : Services) (now : Time) (s : Step) (ctx : Context) (outbox : Outbox) :
    let carried := s.carryOut services now ctx outbox
    let o := carried.outcome
    (o.passed = true → o.message.isSome = true ∧ o.error = none) ∧
    (o.passed = false → (o.message.isSome = true ∧ o.error = none) ∨
      (o.message = none ∧ o.error.isSome = true)) ∧
    (o.blocking = true ↔ s.kind = .approval ∧ o.passed = true) ∧
    (carried.context ctx = ctx ∨ o.passed = true ∧ (s.kind = .assignTag ∨ s.kind = .removeTag) ∧
      ∃ tags, carried.context ctx = { ctx with entity := ctx.entity.insert "tags" tags }) := by
  intro carried o
  have shape : o.WellFormed := carryOut_wellFormed services now s ctx outbox
  refine ⟨shape.of_passed, fun failed => ?_, carryOut_blocking_iff services now s ctx outbox, ?_⟩
  · cases message : o.message with
    | some m => exact .inl ⟨rfl, (shape.of_failed failed).1 (by rw [message]; rfl)⟩
    | none =>
      refine .inr ⟨rfl, Option.isSome_iff_ne_none.2 fun absent => ?_⟩
      have := (shape.of_failed failed).2 absent
      rw [message] at this
      cases this
  · rcases carryOut_entity services now s ctx outbox with same | ⟨tagging, passed, tags, changed⟩
    · exact .inl (by rw [Carried.context, same])
    · exact .inr ⟨passed, tagging, tags, by rw [Carried.context, changed]⟩

end Workflows
