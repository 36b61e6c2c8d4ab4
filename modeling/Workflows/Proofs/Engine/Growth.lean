import Workflows.Proofs.Carry.Entity
import Workflows.Proofs.Engine.Becomes
import Workflows.Proofs.Engine.Lifecycle

/-!
# Histories only grow

A call adds to the history of the one execution that it makes or goes on with, and touches no other.

* `Execution.Extends`: an execution has become another one by adding to its history;
* `Extends.next`, `Extends.becomes`: a further step and the end of a run add to the history, as does
  `extends_claimed`, a decision;
* `Takes.extends`, `Sound.run_extends`: so do whole calls; `extends_of_follows`: and all that follows, which
  changes nothing of a terminal execution;
* **`history_append_only`**: what a call, and all that follows, leaves of every execution.
-/

namespace Workflows

/-- An execution has become `z` by adding to its history: records come after those that there are,
decisions stay, and what the run is about is the same but for the tags of the entity. -/
structure Execution.Extends (x z : Execution) : Prop where
  id : z.id = x.id
  workflowId : z.workflowId = x.workflowId
  workflowName : z.workflowName = x.workflowName
  startedAt : z.startedAt = x.startedAt
  triggeredBy : z.triggeredBy = x.triggeredBy
  trigger : z.trigger = x.trigger
  entityType : z.entityType = x.entityType
  entityId : z.entityId = x.entityId
  entityName : z.entityName = x.entityName
  entity : SameButTags x.entity z.entity
  records : x.records <+: z.records
  decisions : ∀ record d, x.decisions.get? record = some d → z.decisions.get? record = some d

namespace Execution.Extends

variable {x y z : Execution}

theorem refl (x : Execution) : x.Extends x :=
  ⟨rfl, rfl, rfl, rfl, rfl, rfl, rfl, rfl, rfl, .refl _, List.prefix_rfl, fun _ _ h => h⟩

theorem trans (hxy : x.Extends y) (hyz : y.Extends z) : x.Extends z where
  id := hyz.id.trans hxy.id
  workflowId := hyz.workflowId.trans hxy.workflowId
  workflowName := hyz.workflowName.trans hxy.workflowName
  startedAt := hyz.startedAt.trans hxy.startedAt
  triggeredBy := hyz.triggeredBy.trans hxy.triggeredBy
  trigger := hyz.trigger.trans hxy.trigger
  entityType := hyz.entityType.trans hxy.entityType
  entityId := hyz.entityId.trans hxy.entityId
  entityName := hyz.entityName.trans hxy.entityName
  entity := hxy.entity.trans hyz.entity
  records := hxy.records.trans hyz.records
  decisions record d h := hyz.decisions record d (hxy.decisions record d h)

/-- A change of status to another entity, without a decision, adds nothing else. -/
theorem apply {entity : Object} {u : StatusUpdate} (h : x.Extends { y with entity })
    (changed : u.entity = some entity) (undecided : u.decision = none) : x.Extends (y.apply u) where
  id := h.id
  workflowId := h.workflowId
  workflowName := h.workflowName
  startedAt := h.startedAt
  triggeredBy := h.triggeredBy
  trigger := h.trigger
  entityType := h.entityType
  entityId := h.entityId
  entityName := h.entityName
  entity := by
    unfold Execution.apply
    rw [changed]
    exact h.entity
  records := h.records
  decisions := by
    rw [decisions_apply undecided]
    exact h.decisions

variable {e : Engine MemoryStore} {w : Definition} {s : Step} {p : Progress MemoryStore}

/-- A further step adds its record, and changes the tags of the entity at most. -/
theorem next (h : x.Extends { y with entity := p.ctx.entity }) :
    x.Extends { e.grown s p y with entity := (e.advance s p y).ctx.entity } where
  id := h.id
  workflowId := h.workflowId
  workflowName := h.workflowName
  startedAt := h.startedAt
  triggeredBy := h.triggeredBy
  trigger := h.trigger
  entityType := h.entityType
  entityId := h.entityId
  entityName := h.entityName
  entity := h.entity.trans (carryOut_sameButTags _ _ _ _ _)
  records := h.records.trans (List.prefix_append _ _)
  decisions := h.decisions

/-- The end of a run adds no more than its last step does. -/
theorem becomes {a : Stage MemoryStore} (h : x.Extends { y with entity := a.progress.ctx.entity })
    (becomes : e.Becomes w a y z) : x.Extends z := by
  cases becomes with
  | closed => exact h.apply rfl rfl
  | paused => exact h.next.apply rfl rfl

end Execution.Extends

section

variable {mint : Nat → String} {world : World MemoryStore} {id : String} {e : Engine MemoryStore}
  {w : Definition} {x z : Execution} {earlier : List StepRecord} {r : StepRecord}

/-- A decision adds itself: there was none on the record that it is on. -/
theorem extends_claimed {n : Nat} (waits : x.Waits earlier r) (rests : x.Rests mint n)
    (passed : Bool) (data : Option Object) :
    x.Extends (Engine.claimed x r.stepId passed data) where
  id := rfl
  workflowId := rfl
  workflowName := rfl
  startedAt := rfl
  triggeredBy := rfl
  trigger := rfl
  entityType := rfl
  entityId := rfl
  entityName := rfl
  entity := .refl _
  records := List.prefix_rfl
  decisions record d decided := by
    rw [Engine.claimed_decisions passed data (Execution.lastRecord?_concat waits.records),
      Dict.get?_insert, if_neg, decided]
    rintro rfl
    rw [waits.undecided rests] at decided
    cases decided

/-! ## Calls -/

/-- **A decision adds to the history of the execution that it is on.** -/
theorem Takes.extends {passed : Bool} {data : Option Object} {ended : Ended MemoryStore}
    (injective : mint.Injective) (he : e.InMemory mint) (sound : Sound mint world)
    (takes : Takes mint e id passed data world x w earlier r ended z) : x.Extends z := by
  obtain ⟨-, rests⟩ := sound id x takes.resumable.stored
  have claimed := extends_claimed takes.waits rests passed data
  have start : x.Extends { Engine.claimed x r.stepId passed data with
      entity := (Engine.decidedStage x r.stepId passed data e w id world).progress.ctx.entity } := by
    unfold Engine.decidedStage
    split <;> exact claimed
  obtain ⟨b, y, extended, becomes⟩ := takes.drive_rule injective he sound
    (J := fun a y => x.Extends { y with entity := a.progress.ctx.entity })
    (fun _ extended _ _ => extended.next) start
  exact extended.becomes becomes

/-- **A run adds to the history of the execution that it makes.** -/
theorem Sound.run_extends (injective : mint.Injective) (he : e.InMemory mint)
    (sound : Sound mint world) (r : Request) (result : (e.run w r world).1 = .ok z) :
    (e.firstExecution w r world).Extends z := by
  obtain ⟨b, y, extended, becomes⟩ := sound.run_rule injective he r
    (J := fun a y => (e.firstExecution w r world).Extends { y with entity := a.progress.ctx.entity })
    (fun _ extended _ _ => extended.next) (.refl _) result
  exact extended.becomes becomes

/-! ## Histories -/

/-- What follows adds to the history of every execution, and changes nothing of one that is terminal. -/
theorem Follows.holds_extends {next : World MemoryStore} (injective : mint.Injective)
    (sound : Sound mint world) (follows : Follows mint world next)
    (h : Holds id (fun z => x.Extends z ∧ (x.status.isTerminal = true → z = x)) world) :
    Holds id (fun z => x.Extends z ∧ (x.status.isTerminal = true → z = x)) next := by
  refine follows.holds injective sound h fun {e passed data y w earlier r ended z} he takes h => ?_
  refine ⟨h.1.trans (takes.extends injective he sound), fun terminal => ?_⟩
  have waits := takes.waits.status
  rw [h.2 terminal] at waits
  rw [waits] at terminal
  cases terminal

theorem extends_of_follows {later : World MemoryStore} (injective : mint.Injective)
    (sound : Sound mint world) (stored : world.store.executions.get? id = some x)
    (steps : Relation.ReflTransGen (Follows mint) world later) :
    Holds id (fun z => x.Extends z ∧ (x.status.isTerminal = true → z = x)) later := by
  have start : Holds id (fun z => x.Extends z ∧ (x.status.isTerminal = true → z = x)) world :=
    ⟨x, stored, .refl x, fun _ => rfl⟩
  refine (sound.later injective (fun step => step) (fun sound follows h => ?_) start steps).2
  exact follows.holds_extends injective sound h

/-- A decision on an execution leaves all others as they are. -/
theorem Sound.resume_isolated {other : String} (injective : mint.Injective) (he : e.InMemory mint)
    (sound : Sound mint world) (passed : Bool) (data : Option Object) (ne : other ≠ id) :
    (e.resume id passed data world).2.store.executions.get? other =
      world.store.executions.get? other := by
  have decides := sound.resume_decides injective he id passed data
  unfold Engine.resume
  generalize e.resumeThrough id passed data world = called at decides ⊢
  cases decides with
  | refused => rfl
  | taken takes => rw [takes.settles.store, MemoryStore.get?_set, if_neg ne.symm]

end

/-- **Histories only grow, and calls are isolated.** A call of `run` makes a new execution and a call of
`resume` changes the one that it is on, and neither touches another. Whatever follows adds to the history of
every execution, from what `run` first stored on, and changes nothing of one that is terminal. -/
theorem history_append_only (mint : Nat → String) (world : World MemoryStore)
    (injective : mint.Injective) (reachable : Reachable mint world) :
    (∀ (e : Engine MemoryStore) (w : Definition) (r : Request), e.InMemory mint →
      ∃ x, (e.run w r world).1 = .ok x ∧
        world.store.executions.get? x.id = none ∧
        (∀ other, other ≠ x.id → (e.run w r world).2.store.executions.get? other =
          world.store.executions.get? other) ∧
        ∀ later, Relation.ReflTransGen (Follows mint) (e.run w r world).2 later →
          ∃ z, later.store.executions.get? x.id = some z ∧ x.Extends z ∧
            (e.firstExecution w r world).Extends z) ∧
    (∀ (e : Engine MemoryStore) (id : String) (passed : Bool) (data : Option Object),
      e.InMemory mint → ∀ other, other ≠ id →
        (e.resume id passed data world).2.store.executions.get? other =
          world.store.executions.get? other) ∧
    ∀ later, Relation.ReflTransGen (Follows mint) world later →
      ∀ id x, world.store.executions.get? id = some x →
        ∃ z, later.store.executions.get? id = some z ∧ x.Extends z ∧
          (x.status.isTerminal = true → z = x) := by
  have sound := reachable.sound injective
  refine ⟨fun e w r he => ?_, fun e id passed data he other ne =>
    sound.resume_isolated injective he passed data ne, fun later steps id x stored =>
    extends_of_follows injective sound stored steps⟩
  obtain ⟨x, settles⟩ := sound.run_settles injective he w r
  have own : x.id = mint world.minted := settles.id_eq
  refine ⟨x, settles.result, ?_, fun other ne => ?_, fun later steps => ?_⟩
  · rw [own]
    exact sound.fresh injective
  · rw [own] at ne
    change (e.runThrough w r world).progress.world.store.executions.get? other = _
    rw [settles.store, MemoryStore.get?_set, if_neg ne.symm]
  · have stored : (e.run w r world).2.store.executions.get? x.id = some x := by
      change (e.runThrough w r world).progress.world.store.executions.get? x.id = _
      rw [settles.store, MemoryStore.get?_set, if_pos own.symm]
    have first := sound.run_extends injective he r settles.result
    obtain ⟨z, stored, extended, -⟩ :=
      extends_of_follows injective (settles.sound sound) stored steps
    exact ⟨z, stored, extended, first.trans extended⟩

/-- In the sample, the decision on the review adds itself and the record of the sign-off. -/
theorem append_only_signing : ∃ x z,
    Sample.reviewing.store.executions.get? (Sample.mint 0) = some x ∧
    Sample.signing.store.executions.get? (Sample.mint 0) = some z ∧
    x.records.length = 1 ∧ z.records.length = 2 ∧ z.decisions.size = 1 ∧ x.Extends z := by
  have before : (Sample.reviewing.store.executions.get? (Sample.mint 0)).map
      (fun x => x.records.length) = some 1 := by decide +kernel
  have after : (Sample.signing.store.executions.get? (Sample.mint 0)).map
      (fun z => (z.records.length, z.decisions.size)) = some (2, 1) := by decide +kernel
  obtain ⟨x, stored, one⟩ := Option.map_eq_some_iff.1 before
  obtain ⟨z, later, extended, -⟩ := (history_append_only Sample.mint Sample.reviewing
    Sample.mint_injective Sample.reachable_reviewing).2.2 Sample.signing
    (.single Sample.follows_signing) _ x stored
  rw [later] at after
  obtain ⟨two, decided⟩ := Prod.mk.inj (Option.some.inj after)
  exact ⟨x, z, stored, later, one, two, decided, extended⟩

end Workflows
