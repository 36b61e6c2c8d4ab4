import Workflows.Proofs.Engine.Lifecycle
import Workflows.Proofs.Execution.Walk

/-!
# Calls that continue a walk

While a workflow stays registered, the history of an execution of it is a walk along its branches, however
many calls the walk is cut into.

* `Execution.Heads`: the history of an execution is a walk that leads to a step;
* `Heads.grown`, `Heads.decided`: what a further step and a decision make of the walk;
* `Underway.drive_heads`, `Takes.heads`: a run and a decision continue the walk;
* `Keeps`: one step in the history of a world where a workflow is registered;
* `Keeps.holds_heads`, `heads_of_keeps`, `Sound.run_heads`: such steps keep an execution of the workflow on a walk;
* **`run_walks`**: that is so for the execution of a new run.
-/

namespace Workflows

/-- The history of an execution of a workflow is a walk that leads to a step. -/
structure Execution.Heads (w : Definition) (x : Execution) (next : Option String) : Prop where
  workflowId : x.workflowId = w.id
  walk : Walk w x.verdict x.records next

section

variable {mint : Nat → String} {world : World MemoryStore} {id : String} {e : Engine MemoryStore}
  {w : Definition} {x : Execution} {next : Option String}

namespace Execution

/-- A change of status without a decision leaves the walk as it is. -/
theorem Heads.apply {u : StatusUpdate} (h : x.Heads w next) (undecided : u.decision = none) :
    (x.apply u).Heads w next where
  workflowId := h.workflowId
  walk := by
    refine h.walk.congr fun r _ => ?_
    unfold verdict
    rw [decisions_apply undecided]

/-- A further step continues the walk by the branch that it takes. -/
theorem Heads.grown {s : Step} {stepId : String} {p : Progress MemoryStore}
    (h : x.Heads w (some stepId)) (found : w.find? stepId = some s)
    (undecided : x.decisions.get? (e.recordOf s p).id = none) :
    (e.grown s p x).Heads w (s.next? (e.outcomeOf s p).passed) where
  workflowId := h.workflowId
  walk := by
    have same : (e.recordOf s p).stepId = stepId := Definition.id_of_find? found
    have verdict : (e.grown s p x).verdict (e.recordOf s p) = (e.outcomeOf s p).passed :=
      verdict_of_undecided (x := e.grown s p x) undecided
    rw [← verdict]
    rw [← same] at h found
    exact h.walk.step found

/-- A decision on the last step makes the walk lead where the decision says. -/
theorem Heads.decided {earlier : List StepRecord} {r : StepRecord} (h : x.Heads w next)
    (waits : x.Waits earlier r) (distinct : (x.records.map (·.id)).Nodup) (passed : Bool)
    (data : Option Object) :
    ∃ s, w.find? r.stepId = some s ∧
      (Engine.claimed x r.stepId passed data).Heads w (s.next? passed) := by
  have records := waits.records
  have walk := h.walk
  rw [records] at walk
  obtain ⟨before, s, found, -⟩ := Walk.concat_iff.1 walk
  have decisions := Engine.claimed_decisions passed data (lastRecord?_concat records)
  have others : ∀ q ∈ earlier,
      x.verdict q = (Engine.claimed x r.stepId passed data).verdict q := by
    intro q hq
    unfold verdict
    rw [decisions, Dict.get?_insert, if_neg (ne_of_distinct records distinct q hq).symm]
  have last : (Engine.claimed x r.stepId passed data).verdict r = passed := by
    have decided : (Engine.claimed x r.stepId passed data).decisions.get? r.id =
        some (Engine.decisionOf x r.stepId passed data) := by
      rw [decisions, Dict.get?_insert, if_pos rfl]
    exact verdict_of_decided decided
  refine ⟨s, found, h.workflowId, ?_⟩
  rw [show (Engine.claimed x r.stepId passed data).records = earlier ++ [r] from records]
  exact Walk.concat_iff.2 ⟨before.congr others, s, found, by rw [last]⟩

end Execution

/-! ## One call -/

/-- **A run continues the walk of its execution.** -/
theorem Underway.drive_heads {a : Stage MemoryStore} (injective : mint.Injective)
    (he : e.InMemory mint) (h : Underway mint world id a x) (heads : x.Heads w a.next) :
    ∃ z next, Settles mint world id (e.driveFrom w a) z ∧ z.Heads w next :=
  h.drive_keeps (K := fun next x => x.Heads w next) injective he Execution.Heads.grown
    Execution.Heads.apply heads

/-- **A decision continues the walk of its execution.** -/
theorem Takes.heads {passed : Bool} {data : Option Object} {earlier : List StepRecord}
    {r : StepRecord} {ended : Ended MemoryStore} {z : Execution} (injective : mint.Injective)
    (he : e.InMemory mint) (sound : Sound mint world)
    (takes : Takes mint e id passed data world x w earlier r ended z) (heads : x.Heads w next) :
    ∃ next, z.Heads w next := by
  obtain ⟨id_eq, rests⟩ := sound id x takes.resumable.stored
  obtain ⟨s, found, heads⟩ := heads.decided takes.waits rests.recorded.distinct passed data
  have underway := Engine.underway_decidedStage (e := e) rests takes.waits id_eq w passed data
  rw [← Engine.decidedStage_next passed data e id world found] at heads
  obtain ⟨z', next, settles, heads⟩ := underway.drive_heads injective he heads
  have same : z' = z := by
    have result := settles.result
    rw [takes.driven, takes.settles.result] at result
    exact (Except.ok.inj result).symm
  exact ⟨next, same ▸ heads⟩

/-! ## Histories -/

/-- One step in the history of a world where a workflow is registered. -/
def Keeps (mint : Nat → String) (w : Definition) (world next : World MemoryStore) : Prop :=
  world.store.workflows.get? w.id = some w ∧ Follows mint world next

/-- **A step in the history of a world keeps an execution on its walk.** -/
theorem Keeps.holds_heads {later : World MemoryStore} (injective : mint.Injective)
    (sound : Sound mint world) (h : Holds id (fun x => ∃ next, x.Heads w next) world)
    (keeps : Keeps mint w world later) : Holds id (fun x => ∃ next, x.Heads w next) later := by
  obtain ⟨registered, follows⟩ := keeps
  refine follows.holds injective sound h ?_
  rintro e passed data x v earlier r ended z he takes ⟨next, heads⟩
  obtain rfl := takes.resumable.workflow_eq heads.workflowId registered
  exact takes.heads injective he sound heads

/-- While a workflow stays registered, the history of an execution of it stays a walk. -/
theorem heads_of_keeps {later : World MemoryStore} (injective : mint.Injective)
    (sound : Sound mint world) (h : Holds id (fun x => ∃ next, x.Heads w next) world)
    (steps : Relation.ReflTransGen (Keeps mint w) world later) :
    Sound mint later ∧ Holds id (fun x => ∃ next, x.Heads w next) later :=
  sound.later injective (·.2) (fun sound keeps heads => keeps.holds_heads injective sound heads) h steps

/-- The execution of a new run is on a walk ever after, in sound worlds. -/
theorem Sound.run_heads (injective : mint.Injective) (he : e.InMemory mint) (sound : Sound mint world)
    (w : Definition) (r : Request) :
    ∃ first, (e.run w r world).1 = .ok first ∧
      ∀ later, Relation.ReflTransGen (Keeps mint w) (e.run w r world).2 later →
        Sound mint later ∧ Holds first.id (fun x => ∃ next, x.Heads w next) later := by
  have underway : Underway mint world _ (e.firstStage w r world) _ :=
    Engine.underway_firstStage he w r
  obtain ⟨first, next, settles, heads⟩ := underway.drive_heads (w := w) injective he
    ⟨rfl, .entry⟩
  rw [← Engine.runThrough_of_fresh he (sound.fresh injective)] at settles
  refine ⟨first, settles.result, fun later steps => heads_of_keeps injective (settles.sound sound) ?_ steps⟩
  exact settles.id_eq ▸ settles.holds ⟨next, heads⟩

end

/-- **The history of a run is a walk along the branches of its workflow**, through all decisions on it,
while the workflow stays registered. -/
theorem run_walks (mint : Nat → String) (world : World MemoryStore) (e : Engine MemoryStore)
    (w : Definition) (r : Request) (injective : mint.Injective) (he : e.InMemory mint)
    (reachable : Reachable mint world) :
    ∃ first, (e.run w r world).1 = .ok first ∧
      ∀ later, Relation.ReflTransGen (Keeps mint w) (e.run w r world).2 later →
        ∃ x, later.store.executions.get? first.id = some x ∧ x.Walks w := by
  obtain ⟨first, result, kept⟩ := (reachable.sound injective).run_heads injective he w r
  refine ⟨first, result, fun later steps => ?_⟩
  obtain ⟨x, stored, next, heads⟩ := (kept later steps).2
  exact ⟨x, stored, Execution.walks_of_walk heads.walk⟩

/-- The sample workflow, run and resumed once, has gone from its first step to its second. -/
theorem walks_signing : ∃ x, Sample.signing.store.executions.get? (Sample.mint 0) = some x ∧
    x.records.map (·.stepId) = ["review", "sign-off"] ∧ x.Walks Sample.workflow := by
  obtain ⟨first, ran, walks⟩ := run_walks Sample.mint Sample.start Sample.engine Sample.workflow
    Sample.request Sample.mint_injective Sample.inMemory ⟨Sample.start, rfl, .refl⟩
  have first_id : (Sample.engine.run Sample.workflow Sample.request Sample.start).1.toOption.map
      (·.id) = some (Sample.mint 0) := by decide +kernel
  rw [ran] at first_id
  have first_id : first.id = Sample.mint 0 := Option.some.inj first_id
  have registered : Sample.reviewing.store.workflows.get? Sample.workflow.id =
      some Sample.workflow := by decide +kernel
  obtain ⟨x, stored, walked⟩ := walks Sample.signing (.single ⟨registered, Sample.follows_signing⟩)
  rw [first_id] at stored
  have seen : (Sample.signing.store.executions.get? (Sample.mint 0)).map
      (fun x => x.records.map (·.stepId)) = some ["review", "sign-off"] := by decide +kernel
  rw [stored] at seen
  exact ⟨x, stored, Option.some.inj seen, walked⟩

end Workflows
