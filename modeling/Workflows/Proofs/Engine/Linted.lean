import Workflows.Proofs.Definition.Lint
import Workflows.Proofs.Engine.Walk

/-!
# Runs of definitions without errors

What is found about a definition is sound for its runs: where there is no error, no run ends because a step
is missing or carries out a step of an unknown kind, and a step that is reported as unreachable is never
carried out.

* `Engine.Finds`: a run finds every step that it comes upon; `Engine.finds_of_clean`;
* `RunFinds`, `ResumeFinds`: so does a call of `run`, and a decision that is taken;
* `Walk.mem_reachable`: the records of a walk are of reachable steps;
* **`lint_sound`**: a run of a workflow, and all decisions on it while the workflow stays registered.
-/

namespace Workflows

namespace Engine

variable {σ : Type} (e : Engine σ) (w : Definition)

/-- A run from a stage finds every step that it comes upon, and each is of a kind that can be carried out.
So the stage where it ends is not one whose step is missing. -/
structure Finds (a : Stage σ) (ended : Ended σ) : Prop where
  ends : ∃ b, Relation.ReflTransGen (e.Passes w) a b ∧ e.Ends w b ended
  found : ∀ b, Relation.ReflTransGen (e.Passes w) a b → ∀ t, b.next = some t →
    ∃ s, w.find? t = some s ∧ s.kind.isKnown = true

variable {e w}

/-- A run of a definition without errors finds every step, if it finds the first. -/
theorem finds_of_clean (clean : w.Clean) {a : Stage σ}
    (start : ∀ t, a.next = some t → (w.find? t).isSome = true) : e.Finds w a (e.driveFrom w a) := by
  refine ⟨drive_course a, fun b passes => ?_⟩
  have there : ∀ t, b.next = some t → (w.find? t).isSome = true := by
    induction passes with
    | refl => exact start
    | tail _ pass _ =>
      obtain ⟨found, -, -⟩ := pass
      exact fun t next => clean.find?_target (Definition.mem_steps_of_find? found) next
  intro t next
  obtain ⟨s, found⟩ := Option.isSome_iff_exists.1 (there t next)
  exact ⟨s, found, clean.isKnown_of_find? found⟩

end Engine

/-- A new run finds every step that it comes upon. -/
def RunFinds (e : Engine MemoryStore) (w : Definition) (r : Request) (world : World MemoryStore) : Prop :=
  e.Finds w (e.firstStage w r world) (e.runThrough w r world)

/-- A decision that is taken on an execution `x` finds the step that it is on, and its run finds every step
that it comes upon. -/
structure ResumeFinds (e : Engine MemoryStore) (w : Definition) (x : Execution) (stepId : String)
    (passed : Bool) (data : Option Object) (world : World MemoryStore) : Prop where
  decided : (w.find? stepId).isSome = true
  goesOn : ∃ ended : Ended MemoryStore,
    e.resumeThrough x.id passed data world =
      (ended.result, ended.progress.world, some ended.progress) ∧
    e.Finds w (Engine.decidedStage x stepId passed data e w x.id world) ended

section

variable {mint : Nat → String} {world : World MemoryStore} {e : Engine MemoryStore} {w : Definition}
  {x : Execution} {next : Option String}

theorem Sound.runFinds (injective : mint.Injective) (he : e.InMemory mint) (sound : Sound mint world)
    (clean : w.Clean) (r : Request) : RunFinds e w r world := by
  unfold RunFinds
  rw [Engine.runThrough_of_fresh he (sound.fresh injective)]
  refine Engine.finds_of_clean clean fun t entry => ?_
  obtain ⟨s, first, rfl⟩ := Option.map_eq_some_iff.1 entry
  exact Definition.isSome_find?_iff.2 ⟨s, List.mem_of_head? first, rfl⟩

/-- A decision that can be taken on an execution whose history is a walk finds its step. -/
theorem Sound.resumeFinds {id stepId : String} (he : e.InMemory mint) (sound : Sound mint world)
    (clean : w.Clean) (resumable : Resumable world.store id x w stepId) (heads : x.Heads w next)
    (passed : Bool) (data : Option Object) : ResumeFinds e w x stepId passed data world := by
  obtain ⟨rfl, rests⟩ := sound id x resumable.stored
  obtain ⟨earlier, r, waits, rfl⟩ := sound.waits resumable
  obtain ⟨s, found, -⟩ := heads.decided waits rests.recorded.distinct passed data
  refine ⟨by rw [found]; rfl, _, Engine.resumeThrough_of_resumable passed data he resumable,
    Engine.finds_of_clean clean fun t next => ?_⟩
  rw [Engine.decidedStage_next passed data e x.id world found] at next
  exact clean.find?_target (Definition.mem_steps_of_find? found) next

/-- **The records of a walk are of reachable steps**, and so is the step where it leads, if it is there. -/
theorem Walk.mem_reachable {verdict : StepRecord → Bool} {rs : List StepRecord} (h : Walk w verdict rs next) :
    (∀ r ∈ rs, r.stepId ∈ w.reachable) ∧
      ∀ t, next = some t → (w.find? t).isSome = true → t ∈ w.reachable := by
  induction h with
  | entry =>
    refine ⟨by simp, fun t entry _ => ?_⟩
    obtain ⟨s, first, rfl⟩ := Option.map_eq_some_iff.1 entry
    exact Definition.entry_mem_reachable first
  | @step rs r s _ found ih =>
    have reached : r.stepId ∈ w.reachable := ih.2 r.stepId rfl (by rw [found]; rfl)
    refine ⟨fun q mem => ?_, fun t leads there =>
      Definition.mem_reachable_of_next? reached found leads there⟩
    rcases List.mem_append.1 mem with mem | last
    · exact ih.1 q mem
    · rw [List.mem_singleton.1 last]
      exact reached

end

/-- **What is found about a definition is sound for its runs.** If there are no errors, a run of it, and every
decision on the run while the definition stays registered, finds every step that it comes upon, and each is
of a known kind. And a step that is reported as unreachable is in none of the records. -/
theorem lint_sound (mint : Nat → String) (world : World MemoryStore) (e : Engine MemoryStore)
    (w : Definition) (r : Request) (injective : mint.Injective) (he : e.InMemory mint)
    (reachable : Reachable mint world) :
    (w.Clean → RunFinds e w r world) ∧
    ∃ first, (e.run w r world).1 = .ok first ∧
      ∀ later, Relation.ReflTransGen (Keeps mint w) (e.run w r world).2 later →
        (w.Clean → later.store.workflows.get? w.id = some w →
          ∀ (e' : Engine MemoryStore) passed data x v stepId, e'.InMemory mint →
            e'.paused first.id later.store = .ok (x, v, stepId) →
              v = w ∧ x.id = first.id ∧ ResumeFinds e' w x stepId passed data later) ∧
        ∃ x, later.store.executions.get? first.id = some x ∧
          ∀ id, .unreachable id ∈ w.lint → ∀ q ∈ x.records, q.stepId ≠ id := by
  have sound := reachable.sound injective
  obtain ⟨first, result, kept⟩ := sound.run_heads injective he w r
  refine ⟨fun clean => sound.runFinds injective he clean r, first, result, fun later steps => ?_⟩
  obtain ⟨sound', x, stored, next, heads⟩ := kept later steps
  refine ⟨fun clean registered e' passed data y v stepId he' paused => ?_, x, stored,
    fun id reported q mem same => ?_⟩
  · have resumable := (Engine.paused_eq_ok_iff he').1 paused
    obtain rfl : x = y := Option.some.inj (stored.symm.trans resumable.stored)
    have looked := resumable.registered
    rw [heads.workflowId, registered] at looked
    obtain rfl := Option.some.inj looked
    exact ⟨rfl, (sound' _ x stored).1, sound'.resumeFinds he' clean resumable heads passed data⟩
  · obtain ⟨-, apart⟩ := Definition.not_reachable_of_lint reported
    exact apart (same ▸ heads.walk.mem_reachable.1 q mem)

/-- The sample workflow with one more approval, to which no branch leads. -/
def Sample.padded : Definition :=
  { workflow with steps := workflow.steps ++ [approval "archive" none] }

/-- The padded workflow waits for its first approval; what is found about it is the step that no branch leads
to, and a decision on the first approval finds what it comes upon. -/
theorem lint_sound_padded :
    let start : World MemoryStore := .start (MemoryStore.empty.register Sample.padded)
    let later := (Sample.engine.run Sample.padded Sample.request start).2
    Sample.padded.lint = [.unreachable "archive"] ∧
    RunFinds Sample.engine Sample.padded Sample.request start ∧
    ∃ x, later.store.executions.get? (Sample.mint 0) = some x ∧
      ResumeFinds Sample.engine Sample.padded x "review" true none later ∧
      ∀ q ∈ x.records, q.stepId ≠ "archive" := by
  intro start later
  have found : Sample.padded.lint = [.unreachable "archive"] := by decide +kernel
  have clean : Sample.padded.Clean := by rw [Definition.Clean, found]; decide
  obtain ⟨runs, first, ran, kept⟩ := lint_sound Sample.mint start Sample.engine Sample.padded
    Sample.request Sample.mint_injective Sample.inMemory ⟨start, rfl, .refl⟩
  have first_id : (Sample.engine.run Sample.padded Sample.request start).1.toOption.map (·.id) =
      some (Sample.mint 0) := by decide +kernel
  rw [ran] at first_id
  have first_id : first.id = Sample.mint 0 := Option.some.inj first_id
  obtain ⟨resumes, x, stored, apart⟩ := kept later .refl
  rw [first_id] at resumes stored
  have registered : later.store.workflows.get? Sample.padded.id = some Sample.padded := by decide +kernel
  have seen : (later.store.executions.get? (Sample.mint 0)).map
      (fun x => (x.status, x.workflowId, x.currentStep)) =
        some (.paused, Sample.padded.id, some "review") := by decide +kernel
  rw [stored] at seen
  obtain ⟨status, named⟩ := Prod.mk.inj (Option.some.inj seen)
  obtain ⟨workflowId, cursor⟩ := Prod.mk.inj named
  have paused := (Engine.paused_eq_ok_iff Sample.inMemory).2
    (⟨stored, status, by rw [workflowId, registered], cursor⟩ :
      Resumable later.store (Sample.mint 0) x Sample.padded "review")
  obtain ⟨-, -, finds⟩ := resumes clean registered Sample.engine true none x Sample.padded "review"
    Sample.inMemory paused
  have reported : .unreachable "archive" ∈ Sample.padded.lint := by
    rw [found]
    exact List.mem_singleton_self _
  exact ⟨found, runs clean, x, stored, finds, apart "archive" reported⟩

end Workflows
