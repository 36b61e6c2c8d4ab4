import Workflows.Proofs.Engine.Calls

/-!
# Reachable worlds

What holds after any calls of engines on a store in memory that nothing else changes.

* `Follows`: one call of an engine, or a change of the workflows; `Reachable`: what such steps lead to from
  a store without executions;
* `Sound`: every stored execution has the id that it is stored under, and is at rest;
* `Takes`, `Decides`: what a decision comes to;
* `Sound.run_settles`, `Sound.resume_decides`: what a call comes to in a sound world;
* **`Reachable.sound`**: reachable worlds are sound; `Sound.later`: what every step keeps holds ever after;
* **`Follows.holds`**: what decisions on an execution keep holds of it after every step.
-/

namespace Workflows

variable {mint : Nat → String} {world : World MemoryStore} {e : Engine MemoryStore}

/-- One step in the history of a world: a call of an engine, or a change of the workflows. -/
inductive Follows (mint : Nat → String) : World MemoryStore → World MemoryStore → Prop
  | ran {world : World MemoryStore} (e : Engine MemoryStore) (he : e.InMemory mint) (w : Definition)
      (r : Request) : Follows mint world (e.run w r world).2
  | resumed {world : World MemoryStore} (e : Engine MemoryStore) (he : e.InMemory mint) (id : String)
      (passed : Bool) (data : Option Object) : Follows mint world (e.resume id passed data world).2
  | registered {world : World MemoryStore} (workflows : Dict Definition) :
      Follows mint world { world with store := { world.store with workflows } }

/-- What engines have led to from a store without executions. -/
def Reachable (mint : Nat → String) (world : World MemoryStore) : Prop :=
  ∃ start : World MemoryStore, start.store.executions = {} ∧
    Relation.ReflTransGen (Follows mint) start world

/-- Every stored execution has the id that it is stored under, and is at rest. -/
def Sound (mint : Nat → String) (world : World MemoryStore) : Prop :=
  ∀ id x, world.store.executions.get? id = some x → x.id = id ∧ x.Rests mint world.minted

/-- A call that leaves an execution at rest keeps the world sound. -/
theorem Settles.sound {id : String} {ended : Ended MemoryStore} {z : Execution}
    (h : Settles mint world id ended z) (sound : Sound mint world) :
    Sound mint ended.progress.world := by
  intro id' x stored
  rw [h.store, MemoryStore.get?_set] at stored
  by_cases same : id = id'
  · rw [if_pos same] at stored
    cases stored
    exact ⟨h.id_eq.trans same, h.rests⟩
  · rw [if_neg same] at stored
    exact ⟨(sound id' x stored).1, (sound id' x stored).2.mono h.minted⟩

namespace Sound

/-- An id that was not made yet is no execution's. -/
theorem fresh (injective : mint.Injective) (h : Sound mint world) :
    world.store.executions.get? (mint world.minted) = none := by
  cases stored : world.store.executions.get? (mint world.minted) with
  | none => rfl
  | some x =>
    obtain ⟨id_eq, rests⟩ := h _ x stored
    obtain ⟨k, hk, e⟩ := rests.made
    have := injective (id_eq.symm.trans e)
    omega

theorem run_settles (injective : mint.Injective) (he : e.InMemory mint) (h : Sound mint world)
    (w : Definition) (r : Request) :
    ∃ z, Settles mint world (mint world.minted) (e.runThrough w r world) z := by
  rw [Engine.runThrough_of_fresh he (h.fresh injective)]
  exact (Engine.underway_firstStage he w r).drive_settles injective he w

/-- An execution that a decision can be brought to waits for one. -/
theorem waits {id stepId : String} {x : Execution} {w : Definition} (h : Sound mint world)
    (resumable : Resumable world.store id x w stepId) :
    ∃ earlier r, x.Waits earlier r ∧ stepId = r.stepId := by
  rcases (h _ x resumable.stored).2.state with ⟨earlier, r, waits⟩ | finished
  · refine ⟨earlier, r, waits, ?_⟩
    have cursor := waits.cursor
    rw [resumable.cursor] at cursor
    exact Option.some.inj cursor
  · have cursor := finished.cursor
    rw [resumable.cursor] at cursor
    cases cursor

end Sound

/-- A decision is taken on the execution `x`, which waits for one on the record `r`, and its run leaves the
execution as `z`. -/
structure Takes (mint : Nat → String) (e : Engine MemoryStore) (id : String) (passed : Bool)
    (data : Option Object) (world : World MemoryStore) (x : Execution) (w : Definition)
    (earlier : List StepRecord) (r : StepRecord) (ended : Ended MemoryStore) (z : Execution) :
    Prop where
  resumable : Resumable world.store id x w r.stepId
  waits : x.Waits earlier r
  driven : e.driveFrom w (Engine.decidedStage x r.stepId passed data e w id world) = ended
  settles : Settles mint world id ended z
  decisions : z.decisions = x.decisions.insert r.id (Engine.decisionOf x r.stepId passed data)

/-- What a decision comes to: it is refused, or taken. -/
inductive Decides (mint : Nat → String) (e : Engine MemoryStore) (id : String) (passed : Bool)
    (data : Option Object) (world : World MemoryStore) :
    Except EngineError Execution × World MemoryStore × Option (Progress MemoryStore) → Prop
  | refused {fault : EngineError} (refused : e.paused id world.store = .error fault) :
      Decides mint e id passed data world (.error fault, world, none)
  | taken {x z : Execution} {w : Definition} {earlier : List StepRecord} {r : StepRecord}
      {ended : Ended MemoryStore} (takes : Takes mint e id passed data world x w earlier r ended z) :
      Decides mint e id passed data world (ended.result, ended.progress.world, some ended.progress)

theorem Sound.resume_decides (injective : mint.Injective) (he : e.InMemory mint)
    (h : Sound mint world) (id : String) (passed : Bool) (data : Option Object) :
    Decides mint e id passed data world (e.resumeThrough id passed data world) := by
  cases paused : e.paused id world.store with
  | error fault =>
    rw [Engine.resumeThrough_of_refused passed data paused]
    exact .refused paused
  | ok found =>
    obtain ⟨x, w, stepId⟩ := found
    have resumable := (Engine.paused_eq_ok_iff he).1 paused
    obtain ⟨earlier, r, waits, rfl⟩ := h.waits resumable
    obtain ⟨id_eq, rests⟩ := h _ x resumable.stored
    have underway := Engine.underway_decidedStage (e := e) rests waits id_eq w passed data
    obtain ⟨z, settles, decisions⟩ := underway.drive_decisions injective he w
    have last := Execution.lastRecord?_concat waits.records
    rw [Engine.resumeThrough_of_resumable passed data he resumable]
    exact .taken ⟨resumable, waits, rfl, settles,
      decisions.trans (Engine.claimed_decisions passed data last)⟩

/-! ## Histories -/

theorem Follows.sound {next : World MemoryStore} (injective : mint.Injective)
    (h : Sound mint world) (follows : Follows mint world next) : Sound mint next := by
  cases follows with
  | ran e he w r =>
    obtain ⟨z, settles⟩ := h.run_settles injective he w r
    exact settles.sound h
  | resumed e he id passed data =>
    have decides := h.resume_decides injective he id passed data
    unfold Engine.resume
    generalize e.resumeThrough id passed data world = called at decides ⊢
    cases decides with
    | refused => exact h
    | taken takes => exact takes.settles.sound h
  | registered workflows => exact h

/-- **Reachable worlds are sound.** -/
theorem Reachable.sound (injective : mint.Injective) (h : Reachable mint world) :
    Sound mint world := by
  obtain ⟨start, empty, steps⟩ := h
  induction steps with
  | refl =>
    intro id x stored
    rw [empty] at stored
    cases stored
  | tail _ follows ih => exact follows.sound injective ih

/-- **What every step from a sound world keeps holds ever after.** -/
theorem Sound.later {R : World MemoryStore → World MemoryStore → Prop} {Q : World MemoryStore → Prop}
    {later : World MemoryStore} (injective : mint.Injective) (sound : Sound mint world)
    (follows : ∀ {a b}, R a b → Follows mint a b) (step : ∀ {a b}, Sound mint a → R a b → Q a → Q b)
    (h : Q world) (steps : Relation.ReflTransGen R world later) : Sound mint later ∧ Q later := by
  -- soundness is carried along, as a step needs it of the world that it starts from
  induction steps with
  | refl => exact ⟨sound, h⟩
  | tail _ next ih => exact ⟨(follows next).sound injective ih.1, step ih.1 next ih.2⟩

/-! ## One execution -/

/-- An execution with a property is stored under an id. -/
def Holds (id : String) (P : Execution → Prop) (world : World MemoryStore) : Prop :=
  ∃ x, world.store.executions.get? id = some x ∧ P x

section

variable {id : String} {P : Execution → Prop} {ended : Ended MemoryStore} {z : Execution}

theorem Settles.holds (settles : Settles mint world id ended z) (h : P z) :
    Holds id P ended.progress.world :=
  ⟨z, by rw [settles.store, MemoryStore.get?_set, if_pos rfl], h⟩

/-- A call that leaves one execution at rest does not change another. -/
theorem Settles.holds_of_ne {other : String} (settles : Settles mint world other ended z)
    (ne : other ≠ id) (h : Holds id P world) : Holds id P ended.progress.world := by
  obtain ⟨x, stored, hx⟩ := h
  exact ⟨x, by rw [settles.store, MemoryStore.get?_set, if_neg ne, stored], hx⟩

/-- **What decisions on an execution keep holds of it after every step.** -/
theorem Follows.holds {next : World MemoryStore} (injective : mint.Injective)
    (sound : Sound mint world) (h : Holds id P world)
    (decided : ∀ {e passed data x w earlier r ended z}, e.InMemory mint →
      Takes mint e id passed data world x w earlier r ended z → P x → P z)
    (follows : Follows mint world next) : Holds id P next := by
  cases follows with
  | ran e he w r =>
    obtain ⟨z, settles⟩ := sound.run_settles injective he w r
    refine settles.holds_of_ne (fun same => ?_) h
    obtain ⟨x, stored, -⟩ := h
    rw [← same, sound.fresh injective] at stored
    cases stored
  | resumed e he other passed data =>
    have decides := sound.resume_decides injective he other passed data
    unfold Engine.resume
    generalize e.resumeThrough other passed data world = called at decides ⊢
    cases decides with
    | refused => exact h
    | taken takes =>
      by_cases same : other = id
      · subst same
        obtain ⟨x, stored, hx⟩ := h
        rw [takes.resumable.stored] at stored
        cases stored
        exact takes.settles.holds (decided he takes hx)
      · exact takes.settles.holds_of_ne same h
  | registered workflows => exact h

end

end Workflows
