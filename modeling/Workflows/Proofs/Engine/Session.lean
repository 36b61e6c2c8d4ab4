import Mathlib.Data.List.Induction
import Workflows.Proofs.Engine.Reachable

/-!
# Sessions

A session is a list of calls that are made one after the other on one world, by any engines.

* `Call`: a call of an engine, or a change of the workflows; `Call.after`: the world after it;
* `Call.Concerns`: whether a call makes an execution or brings a decision to it;
* `Session.after`, `Session.gather`: the world after a session, and what its calls come to together;
* `Call.Does`: what a call does to one execution;
* **`Sound.does`**: every call does one of these things;
* `Reachable.session`: a session leads from reachable worlds to reachable ones.
-/

namespace Workflows

/-- A call of an engine on a store in memory, or a change of the workflows. -/
inductive Call where
  | run (e : Engine MemoryStore) (w : Definition) (r : Request)
  | resume (e : Engine MemoryStore) (id : String) (passed : Bool) (data : Option Object)
  | register (workflows : Dict Definition)

namespace Call

/-- The world after a call. -/
def after (world : World MemoryStore) : Call → World MemoryStore
  | .run e w r => (e.run w r world).2
  | .resume e id passed data => (e.resume id passed data world).2
  | .register workflows => { world with store := { world.store with workflows } }

/-- The engine of a call works on a store in memory and takes its ids from a source. -/
def InMemory (mint : Nat → String) : Call → Prop
  | .run e _ _ => e.InMemory mint
  | .resume e _ _ _ => e.InMemory mint
  | .register _ => True

/-- The call makes the execution `id`, or brings a decision to it. -/
def Concerns (id : String) (world : World MemoryStore) : Call → Prop
  | .run e _ _ => e.mint world.minted = id
  | .resume _ other _ _ => other = id
  | .register _ => False

instance (id : String) (world : World MemoryStore) : DecidablePred (Concerns id world)
  | .run e _ _ => inferInstanceAs (Decidable (e.mint world.minted = id))
  | .resume _ other _ _ => inferInstanceAs (Decidable (other = id))
  | .register _ => inferInstanceAs (Decidable False)

variable {mint : Nat → String} {world : World MemoryStore} {c : Call}

theorem InMemory.follows (h : c.InMemory mint) : Follows mint world (c.after world) := by
  cases c with
  | run e w r => exact .ran e h w r
  | resume e id passed data => exact .resumed e h id passed data
  | register workflows => exact .registered workflows

end Call

namespace Session

/-- The world after a list of calls. -/
def after (calls : List Call) (world : World MemoryStore) : World MemoryStore :=
  calls.foldl (fun world c => c.after world) world

/-- What calls come to together, by what each one comes to in the world where it is made. -/
def gather {β : Type} (f : World MemoryStore → Call → List β) :
    List Call → World MemoryStore → List β
  | [], _ => []
  | c :: rest, world => f world c ++ gather f rest (c.after world)

variable {β : Type} {mint : Nat → String}

@[simp] theorem after_nil (world : World MemoryStore) : after [] world = world := rfl

@[simp] theorem after_concat (calls : List Call) (c : Call) (world : World MemoryStore) :
    after (calls ++ [c]) world = c.after (after calls world) := by
  simp [after]

@[simp] theorem gather_concat (f : World MemoryStore → Call → List β) (calls : List Call) (c : Call)
    (world : World MemoryStore) :
    gather f (calls ++ [c]) world = gather f calls world ++ f (after calls world) c := by
  induction calls generalizing world with
  | nil => simp [gather]
  | cons d rest ih => simp [gather, after, ih]

/-- A session is a history. -/
theorem follows (calls : List Call) (world : World MemoryStore)
    (inMemory : ∀ c ∈ calls, c.InMemory mint) :
    Relation.ReflTransGen (Follows mint) world (after calls world) := by
  induction calls using List.reverseRecOn with
  | nil => exact .refl
  | append_singleton calls c ih =>
    rw [after_concat]
    exact (ih fun d hd => inMemory d (by simp [hd])).tail (inMemory c (by simp)).follows

end Session

theorem Reachable.session {mint : Nat → String} {world : World MemoryStore} {calls : List Call}
    (h : Reachable mint world) (inMemory : ∀ c ∈ calls, c.InMemory mint) :
    Reachable mint (Session.after calls world) := by
  obtain ⟨start, empty, steps⟩ := h
  exact ⟨start, empty, steps.trans (Session.follows calls world inMemory)⟩

/-! ## One call -/

/-- What a call does to the execution `id`. -/
inductive Call.Does (mint : Nat → String) (id : String) (world : World MemoryStore) : Call → Prop
  /-- It makes the execution. -/
  | makes {e : Engine MemoryStore} {w : Definition} {r : Request} {z : Execution} (he : e.InMemory mint)
      (own : mint world.minted = id) (fresh : world.store.executions.get? id = none)
      (settles : Settles mint world id (e.runThrough w r world) z) : Does mint id world (.run e w r)
  /-- It takes a decision on the execution. -/
  | takes {e : Engine MemoryStore} {passed : Bool} {data : Option Object} {x z : Execution}
      {w : Definition} {earlier : List StepRecord} {r : StepRecord} {ended : Ended MemoryStore}
      (he : e.InMemory mint) (takes : Takes mint e id passed data world x w earlier r ended z)
      (called : e.resume id passed data world = (.ok z, ended.progress.world)) :
      Does mint id world (.resume e id passed data)
  /-- It brings a decision to the execution, which is refused. -/
  | refuses {e : Engine MemoryStore} {passed : Bool} {data : Option Object} {fault : EngineError}
      (called : e.resume id passed data world = (.error fault, world)) :
      Does mint id world (.resume e id passed data)
  /-- It does not concern the execution. -/
  | spares {c : Call} (unconcerned : ¬ c.Concerns id world)
      (same : (c.after world).store.executions.get? id = world.store.executions.get? id) :
      Does mint id world c

section

variable {mint : Nat → String} {world : World MemoryStore} {e : Engine MemoryStore}

theorem Sound.run_does (injective : mint.Injective) (he : e.InMemory mint) (sound : Sound mint world)
    (id : String) (w : Definition) (r : Request) : Call.Does mint id world (.run e w r) := by
  obtain ⟨z, settles⟩ := sound.run_settles injective he w r
  by_cases own : mint world.minted = id
  · subst own
    exact .makes he rfl (sound.fresh injective) settles
  · refine .spares (fun concerns => own (by rw [← he.mint]; exact concerns)) ?_
    change (e.runThrough w r world).progress.world.store.executions.get? id = _
    rw [settles.store, MemoryStore.get?_set, if_neg own]

theorem Sound.resume_does (injective : mint.Injective) (he : e.InMemory mint)
    (sound : Sound mint world) (id other : String) (passed : Bool) (data : Option Object) :
    Call.Does mint id world (.resume e other passed data) := by
  have decides := sound.resume_decides injective he other passed data
  have called : e.resume other passed data world =
      ((e.resumeThrough other passed data world).1, (e.resumeThrough other passed data world).2.1) :=
    rfl
  generalize e.resumeThrough other passed data world = through at decides called
  by_cases same : other = id
  · subst same
    cases decides with
    | refused => exact .refuses called
    | taken takes => exact .takes he takes (by rw [called, takes.settles.result])
  · refine .spares same ?_
    change (e.resume other passed data world).2.store.executions.get? id = _
    rw [called]
    cases decides with
    | refused => rfl
    | taken takes => rw [takes.settles.store, MemoryStore.get?_set, if_neg same]

/-- **What a call does to an execution in a sound world.** -/
theorem Sound.does {c : Call} (injective : mint.Injective) (sound : Sound mint world)
    (inMemory : c.InMemory mint) (id : String) : c.Does mint id world := by
  cases c with
  | run e w r => exact sound.run_does injective inMemory id w r
  | resume e other passed data => exact sound.resume_does injective inMemory id other passed data
  | register workflows => exact .spares (fun concerns => concerns) rfl

end

end Workflows
