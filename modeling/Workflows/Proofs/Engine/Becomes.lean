import Workflows.Proofs.Engine.Reachable

/-!
# What becomes of an execution

The execution that a call gives is that of its run, changed at the last stage. So what every step of the
run keeps can be read off the execution.

* `Engine.Becomes`: what the execution of a run is changed to at the last stage;
* **`Sound.run_rule`**, **`Takes.drive_rule`**: what every step of a run keeps holds at the stage from which
  the execution comes that a call of `run`, or a decision, gives.
-/

namespace Workflows

namespace Engine

variable (e : Engine MemoryStore) (w : Definition)

/-- What the execution `x` of a run is changed to at the last stage. -/
inductive Becomes : Stage MemoryStore → Execution → Execution → Prop
  | closed {a : Stage MemoryStore} {x : Execution} {status : Status} {error : Option String}
      (closes : e.Closes w a status error) :
      Becomes a x (x.apply (e.finishUpdate a.progress status error))
  | paused {left : Nat} {stepId : String} {last : Verdict} {p : Progress MemoryStore} {x : Execution}
      {s : Step} (found : w.find? stepId = some s) (blocks : (e.outcomeOf s p).blocking = true) :
      Becomes ⟨left + 1, some stepId, last, p⟩ x
        ((e.grown s p x).apply (waitUpdate (e.advance s p x) s.id))

variable {e w}

theorem Leaves.becomes {a : Stage MemoryStore} {x z : Execution} {ended : Ended MemoryStore}
    (leaves : e.Leaves w a x ended) (result : ended.result = .ok z) : e.Becomes w a x z := by
  cases leaves with
  | closed closes =>
    cases result
    exact .closed closes
  | paused found blocks =>
    cases result
    exact .paused found blocks

end Engine

section

variable {mint : Nat → String} {world : World MemoryStore} {id : String} {e : Engine MemoryStore}
  {w : Definition} {z : Execution} {J : Stage MemoryStore → Execution → Prop}

theorem Sound.run_rule (injective : mint.Injective) (he : e.InMemory mint) (h : Sound mint world)
    (r : Request)
    (step : ∀ {left stepId last p x s},
      Underway mint world (mint world.minted) ⟨left + 1, some stepId, last, p⟩ x →
        J ⟨left + 1, some stepId, last, p⟩ x → w.find? stepId = some s →
          (e.outcomeOf s p).blocking = false → J (e.nextStage left s p x) (e.grown s p x))
    (start : J (e.firstStage w r world) (e.firstExecution w r world))
    (result : (e.run w r world).1 = .ok z) :
    ∃ b y, J b y ∧ e.Becomes w b y z := by
  obtain ⟨b, y, -, hJ, leaves⟩ :=
    (Engine.underway_firstStage he w r).drive_rule (w := w) injective he step start
  rw [← Engine.runThrough_of_fresh he (h.fresh injective)] at leaves
  exact ⟨b, y, hJ, leaves.becomes result⟩

theorem Takes.drive_rule {passed : Bool} {data : Option Object} {x : Execution}
    {earlier : List StepRecord} {r : StepRecord} {ended : Ended MemoryStore}
    (injective : mint.Injective) (he : e.InMemory mint) (sound : Sound mint world)
    (takes : Takes mint e id passed data world x w earlier r ended z)
    (step : ∀ {left stepId last p x s},
      Underway mint world id ⟨left + 1, some stepId, last, p⟩ x →
        J ⟨left + 1, some stepId, last, p⟩ x → w.find? stepId = some s →
          (e.outcomeOf s p).blocking = false → J (e.nextStage left s p x) (e.grown s p x))
    (start : J (Engine.decidedStage x r.stepId passed data e w id world)
      (Engine.claimed x r.stepId passed data)) :
    ∃ b y, J b y ∧ e.Becomes w b y z := by
  obtain ⟨id_eq, rests⟩ := sound id x takes.resumable.stored
  obtain ⟨b, y, -, hJ, leaves⟩ :=
    (Engine.underway_decidedStage (e := e) rests takes.waits id_eq w passed data).drive_rule (w := w)
      injective he step start
  rw [takes.driven] at leaves
  exact ⟨b, y, hJ, leaves.becomes takes.settles.result⟩

end

end Workflows
