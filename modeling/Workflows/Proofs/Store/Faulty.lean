import Workflows.Store.Faulty

/-!
# Faults of a plan

* `FaultPlan.faults`: the faults that a plan has had for the calls made on a store;
* `eq_some_of_faults`, `eq_none_of_faults`: where the one fault of some calls was, and where it was not;
* `call_of_none`, `call_of_some`: what a call comes to where the plan has no fault, and where it has one.
-/

namespace Workflows

namespace FaultPlan

/-- The faults that a plan has for calls, latest first. -/
def faults (plan : FaultPlan) : List StoreCall → List EngineError
  | [] => []
  | c :: before => (plan before c).toList ++ faults plan before

variable {plan : FaultPlan} {before : List StoreCall} {c : StoreCall} {fault other : EngineError}
  {earlier : List EngineError}

theorem faults_of_none (h : plan before c = none) : faults plan (c :: before) = faults plan before := by
  simp [faults, h]

theorem faults_of_some (h : plan before c = some fault) :
    faults plan (c :: before) = fault :: faults plan before := by
  simp [faults, h]

/-- Where the latest call brings a fault, it had it. -/
theorem eq_some_of_faults (one : plan.faults (c :: before) = fault :: plan.faults before) :
    plan before c = some fault := by
  cases h : plan before c with
  | none =>
    rw [faults_of_none h] at one
    exact absurd one.symm (List.cons_ne_self _ _)
  | some other =>
    rw [faults_of_some h] at one
    exact congrArg some (List.cons.inj one).1

/-- After the one fault there is no other. -/
theorem eq_none_of_faults (one : plan.faults (c :: before) = fault :: earlier)
    (had : plan.faults before = other :: earlier) : plan before c = none ∧ other = fault := by
  cases h : plan before c with
  | none =>
    rw [faults_of_none h, had] at one
    exact ⟨rfl, (List.cons.inj one).1⟩
  | some further =>
    rw [faults_of_some h, had] at one
    exact absurd (List.cons.inj one).2 (List.cons_ne_self _ _)

end FaultPlan

namespace FaultyStore

variable {σ α : Type} {plan : FaultPlan} {c : StoreCall} {s : FaultyStore σ} {fault : EngineError}

theorem call_of_none (f : σ → Except EngineError α × σ) (h : plan s.calls c = none) :
    call plan c f s = ((f s.inner).1, ⟨(f s.inner).2, c :: s.calls⟩) := by
  unfold call
  rw [h]

theorem call_of_some (f : σ → Except EngineError α × σ) (h : plan s.calls c = some fault) :
    call plan c f s = (.error fault, ⟨s.inner, c :: s.calls⟩) := by
  unfold call
  rw [h]

end FaultyStore

end Workflows
