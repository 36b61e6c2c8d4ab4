import Workflows.Engine.Run
import Workflows.Proofs.Engine.Course
import Workflows.Proofs.Store.Memory

/-!
# What every operation keeps

An engine changes a store by the operations of its repository only, so that what they keep of a store,
every call keeps, also where operations fail.

* `update_preserves`, `finish_preserves`, `pause_preserves`, `dispatch_preserves`: the parts of a run;
* **`run_preserves`**, **`resume_preserves`**: whole calls.
-/

namespace Workflows

namespace Engine

variable {σ : Type} {e : Engine σ} {P : σ → Prop} {w : Definition} (keeps : e.repository.Preserves P)

include keeps

theorem update_preserves (u : StatusUpdate) {p : Progress σ} (h : P p.world.store) :
    P (e.update u p).progress.world.store :=
  keeps.update _ _ _ _ h

theorem finish_preserves (status : Status) (error : Option String) {p : Progress σ}
    (h : P p.world.store) : P (e.finish status error p).progress.world.store :=
  update_preserves keeps _ (p := { p with world := (e.now p.world).2 }) h

theorem abandon_preserves (fault : EngineError) {p : Progress σ} (h : P p.world.store) :
    P (e.abandon fault p).progress.world.store :=
  finish_preserves keeps _ _ h

theorem pause_preserves (stepId : String) {p : Progress σ} (h : P p.world.store) :
    P (e.pause stepId p).progress.world.store := by
  have updated := update_preserves keeps { leaving p .paused with currentStep := some stepId } h
  unfold pause
  dsimp only
  split
  · exact updated
  · exact abandon_preserves keeps _ updated

theorem dispatch_preserves {s : Step} {p q : Progress σ} {result : Except EngineError Outcome}
    (dispatched : e.dispatch s p = (result, q)) (h : P p.world.store) : P q.world.store := by
  have appended := keeps.append (e.perform s p).2.2.ctx.executionId (e.perform s p).2.1
    (e.perform s p).2.2.world.store h
  unfold dispatch at dispatched
  dsimp only at dispatched
  split at dispatched
  · cases dispatched
    exact appended
  · cases dispatched
    exact appended

theorem passes_preserves {a b : Stage σ} (pass : e.Passes w a b) (h : P a.progress.world.store) :
    P b.progress.world.store := by
  obtain ⟨-, dispatched, -⟩ := pass
  exact dispatch_preserves keeps dispatched h

theorem ends_preserves {a : Stage σ} {ended : Ended σ} (ends : e.Ends w a ended)
    (h : P a.progress.world.store) : P ended.progress.world.store := by
  cases ends with
  | closed => exact finish_preserves keeps _ _ h
  | faulted _ dispatched => exact abandon_preserves keeps _ (dispatch_preserves keeps dispatched h)
  | paused _ dispatched => exact pause_preserves keeps _ (dispatch_preserves keeps dispatched h)

theorem drive_preserves (left : Nat) (next : Option String) (last : Verdict) {p : Progress σ}
    (h : P p.world.store) : P (e.drive w left next last p).progress.world.store := by
  obtain ⟨b, passes, ends⟩ := e.drive_course (w := w) ⟨left, next, last, p⟩
  refine ends_preserves keeps ends ?_
  clear ends
  induction passes with
  | refl => exact h
  | tail _ pass ih => exact passes_preserves keeps pass ih

theorem proceed_preserves (stepId : String) (passed : Bool) (data : Option Object) {p : Progress σ}
    (h : P p.world.store) : P (e.proceed w stepId passed data p).progress.world.store := by
  unfold proceed
  split
  · exact finish_preserves keeps _ _ h
  · exact drive_preserves keeps _ _ _ h

/-- **What every operation keeps, a call of `run` keeps.** -/
theorem run_preserves (r : Request) {world : World σ} (h : P world.store) :
    P (e.run w r world).2.store := by
  have created := keeps.create (newExecution w r (e.mint world.minted) (e.clock world.readings))
    world.store h
  unfold run runThrough freshId now
  dsimp only
  split
  · exact created
  · exact drive_preserves keeps _ _ _ created

/-- **What every operation keeps, a call of `resume` keeps.** -/
theorem resume_preserves (id : String) (passed : Bool) (data : Option Object) {world : World σ}
    (h : P world.store) : P (e.resume id passed data world).2.store := by
  change P (e.resumeThrough id passed data world).2.1.store
  unfold resumeThrough
  split
  · exact h
  · next x v stepId _ =>
    have updated := keeps.update id .paused
      (claim x stepId ((Context.restore x).decide stepId passed data)) world.store h
    dsimp only
    split
    · exact updated
    · exact proceed_preserves keeps _ _ _ updated

end Engine

end Workflows
