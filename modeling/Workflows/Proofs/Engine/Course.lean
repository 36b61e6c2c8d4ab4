import Mathlib.Logic.Relation
import Workflows.Engine.Drive

/-!
# The course of a run

Between two steps a run stands at a stage. It goes from stage to stage by steps after which it may go on,
and ends at the first stage without such a step.

* `Stage`: how many steps a call may still carry out, which step is next, what the latest one came to,
  and the run so far;
* `Passes`: one step is carried out and recorded, and the run goes on;
* `Closes`: with what status and error a run ends at a stage without a further step;
* `Ends`: the end of a run at a stage;
* **`drive_course`**: a run passes from stage to stage and ends at the last of them;
* `driveFrom_of_passes`, `driveFrom_of_closes`, `driveFrom_of_blocks`: how it goes on from each stage.
-/

namespace Workflows

/-- Where a run stands between two steps. -/
structure Stage (σ : Type) where
  left : Nat
  next : Option String
  last : Verdict
  progress : Progress σ

namespace Engine

variable {σ : Type} (e : Engine σ) (w : Definition)

/-- Goes on from a stage. -/
def driveFrom (a : Stage σ) : Ended σ := e.drive w a.left a.next a.last a.progress

/-- One step is carried out and recorded, and the run goes on. -/
inductive Passes : Stage σ → Stage σ → Prop
  | step {left : Nat} {stepId : String} {last : Verdict} {p q : Progress σ} {s : Step} {o : Outcome}
      (found : w.find? stepId = some s) (dispatched : e.dispatch s p = (.ok o, q))
      (free : o.blocking = false) :
      Passes ⟨left + 1, some stepId, last, p⟩ ⟨left, s.next? o.passed, ⟨o.passed, o.reason?⟩, q⟩

/-- With what status and error a run ends at a stage where no further step is carried out. -/
inductive Closes : Stage σ → Status → Option String → Prop
  | succeeded {left : Nat} {last : Verdict} {p : Progress σ} (passed : last.passed = true) :
      Closes ⟨left, none, last, p⟩ .succeeded none
  | failed {left : Nat} {last : Verdict} {p : Progress σ} (failed : last.passed = false) :
      Closes ⟨left, none, last, p⟩ .failed last.failure
  | exhausted {stepId : String} {last : Verdict} {p : Progress σ} :
      Closes ⟨0, some stepId, last, p⟩ .failed (some e.limitExceeded)
  | missing {left : Nat} {stepId : String} {last : Verdict} {p : Progress σ}
      (missing : w.find? stepId = none) :
      Closes ⟨left + 1, some stepId, last, p⟩ .failed (some (missingStep stepId))

/-- The end of a run at a stage. -/
inductive Ends : Stage σ → Ended σ → Prop
  | closed {a : Stage σ} {status : Status} {error : Option String}
      (closes : e.Closes w a status error) : Ends a (e.finish status error a.progress)
  | faulted {left : Nat} {stepId : String} {last : Verdict} {p q : Progress σ} {s : Step}
      {fault : EngineError} (found : w.find? stepId = some s)
      (dispatched : e.dispatch s p = (.error fault, q)) :
      Ends ⟨left + 1, some stepId, last, p⟩ (e.abandon fault q)
  | paused {left : Nat} {stepId : String} {last : Verdict} {p q : Progress σ} {s : Step} {o : Outcome}
      (found : w.find? stepId = some s) (dispatched : e.dispatch s p = (.ok o, q))
      (blocks : o.blocking = true) :
      Ends ⟨left + 1, some stepId, last, p⟩ (e.pause s.id q)

variable {e w}

/-- A run without a further step ends by what the latest step came to. -/
theorem ends_settle (left : Nat) (last : Verdict) (p : Progress σ) :
    e.Ends w ⟨left, none, last, p⟩ (e.settle last p) := by
  unfold settle
  split
  · exact .closed (.succeeded ‹_›)
  · exact .closed (.failed (Bool.eq_false_iff.2 ‹_›))

/-- **A run passes from stage to stage and ends at the last of them.** -/
theorem drive_course (a : Stage σ) :
    ∃ b, Relation.ReflTransGen (e.Passes w) a b ∧ e.Ends w b (e.driveFrom w a) := by
  obtain ⟨left, next, last, p⟩ := a
  unfold driveFrom
  dsimp only
  -- the steps that are left bound the passes; verdict, branch and progress change with each of them
  induction left generalizing next last p with
  | zero =>
    refine ⟨_, .refl, ?_⟩
    cases next with
    | none => rw [drive]; exact ends_settle 0 last p
    | some stepId => rw [drive]; exact .closed (a := ⟨0, some stepId, last, p⟩) .exhausted
  | succ left ih =>
    cases next with
    | none => exact ⟨_, .refl, by rw [drive]; exact ends_settle _ last p⟩
    | some stepId =>
      rw [drive]
      split
      · exact ⟨_, .refl, .closed (a := ⟨left + 1, some stepId, last, p⟩) (.missing ‹_›)⟩
      · next s found =>
        split
        · exact ⟨_, .refl, .faulted found ‹_›⟩
        · next o q dispatched =>
          by_cases blocks : o.blocking = true
          · rw [if_pos blocks]
            exact ⟨_, .refl, .paused found dispatched blocks⟩
          · rw [if_neg blocks]
            have pass : e.Passes w ⟨left + 1, some stepId, last, p⟩ _ :=
              .step found dispatched (Bool.eq_false_iff.2 blocks)
            obtain ⟨b, passes, ends⟩ := ih _ _ _
            exact ⟨b, passes.head pass, ends⟩

/-- A run goes the same way on from a later stage. -/
theorem driveFrom_of_passes {a b : Stage σ} (pass : e.Passes w a b) :
    e.driveFrom w a = e.driveFrom w b := by
  obtain ⟨found, dispatched, free⟩ := pass
  simp only [driveFrom, drive, found, dispatched, free, Bool.false_eq_true, if_false]

theorem driveFrom_of_course {a b : Stage σ} (passes : Relation.ReflTransGen (e.Passes w) a b) :
    e.driveFrom w a = e.driveFrom w b := by
  induction passes with
  | refl => rfl
  | tail _ pass ih => exact ih.trans (driveFrom_of_passes pass)

theorem driveFrom_of_closes {a : Stage σ} {status : Status} {error : Option String}
    (closes : e.Closes w a status error) : e.driveFrom w a = e.finish status error a.progress := by
  cases closes with
  | succeeded passed => simp only [driveFrom, drive, settle, passed, if_true]
  | failed failed => simp only [driveFrom, drive, settle, failed, Bool.false_eq_true, if_false]
  | exhausted => rfl
  | missing missing => simp only [driveFrom, drive, missing]

theorem driveFrom_of_blocks {left : Nat} {stepId : String} {last : Verdict} {p q : Progress σ}
    {s : Step} {o : Outcome} (found : w.find? stepId = some s)
    (dispatched : e.dispatch s p = (.ok o, q)) (blocks : o.blocking = true) :
    e.driveFrom w ⟨left + 1, some stepId, last, p⟩ = e.pause s.id q := by
  simp only [driveFrom, drive, found, dispatched, blocks, if_true]

end Engine

end Workflows
