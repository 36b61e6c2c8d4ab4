import Mathlib.Data.List.Chain
import Workflows.Definition.Basic
import Workflows.Execution.Record

/-!
# Histories as walks

* `Execution.verdict`: whether a record counts as passed;
* `Execution.Leads`: a branch of a workflow leads from one record to another;
* `Execution.Walks`: a history goes along the branches of a workflow, from its entry;
* `Walk`: the same for a list of records, with the step where it leads; `Walk.concat_iff`;
* **`Execution.walks_of_walk`**: the one is true where the other is.
-/

namespace Workflows

namespace Execution

variable (x : Execution) (w : Definition)

/-- Whether a record counts as passed: by the decision on it, if there is one. -/
def verdict (r : StepRecord) : Bool :=
  match x.decisions.get? r.id with
  | some decision => decision.passed
  | none => r.passed

/-- The branch that a record's verdict takes leads to another record's step. -/
def Leads (r r' : StepRecord) : Prop :=
  ∃ s, w.find? r.stepId = some s ∧ s.next? (x.verdict r) = some r'.stepId

/-- The history goes along the branches of a workflow, from its first step. -/
structure Walks : Prop where
  entry : ∀ r, x.records.head? = some r → w.entry?.map (·.id) = some r.stepId
  branches : x.records.IsChain (x.Leads w)

variable {x} {r : StepRecord}

theorem verdict_of_undecided (undecided : x.decisions.get? r.id = none) : x.verdict r = r.passed := by
  unfold verdict
  rw [undecided]

theorem verdict_of_decided {decision : StepResult} (decided : x.decisions.get? r.id = some decision) :
    x.verdict r = decision.passed := by
  unfold verdict
  rw [decided]

end Execution

/-- Records along the branches of a workflow, from its first step, and the step where they lead. -/
inductive Walk (w : Definition) (verdict : StepRecord → Bool) : List StepRecord → Option String → Prop
  | entry : Walk w verdict [] (w.entry?.map (·.id))
  | step {rs : List StepRecord} {r : StepRecord} {s : Step}
      (walk : Walk w verdict rs (some r.stepId)) (found : w.find? r.stepId = some s) :
      Walk w verdict (rs ++ [r]) (s.next? (verdict r))

namespace Walk

variable {w : Definition} {verdict verdict' : StepRecord → Bool} {rs : List StepRecord} {r : StepRecord}
  {next : Option String}

theorem nil_iff : Walk w verdict [] next ↔ w.entry?.map (·.id) = next := by
  constructor
  · intro h
    generalize empty : [] = rs at h
    cases h with
    | entry => rfl
    | step => simp at empty
  · rintro rfl
    exact .entry

theorem concat_iff : Walk w verdict (rs ++ [r]) next ↔
    Walk w verdict rs (some r.stepId) ∧
      ∃ s, w.find? r.stepId = some s ∧ s.next? (verdict r) = next := by
  constructor
  · intro h
    generalize concat : rs ++ [r] = qs at h
    cases h with
    | entry => simp at concat
    | step walk found =>
      obtain ⟨rfl, last⟩ := List.append_inj' concat rfl
      cases last
      exact ⟨walk, _, found, rfl⟩
  · rintro ⟨walk, s, found, rfl⟩
    exact walk.step found

/-- A walk depends on the verdicts of its own records. -/
theorem congr (h : Walk w verdict rs next) (same : ∀ r ∈ rs, verdict r = verdict' r) :
    Walk w verdict' rs next := by
  induction h with
  | entry => exact .entry
  | step walk found ih =>
    rw [same _ (by simp)]
    exact (ih fun r hr => same r (by simp [hr])).step found

theorem head (h : Walk w verdict rs next) (first : rs.head? = some r) :
    w.entry?.map (·.id) = some r.stepId := by
  induction h with
  | entry => cases first
  | @step rs q s walk found ih =>
    cases rs with
    | nil =>
      cases first
      exact nil_iff.1 walk
    | cons p ps => exact ih first

theorem last (h : Walk w verdict rs next) (last : rs.getLast? = some r) :
    ∃ s, w.find? r.stepId = some s ∧ s.next? (verdict r) = next := by
  cases h with
  | entry => cases last
  | step walk found =>
    rw [List.getLast?_concat] at last
    cases last
    exact ⟨_, found, rfl⟩

end Walk

/-- **A history that is a walk goes along the branches of the workflow.** -/
theorem Execution.walks_of_walk {x : Execution} {w : Definition} {next : Option String}
    (h : Walk w x.verdict x.records next) : x.Walks w where
  entry _ first := h.head first
  branches := by
    generalize x.records = rs at h
    induction h with
    | entry => exact .nil
    | step walk found ih =>
      rw [List.isChain_append]
      refine ⟨ih, .singleton _, fun r last r' first => ?_⟩
      cases first
      exact walk.last last

end Workflows
