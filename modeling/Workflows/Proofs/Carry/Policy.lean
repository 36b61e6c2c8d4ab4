import Workflows.Carry.Step
import Workflows.Proofs.Expr.Trimmed

/-!
# Validations and policy checks

A rule may stand in the settings of a validation step, where it is trimmed, or in a policy, where it is not. With
the built-in evaluator both come to the same verdict on an entity.

* `outcome_validation`, `outcome_policyCheck`: the outcomes of the two steps, by what the rule evaluates to;
* **`policyCheck_agrees`**: a policy check and a validation on one rule agree.
-/

namespace Workflows

variable {services : Services} {now : Time} {s : Step} {ctx : Context} {outbox : Outbox} {p : Policy}
  {rule id : String}

/-! ## The two steps -/

/-- A validation gives the verdict on its rule and the explanation, and ends in an error where there is none. -/
theorem outcome_validation (evaluator : services.evaluator = .builtIn) (kind : s.kind = .validation)
    (configured : s.config.get? "rule" = some (.text rule)) :
    let o := (s.carryOut services now ctx outbox).outcome
    (∀ verdict, Rule.evaluate rule ctx.entity = .ok verdict →
      o = (Outcome.verdict verdict.1 verdict.2).withData [("rule", .text (Text.trim rule))]) ∧
    ∀ x, Rule.evaluate rule ctx.entity = .error x → ∃ error, o = .ofError error := by
  have judged : (s.carryOut services now ctx outbox).outcome =
      settle (Judge.validation services s.config ctx) := by
    rw [Step.carryOut, kind]
  have setting : Setting.text? s.config "rule" = Text.nonBlank? rule := by
    rw [Setting.text?, configured]
    rfl
  dsimp only
  rw [judged, Judge.validation, Setting.required, setting, evaluator, Text.nonBlank?]
  by_cases blank : Text.isBlank rule
  · -- The step finds no rule, and there is no expression in a blank text.
    have empty : Rule.evaluate rule ctx.entity = .error .empty := by
      rw [Rule.evaluate, Expr.parse_of_isBlank blank]
      rfl
    rw [if_pos blank, empty]
    exact ⟨nofun, fun _ _ => ⟨_, rfl⟩⟩
  · rw [if_neg blank]
    constructor
    · intro verdict evaluated
      have trimmed := Rule.evaluate_trim_eq_ok_iff.2 evaluated
      simp only [bind, Except.bind, Evaluator.builtIn, trimmed]
      rfl
    · intro x fails
      cases trimmed : Rule.evaluate (Text.trim rule) ctx.entity with
      | ok verdict =>
        rw [Rule.evaluate_trim_eq_ok_iff.1 trimmed] at fails
        cases fails
      | error y =>
        simp only [bind, Except.bind, Evaluator.builtIn, trimmed]
        exact ⟨_, rfl⟩

/-- A policy check gives the verdict on the rule of an active policy, and ends in an error where there is none. -/
theorem outcome_policyCheck (evaluator : services.evaluator = .builtIn) (kind : s.kind = .policyCheck)
    (named : Setting.text? s.config "policy_id" = some id) (found : services.policies id = .ok (some p))
    (active : p.isActive = true) :
    let o := (s.carryOut services now ctx outbox).outcome
    (∀ verdict, Rule.evaluate p.rule ctx.entity = .ok verdict →
      o.passed = verdict.1 ∧ o.error = none ∧ o.message = some (Judge.policyMessage p verdict.1 verdict.2)) ∧
    ∀ x, Rule.evaluate p.rule ctx.entity = .error x → o.passed = false ∧ o.error = some x.message := by
  have checked : (s.carryOut services now ctx outbox).outcome =
      settle (Judge.applyPolicy services ctx p) := by
    rw [Step.carryOut, kind, Judge.policyCheck, Setting.required, named]
    simp only [bind, Except.bind, found, Except.mapError]
  dsimp only
  rw [checked, Judge.applyPolicy, if_pos active, evaluator]
  constructor
  · intro verdict evaluated
    simp only [Evaluator.builtIn, evaluated]
    exact ⟨rfl, rfl, rfl⟩
  · intro x fails
    simp only [Evaluator.builtIn, fails]
    exact ⟨rfl, rfl⟩

/-! ## Agreement -/

theorem Judge.policyMessage_plain {passed : Bool} {explanation : String}
    (plain : p.failureMessage = none ∨ passed = true) : policyMessage p passed explanation = explanation := by
  unfold policyMessage
  split
  · next given => simp [given] at plain
  · rfl

theorem Judge.policyMessage_friendly {explanation friendly : String} (given : p.failureMessage = some friendly) :
    policyMessage p false explanation = friendly ++ "\n\nTechnical: " ++ explanation := by
  simp only [policyMessage, given]

/-- **A policy check and a validation on one rule agree.** With the built-in evaluator, a validation on a rule and a
check of an active policy with that rule pass and fail together, and end in an error together. Where they give a
verdict, both tell it with the same text, but for a failure that the policy has a message for: it comes before the
text. A blank rule fails in both. -/
theorem policyCheck_agrees (services : Services) (now : Time) (ctx : Context) (outbox : Outbox) {s t : Step}
    (evaluator : services.evaluator = .builtIn)
    (validates : s.kind = .validation) (configured : s.config.get? "rule" = some (.text p.rule))
    (checks : t.kind = .policyCheck) (named : Setting.text? t.config "policy_id" = some id)
    (found : services.policies id = .ok (some p)) (active : p.isActive = true) :
    let judged := (s.carryOut services now ctx outbox).outcome
    let checked := (t.carryOut services now ctx outbox).outcome
    judged.passed = checked.passed ∧ (judged.error = none ↔ checked.error = none) ∧
    (judged.error = none → ∃ explanation, judged.message = some explanation ∧
      (p.failureMessage = none ∨ judged.passed = true → checked.message = some explanation) ∧
      ∀ friendly, p.failureMessage = some friendly → judged.passed = false →
        checked.message = some (friendly ++ "\n\nTechnical: " ++ explanation)) ∧
    (Text.isBlank p.rule = true → judged.passed = false ∧ checked.passed = false) := by
  intro judged checked
  obtain ⟨judged_ok, judged_error⟩ : (∀ verdict, _ → judged = _) ∧ ∀ x, _ → ∃ error, judged = .ofError error :=
    outcome_validation evaluator validates configured
  obtain ⟨checked_ok, checked_error⟩ : (∀ verdict, _ → checked.passed = _ ∧ checked.error = none ∧ _) ∧
      ∀ x, _ → checked.passed = false ∧ checked.error = some _ :=
    outcome_policyCheck evaluator checks named found active
  cases evaluated : Rule.evaluate p.rule ctx.entity with
  | error x =>
    obtain ⟨error, judged_eq⟩ := judged_error x evaluated
    obtain ⟨failed, checked_eq⟩ := checked_error x evaluated
    rw [judged_eq, failed, checked_eq]
    exact ⟨rfl, iff_of_false nofun nofun, nofun, fun _ => ⟨rfl, rfl⟩⟩
  | ok verdict =>
    obtain ⟨passed, explanation⟩ := verdict
    obtain ⟨passed_eq, no_error, message⟩ := checked_ok _ evaluated
    rw [judged_ok _ evaluated, passed_eq, no_error, message]
    refine ⟨rfl, iff_of_true rfl rfl, fun _ => ⟨explanation, rfl, fun plain => ?_, fun friendly given no => ?_⟩,
      fun blank => ?_⟩
    · exact congrArg some (Judge.policyMessage_plain plain)
    · obtain rfl : passed = false := no
      exact congrArg some (Judge.policyMessage_friendly given)
    · rw [Rule.evaluate, Expr.parse_of_isBlank blank] at evaluated
      cases evaluated

/-- A rule between blanks fails, as a setting and in a policy that has a message for it. -/
theorem policyCheck_agrees_owner :
    let p : Policy := {
      id := "owned"
      name := "Owned"
      rule := " owner == 'ada'\t"
      isActive := true
      severity := "high"
      failureMessage := some "Ask Ada."
      description := none }
    let services := { Services.basic fun _ => .timedOut with policies := (Policies.ofList [p]).store }
    let judge : Step := { Step.new "judge" .validation with config := Dict.ofList [("rule", .text p.rule)] }
    let check : Step := { Step.new "check" .policyCheck with config := Dict.ofList [("policy_id", .text "owned")] }
    let ctx : Context := {
      entity := Dict.ofList [("owner", .text "bob")]
      entityType := "release"
      entityId := "7"
      entityName := none
      actor := none
      trigger := none
      executionId := "1"
      workflowId := "w"
      workflowName := "W"
      results := {} }
    let judged := (judge.carryOut services ⟨0, 0⟩ ctx {}).outcome
    let checked := (check.carryOut services ⟨0, 0⟩ ctx {}).outcome
    judged.passed = false ∧ checked.passed = false ∧ checked.error = none ∧
      judged.message = some "Rule failed: owner == 'ada' (actual: owner = 'bob')" ∧
      checked.message = some "Ask Ada.\n\nTechnical: Rule failed: owner == 'ada' (actual: owner = 'bob')" := by
  intro p services judge check ctx judged checked
  have configured : judge.config.get? "rule" = some (.text p.rule) := by decide +kernel
  have named : Setting.text? check.config "policy_id" = some "owned" := by decide +kernel
  have found : services.policies "owned" = .ok (some p) := congrArg Except.ok (by decide +kernel)
  have evaluated : Rule.evaluate p.rule ctx.entity =
      .ok (false, "Rule failed: owner == 'ada' (actual: owner = 'bob')") := by cbv
  have judged_eq : judged = (Outcome.verdict false _).withData _ :=
    (outcome_validation rfl rfl configured).1 _ evaluated
  have failed : judged.passed = false := congrArg Outcome.passed judged_eq
  have decided : judged.error = none := congrArg Outcome.error judged_eq
  have told : judged.message = some _ := congrArg Outcome.message judged_eq
  obtain ⟨together, decided_iff, texts, -⟩ :=
    policyCheck_agrees services ⟨0, 0⟩ ctx {} rfl rfl configured rfl named found rfl
  obtain ⟨explanation, message, -, friendly⟩ := texts decided
  cases told.symm.trans message
  exact ⟨failed, together ▸ failed, decided_iff.1 decided, told, friendly "Ask Ada." rfl failed⟩

end Workflows
