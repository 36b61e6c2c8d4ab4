import Workflows.Carry.Step

/-!
# Outcomes are well formed

Whatever the kind of a step, its settings, the context and the services, carrying it out comes to an
outcome of a fixed shape.

* `Outcome.WellFormed`: a pass has a message and no error, a failure has exactly one of the two, and only
  a pass makes the run wait; `Outcome.Prompt`: besides, the run does not wait; `Outcome.IsVerdict`: a verdict
  with a message;
* `Yields`: what a computation that may end in a fault says of its outcomes;
* `carryOut_prompt`, `carryOut_approval`: only approvals make a run wait, and they do when they pass;
* **`carryOut_wellFormed`**: carrying out a step comes to a well-formed outcome.
-/

namespace Workflows

/-- The shape of outcomes: a pass has a message and no error, a failure exactly one of the two, and only
a pass makes the run wait. -/
structure Outcome.WellFormed (o : Outcome) : Prop where
  of_passed : o.passed = true → o.message.isSome ∧ o.error = none
  of_failed : o.passed = false → (o.message.isSome ↔ o.error = none)
  passed_of_blocking : o.blocking = true → o.passed = true

/-- The shape of outcomes after which the run goes on at once. -/
structure Outcome.Prompt (o : Outcome) : Prop extends WellFormed o where
  free : o.blocking = false

namespace Outcome

theorem prompt_verdict (passed : Bool) (message : String) : (verdict passed message).Prompt := by
  refine ⟨⟨?_, ?_, ?_⟩, rfl⟩ <;> simp [verdict]

theorem prompt_ofError (error : String) : (ofError error).Prompt := by
  refine ⟨⟨?_, ?_, ?_⟩, rfl⟩ <;> simp [ofError]

/-- The data of an outcome do not count for its shape. -/
theorem Prompt.setData {o : Outcome} (h : o.Prompt) (data : Option Object) : Prompt { o with data } :=
  ⟨⟨h.of_passed, h.of_failed, h.passed_of_blocking⟩, h.free⟩

theorem Prompt.withData {o : Outcome} (h : o.Prompt) (members : List (String × Value)) :
    (o.withData members).Prompt :=
  h.setData _

/-- The outcome is a verdict with a message, and with data or without. -/
def IsVerdict (o : Outcome) : Prop := ∃ passed message data, o = { verdict passed message with data }

theorem IsVerdict.prompt {o : Outcome} (h : o.IsVerdict) : o.Prompt := by
  obtain ⟨passed, message, data, rfl⟩ := h
  exact (prompt_verdict passed message).setData data

theorem IsVerdict.error_eq_none {o : Outcome} (h : o.IsVerdict) : o.error = none := by
  obtain ⟨passed, message, data, rfl⟩ := h
  rfl

/-- A pass stays well formed when the run is made to wait. -/
theorem WellFormed.waiting {o : Outcome} (h : o.WellFormed) (passed : o.passed = true) :
    WellFormed { o with blocking := true } :=
  ⟨h.of_passed, h.of_failed, fun _ => passed⟩

/-- **A failure has a reason.** -/
theorem WellFormed.isSome_reason {o : Outcome} (h : o.WellFormed) (failed : o.passed = false) :
    o.reason?.isSome = true := by
  have := h.of_failed failed
  unfold reason?
  cases hm : o.message with
  | some m => simp
  | none =>
    have : o.error ≠ none := fun he => by simp [hm, he] at this
    simpa [Option.isSome_iff_ne_none] using this

end Outcome

/-! ## Computations that may end in a fault -/

/-- Whatever a computation gives has a property. -/
def Yields {α : Type} (P : α → Prop) (r : Except StepFault α) : Prop := ∀ a, r = .ok a → P a

section Yields

variable {α β : Type} {P : β → Prop}

theorem Yields.ok {b : β} (h : P b) : Yields P (.ok b) := fun _ e => by cases e; exact h

theorem Yields.error (fault : StepFault) : Yields P (.error fault) := fun _ e => by cases e

theorem Yields.bind {x : Except StepFault α} {f : α → Except StepFault β}
    (h : ∀ a, Yields P (f a)) : Yields P (x >>= f) := by
  cases x with
  | error fault => exact .error fault
  | ok a => exact h a

/-- A fault becomes an outcome too, so what holds of errors holds of all that comes out. -/
theorem Yields.settle {P : Outcome → Prop} {r : Except StepFault Outcome} (h : Yields P r)
    (ofError : ∀ error, P (.ofError error)) : P (settle r) := by
  cases r with
  | error fault => exact ofError _
  | ok o => exact h o rfl

end Yields

open Outcome

/-! ## Steps that judge -/

section Judge

variable (services : Services) (config : Object) (ctx : Context)

theorem yields_validation : Yields Prompt (Judge.validation services config ctx) :=
  .bind fun _ => .bind fun _ => .ok ((prompt_verdict _ _).withData _)

theorem yields_conditional : Yields Prompt (Judge.conditional services config ctx) :=
  .bind fun _ => .bind fun _ => .ok ((prompt_verdict _ _).withData _)

theorem yields_applyPolicy (p : Policy) : Yields Prompt (Judge.applyPolicy services ctx p) := by
  unfold Judge.applyPolicy
  split
  · split
    · exact .error _
    · exact .ok ((prompt_ofError _).withData _)
    · exact .ok ((prompt_verdict _ _).withData _)
  · exact .ok ((prompt_verdict _ _).withData _)

theorem yields_policyCheck : Yields Prompt (Judge.policyCheck services config ctx) := by
  refine .bind fun id => .bind fun found => ?_
  cases found with
  | none => exact .ok ((prompt_ofError _).withData _)
  | some p => exact yields_applyPolicy services ctx p

end Judge

/-! ## Steps that reach out -/

section Contact

variable (services : Services) (config : Object) (ctx : Context) (outbox : Outbox)

/-- A request for a decision is a pass after which the run waits. -/
theorem yields_approval :
    Yields (fun o => o.WellFormed ∧ o.passed = true ∧ o.blocking = true)
      (Contact.approval services config ctx) := by
  unfold Contact.approval
  dsimp only
  split
  · exact .error _
  · refine .bind fun _ => .bind fun _ => ?_
    split
    · exact .error _
    · exact .ok ⟨((prompt_verdict true _).withData _).toWellFormed.waiting rfl, rfl, rfl⟩

theorem yields_notification :
    Yields Prompt (Contact.notification services config ctx outbox).1 := by
  unfold Contact.notification
  split
  · exact .error _
  · dsimp only
    split
    · exact .ok ((prompt_verdict _ _).withData _)
    · exact .error _

theorem prompt_deliveredOutcome (results : Deliveries) :
    (Contact.deliveredOutcome results).Prompt := by
  unfold Contact.deliveredOutcome
  refine Prompt.withData ?_ _
  split
  · exact prompt_verdict _ _
  · split
    · exact prompt_verdict _ _
    · split
      · exact prompt_ofError _
      · exact prompt_ofError _

theorem yields_delivery : Yields Prompt (Contact.delivery services config ctx outbox).1 := by
  unfold Contact.delivery
  split
  · exact .ok (prompt_ofError _)
  · dsimp only
    split
    · exact .ok (prompt_deliveredOutcome _)
    · exact .error _

end Contact

/-! ## Tag steps -/

section Tag

variable (config : Object) (ctx : Context)

theorem yields_assign (now : Time) : Yields Prompt (Tag.assign config ctx now).1 := by
  unfold Tag.assign
  split
  · exact .error _
  · split
    · exact .error _
    · exact .ok ((prompt_verdict _ _).withData _)

theorem yields_remove : Yields Prompt (Tag.remove config ctx).1 := by
  unfold Tag.remove
  split
  · exact .error _
  · exact .ok ((prompt_verdict _ _).withData _)

end Tag

/-! ## Scripts -/

section Script

theorem isVerdict_outcomeOfResult {result : Value} {o : Outcome}
    (h : Script.outcomeOfResult result = .ok o) : o.IsVerdict := by
  unfold Script.outcomeOfResult at h
  split at h
  · cases h
    exact ⟨_, _, _, rfl⟩
  · dsimp only at h
    split at h <;> cases h <;> exact ⟨_, _, _, rfl⟩
  · cases h

theorem isVerdict_readOutput {stdout : String} {o : Outcome}
    (h : Script.readOutput stdout = .ok o) : o.IsVerdict := by
  unfold Script.readOutput at h
  split at h
  · cases h
  · split at h
    · cases h
    · exact isVerdict_outcomeOfResult h

/-- What comes of a script that gives an outcome is its verdict. -/
theorem isVerdict_ending {request : ScriptRequest} {ending : ScriptEnding} {o : Outcome}
    (h : ending.outcome request = .ok o) : o.IsVerdict := by
  cases ending with
  | notStarted | unattended | timedOut | flooded => cases h
  | exited status stdout stderr =>
    simp only [ScriptEnding.outcome] at h
    split at h
    · cases h
    · split at h
      · cases h
      · exact isVerdict_readOutput h
  | killed signal stdout stderr =>
    simp only [ScriptEnding.outcome] at h
    split at h <;> cases h

variable (services : Services) (config : Object) (ctx : Context)

theorem yields_script : Yields Prompt (ScriptStep.outcome services config ctx) := by
  refine .bind fun code => ?_
  split
  · refine .bind fun timeoutSeconds o h => ?_
    dsimp only at h
    cases hr : (services.runScript _).outcome _ with
    | error e => rw [hr] at h; cases h
    | ok o' =>
      rw [hr] at h
      cases h
      exact (isVerdict_ending hr).prompt
  · exact .ok (prompt_ofError _)
  · exact .ok (prompt_ofError _)

end Script

/-! ## Steps of any kind -/

section CarryOut

variable (services : Services) (now : Time) (s : Step) (ctx : Context) (outbox : Outbox)

/-- After a step that is no approval the run goes on at once. -/
theorem carryOut_prompt {s : Step} (other : s.kind ≠ .approval) :
    (s.carryOut services now ctx outbox).outcome.Prompt := by
  have judged : ∀ {r : Except StepFault Outcome}, Yields Prompt r → (settle r).Prompt :=
    fun h => h.settle prompt_ofError
  unfold Step.carryOut
  cases kind : s.kind with
  | validation => exact judged (yields_validation services s.config ctx)
  | approval => exact absurd kind other
  | notification => exact judged (yields_notification services s.config ctx outbox)
  | assignTag => exact judged (yields_assign s.config ctx now)
  | removeTag => exact judged (yields_remove s.config ctx)
  | conditional => exact judged (yields_conditional services s.config ctx)
  | script => exact judged (yields_script services s.config ctx)
  | pass => exact prompt_verdict _ _
  | fail => exact prompt_verdict _ _
  | policyCheck => exact judged (yields_policyCheck services s.config ctx)
  | delivery => exact judged (yields_delivery services s.config ctx outbox)
  | unknown name => exact prompt_ofError _

/-- After an approval the run waits just where it passes. -/
theorem carryOut_approval {s : Step} (asks : s.kind = .approval) :
    let o := (s.carryOut services now ctx outbox).outcome
    o.WellFormed ∧ (o.blocking = true ↔ o.passed = true) := by
  unfold Step.carryOut
  rw [asks]
  refine Yields.settle (P := fun o => o.WellFormed ∧ (o.blocking = true ↔ o.passed = true))
    (fun o yields => ?_) fun error => ⟨(prompt_ofError error).toWellFormed, by simp [ofError]⟩
  obtain ⟨wellFormed, passed, blocking⟩ := yields_approval services s.config ctx o yields
  exact ⟨wellFormed, by rw [passed, blocking]⟩

/-- **Carrying out a step comes to a well-formed outcome.** -/
theorem carryOut_wellFormed : (s.carryOut services now ctx outbox).outcome.WellFormed := by
  by_cases asks : s.kind = .approval
  · exact (carryOut_approval services now ctx outbox asks).1
  · exact (carryOut_prompt services now ctx outbox asks).toWellFormed

/-- **The run waits after a step just where it is an approval that passes.** -/
theorem carryOut_blocking_iff :
    (s.carryOut services now ctx outbox).outcome.blocking = true ↔
      s.kind = .approval ∧ (s.carryOut services now ctx outbox).outcome.passed = true := by
  by_cases asks : s.kind = .approval
  · rw [(carryOut_approval services now ctx outbox asks).2, and_iff_right asks]
  · simp [(carryOut_prompt services now ctx outbox asks).free, asks]

end CarryOut

end Workflows
