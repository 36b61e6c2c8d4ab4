import Mathlib.Tactic.ByContra
import Workflows.Definition.Lint
import Workflows.Proofs.Carry.Outcome

/-!
# Required settings

A step without a setting that its kind requires fails for want of it, in every context. What is found about a
definition tells of settings that are absent, null or blank, and not of those of another shape, which the steps
cannot read either.

* `Step.Unset`: a setting is absent, null or a blank text; `Step.Misshapen`: it is of a shape that the step's kind
  does not read;
* `Demands`: a computation fails for want of a setting just where the setting is missing;
* **`carryOut_wants_iff`**: a step fails for want of a setting just where it is unset or misshapen;
* `missingConfig_mem_lint_iff`: what is reported;
* **`lint_agrees_iff`**: where the two agree; `lint_misses_number`: a step where they do not.
-/

namespace Workflows

/-! ## Settings -/

/-- The kinds whose required setting may be a list of texts. -/
def StepKind.takesList : StepKind → Bool
  | .approval | .notification => true
  | _ => false

theorem Addressee.mem_words_list_iff {t : String} {items : List Value} :
    t ∈ words (.list items) ↔ .text t ∈ items := by
  unfold words
  rw [List.mem_filterMap]
  constructor
  · rintro ⟨v, mem, said⟩
    cases v <;> cases said
    exact mem
  · exact fun mem => ⟨_, mem, rfl⟩

namespace Step

variable (s : Step) (key : String)

/-- A setting is absent, null or a blank text. -/
def Unset : Prop :=
  match s.config.get? key with
  | none | some .null => True
  | some (.text t) => Text.isBlank t = true
  | some _ => False

/-- A setting is of a shape that the step's kind does not read: neither null nor a text, nor, where the kind takes
a list, a list with a text that is not blank. -/
def Misshapen : Prop :=
  match s.config.get? key with
  | none | some .null | some (.text _) => False
  | some (.list items) => s.kind.takesList = true → ∀ t, .text t ∈ items → Text.isBlank t = true
  | some _ => True

variable {s key}

theorem not_misshapen_of_unset (unset : s.Unset key) : ¬ s.Misshapen key := by
  unfold Unset at unset
  unfold Misshapen
  split at unset <;> simp_all

theorem isSet_eq_false_iff : Value.isSet (s.config.get? key) = false ↔ s.Unset key := by
  unfold Unset Value.isSet
  split <;> simp_all

theorem text?_eq_none_iff (reads : s.kind.takesList = false) :
    Setting.text? s.config key = none ↔ s.Unset key ∨ s.Misshapen key := by
  unfold Setting.text? Unset Misshapen
  cases s.config.get? key with
  | none => simp
  | some v => cases v <;> simp [Value.text?, Text.nonBlank?, reads]

theorem isNamed_eq_false_iff (reads : s.kind.takesList = true) :
    Addressee.isNamed (s.config.get? key) = false ↔ s.Unset key ∨ s.Misshapen key := by
  unfold Addressee.isNamed Unset Misshapen
  cases s.config.get? key with
  | none => simp
  | some v =>
    cases v with
    | list items => simp [List.any_eq_false, Addressee.mem_words_list_iff, reads]
    | _ => simp [Addressee.words]

end Step

/-! ## Computations that demand a setting -/

/-- What messages about missing settings begin with. -/
def wantText : String := "No "

/-- A text has another beginning than messages about missing settings. -/
def BeginsOtherwise (text : String) : Prop :=
  wantText.toList.length ≤ text.toList.length ∧ ¬ wantText.toList <+: text.toList

instance (text : String) : Decidable (BeginsOtherwise text) := by unfold BeginsOtherwise; infer_instance

/-- However the text goes on. -/
theorem BeginsOtherwise.append {text : String} (h : BeginsOtherwise text) (rest : String) :
    BeginsOtherwise (text ++ rest) := by
  unfold BeginsOtherwise
  rw [String.toList_append]
  refine ⟨by simpa using Nat.le_add_right_of_le h.1, fun starts => ?_⟩
  exact h.2 (List.prefix_of_prefix_length_le starts (List.prefix_append _ _) h.1)

theorem beginsOtherwise_expression : (e : ExprError) → BeginsOtherwise e.message
  | .malformed .. => .append (.append (.append (by decide) _) _) _
  | .unexpectedToken .. => .append (.append (.append (.append (.append (.append (by decide) _) _) _) _) _) _
  | .unexpectedEnd _ => .append (by decide) _
  | .empty => by decide
  | .typeMismatch .. => .append (.append (.append (.append (.append (by decide) _) _) _) _) _

theorem beginsOtherwise_heading (e : ScriptError) : BeginsOtherwise e.heading := by
  unfold ScriptError.heading
  split
  · decide
  · decide

/-- **Only a missing setting is told of in this way.** -/
theorem beginsOtherwise_message : (fault : StepFault) → (∀ key, fault ≠ .notConfigured key) →
    BeginsOtherwise fault.message
  | .notConfigured key, other => absurd rfl (other key)
  | .badSetting .., _ => .append (.append (.append (.append (.append (by decide) _) _) _) _) _
  | .unresolvedTag, _ | .tagsNotObject, _ | .nobodyToAsk, _ | .nobodyToTell, _ => by decide
  | .expression e, _ => beginsOtherwise_expression e
  | .brokeDown _, _ | .notSent _, _ => .append (by decide) _
  | .script e, _ => .append (beginsOtherwise_heading e) _
  | .notDelivered (.unavailable _), _ | .notDelivered (.failed _), _ => .append (by decide) _

/-- The outcome's error says that a setting is missing. -/
def Outcome.Wants (o : Outcome) : Prop := ∃ text, o.error = some text ∧ wantText.toList <+: text.toList

theorem wants_notConfigured (key : String) : (Outcome.ofError (StepFault.notConfigured key).message).Wants := by
  refine ⟨_, rfl, ?_⟩
  change _ <+: (wantText ++ StepFault.settingLabel key ++ " configured").toList
  rw [String.append_assoc, String.toList_append]
  exact List.prefix_append _ _

theorem not_wants_ofError {text : String} (other : BeginsOtherwise text) : ¬ (Outcome.ofError text).Wants := by
  rintro ⟨_, same, starts⟩
  cases same
  exact other.2 starts

section Demands

variable {α β : Type} {P : α → Prop} {Q : β → Prop} {missing : Prop} {key : String}

/-- What a computation comes to has a property, and its fault is not a missing setting. -/
structure Provided (P : α → Prop) (r : Except StepFault α) : Prop where
  result : Yields P r
  fault : ∀ fault, r = .error fault → ∀ key, fault ≠ .notConfigured key

theorem Provided.ok {a : α} (h : P a) : Provided P (.ok a) :=
  ⟨.ok h, fun _ fails => nomatch fails⟩

theorem Provided.error {fault : StepFault} (other : ∀ key, fault ≠ .notConfigured key) :
    Provided P (.error fault) :=
  ⟨.error fault, fun _ same => by cases same; exact other⟩

theorem Provided.bind {x : Except StepFault α} {f : α → Except StepFault β} (first : Provided P x)
    (rest : ∀ a, P a → Provided Q (f a)) : Provided Q (x >>= f) := by
  cases x with
  | error fault => exact .error (first.fault fault rfl)
  | ok a => exact rest a (first.result a rfl)

/-- A computation fails for want of a setting where it is missing, and else comes to what has a property. -/
structure Demands (missing : Prop) (key : String) (P : α → Prop) (r : Except StepFault α) : Prop where
  want : missing → r = .error (.notConfigured key)
  provided : ¬ missing → Provided P r

theorem Demands.absent {r : Except StepFault α} (lacks : missing) (fails : r = .error (.notConfigured key)) :
    Demands missing key P r :=
  ⟨fun _ => fails, fun there => absurd lacks there⟩

theorem Demands.present {r : Except StepFault α} (there : ¬ missing) (h : Provided P r) :
    Demands missing key P r :=
  ⟨fun lacks => absurd lacks there, fun _ => h⟩

/-- A computation demands a setting if it begins with one that does, and else does not fail for want of it. -/
theorem Demands.begins {x : Except StepFault α} {r : Except StepFault β} (first : Demands missing key P x)
    (fails : ∀ fault, x = .error fault → r = .error fault) (rest : ∀ a, x = .ok a → P a → Provided Q r) :
    Demands missing key Q r where
  want h := fails _ (first.want h)
  provided h := by
    cases begun : x with
    | error fault =>
      rw [fails fault begun]
      exact .error ((first.provided h).fault fault begun)
    | ok a => exact rest a begun ((first.provided h).result a begun)

theorem Demands.bind {x : Except StepFault α} {f : α → Except StepFault β} (first : Demands missing key P x)
    (rest : ∀ a, P a → Provided Q (f a)) : Demands missing key Q (x >>= f) :=
  first.begins (fun fault begun => by rw [begun]; rfl) fun a begun there => by rw [begun]; exact rest a there

/-- **The outcome of such a computation says so just where the setting is missing.** -/
theorem Demands.settle_iff {r : Except StepFault Outcome} (h : Demands missing key (¬ ·.Wants) r) :
    settle r = .ofError (StepFault.notConfigured key).message ↔ missing := by
  refine ⟨fun same => ?_, fun absent => by rw [h.want absent]; rfl⟩
  by_contra there
  have wants := wants_notConfigured key
  rw [← same] at wants
  cases r with
  | error fault => exact not_wants_ofError (beginsOtherwise_message fault ((h.provided there).fault fault rfl)) wants
  | ok o => exact (h.provided there).result o rfl wants

end Demands

/-! ## What steps of each kind demand -/

section Handlers

variable {α : Type} {P : α → Prop} (services : Services) (config : Object) (ctx : Context)

theorem demands_required (key : String) :
    Demands (Setting.text? config key = none) key (fun _ => True) (Setting.required config key) := by
  unfold Setting.required
  cases Setting.text? config key with
  | none => exact .absent rfl rfl
  | some s => exact .present nofun (.ok trivial)

theorem provided_count (key : String) (default : Nat) :
    Provided (fun _ => True) (Setting.count config key default) := by
  unfold Setting.count
  split
  · exact .ok trivial
  · exact .ok trivial
  · dsimp only
    split
    · exact .ok trivial
    · exact .error nofun

theorem provided_flag (key : String) (default : Bool) :
    Provided (fun _ => True) (Setting.flag config key default) := by
  unfold Setting.flag
  split
  · exact .ok trivial
  · exact .ok trivial
  · exact .ok trivial
  · split
    · exact .ok trivial
    · exact .ok trivial
    · exact .error nofun

theorem expression_ne (e : ExprError) (key : String) : StepFault.expression e ≠ .notConfigured key := nofun

theorem notSent_ne (reason key : String) : StepFault.notSent reason ≠ .notConfigured key := nofun

/-- A service that gives no answer is no missing setting, where none of its own errors counts as one. -/
theorem ofService_ne {ε : Type} {own : ε → StepFault} (other : ∀ e key, own e ≠ .notConfigured key) :
    ∀ fault key, StepFault.ofService own fault ≠ .notConfigured key
  | .refused e, key => other e key
  | .brokeDown _, _ => nofun

theorem provided_service {ε : Type} {own : ε → StepFault} (other : ∀ e key, own e ≠ .notConfigured key)
    (answer : Except (ServiceFault ε) α) :
    Provided (fun _ => True) (answer.mapError (StepFault.ofService own)) := by
  cases answer with
  | error fault => exact .error (ofService_ne other fault)
  | ok => exact .ok trivial

theorem not_wants_of_error_eq_none {o : Outcome} (h : o.error = none) : ¬ o.Wants := by
  rintro ⟨text, said, -⟩
  rw [h] at said
  cases said

theorem demands_validation : Demands (Setting.text? config "rule" = none) "rule" (¬ Outcome.Wants ·)
    (Judge.validation services config ctx) :=
  (demands_required config "rule").bind fun _ _ =>
    (provided_service expression_ne _).bind fun _ _ => .ok (not_wants_of_error_eq_none rfl)

theorem demands_conditional : Demands (Setting.text? config "condition" = none) "condition" (¬ Outcome.Wants ·)
    (Judge.conditional services config ctx) :=
  (demands_required config "condition").bind fun _ _ =>
    (provided_service expression_ne _).bind fun _ _ => .ok (not_wants_of_error_eq_none rfl)

theorem provided_applyPolicy (p : Policy) :
    Provided (¬ Outcome.Wants ·) (Judge.applyPolicy services ctx p) := by
  unfold Judge.applyPolicy
  split
  · split
    · exact .error nofun
    · next e _ => exact .ok (not_wants_ofError (beginsOtherwise_expression e))
    · exact .ok (not_wants_of_error_eq_none rfl)
  · exact .ok (not_wants_of_error_eq_none rfl)

theorem demands_policyCheck : Demands (Setting.text? config "policy_id" = none) "policy_id"
    (¬ Outcome.Wants ·) (Judge.policyCheck services config ctx) := by
  refine (demands_required config "policy_id").bind fun id _ => (provided_service nofun _).bind fun found _ => ?_
  cases found with
  | none => exact .ok (not_wants_ofError (.append (by decide) _))
  | some p => exact provided_applyPolicy services ctx p

theorem demands_approval : Demands (Addressee.isNamed (config.get? "approvers") = false) "approvers"
    (¬ Outcome.Wants ·) (Contact.approval services config ctx) := by
  unfold Contact.approval
  dsimp only
  cases named : Addressee.isNamed (config.get? "approvers") with
  | false => exact .absent rfl rfl
  | true =>
    refine .present nofun ?_
    refine (provided_count ..).bind fun _ _ => (provided_flag ..).bind fun _ _ => ?_
    split
    · exact .error nofun
    · exact .ok (not_wants_of_error_eq_none rfl)

theorem demands_notice : Demands (Addressee.isNamed (config.get? "recipients") = false) "recipients"
    (fun _ => True) (Contact.notice services config ctx) := by
  unfold Contact.notice
  dsimp only
  cases named : Addressee.isNamed (config.get? "recipients") with
  | false => exact .absent rfl rfl
  | true =>
    refine .present nofun ?_
    rw [if_neg (by decide)]
    split
    · exact .error nofun
    · exact .ok trivial

theorem demands_notification (outbox : Outbox) :
    Demands (Addressee.isNamed (config.get? "recipients") = false) "recipients" (¬ Outcome.Wants ·)
      (Contact.notification services config ctx outbox).1 := by
  refine (demands_notice services config ctx).begins (fun fault begun => ?_) fun n begun _ => ?_
  · rw [Contact.notification, begun]
  · rw [Contact.notification, begun]
    dsimp only
    split
    · exact .ok (not_wants_of_error_eq_none rfl)
    · next fault _ => exact .error (ofService_ne notSent_ne fault)

theorem demands_given (now : Time) :
    Demands (Setting.text? config "key" = none) "key" (fun _ => True) (Tag.given config ctx now) := by
  refine (demands_required config "key").bind fun key _ => ?_
  cases Tag.value? config ctx now with
  | none => exact .error nofun
  | some value => exact .ok trivial

theorem demands_assign (now : Time) : Demands (Setting.text? config "key" = none) "key"
    (¬ Outcome.Wants ·) (Tag.assign config ctx now).1 := by
  refine (demands_given config ctx now).begins (fun fault begun => ?_) fun tag begun _ => ?_
  · rw [Tag.assign, begun]
  · rw [Tag.assign, begun]
    dsimp only
    rcases Tag.place_cases ctx.entity with ⟨tags, there⟩ | ⟨tags, made⟩ | failed
    · rw [there]
      exact .ok (not_wants_of_error_eq_none rfl)
    · rw [made]
      exact .ok (not_wants_of_error_eq_none rfl)
    · rw [failed]
      exact .error nofun

theorem demands_remove : Demands (Setting.text? config "key" = none) "key"
    (¬ Outcome.Wants ·) (Tag.remove config ctx).1 := by
  refine (demands_required config "key").begins (fun fault begun => ?_) fun tag begun _ => ?_
  · rw [Tag.remove, begun]
  · rw [Tag.remove, begun]
    exact .ok (not_wants_of_error_eq_none rfl)

theorem demands_code : Demands (Setting.text? config "code" = none) "code" (fun _ => True)
    (ScriptStep.code config) := by
  unfold ScriptStep.code Setting.text? Text.nonBlank?
  cases (config.get? "code").bind Value.text? with
  | none => exact .absent rfl rfl
  | some code =>
    by_cases blank : Text.isBlank code = true
    · exact .absent (by simp [blank]) (by simp [blank])
    · exact .present (by simp [blank]) (by simpa [blank] using .ok trivial)

theorem demands_script : Demands (Setting.text? config "code" = none) "code" (¬ Outcome.Wants ·)
    (ScriptStep.outcome services config ctx) := by
  refine (demands_code config).bind fun code _ => ?_
  split
  · refine (provided_count ..).bind fun timeoutSeconds _ => ?_
    dsimp only
    cases ended : (services.runScript _).outcome _ with
    | error e => exact .error nofun
    | ok o => exact .ok (not_wants_of_error_eq_none (isVerdict_ending ended).error_eq_none)
  · exact .ok (not_wants_ofError (by decide))
  · exact .ok (not_wants_ofError (.append (by decide) _))

end Handlers

/-! ## Steps and findings -/

section Steps

variable {s : Step} {key : String}

/-- **A step fails for want of a required setting just where it is unset or misshapen**, in every context and
whatever the services. -/
theorem carryOut_wants_iff (required : key ∈ s.kind.requiredKeys) (services : Services) (now : Time)
    (ctx : Context) (outbox : Outbox) :
    (s.carryOut services now ctx outbox).outcome = .ofError (StepFault.notConfigured key).message ↔
      s.Unset key ∨ s.Misshapen key := by
  have reads {key : String} := @Step.text?_eq_none_iff s key
  have named {key : String} := @Step.isNamed_eq_false_iff s key
  unfold Step.carryOut
  cases kind : s.kind <;> rw [kind] at required reads named <;>
    simp only [StepKind.requiredKeys, List.mem_singleton, List.not_mem_nil] at required <;> subst required
  case validation =>
    rw [← reads rfl]
    exact (demands_validation services s.config ctx).settle_iff
  case approval =>
    rw [← named rfl]
    exact (demands_approval services s.config ctx).settle_iff
  case notification =>
    rw [← named rfl]
    exact (demands_notification services s.config ctx outbox).settle_iff
  case assignTag =>
    rw [← reads rfl]
    exact (demands_assign s.config ctx now).settle_iff
  case removeTag =>
    rw [← reads rfl]
    exact (demands_remove s.config ctx).settle_iff
  case conditional =>
    rw [← reads rfl]
    exact (demands_conditional services s.config ctx).settle_iff
  case script =>
    rw [← reads rfl]
    exact (demands_script services s.config ctx).settle_iff
  case policyCheck =>
    rw [← reads rfl]
    exact (demands_policyCheck services s.config ctx).settle_iff

/-- A step fails for want of a setting in every context, whatever the services. -/
def Step.AlwaysWants (s : Step) (key : String) : Prop :=
  ∀ services now ctx outbox,
    (s.carryOut services now ctx outbox).outcome = .ofError (StepFault.notConfigured key).message

theorem alwaysWants_iff (required : key ∈ s.kind.requiredKeys) :
    s.AlwaysWants key ↔ s.Unset key ∨ s.Misshapen key := by
  refine ⟨fun always => ?_, fun lacks services now ctx outbox =>
    (carryOut_wants_iff required services now ctx outbox).2 lacks⟩
  let ctx : Context := {
    entity := {}, entityType := "", entityId := "", entityName := none, actor := none, trigger := none
    executionId := "", workflowId := "", workflowName := "", results := {} }
  exact (carryOut_wants_iff required (.basic fun _ => .timedOut) default ctx {}).1 (always _ _ _ _)

/-- What is reported of a step on its own: the required settings that are unset. -/
theorem missingConfig_mem_stepLint_iff {id : String} {position : Nat} :
    .missingConfig id key ∈ s.lint position ↔
      s.id = id ∧ Text.isBlank s.id = false ∧ key ∈ s.kind.requiredKeys ∧ s.Unset key := by
  have known : key ∈ s.kind.requiredKeys → s.kind.isKnown = true := by
    cases s.kind <;> simp [StepKind.requiredKeys, StepKind.isKnown]
  unfold Step.lint
  split
  · next blank => simp [blank]
  · next visible =>
    split
    · simp only [List.mem_map, List.mem_filter, Bool.not_eq_true', Step.isSet_eq_false_iff,
        Finding.missingConfig.injEq]
      constructor
      · rintro ⟨_, ⟨required, unset⟩, rfl, rfl⟩
        exact ⟨rfl, Bool.eq_false_iff.2 visible, required, unset⟩
      · rintro ⟨rfl, -, required, unset⟩
        exact ⟨key, ⟨required, unset⟩, rfl, rfl⟩
    · next unknown =>
      have other : key ∉ s.kind.requiredKeys := fun required => unknown (known required)
      simp [other]

theorem missingConfig_mem_lint_iff {w : Definition} {id : String} :
    .missingConfig id key ∈ w.lint ↔
      ∃ s ∈ w.steps, s.id = id ∧ Text.isBlank s.id = false ∧ key ∈ s.kind.requiredKeys ∧ s.Unset key := by
  have own : .missingConfig id key ∈ w.lint ↔ .missingConfig id key ∈ w.stepFindings := by
    unfold Definition.lint
    split
    · next empty => simp [Definition.stepFindings, List.isEmpty_iff.1 empty]
    · simp [Definition.branchFindings, Definition.reachFindings]
  rw [own]
  constructor
  · intro found
    obtain ⟨⟨s, i⟩, there, found⟩ := List.mem_flatMap.1 found
    rcases List.mem_append.1 found with repeated | found
    · split at repeated <;> simp at repeated
    · exact ⟨s, List.fst_mem_of_mem_zipIdx there, missingConfig_mem_stepLint_iff.1 found⟩
  · rintro ⟨s, mem, reported⟩
    obtain ⟨i, bound, rfl⟩ := List.mem_iff_getElem.1 mem
    exact List.mem_flatMap.2 ⟨(w.steps[i], i), List.mk_mem_zipIdx_iff_getElem?.2 (by simp),
      List.mem_append_right _ (missingConfig_mem_stepLint_iff.2 reported)⟩

/-- **What is reported agrees with how steps fail, but for misshapen settings.** A setting is reported for an id
just where a step with that id requires it and leaves it unset; in every context a step fails for want of a
required setting just where it is unset or misshapen. So for a step that has its id alone, what is reported is
that it always fails in this way, unless the setting is misshapen, and then it is not. -/
theorem lint_agrees_iff (w : Definition) (s : Step) (key : String) (mem : s ∈ w.steps)
    (visible : Text.isBlank s.id = false) (required : key ∈ s.kind.requiredKeys) :
    (.missingConfig s.id key ∈ w.lint ↔
      ∃ t ∈ w.steps, t.id = s.id ∧ key ∈ t.kind.requiredKeys ∧ t.Unset key) ∧
    (∀ services now ctx outbox,
      (s.carryOut services now ctx outbox).outcome = .ofError (StepFault.notConfigured key).message ↔
        s.Unset key ∨ s.Misshapen key) ∧
    ((∀ t ∈ w.steps, t.id = s.id → t = s) →
      ((.missingConfig s.id key ∈ w.lint ↔ s.AlwaysWants key) ↔ ¬ s.Misshapen key)) := by
  have reported : .missingConfig s.id key ∈ w.lint ↔
      ∃ t ∈ w.steps, t.id = s.id ∧ key ∈ t.kind.requiredKeys ∧ t.Unset key := by
    rw [missingConfig_mem_lint_iff]
    refine exists_congr fun t => and_congr_right fun _ => and_congr_right fun same => ?_
    rw [same, visible, eq_self, true_and]
  refine ⟨reported, carryOut_wants_iff required, fun alone => ?_⟩
  have own : .missingConfig s.id key ∈ w.lint ↔ s.Unset key := by
    rw [reported]
    constructor
    · rintro ⟨t, there, same, -, unset⟩
      exact alone t there same ▸ unset
    · exact fun unset => ⟨s, mem, rfl, required, unset⟩
  rw [own, alwaysWants_iff required]
  exact ⟨fun agree misshapen => Step.not_misshapen_of_unset (agree.2 (.inr misshapen)) misshapen,
    fun fits => ⟨.inl, fun lacks => lacks.resolve_right fits⟩⟩

/-- Two steps that always fail for want of a setting: `ask` has a list without an approver, and nothing is
reported of it; `tell` has no recipients, and that is reported. -/
theorem lint_agrees_ask_tell :
    let ask : Step :=
      { Step.new "ask" .approval with
        config := Dict.ofList [("approvers", .list [.text " "])]
        onPass := some "tell" }
    let tell : Step := Step.new "tell" .notification
    let w : Definition := { Definition.new "w" "W" with steps := [ask, tell] }
    (ask ∈ w.steps ∧ Text.isBlank ask.id = false ∧ "approvers" ∈ ask.kind.requiredKeys ∧
      (∀ t ∈ w.steps, t.id = ask.id → t = ask) ∧
      ¬ (.missingConfig ask.id "approvers" ∈ w.lint ↔ ask.AlwaysWants "approvers")) ∧
    (tell ∈ w.steps ∧ Text.isBlank tell.id = false ∧ "recipients" ∈ tell.kind.requiredKeys ∧
      (∀ t ∈ w.steps, t.id = tell.id → t = tell) ∧
      (.missingConfig tell.id "recipients" ∈ w.lint ↔ tell.AlwaysWants "recipients")) := by
  intro ask tell w
  have askAlone : ∀ t ∈ w.steps, t.id = ask.id → t = ask := by
    rintro t (_ | ⟨_, _ | ⟨_, _ | _⟩⟩) same
    · rfl
    · exact absurd same (by decide)
  have tellAlone : ∀ t ∈ w.steps, t.id = tell.id → t = tell := by
    rintro t (_ | ⟨_, _ | ⟨_, _ | _⟩⟩) same
    · exact absurd same (by decide)
    · rfl
  have askMisshapen : ask.Misshapen "approvers" := by
    have got : ask.config.get? "approvers" = some (.list [.text " "]) := by decide +kernel
    rw [Step.Misshapen, got]
    rintro - t (_ | ⟨_, _ | _⟩)
    decide +kernel
  have tellUnset : tell.Unset "recipients" := by
    have got : tell.config.get? "recipients" = none := by decide +kernel
    rw [Step.Unset, got]
    trivial
  have askVisible : Text.isBlank ask.id = false := by decide +kernel
  have tellVisible : Text.isBlank tell.id = false := by decide +kernel
  have askRequires : "approvers" ∈ ask.kind.requiredKeys := by decide
  have tellRequires : "recipients" ∈ tell.kind.requiredKeys := by decide
  have askThere : ask ∈ w.steps := .head _
  have tellThere : tell ∈ w.steps := .tail _ (.head _)
  obtain ⟨-, -, askAgrees⟩ := lint_agrees_iff w ask "approvers" askThere askVisible askRequires
  obtain ⟨-, -, tellAgrees⟩ := lint_agrees_iff w tell "recipients" tellThere tellVisible tellRequires
  refine ⟨⟨askThere, askVisible, askRequires, askAlone, fun agree => ?_⟩,
    ⟨tellThere, tellVisible, tellRequires, tellAlone, ?_⟩⟩
  · exact (askAgrees askAlone).1 agree askMisshapen
  · exact (tellAgrees tellAlone).2 (Step.not_misshapen_of_unset tellUnset)

/-- A number is no rule: the step always fails for want of one, and nothing is reported. -/
theorem lint_misses_number :
    let check : Step := { Step.new "check" .validation with config := Dict.ofList [("rule", .int 5)] }
    let w : Definition := { Definition.new "w" "W" with steps := [check] }
    check.kind.isKnown = true ∧ Text.isBlank check.id = false ∧ "rule" ∈ check.kind.requiredKeys ∧
      ¬ (.missingConfig check.id "rule" ∈ w.lint ↔ check.AlwaysWants "rule") := by
  intro check w
  have required : "rule" ∈ check.kind.requiredKeys := by decide
  refine ⟨rfl, by decide +kernel, required, fun agree => ?_⟩
  have misshapen : check.Misshapen "rule" := by
    have got : check.config.get? "rule" = some (.int 5) := by decide +kernel
    rw [Step.Misshapen, got]
    trivial
  have reported := agree.2 ((alwaysWants_iff required).2 (.inr misshapen))
  have silent : w.lint = [] := by decide +kernel
  rw [silent] at reported
  cases reported

end Steps

end Workflows
