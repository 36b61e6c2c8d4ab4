import Workflows.Proofs.Data.Document
import Workflows.Execution.Record

/-!
# Executions are read back as they were written

* `StepStatus.ofName?_name`, `Status.ofName?_name`, `count?_of_denotes`, `time?_of_denotes`: what fields of
  one kind are read as;
* `Execution.Canonical`: the data in an execution is in canonical form; `Execution.times`: the times in it;
* `StepResult.decode?_of_denotes`, `Trigger.decode?_of_denotes`, `StepRecord.decode?_of_denotes`,
  `Execution.decode?_of_denotes`: a document that stands for a record is read as that record;
* **`Execution.decode?_encode`**: an execution is read back from its data.
-/

namespace Workflows

open Document

variable {δ : Type} [Document δ] {d : δ}

/-! ## Fields of one kind -/

theorem Status.ofName?_name (s : Status) : Status.ofName? s.name = some s := by
  cases s <;> rfl

theorem StepStatus.ofName?_name (s : StepStatus) : StepStatus.ofName? s.name = some s := by
  cases s <;> rfl

theorem count?_of_denotes {n : UInt32} (h : Denotes d (.nat n.toNat)) : count? d = some n := by
  have small : n.toNat < UInt32.size := n.toNat_lt
  have read : nat? d = some n.toNat := h.nat? (by
    have : UInt32.size ≤ Number.maxInt := by decide
    omega)
  unfold count?
  rw [read, Option.bind_some, if_pos small, UInt32.ofNat_toNat]

theorem time?_of_denotes {t : Time} (h : Denotes d (.text t.text)) (survives : Time.read? t.text = some t) :
    time? d = some t := by
  unfold time?
  rw [h.text?, Option.bind_some, survives]

theorem name?_of_denotes {α : Type} {ofName? : String → Option α} {name : α → String}
    (inverse : ∀ a, ofName? (name a) = some a) {a : α} (h : Denotes d (.text (name a))) :
    (name? d).bind ofName? = some a := by
  rw [h.name?, Option.bind_some, inverse]

/-! ## Results, triggers and records -/

namespace StepResult

theorem proper_fields : Proper fields := by decide

/-- A document that stands for a result is read as it. -/
theorem decode?_of_denotes {r : StepResult} (canonical : ∀ o ∈ r.data, o.IsCanonical)
    (h : Denotes d r.encode) : decode? d = some r := by
  obtain ⟨fs, given, holds⟩ := h.fields? proper_fields rfl
  have passed : fs.required "passed" bool? = some r.passed :=
    holds.required (by simp) fun _ => Denotes.bool?
  have message : fs.optional "message" text? = some r.message := holds.optional_text (by simp)
  have data : fs.optional "data" object? = some r.data :=
    holds.optional (by simp) (fun _ => rfl) fun o has _ denotes => denotes.object? (canonical o has)
  exact read_then given <| read_then passed <| read_then message <| read_then data rfl

end StepResult

namespace Trigger

theorem proper_fields : Proper fields := by decide

/-- A document that stands for a trigger is read as it; where there is no metadata, it is empty. -/
theorem decode?_of_denotes {t : Trigger} (canonical : t.metadata.IsCanonical) (h : Denotes d t.encode) :
    decode? d = some t := by
  obtain ⟨fs, given, holds⟩ := h.fields? proper_fields rfl
  have type : fs.required "trigger_type" text? = some t.type := holds.required_text (by simp)
  have entityType : fs.optional "entity_type" text? = some t.entityType := holds.optional_text (by simp)
  have entityId : fs.optional "entity_id" text? = some t.entityId := holds.optional_text (by simp)
  have entityName : fs.optional "entity_name" text? = some t.entityName := holds.optional_text (by simp)
  have userEmail : fs.optional "user_email" text? = some t.userEmail := holds.optional_text (by simp)
  have fromStatus : fs.optional "from_status" text? = some t.fromStatus := holds.optional_text (by simp)
  have toStatus : fs.optional "to_status" text? = some t.toStatus := holds.optional_text (by simp)
  have metadata : fs.orElse "metadata" {} object? = some t.metadata :=
    holds.orElse_dict (by simp) fun _ denotes => denotes.object? canonical
  exact read_then given <| read_then type <| read_then entityType <| read_then entityId <|
    read_then entityName <| read_then userEmail <| read_then fromStatus <| read_then toStatus <|
    read_then metadata rfl

end Trigger

namespace StepRecord

theorem proper_fields : Proper fields := by decide

/-- A document that stands for a record is read as it. -/
theorem decode?_of_denotes {r : StepRecord} (started : Time.read? r.startedAt.text = some r.startedAt)
    (finished : Time.read? r.finishedAt.text = some r.finishedAt)
    (canonical : ∀ o ∈ r.data, o.IsCanonical) (h : Denotes d r.encode) : decode? d = some r := by
  obtain ⟨fs, given, holds⟩ := h.fields? proper_fields rfl
  have id : fs.required "id" text? = some r.id := holds.required_text (by simp)
  have stepId : fs.required "step_id" text? = some r.stepId := holds.required_text (by simp)
  have status : fs.required "status" (fun d => (name? d).bind StepStatus.ofName?) = some r.status :=
    holds.required (by simp) fun _ => name?_of_denotes StepStatus.ofName?_name
  have passed : fs.required "passed" bool? = some r.passed :=
    holds.required (by simp) fun _ => Denotes.bool?
  have blocking : fs.orElse "blocking" false bool? = some r.blocking :=
    holds.orElse (by simp) fun _ => Denotes.bool?
  have message : fs.optional "message" text? = some r.message := holds.optional_text (by simp)
  have data : fs.optional "result_data" object? = some r.data :=
    holds.optional (by simp) (fun _ => rfl) fun o has _ denotes => denotes.object? (canonical o has)
  have error : fs.optional "error_message" text? = some r.error := holds.optional_text (by simp)
  have duration : fs.required "duration_ms" real? = some r.duration :=
    holds.required (by simp) fun _ => Denotes.real?
  have startedAt : fs.required "started_at" time? = some r.startedAt :=
    holds.required (by simp) fun _ denotes => time?_of_denotes denotes started
  have finishedAt : fs.required "finished_at" time? = some r.finishedAt :=
    holds.required (by simp) fun _ denotes => time?_of_denotes denotes finished
  exact read_then given <| read_then id <| read_then stepId <| read_then status <| read_then passed <|
    read_then blocking <| read_then message <| read_then data <| read_then error <|
    read_then duration <| read_then startedAt <| read_then finishedAt rfl

end StepRecord

/-! ## Executions -/

namespace Execution

theorem proper_fields : Proper fields := by decide

/-- The times in an execution. -/
def times (e : Execution) : List Time :=
  e.startedAt :: e.finishedAt.toList ++ e.records.flatMap fun r => [r.startedAt, r.finishedAt]

theorem mem_times_of_mem_records {e : Execution} {r : StepRecord} (mem : r ∈ e.records) :
    r.startedAt ∈ e.times ∧ r.finishedAt ∈ e.times :=
  ⟨List.mem_append_right _ (List.mem_flatMap.2 ⟨r, mem, by simp⟩),
    List.mem_append_right _ (List.mem_flatMap.2 ⟨r, mem, by simp⟩)⟩

/-- All data in an execution is in canonical form: no object has a key twice, and its keys ascend. -/
structure Canonical (e : Execution) : Prop where
  entity : e.entity.IsCanonical
  trigger : ∀ t ∈ e.trigger, t.metadata.IsCanonical
  records : ∀ r ∈ e.records, ∀ o ∈ r.data, o.IsCanonical
  decisions : ∀ b ∈ e.decisions.entries, ∀ o ∈ b.2.data, o.IsCanonical

/-- A document that stands for an execution is read as it. -/
theorem decode?_of_denotes {e : Execution} (times : ∀ t ∈ e.times, Time.read? t.text = some t)
    (canonical : e.Canonical) (h : Denotes d e.encode) : decode? d = some e := by
  obtain ⟨fs, given, holds⟩ := h.fields? proper_fields rfl
  have id : fs.required "id" text? = some e.id := holds.required_text (by simp)
  have workflowId : fs.required "workflow_id" text? = some e.workflowId := holds.required_text (by simp)
  have workflowName : fs.required "workflow_name" text? = some e.workflowName :=
    holds.required_text (by simp)
  have status : fs.required "status" (fun d => (name? d).bind Status.ofName?) = some e.status :=
    holds.required (by simp) fun _ => name?_of_denotes Status.ofName?_name
  have currentStep : fs.optional "current_step_id" text? = some e.currentStep :=
    holds.optional_text (by simp)
  have successes : fs.required "success_count" count? = some e.successes :=
    holds.required (by simp) fun _ => count?_of_denotes
  have failures : fs.required "failure_count" count? = some e.failures :=
    holds.required (by simp) fun _ => count?_of_denotes
  have error : fs.optional "error_message" text? = some e.error := holds.optional_text (by simp)
  have startedAt : fs.required "started_at" time? = some e.startedAt :=
    holds.required (by simp) fun _ denotes => time?_of_denotes denotes (times _ (by simp [Execution.times]))
  have finishedAt : fs.optional "finished_at" time? = some e.finishedAt :=
    holds.optional (by simp) (fun _ => rfl) fun t has _ denotes =>
      time?_of_denotes denotes (times t (by simp [Execution.times, has]))
  have triggeredBy : fs.optional "triggered_by" text? = some e.triggeredBy :=
    holds.optional_text (by simp)
  have trigger : fs.optional "trigger_context" Trigger.decode? = some e.trigger :=
    holds.optional (by simp) (fun _ => rfl) fun t has _ =>
      Trigger.decode?_of_denotes (canonical.trigger t has)
  have entityType : fs.required "entity_type" text? = some e.entityType := holds.required_text (by simp)
  have entityId : fs.required "entity_id" text? = some e.entityId := holds.required_text (by simp)
  have entityName : fs.optional "entity_name" text? = some e.entityName := holds.optional_text (by simp)
  have entity : fs.orElse "entity" {} object? = some e.entity :=
    holds.orElse (by simp) fun _ denotes => denotes.object? canonical.entity
  have records : fs.orElse "step_executions" [] (list? StepRecord.decode?) = some e.records :=
    holds.orElse (by simp) fun _ denotes => denotes.list? fun r mem _ =>
      StepRecord.decode?_of_denotes (times _ (mem_times_of_mem_records mem).1)
        (times _ (mem_times_of_mem_records mem).2) (canonical.records r mem)
  have decisions : fs.orElse "decisions" {} (dict? StepResult.decode?) = some e.decisions :=
    holds.orElse_dict (by simp) fun d (denotes : Denotes d (encodeResults e.decisions)) =>
      denotes.dict? fun id r bound _ =>
        StepResult.decode?_of_denotes (canonical.decisions (id, r) (Dict.mem_entries_iff.2 bound))
  exact read_then given <| read_then id <| read_then workflowId <| read_then workflowName <|
    read_then status <| read_then currentStep <| read_then successes <| read_then failures <|
    read_then error <| read_then startedAt <| read_then finishedAt <| read_then triggeredBy <|
    read_then trigger <| read_then entityType <| read_then entityId <| read_then entityName <|
    read_then entity <| read_then records <| read_then decisions rfl

/-- **An execution is read back from its data**, whatever is in it and whatever is absent. -/
theorem decode?_encode {e : Execution} (times : ∀ t ∈ e.times, Time.read? t.text = some t)
    (canonical : e.Canonical) : decode? e.encode = some e :=
  decode?_of_denotes times canonical e.encode.denotes

/-- An execution with an empty message, with empty data and with a decision on its one record. -/
def decided : Execution :=
  { id := "e-1", workflowId := "release", workflowName := "Release", status := .failed,
    currentStep := none, successes := 0, failures := 1, error := some "refused",
    startedAt := ⟨1700000000, 0⟩, finishedAt := some ⟨1700000061, 500000000⟩, triggeredBy := none,
    trigger := some (.new "manual"), entityType := "build", entityId := "42", entityName := some "",
    entity := .ofList [("tags", .list [.text "a", .null])],
    records := [{
      id := "r-1", stepId := "review", status := .failed, passed := false, blocking := true,
      message := some "", data := some {}, error := none, duration := .zero,
      startedAt := ⟨1700000000, 0⟩, finishedAt := ⟨1700000001, 0⟩ }],
    decisions := .ofList [("r-1", ⟨false, none, some (.ofList [("note", .object [])])⟩)] }

/-- What is empty stays, and what is absent stays so. -/
theorem decode?_encode_decided : decode? decided.encode = some decided :=
  decode?_encode (by decide +kernel)
    ⟨by decide +kernel, by decide +kernel, by decide +kernel, by decide +kernel⟩

end Execution

end Workflows
