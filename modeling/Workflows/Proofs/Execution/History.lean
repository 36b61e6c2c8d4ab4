import Workflows.Engine.Basic

/-!
# Histories of executions

What the history of an execution says, and how that changes with a further record and with a decision.

* `Tally.ofRecords`: how many of a list of records passed and how many failed;
* `Execution.Recorded`: the records are marked by their verdicts and have ids of their own;
* `Execution.DecidedOn`: the records that decisions were taken on;
* `decisions_apply`: a change of status without a decision;
* `results_concat`: the results after a further record;
* `results_decided`: the results after a decision on the last record;
* `lastRecord?_concat`: the last record is the latest of its step.
-/

namespace Workflows

/-! ## Tallies -/

namespace Tally

/-- How many of a list of records passed and how many failed. -/
def ofRecords (rs : List StepRecord) : Tally :=
  ⟨.ofNat (rs.countP (·.passed)), .ofNat (rs.countP fun r => !r.passed)⟩

theorem ofRecords_concat (rs : List StepRecord) (r : StepRecord) :
    ofRecords (rs ++ [r]) = (ofRecords rs).count r.passed := by
  cases h : r.passed <;> simp [ofRecords, count, h, UInt32.ofNat_add]

end Tally

namespace Execution

/-! ## Records -/

/-- The records are marked by their verdicts and have ids of their own, each among the first `n` that a
source makes. -/
structure Recorded (mint : Nat → String) (n : Nat) (x : Execution) : Prop where
  marked : ∀ r ∈ x.records, r.status = .ofPassed r.passed
  minted : ∀ r ∈ x.records, ∃ k < n, r.id = mint k
  distinct : (x.records.map (·.id)).Nodup

/-- The decisions were taken on the blocking ones of a list of records. -/
def DecidedOn (x : Execution) (rs : List StepRecord) : Prop :=
  ∀ id, (x.decisions.get? id).isSome = true ↔ ∃ r ∈ rs, r.blocking = true ∧ r.id = id

variable {mint : Nat → String} {n m : Nat} {x : Execution} {r : StepRecord}

theorem Recorded.mono (h : x.Recorded mint n) (le : n ≤ m) : x.Recorded mint m :=
  { h with minted := fun r hr => let ⟨k, hk, e⟩ := h.minted r hr; ⟨k, by omega, e⟩ }

/-- An id that was not made yet is no record's. -/
theorem Recorded.id_ne (h : x.Recorded mint n) (injective : mint.Injective)
    (hr : r ∈ x.records) : r.id ≠ mint n := by
  obtain ⟨k, hk, e⟩ := h.minted r hr
  intro e'
  have := injective (e.symm.trans e')
  omega

/-- A further record with a fresh id. -/
theorem Recorded.concat (h : x.Recorded mint n) (injective : mint.Injective)
    (id : r.id = mint n) (marked : r.status = .ofPassed r.passed) :
    { x with records := x.records ++ [r] }.Recorded mint (n + 1) where
  marked q hq := by
    rcases List.mem_append.1 hq with hq | hq
    · exact h.marked q hq
    · rw [List.mem_singleton.1 hq]
      exact marked
  minted q hq := by
    rcases List.mem_append.1 hq with hq | hq
    · obtain ⟨k, hk, e⟩ := h.minted q hq
      exact ⟨k, by omega, e⟩
    · rw [List.mem_singleton.1 hq]
      exact ⟨n, by omega, id⟩
  distinct := by
    rw [List.map_append, List.nodup_append]
    refine ⟨h.distinct, by simp, fun a ha b hb => ?_⟩
    obtain ⟨q, hq, rfl⟩ := List.mem_map.1 ha
    have hb : b = r.id := by simpa using hb
    rw [hb, id]
    exact h.id_ne injective hq

/-- An id that was not made yet has no decision. -/
theorem Recorded.undecided (h : x.Recorded mint n) (injective : mint.Injective)
    (decided : x.DecidedOn x.records) : x.decisions.get? (mint n) = none := by
  rw [← Option.not_isSome_iff_eq_none, decided]
  rintro ⟨q, hq, -, e⟩
  exact h.id_ne injective hq e

/-- A change of status without a decision leaves the decisions as they are. -/
theorem decisions_apply {u : StatusUpdate} (undecided : u.decision = none) :
    (x.apply u).decisions = x.decisions := by
  unfold apply
  rw [undecided]

theorem DecidedOn.concat_free {rs : List StepRecord} (h : x.DecidedOn rs)
    (free : r.blocking = false) : x.DecidedOn (rs ++ [r]) := by
  intro id
  rw [h id]
  simp [or_and_right, exists_or, free]

/-- A decision on a blocking record. -/
theorem DecidedOn.insert {y : Execution} {rs : List StepRecord} {result : StepResult}
    (h : x.DecidedOn rs) (blocking : r.blocking = true)
    (decisions : y.decisions = x.decisions.insert r.id result) : y.DecidedOn (rs ++ [r]) := by
  intro id
  rw [decisions, Dict.get?_insert]
  by_cases e : r.id = id
  · simp [e, blocking]
  · rw [if_neg e, h id]
    simp [or_and_right, exists_or, e]

/-! ## Results -/

/-- **The results after a further record without a decision.** -/
theorem results_concat (undecided : x.decisions.get? r.id = none) :
    { x with records := x.records ++ [r] }.results = x.results.insert r.stepId r.result := by
  unfold results
  rw [List.map_append, List.map_singleton, Dict.ofList_concat]
  congr 1
  unfold resultOf
  rw [undecided]
  rfl

/-- The last record's id is no other record's. -/
theorem ne_of_distinct {earlier : List StepRecord} (records : x.records = earlier ++ [r])
    (distinct : (x.records.map (·.id)).Nodup) : ∀ q ∈ earlier, q.id ≠ r.id := by
  intro q hq
  rw [records, List.map_append, List.nodup_append] at distinct
  exact distinct.2.2 q.id (List.mem_map_of_mem hq) r.id (by simp)

/-- **The results after a decision on the last record.** -/
theorem results_decided {y : Execution} {earlier : List StepRecord} {result : StepResult}
    (records : x.records = earlier ++ [r]) (distinct : (x.records.map (·.id)).Nodup)
    (same : y.records = x.records) (decisions : y.decisions = x.decisions.insert r.id result) :
    y.results = x.results.insert r.stepId result := by
  have others := ne_of_distinct records distinct
  have before : earlier.map (fun q => (q.stepId, y.resultOf q)) =
      earlier.map fun q => (q.stepId, x.resultOf q) := by
    refine List.map_congr_left fun q hq => ?_
    simp [resultOf, decisions, Ne.symm (others q hq)]
  have last : y.resultOf r = result := by simp [resultOf, decisions]
  unfold results
  rw [same, records, List.map_append, List.map_append, before, List.map_singleton, List.map_singleton,
    Dict.ofList_concat, Dict.ofList_concat, Dict.insert_insert, last]

/-- The last record is the latest of its step. -/
theorem lastRecord?_concat {earlier : List StepRecord} (records : x.records = earlier ++ [r]) :
    x.lastRecord? r.stepId = some r := by
  simp [lastRecord?, records]

end Execution

end Workflows
