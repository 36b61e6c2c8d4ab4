import Workflows.Store.Update

/-!
# The order of lists of executions

* `Time.le_trans`, `le_total`, `le_antisymm`: the order in time;
* `Execution.precedes_trans`, `precedes_total`, `id_eq_of_precedes`: the order by start, then by id;
* `Execution.inOrder_eq_of_perm`: a list in order does not depend on how its executions came.
-/

namespace Workflows

namespace Time

variable {a b c : Time}

theorem le_iff : a.le b = true ↔
    a.seconds < b.seconds ∨ (a.seconds = b.seconds ∧ a.nanos ≤ b.nanos) := by
  simp [le]

theorem le_trans (ab : a.le b = true) (bc : b.le c = true) : a.le c = true := by
  rw [le_iff] at *
  omega

theorem le_total (a b : Time) : a.le b = true ∨ b.le a = true := by
  rw [le_iff, le_iff]
  omega

theorem le_antisymm (ab : a.le b = true) (ba : b.le a = true) : a = b := by
  rw [le_iff] at *
  obtain ⟨s, n⟩ := a
  obtain ⟨s', n'⟩ := b
  simp only [mk.injEq] at *
  omega

end Time

namespace Execution

variable {a b c : Execution}

theorem precedes_iff : a.precedes b = true ↔
    a.startedAt.le b.startedAt = true ∧ (a.startedAt = b.startedAt → a.id ≤ b.id) := by
  unfold precedes
  split
  · next same => simp [same, Time.le_iff]
  · next other => simp [other]

theorem precedes_trans (ab : a.precedes b = true) (bc : b.precedes c = true) : a.precedes c = true := by
  rw [precedes_iff] at *
  refine ⟨Time.le_trans ab.1 bc.1, fun same => ?_⟩
  have first : a.startedAt = b.startedAt := Time.le_antisymm ab.1 (same ▸ bc.1)
  exact String.le_trans (ab.2 first) (bc.2 (first ▸ same))

theorem precedes_total (a b : Execution) : (a.precedes b || b.precedes a) = true := by
  rw [Bool.or_eq_true, precedes_iff, precedes_iff]
  by_cases same : a.startedAt = b.startedAt
  · rcases String.le_total a.id b.id with first | first
    · exact .inl ⟨by simp [same, Time.le_iff], fun _ => first⟩
    · exact .inr ⟨by simp [same, Time.le_iff], fun _ => first⟩
  · rcases Time.le_total a.startedAt b.startedAt with first | first
    · exact .inl ⟨first, fun equal => absurd equal same⟩
    · exact .inr ⟨first, fun equal => absurd equal.symm same⟩

/-- Executions that come before each other have one id. -/
theorem id_eq_of_precedes (ab : a.precedes b = true) (ba : b.precedes a = true) : a.id = b.id := by
  rw [precedes_iff] at *
  have same := Time.le_antisymm ab.1 ba.1
  exact String.le_antisymm (ab.2 same) (ba.2 same.symm)

/-- **A list of executions with different ids has one order, however they come.** -/
theorem inOrder_eq_of_perm {as bs : List Execution} (perm : as.Perm bs)
    (distinct : ∀ a ∈ as, ∀ b ∈ bs, a.id = b.id → a = b) : inOrder as = inOrder bs := by
  have trans (a b c : Execution) : a.precedes b = true → b.precedes c = true → a.precedes c = true :=
    precedes_trans
  have sorted (es : List Execution) : (inOrder es).Pairwise fun a b => a.precedes b = true :=
    List.pairwise_mergeSort trans precedes_total es
  refine List.Perm.eq_of_pairwise (fun a b mem mem' ab ba => ?_) (sorted as) (sorted bs)
    ((List.mergeSort_perm _ _).trans (perm.trans (List.mergeSort_perm _ _).symm))
  exact distinct a (List.mem_mergeSort.1 mem) b (List.mem_mergeSort.1 mem') (id_eq_of_precedes ab ba)

end Execution

end Workflows
