import Workflows.Proofs.Engine.Lifecycle
import Workflows.Proofs.Engine.Preserves

/-!
# Decisions on what was read before

A decision is brought to an execution in two steps: the execution is read, and then it is changed, provided
that it is paused. Between the two, others may have changed it.

* `Operates`: one call of an engine or one operation of the repository; `Operates.stored`;
* `UpdatesPaused`: what a change of a paused execution comes to, by the status that it has by then;
* `decided_of_follows`: an execution stays as it was read until a decision is taken on the step that it
  waits for;
* **`claim_of_snapshot`**: the change goes through on an execution that is no longer as it was read exactly
  when another decision was taken and the execution waits again.
-/

namespace Workflows

/-- One complete operation on a world: a call of an engine, or an operation of the repository. -/
inductive Operates (mint : Nat → String) : World MemoryStore → World MemoryStore → Prop
  | called {world next : World MemoryStore} (follows : Follows mint world next) :
      Operates mint world next
  | created {world : World MemoryStore} (x : Execution) :
      Operates mint world { world with store := (world.store.create x).2 }
  | appended {world : World MemoryStore} (id : String) (r : StepRecord) :
      Operates mint world { world with store := (world.store.append id r).2 }
  | updated {world : World MemoryStore} (id : String) (expected : Status) (u : StatusUpdate) :
      Operates mint world { world with store := (world.store.update id expected u).2 }

/-- What a change of a paused execution comes to: it goes through if the execution is paused, whatever else
it has become, and changes nothing otherwise. -/
structure UpdatesPaused (s : MemoryStore) (id : String) (u : StatusUpdate) (now : Execution) : Prop where
  stored : s.executions.get? id = some now
  accepted : now.status = .paused → s.update id .paused u = (.ok (now.apply u), s.set id (now.apply u))
  refused : now.status ≠ .paused →
    s.update id .paused u = (.error (.staleTransition now.id .paused now.status), s)

section

variable {mint : Nat → String} {world : World MemoryStore} {id : String} {x : Execution}

/-- An execution that is stored stays stored. -/
theorem Operates.stored {next : World MemoryStore} (operates : Operates mint world next)
    (stored : (world.store.executions.get? id).isSome = true) :
    (next.store.executions.get? id).isSome = true := by
  have keeps := MemoryStore.repository_preserves_stored id
  cases operates with
  | called follows =>
    cases follows with
    | ran e he w r =>
      rw [← he.repository] at keeps
      exact Engine.run_preserves keeps r stored
    | resumed e he other passed data =>
      rw [← he.repository] at keeps
      exact Engine.resume_preserves keeps other passed data stored
    | registered workflows => exact stored
  | created y => exact keeps.create y _ stored
  | appended other r => exact keeps.append other r _ stored
  | updated other expected u => exact keeps.update other expected u _ stored

theorem stored_of_operates {later : World MemoryStore}
    (stored : (world.store.executions.get? id).isSome = true)
    (steps : Relation.ReflTransGen (Operates mint) world later) :
    (later.store.executions.get? id).isSome = true := by
  induction steps with
  | refl => exact stored
  | tail _ operates ih => exact operates.stored ih

theorem updatesPaused_of_stored {s : MemoryStore} (stored : s.executions.get? id = some x)
    (u : StatusUpdate) : UpdatesPaused s id u x where
  stored := stored
  accepted paused := MemoryStore.update_of_status stored paused u
  refused unpaused := MemoryStore.update_of_ne stored unpaused u

theorem UpdatesPaused.accepted_iff {s : MemoryStore} {u : StatusUpdate} (h : UpdatesPaused s id u x) :
    (∃ y, (s.update id .paused u).1 = .ok y) ↔ x.status = .paused := by
  constructor
  · rintro ⟨y, result⟩
    by_cases paused : x.status = .paused
    · exact paused
    · rw [h.refused paused] at result
      cases result
  · intro paused
    exact ⟨_, by rw [h.accepted paused]⟩

/-! ## Between the reading and the change -/

/-- A decision on an execution that waits leaves a decision on the record that it waits for. -/
theorem Takes.decided {e : Engine MemoryStore} {passed : Bool} {data : Option Object} {w : Definition}
    {earlier before : List StepRecord} {r q : StepRecord} {ended : Ended MemoryStore}
    {y z : Execution} (waits : x.Waits earlier r)
    (takes : Takes mint e id passed data world y w before q ended z)
    (h : y = x ∨ (y.decisions.get? r.id).isSome = true) : (z.decisions.get? r.id).isSome = true := by
  rw [takes.decisions, Dict.get?_insert]
  rcases h with rfl | decided
  · have last : q = r := by
      have records := takes.waits.records
      rw [waits.records] at records
      exact (List.cons.inj (List.append_inj' records rfl).2).1.symm
    rw [if_pos (congrArg StepRecord.id last)]
    rfl
  · split
    · rfl
    · exact decided

/-- **Only a decision changes an execution that waits.** -/
theorem decided_of_follows {later : World MemoryStore} {earlier : List StepRecord} {r : StepRecord}
    (injective : mint.Injective) (sound : Sound mint world) (waits : x.Waits earlier r)
    (stored : world.store.executions.get? id = some x)
    (steps : Relation.ReflTransGen (Follows mint) world later) :
    Holds id (fun now => now = x ∨ (now.decisions.get? r.id).isSome = true) later := by
  have start : Holds id (fun now => now = x ∨ (now.decisions.get? r.id).isSome = true) world :=
    ⟨x, stored, .inl rfl⟩
  refine (sound.later injective (fun step => step) (fun sound follows h => ?_) start steps).2
  exact follows.holds injective sound h fun _ takes h => .inr (takes.decided waits h)

/-- An execution that waits is as it was read as long as there is no decision on what it waits for. -/
theorem Execution.Waits.unchanged_iff {n : Nat} {earlier : List StepRecord} {r : StepRecord}
    {now : Execution} (waits : x.Waits earlier r) (rests : x.Rests mint n)
    (h : now = x ∨ (now.decisions.get? r.id).isSome = true) :
    now = x ↔ now.decisions.get? r.id = none := by
  constructor
  · rintro rfl
    exact waits.undecided rests
  · intro undecided
    rcases h with same | decided
    · exact same
    · rw [undecided] at decided
      cases decided

end

/-- **The change for a decision goes through on an execution that is no longer as it was read exactly when
another decision was taken on the same step and the execution waits again.**

The first part says what becomes of the change after any operations, the second when that is wrong where
nobody but engines changes executions. -/
theorem claim_of_snapshot (mint : Nat → String) (world : World MemoryStore) (id : String)
    (x : Execution) (stepId : String) (passed : Bool) (data : Option Object)
    (stored : world.store.executions.get? id = some x)
    (cursor : x.currentStep = some stepId) :
    let u := Engine.claim x stepId ((Context.restore x).decide stepId passed data)
    (∀ later, Relation.ReflTransGen (Operates mint) world later →
      ∃ now, UpdatesPaused later.store id u now) ∧
    (mint.Injective → Reachable mint world →
      ∃ r, x.records.getLast? = some r ∧ r.stepId = stepId ∧
        ∀ later, Relation.ReflTransGen (Follows mint) world later →
          ∃ now, UpdatesPaused later.store id u now ∧
            (now = x ↔ now.decisions.get? r.id = none) ∧
            ((∃ y, (later.store.update id .paused u).1 = .ok y) ∧ now ≠ x ↔
              now.status = .paused ∧ (now.decisions.get? r.id).isSome = true)) := by
  intro u
  constructor
  · intro later steps
    have kept := stored_of_operates (by rw [stored, Option.isSome_some]) steps
    obtain ⟨now, found⟩ := Option.isSome_iff_exists.1 kept
    exact ⟨now, updatesPaused_of_stored found u⟩
  · intro injective reachable
    have sound := reachable.sound injective
    obtain ⟨-, rests⟩ := sound id x stored
    rcases rests.state with ⟨earlier, r, waits⟩ | finished
    · have same : r.stepId = stepId := by
        rw [waits.cursor] at cursor
        exact Option.some.inj cursor
      refine ⟨r, by simp [waits.records], same, fun later steps => ?_⟩
      obtain ⟨now, found, state⟩ := decided_of_follows injective sound waits stored steps
      have updates := updatesPaused_of_stored found u
      have unchanged := waits.unchanged_iff rests state
      refine ⟨now, updates, unchanged, ?_⟩
      rw [updates.accepted_iff, ne_eq, unchanged, Option.isSome_iff_ne_none]
    · have wrong := finished.cursor
      rw [cursor] at wrong
      cases wrong

/-- In the sample, a decision on what was read while the review was waited for goes through when the
sign-off is waited for. -/
theorem claim_signing : ∃ x now,
    Sample.reviewing.store.executions.get? (Sample.mint 0) = some x ∧
    Sample.signing.store.executions.get? (Sample.mint 0) = some now ∧
    (∃ y, (Sample.signing.store.update (Sample.mint 0) .paused (Engine.claim x "review"
      ((Context.restore x).decide "review" false none))).1 = .ok y) ∧ now ≠ x := by
  have before : (Sample.reviewing.store.executions.get? (Sample.mint 0)).map
      (fun x => (x.currentStep, x.records.getLast?.map (·.id))) =
        some (some "review", some (Sample.mint 1)) := by decide +kernel
  have after : (Sample.signing.store.executions.get? (Sample.mint 0)).map
      (fun now => (now.status, (now.decisions.get? (Sample.mint 1)).isSome)) =
        some (.paused, true) := by decide +kernel
  obtain ⟨x, stored, fields⟩ := Option.map_eq_some_iff.1 before
  obtain ⟨cursor, record⟩ := Prod.mk.inj fields
  obtain ⟨r, last, -, later⟩ := (claim_of_snapshot Sample.mint Sample.reviewing (Sample.mint 0) x
    "review" false none stored cursor).2 Sample.mint_injective Sample.reachable_reviewing
  obtain ⟨now, updates, -, goes⟩ := later Sample.signing (.single Sample.follows_signing)
  rw [last] at record
  rw [updates.stored] at after
  obtain ⟨waiting, decided⟩ := Prod.mk.inj (Option.some.inj after)
  rw [← Option.some.inj record] at decided
  exact ⟨x, now, stored, updates.stored, goes.2 ⟨waiting, decided⟩⟩

/-- **A decision on what was read before is not always refused.** In the sample, it is taken on the review
while the sign-off is waited for: the execution runs again, without its cursor, with the count of before,
and with the approval of the review turned into a rejection. -/
theorem outdated_claim_goes_through : ∃ x now,
    let u := Engine.claim x "review" ((Context.restore x).decide "review" false none)
    let y := now.apply u
    Reachable Sample.mint Sample.reviewing ∧ Follows Sample.mint Sample.reviewing Sample.signing ∧
    Sample.reviewing.store.executions.get? (Sample.mint 0) = some x ∧ x.status = .paused ∧
    Sample.signing.store.executions.get? (Sample.mint 0) = some now ∧ now ≠ x ∧
    (Sample.signing.store.update (Sample.mint 0) .paused u).1 = .ok y ∧
    (now.currentStep, now.successes, (now.decisions.get? (Sample.mint 1)).map (·.passed)) =
      (some "sign-off", 2, some true) ∧
    (y.currentStep, y.successes, (y.decisions.get? (Sample.mint 1)).map (·.passed)) =
      (none, 1, some false) := by
  have before : (Sample.reviewing.store.executions.get? (Sample.mint 0)).map
      (fun x => (x.status, x.successes)) = some (.paused, 1) := by decide +kernel
  have after : (Sample.signing.store.executions.get? (Sample.mint 0)).map
      (fun now => (now.status, now.currentStep, now.successes,
        (now.decisions.get? (Sample.mint 1)).map (·.passed))) =
      some (.paused, some "sign-off", 2, some true) := by decide +kernel
  have changed : ((Sample.reviewing.store.executions.get? (Sample.mint 0)).bind fun x =>
      (Sample.signing.store.executions.get? (Sample.mint 0)).map fun now =>
        now.apply (Engine.claim x "review" ((Context.restore x).decide "review" false none))).map
      (fun y => (y.currentStep, y.successes, (y.decisions.get? (Sample.mint 1)).map (·.passed))) =
      some (none, 1, some false) := by decide +kernel
  obtain ⟨x, read, fields⟩ := Option.map_eq_some_iff.1 before
  obtain ⟨paused, one⟩ := Prod.mk.inj fields
  obtain ⟨now, stored, fields⟩ := Option.map_eq_some_iff.1 after
  obtain ⟨waiting, fields⟩ := Prod.mk.inj fields
  rw [read, stored] at changed
  refine ⟨x, now, Sample.reachable_reviewing, Sample.follows_signing, read, paused, stored, ?_, ?_,
    fields, Option.some.inj changed⟩
  · intro same
    rw [same, one] at fields
    simp at fields
  · rw [MemoryStore.update_of_status stored waiting]

end Workflows
