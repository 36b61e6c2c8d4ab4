import Mathlib.Data.List.Forall2
import Workflows.Proofs.Engine.Growth
import Workflows.Proofs.Engine.Session

/-!
# Decisions and the records that they resolve

Every decision that is taken is kept for the record that the execution waits for, and for no other one.

* `Decision`: what a decision says; `Decision.Resolves`: what it makes of the result of a record;
* `Execution.resolved`: the blocking records of an execution but the one that it waits for;
* `Execution.Answers`: the decisions of an execution are given ones, one for each of these records;
* `Call.decisions`: the decision that a call takes on an execution;
* `resolved_of_becomes`, `Takes.answers`: a run resolves no record, and a decision resolves one;
* **`session_answers`**: after any session every execution answers to the decisions that it took on it.
-/

namespace Workflows

/-- What a decision from outside says. -/
structure Decision where
  passed : Bool
  data : Option Object
  deriving DecidableEq

/-- What a decision makes of the result of a record: the verdict is that of the decision, its data are put
over those of the record, and its message, where it has one, takes the place of the record's. -/
structure Decision.Resolves (d : Decision) (r : StepRecord) (result : StepResult) : Prop where
  passed : result.passed = d.passed
  bare : d.data = none → result.data = r.data ∧ result.message = r.message
  overlaid : ∀ given, d.data = some given → ∃ members, result.data = some members ∧
    ∀ key, members.get? key = (given.get? key).or ((r.data.getD {}).get? key)
  worded : ∀ given text, d.data = some given → given.get? "message" = some (.text text) →
    result.message = some text
  unworded : ∀ given, d.data = some given → (∀ text, given.get? "message" ≠ some (.text text)) →
    result.message = r.message

namespace Execution

/-- The blocking records of an execution but the one that it waits for a decision on, the last record while
it is paused. -/
def resolved (x : Execution) : List StepRecord :=
  (if x.status = .paused then x.records.dropLast else x.records).filter (·.blocking)

/-- The decisions of an execution are the given ones, one for each record that was waited for, in order. -/
structure Answers (x : Execution) (given : List Decision) : Prop where
  keys : ∀ key, x.decisions.contains key = true ↔ ∃ r ∈ x.resolved, r.id = key
  count : x.decisions.size = given.length
  resolves : List.Forall₂ (fun r d => ∃ result, x.decisions.get? r.id = some result ∧ d.Resolves r result)
    x.resolved given

end Execution

/-- The decision that a call takes on the execution `id`. -/
def Call.decisions (id : String) (world : World MemoryStore) : Call → List Decision
  | .resume e other passed data =>
    if other = id ∧ (e.resume other passed data world).1.isOk = true then [⟨passed, data⟩] else []
  | _ => []

theorem Value.text?_eq_some_iff {v : Value} {s : String} : v.text? = some s ↔ v = .text s := by
  cases v <;> simp [text?]

/-- What is kept of a decision on a record is what the decision makes of the record's result. -/
theorem Decision.resolves_decide (d : Decision) (r : StepRecord) :
    d.Resolves r (r.result.decide d.passed d.data) where
  passed := rfl
  bare none := by
    rw [none]
    exact ⟨rfl, rfl⟩
  overlaid given some := by
    rw [some]
    exact ⟨_, rfl, fun key => Dict.get?_overlay _ _ key⟩
  worded given text some said := by
    rw [some]
    change ((given.get? "message").bind Value.text? <|> r.message) = _
    rw [said]
    rfl
  unworded given some unsaid := by
    have none : (given.get? "message").bind Value.text? = none := by
      rw [Option.bind_eq_none_iff]
      intro v hv
      rw [Option.eq_none_iff_forall_ne_some]
      intro text read
      rw [Value.text?_eq_some_iff.1 read] at hv
      exact unsaid text hv
    rw [some]
    change ((given.get? "message").bind Value.text? <|> r.message) = _
    rw [none]
    rfl

section

variable {mint : Nat → String} {world : World MemoryStore} {id : String} {e : Engine MemoryStore}
  {w : Definition} {x y z : Execution} {earlier : List StepRecord} {r : StepRecord}

/-! ## The records that are resolved -/

theorem Execution.Waits.resolved_eq (waits : x.Waits earlier r) :
    x.resolved = earlier.filter (·.blocking) := by
  unfold resolved
  rw [if_pos waits.status, waits.records, List.dropLast_concat]

/-- The keys of the decisions are the ids of the records that are resolved. -/
theorem Execution.Rests.contains_iff {n : Nat} (rests : x.Rests mint n) (key : String) :
    x.decisions.contains key = true ↔ ∃ r ∈ x.resolved, r.id = key := by
  have decided : ∀ rs, x.resolved = rs.filter (·.blocking) → x.DecidedOn rs →
      (x.decisions.contains key = true ↔ ∃ r ∈ x.resolved, r.id = key) := by
    intro rs resolved decided
    rw [resolved, Dict.contains, decided key]
    simp [and_assoc]
  rcases rests.state with ⟨earlier, r, waits⟩ | finished
  · exact decided earlier waits.resolved_eq waits.decided
  · refine decided x.records ?_ finished.decided
    have unpaused : x.status ≠ .paused := by
      rcases finished.outcome with ⟨status, -⟩ | ⟨status, -⟩ <;> simp [status]
    unfold resolved
    rw [if_neg unpaused]

/-- At the end of a run all its blocking records are resolved but the one that it waits for. -/
theorem resolved_of_becomes {a : Stage MemoryStore} (becomes : e.Becomes w a y z) :
    z.resolved = y.records.filter (·.blocking) := by
  unfold Execution.resolved
  cases becomes with
  | closed closes =>
    rw [if_neg]
    · rfl
    · cases closes <;> simp [Execution.apply, Engine.finishUpdate, Engine.leaving]
  | paused =>
    exact congrArg (List.filter _) ((if_pos rfl).trans (List.dropLast_concat ..))

/-- A step after which the run goes on is not blocking. -/
theorem filter_grown {s : Step} {p : Progress MemoryStore} (free : (e.outcomeOf s p).blocking = false) :
    (e.grown s p y).records.filter (·.blocking) = y.records.filter (·.blocking) := by
  have free : (e.recordOf s p).blocking = false := free
  simp [Engine.grown, free]

/-! ## The decisions on them -/

/-- The result of the latest step is that of the last record. -/
theorem Execution.results_last (records : x.records = earlier ++ [r]) :
    x.results.get? r.stepId = some (x.resultOf r) := by
  unfold results
  rw [records, List.map_append, List.map_singleton, Dict.ofList_concat, Dict.get?_insert, if_pos rfl]

/-- A decision on an execution is kept for the record that it waits for. -/
theorem Execution.Waits.resolves {n : Nat} (waits : x.Waits earlier r) (rests : x.Rests mint n)
    (passed : Bool) (data : Option Object) :
    Decision.Resolves ⟨passed, data⟩ r (Engine.decisionOf x r.stepId passed data) := by
  have own : x.resultOf r = r.result := by
    unfold resultOf
    rw [waits.undecided rests]
    rfl
  unfold Engine.decisionOf
  rw [results_last waits.records, own]
  exact Decision.resolves_decide ⟨passed, data⟩ r

/-- **A decision that is taken resolves the record that the execution waits for.** -/
theorem Takes.answers {passed : Bool} {data : Option Object} {ended : Ended MemoryStore}
    {given : List Decision} (injective : mint.Injective) (he : e.InMemory mint)
    (sound : Sound mint world) (takes : Takes mint e id passed data world x w earlier r ended z)
    (answers : x.Answers given) : z.Answers (given ++ [⟨passed, data⟩]) := by
  obtain ⟨-, rests⟩ := sound id x takes.resumable.stored
  have waits := takes.waits
  have undecided := waits.undecided rests
  have resolved : z.resolved = x.resolved ++ [r] := by
    obtain ⟨b, y, same, becomes⟩ := takes.drive_rule injective he sound
      (J := fun _ y => y.records.filter (·.blocking) = x.records.filter (·.blocking))
      (fun _ same _ free => (filter_grown free).trans same) rfl
    rw [resolved_of_becomes becomes, same, waits.resolved_eq, waits.records, List.filter_append]
    simp [waits.blocking]
  refine ⟨takes.settles.rests.contains_iff, ?_, ?_⟩
  · rw [takes.decisions, Dict.size_insert _ undecided, answers.count, List.length_append]
    rfl
  · have kept := (takes.extends injective he sound).decisions
    have decided : z.decisions.get? r.id = some (Engine.decisionOf x r.stepId passed data) := by
      rw [takes.decisions, Dict.get?_insert, if_pos rfl]
    rw [resolved]
    refine List.rel_append (answers.resolves.imp ?_) (.cons ⟨_, decided, ?_⟩ .nil)
    · rintro q d ⟨result, decided, resolves⟩
      exact ⟨result, kept q.id result decided, resolves⟩
    · exact waits.resolves rests passed data

/-- A new run resolves no record. -/
theorem Settles.answers (injective : mint.Injective) (he : e.InMemory mint)
    (sound : Sound mint world) (q : Request)
    (settles : Settles mint world (mint world.minted) (e.runThrough w q world) z) : z.Answers [] := by
  obtain ⟨b, y, ⟨undecided, unblocked⟩, becomes⟩ := sound.run_rule injective he q
    (J := fun _ y => y.decisions = {} ∧ y.records.filter (·.blocking) = [])
    (fun _ kept _ free => ⟨kept.1, (filter_grown free).trans kept.2⟩) ⟨rfl, rfl⟩ settles.result
  have decisions : z.decisions = {} := by
    cases becomes <;> exact undecided
  refine ⟨settles.rests.contains_iff, by rw [decisions]; rfl, ?_⟩
  rw [resolved_of_becomes becomes, unblocked]
  exact .nil

/-! ## Sessions -/

/-- What is stored as the execution `id` answers to the given decisions; where nothing is, there are none. -/
structure AnswersFor (id : String) (world : World MemoryStore) (given : List Decision) : Prop where
  absent : world.store.executions.get? id = none → given = []
  stored : ∀ x, world.store.executions.get? id = some x → x.Answers given

theorem Settles.answersFor {ended : Ended MemoryStore} {given : List Decision}
    (settles : Settles mint world id ended z) (answers : z.Answers given) :
    AnswersFor id ended.progress.world given := by
  have stored : ended.progress.world.store.executions.get? id = some z := by
    rw [settles.store, MemoryStore.get?_set, if_pos rfl]
  constructor
  · intro absent
    rw [stored] at absent
    cases absent
  · intro x found
    rw [stored] at found
    cases found
    exact answers

/-- **A call brings an execution the decision that it takes on it, and no other.** -/
theorem Call.Does.answersFor {c : Call} {given : List Decision} (injective : mint.Injective)
    (sound : Sound mint world) (does : c.Does mint id world) (h : AnswersFor id world given) :
    AnswersFor id (c.after world) (given ++ c.decisions id world) := by
  cases does with
  | makes he own fresh settles =>
    subst own
    rw [h.absent fresh]
    exact settles.answersFor (settles.answers injective he sound)
  | @takes e passed data x z w earlier r ended he takes called =>
    have taken : (Call.resume e id passed data).decisions id world = [⟨passed, data⟩] := by
      simp [decisions, called, Except.isOk, Except.toBool]
    have answers := takes.answers injective he sound (h.stored x takes.resumable.stored)
    rw [taken, after, called]
    exact takes.settles.answersFor answers
  | @refuses e passed data fault called =>
    have refused : (Call.resume e id passed data).decisions id world = [] := by
      simp [decisions, called, Except.isOk, Except.toBool]
    rw [refused, after, called, List.append_nil]
    exact h
  | spares unconcerned same =>
    have none : c.decisions id world = [] := by
      cases c with
      | resume e other passed data => exact if_neg fun taken => unconcerned taken.1
      | run | register => rfl
    rw [none, List.append_nil]
    exact ⟨same ▸ h.absent, same ▸ h.stored⟩

end

/-- **No decision is lost or goes to another record.** After any calls on a store that held no executions,
every execution answers to the decisions that were taken on it. -/
theorem session_answers (mint : Nat → String) (start : World MemoryStore) (calls : List Call)
    (id : String) (x : Execution) (injective : mint.Injective)
    (empty : start.store.executions = {}) (inMemory : ∀ c ∈ calls, c.InMemory mint)
    (stored : (Session.after calls start).store.executions.get? id = some x) :
    x.Answers (Session.gather (Call.decisions id) calls start) := by
  have reachable : Reachable mint start := ⟨start, empty, .refl⟩
  suffices AnswersFor id (Session.after calls start) (Session.gather (Call.decisions id) calls start) from
    this.stored x stored
  clear stored
  induction calls using List.reverseRecOn with
  | nil =>
    refine ⟨fun _ => rfl, fun x stored => ?_⟩
    rw [Session.after_nil, empty] at stored
    cases stored
  | append_singleton calls c ih =>
    have earlier : ∀ d ∈ calls, d.InMemory mint := fun d hd => inMemory d (by simp [hd])
    have sound := (reachable.session earlier).sound injective
    rw [Session.after_concat, Session.gather_concat]
    exact (sound.does injective (inMemory c (by simp)) id).answersFor injective sound (ih earlier)

namespace Sample

/-- What is said to approve the review of the sample. -/
def approved : Object := .ofList [("message", .text "Fine"), ("status", .text "done")]

/-- The calls by which the sample is run, reviewed, and reviewed again, which is refused. -/
def calls : List Call :=
  [.run engine workflow request, .resume engine (mint 0) true (some approved),
    .resume engine (mint 7) true none]

end Sample

/-- In the sample, the decision on the review is kept for its record, and the sign-off is waited for. -/
theorem answers_approved : ∃ x r,
    (Session.after Sample.calls Sample.start).store.executions.get? (Sample.mint 0) = some x ∧
    x.status = .paused ∧ x.decisions.size = 1 ∧ x.resolved = [r] ∧ r.stepId = "review" ∧
    ∃ result, x.decisions.get? r.id = some result ∧
      Decision.Resolves ⟨true, some Sample.approved⟩ r result := by
  have seen : ((Session.after Sample.calls Sample.start).store.executions.get? (Sample.mint 0)).map
      (fun x => (x.status, x.resolved.map (·.stepId))) = some (.paused, ["review"]) := by
    decide +kernel
  have given : Session.gather (Call.decisions (Sample.mint 0)) Sample.calls Sample.start =
      [⟨true, some Sample.approved⟩] := by decide +kernel
  obtain ⟨x, stored, fields⟩ := Option.map_eq_some_iff.1 seen
  obtain ⟨status, steps⟩ := Prod.mk.inj fields
  have answers := session_answers Sample.mint Sample.start Sample.calls _ x Sample.mint_injective rfl
    (by simp [Sample.calls, Call.InMemory, Sample.inMemory]) stored
  rw [given] at answers
  obtain ⟨r, resolved, stepId⟩ := List.map_eq_singleton_iff.1 steps
  have resolves := answers.resolves
  rw [resolved] at resolves
  cases resolves with
  | cons resolves =>
    exact ⟨x, r, stored, status, answers.count, resolved, stepId, resolves⟩

end Workflows
