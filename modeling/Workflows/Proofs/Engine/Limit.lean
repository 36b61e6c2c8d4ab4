import Workflows.Proofs.Engine.Faulty
import Workflows.Proofs.Engine.Lifecycle
import Workflows.Proofs.Engine.Walk
import Workflows.Proofs.Engine.Working

/-!
# The limit of a call

A call carries out at most as many steps as its limit allows, on whatever store it works. On a store in
memory its further records tell how it ends, and whether it is the limit that ended it.

* `Engine.Exhausts`: a run is ended by the limit;
* `FaultyStore.appends`: how many records a store was to keep; **`drive_appends`**: at most as many as are
  left of the limit;
* `Definition.branch`: the branch to be followed after further records;
* `Engine.ending`: with what status and error a call ends, by its further records;
* `Paced`: a run at a stage, by the further records so far; `Paced.next`, `Paced.ending_of_closes`;
* `Engine.Halts`: how a call ends by its limit, or without it; **`Working.drive_halts`**;
* **`calls_within_limit`**: so it is for every call, of `run` and of `resume`.
-/

namespace Workflows

/-- The run from a stage is ended by the limit: it comes to a further step with nothing left. -/
def Engine.Exhausts {σ : Type} (e : Engine σ) (w : Definition) (a : Stage σ) : Prop :=
  ∃ b t, Relation.ReflTransGen (e.Passes w) a b ∧ b.left = 0 ∧ b.next = some t

/-! ## Any store -/

section

variable {σ α : Type}

namespace FaultyStore

/-- How many records the store was to keep. -/
def appends (s : FaultyStore σ) : Nat := s.calls.count .append

variable (plan : FaultPlan) (c : StoreCall) (f : σ → Except EngineError α × σ) (s : FaultyStore σ)

theorem calls_call : (call plan c f s).2.calls = c :: s.calls := by
  unfold call
  split <;> rfl

/-- Only a call that keeps a record counts, whether it fails or not. -/
theorem appends_call : (call plan c f s).2.appends = s.appends + if c = .append then 1 else 0 := by
  unfold appends
  rw [calls_call, List.count_cons]
  simp only [beq_iff_eq]

end FaultyStore

namespace Engine

variable {e : Engine σ} {plan : FaultPlan} {p q : Progress (FaultyStore σ)} {w : Definition}
  {a b : Stage (FaultyStore σ)}

theorem appends_update (u : StatusUpdate) :
    ((e.faulty plan).update u p).progress.world.store.appends = p.world.store.appends :=
  FaultyStore.appends_call ..

theorem appends_finish (status : Status) (error : Option String) :
    ((e.faulty plan).finish status error p).progress.world.store.appends = p.world.store.appends :=
  appends_update (p := { p with world := ((e.faulty plan).now p.world).2 }) _

theorem appends_abandon (fault : EngineError) :
    ((e.faulty plan).abandon fault p).progress.world.store.appends = p.world.store.appends :=
  appends_finish _ _

theorem appends_pause (stepId : String) :
    ((e.faulty plan).pause stepId p).progress.world.store.appends = p.world.store.appends := by
  unfold pause
  dsimp only
  split
  · exact appends_update _
  · exact (appends_abandon _).trans (appends_update _)

theorem appends_dispatch {s : Step} {result : Except EngineError Outcome}
    (dispatched : (e.faulty plan).dispatch s p = (result, q)) :
    q.world.store.appends = p.world.store.appends + 1 := by
  have appended := FaultyStore.appends_call plan .append
    (e.repository.append ((e.faulty plan).performed s p).ctx.executionId ((e.faulty plan).recordOf s p))
    p.world.store
  unfold dispatch at dispatched
  dsimp only at dispatched
  split at dispatched
  · cases dispatched
    exact appended
  · cases dispatched
    exact appended

/-- Every step takes one from what is left. -/
theorem appends_course (passes : Relation.ReflTransGen ((e.faulty plan).Passes w) a b) :
    b.progress.world.store.appends + b.left = a.progress.world.store.appends + a.left := by
  induction passes with
  | refl => rfl
  | tail _ pass ih =>
    rw [← ih]
    obtain ⟨-, dispatched, -⟩ := pass
    have counted := appends_dispatch dispatched
    dsimp only
    omega

/-- **A run keeps no more records than are left to it.** -/
theorem drive_appends (a : Stage (FaultyStore σ)) :
    ((e.faulty plan).driveFrom w a).progress.world.store.appends ≤
      a.progress.world.store.appends + a.left := by
  obtain ⟨b, passes, ends⟩ := (e.faulty plan).drive_course (w := w) a
  rw [← appends_course passes]
  generalize (e.faulty plan).driveFrom w a = ended at ends ⊢
  cases ends with
  | closed => rw [appends_finish]; exact Nat.le_add_right _ _
  | faulted _ dispatched =>
    rw [appends_abandon, appends_dispatch dispatched]
    dsimp only
    omega
  | paused _ dispatched =>
    rw [appends_pause, appends_dispatch dispatched]
    dsimp only
    omega

theorem run_appends (w : Definition) (r : Request) (world : World (FaultyStore σ)) :
    ((e.faulty plan).run w r world).2.store.appends ≤ world.store.appends + e.limit := by
  have created := FaultyStore.appends_call plan .create
    (e.repository.create (newExecution w r (e.mint world.minted) (e.clock world.readings))) world.store
  unfold run runThrough
  dsimp only
  split
  · exact Nat.le_trans (Nat.le_of_eq created) (Nat.le_add_right _ _)
  · rw [← show _ = world.store.appends from created]
    exact drive_appends ⟨e.limit, _, _, _⟩

theorem resume_appends (id : String) (passed : Bool) (data : Option Object)
    (world : World (FaultyStore σ)) :
    ((e.faulty plan).resume id passed data world).2.store.appends ≤
      world.store.appends + e.limit := by
  change ((e.faulty plan).resumeThrough id passed data world).2.1.store.appends ≤ _
  unfold resumeThrough
  split
  · exact Nat.le_add_right _ _
  · next x w stepId _ =>
    have claimed := FaultyStore.appends_call plan .update
      (e.repository.update id .paused
        (claim x stepId ((Context.restore x).decide stepId passed data))) world.store
    dsimp only
    split
    · exact Nat.le_trans (Nat.le_of_eq claimed) (Nat.le_add_right _ _)
    · rw [← show _ = world.store.appends from claimed]
      unfold proceed
      split
      · rw [appends_finish]
        exact Nat.le_add_right _ _
      · exact drive_appends ⟨e.limit, _, _, _⟩

end Engine

end

/-! ## The end of a call, by its further records -/

/-- What the step of a record came to, for the end of a run. -/
def StepRecord.verdict (r : StepRecord) : Verdict := ⟨r.passed, r.message <|> r.error⟩

/-- The branch to be followed after further records: that of the last of them, `entry` before the first. -/
def Definition.branch (w : Definition) (entry : Option String) (new : List StepRecord) :
    Option String :=
  match new.getLast? with
  | none => entry
  | some r => (w.find? r.stepId).bind fun s => s.next? r.passed

/-- With what status and error a call ends that started with the branch `entry` and the verdict `first` and
has made the records `new`. -/
def Engine.ending {σ : Type} (e : Engine σ) (w : Definition) (entry : Option String) (first : Verdict)
    (new : List StepRecord) : Status × Option String :=
  if new.getLast?.any (·.blocking) then (.paused, none)
  else match w.branch entry new with
    | none =>
      let last := (new.getLast?.map (·.verdict)).getD first
      if last.passed then (.succeeded, none) else (.failed, last.failure)
    | some t =>
      (.failed, some (if new.length = e.limit then e.limitExceeded else Engine.missingStep t))

/-- Where a run stands that has made the records `new`, with what a call may still do after them. -/
structure Paced {σ : Type} (w : Definition) (limit : Nat) (entry : Option String) (first : Verdict)
    (new : List StepRecord) (a : Stage σ) : Prop where
  left : new.length + a.left = limit
  next : a.next = w.branch entry new
  last : a.last = (new.getLast?.map (·.verdict)).getD first
  free : new.getLast?.any (·.blocking) = false

namespace Paced

section

variable {σ : Type} {e : Engine σ} {w : Definition} {limit : Nat} {entry : Option String}
  {first : Verdict} {new : List StepRecord}

/-- So it is where a call starts. -/
theorem start {a : Stage σ} : Paced w a.left a.next a.last [] a where
  left := Nat.zero_add _
  next := rfl
  last := rfl
  free := rfl

/-- A run ends as its further records tell. -/
theorem ending_of_closes {a : Stage σ} {status : Status} {error : Option String}
    (h : Paced w e.limit entry first new a) (closes : e.Closes w a status error) :
    e.ending w entry first new = (status, error) := by
  unfold Engine.ending
  rw [h.free, ← h.next, ← h.last]
  cases closes with
  | succeeded passed => simp only [passed, if_true, Bool.false_eq_true, if_false]
  | failed failed => simp only [failed, Bool.false_eq_true, if_false]
  | exhausted =>
    have all : new.length = e.limit := h.left
    simp only [all, if_true, Bool.false_eq_true, if_false]
  | missing missing =>
    have fewer : new.length ≠ e.limit := by
      have left := h.left
      dsimp only at left
      omega
    simp only [fewer, Bool.false_eq_true, if_false]

end

variable {e : Engine MemoryStore} {w : Definition} {limit : Nat} {entry : Option String}
  {first : Verdict} {new : List StepRecord} {left : Nat} {stepId : String} {last : Verdict}
  {p : Progress MemoryStore} {x : Execution} {s : Step}

/-- **A step that lets the run go on takes it to the branch of its record.** -/
theorem next_stage (h : Paced w limit entry first new ⟨left + 1, some stepId, last, p⟩)
    (found : w.find? stepId = some s) (free : (e.outcomeOf s p).blocking = false) :
    Paced w limit entry first (new ++ [e.recordOf s p]) (e.nextStage left s p x) where
  left := by
    have left := h.left
    rw [List.length_append, List.length_singleton]
    unfold Engine.nextStage
    dsimp only at left ⊢
    omega
  next := by
    have own : w.find? (e.recordOf s p).stepId = some s := by
      rw [← Definition.id_of_find? found] at found
      exact found
    unfold Definition.branch
    rw [List.getLast?_concat]
    dsimp only
    rw [own]
    rfl
  last := by
    rw [List.getLast?_concat]
    rfl
  free := by
    rw [List.getLast?_concat]
    exact free

end Paced

/-- How a call ends that drove from the stage `a`, with the branch `entry` and the verdict `first`, has made
the records `new` and left the execution as `z`. -/
structure Engine.Halts (e : Engine MemoryStore) (w : Definition) (a : Stage MemoryStore)
    (entry : Option String) (first : Verdict) (new : List StepRecord) (z : Execution) : Prop where
  within : new.length ≤ e.limit
  exhausts_iff : e.Exhausts w a ↔
    new.length = e.limit ∧ z.status ≠ .paused ∧ (w.branch entry new).isSome = true
  exhausted : e.Exhausts w a →
    z.status = .failed ∧ z.error = some ("Step limit exceeded (" ++ toString e.limit ++ ")")
  ending : (z.status, z.error) = e.ending w entry first new

/-! ## Runs -/

/-- A call made in `world`, which found the execution `id` as `before`, has come from the stage `a` to the
stage `b`, where the execution is `y`. -/
structure Engine.Comes (e : Engine MemoryStore) (w : Definition) (world : World MemoryStore) (id : String)
    (before : Execution) (a b : Stage MemoryStore) (y : Execution) : Prop where
  working : Working w e.limit world id before b y
  passes : Relation.ReflTransGen (e.Passes w) a b
  paced : ∃ new, y.records = before.records ++ new ∧ Paced w e.limit a.next a.last new b

namespace Engine.Comes

variable {mint : Nat → String} {e : Engine MemoryStore} {w : Definition} {world : World MemoryStore}
  {id : String} {before x y : Execution} {a b : Stage MemoryStore}

theorem start (h : Working w e.limit world id before a x) (same : x.records = before.records)
    (left : a.left = e.limit) : e.Comes w world id before a a x where
  working := h
  passes := .refl
  paced := ⟨[], by rw [same, List.append_nil], left ▸ .start⟩

theorem next {left : Nat} {stepId : String} {last : Verdict} {p : Progress MemoryStore} {s : Step}
    (he : e.InMemory mint) (h : e.Comes w world id before a ⟨left + 1, some stepId, last, p⟩ y)
    (found : w.find? stepId = some s) (free : (e.outcomeOf s p).blocking = false) :
    e.Comes w world id before a (e.nextStage left s p y) (e.grown s p y) where
  working := h.working.next found
  passes := h.passes.tail (.step found (dispatch_of_runs he h.working.runs) free)
  paced := by
    obtain ⟨new, records, paced⟩ := h.paced
    refine ⟨new ++ [e.recordOf s p], ?_, paced.next_stage found free⟩
    rw [← List.append_assoc, ← records]
    rfl

/-- A run that comes to a stage with nothing left and a further step is ended there. -/
theorem exhausted (he : e.InMemory mint) {t : String} (h : e.Comes w world id before a b y)
    (left : b.left = 0) (next : b.next = some t) :
    ∃ new z, (e.driveFrom w a).result = .ok z ∧ z.records = before.records ++ new ∧
      new.length = e.limit ∧ (w.branch a.next new).isSome = true ∧ z.status = .failed ∧
      z.error = some e.limitExceeded := by
  obtain ⟨new, records, paced⟩ := h.paced
  have closes : e.Closes w b .failed (some e.limitExceeded) := by
    obtain ⟨_, _, last, p⟩ := b
    cases left
    cases next
    exact .exhausted
  refine ⟨new, y.apply (e.finishUpdate b.progress .failed (some e.limitExceeded)), ?_, records, ?_, ?_,
    rfl, rfl⟩
  · rw [driveFrom_of_course h.passes, driveFrom_of_closes closes, finish_of_runs he h.working.runs]
    rfl
  · rw [← paced.left, left, Nat.add_zero]
  · rw [← paced.next, next]
    rfl

/-- **Where a run has left its execution, its further records tell how it has ended.** -/
theorem leaves {ended : Ended MemoryStore} (h : e.Comes w world id before a b y)
    (leaves : e.Leaves w b y ended) :
    ∃ z new, Completes e.limit world id before ended z ∧ z.records = before.records ++ new ∧
      new.length ≤ e.limit ∧ (z.status, z.error) = e.ending w a.next a.last new ∧
      (new.length = e.limit → z.status ≠ .paused → (w.branch a.next new).isSome = true →
        b.left = 0 ∧ ∃ t, b.next = some t) := by
  obtain ⟨new, records, paced⟩ := h.paced
  have room := paced.left
  cases leaves with
  | @closed b y status error closes =>
    have completes : Completes e.limit world id before (e.finished b.progress y status error) _ :=
      h.working.completes_finished (by cases closes <;> simp)
    refine ⟨_, new, completes, records, ?_, ?_, fun all _ further => ⟨?_, ?_⟩⟩
    · omega
    · exact (paced.ending_of_closes closes).symm
    · omega
    · rw [← paced.next] at further
      exact Option.isSome_iff_exists.1 further
  | @paused left stepId last p y s found blocks =>
    have completes := (h.working.advanced (e := e) found none .initial).completes
      (u := waitUpdate (e.advance s p y) s.id) (.inl rfl) rfl
    refine ⟨_, new ++ [e.recordOf s p], completes, ?_, ?_, ?_, fun _ unpaused => absurd rfl unpaused⟩
    · rw [← List.append_assoc, ← records]
      rfl
    · rw [List.length_append, List.length_singleton]
      dsimp only at room
      omega
    · have last : (new ++ [e.recordOf s p]).getLast?.any (·.blocking) = true := by
        rw [List.getLast?_concat]
        exact blocks
      unfold ending
      rw [if_pos last]
      rfl

end Engine.Comes

/-- **A run ends by its limit iff it has made as many records as that, does not wait for a decision on the
last of them, and a branch leads on.** -/
theorem Working.drive_halts {mint : Nat → String} {e : Engine MemoryStore} {w : Definition}
    {world : World MemoryStore} {id : String} {before x : Execution} {a : Stage MemoryStore}
    (he : e.InMemory mint) (h : Working w e.limit world id before a x)
    (same : x.records = before.records) (left : a.left = e.limit) :
    ∃ z new, Completes e.limit world id before (e.driveFrom w a) z ∧
      z.records = before.records ++ new ∧ e.Halts w a a.next a.last new z := by
  have start := Engine.Comes.start h same left
  obtain ⟨b, y, comes, leaves⟩ := Engine.drive_rule (w := w) (I := e.Comes w world id before a) he
    (fun h => h.working.runs) (fun h found free => h.next he found free) start
  obtain ⟨z, new, completes, records, within, ending, further⟩ := comes.leaves leaves
  have exhausted : e.Exhausts w a → new.length = e.limit ∧ (w.branch a.next new).isSome = true ∧
      z.status = .failed ∧ z.error = some e.limitExceeded := by
    rintro ⟨b', t, passes, none, next⟩
    obtain ⟨y', comes'⟩ := Engine.passes_rule he (I := e.Comes w world id before a)
      (fun h => h.working.runs) (fun h found free => h.next he found free) start passes
    obtain ⟨new', z', result, records', rest⟩ := comes'.exhausted he none next
    cases completes.result.symm.trans result
    cases List.append_cancel_left (records.symm.trans records')
    exact rest
  refine ⟨z, new, completes, records, within, ⟨fun exhausts => ?_, ?_⟩, fun exhausts => ?_, ending⟩
  · obtain ⟨all, on, failed, -⟩ := exhausted exhausts
    exact ⟨all, by simp [failed], on⟩
  · rintro ⟨all, unpaused, on⟩
    obtain ⟨none, t, next⟩ := further all unpaused on
    exact ⟨b, t, comes.passes, none, next⟩
  · obtain ⟨-, -, failed, error⟩ := exhausted exhausts
    exact ⟨failed, error⟩

/-- Where the step that a decision is on is missing, the call ends by that, not by the limit. -/
theorem Working.drive_missing {mint : Nat → String} {e : Engine MemoryStore} {w : Definition}
    {id stepId : String} {x : Execution} (he : e.InMemory mint) (world : World MemoryStore)
    (own : x.id = id) (passed : Bool) (data : Option Object) (missing : w.find? stepId = none) :
    let a := Engine.decidedStage x stepId passed data e w id world
    ∃ z, Completes e.limit world id x (e.driveFrom w a) z ∧ z.records = x.records ∧
      ¬ e.Exhausts w a ∧ z.status = .failed ∧ z.error = some (Engine.missingStep stepId) := by
  have working : Working w e.limit world id x (Engine.decidedStage x stepId passed data e w id world) _ :=
    working_decidedStage own passed data
  have stage : Engine.decidedStage x stepId passed data e w id world =
      ⟨1, some stepId, Engine.decisionVerdict stepId passed data,
        Engine.claimedProgress x stepId passed data id world⟩ := by
    unfold Engine.decidedStage
    rw [missing]
  dsimp only
  rw [stage] at working ⊢
  have completes : Completes e.limit world id x
      (e.finished _ _ .failed (some (Engine.missingStep stepId))) _ :=
    working.completes_finished (.inr (.inr rfl))
  rw [← Engine.finish_of_runs he working.runs, ← Engine.driveFrom_of_closes (.missing missing)]
    at completes
  refine ⟨_, completes, rfl, ?_, rfl, rfl⟩
  · rintro ⟨b, t, passes, none, -⟩
    rcases passes.cases_head with rfl | ⟨c, pass, -⟩
    · cases none
    · cases pass with
      | step found =>
        rw [missing] at found
        cases found

/-! ## Calls -/

/-- **A call carries out at most as many steps as its limit allows.** On any store, whatever calls of it fail,
no more records are made than that. On a store in memory, a call that is not refused ends as its further
records tell: by the limit iff there are as many of them as it allows, the last is not one that the execution
waits at, and the branch after it leads on.

Before the first record of a call, the branch is the entry of the workflow, or the one that the decision
takes. A decision on a step that the workflow does not have leads nowhere. -/
theorem calls_within_limit {σ : Type} (f : Engine σ) (plan : FaultPlan) (mint : Nat → String)
    (e : Engine MemoryStore) (world : World MemoryStore) (he : e.InMemory mint) :
    (∀ other : World (FaultyStore σ),
      (∀ w r, ((f.faulty plan).run w r other).2.store.appends ≤ other.store.appends + f.limit) ∧
      ∀ id passed data, ((f.faulty plan).resume id passed data other).2.store.appends ≤
        other.store.appends + f.limit) ∧
    (∀ w r, world.store.executions.get? (mint world.minted) = none →
      let a := e.firstStage w r world
      let ended := e.driveFrom w a
      e.run w r world = (ended.result, ended.progress.world) ∧
      ∃ z, Completes e.limit world (mint world.minted) (e.firstExecution w r world) ended z ∧
        e.Halts w a (w.entry?.map (·.id)) .initial z.records z) ∧
    (∀ id x w stepId passed data, Resumable world.store id x w stepId → x.id = id →
      let a := Engine.decidedStage x stepId passed data e w id world
      let ended := e.driveFrom w a
      e.resume id passed data world = (ended.result, ended.progress.world) ∧
      ∃ z new, Completes e.limit world id x ended z ∧ z.records = x.records ++ new ∧
        (∀ s, w.find? stepId = some s →
          e.Halts w a (s.next? passed) (Engine.decisionVerdict stepId passed data) new z) ∧
        (w.find? stepId = none → new = [] ∧ ¬ e.Exhausts w a ∧ z.status = .failed ∧
          z.error = some ("Step not found: " ++ stepId))) := by
  refine ⟨fun other => ⟨fun w r => Engine.run_appends w r other,
    fun id passed data => Engine.resume_appends id passed data other⟩, fun w r fresh => ?_,
    fun id x w stepId passed data resumable own => ?_⟩
  · have working : Working w e.limit world (e.mint world.minted) _ (e.firstStage w r world) _ :=
      working_firstStage r
    rw [he.mint] at working
    obtain ⟨z, new, completes, records, halts⟩ := working.drive_halts he rfl rfl
    cases (show z.records = new from records)
    refine ⟨?_, z, completes, halts⟩
    unfold Engine.run
    rw [Engine.runThrough_of_fresh he fresh]
  · refine ⟨?_, ?_⟩
    · unfold Engine.resume
      rw [Engine.resumeThrough_of_resumable passed data he resumable]
    cases found : w.find? stepId with
    | none =>
      obtain ⟨z, completes, records, ended⟩ := Working.drive_missing he world own passed data found
      refine ⟨z, [], completes, ?_, by simp, fun _ => ⟨rfl, ended⟩⟩
      rw [records, List.append_nil]
    | some s =>
      have working : Working w e.limit world id x (Engine.decidedStage x stepId passed data e w id world) _ :=
        working_decidedStage own passed data
      have stage : Engine.decidedStage x stepId passed data e w id world =
          ⟨e.limit, s.next? passed, Engine.decisionVerdict stepId passed data,
            Engine.claimedProgress x stepId passed data id world⟩ := by
        unfold Engine.decidedStage
        rw [found]
      obtain ⟨z, new, completes, records, halts⟩ := working.drive_halts he rfl (by rw [stage])
      refine ⟨z, new, completes, records, fun t same => ?_, by simp⟩
      cases same
      rw [stage] at halts ⊢
      exact halts

namespace Sample

/-- An approval, and after it a step that follows itself. -/
def polling : Definition :=
  { Definition.new "poll" "Poll" with
    steps := [approval "review" (some "poll"), { Step.new "poll" .pass with onPass := some "poll" }] }

/-- An engine whose calls carry out three steps at most. -/
def brief : Engine MemoryStore := { engine with limit := 3 }

/-- The world where the workflow waits for its approval. -/
def awaiting : World MemoryStore :=
  (brief.run polling request (.start (MemoryStore.empty.register polling))).2

end Sample

/-- In the sample, a run with one record waits, and after the approval the limit allows three further
records. -/
theorem limit_polling : ∃ x z, Sample.awaiting.store.executions.get? (Sample.mint 0) = some x ∧
    x.records.length = 1 ∧ (Sample.brief.resume (Sample.mint 0) true none Sample.awaiting).1 = .ok z ∧
    z.records.length = 4 ∧ z.status = .failed ∧ z.error = some "Step limit exceeded (3)" := by
  have he : Sample.brief.InMemory Sample.mint := ⟨rfl, rfl⟩
  have seen : (Sample.awaiting.store.executions.get? (Sample.mint 0)).map
      (fun x => (x.id, x.status, x.workflowId, x.currentStep, x.records.length)) =
        some (Sample.mint 0, .paused, "poll", some "review", 1) := by decide +kernel
  have registered : Sample.awaiting.store.workflows.get? "poll" = some Sample.polling := by
    decide +kernel
  obtain ⟨x, stored, fields⟩ := Option.map_eq_some_iff.1 seen
  simp only [Prod.mk.injEq] at fields
  obtain ⟨own, paused, workflowId, cursor, one⟩ := fields
  have resumable : Resumable Sample.awaiting.store (Sample.mint 0) x Sample.polling "review" :=
    ⟨stored, paused, workflowId ▸ registered, cursor⟩
  have decided : (Sample.brief.resume (Sample.mint 0) true none Sample.awaiting).1.toOption.map
      (fun z => (z.status, (z.records.drop 1).map fun r => (r.stepId, r.passed))) =
        some (.failed, [("poll", true), ("poll", true), ("poll", true)]) := by decide +kernel
  obtain ⟨called, z, new, completes, records, halts, -⟩ :=
    (calls_within_limit Sample.brief (fun _ _ => none) Sample.mint Sample.brief Sample.awaiting he).2.2
      _ x _ _ true none resumable own
  have halts := halts (Sample.approval "review" (some "poll")) (by decide +kernel)
  rw [called, completes.result] at decided ⊢
  obtain ⟨failed, polled⟩ := Prod.mk.inj (Option.some.inj decided)
  rw [records, List.drop_left' one] at polled
  have three : new.length = 3 := by simpa using congrArg List.length polled
  have on : (Sample.polling.branch (some "poll") new).isSome = true := by
    have last := congrArg List.getLast? polled
    rw [List.getLast?_map] at last
    obtain ⟨r, last, fields⟩ := Option.map_eq_some_iff.1 last
    obtain ⟨stepId, passed⟩ := Prod.mk.inj fields
    unfold Definition.branch
    rw [last]
    dsimp only
    rw [stepId, passed]
    decide +kernel
  have exhausts := halts.exhausts_iff.2 ⟨three, by simp [failed], on⟩
  obtain ⟨-, error⟩ := halts.exhausted exhausts
  refine ⟨x, z, stored, one, rfl, ?_, failed, error⟩
  rw [records, List.length_append, one, three]

end Workflows
