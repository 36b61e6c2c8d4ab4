import Workflows.Proofs.Engine.Becomes
import Workflows.Proofs.Engine.Walk

/-!
# How executions end

An execution that ends says why in its status and error, and its history tells what they are: the last
record, whether it counts as passed, and where that leads.

* `Execution.refusal`: what is said of an execution that ends with a record that does not count as passed;
* `Execution.EndsWith`, `Execution.Concluded`: the end of an execution fits its history;
* `Tracks`: what a run has come to by a stage fits the history so far; `Tracks.next`, `Tracks.apply`;
* `Tracks.concluded`: so the end fits the history;
* **`terminal_by_verdict`**: that is so for every execution that a call ends.
-/

namespace Workflows

namespace Execution

variable (x : Execution)

/-- What is said of an execution that ends with a record that does not count as passed. Where a decision
says so, it is the message in the data of the decision, else the step that was decided on; otherwise it is
the message of the record, else its error. -/
def refusal (data : Option Object) (r : StepRecord) : Option String :=
  if (x.decisions.get? r.id).isSome then
    some (((data.bind fun d => d.get? "message").bind Value.text?).getD
      ("Rejected at step " ++ r.stepId))
  else r.message <|> r.error

variable (before : Execution) (w : Definition) (limit : Nat) (data : Option Object)

/-- How an execution of a workflow ends with a record of the step `s`. The call that ended it found it as
`before`, brought `data` with its decision, and could carry out `limit` steps. -/
structure EndsWith (r : StepRecord) (s : Step) : Prop where
  found : w.find? r.stepId = some s
  /-- A decision on the last record was taken by the call that ended the execution. -/
  decided : (x.decisions.get? r.id).isSome = true → before.decisions.get? r.id = none
  succeeded_iff : x.status = .succeeded ↔ s.next? (x.verdict r) = none ∧ x.verdict r = true
  refused : s.next? (x.verdict r) = none → x.verdict r = false →
    x.status = .failed ∧ x.error = x.refusal data r
  exhausted : ∀ t, s.next? (x.verdict r) = some t →
    x.records.length = before.records.length + limit →
      x.status = .failed ∧ x.error = some ("Step limit exceeded (" ++ toString limit ++ ")")
  missing : ∀ t, s.next? (x.verdict r) = some t →
    x.records.length ≠ before.records.length + limit →
      w.find? t = none ∧ x.status = .failed ∧ x.error = some ("Step not found: " ++ t)

/-- How an execution of a workflow ends. -/
structure Concluded : Prop where
  unrecorded : x.records = [] →
    w.steps = [] ∧ x.status = .succeeded ∧ x.error = none ∨
    w.steps ≠ [] ∧ limit = 0 ∧ x.status = .failed ∧ x.error = some "Step limit exceeded (0)"
  recorded : ∀ r, x.records.getLast? = some r → ∃ s, x.EndsWith before w limit data r s

namespace EndsWith

variable {x before : Execution} {w : Definition} {limit : Nat} {data : Option Object} {r : StepRecord} {s : Step}
  (found : w.find? r.stepId = some s)
  (decided : (x.decisions.get? r.id).isSome = true → before.decisions.get? r.id = none)

include found decided

/-- An execution ends with a record that leads to no step by what the record counts as. -/
theorem of_last (leads : s.next? (x.verdict r) = none)
    (succeeded : x.verdict r = true → x.status = .succeeded)
    (failed : x.verdict r = false → x.status = .failed ∧ x.error = x.refusal data r) :
    x.EndsWith before w limit data r s where
  found := found
  decided := decided
  succeeded_iff := by
    cases verdict : x.verdict r with
    | true => exact iff_of_true (succeeded verdict) ⟨verdict ▸ leads, rfl⟩
    | false => simp [(failed verdict).1]
  refused := fun _ => failed
  exhausted := fun t leadsTo => by simp [leads] at leadsTo
  missing := fun t leadsTo => by simp [leads] at leadsTo

/-- An execution that ends with a record that leads to a step has failed. -/
theorem of_next {t : String} (leads : s.next? (x.verdict r) = some t) (failed : x.status = .failed)
    (exhausted : x.records.length = before.records.length + limit →
      x.error = some ("Step limit exceeded (" ++ toString limit ++ ")"))
    (missing : x.records.length ≠ before.records.length + limit →
      w.find? t = none ∧ x.error = some ("Step not found: " ++ t)) :
    x.EndsWith before w limit data r s where
  found := found
  decided := decided
  succeeded_iff := by simp [failed, leads]
  refused := fun leadsTo => by simp [leads] at leadsTo
  exhausted := fun _ _ all => ⟨failed, exhausted all⟩
  missing := fun u leadsTo fewer => by
    obtain rfl : t = u := Option.some.inj (leads.symm.trans leadsTo)
    exact ⟨(missing fewer).1, failed, (missing fewer).2⟩

end EndsWith

end Execution

/-- What a run has come to by a stage fits the history of its execution. -/
structure Tracks (before : Execution) (w : Definition) (limit : Nat) (data : Option Object)
    (a : Stage MemoryStore) (x : Execution) : Prop where
  heads : x.Heads w a.next
  counted : a.left + x.records.length = limit + before.records.length
  unrecorded : x.records = [] → a.last.passed = true
  /-- The latest verdict is that of the last record. -/
  verdict : ∀ r, x.records.getLast? = some r → a.last.passed = x.verdict r
  failure : ∀ r, x.records.getLast? = some r → a.last.passed = false →
    a.last.failure = x.refusal data r
  decided : ∀ r, x.records.getLast? = some r → (x.decisions.get? r.id).isSome = true →
    before.decisions.get? r.id = none

namespace Tracks

variable {before x : Execution} {w : Definition} {limit : Nat} {data : Option Object}
  {a : Stage MemoryStore} {e : Engine MemoryStore}

/-- A change of status without a decision leaves it so. -/
theorem apply {u : StatusUpdate} (h : Tracks before w limit data a x) (undecided : u.decision = none) :
    Tracks before w limit data a (x.apply u) := by
  have decisions := Execution.decisions_apply (x := x) undecided
  have verdict : (x.apply u).verdict = x.verdict := by
    funext r
    unfold Execution.verdict
    rw [decisions]
  have refusal : (x.apply u).refusal = x.refusal := by
    funext data r
    unfold Execution.refusal
    rw [decisions]
  exact {
    heads := h.heads.apply undecided
    counted := h.counted
    unrecorded := h.unrecorded
    verdict := by
      rw [verdict]
      exact h.verdict
    failure := by
      rw [refusal]
      exact h.failure
    decided := by
      rw [decisions]
      exact h.decided }

/-- A further step leaves it so: its record is the last one, and there is no decision on it. -/
theorem next {left : Nat} {stepId : String} {last : Verdict} {p : Progress MemoryStore} {s : Step}
    (h : Tracks before w limit data ⟨left + 1, some stepId, last, p⟩ x)
    (found : w.find? stepId = some s)
    (undecided : x.decisions.get? (e.recordOf s p).id = none) :
    Tracks before w limit data (e.nextStage left s p x) (e.grown s p x) := by
  have latest : ∀ r, (e.grown s p x).records.getLast? = some r → r = e.recordOf s p := by
    intro r hr
    rw [show (e.grown s p x).records = x.records ++ [e.recordOf s p] from rfl,
      List.getLast?_concat] at hr
    exact (Option.some.inj hr).symm
  exact {
    heads := h.heads.grown found undecided
    counted := by
      have counted : left + 1 + x.records.length = limit + before.records.length := h.counted
      change left + (x.records ++ [e.recordOf s p]).length = _
      rw [List.length_append, List.length_singleton]
      omega
    unrecorded := by simp [Engine.grown]
    verdict := fun r hr => by
      rw [latest r hr]
      exact (Execution.verdict_of_undecided (x := e.grown s p x) undecided).symm
    failure := fun r hr _ => by
      rw [latest r hr, Execution.refusal, show (e.grown s p x).decisions = x.decisions from rfl,
        undecided]
      rfl
    decided := fun r hr decided => by
      rw [latest r hr, show (e.grown s p x).decisions = x.decisions from rfl, undecided] at decided
      cases decided }

section

variable {status : Status} {error : Option String} (h : Tracks before w e.limit data a x)
  (closes : e.Closes w a status error) (ended : x.status = status) (stated : x.error = error)

include h closes ended stated

/-- A run without a step ends at its first stage. -/
theorem unrecorded_of_closes (empty : x.records = []) :
    w.steps = [] ∧ x.status = .succeeded ∧ x.error = none ∨
    w.steps ≠ [] ∧ e.limit = 0 ∧ x.status = .failed ∧ x.error = some "Step limit exceeded (0)" := by
  have walk := h.heads.walk
  have counted := h.counted
  have passed := h.unrecorded empty
  rw [empty] at walk counted
  have entry := Walk.nil_iff.1 walk
  cases closes with
  | succeeded => exact .inl ⟨by simpa [Definition.entry?] using entry, ended, stated⟩
  | failed failed =>
    rw [failed] at passed
    cases passed
  | exhausted =>
    have none_left : e.limit = 0 := by
      rw [List.length_nil] at counted
      dsimp only at counted
      omega
    have text : "Step limit exceeded (" ++ toString 0 ++ ")" = "Step limit exceeded (0)" := by decide
    refine .inr ⟨fun steps => ?_, none_left, ended, ?_⟩
    · simp [Definition.entry?, steps] at entry
    · rw [stated]
      unfold Engine.limitExceeded
      rw [none_left]
      exact congrArg some text
  | missing missing =>
    obtain ⟨s, hs, rfl⟩ := Option.map_eq_some_iff.1 entry
    rw [Definition.find?_entry hs] at missing
    cases missing

/-- A run ends with its last record. -/
theorem endsWith_of_closes {r : StepRecord} (hr : x.records.getLast? = some r) :
    ∃ s, x.EndsWith before w e.limit data r s := by
  obtain ⟨s, found, leads⟩ := h.heads.walk.last hr
  have decided := h.decided r hr
  have verdict := h.verdict r hr
  have counted := h.counted
  cases closes with
  | succeeded passed =>
    have passed := verdict.symm.trans passed
    exact ⟨s, .of_last found decided leads (fun _ => ended) fun failed => by simp [passed] at failed⟩
  | failed failed =>
    have rejected := verdict.symm.trans failed
    exact ⟨s, .of_last found decided leads (fun passed => by simp [rejected] at passed)
      fun _ => ⟨ended, stated.trans (h.failure r hr failed)⟩⟩
  | exhausted =>
    have all : x.records.length = before.records.length + e.limit := by simpa [Nat.add_comm] using counted
    exact ⟨s, .of_next found decided leads ended (fun _ => stated) fun fewer => absurd all fewer⟩
  | missing missing =>
    have fewer : x.records.length ≠ before.records.length + e.limit := by
      dsimp only at counted
      omega
    exact ⟨s, .of_next found decided leads ended (fun all => absurd all fewer) fun _ => ⟨missing, stated⟩⟩

/-- **The end of a run fits the history of its execution.** -/
theorem concluded_of_closes : x.Concluded before w e.limit data where
  unrecorded := h.unrecorded_of_closes closes ended stated
  recorded _ hr := h.endsWith_of_closes closes ended stated hr

end

/-- **An execution that ends says what its history says.** -/
theorem concluded {z : Execution} (h : Tracks before w e.limit data a x)
    (becomes : e.Becomes w a x z) (terminal : z.status.isTerminal = true) :
    z.Concluded before w e.limit data := by
  cases becomes with
  | closed closes => exact (h.apply rfl).concluded_of_closes closes rfl rfl
  | paused => cases terminal

end Tracks

/-! ## Calls -/

section

variable {mint : Nat → String} {world : World MemoryStore} {e : Engine MemoryStore} {w : Definition}

/-- A run at its start. -/
theorem tracks_firstStage (r : Request) :
    Tracks (e.firstExecution w r world) w e.limit none (e.firstStage w r world)
      (e.firstExecution w r world) where
  heads := ⟨rfl, .entry⟩
  counted := rfl
  unrecorded _ := rfl
  verdict _ hr := by cases hr
  failure _ hr := by cases hr
  decided _ hr := by cases hr

variable {id : String} {x z : Execution} {next : Option String} {earlier : List StepRecord}
  {r : StepRecord}

/-- A run that goes on after a decision. -/
theorem tracks_decidedStage (waits : x.Waits earlier r) (rests : x.Rests mint world.minted)
    (heads : x.Heads w next) (passed : Bool) (data : Option Object) :
    Tracks x w e.limit data (Engine.decidedStage x r.stepId passed data e w id world)
      (Engine.claimed x r.stepId passed data) := by
  obtain ⟨s, found, heads⟩ := heads.decided waits rests.recorded.distinct passed data
  have records : (Engine.claimed x r.stepId passed data).records = earlier ++ [r] := waits.records
  have latest : ∀ q, (Engine.claimed x r.stepId passed data).records.getLast? = some q → q = r := by
    intro q hq
    rw [records, List.getLast?_concat] at hq
    exact (Option.some.inj hq).symm
  have decision : (Engine.claimed x r.stepId passed data).decisions.get? r.id =
      some (Engine.decisionOf x r.stepId passed data) := by
    rw [Engine.claimed_decisions passed data (Execution.lastRecord?_concat waits.records),
      Dict.get?_insert, if_pos rfl]
  unfold Engine.decidedStage
  rw [found]
  exact {
    heads
    counted := rfl
    unrecorded := by simp [records]
    verdict := fun q hq => by
      rw [latest q hq]
      exact (Execution.verdict_of_decided decision).symm
    failure := fun q hq _ => by
      rw [latest q hq, Execution.refusal, decision]
      rfl
    decided := fun q hq _ => by
      rw [latest q hq]
      exact waits.undecided rests }

theorem Takes.concluded {passed : Bool} {data : Option Object} {ended : Ended MemoryStore}
    (injective : mint.Injective) (he : e.InMemory mint) (sound : Sound mint world)
    (takes : Takes mint e id passed data world x w earlier r ended z) (heads : x.Heads w next)
    (terminal : z.status.isTerminal = true) : z.Concluded x w e.limit data := by
  obtain ⟨-, rests⟩ := sound id x takes.resumable.stored
  obtain ⟨b, y, tracks, becomes⟩ := takes.drive_rule injective he sound
    (J := Tracks x w e.limit data)
    (fun underway tracks found _ => tracks.next found (underway.undecided injective he))
    (tracks_decidedStage takes.waits rests heads passed data)
  exact tracks.concluded becomes terminal

theorem Sound.run_concluded (injective : mint.Injective) (he : e.InMemory mint)
    (sound : Sound mint world) (r : Request) (result : (e.run w r world).1 = .ok z)
    (terminal : z.status.isTerminal = true) :
    z.Concluded (e.firstExecution w r world) w e.limit none := by
  obtain ⟨b, y, tracks, becomes⟩ := sound.run_rule injective he r
    (J := Tracks (e.firstExecution w r world) w e.limit none)
    (fun underway tracks found _ => tracks.next found (underway.undecided injective he))
    (tracks_firstStage r) result
  exact tracks.concluded becomes terminal

/-- A decision that ends an execution of a workflow which is still registered. -/
theorem Sound.resume_concluded {passed : Bool} {data : Option Object} (injective : mint.Injective)
    (he : e.InMemory mint) (sound : Sound mint world)
    (registered : world.store.workflows.get? w.id = some w)
    (heads : Holds id (fun x => ∃ next, x.Heads w next) world)
    (result : (e.resume id passed data world).1 = .ok z) (terminal : z.status.isTerminal = true) :
    ∃ before, world.store.executions.get? id = some before ∧
      z.Concluded before w e.limit data := by
  obtain ⟨x, stored, next, heads⟩ := heads
  have decides := sound.resume_decides injective he id passed data
  unfold Engine.resume at result
  generalize e.resumeThrough id passed data world = called at decides result
  cases decides with
  | refused => cases result
  | @taken y z' v _ _ ended takes =>
    obtain rfl := takes.resumable.execution_eq stored
    obtain rfl := takes.resumable.workflow_eq heads.workflowId registered
    have same : z' = z := Except.ok.inj (takes.settles.result.symm.trans result)
    subst same
    exact ⟨y, stored, takes.concluded injective he sound heads terminal⟩

end

/-- **Every execution that a call ends says what its history says**: the call of `run` that made it, and
every decision on it while its workflow stays registered. -/
theorem terminal_by_verdict (mint : Nat → String) (world : World MemoryStore)
    (e : Engine MemoryStore) (w : Definition) (r : Request) (injective : mint.Injective)
    (he : e.InMemory mint) (reachable : Reachable mint world) :
    ∃ first, (e.run w r world).1 = .ok first ∧
      (first.status.isTerminal = true →
        first.Concluded (e.firstExecution w r world) w e.limit none) ∧
      ∀ later, Relation.ReflTransGen (Keeps mint w) (e.run w r world).2 later →
        later.store.workflows.get? w.id = some w →
          ∀ (e' : Engine MemoryStore) (passed : Bool) (data : Option Object) (z : Execution),
            e'.InMemory mint → (e'.resume first.id passed data later).1 = .ok z →
              z.status.isTerminal = true →
                ∃ before, later.store.executions.get? first.id = some before ∧
                  z.Concluded before w e'.limit data := by
  have sound := reachable.sound injective
  have underway : Underway mint world _ (e.firstStage w r world) _ :=
    Engine.underway_firstStage he w r
  obtain ⟨first, next, settles, heads⟩ := underway.drive_heads (w := w) injective he
    ⟨rfl, .entry⟩
  rw [← Engine.runThrough_of_fresh he (sound.fresh injective)] at settles
  refine ⟨first, settles.result, sound.run_concluded injective he r settles.result, ?_⟩
  intro later steps registered e' passed data z he' result terminal
  have heads : Holds first.id (fun x => ∃ next, x.Heads w next) (e.run w r world).2 :=
    settles.id_eq ▸ settles.holds ⟨next, heads⟩
  obtain ⟨sound, heads⟩ := heads_of_keeps injective (settles.sound sound) heads steps
  exact sound.resume_concluded injective he' registered heads result terminal

/-- What is said to reject the sign-off of the sample. -/
def Sample.tooEarly : Object := .ofList [("message", .text "Too early")]

/-- In the sample, the rejection of the sign-off ends the execution, which then says the message of the
rejection. -/
theorem terminal_rejected : ∃ before z,
    (Sample.engine.resume (Sample.mint 0) false (some Sample.tooEarly) Sample.signing).1 = .ok z ∧
      z.error = some "Too early" ∧
      z.Concluded before Sample.workflow Sample.engine.limit (some Sample.tooEarly) := by
  obtain ⟨first, ran, -, later⟩ := terminal_by_verdict Sample.mint Sample.start Sample.engine
    Sample.workflow Sample.request Sample.mint_injective Sample.inMemory ⟨Sample.start, rfl, .refl⟩
  have first_id : (Sample.engine.run Sample.workflow Sample.request Sample.start).1.toOption.map
      (·.id) = some (Sample.mint 0) := by decide +kernel
  rw [ran] at first_id
  have first_id : first.id = Sample.mint 0 := Option.some.inj first_id
  have reviewed : Sample.reviewing.store.workflows.get? Sample.workflow.id =
      some Sample.workflow := by decide +kernel
  have signed : Sample.signing.store.workflows.get? Sample.workflow.id =
      some Sample.workflow := by decide +kernel
  have seen : (Sample.engine.resume (Sample.mint 0) false (some Sample.tooEarly)
      Sample.signing).1.toOption.map (fun z => (z.status, z.error)) =
        some (.failed, some "Too early") := by decide +kernel
  obtain ⟨z, result, fields⟩ := ok_of_map_toOption seen
  obtain ⟨status, error⟩ := Prod.mk.inj fields
  obtain ⟨before, -, concluded⟩ := later Sample.signing
    (.single ⟨reviewed, Sample.follows_signing⟩) signed Sample.engine false _ z Sample.inMemory
    (first_id ▸ result) (by rw [status]; rfl)
  exact ⟨before, z, result, error, concluded⟩

end Workflows
