import Workflows.Proofs.Carry.Outcome
import Workflows.Execution.Record

/-!
# What steps hand to the outside world

Only notification and delivery steps hand anything over, at most one thing each, and what they come to says
how that went, whether the service answered or broke down over it.

* `Outcome.isAnswer`, `Outcome.isBreakdown`: the outcome says what the notifier answered, or that it broke
  down; `Outcome.isAttempt`: the outcome of a notification step that handed a message over;
* `Services.Notified`, `Services.Delivered`: an outcome says how a message or a change was received;
* `Hands`: what a step handed over, by its outcome;
* **`carryOut_hands`**: a step hands over what its outcome says, and nothing else.
-/

namespace Workflows

/-- What stands before the notifier's reason for not sending a message. -/
def refusalText : String := "Notification delivery failed: "

/-- What stands before the reason of a breakdown. -/
def breakdownText : String := "Step handler panicked: "

/-- What is said of a breakdown; a reason that is no text is not known. -/
def breakdownError (reason : Option String) : String := breakdownText ++ reason.getD "unknown panic"

namespace Outcome

variable (o : Outcome)

/-- The outcome carries an error that starts with a text. -/
def carries (start : String) : Bool := o.error.any fun text => start.toList.isPrefixOf text.toList

/-- The outcome is a pass, or it carries the notifier's reason for not sending a message. -/
def isAnswer : Bool := o.passed || o.carries refusalText

/-- The outcome carries the reason of a breakdown. -/
def isBreakdown : Bool := o.carries breakdownText

/-- The outcome says what the notifier answered, or that it broke down. -/
def isAttempt : Bool := o.isAnswer || o.isBreakdown

variable {o} in
theorem carries_of_error {start text : String} (error : o.error = some (start ++ text)) :
    o.carries start = true := by
  simp [carries, error, String.toList_append]

end Outcome

namespace Services

variable (services : Services)

/-- An outcome says how the notifier received a message: it holds the recipients and the message that were
sent, or the reason why they were not, or that of a breakdown. -/
inductive Notified (n : Notification) (o : Outcome) : Prop
  | sent (before : Outbox) (answer : services.notifier before n = .ok ()) (passed : o.passed = true)
      (data : ∃ members, o.data = some members ∧
        members.get? "recipients" = some (.ofTexts n.recipients) ∧
        members.get? "message" = some (.text n.message))
  | refused (before : Outbox) (reason : String)
      (answer : services.notifier before n = .error (.refused reason)) (failed : o.passed = false)
      (error : o.error = some (refusalText ++ reason))
  | brokeDown (before : Outbox) (reason : Option String)
      (answer : services.notifier before n = .error (.brokeDown reason)) (failed : o.passed = false)
      (error : o.error = some (breakdownError reason))

/-- An outcome says how the delivery service received a change: how it went by each way, or the fault, or the
reason of a breakdown. -/
inductive Delivered (p : Payload) (modes : Option (List DeliveryMode)) (o : Outcome) : Prop
  | delivered (deliver : DeliveryService) (installed : services.delivery = some deliver) (before : Outbox)
      (results : Deliveries) (answer : deliver before p modes = .ok results)
      (passed : o.passed = true ↔ ∃ result ∈ results, result.success = true)
      (data : o.data = some (.ofList results.toData))
  | refused (deliver : DeliveryService) (installed : services.delivery = some deliver) (before : Outbox)
      (fault : DeliveryFault) (answer : deliver before p modes = .error (.refused fault))
      (failed : o.passed = false) (error : o.error = some fault.message)
  | brokeDown (deliver : DeliveryService) (installed : services.delivery = some deliver) (before : Outbox)
      (reason : Option String) (answer : deliver before p modes = .error (.brokeDown reason))
      (failed : o.passed = false) (error : o.error = some (breakdownError reason))

variable {services}

/-- A message that the notifier received is told of, however that went. -/
theorem Notified.isAttempt {n : Notification} {o : Outcome} (h : services.Notified n o) :
    o.isAttempt = true := by
  unfold Outcome.isAttempt Outcome.isAnswer Outcome.isBreakdown
  cases h with
  | sent before answer passed => rw [passed, Bool.true_or, Bool.true_or]
  | refused before reason answer failed error =>
    rw [Outcome.carries_of_error error, Bool.or_true, Bool.true_or]
  | brokeDown before reason answer failed error => rw [Outcome.carries_of_error error, Bool.or_true]

/-- A notifier that does not break down over a message answers. -/
theorem Notified.isAnswer {n : Notification} {o : Outcome} (h : services.Notified n o)
    (unbroken : ∀ before reason, services.notifier before n ≠ .error (.brokeDown reason)) :
    o.isAnswer = true := by
  unfold Outcome.isAnswer
  cases h with
  | sent before answer passed => rw [passed, Bool.true_or]
  | refused before reason answer failed error => rw [Outcome.carries_of_error error, Bool.or_true]
  | brokeDown before reason answer => exact absurd answer (unbroken before reason)

/-- A change is received where a delivery service is installed. -/
theorem Delivered.installed {p : Payload} {modes : Option (List DeliveryMode)} {o : Outcome}
    (h : services.Delivered p modes o) : services.delivery.isSome = true := by
  cases h with
  | delivered _ installed | refused _ installed | brokeDown _ installed =>
    rw [installed]
    rfl

end Services

/-- What a step handed over, by its outcome. -/
inductive Hands (services : Services) (kind : StepKind) (o : Outcome) :
    List Notification → List (Payload × Option (List DeliveryMode)) → Prop
  | message {n : Notification} (notifies : kind = .notification) (notified : services.Notified n o) :
      Hands services kind o [n] []
  | change {p : Payload} {modes : Option (List DeliveryMode)} (delivers : kind = .delivery)
      (delivered : services.Delivered p modes o) : Hands services kind o [] [(p, modes)]
  | nothing (unnotified : kind = .notification → o.isAttempt = false)
      (undelivered : kind = .delivery → services.delivery = none) : Hands services kind o [] []

/-! ## Notifications -/

section Contact

variable (services : Services) (config : Object) (ctx : Context) (outbox : Outbox)

variable {services config ctx} in
/-- What is said of a step without a message does not look like an attempt to send one. -/
theorem not_isAttempt_of_notice {fault : StepFault}
    (h : Contact.notice services config ctx = .error fault) :
    (Outcome.ofError fault.message).isAttempt = false := by
  unfold Contact.notice at h
  dsimp only at h
  split at h
  · cases h
    decide
  · change (if _ then _ else _) = _ at h
    split at h
    · cases h
      decide
    · cases h

/-- The data of a message that was sent. -/
theorem sentOutcome_data (n : Notification) : ∃ members, (Contact.sentOutcome n).data = some members ∧
    members.get? "recipients" = some (.ofTexts n.recipients) ∧
    members.get? "message" = some (.text n.message) := by
  have data : (Contact.sentOutcome n).data = some (((Dict.empty.insert "recipients"
      (.ofTexts n.recipients)).insert "template" (.ofText? n.template)).insert "message"
        (.text n.message)) :=
    congrArg some (Dict.ext_entries (by simp [Dict.ofList, Bindings.ascending, Dict.insert, Dict.empty]))
  refine ⟨_, data, ?_, ?_⟩
  · simp
  · simp

theorem notification_hands : ∃ ns,
    (Contact.notification services config ctx outbox).2 =
        { outbox with notifications := outbox.notifications ++ ns } ∧
      Hands services .notification (settle (Contact.notification services config ctx outbox).1) ns [] := by
  unfold Contact.notification
  cases drafted : Contact.notice services config ctx with
  | error fault =>
    exact ⟨[], by simp, .nothing (fun _ => not_isAttempt_of_notice drafted) nofun⟩
  | ok n =>
    refine ⟨[n], rfl, .message rfl ?_⟩
    dsimp only
    cases answer : services.notifier outbox n with
    | ok => exact .sent outbox answer rfl (sentOutcome_data n)
    | error fault =>
      cases fault with
      | refused reason => exact .refused outbox reason answer rfl rfl
      | brokeDown reason => exact .brokeDown outbox reason answer rfl rfl

/-! ## Deliveries -/

theorem deliveredOutcome_passed (results : Deliveries) :
    (Contact.deliveredOutcome results).passed = true ↔ ∃ result ∈ results, result.success = true := by
  have any : results.anySuccess = true ↔ ∃ result ∈ results, result.success = true := List.any_eq_true
  have all : results.allSuccess = true → results.anySuccess = true := by
    intro all
    simp only [Deliveries.allSuccess, Bool.and_eq_true, List.all_eq_true] at all
    cases results with
    | nil => simp at all
    | cons result rest => exact any.2 ⟨result, by simp, all.2 result (by simp)⟩
  rw [← any]
  unfold Contact.deliveredOutcome
  dsimp only [Outcome.withData]
  split
  · next success => simp [Outcome.pass, Outcome.verdict, all success]
  · split
    · next success => simp [Outcome.pass, Outcome.verdict, success]
    · next failure =>
      rw [Bool.not_eq_true] at failure
      rw [failure]
      split <;> simp [Outcome.ofError]

theorem delivery_hands : ∃ ds,
    (Contact.delivery services config ctx outbox).2 =
        { outbox with deliveries := outbox.deliveries ++ ds } ∧
      Hands services .delivery (settle (Contact.delivery services config ctx outbox).1) [] ds := by
  unfold Contact.delivery
  cases installed : services.delivery with
  | none => exact ⟨[], by simp, .nothing nofun fun _ => installed⟩
  | some deliver =>
    refine ⟨[(Contact.payload config ctx, Contact.modes config)], rfl, .change rfl ?_⟩
    dsimp only
    cases answer : deliver outbox (Contact.payload config ctx) (Contact.modes config) with
    | ok results =>
      exact .delivered deliver installed outbox results answer (deliveredOutcome_passed results) rfl
    | error fault =>
      cases fault with
      | refused fault => exact .refused deliver installed outbox fault answer rfl rfl
      | brokeDown reason => exact .brokeDown deliver installed outbox reason answer rfl rfl

end Contact

/-! ## Steps of any kind -/

/-- **A step hands over what its outcome says, and nothing else.** -/
theorem carryOut_hands (services : Services) (now : Time) (s : Step) (ctx : Context)
    (outbox : Outbox) :
    let carried := s.carryOut services now ctx outbox
    ∃ ns ds, carried.outbox = ⟨outbox.notifications ++ ns, outbox.deliveries ++ ds⟩ ∧
      Hands services s.kind carried.outcome ns ds := by
  have quiet : ∀ {o : Outcome} {kind : StepKind}, kind ≠ .notification → kind ≠ .delivery →
      ∃ ns ds, outbox = ⟨outbox.notifications ++ ns, outbox.deliveries ++ ds⟩ ∧
        Hands services kind o ns ds :=
    fun unnotified undelivered =>
      ⟨[], [], by simp, .nothing (fun h => absurd h unnotified) fun h => absurd h undelivered⟩
  unfold Step.carryOut
  cases s.kind with
  | notification =>
    obtain ⟨ns, after, hands⟩ := notification_hands services s.config ctx outbox
    exact ⟨ns, [], by simp [after], hands⟩
  | delivery =>
    obtain ⟨ds, after, hands⟩ := delivery_hands services s.config ctx outbox
    exact ⟨[], ds, by simp [after], hands⟩
  | _ => exact quiet nofun nofun

end Workflows
