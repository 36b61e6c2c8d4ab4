import Mathlib.Data.List.Induction
import Workflows.Proofs.Carry.Outcome
import Workflows.Proofs.Data.Dict
import Workflows.Proofs.Text.Blank

/-!
# Who is asked and told

A setting stands for different addresses in the order of first mention. They are trimmed and not blank, but for
two that are taken as they are: the actor, and the fallbacks for owners.

* `Addressee.IsAddress`: a text that is not empty and has no blanks at its ends;
* `Addressee.FirstMentions`: texts in the order of first mention, each once; `firstMentions_distinct`;
* `Addressee.mentions`: the addresses that the words of a setting stand for; `Addressee.taken`: those that are
  taken as they are; `mem_resolveOne`: the others are addresses;
* `yields_asked`, `recipients_of_notice`: whom steps ask and tell;
* **`addressees_of_steps`**: who is asked and told.
-/

namespace Workflows

namespace Addressee

/-! ## Addresses -/

/-- A text that is not empty and has no blanks at its ends. -/
def IsAddress (s : String) : Prop := s ≠ "" ∧ Text.trim s = s

instance (s : String) : Decidable (IsAddress s) := inferInstanceAs (Decidable (_ ∧ _))

theorem isAddress_trim {s : String} (visible : Text.isBlank s = false) : IsAddress (Text.trim s) := by
  refine ⟨fun empty => ?_, Text.trim_trim s⟩
  rw [← Text.isBlank_trim, empty] at visible
  cases visible

theorem isAddress_of_nonBlank? {s t : String} (kept : Text.nonBlank? s = some t) : IsAddress t := by
  unfold Text.nonBlank? at kept
  split at kept
  · cases kept
  · next visible =>
    cases kept
    exact isAddress_trim (Bool.eq_false_iff.2 visible)

/-! ## The order of first mention -/

/-- Texts in the order in which they are first mentioned, each once. -/
structure FirstMentions (mentioned people : List String) : Prop where
  mem_iff : ∀ a, a ∈ people ↔ a ∈ mentioned
  ordered : people.Pairwise fun a b => mentioned.idxOf a < mentioned.idxOf b

theorem FirstMentions.nodup {mentioned people : List String} (first : FirstMentions mentioned people) :
    people.Nodup :=
  first.ordered.imp fun before same => by rw [same] at before; exact Nat.lt_irrefl _ before

theorem distinct_concat (xs : List String) (x : String) :
    distinct (xs ++ [x]) = if (distinct xs).contains x then distinct xs else distinct xs ++ [x] := by
  rw [distinct, List.foldl_append]
  rfl

theorem firstMentions_distinct (xs : List String) : FirstMentions xs (distinct xs) := by
  induction xs using List.reverseRecOn with
  | nil => exact ⟨fun a => .rfl, .nil⟩
  | append_singleton xs x ih =>
    have before : (distinct xs).Pairwise fun a b => (xs ++ [x]).idxOf a < (xs ++ [x]).idxOf b :=
      ih.ordered.imp_of_mem fun {a b} mem mem' less => by
        rwa [List.idxOf_append_of_mem ((ih.mem_iff a).1 mem), List.idxOf_append_of_mem ((ih.mem_iff b).1 mem')]
    rw [distinct_concat]
    split
    · next again =>
      rw [List.contains_iff_mem, ih.mem_iff] at again
      refine ⟨fun a => ?_, before⟩
      rw [ih.mem_iff, List.mem_append, List.mem_singleton]
      exact ⟨.inl, fun mem => mem.elim id fun same => same ▸ again⟩
    · next fresh =>
      -- a new text comes last, and no earlier one is first mentioned behind it
      rw [List.contains_iff_mem, ih.mem_iff] at fresh
      refine ⟨fun a => ?_, List.pairwise_append.2 ⟨before, List.pairwise_singleton _ _, fun a mem b last => ?_⟩⟩
      · rw [List.mem_append, List.mem_append, ih.mem_iff]
      · rw [List.mem_singleton.1 last, List.idxOf_append_of_mem ((ih.mem_iff a).1 mem),
          List.idxOf_append_of_notMem fresh]
        exact Nat.lt_add_right _ (List.idxOf_lt_length_of_mem ((ih.mem_iff a).1 mem))

/-! ## What words stand for -/

variable (ctx : Context) (fallbacks : Fallbacks) (audience : Audience) (setting : Value)

/-- The addresses that the words of a setting stand for, in their order. -/
def mentions : List String := (words setting).flatMap (resolveOne ctx fallbacks audience)

/-- The fallback, where an attribute names nobody. -/
def fallen (key fallback : String) : List String := if people ctx key = [] then [fallback] else []

/-- What a word stands for as it is, neither trimmed nor left out where it is blank: the actor, and the fallback for
owners that the entity does not name. -/
def takenBy (word : String) : List String :=
  let word := Text.trim word
  if word = "requester" then ctx.actor.toList
  else if word = "domain_owners" then fallen ctx "domain_owners" fallbacks.domainOwner
  else if word = "project_owners" then fallen ctx "project_owners" fallbacks.projectOwner
  else []

/-- What the words of a setting stand for as it is. -/
def taken : List String := (words setting).flatMap (takenBy ctx fallbacks)

variable {ctx fallbacks audience} {a word : String}

theorem isAddress_of_splitList {s : String} (mem : a ∈ splitList s) : IsAddress a := by
  obtain ⟨piece, -, kept⟩ := List.mem_filterMap.1 mem
  exact isAddress_of_nonBlank? kept

theorem isAddress_of_people {key : String} (mem : a ∈ people ctx key) : IsAddress a := by
  unfold people at mem
  split at mem
  · exact isAddress_of_splitList mem
  · obtain ⟨v, -, kept⟩ := List.mem_filterMap.1 mem
    obtain ⟨s, -, kept⟩ := Option.bind_eq_some_iff.1 kept
    exact isAddress_of_nonBlank? kept
  · cases mem

theorem mem_peopleOr {key fallback : String} :
    a ∈ peopleOr ctx key fallback ↔ a ∈ people ctx key ∨ a ∈ fallen ctx key fallback := by
  unfold peopleOr fallen
  cases people ctx key <;> simp

/-- What a word stands for is an address, or taken as it is; and what is taken counts. -/
theorem mem_resolveOne_iff : a ∈ resolveOne ctx fallbacks audience word ↔
    (a ∈ resolveOne ctx fallbacks audience word ∧ IsAddress a) ∨ a ∈ takenBy ctx fallbacks word := by
  have owners {key fallback : String} : a ∈ peopleOr ctx key fallback ↔
      (a ∈ peopleOr ctx key fallback ∧ IsAddress a) ∨ a ∈ fallen ctx key fallback := by
    rw [mem_peopleOr]
    have real : a ∈ people ctx key → IsAddress a := isAddress_of_people
    tauto
  have addresses {xs : List String} (all : a ∈ xs → IsAddress a) : a ∈ xs ↔ (a ∈ xs ∧ IsAddress a) ∨ a ∈ [] := by
    simpa using all
  have trimmed : Text.trim (Text.trim word) = Text.trim word := Text.trim_trim word
  unfold resolveOne takenBy
  dsimp only
  generalize Text.trim word = w at trimmed
  by_cases blank : w.isEmpty
  · rw [String.isEmpty_iff.1 blank]
    exact addresses nofun
  rw [if_neg blank]
  split
  · tauto
  · split
    · exact owners
    · split
      · exact owners
      · split
        · exact addresses isAddress_of_people
        · split
          · exact addresses isAddress_of_splitList
          · refine addresses fun mem => ?_
            rw [List.mem_singleton.1 mem]
            exact ⟨fun empty => blank (String.isEmpty_iff.2 empty), trimmed⟩

variable {setting}

/-- A setting stands for the addresses among its mentions, and for what it takes as it is. -/
theorem mem_resolve_iff : a ∈ resolve ctx fallbacks audience setting ↔
    (a ∈ mentions ctx fallbacks audience setting ∧ IsAddress a) ∨ a ∈ taken ctx fallbacks setting := by
  rw [resolve, (firstMentions_distinct _).mem_iff, mentions, taken, List.mem_flatMap, List.mem_flatMap]
  constructor
  · rintro ⟨word, there, mem⟩
    rcases mem_resolveOne_iff.1 mem with ⟨mem, address⟩ | as
    · exact .inl ⟨⟨word, there, mem⟩, address⟩
    · exact .inr ⟨word, there, as⟩
  · rintro (⟨there, -⟩ | ⟨word, there, as⟩)
    · exact there
    · exact ⟨word, there, mem_resolveOne_iff.2 (.inr as)⟩

/-- All that a setting stands for are addresses just where all that it takes as it is are. -/
theorem resolve_addresses_iff : (∀ a ∈ resolve ctx fallbacks audience setting, IsAddress a) ↔
    ∀ a ∈ taken ctx fallbacks setting, IsAddress a :=
  ⟨fun all a as => all a (mem_resolve_iff.2 (.inr as)),
    fun all a mem => (mem_resolve_iff.1 mem).elim (·.2) (all a)⟩

end Addressee

/-! ## Whom steps ask and tell -/

section Steps

variable (services : Services) (config : Object) (ctx : Context)

/-- A step that asks for a decision records whom it asks. -/
theorem yields_asked : Yields (fun o => ∃ setting, config.get? "approvers" = some setting ∧
    let people := Addressee.resolve ctx services.fallbacks .approvers setting
    people ≠ [] ∧ ∃ data, o.data = some data ∧ data.get? "approvers" = some (.ofTexts people))
      (Contact.approval services config ctx) := by
  unfold Contact.approval
  dsimp only
  split
  · exact .error _
  · next named =>
    cases set : config.get? "approvers" with
    | none => rw [set] at named; exact absurd rfl named
    | some setting =>
      refine .bind fun days => .bind fun all => ?_
      split
      · exact .error _
      · next some =>
        refine .ok ⟨setting, rfl, by simpa [Contact.addresses] using some, _, rfl, ?_⟩
        rw [Dict.get?_ofList (by simp)]
        rfl

/-- A message goes to whom its setting stands for. -/
theorem recipients_of_notice {n : Notification} (drafted : Contact.notice services config ctx = .ok n) :
    ∃ setting, config.get? "recipients" = some setting ∧ n.recipients ≠ [] ∧
      n.recipients = Addressee.resolve ctx services.fallbacks .recipients setting := by
  unfold Contact.notice at drafted
  dsimp only at drafted
  split at drafted
  · cases drafted
  · next named =>
    cases set : config.get? "recipients" with
    | none => rw [set] at named; exact absurd rfl named
    | some setting =>
      rw [set] at drafted
      change (if _ then _ else _) = _ at drafted
      split at drafted
      · cases drafted
      · next some =>
        cases drafted
        exact ⟨setting, rfl, by simpa using some, rfl⟩

end Steps

open Addressee in
/-- **Who is asked and told.** A setting stands for different texts in the order of first mention. Each of them is an
address or taken as it is, so all are addresses just where the actor and the fallbacks are that are taken. An approval
for which the run waits asks somebody, and a message that is handed over goes to somebody: an address, or else none but
what is taken and is no address. -/
theorem addressees_of_steps (services : Services) (now : Time) (s : Step) (ctx : Context) (outbox : Outbox) :
    let people := resolve ctx services.fallbacks
    let taken := taken ctx services.fallbacks
    let carried := s.carryOut services now ctx outbox
    (∀ audience setting, (people audience setting).Nodup ∧
      FirstMentions (mentions ctx services.fallbacks audience setting) (people audience setting) ∧
      (∀ a ∈ people audience setting, IsAddress a ∨ a ∈ taken setting) ∧
      ((∀ a ∈ people audience setting, IsAddress a) ↔ ∀ a ∈ taken setting, IsAddress a)) ∧
    (s.kind = .approval → carried.outcome.blocking = true →
      ∃ setting data, s.config.get? "approvers" = some setting ∧ carried.outcome.data = some data ∧
        data.get? "approvers" = some (.ofTexts (people .approvers setting)) ∧ people .approvers setting ≠ [] ∧
        ((∃ a ∈ people .approvers setting, IsAddress a) ∨
          ∀ a ∈ people .approvers setting, a ∈ taken setting ∧ ¬ IsAddress a)) ∧
    (s.kind = .notification → ∀ n, carried.outbox = outbox.notify n →
      ∃ setting, s.config.get? "recipients" = some setting ∧ n.recipients = people .recipients setting ∧
        n.recipients ≠ [] ∧
        ((∃ a ∈ n.recipients, IsAddress a) ∨ ∀ a ∈ n.recipients, a ∈ taken setting ∧ ¬ IsAddress a)) := by
  intro people taken carried
  have given {audience : Audience} {setting : Value} : ∀ a ∈ people audience setting,
      IsAddress a ∨ a ∈ taken setting :=
    fun a mem => (mem_resolve_iff.1 mem).imp_left (·.2)
  have somebody {audience : Audience} {setting : Value} : (∃ a ∈ people audience setting, IsAddress a) ∨
      ∀ a ∈ people audience setting, a ∈ taken setting ∧ ¬ IsAddress a := by
    by_cases real : ∃ a ∈ people audience setting, IsAddress a
    · exact .inl real
    · refine .inr fun a mem => ?_
      have unreal : ¬ IsAddress a := fun address => real ⟨a, mem, address⟩
      exact ⟨(given a mem).resolve_left unreal, unreal⟩
  refine ⟨fun audience setting => ?_, fun asks waits => ?_, fun tells n sent => ?_⟩
  · have first := firstMentions_distinct (mentions ctx services.fallbacks audience setting)
    exact ⟨first.nodup, first, given, resolve_addresses_iff⟩
  · have outcome : carried.outcome = settle (Contact.approval services s.config ctx) := by
      unfold carried Step.carryOut
      rw [asks]
    rw [outcome] at waits ⊢
    cases result : Contact.approval services s.config ctx with
    | error fault =>
      rw [result] at waits
      cases waits
    | ok o =>
      obtain ⟨setting, set, some, data, got, asked⟩ := yields_asked services s.config ctx o result
      exact ⟨setting, data, set, got, asked, some, somebody⟩
  · have outbox' : carried.outbox = (Contact.notification services s.config ctx outbox).2 := by
      unfold carried Step.carryOut
      rw [tells]
    rw [outbox', Contact.notification] at sent
    cases drafted : Contact.notice services s.config ctx with
    | error fault =>
      rw [drafted] at sent
      have shorter := congrArg (·.notifications.length) sent
      simp [Outbox.notify] at shorter
    | ok m =>
      rw [drafted] at sent
      obtain ⟨setting, set, some, recipients⟩ := recipients_of_notice services s.config ctx drafted
      have same : m = n := by simpa [Outbox.notify] using congrArg Outbox.notifications sent
      rw [← same, recipients]
      exact ⟨setting, set, rfl, by rwa [recipients] at some, somebody⟩

/-! ## A sample -/

namespace Sample

/-- A context of an entity without owners, with an actor. -/
def releaseOf (actor : Option String) : Context where
  entity := {}
  entityType := "release"
  entityId := "7"
  entityName := none
  actor := actor
  trigger := none
  executionId := "1"
  workflowId := "w"
  workflowName := "W"
  results := {}

end Sample

open Addressee in
/-- A list with the actor, whose name is blank, and two addresses, one of them twice: the approval waits for the actor
and the two addresses, and only the actor is no address. -/
theorem addressees_of_steps_list :
    let setting : Value := .list [.text "requester", .text " a@x.com , b@x.com,", .text "a@x.com "]
    let ask : Step := { Step.new "ask" .approval with config := Dict.ofList [("approvers", setting)] }
    let services := Services.basic fun _ => .timedOut
    let ctx := Sample.releaseOf (some "  ")
    let carried := ask.carryOut services ⟨0, 0⟩ ctx {}
    ask.kind = .approval ∧ carried.outcome.blocking = true ∧
      (∃ data, carried.outcome.data = some data ∧
        data.get? "approvers" = some (.ofTexts ["  ", "a@x.com", "b@x.com"])) ∧
      ∃ a ∈ ["  ", "a@x.com", "b@x.com"], IsAddress a := by
  intro setting ask services ctx carried
  have waits : carried.outcome.blocking = true := by decide +kernel
  have people : resolve ctx services.fallbacks .approvers setting = ["  ", "a@x.com", "b@x.com"] := by
    decide +kernel
  obtain ⟨-, asked, -⟩ := addressees_of_steps services ⟨0, 0⟩ ask ctx {}
  obtain ⟨setting', data, set, got, names, -, real⟩ := asked rfl waits
  have same : setting' = setting := by
    have there : ask.config.get? "approvers" = some setting := by decide +kernel
    exact Option.some.inj (set.symm.trans there)
  rw [same, people] at names real
  refine ⟨rfl, waits, ⟨data, got, names⟩, real.resolve_right fun unreal => ?_⟩
  exact (unreal "a@x.com" (by decide)).2 (by decide +kernel)

open Addressee in
/-- An actor whose name is blank is asked for a decision, alone. -/
theorem blank_actor_is_asked :
    let ask : Step :=
      { Step.new "ask" .approval with config := Dict.ofList [("approvers", .text "requester")] }
    let services := Services.basic fun _ => .timedOut
    let ctx := Sample.releaseOf (some "  ")
    let o := (ask.carryOut services ⟨0, 0⟩ ctx {}).outcome
    resolve ctx services.fallbacks .approvers (.text "requester") = ["  "] ∧ ¬ IsAddress "  " ∧
      o.blocking = true ∧ (o.data.bind (·.get? "approvers")) = some (.ofTexts ["  "]) := by
  decide +kernel

end Workflows
