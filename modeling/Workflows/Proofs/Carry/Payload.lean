import Workflows.Proofs.Carry.Outbox

/-!
# What deliveries carry

A delivery hands over the entity, and the further data of its settings are put over it key by key: a setting that binds
the entity's own key takes the entity's place.

* `Contact.further`: the further data of the settings of a step;
* `Payload.Carries`: what a payload holds of a context, with a value in the entity's place;
* `Contact.payload_carries`: what a step hands over; `Contact.payload_carries_iff`: a payload has one value there;
* **`carryOut_carries`**: which deliveries carry the entity itself; `carryOut_replaced_entity`: one that does not.
-/

namespace Workflows

/-- The further data that a step hands over, by its settings. -/
def Contact.further (config : Object) : Object := ((config.get? "data").bind Value.object?).getD .empty

/-- A payload is about the entity of a context, has a value in the entity's place, and further data next to it. -/
structure Payload.Carries (p : Payload) (ctx : Context) (further : Object) (v : Value) : Prop where
  entityType : p.entityType = ctx.entityType
  entityId : p.entityId = ctx.entityId
  user : p.user = ctx.actor
  entity : p.data.get? "entity" = some v
  others : ∀ key ≠ "entity", p.data.get? key = further.get? key

namespace Contact

variable (config : Object) (ctx : Context)

/-- Each key of the data is bound as the further data bind it, and the entity's own else to the entity. -/
theorem get?_payload_data (key : String) : (payload config ctx).data.get? key =
    ((further config).get? key).or (if "entity" = key then some (.ofObject ctx.entity) else none) := by
  unfold payload further
  cases (config.get? "data").bind Value.object? with
  | none => simp
  | some extra => simp

/-- **What a step hands over**: the further data may have something else in the entity's place. -/
theorem payload_carries : (payload config ctx).Carries ctx (further config)
    (((further config).get? "entity").getD (.ofObject ctx.entity)) where
  entityType := rfl
  entityId := rfl
  user := rfl
  entity := by
    rw [get?_payload_data, if_pos rfl]
    cases (further config).get? "entity" <;> rfl
  others key other := by rw [get?_payload_data, if_neg other.symm, Option.or_none]

end Contact

/-- A payload has one value in the entity's place. -/
theorem Payload.Carries.iff_eq {p : Payload} {ctx : Context} {further : Object} {v w : Value}
    (carries : p.Carries ctx further v) : p.Carries ctx further w ↔ v = w :=
  ⟨fun other => Option.some.inj (carries.entity.symm.trans other.entity), fun same => same ▸ carries⟩

/-- A delivery step hands its payload over if there is a service for it. -/
theorem carryOut_deliveries (services : Services) (now : Time) {s : Step} (ctx : Context) (outbox : Outbox)
    (delivers : s.kind = .delivery) : (s.carryOut services now ctx outbox).outbox.deliveries = outbox.deliveries ++
      (services.delivery.map fun _ => (Contact.payload s.config ctx, Contact.modes s.config)).toList := by
  unfold Step.carryOut
  rw [delivers]
  dsimp only
  unfold Contact.delivery
  cases services.delivery <;> simp [Outbox.deliver]

/-- **Deliveries carry the entity itself unless the further data bind its key to something else.** A step hands a
payload over just where it delivers and there is a service for it, and its outcome says how that one was received. -/
theorem carryOut_carries (services : Services) (now : Time) (s : Step) (ctx : Context) (outbox : Outbox) :
    let carried := s.carryOut services now ctx outbox
    let further := Contact.further s.config
    ∃ ds, carried.outbox.deliveries = outbox.deliveries ++ ds ∧
      ds.length = (if s.kind = .delivery ∧ services.delivery.isSome then 1 else 0) ∧
      ∀ d ∈ ds, services.Delivered d.1 d.2 carried.outcome ∧
        d.1.Carries ctx further ((further.get? "entity").getD (.ofObject ctx.entity)) ∧
        (d.1.Carries ctx further (.ofObject ctx.entity) ↔
          ∀ v, further.get? "entity" = some v → v = .ofObject ctx.entity) := by
  intro carried further
  obtain ⟨ns, ds, after, hands⟩ := carryOut_hands services now s ctx outbox
  have deliveries : carried.outbox.deliveries = outbox.deliveries ++ ds := congrArg Outbox.deliveries after
  refine ⟨ds, deliveries, ?_⟩
  by_cases delivers : s.kind = .delivery
  · have handed := List.append_cancel_left
      (deliveries.symm.trans (carryOut_deliveries services now ctx outbox delivers))
    cases installed : services.delivery with
    | none => simp [handed, installed]
    | some deliver =>
      have one : ds = [(Contact.payload s.config ctx, Contact.modes s.config)] := by rw [handed, installed]; rfl
      subst one
      refine ⟨by simp [delivers], fun d mem => ?_⟩
      cases List.mem_singleton.1 mem
      have carries := Contact.payload_carries s.config ctx
      refine ⟨?_, carries, carries.iff_eq.trans ?_⟩
      · cases hands with
        | change _ delivered => exact delivered
      · cases further.get? "entity" <;> simp
  · have none : ds = [] := by
      cases hands with
      | change delivers => contradiction
      | _ => rfl
    simp [none, delivers]

/-- A workflow that puts a number in the entity's place. -/
theorem carryOut_replaced_entity :
    let services := { Services.basic (fun _ => .timedOut) with delivery := some fun _ _ _ => .ok [] }
    let publish : Step := { Step.new "publish" .delivery with
      config := Dict.ofList [("data", .ofObject (Dict.ofList [("entity", .int 1)]))] }
    let ctx : Context :=
      ⟨Dict.ofList [("name", .text "Sales")], "release", "r1", none, none, none, "e1", "w", "W", {}⟩
    ∃ p, (publish.carryOut services ⟨0, 0⟩ ctx {}).outbox.deliveries = [(p, none)] ∧
      p.data.get? "entity" = some (.int 1) ∧
      ¬ p.Carries ctx (Contact.further publish.config) (.ofObject ctx.entity) := by
  intro services publish ctx
  refine ⟨Contact.payload publish.config ctx, by decide +kernel, by decide +kernel, fun faithful => ?_⟩
  have replaced := faithful.entity
  revert replaced
  decide +kernel

end Workflows
