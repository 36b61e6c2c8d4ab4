import Workflows.Proofs.Carry.Entity
import Workflows.Proofs.Data.Dict

/-!
# Tag steps in a row

For tag steps the tags of an entity are a finite map: an assignment that passes binds its key, a removal unbinds
it, and nothing else changes, whatever stands between them and fails.

* `Tag.map?`: the tags of an entity as a map; `Tag.bound?`: what a key is bound to; `Tag.put`: a key bound
  anew, or unbound;
* `Tag.edit?`: what a step does to the map; `carryOut_edit`, `carryOut_unmapped`: the entity after a tag step,
  by its tags before;
* `Retagged`: a context with other tags; `Tag.value?_retagged`: the values of tags do not depend on tags;
* `Turn`, `turns`: steps carried out one after the other; `forall_turns`: what every step keeps, all of them keep;
* `lastPassed`: the last step of a key that passed; `map?_final`: the tags after steps in a row;
* **`tag_steps_act_as_map`**: tag steps in a row act as a finite map.
-/

namespace Workflows

namespace Tag

/-! ## Tags as a map -/

/-- The tags of an entity as a map, an empty one where it has no place for them, or null there. There is none
where something else stands in the place. -/
def map? (entity : Object) : Option Object :=
  match entity.get? "tags" with
  | none | some .null => some {}
  | some v => v.object?

/-- What a key is bound to among the tags of an entity. -/
def bound? (entity : Object) (key : String) : Option Value := (map? entity).bind (·.get? key)

/-- The tags with a key bound to a value, or unbound. -/
def put (tags : Object) (key : String) : Option Value → Object
  | some value => tags.insert key value
  | none => tags.erase key

@[simp] theorem get?_put (tags : Object) (key key' : String) (value : Option Value) :
    (put tags key value).get? key' = if key = key' then value else tags.get? key' := by
  cases value with
  | some value => exact Dict.get?_insert ..
  | none => exact Dict.get?_erase ..

theorem erase_of_unbound {tags : Object} {key : String} (unbound : tags.get? key = none) :
    tags.erase key = tags := by
  refine Dict.ext_get? fun key' => ?_
  rw [Dict.get?_erase]
  split
  · next same => rw [← same, unbound]
  · rfl

@[simp] theorem map?_insert (entity tags : Object) :
    map? (entity.insert "tags" (.ofObject tags)) = some tags := by
  rw [map?, Dict.get?_insert, if_pos rfl]
  exact Value.object?_ofObject tags

/-- The place for tags holds the map, and what is written there comes into the entity as it was. -/
theorem place_eq (entity : Object) : ∃ made, (∀ v, made.insert "tags" v = entity.insert "tags" v) ∧
    place entity = match map? entity with
      | some tags => (.ok tags, made)
      | none => (.error .tagsNotObject, entity) := by
  have anew : ∀ v, (entity.insert "tags" (.ofObject {})).insert "tags" v = entity.insert "tags" v :=
    fun v => Dict.insert_insert ..
  unfold place map?
  cases slot : entity.get? "tags" with
  | none => exact ⟨_, anew, by simp⟩
  | some v =>
    cases v with
    | null => exact ⟨_, anew, by simp⟩
    | object members => exact ⟨entity, fun _ => rfl, by simp [slot, Value.object?]⟩
    | bool | number | text | list => exact ⟨entity, fun _ => rfl, by simp [slot, Value.object?]⟩

/-- The object in the place for tags is the map, unless there is none and the map is empty. -/
theorem object?_tags (entity : Object) : (entity.get? "tags").bind Value.object? = map? entity ∨
    (entity.get? "tags").bind Value.object? = none ∧ map? entity = some {} := by
  unfold map?
  split
  · next slot => exact .inr ⟨by rw [slot]; rfl, rfl⟩
  · next slot => exact .inr ⟨by rw [slot]; rfl, rfl⟩
  · next v null slot => exact .inl (by rw [slot]; rfl)

/-! ## One step -/

/-- What a step does to the map: the key that it binds to a value, or unbinds. -/
def edit? (s : Step) (now : Time) (ctx : Context) : Option (String × Option Value) :=
  match s.kind with
  | .assignTag => (Setting.text? s.config "key").bind fun key =>
      (value? s.config ctx now).map fun value => (key, some (.text value))
  | .removeTag => (Setting.text? s.config "key").map (·, none)
  | _ => none

/-- What a step edits is the tag that its settings name. -/
theorem key_of_edit? {s : Step} {now : Time} {ctx : Context} {key : String} {value : Option Value}
    (edits : edit? s now ctx = some (key, value)) : Setting.text? s.config "key" = some key := by
  unfold edit? at edits
  split at edits
  · obtain ⟨_, set, edits⟩ := Option.bind_eq_some_iff.1 edits
    obtain ⟨_, -, same⟩ := Option.map_eq_some_iff.1 edits
    cases same
    exact set
  · obtain ⟨_, set, same⟩ := Option.map_eq_some_iff.1 edits
    cases same
    exact set
  · cases edits

/-- A tag is given by a step that has a key and a value. -/
theorem given_eq {config : Object} {ctx : Context} {now : Time} {key value : String}
    (set : Setting.text? config "key" = some key) (resolved : value? config ctx now = some value) :
    given config ctx now = .ok (key, value) := by
  unfold given Setting.required
  rw [set, resolved]
  rfl

theorem given_of_unset {config : Object} (ctx : Context) (now : Time)
    (unset : Setting.text? config "key" = none) :
    given config ctx now = .error (.notConfigured "key") := by
  unfold given Setting.required
  rw [unset]
  rfl

theorem given_of_unresolved {config : Object} {ctx : Context} {now : Time} {key : String}
    (set : Setting.text? config "key" = some key) (unresolved : value? config ctx now = none) :
    given config ctx now = .error .unresolvedTag := by
  unfold given Setting.required
  rw [set, unresolved]
  rfl

section Step

variable (config : Object) {ctx : Context} (now : Time) {key value : String} {tags : Object}

variable {config now} in
theorem assign_of_map (mapped : map? ctx.entity = some tags) (tag : given config ctx now = .ok (key, value)) :
    (settle (assign config ctx now).1).passed = true ∧
      map? (assign config ctx now).2 = some (tags.insert key (.text value)) := by
  obtain ⟨made, written, place⟩ := place_eq ctx.entity
  unfold assign
  rw [tag]
  dsimp only
  rw [place, mapped]
  dsimp only
  rw [written, map?_insert]
  exact ⟨rfl, rfl⟩

variable {config now} in
theorem assign_of_error {fault : StepFault} (tag : given config ctx now = .error fault) :
    assign config ctx now = (.error fault, ctx.entity) := by
  unfold assign
  rw [tag]

theorem assign_of_unmapped (unmapped : map? ctx.entity = none) :
    (settle (assign config ctx now).1).passed = false ∧ (assign config ctx now).2 = ctx.entity := by
  cases tag : given config ctx now with
  | error fault =>
    rw [assign_of_error tag]
    exact ⟨rfl, rfl⟩
  | ok tag' =>
    obtain ⟨made, -, place⟩ := place_eq ctx.entity
    unfold assign
    rw [tag]
    dsimp only
    rw [place, unmapped]
    exact ⟨rfl, rfl⟩

variable {config} in
theorem remove_of_error (unset : Setting.text? config "key" = none) :
    remove config ctx = (.error (.notConfigured "key"), ctx.entity) := by
  unfold remove Setting.required
  rw [unset]

variable {config} in
/-- A removal with a key passes and says whether the key was bound. -/
theorem remove_reports (ctx : Context) (set : Setting.text? config "key" = some key) :
    ∃ o data, (remove config ctx).1 = .ok o ∧ o.passed = true ∧ o.data = some data ∧
      data.get? "removed" = some (.bool (bound? ctx.entity key).isSome) := by
  have reads (removed : Bool) :
      (Dict.ofList [("key", Value.text key), ("removed", .bool removed)]).get? "removed" =
        some (.bool removed) := by
    rw [Dict.get?_ofList (by simp)]
    rfl
  unfold remove Setting.required
  rw [set]
  refine ⟨_, _, rfl, rfl, rfl, (reads _).trans ?_⟩
  congr 2
  rw [bound?]
  rcases object?_tags ctx.entity with there | ⟨none, empty⟩
  · rw [there]
    cases map? ctx.entity with
    | none => rfl
    | some tags =>
      dsimp only [Option.bind_some]
      cases bound : tags.get? key <;> simp [Dict.contains, bound]
  · rw [none, empty]
    rfl

variable {config} in
theorem remove_of_map (mapped : map? ctx.entity = some tags) (set : Setting.text? config "key" = some key) :
    map? (remove config ctx).2 = some (tags.erase key) := by
  unfold remove Setting.required
  rw [set]
  dsimp only
  rcases object?_tags ctx.entity with there | ⟨none, empty⟩
  · rw [there, mapped]
    dsimp only
    split
    · exact map?_insert ..
    · next unbound =>
      rw [Dict.contains, Option.not_isSome_iff_eq_none] at unbound
      rw [erase_of_unbound unbound]
      exact mapped
  · cases mapped.symm.trans empty
    rw [none, erase_of_unbound rfl]
    exact mapped

theorem remove_of_unmapped (unmapped : map? ctx.entity = none) : (remove config ctx).2 = ctx.entity := by
  unfold remove
  split
  · rfl
  · rcases object?_tags ctx.entity with there | ⟨-, empty⟩
    · rw [there, unmapped]
    · cases unmapped.symm.trans empty

end Step

end Tag

section CarryOut

variable (services : Services) (now : Time) {s : Step} (ctx : Context) (outbox : Outbox) {tags : Object}

variable {ctx} in
/-- **A tag step edits the map, and passes just where it has an edit to make.** -/
theorem carryOut_edit (tagging : s.kind = .assignTag ∨ s.kind = .removeTag)
    (mapped : Tag.map? ctx.entity = some tags) :
    let carried := s.carryOut services now ctx outbox
    (carried.outcome.passed = true ↔ (Tag.edit? s now ctx).isSome = true) ∧
      Tag.map? carried.entity = some (match Tag.edit? s now ctx with
        | some (key, value) => Tag.put tags key value
        | none => tags) := by
  unfold Step.carryOut Tag.edit?
  rcases tagging with kind | kind
  · rw [kind]
    dsimp only
    cases set : Setting.text? s.config "key" with
    | none =>
      rw [Tag.assign_of_error (Tag.given_of_unset ctx now set)]
      exact ⟨by simp [settle, Outcome.ofError], mapped⟩
    | some key =>
      cases resolved : Tag.value? s.config ctx now with
      | none =>
        rw [Tag.assign_of_error (Tag.given_of_unresolved set resolved)]
        exact ⟨by simp [settle, Outcome.ofError], mapped⟩
      | some value =>
        obtain ⟨passed, after⟩ := Tag.assign_of_map mapped (Tag.given_eq set resolved)
        exact ⟨by simp [passed], after⟩
  · rw [kind]
    dsimp only
    cases set : Setting.text? s.config "key" with
    | none =>
      rw [Tag.remove_of_error set]
      exact ⟨by simp [settle, Outcome.ofError], mapped⟩
    | some key =>
      obtain ⟨o, -, result, passed, -⟩ := Tag.remove_reports ctx set
      refine ⟨?_, Tag.remove_of_map mapped set⟩
      rw [result]
      simp [settle, passed]

variable {ctx} in
/-- **Without a map a tag step changes nothing, and it does not assign.** -/
theorem carryOut_unmapped (tagging : s.kind = .assignTag ∨ s.kind = .removeTag)
    (unmapped : Tag.map? ctx.entity = none) :
    let carried := s.carryOut services now ctx outbox
    carried.entity = ctx.entity ∧ (s.kind = .assignTag → carried.outcome.passed = false) := by
  unfold Step.carryOut
  rcases tagging with kind | kind
  · rw [kind]
    obtain ⟨failed, same⟩ := Tag.assign_of_unmapped s.config now unmapped
    exact ⟨same, fun _ => failed⟩
  · rw [kind]
    exact ⟨Tag.remove_of_unmapped s.config unmapped, nofun⟩

/-- A removal passes just where it has a key, whatever stands in the place for tags, and says whether the key was
bound. -/
theorem carryOut_remove (kind : s.kind = .removeTag) :
    let o := (s.carryOut services now ctx outbox).outcome
    (o.passed = true ↔ (Setting.text? s.config "key").isSome = true) ∧
      ∀ key, Setting.text? s.config "key" = some key → ∃ data, o.data = some data ∧
        data.get? "removed" = some (.bool (Tag.bound? ctx.entity key).isSome) := by
  unfold Step.carryOut
  rw [kind]
  dsimp only
  cases set : Setting.text? s.config "key" with
  | none =>
    rw [Tag.remove_of_error set]
    exact ⟨by simp [settle, Outcome.ofError], nofun⟩
  | some key =>
    obtain ⟨o, data, result, passed, got, removed⟩ := Tag.remove_reports ctx set
    rw [result]
    refine ⟨by simp [settle, passed], fun _ same => ⟨data, got, ?_⟩⟩
    rwa [← Option.some.inj same]

end CarryOut

/-! ## Other tags -/

/-- A context is another one but for the tags of its entity. -/
structure Retagged (a b : Context) : Prop where
  rest : b = { a with entity := b.entity }
  tags : SameButTags a.entity b.entity

namespace Retagged

variable {a b c : Context}

theorem refl (a : Context) : Retagged a a := ⟨rfl, .refl _⟩

theorem trans (ab : Retagged a b) (bc : Retagged b c) : Retagged a c := by
  refine ⟨?_, ab.tags.trans bc.tags⟩
  rw [bc.rest, ab.rest]

theorem step (services : Services) (now : Time) (s : Step) (ctx : Context) (outbox : Outbox) :
    Retagged ctx ((s.carryOut services now ctx outbox).context ctx) :=
  ⟨rfl, carryOut_sameButTags services now s ctx outbox⟩

theorem entityText? (ab : Retagged a b) {key : String} (other : key ≠ "tags") :
    b.entityText? key = a.entityText? key := by
  unfold Context.entityText?
  rw [ab.tags key other]

/-- What a step gives a tag does not depend on the tags. -/
theorem value? (ab : Retagged a b) (config : Object) (now : Time) :
    Tag.value? config b now = Tag.value? config a now := by
  have sourced (source : String) : Tag.sourced? b now source = Tag.sourced? a now source := by
    unfold Tag.sourced?
    rw [ab.entityText? (by decide), ab.entityText? (by decide), ab.rest]
  unfold Tag.value?
  simp only [sourced]

end Retagged

/-! ## Steps in a row -/

/-- A step that was carried out: at what time, in which context, and what it left behind. -/
structure Turn where
  step : Step
  now : Time
  before : Context
  carried : Carried

namespace Turn

/-- Whether the step passed. -/
def passed (t : Turn) : Bool := t.carried.outcome.passed

/-- The context after the step. -/
def after (t : Turn) : Context := t.carried.context t.before

/-- The key in the settings of the step. -/
def key? (t : Turn) : Option String := Setting.text? t.step.config "key"

end Turn

/-- Carries out steps one after the other, each at its time and in the context that the one before it left. -/
def turns (services : Services) : List (Step × Time) → Context → Outbox → List Turn
  | [], _, _ => []
  | (s, now) :: rest, ctx, outbox =>
    let carried := s.carryOut services now ctx outbox
    ⟨s, now, ctx, carried⟩ :: turns services rest (carried.context ctx) carried.outbox

/-- The context after steps in a row. -/
def finalContext (ctx : Context) (ts : List Turn) : Context := ts.foldl (fun _ t => t.after) ctx

/-- The last step of a key that passed. -/
def lastPassed (key : String) (ts : List Turn) : Option Turn :=
  (ts.filter fun t => t.passed && t.key? == some key).getLast?

section Turns

variable (services : Services) {sequence : List (Step × Time)}

theorem turns_cons (p : Step × Time) (rest : List (Step × Time)) (ctx : Context) (outbox : Outbox) :
    let carried := p.1.carryOut services p.2 ctx outbox
    turns services (p :: rest) ctx outbox =
      ⟨p.1, p.2, ctx, carried⟩ :: turns services rest (carried.context ctx) carried.outbox := rfl

theorem finalContext_cons (ctx : Context) (t : Turn) (ts : List Turn) :
    finalContext ctx (t :: ts) = finalContext t.after ts := rfl

/-- What every step keeps, steps in a row keep. -/
theorem forall_turns {I : Context → Prop}
    (keeps : ∀ p ∈ sequence, ∀ ctx outbox, I ctx → I ((p.1.carryOut services p.2 ctx outbox).context ctx))
    (ctx : Context) (outbox : Outbox) (start : I ctx) :
    I (finalContext ctx (turns services sequence ctx outbox)) ∧
      ∀ t ∈ turns services sequence ctx outbox, I t.before ∧ (t.step, t.now) ∈ sequence ∧
        ∃ outbox, t.carried = t.step.carryOut services t.now t.before outbox := by
  induction sequence generalizing ctx outbox with
  | nil => exact ⟨start, fun t mem => absurd mem List.not_mem_nil⟩
  | cons p rest ih =>
    have next := keeps p List.mem_cons_self ctx outbox start
    rw [turns_cons]
    generalize outcome : p.1.carryOut services p.2 ctx outbox = carried at next
    obtain ⟨final, later⟩ := ih (fun q mem => keeps q (List.mem_cons_of_mem _ mem)) _ carried.outbox next
    refine ⟨final, fun t mem => ?_⟩
    rcases List.mem_cons.1 mem with rfl | mem
    · exact ⟨start, List.mem_cons_self, outbox, outcome.symm⟩
    · obtain ⟨inv, there, carried⟩ := later t mem
      exact ⟨inv, List.mem_cons_of_mem _ there, carried⟩

theorem lastPassed_cons (key : String) (t : Turn) (ts : List Turn) :
    lastPassed key (t :: ts) = (lastPassed key ts).or (if t.passed ∧ t.key? = some key then some t else none) := by
  unfold lastPassed
  by_cases counts : t.passed ∧ t.key? = some key
  · rw [List.filter_cons_of_pos (by simpa using counts), List.getLast?_cons, if_pos counts]
    cases (ts.filter fun t => t.passed && t.key? == some key).getLast? <;> rfl
  · rw [List.filter_cons_of_neg (by simpa using counts), if_neg counts, Option.or_none]

theorem mem_of_lastPassed {key : String} {ts : List Turn} {t : Turn} (last : lastPassed key ts = some t) :
    t ∈ ts ∧ t.passed = true ∧ t.key? = some key := by
  have mem := List.mem_of_getLast? last
  simpa using mem

/-- **The tags after tag steps in a row.** A key is bound to what its last step that passed gives it, if any. -/
theorem map?_final (tagging : ∀ p ∈ sequence, p.1.kind = .assignTag ∨ p.1.kind = .removeTag) {ctx : Context}
    (outbox : Outbox) {tags : Object} (mapped : Tag.map? ctx.entity = some tags) :
    ∃ tags', Tag.map? (finalContext ctx (turns services sequence ctx outbox)).entity = some tags' ∧
      ∀ key, tags'.get? key = match lastPassed key (turns services sequence ctx outbox) with
        | some t => (Tag.edit? t.step t.now t.before).bind (·.2)
        | none => tags.get? key := by
  induction sequence generalizing ctx outbox tags with
  | nil => exact ⟨tags, mapped, fun key => rfl⟩
  | cons p rest ih =>
    obtain ⟨passed, after⟩ := carryOut_edit services p.2 outbox (tagging _ List.mem_cons_self) mapped
    rw [turns_cons, finalContext_cons]
    generalize p.1.carryOut services p.2 ctx outbox = carried at passed after
    have next : Tag.map? (carried.context ctx).entity = _ := after
    obtain ⟨tags', final, bound⟩ := ih (fun q mem => tagging q (List.mem_cons_of_mem _ mem)) carried.outbox next
    refine ⟨tags', final, fun key => (bound key).trans ?_⟩
    rw [lastPassed_cons]
    cases lastPassed key (turns services rest (carried.context ctx) carried.outbox) with
    | some t => rfl
    | none =>
      -- no later step of the key passed, so that what the first one did stands
      rw [Option.none_or]
      cases edits : Tag.edit? p.1 p.2 ctx with
      | none =>
        rw [edits] at passed
        rw [if_neg fun counts => nomatch passed.1 counts.1]
      | some edit =>
        obtain ⟨key', value⟩ := edit
        rw [edits] at passed
        have set : Setting.text? p.1.config "key" = some key' := Tag.key_of_edit? edits
        have counts : carried.outcome.passed = true := passed.2 rfl
        simp only [Turn.passed, Turn.key?, Tag.get?_put, set, counts, true_and, Option.some.injEq]
        split
        · simp [edits]
        · rfl

/-- Steps in a row change nothing but tags, and tag steps leave the tags a map. -/
theorem turns_mapped (tagging : ∀ p ∈ sequence, p.1.kind = .assignTag ∨ p.1.kind = .removeTag) {ctx : Context}
    (outbox : Outbox) {tags : Object} (mapped : Tag.map? ctx.entity = some tags) :
    ∀ t ∈ turns services sequence ctx outbox, ∃ tags, Tag.map? t.before.entity = some tags := by
  have keeps : ∀ p ∈ sequence, ∀ c outbox, (∃ tags, Tag.map? c.entity = some tags) →
      ∃ tags, Tag.map? ((p.1.carryOut services p.2 c outbox).context c).entity = some tags := by
    rintro p mem c outbox ⟨tags, mapped⟩
    exact ⟨_, (carryOut_edit services p.2 outbox (tagging p mem) mapped).2⟩
  exact fun t mem => ((forall_turns services keeps ctx outbox ⟨tags, mapped⟩).2 t mem).1

theorem turns_retagged (sequence : List (Step × Time)) (ctx : Context) (outbox : Outbox) :
    Retagged ctx (finalContext ctx (turns services sequence ctx outbox)) ∧
      ∀ t ∈ turns services sequence ctx outbox, Retagged ctx t.before ∧ (t.step, t.now) ∈ sequence ∧
        ∃ outbox, t.carried = t.step.carryOut services t.now t.before outbox :=
  forall_turns services (fun p _ c outbox retagged => retagged.trans (.step services p.2 p.1 c outbox)) ctx outbox
    (.refl ctx)

/-- What an assignment does depends on the context that the row began with, as tags do not count. -/
theorem edit?_assign {ctx : Context} {t : Turn} (retagged : Retagged ctx t.before)
    (kind : t.step.kind = .assignTag) :
    Tag.edit? t.step t.now t.before = t.key?.bind fun key =>
      (Tag.value? t.step.config ctx t.now).map fun value => (key, some (.text value)) := by
  unfold Tag.edit?
  rw [kind, ← retagged.value?]
  rfl

theorem edit?_remove {t : Turn} (kind : t.step.kind = .removeTag) :
    Tag.edit? t.step t.now t.before = t.key?.map (·, none) := by
  unfold Tag.edit?
  rw [kind]
  rfl

/-- **Tag steps in a row act as a finite map.** Nothing but the tags of the entity changes. Where these are a map,
afterwards a key is bound to the value that the last step of the key that passed assigned, and where no step of the
key passed to what it was bound to before; an assignment passes where it has a key and a value. A removal passes
where it has a key, and says whether the key was bound. Where there is no map, nothing changes at all, and no
assignment passes. -/
theorem tag_steps_act_as_map (sequence : List (Step × Time)) (ctx : Context) (outbox : Outbox)
    (tagging : ∀ p ∈ sequence, p.1.kind = .assignTag ∨ p.1.kind = .removeTag) :
    let ts := turns services sequence ctx outbox
    let final := finalContext ctx ts
    Retagged ctx final ∧
    (∀ tags, Tag.map? ctx.entity = some tags →
      (∃ tags', Tag.map? final.entity = some tags' ∧ ∀ key v, tags'.get? key = some v ↔
        (∃ t, lastPassed key ts = some t ∧ t.step.kind = .assignTag ∧
          (Tag.value? t.step.config ctx t.now).map .text = some v) ∨
        lastPassed key ts = none ∧ tags.get? key = some v) ∧
      ∀ t ∈ ts, t.step.kind = .assignTag →
        (t.passed = true ↔ t.key?.isSome = true ∧ (Tag.value? t.step.config ctx t.now).isSome = true)) ∧
    (∀ t ∈ ts, t.step.kind = .removeTag → (t.passed = true ↔ t.key?.isSome = true) ∧
      ∀ key, t.key? = some key → ∃ data, t.carried.outcome.data = some data ∧
        data.get? "removed" = some (.bool (Tag.bound? t.before.entity key).isSome)) ∧
    (Tag.map? ctx.entity = none → final = ctx ∧
      ∀ t ∈ ts, t.after = ctx ∧ (t.step.kind = .assignTag → t.passed = false)) := by
  intro ts final
  obtain ⟨retagged, turned⟩ := turns_retagged services sequence ctx outbox
  have kinds (t : Turn) (mem : t ∈ ts) : t.step.kind = .assignTag ∨ t.step.kind = .removeTag :=
    tagging _ (turned t mem).2.1
  refine ⟨retagged, fun tags mapped => ⟨?_, fun t mem kind => ?_⟩, fun t mem kind => ?_, fun unmapped => ?_⟩
  · obtain ⟨tags', after, bound⟩ := map?_final services tagging outbox mapped
    refine ⟨tags', after, fun key v => ?_⟩
    rw [bound]
    cases last : lastPassed key ts with
    | none => simp
    | some t =>
      obtain ⟨mem, -, set⟩ := mem_of_lastPassed last
      simp only [Option.some.injEq, exists_eq_left', reduceCtorEq, false_and, or_false]
      rcases kinds t mem with kind | kind
      · rw [edit?_assign (turned t mem).1 kind, set, and_iff_right kind]
        cases Tag.value? t.step.config ctx t.now <;> simp
      · rw [edit?_remove kind, set, kind]
        simp
  · obtain ⟨before, -, outbox, carried⟩ := turned t mem
    obtain ⟨tags, mapped⟩ := turns_mapped services tagging _ mapped t mem
    have passes := (carryOut_edit services t.now outbox (.inl kind) mapped).1
    rw [← carried, edit?_assign before kind] at passes
    rw [Turn.passed, passes]
    cases t.key? <;> simp
  · obtain ⟨-, -, outbox, carried⟩ := turned t mem
    have reports := carryOut_remove services t.now t.before outbox kind
    rwa [← carried] at reports
  · have keeps : ∀ p ∈ sequence, ∀ c outbox, c = ctx →
        (p.1.carryOut services p.2 c outbox).context c = ctx := by
      rintro p mem c outbox rfl
      rw [Carried.context, (carryOut_unmapped services p.2 outbox (tagging p mem) unmapped).1]
    obtain ⟨same, each⟩ := forall_turns services keeps ctx outbox rfl
    refine ⟨same, fun t mem => ?_⟩
    obtain ⟨before, there, outbox, carried⟩ := each t mem
    rw [← before] at unmapped
    obtain ⟨entity, failed⟩ := carryOut_unmapped services t.now outbox (kinds t mem) unmapped
    rw [← carried] at entity failed
    exact ⟨by rw [Turn.after, Carried.context, entity, before], failed⟩

/-- A tag is assigned, another one that cannot be resolved is not, and a third is removed twice: what is bound
afterwards. -/
theorem tag_steps_act_as_map_legacy :
    let tag (kind : StepKind) (members : List (String × Value)) : Step × Time :=
      ({ Step.new "tag" kind with config := Dict.ofList members }, ⟨0, 0⟩)
    let sequence := [
      tag .assignTag [("key", .text "domain"), ("value_source", .text "project_name")],
      tag .assignTag [("key", .text "pii"), ("value_source", .text "moon_phase")],
      tag .removeTag [("key", .text " legacy ")],
      tag .removeTag [("key", .text "legacy")]]
    let ctx : Context := {
      entity := Dict.ofList [("project_id", .text "finance"),
        ("tags", .object [("legacy", .text "yes"), ("pii", .text "no")])]
      entityType := "release"
      entityId := "7"
      entityName := none
      actor := none
      trigger := none
      executionId := "1"
      workflowId := "w"
      workflowName := "W"
      results := {} }
    let ts := turns (Services.basic fun _ => .timedOut) sequence ctx {}
    (∀ p ∈ sequence, p.1.kind = .assignTag ∨ p.1.kind = .removeTag) ∧
      ∃ tags, Tag.map? (finalContext ctx ts).entity = some tags ∧ tags.get? "domain" = some (.text "finance") ∧
        tags.get? "pii" = some (.text "no") ∧ tags.get? "legacy" = none := by
  intro tag sequence ctx ts
  have tagging : ∀ p ∈ sequence, p.1.kind = .assignTag ∨ p.1.kind = .removeTag := by
    decide +kernel
  obtain ⟨-, mapped, -, -⟩ :=
    tag_steps_act_as_map (Services.basic fun _ => .timedOut) sequence ctx {} tagging
  have before : Tag.map? ctx.entity = some (Dict.ofList [("legacy", .text "yes"), ("pii", .text "no")]) := by
    decide +kernel
  obtain ⟨⟨tags, after, bound⟩, -⟩ := mapped _ before
  have domain : (lastPassed "domain" ts).map (fun t => (t.step.kind, Tag.value? t.step.config ctx t.now)) =
      some (.assignTag, some "finance") := by decide +kernel
  have pii : (lastPassed "pii" ts).isNone = true := by decide +kernel
  have legacy : (lastPassed "legacy" ts).map (fun t => t.step.kind) = some .removeTag := by decide +kernel
  refine ⟨tagging, tags, after, ?_, ?_, ?_⟩
  · obtain ⟨t, last, same⟩ := Option.map_eq_some_iff.1 domain
    obtain ⟨kind, value⟩ := Prod.mk.inj same
    exact (bound _ _).2 (.inl ⟨t, last, kind, by rw [value]; rfl⟩)
  · exact (bound _ _).2 (.inr ⟨Option.isNone_iff_eq_none.1 pii, rfl⟩)
  · obtain ⟨t, last, removes⟩ := Option.map_eq_some_iff.1 legacy
    refine Option.eq_none_iff_forall_ne_some.2 fun v unbound => ?_
    rcases (bound _ _).1 unbound with ⟨u, last', kind, -⟩ | ⟨none, -⟩
    · cases last.symm.trans last'
      cases removes.symm.trans kind
    · cases last.symm.trans none

end Turns

end Workflows
