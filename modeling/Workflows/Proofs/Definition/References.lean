import Workflows.Proofs.Definition.RoundTrip

/-!
# Ids and references to them

A step is put together by hand or read from a document. Of its id and of the branches that lead to it, each way trims
one: by hand the id, from a document the branches.

* `Step.Made`: a step of an id and of branches that are written so, by hand or in a document;
* `Step.Made.id_eq`, `Step.Made.target_eq`: how it keeps them; `Step.Made.of_id`: ids that are kept alike are written
  alike as well;
* `Way.leads_iff`: a branch is kept like an id of the same text just where the text is trimmed;
* `Definition.tidied_eq_iff`: which definitions are read back as they were;
* **`references_agree_iff`**: which texts refer to the steps that are declared by them, and after a definition was kept
  as well; `padded_references_differ`: a text that does not.
-/

namespace Workflows

open Document

/-- How a step comes to be. -/
inductive Way where
  | byHand
  | read
  deriving DecidableEq

namespace Way

/-- How an id is kept. -/
def id : Way → String → String
  | byHand, t => Text.trim t
  | read, t => t

/-- How a branch is kept. -/
def branch? : Way → String → Option String
  | byHand, t => some t
  | read, t => Text.nonBlank? t

/-- **A branch is kept like an id of the same text just where the text is trimmed.** -/
theorem leads_iff (way : Way) {t : String} (visible : Text.isBlank t = false) :
    way.branch? t = some (way.id t) ↔ Text.trim t = t := by
  cases way with
  | byHand => simp [branch?, id, eq_comm]
  | read => simp [branch?, id, Text.nonBlank?, visible]

end Way

variable {δ : Type} [Document δ]

variable (δ) in
/-- A step that is made of an id and of branches that are written so: put together by hand, setting after setting, or
read from a document that gives them. -/
inductive Step.Made : Way → String → (Branch → Option String) → Step → Prop
  | new (t : String) (kind : StepKind) : Made .byHand t (fun _ => none) (.new t kind)
  | named {t : String} {bs : Branch → Option String} {s : Step} (name : String) :
      Made .byHand t bs s → Made .byHand t bs (s.named name)
  | withSetting {t : String} {bs : Branch → Option String} {s : Step} (key : String) {v : Value}
      (canonical : v.canonical = v) : Made .byHand t bs s → Made .byHand t bs (s.withSetting key v)
  | leadTo {t : String} {bs : Branch → Option String} {s : Step} (b : Branch) (u : String) :
      Made .byHand t bs s → Made .byHand t (Function.update bs b (some u)) (s.leadTo b u)
  | read {t : String} {bs : Branch → Option String} {s : Step} {d : δ} {fs : Fields δ}
      (fields : fields? Step.fields d = some fs) (id : fs.required "step_id" text? = some t)
      (branches : ∀ b : Branch, fs.optional b.name text? = some (bs b)) (decoded : decode? d = some s) :
      Made .read t bs s

namespace Step

variable {way : Way} {t t' : String} {bs bs' : Branch → Option String} {s : Step}

theorem target_leadTo (b c : Branch) (u : String) :
    (s.leadTo b u).target c = Function.update s.target b (some u) c := by
  cases b <;> cases c <;> simp [leadTo, target]

/-- What is read of a document, by the texts that it gives. -/
theorem decode?_eq_some {d : δ} {fs : Fields δ} (fields : fields? Step.fields d = some fs)
    (decoded : decode? d = some s) : fs.required "step_id" text? = some s.id ∧
      ∀ b : Branch, ∃ kept, fs.optional b.name text? = some kept ∧ s.target b = cleanBranch kept := by
  simp only [decode?, fields, Option.bind_eq_bind, Option.bind_some, Option.bind_eq_some_iff] at decoded
  obtain ⟨id, id_read, name, -, kind, -, config, -, onPass, onPass_read, onFail, onFail_read, same⟩ := decoded
  cases same
  refine ⟨id_read, fun b => ?_⟩
  cases b with
  | onPass => exact ⟨onPass, onPass_read, rfl⟩
  | onFail => exact ⟨onFail, onFail_read, rfl⟩

namespace Made

theorem id_eq (made : s.Made δ way t bs) : s.id = way.id t := by
  induction made with
  | new => rfl
  | named _ _ ih | withSetting _ _ _ ih => exact ih
  | leadTo b _ _ ih => cases b <;> exact ih
  | read fields id _ decoded => exact Option.some.inj ((decode?_eq_some fields decoded).1.symm.trans id)

theorem target_eq (made : s.Made δ way t bs) (b : Branch) : s.target b = (bs b).bind way.branch? := by
  induction made with
  | new => cases b <;> rfl
  | named _ _ ih | withSetting _ _ _ ih => cases b <;> exact ih
  | leadTo c u _ ih =>
    rw [target_leadTo]
    by_cases same : b = c
    · subst same
      simp [Way.branch?]
    · rw [Function.update_of_ne same, Function.update_of_ne same, ih]
  | read fields _ branches decoded =>
    obtain ⟨kept, given, target⟩ := (decode?_eq_some fields decoded).2 b
    rw [target, Option.some.inj (given.symm.trans (branches b))]
    rfl

/-- A step is declared by every text that is kept as its id. -/
theorem of_id (made : s.Made δ way t bs) (same : way.id t = way.id t') : s.Made δ way t' bs := by
  induction made with
  | new t kind =>
    have alike : Step.new t kind = Step.new t' kind := congrArg (Step.mk · none kind {} none none) same
    exact alike ▸ .new t' kind
  | named name _ ih => exact .named name (ih same)
  | withSetting key canonical _ ih => exact .withSetting key canonical (ih same)
  | leadTo b u _ ih => exact .leadTo b u (ih same)
  | read fields id branches decoded =>
    have same : _ = t' := same
    exact .read fields (same ▸ id) branches decoded

theorem isCanonical_insert {o : Object} {v : Value} (canonical : o.IsCanonical) (key : String) (own : v.canonical = v) :
    (o.insert key v).IsCanonical := by
  intro b mem
  rcases Bindings.mem_insert mem with rfl | mem
  · exact own
  · exact canonical b mem

theorem isCanonical (made : s.Made δ .byHand t bs) : s.config.IsCanonical := by
  generalize hand : Way.byHand = way at made
  induction made with
  | new => exact fun _ mem => nomatch mem
  | named _ _ ih => exact ih hand
  | withSetting key canonical _ ih => exact isCanonical_insert (ih hand) key canonical
  | leadTo b _ _ ih => cases b <;> exact ih hand
  | read => cases hand

end Made

theorem cleanBranch_eq_self_iff {branch : Option String} :
    cleanBranch branch = branch ↔ ∀ u, branch = some u → Text.trim u = u ∧ Text.isBlank u = false := by
  cases branch with
  | none => simp [cleanBranch]
  | some u => cases blank : Text.isBlank u <;> simp [cleanBranch, Text.nonBlank?, blank]

theorem tidied_eq_iff : s.tidied = s ↔ StepKind.ofName s.kind.name = s.kind ∧
    ∀ b u, s.target b = some u → Text.trim u = u ∧ Text.isBlank u = false := by
  have branches : (∀ b u, s.target b = some u → Text.trim u = u ∧ Text.isBlank u = false) ↔
      cleanBranch s.onPass = s.onPass ∧ cleanBranch s.onFail = s.onFail := by
    rw [cleanBranch_eq_self_iff, cleanBranch_eq_self_iff]
    exact ⟨fun all => ⟨all .onPass, all .onFail⟩, fun ⟨pass, fail⟩ b => by cases b <;> assumption⟩
  rw [branches]
  cases s
  simp [tidied]

end Step

namespace Definition

variable {w : Definition}

variable (δ) in
/-- A definition whose steps all come to be in one way. -/
def Made (way : Way) (w : Definition) : Prop := ∀ s ∈ w.steps, ∃ t bs, s.Made δ way t bs

/-- **A definition is read back as it was** if its kinds are those that their names stand for, and its branches are
trimmed and not blank. -/
theorem tidied_eq_iff : w.tidied = w ↔ ∀ s ∈ w.steps, StepKind.ofName s.kind.name = s.kind ∧
    ∀ b u, s.target b = some u → Text.trim u = u ∧ Text.isBlank u = false := by
  have steps : w.tidied = w ↔ w.steps.map Step.tidied = w.steps.map fun s => s := by
    cases w
    simp [tidied]
  rw [steps, List.map_inj_left]
  exact forall₂_congr fun s _ => Step.tidied_eq_iff

end Definition

/-- **A branch refers to the steps that are declared by the same text just where the text is trimmed**, whether they
are put together by hand or read from a document; and a definition that is put together by hand is read back with its
branches just where those are. -/
theorem references_agree_iff {way : Way} {w : Definition} {s s' : Step} {b : Branch} {t t' : String}
    {bs bs' : Branch → Option String} (visible : Text.isBlank t = false) (made : w.Made δ way) (mem : s ∈ w.steps)
    (declared : s.Made δ way t bs) (referring : s'.Made δ way t' bs') (written : bs' b = some t) :
    (s'.target b = some s.id ↔ Text.trim t = t) ∧
      ((∃ x bs, Step.Made δ way t bs x ∧ (s'.target b).bind w.find? = some x) ↔ Text.trim t = t) ∧
      (way = .byHand → ∀ d : δ, Denotes d w.encode → Definition.decode? d = some w.tidied ∧
        (w.tidied = w ↔ ∀ x ∈ w.steps, StepKind.ofName x.kind.name = x.kind ∧
          ∀ b u, x.target b = some u → Text.trim u = u ∧ Text.isBlank u = false)) := by
  have target : s'.target b = way.branch? t := by rw [referring.target_eq b, written, Option.bind_some]
  have leads : s'.target b = some s.id ↔ Text.trim t = t := by
    rw [target, declared.id_eq]
    exact way.leads_iff visible
  refine ⟨leads, ⟨?_, fun trimmed => ?_⟩, ?_⟩
  · rintro ⟨x, _, same, found⟩
    obtain ⟨u, leading, found⟩ := Option.bind_eq_some_iff.1 found
    have id : u = way.id t := (Definition.id_of_find? found).symm.trans same.id_eq
    exact (way.leads_iff visible).1 (id ▸ target ▸ leading)
  · rw [leads.2 trimmed, Option.bind_some]
    cases found : w.find? s.id with
    | none =>
      have other := List.find?_eq_none.1 found s mem
      simp at other
    | some x =>
      obtain ⟨u, ds, own⟩ := made x (List.mem_of_find?_eq_some found)
      have same : way.id u = way.id t := by rw [← own.id_eq, Definition.id_of_find? found, declared.id_eq]
      exact ⟨x, ds, own.of_id same, rfl⟩
  · rintro rfl d denotes
    have canonical : ∀ x ∈ w.steps, x.config.IsCanonical := fun x mem =>
      have ⟨_, _, own⟩ := made x mem
      own.isCanonical
    exact ⟨Definition.decode?_tidied canonical denotes, Definition.tidied_eq_iff⟩

/-- A review that leads to a sign-off. -/
theorem references_agree_sign_off :
    let signOff := Step.new "sign-off" .pass
    let review := (Step.new "review" .approval).leadTo .onPass "sign-off"
    let w : Definition := { Definition.new "release" "Release" with steps := [review, signOff] }
    review.target .onPass = some signOff.id ∧
      (∃ x bs, Step.Made Value .byHand "sign-off" bs x ∧ (review.target .onPass).bind w.find? = some x) ∧
      Definition.decode? w.encode = some w := by
  intro signOff review w
  have declared : signOff.Made Value .byHand "sign-off" (fun _ => none) := .new "sign-off" .pass
  have referring : review.Made Value .byHand "review" (Function.update (fun _ => none) .onPass (some "sign-off")) :=
    .leadTo .onPass "sign-off" (.new "review" .approval)
  have made : w.Made Value .byHand := by
    intro s mem
    simp only [w, List.mem_cons, List.not_mem_nil, or_false] at mem
    rcases mem with rfl | rfl
    · exact ⟨_, _, referring⟩
    · exact ⟨_, _, declared⟩
  have trimmed : Text.trim "sign-off" = "sign-off" := by decide +kernel
  obtain ⟨leads, finds, kept⟩ := references_agree_iff (by decide +kernel) made (by simp [w]) declared referring
    (Function.update_self ..)
  obtain ⟨read, -⟩ := kept rfl w.encode (Value.denotes _)
  have same : w.tidied = w := by decide +kernel
  rw [same] at read
  exact ⟨leads.2 trimmed, finds.2 trimmed, read⟩

/-- A blank before the id, by hand and in a document: the branch leads nowhere. -/
theorem padded_references_differ :
    let signOff := Step.new " sign-off" .pass
    let review := (Step.new "review" .approval).leadTo .onPass " sign-off"
    let w : Definition := { Definition.new "release" "Release" with steps := [review, signOff] }
    let written : Value := { w with steps := [review, { signOff with id := " sign-off" }] }.encode
    Text.isBlank " sign-off" = false ∧
      review.target .onPass ≠ some signOff.id ∧ (review.target .onPass).bind w.find? = none ∧
      Definition.decode? w.encode ≠ some w ∧
      ∃ v, Definition.decode? written = some v ∧ v.steps.map (·.id) = ["review", " sign-off"] ∧
        v.steps.map (·.target .onPass) = [some "sign-off", none] ∧ v.find? "sign-off" = none := by
  intro signOff review w written
  refine ⟨by decide +kernel, by decide +kernel, by decide +kernel, by decide +kernel,
    { w with steps := [review.leadTo .onPass "sign-off", { signOff with id := " sign-off" }] }, ?_⟩
  decide +kernel

end Workflows
