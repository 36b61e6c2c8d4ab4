import Workflows.Proofs.Expr.Soundness
import Workflows.Expr.Rule

/-!
# Rules and their explanation

The verdict on a rule does not look at the right side of an `AND` whose left side is false; its explanation does.

* `Expr.test_and`, `Expr.test_or`: the truth of chains; `Expr.test_and_eq_false_iff`,
  `Expr.test_or_eq_false_iff`: when they are false;
* `Expr.Explains`: the parts of a false expression that its explanation goes through;
* `Expr.Obstructed`: among them is an `AND` that is false by its left side, and its right side fails;
  **`Expr.explain_eq_ok_iff`**, `Expr.obstructed_of_explain_eq_error`: only this stands in the way;
* **`Rule.evaluate_iff_holds`**: how far verdicts on rules and on conditions agree;
  `Rule.evaluate_of_holds_false`: a rule where they do not.
-/

namespace Workflows

namespace Expr

variable {entity : Object} {e l r : Expr} {x : ExprError}

/-! ## The truth of chains -/

theorem test_and : (Expr.and l r).test entity =
    l.test entity >>= fun holds => if holds then r.test entity else .ok false := by
  unfold test
  rw [eval]
  cases l.eval entity with
  | error => rfl
  | ok v =>
    change Except.map _ (if v.truthy then _ else _) = if v.truthy then _ else _
    cases v.truthy with
    | false => rfl
    | true => cases r.eval entity <;> rfl

theorem test_or : (Expr.or l r).test entity =
    l.test entity >>= fun holds => if holds then .ok true else r.test entity := by
  unfold test
  rw [eval]
  cases l.eval entity with
  | error => rfl
  | ok v =>
    change Except.map _ (if v.truthy then _ else _) = if v.truthy then _ else _
    cases v.truthy with
    | true => rfl
    | false => cases r.eval entity <;> rfl

/-- An `AND` is false by its left side, or behind a true one by its right side. -/
theorem test_and_eq_false_iff : (Expr.and l r).test entity = .ok false ↔
    l.test entity = .ok false ∨ l.test entity = .ok true ∧ r.test entity = .ok false := by
  rw [test_and]
  rcases l.test entity with x | _ | _ <;> simp [bind, Except.bind]

/-- An `OR` is false by both its sides. -/
theorem test_or_eq_false_iff : (Expr.or l r).test entity = .ok false ↔
    l.test entity = .ok false ∧ r.test entity = .ok false := by
  rw [test_or]
  rcases l.test entity with x | _ | _ <;> simp [bind, Except.bind]

/-! ## What explanations go through -/

variable (entity) in
/-- A part of an expression that its explanation goes through: it states the reasons for an `AND` by its false
sides and those for an `OR` by both. -/
inductive Explains : Expr → Expr → Prop
  | here (e : Expr) : Explains e e
  | andLeft {l r e : Expr} (no : l.test entity = .ok false) (part : Explains l e) : Explains (.and l r) e
  | andRight {l r e : Expr} (no : r.test entity = .ok false) (part : Explains r e) : Explains (.and l r) e
  | orLeft {l r e : Expr} (part : Explains l e) : Explains (.or l r) e
  | orRight {l r e : Expr} (part : Explains r e) : Explains (.or l r) e

variable (entity) in
/-- The explanation comes upon an `AND` that is false by its left side, and its right side fails. -/
def Obstructed (e : Expr) (x : ExprError) : Prop :=
  ∃ l r, Explains entity e (.and l r) ∧ l.test entity = .ok false ∧ r.test entity = .error x

theorem obstructed_and_iff : Obstructed entity (.and l r) x ↔
    (l.test entity = .ok false ∧ r.test entity = .error x) ∨
    (l.test entity = .ok false ∧ Obstructed entity l x) ∨ (r.test entity = .ok false ∧ Obstructed entity r x) := by
  constructor
  · rintro ⟨l', r', part, no, fails⟩
    cases part with
    | here => exact .inl ⟨no, fails⟩
    | andLeft no' part => exact .inr (.inl ⟨no', l', r', part, no, fails⟩)
    | andRight no' part => exact .inr (.inr ⟨no', l', r', part, no, fails⟩)
  · rintro (⟨no, fails⟩ | ⟨no, l', r', part, rest⟩ | ⟨no, l', r', part, rest⟩)
    · exact ⟨l, r, .here _, no, fails⟩
    · exact ⟨l', r', .andLeft no part, rest⟩
    · exact ⟨l', r', .andRight no part, rest⟩

theorem obstructed_or_iff : Obstructed entity (.or l r) x ↔ Obstructed entity l x ∨ Obstructed entity r x := by
  constructor
  · rintro ⟨l', r', part, rest⟩
    cases part with
    | orLeft part => exact .inl ⟨l', r', part, rest⟩
    | orRight part => exact .inr ⟨l', r', part, rest⟩
  · rintro (⟨l', r', part, rest⟩ | ⟨l', r', part, rest⟩)
    · exact ⟨l', r', .orLeft part, rest⟩
    · exact ⟨l', r', .orRight part, rest⟩

/-- Two explanations one after the other. -/
theorem both_eq_ok_iff {a b : Except ExprError (List String)} :
    (∃ reasons, (do let left ← a; let right ← b; return left ++ right) = .ok reasons) ↔
      (∃ left, a = .ok left) ∧ ∃ right, b = .ok right := by
  cases a <;> cases b <;> simp [bind, Except.bind, pure, Except.pure]

theorem both_eq_error {a b : Except ExprError (List String)}
    (fails : (do let left ← a; let right ← b; return left ++ right) = .error x) : a = .error x ∨ b = .error x := by
  cases a with
  | error => exact .inl fails
  | ok left =>
    cases b with
    | error => exact .inr fails
    | ok right => cases fails

variable (entity) in
/-- What is said of a side of an `AND`. -/
def sideReasons (e : Expr) : Except ExprError (List String) := do
  if ← e.test entity then return [] else e.explain entity

theorem explain_and : (Expr.and l r).explain entity =
    (do let left ← sideReasons entity l; let right ← sideReasons entity r; return left ++ right) := by
  rw [explain]
  unfold sideReasons
  rcases l.test entity with x | _ | _
  · rfl
  · cases l.explain entity with
    | error => rfl
    | ok => rcases r.test entity with x | _ | _ <;> rfl
  · rcases r.test entity with x | _ | _ <;> rfl

theorem explain_or : (Expr.or l r).explain entity =
    (do let left ← l.explain entity; let right ← r.explain entity; return left ++ right) := by
  rw [explain]

theorem sideReasons_eq_ok_iff : (∃ reasons, sideReasons entity e = .ok reasons) ↔
    (∃ holds, e.test entity = .ok holds) ∧
      (e.test entity = .ok false → ∃ reasons, e.explain entity = .ok reasons) := by
  unfold sideReasons
  rcases e.test entity with x | _ | _ <;> simp [bind, Except.bind, pure, Except.pure]

theorem sideReasons_eq_error (fails : sideReasons entity e = .error x) :
    e.test entity = .error x ∨ e.test entity = .ok false ∧ e.explain entity = .error x := by
  unfold sideReasons at fails
  revert fails
  rcases e.test entity with x | _ | _ <;> simp [bind, Except.bind, pure, Except.pure]

/-- **There is an explanation where nothing stands in its way.** -/
theorem explain_eq_ok_iff (no : e.test entity = .ok false) :
    (∃ reasons, e.explain entity = .ok reasons) ↔ ∀ x, ¬ Obstructed entity e x := by
  induction e using explain.induct with
  | case1 l r ihr ihl =>
    simp only [explain_and, both_eq_ok_iff, sideReasons_eq_ok_iff, obstructed_and_iff]
    rcases test_and_eq_false_iff.1 no with left | ⟨left, right⟩
    · rcases right : r.test entity with x | _ | _
      · refine iff_of_false ?_ fun clear => clear x (.inl ⟨left, rfl⟩)
        rintro ⟨-, ⟨_, ⟨⟩⟩, -⟩
      · simp [left, ihl left, ihr right, forall_and]
      · simp [left, ihl left]
    · simp [left, right, ihr right]
  | case2 l r ihl ihr =>
    obtain ⟨left, right⟩ := test_or_eq_false_iff.1 no
    simp only [explain_or, both_eq_ok_iff, ihl left, ihr right, obstructed_or_iff, not_or, forall_and]
  | case3 e apart apart' =>
    have clear (x : ExprError) : ¬ Obstructed entity e x := by
      rintro ⟨l, r, part, -⟩
      cases part with
      | here => exact apart l r rfl
      | andLeft => exact apart _ _ rfl
      | andRight => exact apart _ _ rfl
      | orLeft | orRight => exact apart' _ _ rfl
    rw [explain.eq_3 entity e apart apart']
    simp [clear]

/-- What an explanation fails with is what stands in its way. -/
theorem obstructed_of_explain_eq_error (no : e.test entity = .ok false) (fails : e.explain entity = .error x) :
    Obstructed entity e x := by
  induction e using explain.induct with
  | case1 l r ihr ihl =>
    rw [explain_and] at fails
    rw [obstructed_and_iff]
    rcases both_eq_error fails with fails | fails
    · rcases sideReasons_eq_error fails with fails | ⟨left, fails⟩
      · rcases test_and_eq_false_iff.1 no with left | ⟨left, -⟩ <;> rw [left] at fails <;> cases fails
      · exact .inr (.inl ⟨left, ihl left fails⟩)
    · rcases sideReasons_eq_error fails with fails | ⟨right, fails⟩
      · rcases test_and_eq_false_iff.1 no with left | ⟨-, right⟩
        · exact .inl ⟨left, fails⟩
        · rw [right] at fails
          cases fails
      · exact .inr (.inr ⟨right, ihr right fails⟩)
  | case2 l r ihl ihr =>
    obtain ⟨left, right⟩ := test_or_eq_false_iff.1 no
    rw [explain_or] at fails
    rw [obstructed_or_iff]
    rcases both_eq_error fails with fails | fails
    · exact .inl (ihl left fails)
    · exact .inr (ihr right fails)
  | case3 e apart apart' =>
    rw [explain.eq_3 entity e apart apart'] at fails
    cases fails

end Expr

namespace Rule

/-- **Rules and conditions agree, but where an explanation is obstructed.** A verdict on a rule is the one on the
condition, and a verdict on a condition is the one on the rule, but for a false one whose explanation is
obstructed; there the rule fails with what obstructs it. -/
theorem evaluate_iff_holds (s : String) (entity : Object) :
    (∀ b, (∃ message, evaluate s entity = .ok (b, message)) ↔ holds s entity = .ok b ∧
      (b = false → ∀ T, Expr.parse s = .ok T → ∀ x, ¬ T.Obstructed entity x)) ∧
    (∀ x, evaluate s entity = .error x → holds s entity = .error x ∨
      holds s entity = .ok false ∧ ∃ T, Expr.parse s = .ok T ∧ T.Obstructed entity x) ∧
    ∀ x, holds s entity = .error x → evaluate s entity = .error x := by
  unfold evaluate holds
  cases Expr.parse s with
  | error x => simp [bind, Except.bind]
  | ok T =>
    rcases truth : T.test entity with x | _ | _
    · simp [bind, Except.bind, truth]
    · cases explained : T.explain entity with
      | error x =>
        have obstructed := Expr.obstructed_of_explain_eq_error truth explained
        simp only [bind, Except.bind, truth, explained, Except.ok.injEq, Except.error.injEq, Bool.false_eq_true,
          if_false, reduceCtorEq, exists_false, false_iff, false_implies, implies_true, and_true]
        refine ⟨fun b agree => ?_, fun y same => .inr ⟨trivial, T, rfl, same ▸ obstructed⟩⟩
        exact agree.2 agree.1.symm T rfl x obstructed
      | ok reasons =>
        have clear := (Expr.explain_eq_ok_iff truth).1 ⟨reasons, explained⟩
        simp [bind, Except.bind, truth, explained, pure, Except.pure, clear]
    · simp [bind, Except.bind, truth, pure, Except.pure]

/-- A rule fails although the condition is false: `a` is not set, and the explanation then compares a number
with a text. -/
theorem evaluate_of_holds_false :
    holds "a AND 1 < 'x'" (Dict.ofList []) = .ok false ∧
      evaluate "a AND 1 < 'x'" (Dict.ofList []) = .error (.typeMismatch .lt .number .text) :=
  ⟨by cbv, by cbv⟩

end Rule

end Workflows
