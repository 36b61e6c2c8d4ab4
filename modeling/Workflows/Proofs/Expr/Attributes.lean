import Workflows.Expr.Eval

/-!
# What expressions read

An expression reads the attributes that its paths start from, and nothing else of an entity.

* `Expr.paths`: the paths of an expression; `Expr.attributes`: the attributes that they start from;
* `lookup?_congr`: what a path names lies in the attribute that it starts from;
* `Expr.SameReadings`: all paths of an expression name the same in two entities;
* `eval_congr`, `reason_congr`, `explain_congr`: then it has the same value, and the same is said of it;
* **`Expr.reads_attributes`**: entities with the same attributes that an expression names are the same to it.
-/

namespace Workflows

namespace Expr

/-! ## Paths and attributes -/

mutual

/-- The paths of an expression, from left to right. -/
def paths : Expr → List String
  | .literal _ => []
  | .path p => [p]
  | .list items => itemPaths items
  | .not e => e.paths
  | .and l r => l.paths ++ r.paths
  | .or l r => l.paths ++ r.paths
  | .compare _ l r => l.paths ++ r.paths

/-- The paths of the items of a list. -/
def itemPaths : List Expr → List String
  | [] => []
  | e :: rest => e.paths ++ itemPaths rest

end

/-- The attributes that an expression names: the first segments of its paths. -/
def attributes (e : Expr) : List String := e.paths.filterMap fun p => (segments p).head?

end Expr

variable {x y : Object} {p : String}

/-- What a path names lies in the attribute that it starts from. -/
theorem lookup?_congr (agree : ∀ a, (segments p).head? = some a → x.get? a = y.get? a) :
    lookup? x p = lookup? y p := by
  unfold lookup?
  cases parts : segments p with
  | nil => rfl
  | cons a rest =>
    rw [parts] at agree
    dsimp only
    rw [agree a rfl]

theorem describe_congr (same : lookup? x p = lookup? y p) : describe x p = describe y p := by
  rw [describe, describe, same]

namespace Expr

variable {e l r : Expr}

/-! ## Entities that read the same -/

variable (x y) in
/-- Two entities have the same at all of these paths. -/
def SameReadings (paths : List String) : Prop := ∀ p ∈ paths, lookup? x p = lookup? y p

theorem SameReadings.left {ps qs : List String} (same : SameReadings x y (ps ++ qs)) : SameReadings x y ps :=
  fun p mem => same p (List.mem_append_left _ mem)

theorem SameReadings.right {ps qs : List String} (same : SameReadings x y (ps ++ qs)) : SameReadings x y qs :=
  fun p mem => same p (List.mem_append_right _ mem)

theorem sameReadings_of_attributes (agree : ∀ a ∈ e.attributes, x.get? a = y.get? a) :
    SameReadings x y e.paths := fun p mem =>
  lookup?_congr fun a first => agree a (List.mem_filterMap.2 ⟨p, mem, first⟩)

mutual

/-- An expression has the same value where its paths name the same. -/
theorem eval_congr : (e : Expr) → SameReadings x y e.paths → e.eval x = e.eval y
  | .literal _, _ => by rw [eval, eval]
  | .path p, same => by rw [eval, eval, same p (by simp [paths])]
  | .list items, same => by
    rw [paths] at same
    rw [eval, eval, evalItems_congr items same]
  | .not e, same => by
    rw [paths] at same
    rw [eval, eval, eval_congr e same]
  | .and l r, same => by
    rw [paths] at same
    rw [eval, eval, eval_congr l same.left, eval_congr r same.right]
  | .or l r, same => by
    rw [paths] at same
    rw [eval, eval, eval_congr l same.left, eval_congr r same.right]
  | .compare op l r, same => by
    rw [paths] at same
    rw [eval, eval, eval_congr l same.left, eval_congr r same.right]

theorem evalItems_congr : (items : List Expr) → SameReadings x y (itemPaths items) →
    evalItems x items = evalItems y items
  | [], _ => by rw [evalItems, evalItems]
  | e :: rest, same => by
    rw [itemPaths] at same
    rw [evalItems, evalItems, eval_congr e same.left, evalItems_congr rest same.right]

end

theorem test_congr (same : SameReadings x y e.paths) : e.test x = e.test y := by
  rw [test, test, eval_congr e same]

/-! ## What is said of a false expression -/

/-- The operands of a comparison that are paths are shown with the same values. -/
theorem actual?_congr (same : SameReadings x y e.paths) : actual? x e = actual? y e := by
  cases e with
  | path p =>
    have here : lookup? x p = lookup? y p := same p (by simp [paths])
    rw [actual?, actual?, describe_congr here]
  | _ => rfl

theorem reason_congr (same : SameReadings x y e.paths) : e.reason x = e.reason y := by
  cases e with
  | compare op l r =>
    rw [paths] at same
    have operands : [l, r].filterMap (actual? x) = [l, r].filterMap (actual? y) := by
      simp only [List.filterMap_cons, List.filterMap_nil, actual?_congr same.left, actual?_congr same.right]
    unfold reason
    dsimp only
    rw [operands]
  | path p =>
    have here : lookup? x p = lookup? y p := same p (by simp [paths])
    unfold reason
    dsimp only
    rw [describe_congr here]
  | _ => rfl

/-- The same checks are named, with the same values, or the same error stands in the way. -/
theorem explain_congr (same : SameReadings x y e.paths) : e.explain x = e.explain y := by
  induction e using explain.induct with
  | case1 l r ihr ihl =>
    rw [paths] at same
    rw [explain, explain, test_congr same.left, test_congr same.right, ihl same.left, ihr same.right]
  | case2 l r ihl ihr =>
    rw [paths] at same
    rw [explain, explain, ihl same.left, ihr same.right]
  | case3 e apart apart' =>
    rw [explain.eq_3 x e apart apart', explain.eq_3 y e apart apart', reason_congr same]

/-- **An expression reads only the attributes that it names.** Two entities that agree on the attributes that its
paths start from, with the same value or none in both, are the same to it: it has the same value on both or fails with
the same error, it is as true, and the same is said where it is false. -/
theorem reads_attributes (e : Expr) (x y : Object) (agree : ∀ a ∈ e.attributes, x.get? a = y.get? a) :
    e.eval x = e.eval y ∧ e.test x = e.test y ∧ e.explain x = e.explain y := by
  have same := sameReadings_of_attributes agree
  exact ⟨eval_congr e same, test_congr same, explain_congr same⟩

/-- Two releases that differ in a note: an expression over their owners and tags fails on both with one error. -/
theorem reads_attributes_releases :
    let e : Expr := .or (.compare .ne (.path "owner.name") (.literal (.text "ada")))
      (.compare .lt (.path "tags.0") (.literal (.number (.int 3))))
    let owned : List (String × Value) :=
      [("owner", .object [("name", .text "ada")]), ("tags", .list [.text "eu"])]
    let x : Object := Dict.ofList owned
    let y : Object := Dict.ofList (("note", .text "urgent") :: owned)
    x ≠ y ∧ e.attributes = ["owner", "tags"] ∧ e.eval x = .error (.typeMismatch .lt .text .number) ∧
      e.eval x = e.eval y ∧ e.test x = e.test y ∧ e.explain x = e.explain y := by
  intro e owned x y
  have named : e.attributes = ["owner", "tags"] := by decide +kernel
  refine ⟨by decide +kernel, named, by rfl, reads_attributes e x y fun a mem => ?_⟩
  have either : a = "owner" ∨ a = "tags" := by simpa [named] using mem
  rcases either with rfl | rfl <;> decide +kernel

end Expr

end Workflows
