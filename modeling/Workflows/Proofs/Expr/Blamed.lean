import Mathlib.Data.List.Forall2
import Workflows.Proofs.Expr.Explained

/-!
# The checks that explanations name

An explanation of why an expression is false names the checks that make it so, and no others.

* `Expr.leaves`: the checks that an expression joins by `AND` and `OR`, from left to right, each with the
  chains around it;
* `Leaf.Blamed`: a check and all chains around it are false;
* `exists_blamed`: a false expression has a check to blame;
* `explain_eq_reasons`: the explanation gives the reasons of the checks that are to blame;
* **`explain_names_blamed`**: it names each of them once, in order, as on its own.
-/

namespace Workflows

namespace Expr

/-- A check with the chains of `AND` and `OR` around it, the outermost first. -/
structure Leaf where
  around : List Expr
  check : Expr

/-- A leaf of a side of a chain is one of the chain. -/
def Leaf.within (e : Expr) (leaf : Leaf) : Leaf := { leaf with around := e :: leaf.around }

/-- The checks that an expression joins by `AND` and `OR`, from left to right. -/
def leaves : Expr → List Leaf
  | .and l r => (leaves l ++ leaves r).map (.within (.and l r))
  | .or l r => (leaves l ++ leaves r).map (.within (.or l r))
  | e => [⟨[], e⟩]

variable {entity : Object} {e l r : Expr} {leaf : Leaf} {reasons : List String}

theorem leaves_and : (Expr.and l r).leaves = (l.leaves ++ r.leaves).map (.within (.and l r)) := by
  rw [leaves]

theorem leaves_or : (Expr.or l r).leaves = (l.leaves ++ r.leaves).map (.within (.or l r)) := by
  rw [leaves]

variable (entity) in
/-- A check is to blame if it is false, and so are all chains around it. -/
def Leaf.Blamed (leaf : Leaf) : Prop :=
  (∀ e ∈ leaf.around, e.test entity = .ok false) ∧ leaf.check.test entity = .ok false

instance : DecidablePred (Leaf.Blamed entity) := fun leaf => by unfold Leaf.Blamed; infer_instance

theorem blamed_within_iff : (leaf.within e).Blamed entity ↔ e.test entity = .ok false ∧ leaf.Blamed entity := by
  simp [Leaf.Blamed, Leaf.within, and_assoc]

/-- Only in a false expression is a check to blame. -/
theorem test_eq_false_of_blamed (mem : leaf ∈ e.leaves) (blamed : leaf.Blamed entity) :
    e.test entity = .ok false := by
  unfold leaves at mem
  split at mem
  · obtain ⟨inner, -, rfl⟩ := List.mem_map.1 mem
    exact (blamed_within_iff.1 blamed).1
  · obtain ⟨inner, -, rfl⟩ := List.mem_map.1 mem
    exact (blamed_within_iff.1 blamed).1
  · rw [List.mem_singleton.1 mem] at blamed
    exact blamed.2

/-- **A false expression has a check to blame.** -/
theorem exists_blamed (no : e.test entity = .ok false) : ∃ leaf ∈ e.leaves, leaf.Blamed entity := by
  induction e using leaves.induct with
  | case1 l r ihl ihr =>
    rw [leaves_and]
    rcases test_and_eq_false_iff.1 no with left | ⟨-, right⟩
    · obtain ⟨leaf, mem, blamed⟩ := ihl left
      exact ⟨_, List.mem_map_of_mem (List.mem_append_left _ mem), blamed_within_iff.2 ⟨no, blamed⟩⟩
    · obtain ⟨leaf, mem, blamed⟩ := ihr right
      exact ⟨_, List.mem_map_of_mem (List.mem_append_right _ mem), blamed_within_iff.2 ⟨no, blamed⟩⟩
  | case2 l r ihl ihr =>
    -- Both sides are false, so the left one will do.
    rw [leaves_or]
    obtain ⟨leaf, mem, blamed⟩ := ihl (test_or_eq_false_iff.1 no).1
    exact ⟨_, List.mem_map_of_mem (List.mem_append_left _ mem), blamed_within_iff.2 ⟨no, blamed⟩⟩
  | case3 e apart apart' =>
    rw [leaves.eq_3 e apart apart']
    exact ⟨_, List.mem_singleton_self _, nofun, no⟩

theorem explain_leaf (mem : leaf ∈ e.leaves) :
    leaf.check.explain entity = .ok [leaf.check.reason entity] := by
  induction e using leaves.induct generalizing leaf with
  | case1 l r ihl ihr =>
    rw [leaves_and] at mem
    obtain ⟨inner, inside, rfl⟩ := List.mem_map.1 mem
    exact (List.mem_append.1 inside).elim ihl ihr
  | case2 l r ihl ihr =>
    rw [leaves_or] at mem
    obtain ⟨inner, inside, rfl⟩ := List.mem_map.1 mem
    exact (List.mem_append.1 inside).elim ihl ihr
  | case3 e apart apart' =>
    rw [leaves.eq_3 e apart apart'] at mem
    rw [List.mem_singleton.1 mem, explain.eq_3 entity e apart apart']

variable (entity) in
/-- The reasons of the checks that are to blame. -/
def blamedReasons (leaves : List Leaf) : List String :=
  (leaves.filter (·.Blamed entity)).map (·.check.reason entity)

theorem blamedReasons_append (xs ys : List Leaf) :
    blamedReasons entity (xs ++ ys) = blamedReasons entity xs ++ blamedReasons entity ys := by
  simp [blamedReasons]

/-- The checks of a false chain that are to blame are those of its sides. -/
theorem blamedReasons_within (no : e.test entity = .ok false) (leaves : List Leaf) :
    blamedReasons entity (leaves.map (.within e)) = blamedReasons entity leaves := by
  unfold blamedReasons
  rw [List.filter_map, List.map_map]
  congr 1
  refine List.filter_congr fun leaf _ => ?_
  simp [blamed_within_iff, no]

theorem both_eq_ok {a b : Except ExprError (List String)}
    (said : (do let left ← a; let right ← b; return left ++ right) = .ok reasons) :
    ∃ left right, a = .ok left ∧ b = .ok right ∧ reasons = left ++ right := by
  cases a with
  | error => cases said
  | ok left =>
    cases b with
    | error => cases said
    | ok right =>
      cases said
      exact ⟨left, right, rfl, rfl, rfl⟩

theorem sideReasons_eq (explains : ∀ reasons, e.test entity = .ok false → e.explain entity = .ok reasons →
    reasons = blamedReasons entity e.leaves) (said : sideReasons entity e = .ok reasons) :
    reasons = blamedReasons entity e.leaves := by
  unfold sideReasons at said
  rcases truth : e.test entity with x | _ | _
  · rw [truth] at said
    cases said
  · rw [truth] at said
    exact explains reasons truth said
  · rw [truth] at said
    cases said
    -- In a side that is true no check is to blame.
    have clear : e.leaves.filter (·.Blamed entity) = [] := by
      refine List.filter_eq_nil_iff.2 fun leaf mem blamed => ?_
      have := test_eq_false_of_blamed mem (of_decide_eq_true blamed)
      rw [truth] at this
      cases this
    rw [blamedReasons, clear]
    rfl

/-- **The explanation gives the reasons of the checks that are to blame.** -/
theorem explain_eq_reasons (no : e.test entity = .ok false) (explained : e.explain entity = .ok reasons) :
    reasons = blamedReasons entity e.leaves := by
  induction e using explain.induct generalizing reasons with
  | case1 l r ihr ihl =>
    rw [leaves_and, blamedReasons_within no, blamedReasons_append]
    rw [explain_and] at explained
    obtain ⟨before, after, left, right, rfl⟩ := both_eq_ok explained
    rw [sideReasons_eq (fun _ no => ihl no) left, sideReasons_eq (fun _ no => ihr no) right]
  | case2 l r ihl ihr =>
    -- The sides are explained without a test; that they are false comes from the whole.
    rw [leaves_or, blamedReasons_within no, blamedReasons_append]
    obtain ⟨noLeft, noRight⟩ := test_or_eq_false_iff.1 no
    rw [explain_or] at explained
    obtain ⟨before, after, left, right, rfl⟩ := both_eq_ok explained
    rw [ihl noLeft left, ihr noRight right]
  | case3 e apart apart' =>
    rw [explain.eq_3 entity e apart apart'] at explained
    cases explained
    rw [leaves.eq_3 e apart apart']
    simp [blamedReasons, Leaf.Blamed, no]

/-- **An explanation names just the checks that are to blame.** Where an expression is false and is explained,
there are reasons; they are in the order of the checks that are false and have false chains around them only,
one for each, and each is what the explanation of the check alone says. -/
theorem explain_names_blamed (e : Expr) (entity : Object) (reasons : List String)
    (no : e.test entity = .ok false) (explained : e.explain entity = .ok reasons) :
    reasons ≠ [] ∧
      List.Forall₂ (fun leaf reason => leaf.check.explain entity = .ok [reason])
        (e.leaves.filter (·.Blamed entity)) reasons := by
  obtain rfl := explain_eq_reasons no explained
  constructor
  · obtain ⟨leaf, mem, blamed⟩ := exists_blamed no
    refine List.ne_nil_of_mem (List.mem_map_of_mem (List.mem_filter.2 ⟨mem, ?_⟩))
    exact decide_eq_true blamed
  · refine List.forall₂_map_right_iff.2 (List.forall₂_same.2 fun leaf mem => ?_)
    exact explain_leaf (List.mem_filter.1 mem).1

/-- A draft without an owner: `owner` is false twice, but to blame only in the chain that is false. -/
theorem explain_names_blamed_draft :
    let e : Expr := .and (.or (.path "owner") (.path "ready"))
      (.or (.compare .eq (.path "status") (.literal (.text "final"))) (.path "owner"))
    let entity : Object := Dict.ofList [("ready", .bool true), ("status", .text "draft")]
    let reasons := ["status == 'final' (actual: status = 'draft')", "owner is not set (actual: null)"]
    e.explain entity = .ok reasons ∧ e.leaves.length = 4 ∧
      List.Forall₂ (fun leaf reason => leaf.check.explain entity = .ok [reason])
        (e.leaves.filter (·.Blamed entity)) reasons := by
  intro e entity reasons
  have explained : e.explain entity = .ok reasons := by cbv
  exact ⟨explained, rfl, (explain_names_blamed e entity reasons (by cbv) explained).2⟩

end Expr

end Workflows
