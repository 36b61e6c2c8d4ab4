import Mathlib.Logic.Relation
import Workflows.Proofs.Definition.Lint

/-!
# Steps that no chain of branches leads to

The search for reachable steps finds just those that a chain of branches leads to from the entry, and the others
are reported.

* `Refers`: a branch of one step leads to another; `LeadsTo`: a chain of such branches leads from the entry to
  a step;
* `search_reachable`: the search for reachable steps ends, with each of them done once;
* **`mem_reachable_iff`**: what is reachable is what a chain leads to;
* **`unreachable_mem_lint_iff`**: which steps are reported as unreachable.
-/

namespace Workflows

namespace Definition

open Relation (ReflTransGen)

variable {w : Definition} {s t first : Step} {id : String}

/-! ## Chains of branches -/

variable (w) in
/-- A branch of one step leads to another, the first that has the branch's target as its id. -/
def Refers (s t : Step) : Prop :=
  ∃ branch target, s.target branch = some target ∧ w.find? target = some t

variable (w) in
/-- A chain of branches leads from the entry to a step with the given id. -/
def LeadsTo (id : String) : Prop :=
  ∃ first last, w.entry? = some first ∧ ReflTransGen w.Refers first last ∧ last.id = id

/-- A step at the end of a chain is the first that has its id. -/
theorem find?_of_chain (entry : w.entry? = some first) (chain : ReflTransGen w.Refers first s) :
    w.find? s.id = some s := by
  cases chain with
  | refl => exact find?_entry entry
  | tail _ refers =>
    obtain ⟨branch, target, -, found⟩ := refers
    rw [id_of_find? found]
    exact found

theorem Refers.mem_successors (refers : w.Refers s t) (found : w.find? s.id = some s) :
    t.id ∈ w.successors s.id := by
  obtain ⟨branch, target, leads, there⟩ := refers
  unfold successors
  rw [found, id_of_find? there]
  refine List.mem_filter.2 ⟨List.mem_map.2 ⟨(branch, target), Step.mem_branches_iff.2 leads, rfl⟩, ?_⟩
  rw [there]
  rfl

/-- A chain to a step goes on to its successors. -/
theorem LeadsTo.next (leads : w.LeadsTo id) {target : String} (follows : target ∈ w.successors id) :
    w.LeadsTo target := by
  obtain ⟨first, last, entry, chain, rfl⟩ := leads
  unfold successors at follows
  rw [find?_of_chain entry chain] at follows
  obtain ⟨branched, there⟩ := List.mem_filter.1 follows
  obtain ⟨⟨branch, _⟩, branches, rfl⟩ := List.mem_map.1 branched
  obtain ⟨t, found⟩ := Option.isSome_iff_exists.1 there
  exact ⟨first, t, entry, chain.tail ⟨branch, _, Step.mem_branches_iff.1 branches, found⟩, id_of_find? found⟩

/-! ## What the search finds -/

/-- What holds of all that was met, and of the successors of all of which it holds, holds of all that is
found. -/
theorem Search.forall_found {turns : Nat} {queue seen found : List String} (h : w.Search turns queue seen found)
    {P : String → Prop} (next : ∀ id, P id → ∀ t ∈ w.successors id, P t) (queued : ∀ t ∈ queue, P t)
    (met : ∀ t ∈ seen, P t) : ∀ t ∈ found, P t := by
  induction h with
  | done => exact met
  | @turn turns id queue seen found _ ih =>
    have joined : ∀ t ∈ w.joining seen id, P t := fun t mem =>
      next id (queued id List.mem_cons_self) t (mem_joining_iff.1 mem).1
    refine ih (fun t mem => ?_) (fun t mem => ?_)
    · exact (List.mem_append.1 mem).elim (fun mem => queued t (List.mem_cons_of_mem _ mem)) (joined t)
    · exact (List.mem_append.1 mem).elim (met t) (joined t)

variable (w) in
/-- The ids that the search starts from: that of the entry, if there is one. -/
def origin : List String := (w.entry?.map (·.id)).toList

/-- **The search for reachable steps ends**, with each of them done once. -/
theorem search_reachable (w : Definition) :
    w.Search w.reachable.length w.origin w.origin w.reachable ∧ w.reachable.length ≤ w.steps.length := by
  unfold reachable origin
  cases entry : w.entry? with
  | none => exact ⟨.done, Nat.zero_le _⟩
  | some first =>
    obtain ⟨turns, left, all, search, finished, count⟩ := (explored_entry entry).ends
    have each : all.length = turns := count.trans (Nat.zero_add turns)
    have found := congrArg List.length finished.seen_eq
    rw [List.append_nil, each] at found
    exact ⟨found ▸ search, finished.length_le⟩

/-- **A step is reachable just where a chain of branches leads to it.** -/
theorem mem_reachable_iff : id ∈ w.reachable ↔ w.LeadsTo id := by
  constructor
  · have start : ∀ t ∈ w.origin, w.LeadsTo t := by
      intro t mem
      obtain ⟨first, entry, rfl⟩ := Option.map_eq_some_iff.1 (Option.mem_toList.1 mem)
      exact ⟨first, first, entry, .refl, rfl⟩
    exact (search_reachable w).1.forall_found (fun _ leads _ follows => leads.next follows) start start id
  · rintro ⟨first, last, entry, chain, rfl⟩
    induction chain with
    | refl => exact entry_mem_reachable entry
    | @tail s t chain refers ih =>
      exact mem_reachable_of_mem_successors ih (refers.mem_successors (find?_of_chain entry chain))

instance (id : String) : Decidable (w.LeadsTo id) := decidable_of_iff _ mem_reachable_iff

/-! ## What is reported -/

/-- **A step is reported as unreachable just where its id is not empty and no chain of branches leads from the
entry to it.** Of several steps with one id each is reported, in the order of the steps; and the search for
what can be reached, which does each step once, ends for every definition. -/
theorem unreachable_mem_lint_iff (w : Definition) :
    (∀ id, .unreachable id ∈ w.lint ↔
      w.steps ≠ [] ∧ (∃ s ∈ w.steps, s.id = id) ∧ id ≠ "" ∧ ¬ w.LeadsTo id) ∧
    w.lint.filter (!·.isError) =
      ((w.steps.filter fun s => s.id ≠ "" ∧ ¬ w.LeadsTo s.id).map fun s => .unreachable s.id) ∧
    ∃ turns ≤ w.steps.length, w.Search turns w.origin w.origin w.reachable := by
  obtain ⟨search, bound⟩ := search_reachable w
  refine ⟨fun id => ?_, ?_, _, bound, search⟩
  · rw [unreachable_mem_lint, mem_reachable_iff]
    exact ⟨fun found => ⟨fun empty => by simp [empty] at found, found⟩, fun found => found.2⟩
  · rw [filter_lint]
    refine congrArg (List.map _) (List.filter_congr fun s _ => ?_)
    rw [Bool.eq_iff_iff]
    simp [← mem_reachable_iff]

end Definition

end Workflows
