import Mathlib.Data.List.Nodup
import Mathlib.Data.List.Perm.Subperm
import Workflows.Definition.Lint

/-!
# What the findings say

* `joining`: what one turn of the search for reachable steps adds; `Search`: the search without a bound on its
  turns; `Explored`: its invariant; **`Explored.ends`**: it ends with what `explore` finds;
* `entry_mem_reachable`, **`mem_reachable_of_next?`**: the entry is reachable, and so is what a reachable step
  leads to;
* `filter_lint`, `unreachable_mem_lint`: what is found that makes no run fail, and which steps are reported as
  unreachable;
* `Definition.Clean`: a definition without errors; `Clean.isKnown`, **`Clean.find?_target`**: its steps are of
  known kinds, and their branches lead to steps.
-/

namespace Workflows

namespace Step

/-- The branches are those with a target. -/
theorem mem_branches_iff {s : Step} {branch : Branch} {target : String} :
    (branch, target) ∈ s.branches ↔ s.target branch = some target := by
  unfold branches
  rw [List.mem_filterMap]
  constructor
  · rintro ⟨b, -, taken⟩
    obtain ⟨t, leads, same⟩ := Option.map_eq_some_iff.1 taken
    cases same
    exact leads
  · intro leads
    exact ⟨branch, by cases branch <;> simp, by rw [leads]; rfl⟩

theorem mem_branches_of_next? {s : Step} {passed : Bool} {target : String}
    (next : s.next? passed = some target) :
    ((if passed then Branch.onPass else .onFail), target) ∈ s.branches := by
  rw [mem_branches_iff]
  cases passed <;> exact next

end Step

namespace Definition

variable {w : Definition}

theorem mem_steps_of_find? {id : String} {s : Step} (found : w.find? id = some s) : s ∈ w.steps :=
  List.mem_of_find?_eq_some found

theorem isSome_find?_iff {id : String} : (w.find? id).isSome = true ↔ ∃ s ∈ w.steps, s.id = id := by
  simp [find?]

/-! ## The search for reachable steps -/

/-- What one turn of the search adds: the successors that were not met, each once. -/
theorem fresh_iff (ts seen fresh : List String) (distinct : fresh.Nodup) (unseen : ∀ t ∈ fresh, t ∉ seen) :
    let added := ts.foldl
      (fun fresh t => if seen.contains t || fresh.contains t then fresh else fresh ++ [t]) fresh
    added.Nodup ∧ ∀ t, t ∈ added ↔ t ∈ fresh ∨ t ∈ ts ∧ t ∉ seen := by
  induction ts generalizing fresh with
  | nil => simpa using distinct
  | cons t ts ih =>
    rw [List.foldl_cons]
    by_cases met : t ∈ seen ∨ t ∈ fresh
    · rw [if_pos (by simpa using met)]
      obtain ⟨nodup, mem⟩ := ih fresh distinct unseen
      refine ⟨nodup, fun t' => ?_⟩
      rw [mem t', List.mem_cons]
      grind
    · rw [if_neg (by simpa using met)]
      obtain ⟨new, other⟩ := not_or.1 met
      obtain ⟨nodup, mem⟩ := ih (fresh ++ [t])
        (List.nodup_append.2 ⟨distinct, List.nodup_singleton t, by grind⟩) (by grind)
      refine ⟨nodup, fun t' => ?_⟩
      rw [mem t', List.mem_append, List.mem_singleton, List.mem_cons]
      grind

variable (w) in
/-- The successors of a step that were not met, each once: what joins the queue when the step is done. -/
def joining (seen : List String) (id : String) : List String :=
  (w.successors id).foldl
    (fun fresh t => if seen.contains t || fresh.contains t then fresh else fresh ++ [t]) []

theorem nodup_joining (seen : List String) (id : String) : (w.joining seen id).Nodup :=
  (fresh_iff (w.successors id) seen [] List.nodup_nil (by simp)).1

theorem mem_joining_iff {seen : List String} {id target : String} :
    target ∈ w.joining seen id ↔ target ∈ w.successors id ∧ target ∉ seen := by
  simpa [joining] using (fresh_iff (w.successors id) seen [] List.nodup_nil (by simp)).2 target

variable (w) in
/-- The search from a queue, with what was met so far, ends after a number of turns with what it found. In each
turn the next one in the queue is done; the search ends when the queue is empty. -/
inductive Search : Nat → List String → List String → List String → Prop
  | done {seen : List String} : Search 0 [] seen seen
  | turn {turns : Nat} {id : String} {queue seen found : List String}
      (rest : Search turns (queue ++ w.joining seen id) (seen ++ w.joining seen id) found) :
      Search (turns + 1) (id :: queue) seen found

/-- The search keeps what it has met. -/
theorem Search.subset {turns : Nat} {queue seen found : List String} (h : w.Search turns queue seen found) :
    seen ⊆ found := by
  induction h with
  | done => exact List.Subset.refl _
  | turn _ ih => exact fun t met => ih (List.mem_append_left _ met)

/-- The invariant of the search: what was met is what is done and what is in the queue, each once; all of it
are steps, and what the done ones lead to was met. -/
structure Explored (w : Definition) (fuel : Nat) (done queue seen : List String) : Prop where
  seen_eq : seen = done ++ queue
  nodup : seen.Nodup
  steps : ∀ t ∈ seen, (w.find? t).isSome = true
  closed : ∀ t ∈ done, ∀ t' ∈ w.successors t, t' ∈ seen
  enough : w.steps.length ≤ fuel + done.length

theorem Explored.length_le {fuel : Nat} {done queue seen : List String}
    (h : w.Explored fuel done queue seen) : seen.length ≤ w.steps.length := by
  have within : seen ⊆ w.steps.map (·.id) := fun t mem => by
    obtain ⟨s, there, rfl⟩ := isSome_find?_iff.1 (h.steps t mem)
    exact List.mem_map.2 ⟨s, there, rfl⟩
  simpa using (h.nodup.subperm within).length_le

/-- The next one in the queue is done, and what it leads to is met. -/
theorem Explored.next {fuel : Nat} {done queue seen : List String} {id : String}
    (h : w.Explored (fuel + 1) done (id :: queue) seen) :
    w.Explored fuel (done ++ [id]) (queue ++ w.joining seen id) (seen ++ w.joining seen id) where
  seen_eq := by simp [h.seen_eq]
  nodup := List.nodup_append.2 ⟨h.nodup, nodup_joining seen id, fun _ met _ new same =>
    (mem_joining_iff.1 new).2 (same ▸ met)⟩
  steps t met := by
    rcases List.mem_append.1 met with met | new
    · exact h.steps t met
    · have followed := (mem_joining_iff.1 new).1
      unfold successors at followed
      split at followed
      · cases followed
      · exact (List.mem_filter.1 followed).2
  closed t met t' follows := by
    rcases List.mem_append.1 met with met | last
    · exact List.mem_append_left _ (h.closed t met t' follows)
    · rw [List.mem_singleton.1 last] at follows
      by_cases met : t' ∈ seen
      · exact List.mem_append_left _ met
      · exact List.mem_append_right _ (mem_joining_iff.2 ⟨follows, met⟩)
  enough := by
    have := h.enough
    simp only [List.length_append, List.length_singleton]
    omega

theorem Explored.closed_of_nil {fuel : Nat} {done seen : List String} (h : w.Explored fuel done [] seen) :
    ∀ t ∈ seen, ∀ t' ∈ w.successors t, t' ∈ seen := fun t met => by
  rw [h.seen_eq, List.append_nil] at met
  exact h.closed t met

/-- **The search ends**, with nothing left in the queue and one more done in every turn. -/
theorem Explored.ends {fuel : Nat} {done queue seen : List String} (h : w.Explored fuel done queue seen) :
    ∃ turns left all, w.Search turns queue seen (w.explore fuel queue seen) ∧
      w.Explored left all [] (w.explore fuel queue seen) ∧ all.length = done.length + turns := by
  induction fuel generalizing done queue seen with
  | zero =>
    -- As many are done as there are steps, so that nothing is left in the queue.
    have short := h.length_le
    have enough := h.enough
    rw [h.seen_eq, List.length_append] at short
    obtain rfl : queue = [] := List.length_eq_zero_iff.1 (by omega)
    exact ⟨0, 0, done, .done, h, rfl⟩
  | succ fuel ih =>
    cases queue with
    | nil => exact ⟨0, fuel + 1, done, .done, h, rfl⟩
    | cons id queue =>
      obtain ⟨turns, left, all, rest, finished, count⟩ := ih h.next
      refine ⟨turns + 1, left, all, .turn rest, finished, ?_⟩
      rw [count, List.length_append, List.length_singleton]
      omega

/-- **The search keeps what it has met, and ends with what is closed under successors.** -/
theorem Explored.explore {fuel : Nat} {done queue seen : List String} (h : w.Explored fuel done queue seen) :
    (∀ t ∈ seen, t ∈ w.explore fuel queue seen) ∧
      ∀ t ∈ w.explore fuel queue seen, ∀ t' ∈ w.successors t, t' ∈ w.explore fuel queue seen := by
  obtain ⟨turns, left, all, search, finished, -⟩ := h.ends
  exact ⟨fun _ met => search.subset met, finished.closed_of_nil⟩

theorem explored_entry {s : Step} (entry : w.entry? = some s) :
    w.Explored w.steps.length [] [s.id] [s.id] where
  seen_eq := rfl
  nodup := List.nodup_singleton _
  steps t mem := by
    rw [List.mem_singleton.1 mem]
    exact isSome_find?_iff.2 ⟨s, List.mem_of_head? entry, rfl⟩
  closed _ mem := by cases mem
  enough := Nat.le_add_right _ _

/-- The entry is reachable. -/
theorem entry_mem_reachable {s : Step} (entry : w.entry? = some s) : s.id ∈ w.reachable := by
  unfold reachable
  rw [entry]
  exact (explored_entry entry).explore.1 s.id (List.mem_singleton_self _)

/-- **What is reachable is closed under successors.** -/
theorem mem_reachable_of_mem_successors {id target : String} (reached : id ∈ w.reachable)
    (follows : target ∈ w.successors id) : target ∈ w.reachable := by
  unfold reachable at reached ⊢
  cases entry : w.entry? with
  | none =>
    rw [entry] at reached
    cases reached
  | some first =>
    rw [entry] at reached
    exact (explored_entry entry).explore.2 id reached target follows

/-- **What a reachable step leads to is reachable.** -/
theorem mem_reachable_of_next? {id target : String} {s : Step} {passed : Bool} (reached : id ∈ w.reachable)
    (found : w.find? id = some s) (next : s.next? passed = some target)
    (there : (w.find? target).isSome = true) : target ∈ w.reachable := by
  refine mem_reachable_of_mem_successors reached ?_
  unfold successors
  rw [found]
  exact List.mem_filter.2 ⟨List.mem_map.2 ⟨_, Step.mem_branches_of_next? next, rfl⟩, there⟩

/-! ## Errors and other findings -/

theorem isError_of_mem_stepFindings {f : Finding} (mem : f ∈ w.stepFindings) : f.isError = true := by
  obtain ⟨⟨s, i⟩, -, found⟩ := List.mem_flatMap.1 mem
  rcases List.mem_append.1 found with repeated | own
  · split at repeated
    · rw [List.mem_singleton.1 repeated]
      rfl
    · cases repeated
  · unfold Step.lint at own
    split at own
    · rw [List.mem_singleton.1 own]
      rfl
    · split at own
      · obtain ⟨key, -, rfl⟩ := List.mem_map.1 own
        rfl
      · rw [List.mem_singleton.1 own]
        rfl

theorem isError_of_mem_branchFindings {f : Finding} (mem : f ∈ w.branchFindings) : f.isError = true := by
  obtain ⟨s, -, found⟩ := List.mem_flatMap.1 mem
  obtain ⟨branch, -, rfl⟩ := List.mem_map.1 found
  rfl

/-- What is found and makes no run fail is what is found about reachable steps. -/
theorem filter_lint (w : Definition) : w.lint.filter (!·.isError) = w.reachFindings := by
  unfold lint
  split
  · next empty => simp [reachFindings, List.isEmpty_iff.1 empty, Finding.isError]
  · have steps : w.stepFindings.filter (!·.isError) = [] :=
      List.filter_eq_nil_iff.2 fun f mem => by simp [isError_of_mem_stepFindings mem]
    have branches : w.branchFindings.filter (!·.isError) = [] :=
      List.filter_eq_nil_iff.2 fun f mem => by simp [isError_of_mem_branchFindings mem]
    have unreached : w.reachFindings.filter (!·.isError) = w.reachFindings := by
      refine List.filter_eq_self.2 fun f mem => ?_
      obtain ⟨s, -, rfl⟩ := List.mem_map.1 mem
      rfl
    rw [List.filter_append, List.filter_append, steps, branches, unreached]
    rfl

/-- **A step is reported as unreachable just where its id is not empty and it is not reachable.** -/
theorem unreachable_mem_lint {id : String} : .unreachable id ∈ w.lint ↔
    (∃ s ∈ w.steps, s.id = id) ∧ id ≠ "" ∧ id ∉ w.reachable := by
  have advisory : .unreachable id ∈ w.lint ↔ .unreachable id ∈ w.lint.filter (!·.isError) := by
    simp [Finding.isError]
  rw [advisory, filter_lint]
  constructor
  · intro reported
    obtain ⟨s, mem, same⟩ := List.mem_map.1 reported
    obtain ⟨there, visible, apart⟩ : s ∈ w.steps ∧ s.id ≠ "" ∧ s.id ∉ w.reachable := by simpa using mem
    cases same
    exact ⟨⟨s, there, rfl⟩, visible, apart⟩
  · rintro ⟨⟨s, there, rfl⟩, visible, apart⟩
    exact List.mem_map.2 ⟨s, by simp [there, visible, apart], rfl⟩

/-- A step that is reported as unreachable is a step, and is not reachable. -/
theorem not_reachable_of_lint {id : String} (reported : .unreachable id ∈ w.lint) :
    (w.find? id).isSome = true ∧ id ∉ w.reachable := by
  obtain ⟨there, -, apart⟩ := unreachable_mem_lint.1 reported
  exact ⟨isSome_find?_iff.2 there, apart⟩

/-! ## Definitions without errors -/

/-- Nothing is found about a definition that makes a run fail. -/
def Clean (w : Definition) : Prop := ∀ f ∈ w.lint, f.isError = false

instance : Decidable w.Clean := inferInstanceAs (Decidable (∀ f ∈ w.lint, f.isError = false))

theorem mem_lint {s : Step} (mem : s ∈ w.steps) {f : Finding}
    (found : f ∈ w.stepFindings ++ w.branchFindings ++ w.reachFindings) : f ∈ w.lint := by
  unfold lint
  rw [if_neg]
  · exact found
  · exact fun empty => by
      rw [List.isEmpty_iff.1 empty] at mem
      cases mem

namespace Clean

variable {s : Step}

/-- All steps of a definition without errors are of known kinds. -/
theorem isKnown (clean : w.Clean) (mem : s ∈ w.steps) : s.kind.isKnown = true := by
  obtain ⟨i, bound, rfl⟩ := List.mem_iff_getElem.1 mem
  have own {f : Finding} (found : f ∈ w.steps[i].lint i) : f.isError = false := by
    refine clean f (mem_lint mem (List.mem_append_left _ (List.mem_append_left _ ?_)))
    exact List.mem_flatMap.2
      ⟨(w.steps[i], i), List.mk_mem_zipIdx_iff_getElem?.2 (by simp), List.mem_append_right _ found⟩
  by_contra unknown
  by_cases blank : Text.isBlank w.steps[i].id = true
  · have := own (f := .blankId i) (by simp [Step.lint, blank])
    cases this
  · have := own (f := .unknownKind w.steps[i].id w.steps[i].kind.name) (by simp [Step.lint, blank, unknown])
    cases this

/-- A step that is found in a definition without errors is of a known kind. -/
theorem isKnown_of_find? (clean : w.Clean) {id : String} (found : w.find? id = some s) :
    s.kind.isKnown = true :=
  clean.isKnown (mem_steps_of_find? found)

/-- **The branches of a definition without errors lead to steps.** -/
theorem find?_target (clean : w.Clean) {passed : Bool} {target : String}
    (mem : s ∈ w.steps) (next : s.next? passed = some target) : (w.find? target).isSome = true := by
  by_contra missing
  have dangling : .danglingBranch s.id (if passed then .onPass else .onFail) target ∈ w.branchFindings := by
    refine List.mem_flatMap.2 ⟨s, mem, List.mem_map.2 ⟨_, List.mem_filter.2
      ⟨Step.mem_branches_of_next? next, ?_⟩, rfl⟩⟩
    rw [isSome_find?_iff] at missing
    simp only [Bool.not_eq_true', List.any_eq_false]
    intro t there
    simp only [Bool.and_eq_true, not_and, beq_iff_eq]
    exact fun _ same => missing ⟨t, there, same⟩
  have := clean _ (mem_lint mem (List.mem_append_left _ (List.mem_append_right _ dangling)))
  cases this

end Clean

end Definition

end Workflows
