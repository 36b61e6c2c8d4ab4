import Mathlib.Data.List.Induction
import Mathlib.Data.List.Nodup
import Workflows.Data.Dict

/-!
# What dictionaries hold

* `Bindings.find?_eq_some_iff`: in an ascending list a key is bound by its one binding;
* `Dict.mem_values_iff`: the values are those of the bound keys;
* `Bindings.lookup_eq_some_iff`, `Dict.get?_ofList`: lists in which no key comes twice;
* `Dict.forall₂_entries_iff`: dictionaries that bind the same keys, to related values.
-/

namespace Workflows

variable {α : Type}

theorem Bindings.find?_eq_some_iff {bs : List (String × α)} (ascending : Ascending bs) {key : String}
    {value : α} : find? key bs = some value ↔ (key, value) ∈ bs := by
  induction bs with
  | nil => simp [find?]
  | cons b rest ih =>
    obtain ⟨k, v⟩ := b
    obtain ⟨above, ascending⟩ := List.pairwise_cons.1 ascending
    rw [find?, List.mem_cons, ← ih ascending, Prod.mk.injEq]
    by_cases same : k = key
    · subst same
      rw [if_pos rfl, find?_of_forall_lt above]
      simp [eq_comm]
    · simp [same, Ne.symm same]

section Lookup

variable {κ : Type} [BEq κ] [LawfulBEq κ] {bs : List (κ × α)} {key : κ}

theorem Bindings.lookup_eq_none_iff : bs.lookup key = none ↔ key ∉ bs.map (·.1) := by
  rw [List.lookup_eq_none_iff, List.mem_map]
  grind

/-- Where no key comes twice, a key is looked up as what it is bound to. -/
theorem Bindings.lookup_eq_some_iff (distinct : (bs.map (·.1)).Nodup) {value : α} :
    bs.lookup key = some value ↔ (key, value) ∈ bs := by
  induction bs with
  | nil => simp
  | cons b rest ih =>
    obtain ⟨k, v⟩ := b
    obtain ⟨apart, distinct⟩ := List.nodup_cons.1 distinct
    by_cases same : key = k
    · subst same
      have other : (key, value) ∉ rest := fun mem => apart (List.mem_map.2 ⟨_, mem, rfl⟩)
      simp [other, eq_comm]
    · simp [List.lookup_cons, beq_false_of_ne same, ih distinct, same]

end Lookup

/-- Bindings that are put in ascending order are among those there were. -/
theorem Bindings.mem_of_mem_ascending {bs : List (String × α)} {b : String × α}
    (mem : b ∈ ascending bs) : b ∈ bs := by
  suffices ∀ acc : List (String × α),
      b ∈ bs.foldl (fun acc b => insert b.1 b.2 acc) acc → b ∈ acc ∨ b ∈ bs by
    simpa using this [] mem
  clear mem
  induction bs with
  | nil => exact fun acc mem => .inl mem
  | cons c bs ih =>
    intro acc mem
    rcases ih _ mem with mem | mem
    · rcases mem_insert mem with rfl | mem
      · exact .inr List.mem_cons_self
      · exact .inl mem
    · exact .inr (List.mem_cons_of_mem _ mem)

namespace Dict

variable {d : Dict α}

theorem mem_entries_iff {key : String} {value : α} :
    (key, value) ∈ d.entries ↔ d.get? key = some value :=
  (Bindings.find?_eq_some_iff d.sorted).symm

theorem mem_values_iff {value : α} : value ∈ d.values ↔ ∃ key, d.get? key = some value := by
  simp only [values, List.mem_map, Prod.exists, mem_entries_iff, exists_eq_right]

/-- Values that tell the keys they are bound to are all different. -/
theorem nodup_values {key : α → String} (own : ∀ k a, d.get? k = some a → key a = k) :
    d.values.Nodup := by
  refine List.pairwise_map.2 (d.sorted.imp_of_mem fun {a b} mem mem' below same => ?_)
  have first : key a.2 = a.1 := own a.1 a.2 (mem_entries_iff.1 mem)
  have second : key b.2 = b.1 := own b.1 b.2 (mem_entries_iff.1 mem')
  rw [← first, ← second, same] at below
  exact String.lt_irrefl _ below

/-- Where no key comes twice, a list has the bindings of its dictionary. -/
theorem get?_ofList {bs : List (String × α)} (distinct : (bs.map (·.1)).Nodup) (key : String) :
    (ofList bs).get? key = bs.lookup key := by
  induction bs using List.reverseRecOn with
  | nil => rfl
  | append_singleton bs b ih =>
    obtain ⟨k, v⟩ := b
    obtain ⟨before, -, apart⟩ := List.nodup_append.1 (by rwa [List.map_append] at distinct)
    rw [ofList_concat, get?_insert, ih before, List.lookup_append, List.lookup_cons, List.lookup_nil]
    by_cases same : k = key
    · subst same
      have fresh : bs.lookup k = none := Bindings.lookup_eq_none_iff.2 fun mem =>
        apart k mem k (by simp) rfl
      simp [fresh]
    · simp [same, beq_false_of_ne (Ne.symm same)]

/-! ## Related dictionaries -/

section Related

variable {β : Type} {R : α → α → Prop}

theorem get?_map (f : α → β) (d : Dict α) (key : String) : (d.map f).get? key = (d.get? key).map f := by
  change Bindings.find? key (d.entries.map fun b => (b.1, f b.2)) = (Bindings.find? key d.entries).map f
  induction d.entries with
  | nil => rfl
  | cons b rest ih =>
    simp only [List.map_cons, Bindings.find?]
    split
    · rfl
    · exact ih

/-- Dictionaries that bind the same keys list them alike. -/
theorem keys_eq {d e : Dict α} (related : ∀ key, Option.Rel R (d.get? key) (e.get? key)) : d.keys = e.keys := by
  have same : (d.map fun _ => ()) = e.map fun _ => () := by
    refine ext_get? fun key => ?_
    rw [get?_map, get?_map]
    have rel := related key
    generalize d.get? key = v, e.get? key = w at rel
    cases rel <;> rfl
  simpa [keys, map, Function.comp_def] using congrArg keys same

/-- **Dictionaries bind the same keys, to related values, just where their bindings are related one by one.** -/
theorem forall₂_entries_iff {d e : Dict α} :
    List.Forall₂ (fun b c => b.1 = c.1 ∧ R b.2 c.2) d.entries e.entries ↔
      ∀ key, Option.Rel R (d.get? key) (e.get? key) := by
  constructor
  · intro related key
    change Option.Rel R (Bindings.find? key d.entries) (Bindings.find? key e.entries)
    generalize d.entries = bs, e.entries = cs at related
    induction related with
    | nil => exact .none
    | @cons b c _ _ head _ ih =>
      obtain ⟨same, rel⟩ := head
      rw [Bindings.find?, Bindings.find?, same]
      split
      · exact .some rel
      · exact ih
  · intro related
    have same := keys_eq related
    have length : d.entries.length = e.entries.length := by simpa [keys] using congrArg List.length same
    refine List.forall₂_iff_get.2 ⟨length, fun i h h' => ?_⟩
    have key : (d.entries.get ⟨i, h⟩).1 = (e.entries.get ⟨i, h'⟩).1 := by
      simpa [keys] using List.getElem_of_eq same (i := i) (by simpa [keys] using h)
    have first := mem_entries_iff.1 (List.get_mem d.entries ⟨i, h⟩)
    have second := mem_entries_iff.1 (List.get_mem e.entries ⟨i, h'⟩)
    have rel := related (d.entries.get ⟨i, h⟩).1
    rw [first, key, second] at rel
    cases rel with
    | some rel => exact ⟨key, rel⟩

end Related

end Dict

end Workflows
