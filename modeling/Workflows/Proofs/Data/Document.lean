import Mathlib.Data.List.Forall2
import Workflows.Data.Document
import Workflows.Proofs.Data.Dict

/-!
# Documents that stand for values

* `Document.Denotes`: whatever a value is read as, a document is read as that; `Value.denotes`: a value stands
  for itself;
* `Denotes.list?`, `Denotes.dict?`, `Denotes.object?`: lists, dictionaries and objects are read back;
* `Document.Proper`: the proper names of fields are taken for the fields they name;
  `Fields.Hold`: fields are those of given members; `Denotes.fields?`: a record has the fields of its members;
* `Fields.Hold.required`, `.optional`, `.orElse`: what a field is read as.
-/

namespace Workflows

/-- All values in an object are in canonical form. -/
def Dict.IsCanonical (o : Object) : Prop := ∀ b ∈ o.entries, b.2.canonical = b.2

instance (o : Object) : Decidable o.IsCanonical :=
  inferInstanceAs (Decidable (∀ b ∈ o.entries, b.2.canonical = b.2))

namespace Document

variable {δ α : Type} [Document δ]

/-- A document stands for a value: it is read as whatever the value is read as. -/
inductive Denotes : δ → Value → Prop where
  | null {d : δ} (absent : isAbsent d = true) (value : value? d = some .null) : Denotes d .null
  | bool {d : δ} {b : Bool} (present : isAbsent d = false) (bool : bool? d = some b)
      (value : value? d = some (.bool b)) : Denotes d (.bool b)
  | number {d : δ} {x : Number} (present : isAbsent d = false)
      (nat : ∀ n, (Value.number x).nat? = some n → nat? d = some n)
      (real : ∀ r, x = .real r → real? d = some r) (value : value? d = some (.number x)) :
      Denotes d (.number x)
  | text {d : δ} {s : String} (present : isAbsent d = false) (text : text? d = some s)
      (name : name? d = some s) (value : value? d = some (.text s)) : Denotes d (.text s)
  | list {d : δ} {ds : List δ} {vs : List Value} (present : isAbsent d = false)
      (items : items? d = some ds) (each : List.Forall₂ Denotes ds vs)
      (value : value? d = some (Value.list vs).canonical) : Denotes d (.list vs)
  | object {d : δ} {ms : List (String × δ)} {bs : List (String × Value)} (present : isAbsent d = false)
      (unordered : positional? d = none) (members : members? d = some ms)
      (names : ms.map (·.1) = bs.map (·.1)) (each : List.Forall₂ Denotes (ms.map (·.2)) (bs.map (·.2)))
      (value : value? d = some (Value.object bs).canonical) : Denotes d (.object bs)

namespace Denotes

variable {d : δ} {v : Value}

theorem value? (h : Denotes d v) : Document.value? d = some v.canonical := by
  cases h <;> assumption

theorem isAbsent (h : Denotes d v) (given : v.isNull = false) : Document.isAbsent d = false := by
  cases h with
  | null => cases given
  | bool | number | text | list | object => assumption

theorem text? {s : String} (h : Denotes d (.text s)) : Document.text? d = some s := by
  cases h
  assumption

theorem name? {s : String} (h : Denotes d (.text s)) : Document.name? d = some s := by
  cases h
  assumption

theorem bool? {b : Bool} (h : Denotes d (.bool b)) : Document.bool? d = some b := by
  cases h
  assumption

theorem real? {r : Real64} (h : Denotes d (.number (.real r))) : Document.real? d = some r := by
  cases h with
  | number _ _ real _ => exact real r rfl

theorem nat? {n : Nat} (h : Denotes d (.nat n)) (small : (n : Int) ≤ Number.maxInt) :
    Document.nat? d = some n := by
  cases h with
  | number _ nat _ _ =>
    refine nat n ?_
    rw [Value.nat?, if_pos ⟨Int.natCast_nonneg n, small⟩]
    rfl

/-! ## Lists and dictionaries -/

theorem mapM_eq_some {δ α : Type} {read : δ → Option α} {ds : List δ} {xs : List α}
    (each : List.Forall₂ (fun d a => read d = some a) ds xs) : ds.mapM read = some xs := by
  induction each with
  | nil => rfl
  | cons first _ ih => simp [List.mapM_cons, first, ih]

theorem exists_of_mapM_eq_some {δ α : Type} {read : δ → Option α} {ds : List δ} {xs : List α}
    (mapped : ds.mapM read = some xs) {a : α} (mem : a ∈ xs) : ∃ d ∈ ds, read d = some a := by
  induction ds generalizing xs with
  | nil =>
    cases mapped
    cases mem
  | cons d ds ih =>
    rw [List.mapM_cons] at mapped
    obtain ⟨x, first, mapped⟩ := Option.bind_eq_some_iff.1 mapped
    obtain ⟨rest, later, same⟩ := Option.bind_eq_some_iff.1 mapped
    cases same
    rcases List.mem_cons.1 mem with rfl | mem
    · exact ⟨d, List.mem_cons_self, first⟩
    · obtain ⟨d', there, read⟩ := ih later mem
      exact ⟨d', List.mem_cons_of_mem _ there, read⟩

/-- A list is read item by item. -/
theorem list?_map {ι : Type} {read : δ → Option α} {write : ι → Value} {f : ι → α} {xs : List ι}
    (h : Denotes d (.list (xs.map write)))
    (back : ∀ a ∈ xs, ∀ d', Denotes d' (write a) → read d' = some (f a)) :
    Document.list? read d = some (xs.map f) := by
  cases h with
  | list _ items each _ =>
    unfold Document.list?
    rw [items]
    refine mapM_eq_some ?_
    rw [List.forall₂_map_right_iff] at each ⊢
    exact List.forall₂_iff_zip.2 ⟨each.length_eq, fun {d' a} mem =>
      back a (List.of_mem_zip mem).2 d' (List.forall₂_zip each mem)⟩

/-- A list is read back where its items are. -/
theorem list? {read : δ → Option α} {write : α → Value} {xs : List α} (h : Denotes d (.list (xs.map write)))
    (back : ∀ a ∈ xs, ∀ d', Denotes d' (write a) → read d' = some a) :
    Document.list? read d = some xs := by
  simpa using h.list?_map (f := id) back

theorem forall₂_of_names {δ : Type} {R : δ → Value → Prop} {ms : List (String × δ)}
    {bs : List (String × Value)}
    (names : ms.map (·.1) = bs.map (·.1)) (each : List.Forall₂ R (ms.map (·.2)) (bs.map (·.2))) :
    List.Forall₂ (fun m b => m.1 = b.1 ∧ R m.2 b.2) ms bs := by
  induction ms generalizing bs with
  | nil =>
    obtain rfl : bs = [] := by simpa using names.symm
    exact .nil
  | cons m ms ih =>
    cases bs with
    | nil => cases names
    | cons b bs =>
      obtain ⟨name, names⟩ := List.cons.inj names
      obtain ⟨first, each⟩ := List.forall₂_cons.1 each
      exact .cons ⟨name, first⟩ (ih names each)

/-- The members of an object are those of the document, by name. -/
theorem members? {bs : List (String × Value)} (h : Denotes d (.object bs)) :
    positional? d = none ∧ ∃ ms, Document.members? d = some ms ∧
      List.Forall₂ (fun m b => m.1 = b.1 ∧ Denotes m.2 b.2) ms bs := by
  cases h with
  | @object _ ms _ _ unordered members names each _ =>
    exact ⟨unordered, ms, members, forall₂_of_names names each⟩

/-- A dictionary is read back where its values are. -/
theorem dict? {read : δ → Option α} {write : α → Value} {x : Dict α}
    (h : Denotes d (.ofObject (x.map write)))
    (back : ∀ k a, x.get? k = some a → ∀ d', Denotes d' (write a) → read d' = some a) :
    Document.dict? read d = some x := by
  obtain ⟨-, ms, members, pairs⟩ := h.members?
  have bindings : ms.mapM (fun m => (read m.2).map fun a => (m.1, a)) = some x.entries := by
    refine mapM_eq_some ?_
    rw [Dict.map, List.forall₂_map_right_iff] at pairs
    refine List.forall₂_iff_zip.2 ⟨pairs.length_eq, fun {m b} mem => ?_⟩
    obtain ⟨name, denotes⟩ := List.forall₂_zip pairs mem
    have bound : x.get? b.1 = some b.2 := Dict.mem_entries_iff.1 (List.of_mem_zip mem).2
    rw [back b.1 b.2 bound m.2 denotes, Option.map_some, name]
  unfold Document.dict?
  simp only [members, bindings, Option.bind_eq_bind, Option.bind_some]
  exact congrArg some (Dict.ofList_entries x)

/-- An object in canonical form is read back. -/
theorem object? {o : Object} (h : Denotes d (.ofObject o)) (canonical : o.IsCanonical) :
    Document.object? d = some o := by
  have same : o.map id = o := Dict.ext_entries (by simp [Dict.map])
  refine dict? (same.symm ▸ h : Denotes d (.ofObject (o.map id))) fun k v bound d' denotes => ?_
  rw [denotes.value?]
  exact congrArg some (canonical (k, v) (Dict.mem_entries_iff.2 bound))

end Denotes

/-! ## Fields -/

/-- What is read after something that is read. -/
theorem read_then {δ α : Type} {first : Option δ} {rest : δ → Option α} {d : δ} {a : α}
    (given : first = some d) (read : rest d = some a) : (first >>= rest) = some a := by
  rw [given]
  exact read

/-- Every proper name is taken for the field that it names, and no two fields have one proper name. -/
structure Proper (record : List Field) : Prop where
  distinct : (record.map (·.name)).Nodup
  known : ∀ name ∈ record.map (·.name), (record.find? (·.answersTo name)).map (·.name) = some name

instance (record : List Field) : Decidable (Proper record) :=
  decidable_of_iff ((record.map (·.name)).Nodup ∧ ∀ name ∈ record.map (·.name),
    (record.find? (·.answersTo name)).map (·.name) = some name)
    ⟨fun h => ⟨h.1, h.2⟩, fun h => ⟨h.1, h.2⟩⟩

/-- Members with different proper names are taken as they are. -/
theorem foldlM_take {δ : Type} {record : List Field} (proper : Proper record) {ms : List (String × δ)}
    {read : Fields δ} (known : ∀ m ∈ ms, m.1 ∈ record.map (·.name)) (distinct : (ms.map (·.1)).Nodup)
    (fresh : ∀ m ∈ ms, read.lookup m.1 = none) :
    ∃ fs, ms.foldlM (take record) read = some fs ∧
      ∀ name, fs.lookup name = (ms.lookup name).or (read.lookup name) := by
  induction ms generalizing read with
  | nil => exact ⟨read, rfl, fun _ => rfl⟩
  | cons m ms ih =>
    obtain ⟨k, d⟩ := m
    obtain ⟨apart, distinct⟩ := List.nodup_cons.1 distinct
    obtain ⟨f, found, name⟩ := Option.map_eq_some_iff.1 (proper.known k (known (k, d) List.mem_cons_self))
    have taken : take record read (k, d) = some ((k, d) :: read) := by
      unfold take
      rw [found]
      simp [name, fresh (k, d) List.mem_cons_self]
    have still_fresh : ∀ m ∈ ms, List.lookup m.1 ((k, d) :: read) = none := fun m mem => by
      have other : m.1 ≠ k := fun same => apart (List.mem_map.2 ⟨m, mem, same⟩)
      simp [List.lookup_cons, beq_false_of_ne other, fresh m (List.mem_cons_of_mem _ mem)]
    obtain ⟨fs, folded, lookup⟩ :=
      ih (fun m mem => known m (List.mem_cons_of_mem _ mem)) distinct still_fresh
    refine ⟨fs, by simp [taken, folded], fun name => ?_⟩
    rw [lookup name]
    by_cases same : name = k
    · have later : ms.lookup k = none := Bindings.lookup_eq_none_iff.2 apart
      simp [same, later, fresh (k, d) List.mem_cons_self]
    · simp [List.lookup_cons, beq_false_of_ne same]

/-- Fields are those of members: what is not given is missing, and what is given stands for its value. -/
structure Fields.Hold [Document δ] (fs : Fields δ) (members : List (String × Option Value)) : Prop where
  missing : ∀ {name}, (name, none) ∈ members → fs.lookup name = none
  given : ∀ {name v}, (name, some v) ∈ members → ∃ d, fs.lookup name = some d ∧ Denotes d v

/-- What is given of a record, as a dictionary. -/
theorem get?_record {members : List (String × Option Value)} (distinct : (members.map (·.1)).Nodup)
    {name : String} {v : Value} :
    (Dict.ofList (members.filterMap fun m => m.2.map fun v => (m.1, v))).get? name = some v ↔
      (name, some v) ∈ members := by
  have apart : ((members.filterMap fun m => m.2.map fun v => (m.1, v)).map (·.1)).Nodup := by
    refine List.pairwise_map.2 (List.pairwise_filterMap.2 ((List.pairwise_map.1 distinct).imp ?_))
    intro m m' ne b given b' given'
    obtain ⟨v, -, rfl⟩ := Option.map_eq_some_iff.1 given
    obtain ⟨v', -, rfl⟩ := Option.map_eq_some_iff.1 given'
    exact ne
  rw [Dict.get?_ofList apart, Bindings.lookup_eq_some_iff apart, List.mem_filterMap]
  constructor
  · rintro ⟨⟨n, o⟩, mem, given⟩
    obtain ⟨v', rfl, same⟩ := Option.map_eq_some_iff.1 given
    cases same
    exact mem
  · exact fun mem => ⟨(name, some v), mem, rfl⟩

theorem exists_of_forall₂ {α β : Type} {R : α → β → Prop} {as : List α} {bs : List β}
    (each : List.Forall₂ R as bs) {b : β} (mem : b ∈ bs) : ∃ a ∈ as, R a b := by
  induction each with
  | nil => cases mem
  | cons first _ ih =>
    rcases List.mem_cons.1 mem with rfl | mem
    · exact ⟨_, List.mem_cons_self, first⟩
    · obtain ⟨a, there, related⟩ := ih mem
      exact ⟨a, List.mem_cons_of_mem _ there, related⟩

/-- The members of a document that stands for a record are the members that are given, each once. -/
theorem Denotes.record_members? {d : δ} {members : List (String × Option Value)}
    (h : Denotes d (.record members)) (distinct : (members.map (·.1)).Nodup) :
    positional? d = none ∧ ∃ ms, Document.members? d = some ms ∧ (ms.map (·.1)).Nodup ∧
      (∀ name ∈ ms.map (·.1), ∃ v, (name, some v) ∈ members) ∧
      ∀ name v, (name, some v) ∈ members → ∃ d', (name, d') ∈ ms ∧ Denotes d' v := by
  obtain ⟨unordered, ms, given, pairs⟩ := h.members?
  have keys : ms.map (·.1) =
      (Dict.ofList (members.filterMap fun m => m.2.map fun v => (m.1, v))).entries.map (·.1) := by
    rw [← List.forall₂_eq_eq_eq, List.forall₂_map_left_iff, List.forall₂_map_right_iff]
    exact pairs.imp fun _ _ h => h.1
  refine ⟨unordered, ms, given, ?_, fun name mem => ?_, fun name v mem => ?_⟩
  · rw [keys]
    exact List.pairwise_map.2 ((Dict.sorted _).imp fun below same => by
      rw [same] at below
      exact String.lt_irrefl _ below)
  · rw [keys] at mem
    obtain ⟨b, bound, rfl⟩ := List.mem_map.1 mem
    exact ⟨b.2, (get?_record distinct).1 (Dict.mem_entries_iff.1 bound)⟩
  · obtain ⟨m, there, rfl, denotes⟩ :=
      exists_of_forall₂ pairs (Dict.mem_entries_iff.2 ((get?_record distinct).2 mem))
    exact ⟨m.2, there, denotes⟩

/-- **A record has the fields of its members.** -/
theorem Denotes.fields? {d : δ} {record : List Field} {members : List (String × Option Value)}
    (h : Denotes d (.record members)) (proper : Proper record)
    (names : members.map (·.1) = record.map (·.name)) :
    ∃ fs : Fields δ, Document.fields? record d = some fs ∧ fs.Hold members := by
  have distinct : (members.map (·.1)).Nodup := names ▸ proper.distinct
  obtain ⟨unordered, ms, given, apart, named, bound⟩ := h.record_members? distinct
  have known : ∀ m ∈ ms, m.1 ∈ record.map (·.name) := fun m mem => by
    obtain ⟨v, given⟩ := named m.1 (List.mem_map.2 ⟨m, mem, rfl⟩)
    rw [← names]
    exact List.mem_map.2 ⟨_, given, rfl⟩
  have fresh : ∀ m ∈ ms, List.lookup m.1 ([] : Fields δ) = none := fun _ _ => rfl
  obtain ⟨fs, folded, lookup⟩ := foldlM_take proper known apart fresh
  refine ⟨fs, ?_, ⟨fun {name} mem => ?_, fun {name v} mem => ?_⟩⟩
  · unfold Document.fields?
    rw [unordered, given]
    exact folded
  · have absent : name ∉ ms.map (·.1) := fun there => by
      obtain ⟨v, given⟩ := named name there
      have same := List.inj_on_of_nodup_map distinct mem given rfl
      cases same
    rw [lookup, Bindings.lookup_eq_none_iff.2 absent]
    rfl
  · obtain ⟨d', there, denotes⟩ := bound name v mem
    refine ⟨d', ?_, denotes⟩
    rw [lookup, (Bindings.lookup_eq_some_iff apart).2 there]
    rfl

namespace Fields.Hold

variable {fs : Fields δ} {members : List (String × Option Value)} {name : String} {read : δ → Option α}

/-- A field that is given is read as what it was written from. -/
theorem required (holds : fs.Hold members) {v : Value} {a : α} (mem : (name, some v) ∈ members)
    (back : ∀ d, Denotes d v → read d = some a) : fs.required name read = some a := by
  obtain ⟨d, given, denotes⟩ := holds.given mem
  unfold Fields.required
  rw [given, Option.bind_some, back d denotes]

/-- A field that may be missing is read as what it was written from, missing or not. -/
theorem optional (holds : fs.Hold members) {write : α → Value} {o : Option α}
    (mem : (name, o.map write) ∈ members) (present : ∀ a, (write a).isNull = false)
    (back : ∀ a, o = some a → ∀ d, Denotes d (write a) → read d = some a) :
    fs.optional name read = some o := by
  unfold Fields.optional
  cases o with
  | none => rw [holds.missing mem]
  | some a =>
    obtain ⟨d, given, denotes⟩ := holds.given mem
    rw [given]
    simp only [denotes.isAbsent (present a), back a rfl d denotes, Bool.false_eq_true, if_false,
      Option.map_some]

/-- A field that has a default is read as what it was written from. -/
theorem orElse (holds : fs.Hold members) {v : Value} {default a : α} (mem : (name, some v) ∈ members)
    (back : ∀ d, Denotes d v → read d = some a) : fs.orElse name default read = some a := by
  obtain ⟨d, given, denotes⟩ := holds.given mem
  unfold Fields.orElse
  rw [given]
  exact back d denotes

/-- A dictionary that is left out where it is empty is read as what it was written from. -/
theorem orElse_dict (holds : fs.Hold members) {x : Dict α} {v : Value} {read : δ → Option (Dict α)}
    (mem : (name, if x.isEmpty then none else some v) ∈ members)
    (back : ∀ d, Denotes d v → read d = some x) : fs.orElse name {} read = some x := by
  cases empty : x.isEmpty with
  | true =>
    rw [empty] at mem
    have same : x = {} := Dict.ext_entries (List.isEmpty_iff.1 empty)
    unfold Fields.orElse
    rw [holds.missing mem, same]
  | false =>
    rw [empty] at mem
    exact holds.orElse mem back

theorem required_text (holds : fs.Hold members) {s : String}
    (mem : (name, some (.text s)) ∈ members) : fs.required name text? = some s :=
  holds.required mem fun _ => Denotes.text?

theorem optional_text (holds : fs.Hold members) {o : Option String}
    (mem : (name, o.map Value.text) ∈ members) : fs.optional name text? = some o :=
  holds.optional mem (fun _ => rfl) fun _ _ _ => Denotes.text?

end Fields.Hold

end Document

namespace Value

open Document

mutual

/-- A value stands for itself. -/
theorem denotes : (v : Value) → Denotes v v
  | .null => .null rfl rfl
  | .bool b => .bool rfl rfl rfl
  | .number x => .number rfl (fun _ read => read) (by
      rintro r rfl
      exact dif_pos r.isFinite) rfl
  | .text s => .text rfl rfl rfl rfl
  | .list items => .list rfl rfl (denotes_items items) rfl
  | .object members => .object rfl rfl rfl rfl (denotes_members members) rfl

theorem denotes_items : (vs : List Value) → List.Forall₂ Denotes vs vs
  | [] => .nil
  | v :: vs => .cons (denotes v) (denotes_items vs)

theorem denotes_members : (bs : List (String × Value)) →
    List.Forall₂ Denotes (bs.map (·.2)) (bs.map (·.2))
  | [] => .nil
  | (_, v) :: bs => .cons (denotes v) (denotes_members bs)

end

end Value

end Workflows
