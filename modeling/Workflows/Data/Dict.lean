/-!
# Dictionaries with text keys

A dictionary binds texts to values and lists its bindings in ascending key order, so that two
dictionaries with the same bindings are equal (`Dict.ext_get?`).

* `Bindings.insert`, `Bindings.erase`, `Bindings.find?`: the operations on a list of bindings;
* `Dict`: an ascending list of bindings, with `get?`, `insert`, `erase`, `ofList`, `map`;
* `get?_insert`, `get?_erase`, `get?_overlay`, `ofList_entries`, `ofList_concat`: what the operations do,
  seen through `get?` and from list to list.
-/

namespace Workflows

/-! ## Lists of bindings -/

namespace Bindings

variable {α β : Type}

/-- The bindings are in strictly ascending key order. -/
def Ascending (bs : List (String × α)) : Prop := bs.Pairwise fun a b => a.1 < b.1

/-- The value of the first binding of `key`. -/
def find? (key : String) : List (String × α) → Option α
  | [] => none
  | (k, v) :: rest => if k = key then some v else find? key rest

/-- Binds `key` to `value` in an ascending list, in place of what it was bound to. -/
def insert (key : String) (value : α) : List (String × α) → List (String × α)
  | [] => [(key, value)]
  | (k, v) :: rest =>
    if key < k then (key, value) :: (k, v) :: rest
    else if key = k then (key, value) :: rest
    else (k, v) :: insert key value rest

/-- Drops every binding of `key`. -/
def erase (key : String) (bs : List (String × α)) : List (String × α) :=
  bs.filter fun b => b.1 ≠ key

/-- The ascending list of the bindings of `bs`; of two bindings of one key the later one counts. -/
def ascending (bs : List (String × α)) : List (String × α) :=
  bs.foldl (fun acc b => insert b.1 b.2 acc) []

theorem mem_insert {key : String} {value : α} {bs : List (String × α)} {b : String × α}
    (h : b ∈ insert key value bs) : b = (key, value) ∨ b ∈ bs := by
  induction bs with
  | nil => simpa [insert] using h
  | cons c rest ih =>
    obtain ⟨k, v⟩ := c
    grind [insert]

theorem Ascending.insert {key : String} {value : α} {bs : List (String × α)}
    (h : Ascending bs) : Ascending (insert key value bs) := by
  induction bs with
  | nil => simp [Bindings.insert, Ascending]
  | cons c rest ih =>
    obtain ⟨k, v⟩ := c
    obtain ⟨hk, hrest⟩ := List.pairwise_cons.1 h
    unfold Bindings.insert
    split
    · next hlt =>
      refine List.pairwise_cons.2 ⟨fun b hb => ?_, h⟩
      rcases List.mem_cons.1 hb with rfl | hb
      · exact hlt
      · exact String.lt_trans hlt (hk b hb)
    · split
      · next heq => subst heq; exact List.pairwise_cons.2 ⟨hk, hrest⟩
      · next hne =>
        refine List.pairwise_cons.2 ⟨fun b hb => ?_, ih hrest⟩
        rcases mem_insert hb with rfl | hb
        · change k < key
          grind
        · exact hk b hb

theorem Ascending.erase {key : String} {bs : List (String × α)} (h : Ascending bs) :
    Ascending (erase key bs) :=
  h.sublist List.filter_sublist

theorem ascending_foldl (bs acc : List (String × α)) (h : Ascending acc) :
    Ascending (bs.foldl (fun acc b => insert b.1 b.2 acc) acc) := by
  induction bs generalizing acc with
  | nil => exact h
  | cons b rest ih => exact ih _ h.insert

theorem ascending_ascending (bs : List (String × α)) : Ascending (ascending bs) :=
  ascending_foldl bs [] List.Pairwise.nil

theorem find?_insert (key key' : String) (value : α) {bs : List (String × α)}
    (h : Ascending bs) :
    find? key' (insert key value bs) = if key = key' then some value else find? key' bs := by
  induction bs with
  | nil => simp [insert, find?]
  | cons c rest ih =>
    obtain ⟨k, v⟩ := c
    have := ih (List.pairwise_cons.1 h).2
    grind [insert, find?]

theorem find?_erase (key key' : String) (bs : List (String × α)) :
    find? key' (erase key bs) = if key = key' then none else find? key' bs := by
  induction bs with
  | nil => simp [erase, find?]
  | cons c rest ih =>
    obtain ⟨k, v⟩ := c
    unfold erase at ih ⊢
    grind [find?]

theorem find?_of_forall_lt {key : String} {bs : List (String × α)} (h : ∀ b ∈ bs, key < b.1) :
    find? key bs = none := by
  induction bs with
  | nil => rfl
  | cons c rest ih =>
    obtain ⟨k, v⟩ := c
    have hk : key < k := h (k, v) List.mem_cons_self
    have := ih fun b hb => h b (List.mem_cons_of_mem _ hb)
    grind [find?]

/-- Binding a key that is not bound makes a list longer by one. -/
theorem length_insert {key : String} {value : α} {bs : List (String × α)} (h : Ascending bs)
    (unbound : find? key bs = none) : (insert key value bs).length = bs.length + 1 := by
  induction bs with
  | nil => rfl
  | cons c rest ih =>
    obtain ⟨k, v⟩ := c
    have := ih (List.pairwise_cons.1 h).2
    grind [insert, find?]

/-- Putting the bindings of an ascending list over others. -/
theorem find?_foldl_insert (key : String) {bs acc : List (String × α)} (hb : Ascending bs)
    (ha : Ascending acc) :
    find? key (bs.foldl (fun acc b => insert b.1 b.2 acc) acc) =
      (find? key bs).or (find? key acc) := by
  induction bs generalizing acc with
  | nil => rfl
  | cons b rest ih =>
    obtain ⟨k, v⟩ := b
    obtain ⟨hk, hrest⟩ := List.pairwise_cons.1 hb
    rw [List.foldl_cons, ih hrest ha.insert, find?_insert k key v ha]
    by_cases same : k = key
    · subst same
      simp [find?, find?_of_forall_lt hk]
    · simp [find?, same]

theorem find?_head (k : String) (v : α) (bs : List (String × α)) : find? k ((k, v) :: bs) = some v := by
  simp [find?]

/-- No key is bound below the first of an ascending list. -/
theorem Ascending.not_lt_of_find? {key k : String} {u v : α} {bs : List (String × α)}
    (h : Ascending ((k, v) :: bs)) (bound : find? key ((k, v) :: bs) = some u) : ¬ key < k := by
  intro below
  have above := (List.pairwise_cons.1 h).1
  have unbound : find? key ((k, v) :: bs) = none := find?_of_forall_lt fun b mem => by
    rcases List.mem_cons.1 mem with rfl | mem
    · exact below
    · exact String.lt_trans below (above b mem)
  rw [unbound] at bound
  cases bound

/-- Two ascending lists with the same bindings are equal. -/
theorem Ascending.ext {as bs : List (String × α)} (ha : Ascending as) (hb : Ascending bs)
    (h : ∀ key, find? key as = find? key bs) : as = bs := by
  induction as generalizing bs with
  | nil =>
    cases bs with
    | nil => rfl
    | cons b rest => have := h b.1; grind [find?]
  | cons a as ih =>
    cases bs with
    | nil => have := h a.1; grind [find?]
    | cons b bs =>
      obtain ⟨k, v⟩ := a
      obtain ⟨k', v'⟩ := b
      have before : ¬ k < k' := hb.not_lt_of_find? ((h k).symm.trans (find?_head k v as))
      have behind : ¬ k' < k := ha.not_lt_of_find? ((h k').trans (find?_head k' v' bs))
      obtain rfl : k = k' := by grind
      obtain rfl : v = v' := by simpa [find?] using h k
      obtain ⟨hk, has⟩ := List.pairwise_cons.1 ha
      obtain ⟨hk', hbs⟩ := List.pairwise_cons.1 hb
      have hrest : ∀ key, find? key as = find? key bs := fun key => by
        rcases Decidable.em (k = key) with rfl | hne
        · rw [find?_of_forall_lt hk, find?_of_forall_lt hk']
        · simpa [find?, hne] using h key
      rw [ih has hbs hrest]

theorem insert_of_forall_lt {key : String} {value : α} {bs : List (String × α)}
    (h : ∀ b ∈ bs, b.1 < key) : insert key value bs = bs ++ [(key, value)] := by
  induction bs with
  | nil => rfl
  | cons c rest ih =>
    obtain ⟨k, v⟩ := c
    have hk : k < key := h (k, v) List.mem_cons_self
    have := ih fun b hb => h b (List.mem_cons_of_mem _ hb)
    grind [insert]

/-- An ascending list stays as it is. -/
theorem ascending_eq_self {bs : List (String × α)} (h : Ascending bs) : ascending bs = bs := by
  suffices ∀ acc : List (String × α), Ascending (acc ++ bs) →
      bs.foldl (fun acc b => insert b.1 b.2 acc) acc = acc ++ bs from by
    simpa [ascending] using this [] h
  clear h
  induction bs with
  | nil => simp
  | cons b rest ih =>
    intro acc h
    have hlt : ∀ a ∈ acc, a.1 < b.1 := fun a ha =>
      (List.pairwise_append.1 h).2.2 a ha b List.mem_cons_self
    rw [List.foldl_cons, insert_of_forall_lt hlt]
    have := ih (acc ++ [(b.1, b.2)]) (by simpa using h)
    simpa using this

end Bindings

/-! ## Dictionaries -/

/-- Bindings of texts to values, in ascending key order. -/
structure Dict (α : Type) where
  entries : List (String × α)
  sorted : Bindings.Ascending entries

namespace Dict

variable {α β : Type}

instance [DecidableEq α] : DecidableEq (Dict α) := fun a b =>
  match decEq a.entries b.entries with
  | .isTrue h => .isTrue (by cases a; cases b; cases h; rfl)
  | .isFalse h => .isFalse fun e => h (congrArg entries e)

/-- The dictionary that binds nothing. -/
def empty : Dict α := ⟨[], List.Pairwise.nil⟩

instance : EmptyCollection (Dict α) := ⟨empty⟩

instance : Inhabited (Dict α) := ⟨empty⟩

/-- What `key` is bound to. -/
def get? (d : Dict α) (key : String) : Option α := Bindings.find? key d.entries

/-- Whether `key` is bound. -/
def contains (d : Dict α) (key : String) : Bool := (d.get? key).isSome

/-- Binds `key` to `value`, in place of what it was bound to. -/
def insert (d : Dict α) (key : String) (value : α) : Dict α :=
  ⟨Bindings.insert key value d.entries, d.sorted.insert⟩

/-- Drops the binding of `key`. -/
def erase (d : Dict α) (key : String) : Dict α := ⟨Bindings.erase key d.entries, d.sorted.erase⟩

/-- The dictionary of a list of bindings; of two bindings of one key the later one counts. -/
def ofList (bs : List (String × α)) : Dict α := ⟨Bindings.ascending bs, Bindings.ascending_ascending bs⟩

/-- The bound keys, in ascending order. -/
def keys (d : Dict α) : List String := d.entries.map (·.1)

/-- The bound values, in ascending order of their keys. -/
def values (d : Dict α) : List α := d.entries.map (·.2)

/-- How many keys are bound. -/
def size (d : Dict α) : Nat := d.entries.length

/-- Whether nothing is bound. -/
def isEmpty (d : Dict α) : Bool := d.entries.isEmpty

/-- Binds every key to the image of its value. -/
def map (f : α → β) (d : Dict α) : Dict β :=
  ⟨d.entries.map fun b => (b.1, f b.2), by
    have := d.sorted
    unfold Bindings.Ascending at this ⊢
    exact List.pairwise_map.2 this⟩

/-- `d` with the bindings of `e` put over it. -/
def overlay (d e : Dict α) : Dict α := e.entries.foldl (fun acc b => acc.insert b.1 b.2) d

theorem ext_entries {d e : Dict α} (h : d.entries = e.entries) : d = e := by
  cases d; cases e; cases h; rfl

theorem ext_get? {d e : Dict α} (h : ∀ key, d.get? key = e.get? key) : d = e :=
  ext_entries (d.sorted.ext e.sorted h)

@[simp] theorem get?_empty (key : String) : (empty : Dict α).get? key = none := rfl

@[simp] theorem get?_insert (d : Dict α) (key key' : String) (value : α) :
    (d.insert key value).get? key' = if key = key' then some value else d.get? key' :=
  Bindings.find?_insert key key' value d.sorted

@[simp] theorem get?_erase (d : Dict α) (key key' : String) :
    (d.erase key).get? key' = if key = key' then none else d.get? key' :=
  Bindings.find?_erase key key' d.entries

@[simp] theorem insert_insert (d : Dict α) (key : String) (value value' : α) :
    (d.insert key value).insert key value' = d.insert key value' := by
  refine ext_get? fun key' => ?_
  simp only [get?_insert]
  split <;> rfl

/-- Binding a key that is not bound makes a dictionary larger by one. -/
theorem size_insert {d : Dict α} {key : String} (value : α) (unbound : d.get? key = none) :
    (d.insert key value).size = d.size + 1 :=
  Bindings.length_insert d.sorted unbound

/-- Where both bind a key, what is put over the other counts. -/
@[simp] theorem get?_overlay (d e : Dict α) (key : String) :
    (d.overlay e).get? key = (e.get? key).or (d.get? key) := by
  have entries : ∀ (bs : List (String × α)) (d : Dict α),
      (bs.foldl (fun acc b => acc.insert b.1 b.2) d).entries =
        bs.foldl (fun acc b => Bindings.insert b.1 b.2 acc) d.entries := by
    intro bs
    induction bs with
    | nil => exact fun _ => rfl
    | cons b rest ih => exact fun d => ih (d.insert b.1 b.2)
  unfold overlay get?
  rw [entries]
  exact Bindings.find?_foldl_insert key e.sorted d.sorted

/-- A further binding at the end of a list is put over the others. -/
theorem ofList_concat (bs : List (String × α)) (key : String) (value : α) :
    ofList (bs ++ [(key, value)]) = (ofList bs).insert key value := by
  refine ext_entries ?_
  simp [ofList, insert, Bindings.ascending]

@[simp] theorem ofList_entries (d : Dict α) : ofList d.entries = d :=
  ext_entries (Bindings.ascending_eq_self d.sorted)

end Dict

end Workflows
