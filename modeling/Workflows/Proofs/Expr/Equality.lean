import Workflows.Expr.Rule
import Workflows.Proofs.Data.Dict
import Workflows.Proofs.Decimal.Whole

/-!
# The laws of equality

Operands are equal as numbers by their amounts, whole or not; within lists and objects numbers of the two forms are
apart.

* `Number.same_refl`, `Value.same_refl` and their likes: equality of data is an equivalence;
* `Value.equal_refl` and its likes: so is equality of operands; `Value.equal_iff`: it is equality of data, but for
  two numbers;
* `Value.Place`: a place in data, and what stands around it; `Value.Place.same_put`: data that differ in one place;
* **`equal_laws`**: what equality of operands keeps, and where it does not.
-/

namespace Workflows

/-! ## Numbers -/

namespace Number

variable {m n k : Number}

theorem toFloat_ne_nan (n : Number) : n.toFloat.toModel.unpack ≠ .notANumber := by
  cases n with
  | int i => exact ofInt_ne_nan i
  | real x => exact ne_nan_of_isFinite x.isFinite

theorem same_refl (n : Number) : n.same n = true := by
  cases n with
  | int i => exact beq_self_eq_true i
  | real x => exact float_beq_refl (ne_nan_of_isFinite x.isFinite)

theorem same_symm (h : m.same n = true) : n.same m = true := by
  cases m <;> cases n <;> simp only [same, Bool.false_eq_true] at h ⊢
  · exact beq_iff_eq.2 (beq_iff_eq.1 h).symm
  · exact float_beq_symm h

theorem same_trans (h : m.same n = true) (h' : n.same k = true) : m.same k = true := by
  cases m <;> cases n <;> cases k <;> simp only [same, Bool.false_eq_true] at h h' ⊢
  · exact beq_iff_eq.2 ((beq_iff_eq.1 h).trans (beq_iff_eq.1 h'))
  · exact float_beq_trans h h'

/-- Numbers of one form that are the same have the same amount. -/
theorem beq_of_same (h : m.same n = true) : (m.toFloat == n.toFloat) = true := by
  cases m <;> cases n <;> simp only [same, Bool.false_eq_true] at h
  · cases beq_iff_eq.1 h
    exact float_beq_refl (toFloat_ne_nan _)
  · exact h

end Number

/-! ## Data -/

namespace Value

mutual

theorem same_refl : ∀ v : Value, v.same v = true
  | .null => rfl
  | .bool b => beq_self_eq_true b
  | .number n => n.same_refl
  | .text s => beq_self_eq_true s
  | .list xs => sameItems_refl xs
  | .object ms => sameMembers_refl ms

theorem sameItems_refl : ∀ xs : List Value, sameItems xs xs = true
  | [] => rfl
  | x :: xs => by rw [sameItems, same_refl x, sameItems_refl xs, Bool.and_self]

theorem sameMembers_refl : ∀ ms : List (String × Value), sameMembers ms ms = true
  | [] => rfl
  | (k, x) :: ms => by
    rw [sameMembers, same_refl x, sameMembers_refl ms, beq_self_eq_true k, Bool.and_self, Bool.and_self]

end

mutual

theorem same_symm : ∀ v w : Value, v.same w = true → w.same v = true
  | .null, w, h => by cases w <;> first | rfl | cases h
  | .bool a, w, h => by
    cases w with
    | bool b => exact beq_iff_eq.2 (beq_iff_eq.1 h).symm
    | _ => cases h
  | .number m, w, h => by
    cases w with
    | number n => exact Number.same_symm h
    | _ => cases h
  | .text s, w, h => by
    cases w with
    | text t => exact beq_iff_eq.2 (beq_iff_eq.1 h).symm
    | _ => cases h
  | .list xs, w, h => by
    cases w with
    | list ys => exact sameItems_symm xs ys h
    | _ => cases h
  | .object ms, w, h => by
    cases w with
    | object ns => exact sameMembers_symm ms ns h
    | _ => cases h

theorem sameItems_symm : ∀ xs ys : List Value, sameItems xs ys = true → sameItems ys xs = true
  | [], [], _ => rfl
  | x :: xs, y :: ys, h => by
    rw [sameItems, Bool.and_eq_true] at h ⊢
    exact ⟨same_symm x y h.1, sameItems_symm xs ys h.2⟩

theorem sameMembers_symm : ∀ ms ns : List (String × Value), sameMembers ms ns = true → sameMembers ns ms = true
  | [], [], _ => rfl
  | (k, x) :: ms, (l, y) :: ns, h => by
    rw [sameMembers, Bool.and_eq_true, Bool.and_eq_true, beq_iff_eq] at h ⊢
    exact ⟨⟨h.1.1.symm, same_symm x y h.1.2⟩, sameMembers_symm ms ns h.2⟩

end

mutual

theorem same_trans : ∀ u v w : Value, u.same v = true → v.same w = true → u.same w = true
  | .null, v, w, h, h' => by
    cases v with
    | null => exact h'
    | _ => cases h
  | .bool a, v, w, h, h' => by
    cases v with
    | bool b => rwa [beq_iff_eq.1 h]
    | _ => cases h
  | .number m, v, w, h, h' => by
    cases v with
    | number n =>
      cases w with
      | number k => exact Number.same_trans h h'
      | _ => cases h'
    | _ => cases h
  | .text s, v, w, h, h' => by
    cases v with
    | text t => rwa [beq_iff_eq.1 h]
    | _ => cases h
  | .list xs, v, w, h, h' => by
    cases v with
    | list ys =>
      cases w with
      | list zs => exact sameItems_trans xs ys zs h h'
      | _ => cases h'
    | _ => cases h
  | .object ms, v, w, h, h' => by
    cases v with
    | object ns =>
      cases w with
      | object os => exact sameMembers_trans ms ns os h h'
      | _ => cases h'
    | _ => cases h

theorem sameItems_trans : ∀ xs ys zs : List Value, sameItems xs ys = true → sameItems ys zs = true →
    sameItems xs zs = true
  | [], [], zs, _, h' => h'
  | x :: xs, y :: ys, z :: zs, h, h' => by
    rw [sameItems, Bool.and_eq_true] at h h' ⊢
    exact ⟨same_trans x y z h.1 h'.1, sameItems_trans xs ys zs h.2 h'.2⟩

theorem sameMembers_trans : ∀ ms ns os : List (String × Value), sameMembers ms ns = true →
    sameMembers ns os = true → sameMembers ms os = true
  | [], [], os, _, h' => h'
  | (k, x) :: ms, (l, y) :: ns, (j, z) :: os, h, h' => by
    rw [sameMembers, Bool.and_eq_true, Bool.and_eq_true, beq_iff_eq] at h h' ⊢
    exact ⟨⟨h.1.1.trans h'.1.1, same_trans x y z h.1.2 h'.1.2⟩, sameMembers_trans ms ns os h.2 h'.2⟩

end

variable {u v w : Value} {xs ys : List Value}

theorem sameItems_iff : sameItems xs ys = true ↔ List.Forall₂ (fun v w => v.same w = true) xs ys := by
  induction xs generalizing ys with
  | nil => cases ys <;> simp [sameItems]
  | cons x xs ih => cases ys <;> simp [sameItems, ih]

theorem sameMembers_iff {ms ns : List (String × Value)} :
    sameMembers ms ns = true ↔ List.Forall₂ (fun b c => b.1 = c.1 ∧ b.2.same c.2 = true) ms ns := by
  induction ms generalizing ns with
  | nil => cases ns <;> simp [sameMembers]
  | cons b ms ih => cases ns <;> simp [sameMembers, ih, and_assoc]

/-! ## Operands -/

/-- Operands are equal as data, or as numbers of one amount. -/
theorem equal_iff : v.equal w = true ↔
    v.same w = true ∨ ∃ m n, v = .number m ∧ w = .number n ∧ (m.toFloat == n.toFloat) = true := by
  unfold equal
  split
  · next m n =>
    refine ⟨fun h => .inr ⟨m, n, rfl, rfl, h⟩, ?_⟩
    rintro (h | ⟨_, _, ⟨⟩, ⟨⟩, h⟩)
    · exact Number.beq_of_same h
    · exact h
  · next apart =>
    refine ⟨.inl, ?_⟩
    rintro (h | ⟨m, n, rfl, rfl, -⟩)
    · exact h
    · exact absurd rfl (apart m n rfl)

theorem equal_of_same (h : v.same w = true) : v.equal w = true := equal_iff.2 (.inl h)

theorem equal_refl (v : Value) : v.equal v = true := equal_of_same (same_refl v)

theorem equal_symm (h : v.equal w = true) : w.equal v = true := by
  rcases equal_iff.1 h with h | ⟨m, n, rfl, rfl, h⟩
  · exact equal_of_same (same_symm v w h)
  · exact float_beq_symm h

theorem equal_trans (h : u.equal v = true) (h' : v.equal w = true) : u.equal w = true := by
  rcases equal_iff.1 h with h | ⟨m, n, rfl, rfl, h⟩ <;> rcases equal_iff.1 h' with h' | ⟨m', n', same, rfl, h'⟩
  · exact equal_of_same (same_trans u v w h h')
  · subst same
    cases u with
    | number k => exact float_beq_trans (Number.beq_of_same h) h'
    | _ => cases h
  · cases w with
    | number k => exact float_beq_trans h (Number.beq_of_same h')
    | _ => cases h'
  · cases same
    exact float_beq_trans h h'

/-- What is equal is the same as data, unless two numbers are not. -/
theorem same_iff_of_equal (h : v.equal w = true) :
    v.same w = true ↔ ∀ m n, v = .number m → w = .number n → m.same n = true := by
  rcases equal_iff.1 h with same | ⟨m, n, rfl, rfl, -⟩
  · refine iff_of_true same ?_
    rintro m n rfl rfl
    exact same
  · refine ⟨?_, fun alike => alike m n rfl rfl⟩
    rintro same _ _ ⟨⟩ ⟨⟩
    exact same

/-- Lists of equal items are equal just where no two numbers among them are apart. -/
theorem equal_list_iff (items : List.Forall₂ (fun v w => v.equal w = true) xs ys) :
    (list xs).equal (.list ys) = true ↔
      List.Forall₂ (fun v w => ∀ m n, v = .number m → w = .number n → m.same n = true) xs ys := by
  change sameItems xs ys = true ↔ _
  rw [sameItems_iff]
  induction items with
  | nil => exact iff_of_true .nil .nil
  | cons head _ ih => rw [List.forall₂_cons, List.forall₂_cons, same_iff_of_equal head, ih]

/-- Objects with the same names and equal values are equal just where no two numbers among these are apart. -/
theorem equal_ofObject_iff {o p : Object}
    (members : ∀ name, Option.Rel (fun v w => v.equal w = true) (o.get? name) (p.get? name)) :
    (ofObject o).equal (ofObject p) = true ↔
      ∀ name m n, o.get? name = some (.number m) → p.get? name = some (.number n) → m.same n = true := by
  change sameMembers o.entries p.entries = true ↔ _
  rw [sameMembers_iff, Dict.forall₂_entries_iff (R := fun v w : Value => v.same w = true)]
  refine forall_congr' fun name => ?_
  have rel := members name
  generalize o.get? name = v, p.get? name = w at rel
  cases rel with
  | none => exact iff_of_true .none nofun
  | @some v w h =>
    have same := same_iff_of_equal h
    constructor
    · rintro alike m n ⟨⟩ ⟨⟩
      cases alike with
      | some alike => exact alike
    · exact fun alike => .some (same.2 fun m n hm hn => alike m n (congrArg some hm) (congrArg some hn))

theorem membership_list (op : CompareOp) (v : Value) (xs : List Value) :
    membership op v (.list xs) = .ok (xs.any fun item => item.equal v) := by
  unfold membership
  cases v <;> rfl

/-- Membership in a list takes equal items and operands for each other. -/
theorem membership_congr (op : CompareOp) (needle : v.equal w = true)
    (items : List.Forall₂ (fun v w => v.equal w = true) xs ys) :
    membership op v (.list xs) = membership op w (.list ys) := by
  rw [membership_list, membership_list]
  congr 1
  induction items with
  | nil => rfl
  | @cons x y xs ys head _ ih =>
    have same : x.equal v = y.equal w := by
      rw [Bool.eq_iff_iff]
      exact ⟨fun h => equal_trans (equal_symm head) (equal_trans h needle),
        fun h => equal_trans head (equal_trans h (equal_symm needle))⟩
    rw [List.any_cons, List.any_cons, same, ih]

end Value

/-! ## Places in data -/

/-- A place in data, by what stands around it. -/
inductive Value.Place where
  | here
  | item (before : List Value) (inside : Value.Place) (after : List Value)
  | member (before : List (String × Value)) (name : String) (inside : Value.Place) (after : List (String × Value))

namespace Value.Place

/-- The data with a value in the place. -/
def put : Value.Place → Value → Value
  | here, v => v
  | item before inside after, v => .list (before ++ inside.put v :: after)
  | member before name inside after, v => .object (before ++ (name, inside.put v) :: after)

variable {v w : Value}

/-- **Data with the same surroundings are the same just where the values in the place are.** -/
theorem same_put (place : Value.Place) : (place.put v).same (place.put w) = v.same w := by
  induction place with
  | here => rfl
  | item before inside after ih =>
    change Value.sameItems (before ++ _) (before ++ _) = _
    induction before with
    | nil => rw [List.nil_append, List.nil_append, Value.sameItems, ih, Value.sameItems_refl, Bool.and_true]
    | cons x before ih' => rw [List.cons_append, List.cons_append, Value.sameItems, Value.same_refl, ih', Bool.true_and]
  | member before name inside after ih =>
    change Value.sameMembers (before ++ _) (before ++ _) = _
    induction before with
    | nil =>
      rw [List.nil_append, List.nil_append, Value.sameMembers, ih, Value.sameMembers_refl, Bool.and_true,
        beq_self_eq_true, Bool.true_and]
    | cons b before ih' =>
      rw [List.cons_append, List.cons_append, Value.sameMembers, Value.same_refl, ih', beq_self_eq_true,
        Bool.true_and, Bool.true_and]

/-- Within lists and objects, equality of operands is equality of data. -/
theorem equal_put {place : Value.Place} (deep : place ≠ here) : (place.put v).equal (place.put w) = v.same w := by
  cases place with
  | here => exact absurd rfl deep
  | item before inside after => exact same_put (item before inside after)
  | member before name inside after => exact same_put (member before name inside after)

end Value.Place

/-! ## The laws -/

/-- **What equality of operands keeps.** It is an equivalence, and membership in a list takes equal items and operands
for each other. But lists of equal items, and objects with the same names and equal values, are equal just where the
numbers that stand against each other are the same in form and amount; and in a place within other data two values
are taken for each other just where they are the same as data, as ten with a point and without are not. -/
theorem equal_laws (v w : Value) (xs ys : List Value) (o p : Object) (op : CompareOp) (place : Value.Place) :
    Equivalence (fun v w : Value => v.equal w = true) ∧
    (v.equal w = true → List.Forall₂ (fun v w => v.equal w = true) xs ys →
      membership op v (.list xs) = membership op w (.list ys)) ∧
    (List.Forall₂ (fun v w => v.equal w = true) xs ys → ((Value.list xs).equal (.list ys) = true ↔
      List.Forall₂ (fun v w => ∀ m n, v = .number m → w = .number n → m.same n = true) xs ys)) ∧
    ((∀ name, Option.Rel (fun v w => v.equal w = true) (o.get? name) (p.get? name)) →
      ((Value.ofObject o).equal (.ofObject p) = true ↔
        ∀ name m n, o.get? name = some (.number m) → p.get? name = some (.number n) → m.same n = true)) ∧
    (place ≠ .here → ((place.put v).equal (place.put w) = true ↔ v.same w = true)) :=
  ⟨⟨Value.equal_refl, Value.equal_symm, Value.equal_trans⟩, Value.membership_congr op, Value.equal_list_iff,
    Value.equal_ofObject_iff, fun deep => by rw [Value.Place.equal_put deep]⟩

/-- Two objects with equal sizes, one of them written with a point: they are not equal, and neither are two lists that
hold them. -/
theorem equal_laws_sizes :
    let o : Object := Dict.ofList [("size", .int 10)]
    let p : Object := Dict.ofList [("size", .ofFloat 10.0)]
    let place : Value.Place := .item [.null] .here [.text "kb"]
    (∀ name, Option.Rel (fun v w => v.equal w = true) (o.get? name) (p.get? name)) ∧
      (Value.ofObject o).equal (.ofObject p) = false ∧
      (place.put (.ofObject o)).equal (place.put (.ofObject p)) = false := by
  intro o p place
  obtain ⟨-, -, -, objects, places⟩ := equal_laws (.ofObject o) (.ofObject p) [] [] o p .eq place
  have equal : Value.equal (.int 10) (.ofFloat 10.0) = true := by decide +kernel
  have apart : ¬ (Value.ofObject o).same (.ofObject p) = true := by decide +kernel
  have members : ∀ name, Option.Rel (fun v w => v.equal w = true) (o.get? name) (p.get? name) := by
    intro name
    by_cases size : "size" = name
    · subst size
      exact .some equal
    · have none (v : Value) : (Dict.ofList [("size", v)]).get? name = none := if_neg size
      rw [none, none]
      exact .none
  refine ⟨members, Bool.eq_false_iff.2 fun h => ?_, Bool.eq_false_iff.2 fun h => apart ((places nofun).1 h)⟩
  have forms := (objects members).1 h "size" (.int 10) (.real ⟨10.0, by decide⟩) rfl rfl
  cases forms

/-- Ten written without a point and with one: `10 == 10.0` and `10 IN [10.0]` hold, and `[10] == [10.0]` does not. -/
theorem equal_list_tens :
    let ten : Value := .int 10
    let ten' : Value := .ofFloat 10.0
    List.Forall₂ (fun v w => v.equal w = true) [ten] [ten'] ∧ (Value.list [ten]).equal (.list [ten']) = false ∧
      (Expr.compare .eq (.literal ten) (.literal ten')).test {} = .ok true ∧
      (Expr.compare .isIn (.literal ten) (.list [.literal ten'])).test {} = .ok true ∧
      (Expr.compare .eq (.list [.literal ten]) (.list [.literal ten'])).test {} = .ok false := by
  intro ten ten'
  have equal : ten.equal ten' = true := by decide +kernel
  have equal' : ten'.equal ten = true := Value.equal_symm equal
  have apart : (Value.list [ten]).equal (.list [ten']) = false := by decide +kernel
  refine ⟨.cons equal .nil, apart, ?_, ?_, ?_⟩
  · exact congrArg Except.ok equal
  · change Except.ok (ten'.equal ten || false) = _
    rw [equal']
    rfl
  · exact congrArg Except.ok apart

end Workflows
