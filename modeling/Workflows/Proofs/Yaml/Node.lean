import Workflows.Proofs.Data.Dict
import Workflows.Yaml.Node

/-!
# The data of nodes

* `Value.canonical_object_ascending`: ascending members of values in canonical form are in canonical form;
* **`Yaml.Node.canonical_of_value?`**: the data of a node is in canonical form.
-/

namespace Workflows

namespace Value

theorem canonicalItems_eq_self {vs : List Value} (canonical : ∀ v ∈ vs, v.canonical = v) :
    canonicalItems vs = vs := by
  induction vs with
  | nil => rfl
  | cons v vs ih =>
    rw [canonicalItems, canonical v List.mem_cons_self,
      ih fun w mem => canonical w (List.mem_cons_of_mem _ mem)]

theorem canonicalMembers_eq_self {bs : List (String × Value)} (canonical : ∀ b ∈ bs, b.2.canonical = b.2) :
    canonicalMembers bs = bs := by
  induction bs with
  | nil => rfl
  | cons b bs ih =>
    obtain ⟨k, v⟩ := b
    rw [canonicalMembers, canonical (k, v) List.mem_cons_self,
      ih fun c mem => canonical c (List.mem_cons_of_mem _ mem)]

/-- An object is in canonical form where its members are ascending and their values are. -/
theorem canonical_object_ascending {bs : List (String × Value)} (canonical : ∀ b ∈ bs, b.2.canonical = b.2) :
    (object (Bindings.ascending bs)).canonical = object (Bindings.ascending bs) := by
  rw [Value.canonical, canonicalMembers_eq_self fun b mem => canonical b (Bindings.mem_of_mem_ascending mem),
    Bindings.ascending_eq_self (Bindings.ascending_ascending bs)]

end Value

namespace Yaml

theorem canonical_of_intValue? {n : Int} {v : Value} (read : intValue? n = some v) : v.canonical = v := by
  unfold intValue? at read
  split at read
  · cases read
    rfl
  · cases read

theorem canonical_ofFloat (x : Float) : (Value.ofFloat x).canonical = Value.ofFloat x := by
  unfold Value.ofFloat
  split <;> rfl

theorem canonical_of_realOrText {s : String} {v : Value} (read : plainValue?.realOrText s = some v) :
    v.canonical = v := by
  unfold plainValue?.realOrText at read
  split at read
  · cases read
    rfl
  · split at read
    · cases read
      exact canonical_ofFloat _
    · cases read
      rfl

theorem canonical_of_plainValue? {s : String} {v : Value} (read : plainValue? s = some v) :
    v.canonical = v := by
  unfold plainValue? at read
  split at read
  · cases read
    rfl
  · split at read
    · cases read
      rfl
    · split at read
      · split at read
        · exact canonical_of_intValue? read
        · exact canonical_of_realOrText read
      · exact canonical_of_realOrText read

namespace Node

theorem canonical_of_scalarValue? {text : String} {style : Style} {tag : Option String} {v : Value}
    (read : scalarValue? text style tag = some v) : v.canonical = v := by
  cases tag with
  | none =>
    rw [scalarValue?] at read
    split at read
    · exact canonical_of_plainValue? read
    · cases read
      rfl
  | some t =>
    simp only [scalarValue?] at read
    split at read
    · obtain ⟨b, -, rfl⟩ := Option.map_eq_some_iff.1 read
      rfl
    · split at read
      · obtain ⟨n, -, read⟩ := Option.bind_eq_some_iff.1 read
        exact canonical_of_intValue? read
      · split at read
        · obtain ⟨x, -, rfl⟩ := Option.map_eq_some_iff.1 read
          exact canonical_ofFloat x
        · split at read
          · split at read
            · cases read
              rfl
            · cases read
          · split at read
            · cases read
            · cases read
              rfl

mutual

/-- The data of a node is in canonical form. -/
theorem canonical_of_value? : (n : Node) → {v : Value} → value? n = some v → v.canonical = v
  | .missing, _, read => by cases read; rfl
  | .scalar _ _ _, _, read => canonical_of_scalarValue? read
  | .list items tag, _, read => by
    rw [value?] at read
    split at read
    · cases read
    · obtain ⟨vs, items_read, rfl⟩ := Option.map_eq_some_iff.1 read
      rw [Value.canonical, Value.canonicalItems_eq_self (canonical_of_values? items items_read)]
  | .mapping members tag, _, read => by
    rw [value?] at read
    split at read
    · cases read
    · obtain ⟨bs, members_read, rfl⟩ := Option.map_eq_some_iff.1 read
      exact Value.canonical_object_ascending (canonical_of_memberValues? members members_read)
  | .tooDeep, _, read => by cases read

theorem canonical_of_values? : (ns : List Node) → {vs : List Value} → values? ns = some vs →
    ∀ v ∈ vs, v.canonical = v
  | [], _, read => by cases read; simp
  | n :: ns, vs, read => by
    rw [values?] at read
    split at read
    · next first rest =>
      cases read
      exact List.forall_mem_cons.2 ⟨canonical_of_value? n first, canonical_of_values? ns rest⟩
    · cases read

theorem canonical_of_memberValues? : (ms : List (Node × Node)) → {bs : List (String × Value)} →
    memberValues? ms = some bs → ∀ b ∈ bs, b.2.canonical = b.2
  | [], _, read => by cases read; simp
  | (_, n) :: ms, bs, read => by
    rw [memberValues?] at read
    split at read
    · next first rest =>
      cases read
      exact List.forall_mem_cons.2 ⟨canonical_of_value? n first, canonical_of_memberValues? ms rest⟩
    · cases read

end

end Node

end Yaml

end Workflows
