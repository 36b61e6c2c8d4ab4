import Workflows.Json.Printer
import Workflows.Proofs.Json.Reading

/-!
# What is printed as JSON

* `Json.Legible`: what is printed for a number is a numeral of it; `legible_int`: whole numbers in range;
* `Value.numbers`: the numbers of a value;
* `spells_escaped`: a text is spelled by its escaped characters;
* **`written_pretty`**: what is printed for a value is a written form of it;
* **`read?_pretty`**: so it is read as the value, unless that nests too deep.
-/

namespace Workflows

namespace Value

mutual

/-- The numbers of a value. -/
def numbers : Value → List Number
  | .number n => [n]
  | .list items => numbersItems items
  | .object members => numbersMembers members
  | _ => []

def numbersItems : List Value → List Number
  | [] => []
  | v :: rest => numbers v ++ numbersItems rest

def numbersMembers : List (String × Value) → List Number
  | [] => []
  | (_, v) :: rest => numbers v ++ numbersMembers rest

end

end Value

namespace Json

open Decimal (natOfDigits)

/-! ## Numbers -/

/-- What is printed for the number is a numeral of it. -/
def Legible (n : Number) : Prop := ∃ m : Numeral, m.chars = number n ∧ m.value? = some n

/-- Only zero is written with a leading zero. -/
theorem eq_zero_of_head? (n : Nat) (zero : (Nat.toDigits 10 n).head? = some '0') : n = 0 := by
  induction n using Nat.strong_induction_on with
  | _ n ih =>
    rw [Nat.toDigits_eq_if (by decide)] at zero
    split at zero
    · next small =>
      have one : ∀ d < 10, Nat.digitChar d = '0' → d = 0 := by decide
      exact one n small (Option.some.inj zero)
    · next large =>
      rw [List.head?_append_of_ne_nil _ Nat.toDigits_ne_nil] at zero
      have none := ih (n / 10) (by omega) zero
      omega

theorem length_of_head? (n : Nat) (zero : (Nat.toDigits 10 n).head? = some '0') :
    (Nat.toDigits 10 n).length = 1 := by
  rw [eq_zero_of_head? n zero]
  rfl

/-- The numeral of a whole number. -/
def Numeral.ofInt (n : Int) : Numeral where
  negative := decide (n < 0)
  whole := Nat.toDigits 10 n.natAbs
  places := none
  exponent := none
  isDigits := Decimal.digits_toDigits _
  ne_nil := Nat.toDigits_ne_nil
  no_zero := length_of_head? _
  places_isDigits := nofun
  places_ne_nil := nofun

/-- **What is printed for a whole number in range is a numeral of it.** -/
theorem legible_int {n : Int} (least : Number.minInt ≤ n) (most : n ≤ Number.maxInt) : Legible (.int n) := by
  refine ⟨.ofInt n, ?_, ?_⟩
  · rw [number, Decimal.toList_toString]
    simp [Numeral.chars, Numeral.ofInt, Numeral.fraction, Numeral.power]
  · have amount : (if n < 0 then -(natOfDigits (Nat.toDigits 10 n.natAbs) : Int)
        else natOfDigits (Nat.toDigits 10 n.natAbs)) = n := by
      rw [Decimal.natOfDigits_toDigits]
      split <;> omega
    have signed : ¬ (n < 0 ∧ n = 0) := by omega
    simp [Numeral.value?, Numeral.ofInt, numberOf, amount, least, most, signed]

/-! ## Texts -/

/-- The characters below U+0020 are escaped with their codes. -/
theorem hex_four : ∀ n < 0x20, hex 4 n = ['0', '0', Nat.digitChar (n / 16), Nat.digitChar (n % 16)] ∧
    hex4? '0' '0' (Nat.digitChar (n / 16)) (Nat.digitChar (n % 16)) = some n ∧
    isHighSurrogate n = false ∧ isLowSurrogate n = false := by
  decide +kernel

theorem spells_escapeChar (c : Char) {cs s : List Char} (next : Spells cs s) :
    Spells (escapeChar c ++ cs) (c :: s) := by
  unfold escapeChar
  split
  · exact .letter rfl next
  · exact .letter rfl next
  · exact .letter rfl next
  · exact .letter rfl next
  · exact .letter rfl next
  · exact .letter rfl next
  · exact .letter rfl next
  · next quote escape _ _ _ _ _ =>
    split
    · next low =>
      obtain ⟨code, hex, high, low⟩ := hex_four c.toNat low
      rw [code]
      have spells := Spells.code hex high low next
      rwa [Char.ofNat_toNat] at spells
    · next visible => exact .plain quote escape (Nat.not_lt.1 visible) next

/-- **A text is spelled by its escaped characters.** -/
theorem spells_escaped (s : List Char) : Spells (s.flatMap escapeChar) s := by
  induction s with
  | nil => exact .nil
  | cons c s ih => exact spells_escapeChar c ih

/-! ## Values -/

section

variable {depth : Nat} {cs : List Char} {v : Value}

theorem space_newLine (depth : Nat) : Space (newLine depth) :=
  List.forall_mem_cons.2 ⟨rfl, fun _ mem => by rw [List.eq_of_mem_replicate mem]; rfl⟩

theorem space_nil : Space [] := nofun

/-- Items a line each, up to the closing bracket. -/
theorem exists_items {rest : List Value} (first : Writes (.value v) cs)
    (others : ∀ w ∈ rest, Writes (.value w) (prettyChars (depth + 1) w)) :
    ∃ core, newLine (depth + 1) ++ cs ++ prettyItems depth rest = core ++ [']'] ∧
      Writes (.items (v :: rest)) core := by
  induction rest generalizing v cs with
  | nil =>
    have item := Writes.padded (space_newLine (depth + 1)) first (space_newLine depth)
    exact ⟨_, by simp [prettyItems], .lastItem item⟩
  | cons w rest ih =>
    have item := Writes.padded (space_newLine (depth + 1)) first space_nil
    obtain ⟨core, whole, items⟩ := ih (others w List.mem_cons_self) fun w mem => others w (.tail _ mem)
    exact ⟨_, by simp [prettyItems, ← whole], .item item items⟩

/-- Members a line each, up to the closing brace. -/
theorem exists_members {k : String} {rest : List (String × Value)} (first : Writes (.value v) cs)
    (others : ∀ m ∈ rest, Writes (.value m.2) (prettyChars (depth + 1) m.2)) :
    ∃ core, newLine (depth + 1) ++ quote k ++ ':' :: ' ' :: cs ++ prettyMembers depth rest = core ++ ['\x7d'] ∧
      Writes (.members ((k, v) :: rest)) core := by
  have gap : Space [' '] := by simp [Space, isSpace]
  induction rest generalizing k v cs with
  | nil =>
    have member := Writes.member (space_newLine (depth + 1)) (spells_escaped k.toList) space_nil
      (.padded gap first (space_newLine depth))
    exact ⟨_, by simp [prettyMembers, quote], .lastMember member⟩
  | cons m rest ih =>
    have member := Writes.member (space_newLine (depth + 1)) (spells_escaped k.toList) space_nil
      (.padded gap first space_nil)
    obtain ⟨core, whole, members⟩ := ih (k := m.1) (others m List.mem_cons_self) fun w mem => others w (.tail _ mem)
    exact ⟨_, by simp [prettyMembers, quote, ← whole], .members member members⟩

mutual

/-- What is printed at any depth is a written form. -/
theorem writes_pretty (depth : Nat) : (v : Value) → (∀ n ∈ v.numbers, Legible n) →
    Writes (.value v) (prettyChars depth v)
  | .null, _ => .null
  | .bool true, _ => .isTrue
  | .bool false, _ => .isFalse
  | .number n, legible => by
    obtain ⟨m, chars, amount⟩ := legible n List.mem_cons_self
    rw [prettyChars, compactChars, ← chars]
    · exact .number amount
    · nofun
    · nofun
  | .text s, _ => .text (spells_escaped s.toList)
  | .list [], _ => .emptyList space_nil
  | .list (v :: rest), legible => by
    -- the first item is printed with the bracket, the others each behind a comma
    obtain ⟨first, others⟩ := List.forall_mem_append.1 legible
    obtain ⟨core, whole, items⟩ := exists_items (writes_pretty (depth + 1) v first)
      (writes_prettyItems (depth + 1) rest others)
    rw [prettyChars, List.cons_append, List.cons_append, whole]
    exact .list items
  | .object [], _ => .emptyObject space_nil
  | .object ((k, v) :: rest), legible => by
    obtain ⟨first, others⟩ := List.forall_mem_append.1 legible
    obtain ⟨core, whole, members⟩ := exists_members (k := k) (writes_pretty (depth + 1) v first)
      (writes_prettyMembers (depth + 1) rest others)
    rw [prettyChars, List.cons_append, List.cons_append, List.cons_append, whole]
    exact .object members

theorem writes_prettyItems (depth : Nat) : (vs : List Value) → (∀ n ∈ Value.numbersItems vs, Legible n) →
    ∀ v ∈ vs, Writes (.value v) (prettyChars depth v)
  | [], _ => nofun
  | v :: rest, legible =>
    have ⟨first, others⟩ := List.forall_mem_append.1 legible
    List.forall_mem_cons.2 ⟨writes_pretty depth v first, writes_prettyItems depth rest others⟩

theorem writes_prettyMembers (depth : Nat) : (ms : List (String × Value)) →
    (∀ n ∈ Value.numbersMembers ms, Legible n) → ∀ m ∈ ms, Writes (.value m.2) (prettyChars depth m.2)
  | [], _ => nofun
  | (_, v) :: rest, legible =>
    have ⟨first, others⟩ := List.forall_mem_append.1 legible
    List.forall_mem_cons.2 ⟨writes_pretty depth v first, writes_prettyMembers depth rest others⟩

end

end

variable {v : Value}

/-- **What is printed for a value is a written form of it.** -/
theorem written_pretty (legible : ∀ n ∈ v.numbers, Legible n) : Written v (pretty v) := by
  have padded := Writes.padded space_nil (writes_pretty 0 v legible) space_nil
  rwa [List.nil_append, List.append_nil, ← String.toList_ofList (l := prettyChars 0 v)] at padded

/-- **A value that does not nest too deep is read as it is printed.** -/
theorem read?_pretty (legible : ∀ n ∈ v.numbers, Legible n) (fits : v.depth ≤ maxDepth) :
    read? (pretty v) = some v :=
  read?_eq_some_iff.2 ⟨written_pretty legible, fits⟩

end Json

end Workflows
