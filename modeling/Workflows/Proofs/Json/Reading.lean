import Workflows.Proofs.Json.Grammar

/-!
# What is read as JSON

* `readString_spells`, `spells_of_readString`: what is read between quotes;
* `Part.ReadFrom`: how a part is read; `Writes.reads`: what is written is read so, unless it nests too deep;
* `parts_written`: what is read is written so;
* **`read?_eq_some_iff`**: a text is read as a value just where it is a written form of the value and nests at most
  `maxDepth` deep.
-/

namespace Workflows

namespace Json

variable {cs s rest lead : List Char}

/-! ## Space -/

theorem skipSpace_append (space : Space lead) (cs : List Char) : skipSpace (lead ++ cs) = skipSpace cs :=
  List.dropWhile_append_of_pos space

theorem exists_space (cs : List Char) : ∃ lead, Space lead ∧ cs = lead ++ skipSpace cs :=
  ⟨cs.takeWhile isSpace, fun _ mem => List.mem_takeWhile_imp mem, List.takeWhile_append_dropWhile.symm⟩

@[simp] theorem skipSpace_skipSpace (cs : List Char) : skipSpace (skipSpace cs) = skipSpace cs :=
  List.dropWhile_idempotent _ _

/-! ## Texts -/

theorem readString_plain {c : Char} {acc : List Char} (quote : c ≠ '"') (escape : c ≠ '\\')
    (visible : 0x20 ≤ c.toNat) : readString none acc (c :: rest) = readString none (c :: acc) rest := by
  have low : ¬ c.toNat < 0x20 := Nat.not_lt.2 visible
  rw [readString.eq_def]
  split
  · next same => cases same
  · next same => cases same; exact absurd rfl escape
  · next same => cases same; exact absurd rfl escape
  · next same =>
    cases same
    simp [quote, escape, low]

theorem readString_letter {c e : Char} {acc : List Char} (stands : unescape? c = some e) :
    readString none acc ('\\' :: c :: rest) = readString none (e :: acc) rest := by
  rw [readString.eq_def]
  split
  · next same => cases same
  · next same => cases same; cases stands
  · next same => cases same; simp only [stands]
  · next other same => cases same; exact (other _ _ rfl rfl).elim

/-- **What is spelled between quotes is read.** -/
theorem readString_spells (spells : Spells cs s) (acc rest : List Char) :
    readString none acc (cs ++ '"' :: rest) = some (String.ofList (acc.reverse ++ s), rest) := by
  induction spells generalizing acc with
  | nil => simp [readString]
  | plain quote escape visible next ih =>
    rw [List.cons_append, readString_plain quote escape visible, ih]
    simp
  | letter stands next ih =>
    rw [List.cons_append, List.cons_append, readString_letter stands, ih]
    simp
  | code hex high low next ih => simp [readString, hex, high, low, ih]
  | codes hex high hex' low next ih => simp [readString, hex, high, hex', low, ih]

/-- What may be read where the first half of a code waits. -/
def Awaited : Option Nat → List Char → List Char → Prop
  | none, cs, s => Spells cs s
  | some n, cs, s => ∃ a b c d m after t, cs = '\\' :: 'u' :: a :: b :: c :: d :: after ∧ hex4? a b c d = some m ∧
      isLowSurrogate m ∧ Spells after t ∧ s = surrogatePair n m :: t

/-- What is read between quotes is spelled so. -/
theorem exists_spells {high : Option Nat} {acc : List Char} {text : String}
    (read : readString high acc cs = some (text, rest)) :
    ∃ body s, cs = body ++ '"' :: rest ∧ Awaited high body s ∧ text = String.ofList (acc.reverse ++ s) := by
  fun_induction readString high acc cs with
  | case1 | case2 | case4 | case6 | case9 | case10 | case12 => cases read
  | case3 acc a b c d behind m n hex low ih =>
    obtain ⟨body, s, rfl, spells, rfl⟩ := ih read
    exact ⟨_, _, rfl, ⟨a, b, c, d, m, body, s, rfl, hex, low, spells, rfl⟩, by simp⟩
  | case5 acc a b c d behind n hex high ih =>
    -- the first half of a code: what follows is read while it waits for the second
    obtain ⟨body, s, rfl, ⟨a', b', c', d', m, after, t, rfl, hex', low, spells, rfl⟩, rfl⟩ := ih read
    exact ⟨_, _, rfl, .codes hex high hex' low spells, rfl⟩
  | case7 acc a b c d behind n hex high low ih =>
    obtain ⟨body, s, rfl, spells, rfl⟩ := ih read
    exact ⟨_, _, rfl, .code hex (by simpa using high) (by simpa using low) spells, by simp⟩
  | case8 acc c behind other e stands ih =>
    obtain ⟨body, s, rfl, spells, rfl⟩ := ih read
    exact ⟨_, _, rfl, .letter stands spells, by simp⟩
  | case11 high acc behind alone =>
    rw [Option.not_isSome_iff_eq_none] at alone
    subst alone
    cases read
    exact ⟨[], [], rfl, .nil, by simp⟩
  | case13 high acc c behind _ _ alone quote visible ih =>
    rw [Option.not_isSome_iff_eq_none] at alone
    subst alone
    simp only [Bool.or_eq_true, decide_eq_true_eq, not_or, not_lt] at visible
    obtain ⟨body, s, rfl, spells, rfl⟩ := ih read
    exact ⟨_, _, rfl, .plain quote visible.1 visible.2 spells, by simp⟩

theorem spells_of_readString {text : String} (read : readString none [] cs = some (text, rest)) :
    ∃ body, cs = body ++ '"' :: rest ∧ Spells body text.toList := by
  obtain ⟨body, s, whole, spells, rfl⟩ := exists_spells read
  exact ⟨body, whole, by rwa [List.reverse_nil, List.nil_append, String.toList_ofList]⟩

/-! ## Reading what is written -/

/-- What stands behind a value that has no more space behind it. -/
def Closes (rest : List Char) : Prop := ∀ c ∈ rest.head?, isSpace c = false ∧ continues c = false

theorem Closes.skipSpace (closes : Closes rest) : skipSpace rest = rest := by
  cases rest with
  | nil => rfl
  | cons c rest => exact List.dropWhile_cons_of_neg (by simp [closes c rfl])

theorem closes_cons {c : Char} (closed : isSpace c = false ∧ continues c = false) (rest : List Char) :
    Closes (c :: rest) := fun _ mem => Option.some.inj mem ▸ closed

theorem Closes.ends (closes : Closes rest) (space : Space lead) : Ends (lead ++ rest) := by
  cases lead with
  | nil => exact fun c mem => (closes c mem).2
  | cons c lead =>
    rintro _ ⟨⟩
    obtain rfl | rfl | rfl | rfl := eq_of_isSpace (space c List.mem_cons_self) <;> rfl

section

variable {fuel depth : Nat} {v : Value} {part : Part}

theorem readValue_skipSpace (fuel depth : Nat) (cs : List Char) :
    readValue fuel depth (skipSpace cs) = readValue fuel depth cs := by
  cases fuel with
  | zero => rfl
  | succ fuel => rw [readValue, readValue, skipSpace_skipSpace]

theorem readValue_append (space : Space lead) (cs : List Char) :
    readValue fuel depth (lead ++ cs) = readValue fuel depth cs := by
  rw [← readValue_skipSpace, skipSpace_append space, readValue_skipSpace]

theorem readItems_skipSpace (fuel depth : Nat) (cs : List Char) (acc : List Value) :
    readItems fuel depth (skipSpace cs) acc = readItems fuel depth cs acc := by
  cases fuel with
  | zero => rfl
  | succ fuel => rw [readItems, readItems, readValue_skipSpace]

theorem readMembers_skipSpace (fuel depth : Nat) (cs : List Char) (acc : List (String × Value)) :
    readMembers fuel depth (skipSpace cs) acc = readMembers fuel depth cs acc := by
  cases fuel with
  | zero => rfl
  | succ fuel => rw [readMembers, readMembers, skipSpace_skipSpace]

/-- Which characters a value may start with. -/
def starts (c : Char) : Bool :=
  c = '"' || c = '[' || c = '\x7b' || c = 't' || c = 'f' || c = 'n' || c = '-' || Decimal.isDigit c

theorem not_isSpace_of_first {c : Char} (first : c = '-' ∨ Decimal.isDigit c) : ¬ isSpace c := fun blank => by
  obtain rfl | rfl | rfl | rfl := eq_of_isSpace blank <;> exact absurd first (by decide)

theorem readValue_first {c : Char} (first : c = '-' ∨ Decimal.isDigit c) (cs : List Char) :
    readValue (fuel + 1) depth (c :: cs) = (readNumber (c :: cs)).map fun (n, rest) => (.number n, rest) := by
  rw [readValue, skipSpace, List.dropWhile_cons_of_neg (not_isSpace_of_first first)]
  split
  · next same => cases same
  · next same => cases same; exact absurd first (by decide)
  · next same => cases same; exact absurd first (by decide)
  · next same => cases same; exact absurd first (by decide)
  · next same => cases same; exact absurd first (by decide)
  · next same => cases same; exact absurd first (by decide)
  · next same => cases same; exact absurd first (by decide)
  · next same => cases same; rfl

/-- What is written starts with a character that a value or a name may start with. -/
theorem Writes.exists_first (writes : Writes part cs) (rest : List Char) :
    ∃ c tail, skipSpace (cs ++ rest) = c :: tail ∧ starts c := by
  induction writes generalizing rest with
  | null | isTrue | isFalse | text | emptyList | list | emptyObject | object => exact ⟨_, _, rfl, by decide⟩
  | @number m n amount =>
    obtain ⟨c, cs, chars, first⟩ := m.exists_first
    refine ⟨c, cs ++ rest, ?_, by rcases first with rfl | digit <;> simp [starts, *]⟩
    rw [chars, List.cons_append, skipSpace, List.dropWhile_cons_of_neg (not_isSpace_of_first first)]
  | padded before core after ih =>
    rw [List.append_assoc, skipSpace_append before, List.append_assoc]
    exact ih _
  | lastItem item ih | lastMember member ih => exact ih rest
  | item item others ih _ | members member others ih _ =>
    rw [List.append_assoc]
    exact ih _
  | member before spells between value ih =>
    rw [List.append_assoc, skipSpace_append before]
    exact ⟨_, _, rfl, by decide⟩

/-- How a part is read where it is written as `cs`: nothing is read where it nests too deep. -/
def Part.ReadFrom (cs : List Char) : Part → Prop
  | .value v => ∀ fuel depth rest, 2 * cs.length ≤ fuel → Ends rest →
    readValue fuel depth (cs ++ rest) = if v.depth ≤ depth then some (v, rest) else none
  | .padded v => ∀ fuel depth rest, 2 * cs.length ≤ fuel → Closes rest →
    (readValue fuel depth (cs ++ rest)).map (fun (v, rest) => (v, skipSpace rest)) =
      if v.depth ≤ depth then some (v, rest) else none
  | .items vs => ∀ fuel depth rest acc, 2 * cs.length < fuel →
    readItems fuel depth (cs ++ ']' :: rest) acc =
      if Value.depthItems vs ≤ depth then some (acc.reverse ++ vs, rest) else none
  | .member k v => ∀ fuel depth rest acc, 2 * cs.length ≤ fuel → Closes rest →
    readMembers (fuel + 1) depth (cs ++ rest) acc =
      if v.depth ≤ depth then
        match rest with
        | ',' :: rest => readMembers fuel depth rest ((k, v) :: acc)
        | '\x7d' :: rest => some (((k, v) :: acc).reverse, rest)
        | _ => none
      else none
  | .members ms => ∀ fuel depth rest acc, 2 * cs.length < fuel →
    readMembers fuel depth (cs ++ '\x7d' :: rest) acc =
      if Value.depthMembers ms ≤ depth then some (acc.reverse ++ ms, rest) else none

/-! ### Values -/

theorem readValue_text {text : String} (spells : Spells cs text.toList) (rest : List Char) :
    readValue (fuel + 1) depth ('"' :: (cs ++ '"' :: rest)) = some (.text text, rest) := by
  have opens : skipSpace ('"' :: (cs ++ '"' :: rest)) = '"' :: (cs ++ '"' :: rest) := rfl
  have read := readString_spells spells [] rest
  rw [readValue, opens]
  simp only [read, List.reverse_nil, List.nil_append, String.ofList_toList]
  rfl

theorem readValue_emptyList {gap : List Char} (space : Space gap) (rest : List Char) :
    readValue (fuel + 1) depth ('[' :: (gap ++ ']' :: rest)) =
      if (Value.list []).depth ≤ depth then some (.list [], rest) else none := by
  have opens : skipSpace ('[' :: (gap ++ ']' :: rest)) = '[' :: (gap ++ ']' :: rest) := rfl
  have closes : skipSpace (gap ++ ']' :: rest) = ']' :: rest := skipSpace_append space _
  rw [readValue, opens]
  cases depth with
  | zero => rfl
  | succ depth => simp [closes, Value.depth, Value.depthItems]

theorem readValue_emptyObject {gap : List Char} (space : Space gap) (rest : List Char) :
    readValue (fuel + 1) depth ('\x7b' :: (gap ++ '\x7d' :: rest)) =
      if (Value.object []).depth ≤ depth then some (.object [], rest) else none := by
  have opens : skipSpace ('\x7b' :: (gap ++ '\x7d' :: rest)) = '\x7b' :: (gap ++ '\x7d' :: rest) := rfl
  have closes : skipSpace (gap ++ '\x7d' :: rest) = '\x7d' :: rest := skipSpace_append space _
  rw [readValue, opens]
  cases depth with
  | zero => rfl
  | succ depth => simp [closes, Value.depth, Value.depthMembers]

/-- A list is read where its items are, with one level less. -/
theorem readValue_list {vs : List Value} (items : Part.ReadFrom cs (.items vs)) (writes : Writes (.items vs) cs)
    (enough : 2 * cs.length < fuel) (rest : List Char) : readValue (fuel + 1) depth ('[' :: (cs ++ ']' :: rest)) =
      if (Value.list vs).depth ≤ depth then some (.list vs, rest) else none := by
  have opens : skipSpace ('[' :: (cs ++ ']' :: rest)) = '[' :: (cs ++ ']' :: rest) := rfl
  obtain ⟨c, tail, first, start⟩ := writes.exists_first (']' :: rest)
  rw [readValue, opens]
  cases depth with
  | zero => rfl
  | succ depth =>
    have read := items fuel depth rest [] enough
    rw [← readItems_skipSpace, first] at read
    simp only [first, Value.depth, Nat.add_le_add_iff_right]
    split
    · next same => cases same
    · next same _ => cases same; cases start
    · next same _ =>
      cases same
      rw [read]
      split <;> rfl

theorem readValue_object {ms : List (String × Value)} (members : Part.ReadFrom cs (.members ms))
    (writes : Writes (.members ms) cs) (enough : 2 * cs.length < fuel) (rest : List Char) :
    readValue (fuel + 1) depth ('\x7b' :: (cs ++ '\x7d' :: rest)) =
      if (Value.object ms).depth ≤ depth then some (.object ms, rest) else none := by
  have opens : skipSpace ('\x7b' :: (cs ++ '\x7d' :: rest)) = '\x7b' :: (cs ++ '\x7d' :: rest) := rfl
  obtain ⟨c, tail, first, start⟩ := writes.exists_first ('\x7d' :: rest)
  rw [readValue, opens]
  cases depth with
  | zero => rfl
  | succ depth =>
    have read := members fuel depth rest [] enough
    rw [← readMembers_skipSpace, first] at read
    simp only [first, Value.depth, Nat.add_le_add_iff_right]
    split
    · next same => cases same
    · next same _ => cases same; cases start
    · next same _ =>
      cases same
      rw [read]
      split <;> rfl

/-! ### Items and members -/

/-- A value with space around it is read up to what closes it, unless it nests too deep. -/
theorem readValue_padded (value : Part.ReadFrom cs (.padded v)) (depth : Nat) (enough : 2 * cs.length ≤ fuel)
    (closes : Closes rest) :
    (v.depth ≤ depth ∧ ∃ after, readValue fuel depth (cs ++ rest) = some (v, after) ∧ skipSpace after = rest) ∨
      (¬ v.depth ≤ depth ∧ readValue fuel depth (cs ++ rest) = none) := by
  have read := value fuel depth rest enough closes
  split at read
  · next fits =>
    obtain ⟨⟨w, after⟩, first, same⟩ := Option.map_eq_some_iff.1 read
    cases same
    exact .inl ⟨fits, after, first, rfl⟩
  · next deep => exact .inr ⟨deep, Option.map_eq_none_iff.1 read⟩

theorem readItems_padded {acc : List Value} (item : Part.ReadFrom cs (.padded v)) (enough : 2 * cs.length ≤ fuel)
    (closes : Closes rest) : readItems (fuel + 1) depth (cs ++ rest) acc =
      if v.depth ≤ depth then
        match rest with
        | ',' :: rest => readItems fuel depth rest (v :: acc)
        | ']' :: rest => some ((v :: acc).reverse, rest)
        | _ => none
      else none := by
  rw [readItems]
  obtain ⟨fits, after, read, rfl⟩ | ⟨deep, read⟩ := readValue_padded item depth enough closes
  · rw [read]
    exact (if_pos fits).symm
  · rw [read, if_neg deep]

theorem readMembers_member {k : String} {gap ds : List Char} {acc : List (String × Value)} (before : Space lead)
    (spells : Spells cs k.toList) (between : Space gap) (value : Part.ReadFrom ds (.padded v))
    (enough : 2 * ds.length ≤ fuel) (closes : Closes rest) :
    readMembers (fuel + 1) depth (lead ++ '"' :: (cs ++ '"' :: (gap ++ ':' :: ds)) ++ rest) acc =
      if v.depth ≤ depth then
        match rest with
        | ',' :: rest => readMembers fuel depth rest ((k, v) :: acc)
        | '\x7d' :: rest => some (((k, v) :: acc).reverse, rest)
        | _ => none
      else none := by
  have start : skipSpace (lead ++ '"' :: (cs ++ '"' :: (gap ++ ':' :: ds)) ++ rest) =
      '"' :: (cs ++ '"' :: (gap ++ ':' :: (ds ++ rest))) := by
    rw [List.append_assoc, skipSpace_append before]
    simp [skipSpace, isSpace]
  have key := readString_spells spells [] (gap ++ ':' :: (ds ++ rest))
  have colon : skipSpace (gap ++ ':' :: (ds ++ rest)) = ':' :: (ds ++ rest) := skipSpace_append between _
  rw [readMembers, start]
  simp only [key, colon, List.reverse_nil, List.nil_append, String.ofList_toList]
  obtain ⟨fits, after, read, rfl⟩ | ⟨deep, read⟩ := readValue_padded value depth enough closes
  · rw [read]
    exact (if_pos fits).symm
  · rw [read, if_neg deep]

/-- A character that is read is fuel for two calls. -/
theorem exists_fuel {c : Char} (enough : 2 * (c :: cs).length ≤ fuel) :
    ∃ less, fuel = less + 1 ∧ 2 * cs.length < less := by
  rw [List.length_cons] at enough
  exact ⟨fuel - 1, by omega, by omega⟩

/-- A value between two marks is read as what stands behind the first of them says. -/
theorem Part.ReadFrom.between {o c : Char} (read : ∀ fuel depth rest, 2 * cs.length < fuel →
      readValue (fuel + 1) depth (o :: (cs ++ c :: rest)) = if v.depth ≤ depth then some (v, rest) else none) :
    Part.ReadFrom (o :: (cs ++ [c])) (.value v) := by
  intro fuel depth rest enough _
  obtain ⟨fuel, rfl, less⟩ := exists_fuel enough
  rw [List.length_append] at less
  rw [List.cons_append, List.append_assoc]
  exact read fuel depth rest (by omega)

/-- **What is written is read, unless it nests too deep.** -/
theorem Writes.reads (writes : Writes part cs) : part.ReadFrom cs := by
  induction writes with
  | null | isTrue | isFalse =>
    intro fuel depth rest enough _
    obtain ⟨fuel, rfl, -⟩ := exists_fuel enough
    rfl
  | @number m n amount =>
    intro fuel depth rest enough ends
    obtain ⟨c, tail, chars, first⟩ := m.exists_first
    have read := m.readNumber_chars ends
    rw [amount, chars] at read
    rw [chars] at enough ⊢
    obtain ⟨fuel, rfl, -⟩ := exists_fuel enough
    rw [List.cons_append, readValue_first first, ← List.cons_append, read]
    rfl
  | text spells => exact .between fun _ _ rest _ => readValue_text spells rest
  | emptyList space => exact .between fun _ _ rest _ => readValue_emptyList space rest
  | emptyObject space => exact .between fun _ _ rest _ => readValue_emptyObject space rest
  | list items ih => exact .between fun _ _ rest enough => readValue_list ih items enough rest
  | object members ih => exact .between fun _ _ rest enough => readValue_object ih members enough rest
  | padded before core after ih =>
    intro fuel depth rest enough closes
    simp only [List.length_append] at enough
    -- the space behind a value also ends a number
    rw [List.append_assoc, List.append_assoc, readValue_append before, ih fuel depth _ (by omega) (closes.ends after)]
    split
    · simp only [Option.map_some, skipSpace_append after, closes.skipSpace]
    · rfl
  | lastItem item ih =>
    intro fuel depth rest acc enough
    obtain ⟨fuel, rfl⟩ := Nat.exists_eq_add_of_le' (Nat.one_le_of_lt enough)
    rw [readItems_padded ih (Nat.le_of_lt_succ enough) (closes_cons (by decide) rest), Value.depthItems,
      Value.depthItems, Nat.max_zero]
    simp only [List.reverse_cons]
  | @item v vs cs ds item others ih ih' =>
    intro fuel depth rest acc enough
    simp only [List.length_append, List.length_cons] at enough
    obtain ⟨fuel, rfl⟩ := Nat.exists_eq_add_of_le' (Nat.one_le_of_lt enough)
    rw [List.append_assoc, List.cons_append, readItems_padded ih (by omega) (closes_cons (by decide) _),
      Value.depthItems]
    simp only [ih' fuel depth rest (v :: acc) (by omega), Nat.max_le, ite_and, List.reverse_cons,
      List.append_assoc, List.singleton_append]
  | member before spells between value ih =>
    intro fuel depth rest acc enough closes
    simp only [List.length_append, List.length_cons] at enough
    exact readMembers_member before spells between ih (by omega) closes
  | lastMember member ih =>
    intro fuel depth rest acc enough
    obtain ⟨fuel, rfl⟩ := Nat.exists_eq_add_of_le' (Nat.one_le_of_lt enough)
    rw [ih fuel depth _ acc (Nat.le_of_lt_succ enough) (closes_cons (by decide) rest), Value.depthMembers,
      Value.depthMembers, Nat.max_zero]
    simp only [List.reverse_cons]
  | @members k v ms cs ds member others ih ih' =>
    intro fuel depth rest acc enough
    simp only [List.length_append, List.length_cons] at enough
    obtain ⟨fuel, rfl⟩ := Nat.exists_eq_add_of_le' (Nat.one_le_of_lt enough)
    rw [List.append_assoc, List.cons_append, ih fuel depth _ acc (by omega) (closes_cons (by decide) _),
      Value.depthMembers]
    simp only [ih' fuel depth rest ((k, v) :: acc) (by omega), Nat.max_le, ite_and, List.reverse_cons,
      List.append_assoc, List.singleton_append]

end

/-! ## What is read is written -/

/-- A value that is read is written behind space. -/
def ValuesWritten (fuel : Nat) : Prop := ∀ depth cs v rest, readValue fuel depth cs = some (v, rest) →
  ∃ lead core, Space lead ∧ Writes (.value v) core ∧ cs = lead ++ (core ++ rest)

/-- Items that are read are written before a closing bracket. -/
def ItemsWritten (fuel : Nat) : Prop := ∀ depth cs acc vs rest, readItems fuel depth cs acc = some (vs, rest) →
  ∃ more core, vs = acc.reverse ++ more ∧ Writes (.items more) core ∧ cs = core ++ ']' :: rest

/-- Members that are read are written before a closing brace. -/
def MembersWritten (fuel : Nat) : Prop := ∀ depth cs acc ms rest,
  readMembers fuel depth cs acc = some (ms, rest) →
    ∃ more core, ms = acc.reverse ++ more ∧ Writes (.members more) core ∧ cs = core ++ '\x7d' :: rest

section

variable {fuel depth : Nat} {w : List Char}

theorem eq_append_of_dropWord? (read : dropWord? w cs = some rest) : cs = w ++ rest := by
  fun_induction dropWord? w cs with
  | case1 => exact Option.some.inj read
  | case2 => cases read
  | case3 ws c cs ih => rw [ih read, List.cons_append]
  | case4 => cases read

/-- A word that is read stands whole behind its first character. -/
theorem exists_core_of_word {u v : Value} {c : Char} (word : Writes (.value v) (c :: w))
    (read : (dropWord? w cs).map (v, ·) = some (u, rest)) :
    ∃ core, Writes (.value u) core ∧ c :: cs = core ++ rest := by
  obtain ⟨after, whole, same⟩ := Option.map_eq_some_iff.1 read
  cases same
  exact ⟨_, word, congrArg _ (eq_append_of_dropWord? whole)⟩

theorem exists_core_of_text {s : String} (read : readString none [] cs = some (s, rest)) :
    ∃ core, Writes (.value (.text s)) core ∧ '"' :: cs = core ++ rest := by
  obtain ⟨body, rfl, spells⟩ := spells_of_readString read
  exact ⟨_, .text spells, by simp⟩

theorem exists_core_of_emptyList (close : skipSpace cs = ']' :: rest) :
    ∃ core, Writes (.value (.list [])) core ∧ '[' :: cs = core ++ rest := by
  obtain ⟨gap, blank, inside⟩ := exists_space cs
  rw [close] at inside
  exact ⟨_, .emptyList blank, by simp [inside]⟩

theorem exists_core_of_emptyObject (close : skipSpace cs = '\x7d' :: rest) :
    ∃ core, Writes (.value (.object [])) core ∧ '\x7b' :: cs = core ++ rest := by
  obtain ⟨gap, blank, inside⟩ := exists_space cs
  rw [close] at inside
  exact ⟨_, .emptyObject blank, by simp [inside]⟩

theorem ItemsWritten.exists_core {vs : List Value} (items : ItemsWritten fuel)
    (read : readItems fuel depth (skipSpace cs) [] = some (vs, rest)) :
    ∃ core, Writes (.value (.list vs)) core ∧ '[' :: cs = core ++ rest := by
  -- the space in front of the first item is skipped twice, and belongs to the item
  rw [readItems_skipSpace] at read
  obtain ⟨more, core, rfl, writes, rfl⟩ := items _ _ _ _ _ read
  exact ⟨_, .list writes, by simp⟩

theorem MembersWritten.exists_core {ms : List (String × Value)} (members : MembersWritten fuel)
    (read : readMembers fuel depth (skipSpace cs) [] = some (ms, rest)) :
    ∃ core, Writes (.value (.object ms)) core ∧ '\x7b' :: cs = core ++ rest := by
  rw [readMembers_skipSpace] at read
  obtain ⟨more, core, rfl, writes, rfl⟩ := members _ _ _ _ _ read
  exact ⟨_, .object writes, by simp⟩

/-- A value that is read is written, the first character of it in its place. -/
theorem exists_core_of_readValue (items : ItemsWritten fuel) (members : MembersWritten fuel) {v : Value}
    (read : readValue (fuel + 1) depth cs = some (v, rest)) :
    ∃ core, Writes (.value v) core ∧ skipSpace cs = core ++ rest := by
  rw [readValue] at read
  generalize skipSpace cs = first at read
  split at read
  · cases read
  · obtain ⟨⟨s, after⟩, readS, same⟩ := Option.map_eq_some_iff.1 read
    cases same
    exact exists_core_of_text readS
  · split at read
    · cases read
    · next close =>
      cases read
      exact exists_core_of_emptyList close
    · obtain ⟨⟨vs, after⟩, readI, same⟩ := Option.map_eq_some_iff.1 read
      cases same
      exact items.exists_core readI
  · split at read
    · cases read
    · next close =>
      cases read
      exact exists_core_of_emptyObject close
    · obtain ⟨⟨ms, after⟩, readM, same⟩ := Option.map_eq_some_iff.1 read
      cases same
      exact members.exists_core readM
  · exact exists_core_of_word .isTrue read
  · exact exists_core_of_word .isFalse read
  · exact exists_core_of_word .null read
  · obtain ⟨⟨n, after⟩, readN, same⟩ := Option.map_eq_some_iff.1 read
    cases same
    obtain ⟨m, whole, amount⟩ := exists_numeral readN
    exact ⟨_, .number amount, whole⟩

theorem valuesWritten_succ (items : ItemsWritten fuel) (members : MembersWritten fuel) :
    ValuesWritten (fuel + 1) := by
  intro depth cs v rest read
  obtain ⟨lead, space, whole⟩ := exists_space cs
  obtain ⟨core, writes, first⟩ := exists_core_of_readValue items members read
  exact ⟨lead, core, space, writes, first ▸ whole⟩

/-- A value that is read is written between space, up to what closes it. -/
theorem exists_padded {v : Value} (values : ValuesWritten fuel) (read : readValue fuel depth cs = some (v, rest)) :
    ∃ core, Writes (.padded v) core ∧ cs = core ++ skipSpace rest := by
  obtain ⟨lead, core, before, writes, rfl⟩ := values _ _ _ _ read
  obtain ⟨trail, after, whole⟩ := exists_space rest
  refine ⟨_, .padded before writes after, ?_⟩
  conv_lhs => rw [whole]
  simp only [List.append_assoc]

theorem itemsWritten_succ (values : ValuesWritten fuel) (items : ItemsWritten fuel) : ItemsWritten (fuel + 1) := by
  intro depth cs acc vs rest read
  rw [readItems] at read
  split at read
  · cases read
  · next v after first =>
    obtain ⟨core, writes, rfl⟩ := exists_padded values first
    split at read
    · next comma =>
      obtain ⟨more, others, rfl, written, rfl⟩ := items _ _ _ _ _ read
      exact ⟨v :: more, _, by simp, .item writes written, by simp [comma]⟩
    · next close =>
      cases read
      exact ⟨[v], _, by simp, .lastItem writes, by rw [close]⟩
    · cases read

theorem membersWritten_succ (values : ValuesWritten fuel) (members : MembersWritten fuel) :
    MembersWritten (fuel + 1) := by
  intro depth cs acc ms rest read
  obtain ⟨lead, before, whole⟩ := exists_space cs
  rw [readMembers] at read
  split at read
  · next behind first =>
    rw [first] at whole
    split at read
    · cases read
    · next k after key =>
      obtain ⟨body, rfl, spells⟩ := spells_of_readString key
      obtain ⟨gap, between, inside⟩ := exists_space after
      -- then a colon, a value and a comma or a brace, each behind space
      split at read
      · next value colon =>
        rw [colon] at inside
        split at read
        · cases read
        · next v last readV =>
          obtain ⟨core, writes, rfl⟩ := exists_padded values readV
          have member := Writes.member before spells between writes
          split at read
          · next comma =>
            obtain ⟨more, others, rfl, written, rfl⟩ := members _ _ _ _ _ read
            exact ⟨(k, v) :: more, _, by simp, .members member written, by simp [whole, inside, comma]⟩
          · next close =>
            cases read
            exact ⟨[(k, v)], _, by simp, .lastMember member, by simp [whole, inside, close]⟩
          · cases read
      · cases read
  · cases read

theorem parts_written (fuel : Nat) : ValuesWritten fuel ∧ ItemsWritten fuel ∧ MembersWritten fuel := by
  induction fuel with
  | zero =>
    refine ⟨?_, ?_, ?_⟩
    · intro depth cs v rest read
      cases read
    · intro depth cs acc vs rest read
      cases read
    · intro depth cs acc ms rest read
      cases read
  | succ fuel ih =>
    obtain ⟨values, items, members⟩ := ih
    exact ⟨valuesWritten_succ items members, itemsWritten_succ values items, membersWritten_succ values members⟩

end

/-! ## Documents -/

variable {v : Value} {text : String}

/-- A written form of a value is read as the value, unless it nests too deep. -/
theorem Written.read? (written : Written v text) :
    read? text = if v.depth ≤ maxDepth then some v else none := by
  have reads := readValue_padded (Writes.reads written) maxDepth (by omega : _ ≤ 2 * text.toList.length + 2)
    (nofun : Closes [])
  rw [List.append_nil] at reads
  unfold Json.read?
  dsimp only
  obtain ⟨fits, after, read, closed⟩ | ⟨deep, read⟩ := reads
  · rw [read, if_pos fits]
    simp only [closed, List.isEmpty_nil, if_true]
  · rw [read, if_neg deep]

theorem written_of_read? (read : read? text = some v) : Written v text := by
  unfold Json.read? at read
  dsimp only at read
  split at read
  · next w rest first =>
    split at read
    · next closed =>
      cases read
      obtain ⟨core, writes, whole⟩ := exists_padded (parts_written _).1 first
      rw [List.isEmpty_iff.1 closed, List.append_nil] at whole
      rwa [Written, whole]
    · cases read
  · cases read

/-- **A text is read as a value just where it is a written form of the value that does not nest too deep.** -/
theorem read?_eq_some_iff : read? text = some v ↔ Written v text ∧ v.depth ≤ maxDepth := by
  constructor
  · intro read
    have written := written_of_read? read
    refine ⟨written, ?_⟩
    by_contra deep
    rw [written.read?, if_neg deep] at read
    cases read
  · rintro ⟨written, fits⟩
    rw [written.read?, if_pos fits]

end Json

end Workflows
