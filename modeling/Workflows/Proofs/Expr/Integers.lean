import Workflows.Expr.Rule
import Workflows.Proofs.Decimal.Whole

/-!
# Comparisons of whole numbers

Whole numbers are compared as doubles, so as what they are rounded to.

* `Expr.StandsFor`: operands that stand for a whole number, a path to one or a literal that writes one;
* `Token.number?_of_readInt?`: a literal that writes a whole number has its double;
* `CompareOp.verdict?`: what a comparison makes of the order of its operands;
* **`Expr.compare_integers`**: what comparisons of whole numbers come to, and when it is right.
-/

namespace Workflows

variable {a b : ℤ} {x y : Float}

/-! ## The order of doubles -/

theorem floatOrder?_eq (finite : x.isFinite) (finite' : y.isFinite) :
    floatOrder? x y = some (compare (amountOf x) (amountOf y)) := by
  unfold floatOrder?
  simp only [lt_iff_amountOf finite finite', beq_iff_amountOf finite finite', lt_iff_amountOf finite' finite]
  rcases lt_trichotomy (amountOf x) (amountOf y) with less | same | more
  · rw [if_pos less, compare_lt_iff_lt.2 less]
  · rw [if_neg same.not_lt, if_pos same, compare_eq_iff_eq.2 same]
  · rw [if_neg more.not_gt, if_neg more.ne', if_pos more, compare_gt_iff_gt.2 more]

theorem compare_intCast (a b : ℤ) : compare (a : ℚ) b = compare a b := by
  rw [← cmp_eq_compare, ← cmp_eq_compare, Int.cast_strictMono.cmp_map_eq]

/-- Rounding keeps the order of two whole numbers, unless it makes them the same. -/
theorem compare_roundInt (apart : roundInt a = roundInt b → a = b) :
    compare (roundInt a) (roundInt b) = compare a b := by
  rcases lt_trichotomy a b with less | rfl | more
  · rw [compare_lt_iff_lt.2 less, compare_lt_iff_lt.2 (lt_of_le_of_ne (roundInt_mono less.le) (mt apart less.ne))]
  · rw [compare_eq_iff_eq.2 rfl, compare_eq_iff_eq.2 rfl]
  · rw [compare_gt_iff_gt.2 more, compare_gt_iff_gt.2
      (lt_of_le_of_ne (roundInt_mono more.le) fun same => more.ne' (apart same.symm))]

/-! ## Literals -/

/-- The range of whole numbers. -/
def InRange (a : ℤ) : Prop := Number.minInt ≤ a ∧ a ≤ Number.maxInt

theorem InRange.natAbs_lt (range : InRange a) : a.natAbs < 2 ^ 64 := by
  obtain ⟨least, most⟩ := range
  unfold Number.minInt at least
  unfold Number.maxInt at most
  omega

theorem log2_lt_of_lt {n : ℕ} (few : n < 2 ^ 64) : n.log2 < 65 := by
  rcases Nat.eq_zero_or_pos n with rfl | pos
  · decide
  · exact ((Nat.log2_lt pos.ne').2 few).trans (by decide)

theorem InRange.few (range : InRange a) : a.natAbs.log2 < 1023 := (log2_lt_of_lt range.natAbs_lt).trans (by decide)

/-- What is read as a positive whole number is read as its double too. -/
theorem Decimal.read?_of_readInt? {cs : List Char} (read : readInt? cs = some a) (positive : 0 < a)
    (few : a.natAbs < 2 ^ 64) : read? cs = some (Float.ofInt a) := by
  unfold readInt? at read
  unfold read?
  generalize splitSign cs = signed at read ⊢
  obtain ⟨negative, rest⟩ := signed
  dsimp only at read ⊢
  cases digits : readNat? rest with
  | none =>
    rw [digits] at read
    cases read
  | some n =>
  rw [digits] at read
  cases negative with
  | true =>
    have negated : -(n : ℤ) = a := Option.some.inj read
    omega
  | false =>
    obtain rfl : (n : ℤ) = a := Option.some.inj read
    rw [Int.natAbs_natCast] at few
    unfold readNat? at digits
    split at digits
    · cases digits
    · next digital =>
      cases digits
      rw [Bool.or_eq_true, not_or, Bool.not_eq_true, Bool.not_eq_true', Bool.not_eq_false] at digital
      obtain ⟨some, all⟩ := digital
      have split : splitDigits (rest ++ []) = (rest, []) := splitDigits_digits (List.all_eq_true.1 all) (by simp)
      rw [List.append_nil] at split
      have length := length_toDigits_le (natOfDigits rest)
      have bits := log2_lt_of_lt few
      simp only [split, some, Bool.false_and, Bool.false_eq_true, if_false, readExponent?, Option.map_some,
        List.append_nil, List.length_nil]
      exact congrArg Option.some (nearest_zero (by omega))

/-- A literal that writes a whole number has its double. -/
theorem Token.number?_of_readInt? {t : Token} (written : Decimal.readInt? t.text.toList = some a) (range : InRange a) :
    ∃ n : Number, t.number? = .ok (.number n) ∧ n.toFloat = Float.ofInt a := by
  unfold Token.number?
  dsimp only
  rw [written]
  dsimp only
  by_cases word : inWord a
  · exact ⟨.int a, if_pos word, rfl⟩
  · have large : 0 < a := by
      have least := range.1
      unfold Number.minInt at least
      rw [inWord, decide_eq_true_eq] at word
      omega
    have finite : (Float.ofInt a).isFinite := (amountOf_ofInt range.few).1
    refine ⟨.real ⟨Float.ofInt a, finite⟩, ?_, rfl⟩
    rw [if_neg word, Token.number?.real, Decimal.read?_of_readInt? written large range.natAbs_lt, Option.bind_some,
      Real64.ofFloat?, dif_pos finite]

/-! ## Operands -/

/-- The operand stands for a whole number: it is a path to one, or a literal that writes one. -/
inductive Expr.StandsFor (entity : Object) : Expr → ℤ → Prop
  | path {p : String} {a : ℤ} (read : lookup? entity p = some (.int a)) : StandsFor entity (.path p) a
  | literal {t : Token} {v : Value} {a : ℤ} (written : Decimal.readInt? t.text.toList = some a)
      (number : t.number? = .ok v) : StandsFor entity (.literal v) a

/-- What a comparison makes of the order of its operands. -/
def CompareOp.verdict? : CompareOp → Option (Ordering → Bool)
  | .eq => some (· == .eq)
  | .ne => some (· != .eq)
  | .lt => some (· == .lt)
  | .le => some (· != .gt)
  | .gt => some (· == .gt)
  | .ge => some (· != .lt)
  | .contains | .isIn | .notIn => none

namespace Expr

variable {entity : Object} {l r : Expr}

/-- An operand that stands for a whole number has the amount that it is rounded to. -/
theorem StandsFor.eval (stands : StandsFor entity l a) (range : InRange a) :
    ∃ n : Number, l.eval entity = .ok (.number n) ∧ n.toFloat = Float.ofInt a := by
  cases stands with
  | path read => exact ⟨.int a, by rw [Expr.eval, read]; rfl, rfl⟩
  | literal written number =>
    obtain ⟨n, number', amount⟩ := Token.number?_of_readInt? written range
    rw [number] at number'
    cases number'
    exact ⟨n, rfl, amount⟩

end Expr

/-! ## Comparisons -/

section

variable {m n : Number} (left : m.toFloat = Float.ofInt a) (right : n.toFloat = Float.ofInt b) (range : InRange a)
  (range' : InRange b)

include left right range range'

theorem equal_integers : (Value.number m).equal (.number n) = decide (roundInt a = roundInt b) := by
  obtain ⟨finite, amount⟩ := amountOf_ofInt range.few
  obtain ⟨finite', amount'⟩ := amountOf_ofInt range'.few
  rw [Value.equal, left, right, Bool.eq_iff_iff, beq_iff_amountOf finite finite', amount, amount', Int.cast_inj,
    decide_eq_true_eq]

theorem order?_integers (op : CompareOp) :
    Value.order? op (.number m) (.number n) = .ok (some (compare (roundInt a) (roundInt b))) := by
  obtain ⟨finite, amount⟩ := amountOf_ofInt range.few
  obtain ⟨finite', amount'⟩ := amountOf_ofInt range'.few
  rw [Value.order?, left, right, floatOrder?_eq finite finite', amount, amount', compare_intCast]

/-- Numbers that stand for whole numbers are compared as what these are rounded to. -/
theorem CompareOp.apply_integers {op : CompareOp} {verdict : Ordering → Bool} (known : op.verdict? = some verdict) :
    op.apply (.number m) (.number n) = .ok (verdict (compare (roundInt a) (roundInt b))) := by
  have equal : (Value.number m).equal (.number n) = (compare (roundInt a) (roundInt b) == .eq) := by
    rw [equal_integers left right range range', Bool.eq_iff_iff, decide_eq_true_eq, beq_iff_eq, compare_eq_iff_eq]
  have order := order?_integers left right range range' op
  generalize compare (roundInt a) (roundInt b) = o at equal order ⊢
  cases op <;> cases known <;> rw [CompareOp.apply] <;> first | rw [equal] | rw [order]
  all_goals cases o <;> rfl

end

/-- A comparison of two values. -/
theorem Expr.test_compare {entity : Object} {op : CompareOp} {l r : Expr} {v w : Value}
    (left : l.eval entity = .ok v) (right : r.eval entity = .ok w) :
    (Expr.compare op l r).test entity = op.apply v w := by
  rw [Expr.test, Expr.eval, left, right]
  simp only [bind, Except.bind]
  cases op.apply v w <;> rfl

/-- The value of a list of one item. -/
theorem Expr.eval_singleton {entity : Object} {r : Expr} {w : Value} (right : r.eval entity = .ok w) :
    (Expr.list [r]).eval entity = .ok (.list [w]) := by
  rw [Expr.eval, Expr.evalItems, right]
  rfl

/-- A list of one whole number holds another if it is equal to it. -/
theorem CompareOp.apply_isIn (v w : Value) : CompareOp.isIn.apply v (.list [w]) = .ok (w.equal v) := by
  change membership .isIn v (.list [w]) = _
  cases v <;> exact congrArg Except.ok (Bool.or_false _)

variable {entity : Object} {l r : Expr}

/-- **What comparisons of whole numbers come to.** The operands are compared as what they are rounded to, and so is an
item of a list. All comparisons of two whole numbers are right just where rounding does not make them the same, and so
they are where both have at most 53 bits. -/
theorem compare_integers (left : l.StandsFor entity a) (right : r.StandsFor entity b) (range : InRange a)
    (range' : InRange b) :
    let result (op : CompareOp) := (Expr.compare op l r).test entity
    let held := (Expr.compare .isIn l (.list [r])).test entity
    (∀ op verdict, op.verdict? = some verdict → result op = .ok (verdict (compare (roundInt a) (roundInt b)))) ∧
    held = .ok (decide (roundInt a = roundInt b)) ∧
    ((∀ op verdict, op.verdict? = some verdict → result op = .ok (verdict (compare a b))) ∧
      held = .ok (decide (a = b)) ↔ (roundInt a = roundInt b → a = b)) ∧
    (a.natAbs ≤ 2 ^ 53 → b.natAbs ≤ 2 ^ 53 → roundInt a = roundInt b → a = b) := by
  intro result held
  obtain ⟨m, hm, amount⟩ := left.eval range
  obtain ⟨n, hn, amount'⟩ := right.eval range'
  have compared (op : CompareOp) (verdict : Ordering → Bool) (known : op.verdict? = some verdict) :
      result op = .ok (verdict (compare (roundInt a) (roundInt b))) := by
    rw [← CompareOp.apply_integers amount amount' range range' known]
    exact Expr.test_compare hm hn
  have found : held = .ok (decide (roundInt a = roundInt b)) := by
    have tested : held = .ok ((Value.number n).equal (.number m)) :=
      (Expr.test_compare hm (Expr.eval_singleton hn)).trans (CompareOp.apply_isIn _ _)
    rw [tested, equal_integers amount' amount range' range]
    exact congrArg Except.ok (decide_eq_decide.2 eq_comm)
  refine ⟨compared, found, ⟨?_, ?_⟩, fun few few' same => ?_⟩
  · rintro ⟨-, right⟩ same
    rw [found, Except.ok.injEq, decide_eq_decide] at right
    exact right.1 same
  · refine fun apart => ⟨fun op verdict known => ?_, ?_⟩
    · rw [compared op verdict known, compare_roundInt apart]
    · rw [found, Except.ok.injEq, decide_eq_decide]
      exact ⟨apart, congrArg roundInt⟩
  · rwa [roundInt_of_le few, roundInt_of_le few'] at same

/-- Two ids beyond 53 bits that are rounded apart are in order, since `id` is rounded up and the literal down. -/
theorem compare_integers_ids :
    let entity : Object := Dict.ofList [("id", .int 9007199254740995)]
    let l : Expr := .path "id"
    let r : Expr := .literal (.int 9007199254740993)
    l.StandsFor entity 9007199254740995 ∧ r.StandsFor entity 9007199254740993 ∧
      roundInt 9007199254740995 = 9007199254740996 ∧ roundInt 9007199254740993 = 9007199254740992 ∧
      (Expr.compare .gt l r).test entity = .ok true ∧ (Expr.compare .isIn l (.list [r])).test entity = .ok false := by
  intro entity l r
  have left : l.StandsFor entity 9007199254740995 := .path (by decide +kernel)
  have right : r.StandsFor entity 9007199254740993 :=
    .literal (t := ⟨.number, "9007199254740993", 1⟩) (by decide +kernel) (by cbv)
  have up : roundInt 9007199254740995 = 9007199254740996 := by decide +kernel
  have down : roundInt 9007199254740993 = 9007199254740992 := by decide +kernel
  obtain ⟨compared, held, -⟩ := compare_integers left right ⟨by decide, by decide⟩ ⟨by decide, by decide⟩
  rw [up, down] at compared held
  exact ⟨left, right, up, down, compared .gt _ rfl, held⟩

/-- Two whole numbers that are equal as operands, since they are rounded to the same, and not as items of lists. -/
theorem compare_integers_merged :
    let l : Expr := .literal (.int 9007199254740993)
    let r : Expr := .literal (.int 9007199254740992)
    l.StandsFor {} 9007199254740993 ∧ r.StandsFor {} 9007199254740992 ∧
      (Expr.compare .eq l r).test {} = .ok true ∧ (Expr.compare .eq (.list [l]) (.list [r])).test {} = .ok false := by
  intro l r
  have merged : (Value.int 9007199254740993).equal (.int 9007199254740992) = true := by decide +kernel
  have apart : (Value.list [.int 9007199254740993]).equal (.list [.int 9007199254740992]) = false := by
    decide +kernel
  exact ⟨.literal (t := ⟨.number, "9007199254740993", 1⟩) (by decide +kernel) (by cbv),
    .literal (t := ⟨.number, "9007199254740992", 1⟩) (by decide +kernel) (by cbv), congrArg Except.ok merged,
    congrArg Except.ok apart⟩

end Workflows
