import Workflows.Proofs.Expr.Written

/-!
# Written forms in the grammar

The tokens of the written form of an expression are that expression where no `NOT` and no comparison has to stand
as an operand, and as far as the levels of nesting suffice.

* `Expr.isOperand`, `Expr.plain`: all that stands as an operand in an expression can do so as it is written;
  `Expr.nesting`: how many levels its written form opens; `Expr.literals`: its literals;
* `Phrase.tokens`: the tokens of the written form of a phrase;
* **`Expr.derives_tokens`**: the tokens of plain expressions derive them.
-/

namespace Workflows

/-! ## Plain expressions -/

namespace Expr

/-- Whether the written form is an operand. -/
def isOperand : Expr → Bool
  | .not _ | .compare .. => false
  | _ => true

mutual

/-- Whether the written forms of all operands are operands. -/
def plain : Expr → Bool
  | .literal _ | .path _ => true
  | .list items => plainItems items
  | .not e => e.plain
  | .and l r | .or l r => l.plain && r.plain
  | .compare _ l r => l.isOperand && r.isOperand && l.plain && r.plain

/-- Whether the written forms of all items and of their operands are operands. -/
def plainItems : List Expr → Bool
  | [] => true
  | e :: rest => e.isOperand && e.plain && plainItems rest

end

mutual

/-- How many levels the written form opens: the parentheses around an `AND` or `OR` open one, and so does its
right side. -/
def nesting : Expr → Nat
  | .literal _ | .path _ => 0
  | .list items => itemsNesting items + 1
  | .not e => e.nesting + 1
  | .and l r | .or l r => max l.nesting (r.nesting + 1) + 1
  | .compare _ l r => max l.nesting r.nesting

/-- How many levels the written forms of the items of a list open. -/
def itemsNesting : List Expr → Nat
  | [] => 0
  | e :: rest => max e.nesting (itemsNesting rest)

end

mutual

/-- The literals of an expression. -/
def literals : Expr → List Value
  | .literal v => [v]
  | .path _ => []
  | .list items => itemLiterals items
  | .not e => e.literals
  | .and l r | .or l r | .compare _ l r => l.literals ++ r.literals

/-- The literals of the items of a list. -/
def itemLiterals : List Expr → List Value
  | [] => []
  | e :: rest => e.literals ++ itemLiterals rest

end

section

variable {k : Connective} {e l r : Expr}

theorem isOperand_join : (k.join l r).isOperand = true := by cases k <;> rfl

theorem plain_join : (k.join l r).plain = (l.plain && r.plain) := by
  cases k <;> simp only [Connective.join, plain]

theorem nesting_join : (k.join l r).nesting = max l.nesting (r.nesting + 1) + 1 := by
  cases k <;> simp only [Connective.join, nesting]

theorem literals_join : (k.join l r).literals = l.literals ++ r.literals := by
  cases k <;> simp only [Connective.join, literals]

end

/-- The phrase that the written form is. -/
def phrase : Expr → Phrase
  | .not _ => .unary
  | .compare .. => .comparison
  | _ => .operand

end Expr

section

variable {p : Phrase} {ts : List Token} {k : Connective} {e l r T : Expr} {n : Nat}

/-- The tokens that a phrase of an expression is written with. -/
def Phrase.tokens : Phrase → Expr → List Token
  | .items, .list es => Expr.itemTokens es
  | _, e => e.tokens

theorem Phrase.tokens_eq (apart : p ≠ .items) (e : Expr) : p.tokens e = e.tokens := by
  cases p with
  | items => exact absurd rfl apart
  | chain | unary | comparison | operand => rfl

theorem Connective.Operand.ne_items (operand : k.Operand p) : p ≠ .items := by
  cases operand <;> exact Phrase.noConfusion

theorem Connective.Operand.tokens (operand : k.Operand p) (e : Expr) : p.tokens e = e.tokens :=
  Phrase.tokens_eq operand.ne_items e

/-! ## The tokens of plain expressions -/

theorem Derives.unary (h : Derives e.phrase ts T n) : Derives .unary ts T n := by
  cases e with
  | not => exact h
  | compare => exact .bare h
  | literal | path | list | and | or => exact .bare (.alone h)

theorem Derives.join {us : List Token} (left : Derives .unary ts l (n + 1)) (right : Derives .unary us r n) :
    Derives .operand (.opening :: (ts ++ k.token :: us) ++ [.closing]) (k.join l r) (n + 2) := by
  have chain : ∃ m, Derives (.chain .or m) (ts ++ k.token :: us) (k.join l r) (n + 1) := by
    cases k with
    | and => exact ⟨0, .first (.or 1) (.further (o := Connective.and.token) .and (.first .and left) rfl right)⟩
    | or =>
      have single := Derives.first (.or 0) (.first .and left)
      exact ⟨1, .further (o := Connective.or.token) (.or 0) single rfl (.first .and right)⟩
  obtain ⟨m, chain⟩ := chain
  exact .group (o := .opening) (c := .closing) rfl chain rfl

theorem CompareOp.kinds_tokens (op : CompareOp) : op.tokens.map (·.kind) = op.kinds := by
  cases op <;> rfl

/-- What holds of the kinds of all operators' tokens holds of the tokens that one is written with. -/
theorem CompareOp.forall_kind {P : TokenKind → Prop} (all : ∀ op : CompareOp, ∀ kind ∈ op.kinds, P kind)
    {op : CompareOp} {os : List Token} (kinds : os.map (·.kind) = op.kinds) : ∀ t ∈ os, P t.kind :=
  fun _ mem => all op _ (kinds ▸ List.mem_map_of_mem mem)

namespace Expr

theorem phrase_eq_operand (operand : e.isOperand) : e.phrase = .operand := by
  cases e with
  | not | compare => cases operand
  | literal | path | list | and | or => rfl

/-- The tokens of an expression derive it, with as many levels as its written form opens. -/
def DerivesTokens (e : Expr) : Prop :=
  e.plain → (∀ v ∈ e.literals, v.token.Denotes v) → ∀ n, e.nesting ≤ n → Derives e.phrase e.tokens e n

theorem DerivesTokens.join (k : Connective) (left : l.DerivesTokens) (right : r.DerivesTokens) :
    (k.join l r).DerivesTokens := by
  intro plain denotes n room
  rw [plain_join, Bool.and_eq_true] at plain
  rw [literals_join, List.forall_mem_append] at denotes
  rw [nesting_join] at room
  obtain ⟨m, rfl⟩ : ∃ m, n = m + 2 := ⟨n - 2, by omega⟩
  rw [phrase_eq_operand isOperand_join, tokens_join]
  exact .join (left plain.1 denotes.1 _ (by omega)).unary (right plain.2 denotes.2 _ (by omega)).unary

mutual

/-- **The tokens of plain expressions derive them.** -/
theorem derives_tokens : (e : Expr) → e.DerivesTokens
  | .literal v => fun _ denotes n _ => .literal (denotes v (by simp [literals]))
  | .path p => fun _ _ n _ => .path (t := ⟨.identifier, p, 0⟩) rfl
  | .list items => fun plain denotes n room => by
    rw [nesting] at room
    obtain ⟨m, rfl⟩ : ∃ m, n = m + 1 := ⟨n - 1, by omega⟩
    rw [tokens]
    have inside := derives_itemTokens items (by simpa [Expr.plain] using plain) denotes m (by omega)
    exact .list (o := .listOpening) (c := .listClosing) rfl inside rfl
  | .not e => fun plain denotes n room => by
    rw [nesting] at room
    obtain ⟨m, rfl⟩ : ∃ m, n = m + 1 := ⟨n - 1, by omega⟩
    rw [tokens]
    have inner := derives_tokens e (by simpa [Expr.plain] using plain) denotes m (by omega)
    exact .not (o := .negation) rfl inner.unary
  | .and l r => .join .and (derives_tokens l) (derives_tokens r)
  | .or l r => .join .or (derives_tokens l) (derives_tokens r)
  | .compare op l r => fun plain denotes n room => by
    simp only [Expr.plain, Bool.and_eq_true] at plain
    obtain ⟨⟨⟨operand, operand'⟩, plainl⟩, plainr⟩ := plain
    rw [literals, List.forall_mem_append] at denotes
    rw [nesting] at room
    have left := derives_tokens l plainl denotes.1 n (by omega)
    have right := derives_tokens r plainr denotes.2 n (by omega)
    rw [phrase_eq_operand operand] at left
    rw [phrase_eq_operand operand'] at right
    rw [tokens]
    exact .compare left op.kinds_tokens right

theorem derives_itemTokens : (items : List Expr) → plainItems items →
    (∀ v ∈ itemLiterals items, v.token.Denotes v) → ∀ n, itemsNesting items ≤ n →
    Derives .items (itemTokens items) (.list items) n
  | [] => fun _ _ _ _ => .none
  | e :: rest => fun plain denotes n room => by
    simp only [plainItems, Bool.and_eq_true] at plain
    rw [itemLiterals, List.forall_mem_append] at denotes
    rw [itemsNesting] at room
    have item := derives_tokens e plain.1.2 denotes.1 n (by omega)
    have more := derives_itemTokens rest plain.2 denotes.2 n (by omega)
    rw [phrase_eq_operand plain.1.1] at item
    cases rest with
    | nil => exact .last item
    | cons f rest => exact .more (c := .comma) item rfl more

end

end Expr

end

end Workflows
