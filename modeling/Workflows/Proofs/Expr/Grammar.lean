import Mathlib
import Workflows.Expr.Parser

/-!
# The grammar of expressions

What lists of tokens are expressions, and of which tree, independently of how they are read.

* `Connective`: `AND` and `OR`, which make chains; `Phrase`: the parts of an expression;
* `CompareOp.kinds`: the tokens that an operator is written with; `Token.Denotes`: the value of a token;
* `Derives`: the rules, with how many levels of nesting a phrase has room for;
* `Derives.least`: how many tokens a phrase has at least;
* `Phrase.Precedes`: what may stand after a phrase; `Derives.prefix`: a chain starts with shorter chains;
* `Phrase.Determined`: no other phrase is read off the same tokens; `Derives.determined`;
* **`Derives.unique`**: tokens have one tree at most, whatever the nesting.
-/

namespace Workflows

/-- What chains of operands are made with. -/
inductive Connective where
  | and
  | or

namespace Connective

/-- How a connective is written. -/
def kind : Connective → TokenKind
  | .and => .and
  | .or => .or

/-- The tree of two operands. -/
def join : Connective → Expr → Expr → Expr
  | .and => .and
  | .or => .or

end Connective

/-- The parts of an expression, the loosest binding first. -/
inductive Phrase where
  /-- Operands with a connective between them, so many after the first. -/
  | chain (c : Connective) (further : Nat)
  | unary
  | comparison
  | operand
  /-- The inside of a list. -/
  | items

/-- The operands of a chain: of `OR` they are chains of `AND`. -/
inductive Connective.Operand : Connective → Phrase → Prop
  | and : Operand .and .unary
  | or (further : Nat) : Operand .or (.chain .and further)

/-- The tokens that an operator is written with. -/
def CompareOp.kinds : CompareOp → List TokenKind
  | .eq => [.eq]
  | .ne => [.ne]
  | .lt => [.lt]
  | .le => [.le]
  | .gt => [.gt]
  | .ge => [.ge]
  | .contains => [.contains]
  | .isIn => [.isIn]
  | .notIn => [.not, .isIn]

/-- The value that a token stands for. A number is a whole one of 64 bits where it can be, and else a finite
double. -/
inductive Token.Denotes (t : Token) : Value → Prop
  | text (kind : t.kind = .text) : Denotes t (.text t.text)
  | true (kind : t.kind = .true) : Denotes t (.bool true)
  | false (kind : t.kind = .false) : Denotes t (.bool false)
  | null (kind : t.kind = .null) : Denotes t .null
  | int {n : Int} (kind : t.kind = .number) (reads : Decimal.readInt? t.text.toList = some n)
      (least : -2 ^ 63 ≤ n) (greatest : n < 2 ^ 63) : Denotes t (.number (.int n))
  | real {f : Float} {x : Real64} (kind : t.kind = .number)
      (wide : ∀ n, Decimal.readInt? t.text.toList = some n → ¬ (-2 ^ 63 ≤ n ∧ n < 2 ^ 63))
      (reads : Decimal.read? t.text.toList = some f) (finite : Real64.ofFloat? f = some x) :
      Denotes t (.number (.real x))

/-- Tokens are a phrase with a tree, and have room for so many levels of nesting. The inside of a group, of a
list or of a `NOT` has room for one level less, and the `n`-th further operand of a chain for `n` less.
Chains associate to the left. -/
inductive Derives : Phrase → List Token → Expr → Nat → Prop
  | first {c : Connective} {p : Phrase} {ts : List Token} {T : Expr} {r : Nat} (operand : c.Operand p)
      (single : Derives p ts T r) : Derives (.chain c 0) ts T r
  | further {c : Connective} {n : Nat} {p : Phrase} {ts us : List Token} {o : Token} {T U : Expr}
      {r : Nat} (operand : c.Operand p) (left : Derives (.chain c n) ts T (r + n + 1))
      (kind : o.kind = c.kind) (right : Derives p us U r) :
      Derives (.chain c (n + 1)) (ts ++ o :: us) (c.join T U) (r + n + 1)
  | not {ts : List Token} {o : Token} {T : Expr} {r : Nat} (kind : o.kind = .not)
      (inner : Derives .unary ts T r) : Derives .unary (o :: ts) (.not T) (r + 1)
  | bare {ts : List Token} {T : Expr} {r : Nat} (inner : Derives .comparison ts T r) :
      Derives .unary ts T r
  | alone {ts : List Token} {T : Expr} {r : Nat} (inner : Derives .operand ts T r) :
      Derives .comparison ts T r
  | compare {op : CompareOp} {ts os us : List Token} {T U : Expr} {r : Nat}
      (left : Derives .operand ts T r) (kinds : os.map (·.kind) = op.kinds)
      (right : Derives .operand us U r) : Derives .comparison (ts ++ os ++ us) (.compare op T U) r
  | path {t : Token} {r : Nat} (kind : t.kind = .identifier) : Derives .operand [t] (.path t.text) r
  | literal {t : Token} {v : Value} {r : Nat} (denotes : t.Denotes v) :
      Derives .operand [t] (.literal v) r
  | group {n : Nat} {ts : List Token} {o c : Token} {T : Expr} {r : Nat} (opens : o.kind = .openParen)
      (inner : Derives (.chain .or n) ts T r) (closes : c.kind = .closeParen) :
      Derives .operand (o :: ts ++ [c]) T (r + 1)
  | list {ts : List Token} {o c : Token} {items : List Expr} {r : Nat} (opens : o.kind = .openBracket)
      (inner : Derives .items ts (.list items) r) (closes : c.kind = .closeBracket) :
      Derives .operand (o :: ts ++ [c]) (.list items) (r + 1)
  | none {r : Nat} : Derives .items [] (.list []) r
  | last {ts : List Token} {T : Expr} {r : Nat} (item : Derives .operand ts T r) :
      Derives .items ts (.list [T]) r
  | more {ts us : List Token} {c : Token} {T : Expr} {items : List Expr} {r : Nat}
      (item : Derives .operand ts T r) (kind : c.kind = .comma)
      (rest : Derives .items us (.list items) r) :
      Derives .items (ts ++ c :: us) (.list (T :: items)) r

/-! ## Tokens of a phrase -/

/-- How many tokens a phrase has at least. -/
def Phrase.least : Phrase → Nat
  | .chain _ further => further + 1
  | .items => 0
  | _ => 1

section

variable {p : Phrase} {ts us x y : List Token} {T U : Expr} {r r' : Nat}

theorem Derives.least (h : Derives p ts T r) : p.least ≤ ts.length := by
  induction h with
  | first operand _ ih => cases operand <;> exact Nat.le_trans (by simp [Phrase.least]) ih
  | further _ _ _ _ ih => simp [Phrase.least] at ih ⊢; omega
  | bare _ ih | alone _ ih => exact ih
  | not | compare | path | literal | group | list | none | last | more =>
    simp_all [Phrase.least] <;> omega

/-- The kind of the first of some tokens; there is an end after them. -/
def nextKind (ts : List Token) : TokenKind := (⟨ts, 0⟩ : Cursor).kind

theorem Cursor.kind_mk (ts : List Token) (d : Nat) : (⟨ts, d⟩ : Cursor).kind = nextKind ts := rfl

@[simp] theorem nextKind_cons (t : Token) (ts : List Token) : nextKind (t :: ts) = t.kind := rfl

/-- What an operand starts with. -/
def TokenKind.StartsOperand (k : TokenKind) : Prop :=
  k ∈ [.identifier, .text, .number, .true, .false, .null, .openParen, .openBracket]

instance (k : TokenKind) : Decidable k.StartsOperand := by unfold TokenKind.StartsOperand; infer_instance

theorem Token.Denotes.kind_mem {t : Token} {v : Value} (h : t.Denotes v) :
    t.kind ∈ [TokenKind.text, .number, .true, .false, .null] := by
  cases h with
  | text kind | true kind | false kind | null kind | int kind | real kind =>
    rw [kind]
    decide

theorem Token.Denotes.startsOperand {t : Token} {v : Value} (h : t.Denotes v) : t.kind.StartsOperand :=
  (by decide : [TokenKind.text, .number, .true, .false, .null] ⊆
    [.identifier, .text, .number, .true, .false, .null, .openParen, .openBracket]) h.kind_mem

/-- A token stands for one value at most. -/
theorem Token.Denotes.unique {t : Token} {v w : Value} (h : t.Denotes v) (h' : t.Denotes w) : v = w := by
  cases h with
  | text kind | true kind | false kind | null kind =>
    cases h' with
    | text kind' | true kind' | false kind' | null kind' | int kind' | real kind' =>
      first | rfl | (rw [kind] at kind'; cases kind')
  | int kind reads least greatest =>
    cases h' with
    | text kind' | true kind' | false kind' | null kind' => rw [kind] at kind'; cases kind'
    | int _ reads' =>
      rw [reads] at reads'
      cases reads'
      rfl
    | real _ wide => exact absurd ⟨least, greatest⟩ (wide _ reads)
  | real kind wide reads finite =>
    cases h' with
    | text kind' | true kind' | false kind' | null kind' => rw [kind] at kind'; cases kind'
    | int _ reads' least greatest => exact absurd ⟨least, greatest⟩ (wide _ reads')
    | real _ _ reads' finite' =>
      rw [reads] at reads'
      cases reads'
      rw [finite] at finite'
      cases finite'
      rfl

theorem Derives.operand_starts (h : Derives .operand ts T r) (x : List Token) :
    (nextKind (ts ++ x)).StartsOperand := by
  cases h with
  | path kind | group kind | list kind =>
    simp only [List.cons_append, nextKind_cons, kind]
    decide
  | literal denotes => exact denotes.startsOperand

theorem Derives.comparison_starts (h : Derives .comparison ts T r) (x : List Token) :
    (nextKind (ts ++ x)).StartsOperand := by
  cases h with
  | alone inner => exact inner.operand_starts x
  | compare left =>
    rw [List.append_assoc, List.append_assoc]
    exact left.operand_starts _

/-- Tokens start with one operator at most. -/
theorem CompareOp.kinds_unique {op op' : CompareOp} {os os' x y : List Token}
    (kinds : os.map (·.kind) = op.kinds) (kinds' : os'.map (·.kind) = op'.kinds)
    (same : os ++ x = os' ++ y) : op = op' ∧ os = os' ∧ x = y := by
  have firsts : op.kinds.head? = op'.kinds.head? := by
    have h := congrArg (fun ts => (ts.map (·.kind)).head?) same
    simp only [List.map_append, kinds, kinds', List.head?_append] at h
    cases op <;> cases op' <;> exact h
  obtain rfl : op = op' := by cases op <;> cases op' <;> first | rfl | cases firsts
  have lengths : os.length = os'.length := by
    rw [← List.length_map (·.kind), kinds, ← kinds', List.length_map]
  exact ⟨rfl, List.append_inj same lengths⟩

/-! ## What stands after a phrase -/

/-- What may stand after a chain, be it a token that goes on with it. -/
def Connective.followers : Connective → List TokenKind
  | .and => [.and, .or, .closeParen, .eof]
  | .or => [.or, .closeParen, .eof]

/-- A token of this kind may stand after a chain. -/
def Connective.Precedes (c : Connective) (k : TokenKind) : Prop := k ∈ c.followers

instance (c : Connective) (k : TokenKind) : Decidable (c.Precedes k) := by
  unfold Connective.Precedes
  infer_instance

/-- A token of this kind may stand after the phrase. -/
def Phrase.Precedes : Phrase → TokenKind → Prop
  | .chain c _, k => c.Precedes k
  | .unary, k | .comparison, k => Connective.and.Precedes k
  | .operand, _ => True
  | .items, k => k = .closeBracket

theorem Connective.precedes_kind (c : Connective) : c.Precedes c.kind := by
  cases c <;> decide

/-- What may stand after a chain may stand after its operands. -/
theorem Connective.Operand.precedes {c : Connective} {k : TokenKind} (h : c.Operand p)
    (precedes : c.Precedes k) : p.Precedes k := by
  cases h with
  | and => exact precedes
  | or => exact .tail _ precedes

/-- No operator stands after a comparison. -/
theorem CompareOp.not_precedes {op : CompareOp} {os : List Token} (kinds : os.map (·.kind) = op.kinds)
    (x : List Token) : ¬ Connective.and.Precedes (nextKind (os ++ x)) := by
  have start : some (nextKind (os ++ x)) = op.kinds.head? := by
    cases os with
    | nil => cases op <;> cases kinds
    | cons o os => rw [← kinds]; rfl
  generalize nextKind (os ++ x) = k at start ⊢
  cases op <;> cases start <;> decide

/-- A chain starts with shorter ones. -/
theorem Derives.prefix {c : Connective} {n m : Nat} (h : Derives (.chain c m) us U r) (lt : n < m) :
    ∃ ts T r' o z, Derives (.chain c n) ts T r' ∧ o.kind = c.kind ∧ us = ts ++ o :: z := by
  induction m generalizing us U r with
  | zero => cases lt
  | succ m ih =>
    cases h with
    | @further _ _ _ ts vs o T V _ _ left kind _ =>
      rcases Nat.lt_succ_iff_lt_or_eq.1 lt with lt | rfl
      · obtain ⟨ts', T', r', o', z, shorter, kind', rfl⟩ := ih left lt
        exact ⟨ts', T', r', o', z ++ o :: vs, shorter, kind', by simp⟩
      · exact ⟨ts, T, _, o, vs, left, kind, rfl⟩

end

/-! ## Uniqueness -/

/-- Only this phrase is read off its tokens, where it ends as it may. Of two chains of different lengths, the
shorter one is followed by what goes on with it. -/
def Phrase.Determined : Phrase → List Token → Expr → Prop
  | .chain c n, ts, T => ∀ {m us U r x y}, Derives (.chain c m) us U r → ts ++ x = us ++ y →
    c.Precedes (nextKind x) → c.Precedes (nextKind y) →
      (n = m ∧ ts = us ∧ T = U) ∨ (n < m ∧ nextKind x = c.kind) ∨ (m < n ∧ nextKind y = c.kind)
  | p, ts, T => ∀ {us U r x y}, Derives p us U r → ts ++ x = us ++ y →
    p.Precedes (nextKind x) → p.Precedes (nextKind y) → ts = us ∧ T = U

namespace Phrase.Determined

variable {c : Connective} {n m : Nat} {p p' : Phrase} {ts us x y : List Token} {o : Token} {T U : Expr}
  {r : Nat}

/-- An operand of a chain goes as far as it can. -/
theorem eq_operand (h : p.Determined ts T) (operand : c.Operand p) (operand' : c.Operand p')
    (second : Derives p' us U r) (same : ts ++ x = us ++ y) (after : c.Precedes (nextKind x))
    (after' : c.Precedes (nextKind y)) : ts = us ∧ T = U := by
  cases operand with
  | and =>
    cases operand'
    exact h second same after after'
  | or =>
    cases operand'
    rcases h second same (.tail _ after) (.tail _ after') with ⟨-, tokens, tree⟩ | ⟨-, on⟩ | ⟨-, on⟩
    · exact ⟨tokens, tree⟩
    · rw [on] at after
      exact absurd after (by decide)
    · rw [on] at after'
      exact absurd after' (by decide)

/-- A longer chain goes on where a shorter one ends. -/
theorem goes_on {n : Nat} (second : Derives (.chain c m) us U r) (longer : n < m)
    (same : ts ++ x = us ++ y)
    (equal : ∀ {us U r y}, Derives (.chain c n) us U r → ts ++ x = us ++ y →
      c.Precedes (nextKind y) → ts = us ∧ T = U) : nextKind x = c.kind := by
  obtain ⟨us', U', r', o, z, shorter, kind, rfl⟩ := second.prefix longer
  rw [List.append_assoc] at same
  obtain ⟨rfl, -⟩ := equal shorter same (by rw [List.cons_append, nextKind_cons, kind]; exact c.precedes_kind)
  rw [List.append_cancel_left same, List.cons_append, nextKind_cons, kind]

theorem first (operand : c.Operand p) (h : p.Determined ts T) : (chain c 0).Determined ts T := by
  intro m us U r x y second same after after'
  have equal {us U r y} (second : Derives (.chain c 0) us U r) (same : ts ++ x = us ++ y)
      (after' : c.Precedes (nextKind y)) : ts = us ∧ T = U := by
    cases second with
    | first operand' single => exact h.eq_operand operand operand' single same after after'
  rcases Nat.eq_zero_or_pos m with rfl | longer
  · exact .inl ⟨rfl, equal second same after'⟩
  · exact .inr (.inl ⟨longer, goes_on second longer same equal⟩)

theorem further (operand : c.Operand p) (left : (chain c n).Determined ts T) (kind : o.kind = c.kind)
    (right : p.Determined us U) :
    (chain c (n + 1)).Determined (ts ++ o :: us) (c.join T U) := by
  intro m vs V r x y second same after after'
  have between : c.Precedes (nextKind (o :: us ++ x)) := by
    rw [List.cons_append, nextKind_cons, kind]
    exact c.precedes_kind
  rw [List.append_assoc] at same
  have equal {vs V r y} (second : Derives (.chain c (n + 1)) vs V r)
      (same : ts ++ (o :: us ++ x) = vs ++ y) (after' : c.Precedes (nextKind y)) :
      ts ++ o :: us = vs ∧ c.join T U = V := by
    cases second with
    | further operand' left' kind' right' =>
      rw [List.append_assoc] at same
      have between' := c.precedes_kind
      rw [← kind', ← nextKind_cons, ← List.cons_append] at between'
      rcases left left' same between between' with ⟨-, rfl, rfl⟩ | ⟨lt, -⟩ | ⟨lt, -⟩
      · obtain ⟨rfl, rest⟩ := List.cons.inj (List.append_cancel_left same)
        obtain ⟨rfl, rfl⟩ := right.eq_operand operand operand' right' rest after after'
        exact ⟨rfl, rfl⟩
      · exact absurd lt (Nat.lt_irrefl _)
      · exact absurd lt (Nat.lt_irrefl _)
  rcases Nat.lt_trichotomy (n + 1) m with longer | rfl | shorter
  · rw [← List.append_assoc] at same
    refine .inr (.inl ⟨longer, goes_on (T := c.join T U) second longer same
      fun second same after' => ?_⟩)
    rw [List.append_assoc] at same
    exact equal second same after'
  · exact .inl ⟨rfl, equal second same after'⟩
  · refine .inr (.inr ⟨shorter, ?_⟩)
    rcases left second same between after' with ⟨-, rfl, -⟩ | ⟨lt, -⟩ | ⟨-, on⟩
    · rw [← List.append_cancel_left same, List.cons_append, nextKind_cons, kind]
    · omega
    · exact on

theorem not (kind : o.kind = .not) (h : unary.Determined ts T) : unary.Determined (o :: ts) (.not T) := by
  intro us U r x y second same after after'
  cases second with
  | not _ inner' =>
    obtain ⟨rfl, rest⟩ := List.cons.inj same
    obtain ⟨rfl, rfl⟩ := h inner' rest after after'
    exact ⟨rfl, rfl⟩
  | bare inner' =>
    have starts := inner'.comparison_starts y
    rw [← same, List.cons_append, nextKind_cons, kind] at starts
    exact absurd starts (by decide)

theorem bare (first : Derives .comparison ts T r) (h : comparison.Determined ts T) :
    unary.Determined ts T := by
  intro us U r x y second same after after'
  cases second with
  | not kind' _ =>
    have starts := first.comparison_starts x
    rw [same, List.cons_append, nextKind_cons, kind'] at starts
    exact absurd starts (by decide)
  | bare inner' => exact h inner' same after after'

theorem alone (h : operand.Determined ts T) : comparison.Determined ts T := by
  intro us U r x y second same after after'
  cases second with
  | alone inner' => exact h inner' same trivial trivial
  | compare left' kinds' =>
    rw [List.append_assoc, List.append_assoc] at same
    obtain ⟨rfl, rfl⟩ := h left' same trivial trivial
    rw [List.append_cancel_left same] at after
    exact absurd after (CompareOp.not_precedes kinds' _)

theorem compare {op : CompareOp} {os : List Token} (left : operand.Determined ts T)
    (kinds : os.map (·.kind) = op.kinds) (right : operand.Determined us U) :
    comparison.Determined (ts ++ os ++ us) (.compare op T U) := by
  intro vs V r x y second same after after'
  rw [List.append_assoc, List.append_assoc] at same
  cases second with
  | alone inner' =>
    obtain ⟨rfl, rfl⟩ := left inner' same trivial trivial
    rw [← List.append_cancel_left same] at after'
    exact absurd after' (CompareOp.not_precedes kinds _)
  | compare left' kinds' right' =>
    rw [List.append_assoc, List.append_assoc] at same
    obtain ⟨rfl, rfl⟩ := left left' same trivial trivial
    obtain ⟨rfl, rfl, rest⟩ := CompareOp.kinds_unique kinds kinds' (List.append_cancel_left same)
    obtain ⟨rfl, rfl⟩ := right right' rest trivial trivial
    exact ⟨rfl, rfl⟩

/-- An operand starts with the token that it is read off from. -/
theorem head_of_same (second : Derives .operand us U r) (same : o :: ts ++ x = us ++ y) :
    us.head? = some o := by
  cases us with
  | nil => exact absurd second.least (by decide)
  | cons u us => exact congrArg some (List.cons.inj same).1.symm

theorem path (kind : o.kind = .identifier) : operand.Determined [o] (.path o.text) := by
  intro us U r x y second same _ _
  have head := head_of_same second same
  cases second with
  | path => cases head; exact ⟨rfl, rfl⟩
  | literal denotes =>
    cases head
    have mem := denotes.kind_mem
    rw [kind] at mem
    exact absurd mem (by decide)
  | group opens | list opens => cases head; rw [kind] at opens; cases opens

theorem literal {v : Value} (denotes : o.Denotes v) : operand.Determined [o] (.literal v) := by
  intro us U r x y second same _ _
  have head := head_of_same second same
  have mem := denotes.kind_mem
  cases second with
  | literal denotes' => cases head; exact ⟨rfl, by rw [denotes.unique denotes']⟩
  | path kind | group kind | list kind =>
    cases head
    rw [kind] at mem
    exact absurd mem (by decide)

theorem group {t : Token} (opens : o.kind = .openParen) (closes : t.kind = .closeParen)
    (h : (chain .or n).Determined ts T) : operand.Determined (o :: ts ++ [t]) T := by
  intro us U r x y second same _ _
  rw [List.append_assoc] at same
  have head := head_of_same second same
  cases second with
  | path kind => cases head; rw [opens] at kind; cases kind
  | literal denotes =>
    cases head
    have mem := denotes.kind_mem
    rw [opens] at mem
    exact absurd mem (by decide)
  | list opens' => cases head; rw [opens] at opens'; cases opens'
  | group opens' inner' closes' =>
    rw [List.append_assoc] at same
    obtain ⟨rfl, rest⟩ := List.cons.inj same
    have ended {t : Token} (closes : t.kind = .closeParen) (x : List Token) :
        nextKind ([t] ++ x) = .closeParen := closes
    have after := ended closes x
    have after' := ended closes' y
    rcases h inner' rest (by rw [after]; decide) (by rw [after']; decide) with
      ⟨-, rfl, rfl⟩ | ⟨-, on⟩ | ⟨-, on⟩
    · obtain ⟨rfl, -⟩ := List.cons.inj (List.append_cancel_left rest)
      exact ⟨rfl, rfl⟩
    · rw [after] at on
      cases on
    · rw [after'] at on
      cases on

theorem list {t : Token} {inside : List Expr} (opens : o.kind = .openBracket)
    (closes : t.kind = .closeBracket) (h : items.Determined ts (.list inside)) :
    operand.Determined (o :: ts ++ [t]) (.list inside) := by
  intro us U r x y second same _ _
  rw [List.append_assoc] at same
  have head := head_of_same second same
  cases second with
  | path kind => cases head; rw [opens] at kind; cases kind
  | literal denotes =>
    cases head
    have mem := denotes.kind_mem
    rw [opens] at mem
    exact absurd mem (by decide)
  | group opens' => cases head; rw [opens] at opens'; cases opens'
  | list opens' inner' closes' =>
    rw [List.append_assoc] at same
    obtain ⟨rfl, rest⟩ := List.cons.inj same
    obtain ⟨rfl, tree⟩ := h inner' rest (x := [t] ++ x) closes closes'
    obtain ⟨rfl, -⟩ := List.cons.inj (List.append_cancel_left rest)
    exact ⟨rfl, tree⟩

theorem none : items.Determined [] (.list []) := by
  intro us U r x y second same after _
  have unstarted : ¬ (nextKind x).StartsOperand := by
    rw [show nextKind x = .closeBracket from after]
    decide
  rw [List.nil_append] at same
  cases second with
  | none => exact ⟨rfl, rfl⟩
  | last item =>
    rw [same] at unstarted
    exact absurd (item.operand_starts y) unstarted
  | more item =>
    rw [same, List.append_assoc] at unstarted
    exact absurd (item.operand_starts _) unstarted

theorem last (first : Derives .operand ts T r) (h : operand.Determined ts T) :
    items.Determined ts (.list [T]) := by
  intro us U r x y second same after after'
  cases second with
  | none =>
    have starts := first.operand_starts x
    rw [same, List.nil_append, show nextKind y = .closeBracket from after'] at starts
    exact absurd starts (by decide)
  | last item =>
    obtain ⟨rfl, rfl⟩ := h item same trivial trivial
    exact ⟨rfl, rfl⟩
  | more item kind =>
    rw [List.append_assoc] at same
    obtain ⟨rfl, -⟩ := h item same trivial trivial
    rw [List.append_cancel_left same] at after
    cases kind.symm.trans after

theorem more {t : Token} {inside : List Expr} (first : Derives .operand ts T r)
    (h : operand.Determined ts T) (kind : t.kind = .comma) (rest : items.Determined us (.list inside)) :
    items.Determined (ts ++ t :: us) (.list (T :: inside)) := by
  intro vs V r x y second same after after'
  rw [List.append_assoc] at same
  cases second with
  | none =>
    have starts := first.operand_starts (t :: us ++ x)
    rw [same, List.nil_append, show nextKind y = .closeBracket from after'] at starts
    exact absurd starts (by decide)
  | last item =>
    obtain ⟨rfl, -⟩ := h item same trivial trivial
    rw [← List.append_cancel_left same] at after'
    cases kind.symm.trans after'
  | more item kind' rest' =>
    rw [List.append_assoc] at same
    obtain ⟨rfl, rfl⟩ := h item same trivial trivial
    obtain ⟨rfl, further⟩ := List.cons.inj (List.append_cancel_left same)
    obtain ⟨rfl, tree⟩ := rest rest' further after after'
    cases tree
    exact ⟨rfl, rfl⟩

end Phrase.Determined

section

variable {p : Phrase} {ts : List Token} {T U : Expr} {r r' : Nat}

/-- **Where a phrase ends as it may, no other phrase is read off the same tokens.** -/
theorem Derives.determined (h : Derives p ts T r) : p.Determined ts T := by
  induction h with
  | first operand _ ih => exact Phrase.Determined.first operand ih
  | further operand _ kind _ left right => exact Phrase.Determined.further operand left kind right
  | not kind _ ih => exact Phrase.Determined.not kind ih
  | bare inner ih => exact Phrase.Determined.bare inner ih
  | alone _ ih => exact Phrase.Determined.alone ih
  | compare _ kinds _ left right => exact Phrase.Determined.compare left kinds right
  | path kind => exact Phrase.Determined.path kind
  | literal denotes => exact Phrase.Determined.literal denotes
  | group opens _ closes ih => exact Phrase.Determined.group opens closes ih
  | list opens _ closes ih => exact Phrase.Determined.list opens closes ih
  | none => exact Phrase.Determined.none
  | last item ih => exact Phrase.Determined.last item ih
  | more item kind _ ih rest => exact Phrase.Determined.more item ih kind rest

/-- **Tokens have one tree at most**, whatever the levels of nesting. -/
theorem Derives.unique {c : Connective} {n m : Nat} (h : Derives (.chain c n) ts T r)
    (h' : Derives (.chain c m) ts U r') : T = U := by
  have ended : c.Precedes (nextKind []) := by cases c <;> decide
  rcases h.determined h' (x := []) rfl ended ended with ⟨-, -, tree⟩ | ⟨-, on⟩ | ⟨-, on⟩
  · exact tree
  · cases c <;> cases on
  · cases c <;> cases on

end

end Workflows
