import Workflows.Proofs.Expr.Plain

/-!
# What written forms derive

The tokens of the written form of an expression derive that expression only where it is plain: parentheses are
balanced, no form has less tokens besides them, and so each rule applies where the written form has its tokens.

* `Token.solid`: a token that is no parenthesis; `Derives.solids_le`: a written form has as few of them as any form
  of the expression; `Derives.balanced`, `Expr.balanced`: parentheses are balanced;
* `Rooted`, `Grouped`, `Derives.peel`: a phrase is groups around the rule at the root of its tree;
* `Derives.sides`, `Derives.negated`, `Derives.compared`, `Derives.listed`, `Derives.item`: what the tokens of a
  written form derive, and the parts of its expression;
* **`Expr.derivedPlain`**: they derive plain expressions only.
-/

namespace Workflows

section

variable {p : Phrase} {ts : List Token} {k : Connective} {e l r T : Expr} {n : Nat}

/-! ## Tokens other than parentheses -/

/-- Whether a token is no parenthesis. -/
def Token.solid (t : Token) : Bool := t.kind ≠ .openParen ∧ t.kind ≠ .closeParen

@[simp] theorem Token.solid_opening : Token.opening.solid = false := rfl

@[simp] theorem Token.solid_closing : Token.closing.solid = false := rfl

@[simp] theorem Token.solid_listOpening : Token.listOpening.solid = true := rfl

@[simp] theorem Token.solid_listClosing : Token.listClosing.solid = true := rfl

@[simp] theorem Token.solid_comma : Token.comma.solid = true := rfl

@[simp] theorem Token.solid_negation : Token.negation.solid = true := rfl

@[simp] theorem Connective.solid_token (k : Connective) : k.token.solid = true := by cases k <;> rfl

@[simp] theorem Value.solid_token (v : Value) : v.token.solid = true := by
  cases v with
  | bool b => cases b <;> rfl
  | null | number | text | list | object => rfl

/-- How many of some tokens are no parentheses. -/
def solids (ts : List Token) : Nat := ts.countP Token.solid

theorem Token.solid_eq {t : Token} {kind : TokenKind} (is : t.kind = kind) :
    t.solid = decide (kind ≠ .openParen ∧ kind ≠ .closeParen) := by rw [Token.solid, is]

theorem Connective.solid_eq {o : Token} (is : o.kind = k.kind) : o.solid = true := by
  rw [Token.solid_eq is]
  cases k <;> rfl

theorem CompareOp.solid_of_mem {op : CompareOp} {os : List Token} (kinds : os.map (·.kind) = op.kinds) :
    ∀ t ∈ os, t.solid :=
  CompareOp.forall_kind (P := fun kind => decide (kind ≠ .openParen ∧ kind ≠ .closeParen))
    (fun op => by cases op <;> decide) kinds

theorem CompareOp.solids_eq {op : CompareOp} {os : List Token} (kinds : os.map (·.kind) = op.kinds) :
    solids os = op.kinds.length := by
  rw [solids, List.countP_eq_length.2 (CompareOp.solid_of_mem kinds), ← kinds, List.length_map]

theorem Token.Denotes.solid {t : Token} {v : Value} (h : t.Denotes v) : t.solid := by
  have kind := h.kind_mem
  rw [Token.solid_eq rfl]
  generalize t.kind = x at kind ⊢
  revert kind
  cases x <;> decide

@[simp] theorem solids_nil : solids [] = 0 := rfl

@[simp] theorem solids_append (ts us : List Token) : solids (ts ++ us) = solids ts + solids us :=
  List.countP_append

@[simp] theorem solids_cons (t : Token) (ts : List Token) :
    solids (t :: ts) = solids ts + if t.solid then 1 else 0 := List.countP_cons

/-- **The written form of a phrase has as few tokens other than parentheses as any.** Only commas may be more. -/
theorem Derives.solids_le (h : Derives p ts T n) : solids (p.tokens T) ≤ solids ts := by
  induction h with
  | first operand _ ih =>
    rw [operand.tokens] at ih
    exact ih
  | further operand _ kind _ left right =>
    rw [operand.tokens] at right
    simp only [Phrase.tokens, Expr.tokens_join] at left ⊢
    simp [Connective.solid_eq kind]
    omega
  | not kind _ ih =>
    simp only [Phrase.tokens, Expr.tokens] at ih ⊢
    simpa [Token.solid_eq kind] using ih
  | bare _ ih | alone _ ih => exact ih
  | @compare op _ _ _ _ _ _ _ kinds _ left right =>
    simp only [Phrase.tokens, Expr.tokens] at left right ⊢
    simp [CompareOp.solids_eq kinds, CompareOp.solids_eq op.kinds_tokens]
    omega
  | @path t _ kind =>
    have other : Token.solid ⟨.identifier, t.text, 0⟩ = true := rfl
    simp [Phrase.tokens, Expr.tokens, Token.solid_eq kind, other]
  | literal denotes => simp [Phrase.tokens, Expr.tokens, denotes.solid]
  | group _ _ _ ih =>
    simp only [Phrase.tokens] at ih ⊢
    simp
    omega
  | list opens _ closes ih =>
    simp only [Phrase.tokens, Expr.tokens] at ih ⊢
    simpa [Token.solid_eq opens, Token.solid_eq closes] using ih
  | none => rfl
  | last _ ih => exact ih
  | @more _ _ _ _ items _ _ kind _ item rest =>
    simp only [Phrase.tokens] at item rest ⊢
    cases items with
    | nil =>
      simp [Expr.itemTokens]
      omega
    | cons f items =>
      simp [Expr.itemTokens, Token.solid_eq kind]
      omega

/-! ### Balanced parentheses -/

/-- As many parentheses are opened as closed. -/
def Balanced (ts : List Token) : Prop := ts.countP (·.kind = .openParen) = ts.countP (·.kind = .closeParen)

namespace Balanced

variable {us : List Token} {t o c : Token}

theorem nil : Balanced [] := rfl

theorem append (h : Balanced ts) (h' : Balanced us) : Balanced (ts ++ us) := by
  unfold Balanced at *
  rw [List.countP_append, List.countP_append, h, h']

theorem cons (solid : t.solid) (h : Balanced ts) : Balanced (t :: ts) := by
  have apart : t.kind ≠ .openParen ∧ t.kind ≠ .closeParen := of_decide_eq_true solid
  unfold Balanced at *
  simp [apart, h]

theorem of_solid (all : ∀ t ∈ ts, t.solid) : Balanced ts := by
  induction ts with
  | nil => exact nil
  | cons t ts ih =>
    rw [List.forall_mem_cons] at all
    exact cons all.1 (ih all.2)

theorem group (opens : o.kind = .openParen) (closes : c.kind = .closeParen) (h : Balanced ts) :
    Balanced (o :: ts ++ [c]) := by
  unfold Balanced at *
  simp [opens, closes, h]

end Balanced

theorem Derives.balanced (h : Derives p ts T n) : Balanced ts := by
  induction h with
  | first _ _ ih | bare _ ih | alone _ ih | last _ ih => exact ih
  | further _ _ kind _ left right => exact left.append (.cons (Connective.solid_eq kind) right)
  | not kind _ ih => exact .cons (Token.solid_eq kind) ih
  | compare _ kinds _ left right => exact (left.append (.of_solid (CompareOp.solid_of_mem kinds))).append right
  | path kind => exact .cons (Token.solid_eq kind) .nil
  | literal denotes => exact .cons denotes.solid .nil
  | group opens _ closes ih => exact ih.group opens closes
  | list opens _ closes ih =>
    exact .cons (Token.solid_eq opens) (ih.append (.cons (Token.solid_eq closes) .nil))
  | none => exact .nil
  | more _ kind _ item rest => exact item.append (.cons (Token.solid_eq kind) rest)

namespace Expr

theorem balanced_join (left : Balanced l.tokens) (right : Balanced r.tokens) :
    Balanced (k.join l r).tokens := by
  rw [tokens_join]
  exact (left.append (.cons k.solid_token right)).group rfl rfl

mutual

theorem balanced : (e : Expr) → Balanced e.tokens
  | .literal v => .cons v.solid_token .nil
  | .path p => .cons rfl .nil
  | .list items => by
    rw [tokens]
    exact .cons rfl ((balanced_items items).append (.cons rfl .nil))
  | .not e => by
    rw [tokens]
    exact .cons rfl (balanced e)
  | .and l r => balanced_join (k := .and) (balanced l) (balanced r)
  | .or l r => balanced_join (k := .or) (balanced l) (balanced r)
  | .compare op l r => by
    rw [tokens]
    exact ((balanced l).append (.of_solid (CompareOp.solid_of_mem op.kinds_tokens))).append (balanced r)

theorem balanced_items : (items : List Expr) → Balanced (itemTokens items)
  | [] => .nil
  | [e] => balanced e
  | e :: f :: items => (balanced e).append (.cons rfl (balanced_items (f :: items)))

end

end Expr

/-! ## The root of a tree -/

/-- The rule at the root of a tree, on the tokens inside all groups around it. -/
inductive Rooted : List Token → Expr → Nat → Prop
  | join {c : Connective} {m : Nat} {p : Phrase} {ts us : List Token} {o : Token} {T U : Expr} {r : Nat}
      (operand : c.Operand p) (left : Derives (.chain c m) ts T (r + m + 1)) (kind : o.kind = c.kind)
      (right : Derives p us U r) : Rooted (ts ++ o :: us) (c.join T U) (r + m + 1)
  | not {ts : List Token} {o : Token} {T : Expr} {r : Nat} (kind : o.kind = .not)
      (inner : Derives .unary ts T r) : Rooted (o :: ts) (.not T) (r + 1)
  | compare {op : CompareOp} {ts os us : List Token} {T U : Expr} {r : Nat} (left : Derives .operand ts T r)
      (kinds : os.map (·.kind) = op.kinds) (right : Derives .operand us U r) :
      Rooted (ts ++ os ++ us) (.compare op T U) r
  | path {t : Token} {r : Nat} (kind : t.kind = .identifier) : Rooted [t] (.path t.text) r
  | literal {t : Token} {v : Value} {r : Nat} (denotes : t.Denotes v) : Rooted [t] (.literal v) r
  | list {ts : List Token} {o c : Token} {items : List Expr} {r : Nat} (opens : o.kind = .openBracket)
      (inner : Derives .items ts (.list items) r) (closes : c.kind = .closeBracket) :
      Rooted (o :: ts ++ [c]) (.list items) (r + 1)

/-- So many groups around the rule at the root of a tree. -/
inductive Grouped : Nat → List Token → Expr → Nat → Prop
  | root {ts : List Token} {T : Expr} {r : Nat} (rule : Rooted ts T r) : Grouped 0 ts T r
  | group {k : Nat} {ts : List Token} {o c : Token} {T : Expr} {r : Nat} (opens : o.kind = .openParen)
      (inner : Grouped k ts T r) (closes : c.kind = .closeParen) : Grouped (k + 1) (o :: ts ++ [c]) T (r + 1)

/-- **A phrase is groups around the rule at the root of its tree.** Where it has to be an operand there is a group,
or none is needed. -/
theorem Derives.peel (h : Derives p ts T n) (apart : p ≠ .items) :
    ∃ k, Grouped k ts T n ∧ (p = .operand → k = 0 → T.isOperand) := by
  induction h with
  | first operand _ ih =>
    obtain ⟨k, grouped, -⟩ := ih operand.ne_items
    exact ⟨k, grouped, Phrase.noConfusion⟩
  | further operand left kind right _ _ => exact ⟨0, .root (.join operand left kind right), Phrase.noConfusion⟩
  | not kind inner _ => exact ⟨0, .root (.not kind inner), Phrase.noConfusion⟩
  | bare _ ih | alone _ ih =>
    obtain ⟨k, grouped, -⟩ := ih Phrase.noConfusion
    exact ⟨k, grouped, Phrase.noConfusion⟩
  | compare left kinds right _ _ => exact ⟨0, .root (.compare left kinds right), Phrase.noConfusion⟩
  | path kind => exact ⟨0, .root (.path kind), fun _ _ => rfl⟩
  | literal denotes => exact ⟨0, .root (.literal denotes), fun _ _ => rfl⟩
  | group opens _ closes ih =>
    obtain ⟨k, grouped, -⟩ := ih Phrase.noConfusion
    exact ⟨k + 1, .group opens grouped closes, fun _ none => by cases none⟩
  | list opens inner closes _ => exact ⟨0, .root (.list opens inner closes), fun _ _ => rfl⟩
  | none | last | more => exact absurd rfl apart

/-- Tokens that are all of one kind. -/
def AllOf (kind : TokenKind) (ts : List Token) : Prop := ∀ t ∈ ts, t.kind = kind

theorem Grouped.split {k : Nat} (h : Grouped k ts T n) : ∃ opens inside closes m, ts = opens ++ (inside ++ closes) ∧
    AllOf .openParen opens ∧ AllOf .closeParen closes ∧ opens.length = k ∧ n = m + k ∧ Rooted inside T m := by
  induction h with
  | @root ts _ r rule => exact ⟨[], ts, [], r, by simp, by simp [AllOf], by simp [AllOf], rfl, rfl, rule⟩
  | @group k _ o c _ _ opens _ closes ih =>
    obtain ⟨os, inside, cs, m, rfl, all, all', rfl, rfl, rule⟩ := ih
    refine ⟨o :: os, inside, cs ++ [c], m, by simp, ?_, ?_, rfl, rfl, rule⟩
    · exact List.forall_mem_cons.2 ⟨opens, all⟩
    · exact List.forall_mem_append.2 ⟨all', by simpa using closes⟩

/-! ### Where groups and rules meet -/

theorem solids_eq_zero_of_open (all : AllOf .openParen ts) : solids ts = 0 :=
  List.countP_eq_zero.2 fun t mem => by rw [Token.solid_eq (all t mem)]; decide

theorem solids_eq_zero_of_close (all : AllOf .closeParen ts) : solids ts = 0 :=
  List.countP_eq_zero.2 fun t mem => by rw [Token.solid_eq (all t mem)]; decide

/-- Two lists are cut at the same place where as many tokens before it are no parentheses. -/
theorem cut_of_solids {xs ys us vs : List Token} {a b : Token} (same : xs ++ a :: us = ys ++ b :: vs)
    (solid : a.solid) (solid' : b.solid) (count : solids xs = solids ys) : xs = ys ∧ a = b ∧ us = vs := by
  rcases List.append_eq_append_iff.1 same with ⟨more, rfl, rest⟩ | ⟨more, rfl, rest⟩
  · cases more with
    | nil => simpa using rest
    | cons x more =>
      obtain ⟨rfl, -⟩ := List.cons.inj rest
      simp [solid] at count
  · cases more with
    | nil => simpa [eq_comm] using rest
    | cons x more =>
      obtain ⟨rfl, -⟩ := List.cons.inj rest
      simp [solid'] at count

theorem AllOf.counts {kind : TokenKind} (all : AllOf kind ts) (other : TokenKind) (apart : kind ≠ other) :
    ts.countP (·.kind = kind) = ts.length ∧ ts.countP (·.kind = other) = 0 := by
  constructor
  · exact List.countP_eq_length.2 fun t mem => decide_eq_true (all t mem)
  · exact List.countP_eq_zero.2 fun t mem => by simp [all t mem, apart]

theorem AllOf.nil (kind : TokenKind) : AllOf kind [] := by simp [AllOf]

theorem AllOf.single {t : Token} {kind : TokenKind} (is : t.kind = kind) : AllOf kind [t] := by simpa [AllOf] using is

/-- Opening parentheses are told apart from balanced tokens behind them. -/
theorem Balanced.eq_of_open {xs ys us : List Token} (h : Balanced ts) (h' : Balanced us)
    (all : AllOf .openParen xs) (all' : AllOf .openParen ys) (same : xs ++ ts = ys ++ us) :
    xs = ys ∧ ts = us := by
  have opened := congrArg (List.countP (·.kind = .openParen)) same
  have closed := congrArg (List.countP (·.kind = .closeParen)) same
  obtain ⟨counts, none⟩ := all.counts .closeParen (by decide)
  obtain ⟨counts', none'⟩ := all'.counts .closeParen (by decide)
  unfold Balanced at h h'
  simp only [List.countP_append] at opened closed
  exact List.append_inj same (by omega)

/-- Closing parentheses are told apart from balanced tokens before them. -/
theorem Balanced.eq_of_close {xs ys us : List Token} (h : Balanced ts) (h' : Balanced us)
    (all : AllOf .closeParen xs) (all' : AllOf .closeParen ys) (same : ts ++ xs = us ++ ys) :
    ts = us ∧ xs = ys := by
  have opened := congrArg (List.countP (·.kind = .openParen)) same
  have closed := congrArg (List.countP (·.kind = .closeParen)) same
  obtain ⟨counts, none⟩ := all.counts .openParen (by decide)
  obtain ⟨counts', none'⟩ := all'.counts .openParen (by decide)
  unfold Balanced at h h'
  simp only [List.countP_append] at opened closed
  exact List.append_inj' same (by omega)

/-! ## What the tokens of a written form derive -/

theorem Connective.join_inj {c : Connective} {U : Expr} (same : k.join l r = c.join T U) :
    k = c ∧ l = T ∧ r = U := by
  cases k <;> cases c <;> cases same <;> exact ⟨rfl, rfl, rfl⟩

/-- The sides of an `AND` or `OR` are chains of their own, with one level less for each, and one more for the right
one. -/
theorem Derives.sides (h : Derives p (k.join l r).tokens (k.join l r) n) (apart : p ≠ .items) :
    ∃ m q r', k.Operand q ∧ Derives (.chain k m) l.tokens l (r' + m + 1) ∧ Derives q r.tokens r r' ∧
      n = r' + m + 2 := by
  obtain ⟨g, grouped, -⟩ := h.peel apart
  obtain ⟨opens, inside, closes, r', same, all, all', rfl, rfl, rule⟩ := grouped.split
  generalize tree : k.join l r = T at rule
  cases rule with
  | @join c m q ts us o T U r' operand left kind right =>
    obtain ⟨rfl, rfl, rfl⟩ := Connective.join_inj tree
    have least := left.solids_le
    have least' := right.solids_le
    rw [operand.tokens] at least'
    simp only [Phrase.tokens] at least
    rw [Expr.tokens_join] at same
    -- Both sides have at least the tokens of their written forms, so both have just these.
    have counts := congrArg solids same
    simp [Connective.solid_eq kind, solids_eq_zero_of_open all, solids_eq_zero_of_close all'] at counts
    have here : (Token.opening :: l.tokens) ++ k.token :: (r.tokens ++ [Token.closing]) =
        (opens ++ ts) ++ o :: (us ++ closes) := by simpa using same
    obtain ⟨before, rfl, behind⟩ := cut_of_solids here k.solid_token (Connective.solid_eq kind)
      (by simp [solids_eq_zero_of_open all]; omega)
    have single : AllOf .openParen [Token.opening] := .single rfl
    have single' : AllOf .closeParen [Token.closing] := .single rfl
    obtain ⟨rfl, rfl⟩ := Balanced.eq_of_open l.balanced left.balanced single all before
    obtain ⟨rfl, rfl⟩ := Balanced.eq_of_close r.balanced right.balanced single' all' behind
    exact ⟨m, q, r', operand, left, right, rfl⟩
  | not | compare | path | literal | list => cases k <;> cases tree

/-- No group starts with a token that is no parenthesis. -/
theorem eq_nil_of_open {t : Token} {rest more opens : List Token} (same : t :: rest = opens ++ more)
    (all : AllOf .openParen opens) (apart : t.kind ≠ .openParen) : opens = [] := by
  cases opens with
  | nil => rfl
  | cons o opens =>
    obtain ⟨rfl, -⟩ := List.cons.inj same
    exact absurd (all t List.mem_cons_self) apart

/-- What is behind a `NOT` is a unary phrase with one level less. -/
theorem Derives.negated (h : Derives p (Expr.not e).tokens (.not e) n) (apart : p ≠ .items) :
    p ≠ .operand ∧ ∃ r', Derives .unary e.tokens e r' ∧ n = r' + 1 := by
  obtain ⟨g, grouped, can⟩ := h.peel apart
  obtain ⟨opens, inside, closes, r', same, all, all', rfl, rfl, rule⟩ := grouped.split
  rw [Expr.tokens] at same
  obtain rfl := eq_nil_of_open same all (by decide)
  refine ⟨fun operand => Bool.noConfusion (can operand rfl), ?_⟩
  generalize tree : Expr.not e = T at rule
  cases rule with
  | @join c => cases c <;> cases tree
  | compare | path | literal | list => cases tree
  | @not ts o _ r' kind inner =>
    cases tree
    obtain ⟨rfl, behind⟩ := List.cons.inj same
    obtain ⟨rfl, -⟩ := Balanced.eq_of_close e.balanced inner.balanced (.nil _) all'
      (by simpa using behind)
    exact ⟨r', inner, rfl⟩

theorem CompareOp.cut {op : CompareOp} {xs ys us vs os : List Token} (kinds : os.map (·.kind) = op.kinds)
    (same : xs ++ (op.tokens ++ us) = ys ++ (os ++ vs)) (count : solids xs = solids ys) : xs = ys ∧ us = vs := by
  have lengths : op.tokens.length = os.length := by
    rw [← List.length_map (·.kind), op.kinds_tokens, ← kinds, List.length_map]
  have solid := CompareOp.solid_of_mem op.kinds_tokens
  have solid' := CompareOp.solid_of_mem kinds
  have some : op.tokens ≠ [] := by cases op <;> exact List.cons_ne_nil _ _
  generalize op.tokens = as at *
  cases as with
  | nil => exact absurd rfl some
  | cons a as =>
    cases os with
    | nil => cases lengths
    | cons b os =>
      have here : xs ++ a :: (as ++ us) = ys ++ b :: (os ++ vs) := same
      obtain ⟨rfl, -, rest⟩ := cut_of_solids here (solid a List.mem_cons_self) (solid' b List.mem_cons_self) count
      exact ⟨rfl, (List.append_inj rest (Nat.succ.inj lengths)).2⟩

/-- The sides of a comparison are operands. -/
theorem Derives.compared {op : CompareOp} (h : Derives p (Expr.compare op l r).tokens (.compare op l r) n)
    (apart : p ≠ .items) :
    p ≠ .operand ∧ Derives .operand l.tokens l n ∧ Derives .operand r.tokens r n := by
  obtain ⟨g, grouped, can⟩ := h.peel apart
  obtain ⟨opens, inside, closes, r', same, all, all', rfl, rfl, rule⟩ := grouped.split
  rw [Expr.tokens] at same
  generalize tree : Expr.compare op l r = T at rule
  cases rule with
  | @join c => cases c <;> cases tree
  | not | path | literal | list => cases tree
  | @compare _ ts os us _ _ _ left kinds right =>
    cases tree
    have least := left.solids_le
    have least' := right.solids_le
    simp only [Phrase.tokens] at least least'
    have counts := congrArg solids same
    simp [CompareOp.solids_eq kinds, CompareOp.solids_eq op.kinds_tokens, solids_eq_zero_of_open all,
      solids_eq_zero_of_close all'] at counts
    have here : l.tokens ++ (op.tokens ++ r.tokens) = (opens ++ ts) ++ (os ++ (us ++ closes)) := by simpa using same
    obtain ⟨before, behind⟩ := CompareOp.cut kinds here (by simp [solids_eq_zero_of_open all]; omega)
    obtain ⟨rfl, rfl⟩ := Balanced.eq_of_open l.balanced left.balanced (.nil _) all before
    obtain ⟨rfl, -⟩ := Balanced.eq_of_close r.balanced right.balanced (.nil _) all'
      (by simpa using behind)
    exact ⟨fun operand => Bool.noConfusion (can operand rfl), left, right⟩

/-- The inside of a list is items, with one level less. -/
theorem Derives.listed {items : List Expr} (h : Derives p (Expr.list items).tokens (.list items) n)
    (apart : p ≠ .items) : ∃ r', Derives .items (Expr.itemTokens items) (.list items) r' ∧ n = r' + 1 := by
  obtain ⟨g, grouped, -⟩ := h.peel apart
  obtain ⟨opens, inside, closes, r', same, all, all', rfl, rfl, rule⟩ := grouped.split
  have whole := (Expr.list items).balanced
  rw [Expr.tokens] at same whole
  obtain rfl := eq_nil_of_open same all (by decide)
  generalize tree : Expr.list items = T at rule
  cases rule with
  | @join c => cases c <;> cases tree
  | not | compare | path | literal => cases tree
  | @list ts o c _ r' opens inner closes' =>
    cases tree
    have listed : Balanced (o :: ts ++ [c]) := (Derives.list opens inner closes').balanced
    obtain ⟨same, -⟩ := Balanced.eq_of_close whole listed (.nil _) all' (by simpa using same)
    obtain ⟨rfl, -⟩ := List.append_inj' (List.cons.inj same).2 rfl
    exact ⟨r', inner, rfl⟩

/-- The first item of a list is an operand, and the others are items. -/
theorem Derives.item {items : List Expr}
    (h : Derives .items (Expr.itemTokens (e :: items)) (.list (e :: items)) n) :
    Derives .operand e.tokens e n ∧ Derives .items (Expr.itemTokens items) (.list items) n := by
  generalize same : Expr.itemTokens (e :: items) = us at h
  cases h with
  | last item =>
    subst same
    exact ⟨item, .none⟩
  | @more ts us c _ _ _ item kind rest =>
    have least := item.solids_le
    have least' := rest.solids_le
    simp only [Phrase.tokens] at least least'
    have counts := congrArg solids same
    cases items with
    | nil =>
      simp [Expr.itemTokens, Token.solid_eq kind] at counts least'
      omega
    | cons f items =>
      simp [Expr.itemTokens, Token.solid_eq kind] at counts
      obtain ⟨rfl, -, rfl⟩ := cut_of_solids (a := .comma) same rfl (Token.solid_eq kind) (by omega)
      exact ⟨item, rest⟩

namespace Expr

/-- The tokens of an expression derive it only where it is plain, and with as many levels as its written form opens. -/
def DerivedPlain (e : Expr) : Prop :=
  ∀ p n, Derives p e.tokens e n → p ≠ .items → e.plain ∧ e.nesting ≤ n ∧ (p = .operand → e.isOperand)

theorem DerivedPlain.join (k : Connective) (left : l.DerivedPlain) (right : r.DerivedPlain) :
    (k.join l r).DerivedPlain := by
  intro p n h apart
  obtain ⟨m, q, r', operand, first, second, rfl⟩ := h.sides apart
  obtain ⟨plain, room, -⟩ := left _ _ first Phrase.noConfusion
  obtain ⟨plain', room', -⟩ := right _ _ second operand.ne_items
  rw [plain_join, nesting_join, plain, plain']
  exact ⟨rfl, by omega, fun _ => isOperand_join⟩

mutual

/-- **The tokens of a written form derive plain expressions only.** -/
theorem derivedPlain : (e : Expr) → e.DerivedPlain
  | .literal _ => fun _ _ _ _ => ⟨rfl, Nat.zero_le _, fun _ => rfl⟩
  | .path _ => fun _ _ _ _ => ⟨rfl, Nat.zero_le _, fun _ => rfl⟩
  | .list items => fun p n h apart => by
    obtain ⟨r', inner, rfl⟩ := h.listed apart
    obtain ⟨plain, room⟩ := derivedPlain_items items _ inner
    rw [Expr.plain, nesting]
    exact ⟨plain, by omega, fun _ => rfl⟩
  | .not e => fun p n h apart => by
    obtain ⟨operand, r', inner, rfl⟩ := h.negated apart
    obtain ⟨plain, room, -⟩ := derivedPlain e _ _ inner Phrase.noConfusion
    rw [Expr.plain, nesting]
    exact ⟨plain, by omega, fun is => absurd is operand⟩
  | .and l r => .join .and (derivedPlain l) (derivedPlain r)
  | .or l r => .join .or (derivedPlain l) (derivedPlain r)
  | .compare op l r => fun p n h apart => by
    obtain ⟨operand, left, right⟩ := h.compared apart
    obtain ⟨plain, room, is⟩ := derivedPlain l _ _ left Phrase.noConfusion
    obtain ⟨plain', room', is'⟩ := derivedPlain r _ _ right Phrase.noConfusion
    rw [Expr.plain, nesting, plain, plain', is rfl, is' rfl]
    exact ⟨rfl, by omega, fun is => absurd is operand⟩

theorem derivedPlain_items : (items : List Expr) → ∀ n, Derives .items (itemTokens items) (.list items) n →
    plainItems items ∧ itemsNesting items ≤ n
  | [] => fun _ _ => ⟨rfl, Nat.zero_le _⟩
  | e :: items => fun n h => by
    obtain ⟨item, rest⟩ := h.item
    obtain ⟨plain, room, is⟩ := derivedPlain e _ _ item Phrase.noConfusion
    obtain ⟨plain', room'⟩ := derivedPlain_items items _ rest
    rw [plainItems, itemsNesting, plain, plain', is rfl]
    exact ⟨rfl, by omega⟩

end

end Expr

end

end Workflows
