import Workflows.Proofs.Expr.Juxtaposed

/-!
# Written forms as tokens

What is meant to be read off the written form of an expression, and when it is.

* `Value.token`, `CompareOp.tokens`, `Expr.tokens`: the tokens that a written form is put together from;
  `Token.written`: how they are written;
* `Displays`: a text is tokens as they are written, with blanks between them; **`Expr.displays`**: written forms
  are such texts;
* `Token.Legible`: a token is read off its own written form; `Displays.lexes`: legible tokens are read off a text
  that displays them;
* `Displays.misread`: the first token that is not a good one is where something else may be read.
-/

namespace Workflows

/-! ## The tokens of a written form -/

/-- A literal as a token. Lists and objects are no literals of expressions. -/
def Value.token : Value → Token
  | .null => ⟨.null, "null", 0⟩
  | .bool true => ⟨.true, "true", 0⟩
  | .bool false => ⟨.false, "false", 0⟩
  | .number n => ⟨.number, Expr.literalText (.number n), 0⟩
  | .text s => ⟨.text, s, 0⟩
  | .list items => ⟨.eof, Expr.literalText (.list items), 0⟩
  | .object members => ⟨.eof, Expr.literalText (.object members), 0⟩

/-- An operator as tokens. -/
def CompareOp.tokens : CompareOp → List Token
  | .eq => [⟨.eq, "==", 0⟩]
  | .ne => [⟨.ne, "!=", 0⟩]
  | .lt => [⟨.lt, "<", 0⟩]
  | .le => [⟨.le, "<=", 0⟩]
  | .gt => [⟨.gt, ">", 0⟩]
  | .ge => [⟨.ge, ">=", 0⟩]
  | .contains => [⟨.contains, "CONTAINS", 0⟩]
  | .isIn => [⟨.isIn, "IN", 0⟩]
  | .notIn => [⟨.not, "NOT", 0⟩, ⟨.isIn, "IN", 0⟩]

/-- A connective as a token. -/
def Connective.token : Connective → Token
  | .and => ⟨.and, "AND", 0⟩
  | .or => ⟨.or, "OR", 0⟩

namespace Token

def opening : Token := ⟨.openParen, "(", 0⟩

def closing : Token := ⟨.closeParen, ")", 0⟩

def listOpening : Token := ⟨.openBracket, "[", 0⟩

def listClosing : Token := ⟨.closeBracket, "]", 0⟩

def comma : Token := ⟨.comma, ",", 0⟩

def negation : Token := ⟨.not, "NOT", 0⟩

end Token

namespace Expr

mutual

/-- The tokens that the written form of an expression is put together from. -/
def tokens : Expr → List Token
  | .literal v => [v.token]
  | .path p => [⟨.identifier, p, 0⟩]
  | .list items => .listOpening :: itemTokens items ++ [.listClosing]
  | .not e => .negation :: e.tokens
  | .and l r => .opening :: (l.tokens ++ Connective.and.token :: r.tokens) ++ [.closing]
  | .or l r => .opening :: (l.tokens ++ Connective.or.token :: r.tokens) ++ [.closing]
  | .compare op l r => l.tokens ++ op.tokens ++ r.tokens

/-- The tokens of the items of a list, commas between them. -/
def itemTokens : List Expr → List Token
  | [] => []
  | [e] => e.tokens
  | e :: rest => e.tokens ++ .comma :: itemTokens rest

end

theorem tokens_join (k : Connective) (l r : Expr) :
    (k.join l r).tokens = .opening :: (l.tokens ++ k.token :: r.tokens) ++ [.closing] := by
  cases k <;> simp only [Connective.join, tokens]

end Expr

/-- How a token is written: a text between quotes, the others as their text. -/
def Token.written (t : Token) : List Char :=
  if t.kind = .text then '\'' :: t.text.toList ++ ['\''] else t.text.toList

theorem Value.written_token (v : Value) : v.token.written = (Expr.literalText v).toList := by
  cases v with
  | null => rfl
  | bool b => cases b <;> rfl
  | number n => rfl
  | text s => simp [Value.token, Token.written, Expr.literalText]
  | list items => rfl
  | object members => rfl

/-! ## Texts that display tokens -/

/-- A text is tokens as they are written, with blanks between them. Only behind an opening sign nothing has to
end the token. -/
inductive Displays : List Char → List Token → Prop
  | nil : Displays [] []
  | blank {cs : List Char} {ts : List Token} (rest : Displays cs ts) : Displays (' ' :: cs) ts
  | token {t : Token} {cs : List Char} {ts : List Token} (ends : t ∈ [Token.opening, .listOpening] ∨ Stops cs)
      (rest : Displays cs ts) : Displays (t.written ++ cs) (t :: ts)

section

variable {cs ds : List Char} {ts : List Token}

theorem stops_cons {c : Char} (mem : c ∈ stops) (cs : List Char) : Stops (c :: cs) := mem

/-- A token before a blank. -/
theorem Displays.apart (t : Token) (same : t.written = ds) (rest : Displays cs ts) :
    Displays (ds ++ ' ' :: cs) (t :: ts) :=
  same ▸ .token (.inr (stops_cons (by decide) cs)) (.blank rest)

theorem CompareOp.displays (op : CompareOp) (rest : Displays cs ts) :
    Displays (op.text.toList ++ ' ' :: cs) (op.tokens ++ ts) := by
  cases op with
  | eq | ne | lt | le | gt | ge | contains | isIn => exact .apart _ rfl rest
  | notIn =>
    have whole : Displays ("NOT".toList ++ ' ' :: ("IN".toList ++ ' ' :: cs)) (.negation :: ⟨.isIn, "IN", 0⟩ :: ts) :=
      .apart .negation rfl (.apart ⟨.isIn, "IN", 0⟩ rfl rest)
    exact whole

theorem Connective.displays (k : Connective) (rest : Displays cs ts) :
    Displays (k.token.text.toList ++ ' ' :: cs) (k.token :: ts) := by
  cases k <;> exact .apart _ rfl rest

namespace Expr

theorem text_join (k : Connective) (l r : Expr) : (k.join l r).text.toList =
    '(' :: (l.text.toList ++ ' ' :: (k.token.text.toList ++ ' ' :: (r.text.toList ++ [')']))) := by
  cases k <;> simp [Connective.join, Connective.token, text]

/-- The written form of an expression displays its tokens, whatever ends it. -/
def DisplaysTokens (e : Expr) : Prop :=
  ∀ cs ts, Stops cs → Displays cs ts → Displays (e.text.toList ++ cs) (e.tokens ++ ts)

theorem DisplaysTokens.join {l r : Expr} (k : Connective) (left : l.DisplaysTokens) (right : r.DisplaysTokens) :
    (k.join l r).DisplaysTokens := by
  intro cs ts ends rest
  have closed : Displays (')' :: cs) (.closing :: ts) := .token (t := .closing) (.inr ends) rest
  have behind := k.displays (right _ _ (stops_cons (by decide) cs) closed)
  have inside := left _ _ (stops_cons (by decide) _) (.blank behind)
  have whole : Displays ('(' :: _) (.opening :: _) := .token (t := .opening) (.inl (by decide)) inside
  rw [text_join, tokens_join]
  simpa using whole

mutual

/-- **Written forms display their tokens.** -/
theorem displaysTokens : (e : Expr) → e.DisplaysTokens
  | .literal v => fun cs ts ends rest => by
    rw [text, ← v.written_token]
    exact .token (.inr ends) rest
  | .path p => fun cs ts ends rest => .token (t := ⟨.identifier, p, 0⟩) (.inr ends) rest
  | .list items => fun cs ts ends rest => by
    have closed : Displays (']' :: cs) (.listClosing :: ts) := .token (t := .listClosing) (.inr ends) rest
    have inside := displays_items items _ _ (stops_cons (by decide) cs) closed
    have whole : Displays ('[' :: _) (.listOpening :: _) := .token (t := .listOpening) (.inl (by decide)) inside
    simpa [text, tokens] using whole
  | .not e => fun cs ts ends rest => by
    have whole : Displays ("NOT".toList ++ ' ' :: _) (.negation :: _) :=
      .apart .negation rfl (displaysTokens e cs ts ends rest)
    simpa [text, tokens] using whole
  | .and l r => .join .and (displaysTokens l) (displaysTokens r)
  | .or l r => .join .or (displaysTokens l) (displaysTokens r)
  | .compare op l r => fun cs ts ends rest => by
    have behind := op.displays (displaysTokens r cs ts ends rest)
    have whole := displaysTokens l _ _ (stops_cons (by decide) _) (.blank behind)
    simpa [text, tokens] using whole

theorem displays_items : (items : List Expr) → ∀ cs ts, Stops cs → Displays cs ts →
    Displays ((String.intercalate ", " (itemTexts items)).toList ++ cs) (itemTokens items ++ ts)
  | [] => fun cs ts _ rest => rest
  | [e] => fun cs ts ends rest => by
    have whole := displaysTokens e cs ts ends rest
    simpa [itemTexts, itemTokens] using whole
  | e :: f :: items => fun cs ts ends rest => by
    have behind : Displays (',' :: ' ' :: _) (.comma :: _) :=
      .apart .comma rfl (displays_items (f :: items) cs ts ends rest)
    have whole := displaysTokens e _ _ (stops_cons (by decide) _) behind
    simpa [itemTexts, itemTokens, String.intercalate_cons_cons] using whole

end

/-- The written form of an expression is its tokens as they are written. -/
theorem displays (e : Expr) : Displays e.text.toList e.tokens := by
  simpa using displaysTokens e [] [] trivial .nil

end Expr

/-! ## Legible tokens -/

/-- A token is read off its own written form. -/
def Token.Legible (t : Token) : Prop := Spells t.written t.kind t.text

theorem Token.Legible.lexes {t : Token} (h : t.Legible) (ends : t ∈ [Token.opening, .listOpening] ∨ Stops cs) :
    ∃ F, Lexes t.written [t.mark] F ∧ F cs := by
  rcases ends with opens | stops
  · refine ⟨fun _ => True, ?_, trivial⟩
    simp only [List.mem_cons, List.not_mem_nil, or_false] at opens
    rcases opens with rfl | rfl
    · exact Lexes.sign (c := '(') fun _ => rfl
    · exact Lexes.sign (c := '[') fun _ => rfl
  · exact ⟨Stops, .token h, stops⟩

/-- Legible tokens are read off a text that displays them. -/
theorem Displays.lexes (h : Displays cs ts) (legible : ∀ t ∈ ts, t.Legible) :
    Lexes cs (ts.map Token.mark) (· = []) := by
  induction h with
  | nil => exact .nil
  | blank _ ih => exact Lexes.append .blank (ih legible) fun _ _ => trivial
  | token ends _ ih =>
    rw [List.forall_mem_cons] at legible
    obtain ⟨F, first, follows⟩ := legible.1.lexes ends
    refine first.append (ih legible.2) ?_
    rintro _ rfl
    rwa [List.append_nil]

/-- Where not all tokens are good ones, which are legible, those before the first such are read, and then something
off its written form. -/
theorem Displays.misread (h : Displays cs ts) {Good : Token → Prop} (legible : ∀ t ∈ ts, Good t → t.Legible)
    {column : Nat} {all : List Token} (read : tokensFrom column cs = .ok all) (bad : ∃ t ∈ ts, ¬ Good t) :
    ∃ before t after us more column' behind, ts = before ++ t :: after ∧ ¬ Good t ∧ all = us ++ more ∧
      us.map Token.mark = before.map Token.mark ∧ tokensFrom column' (t.written ++ behind) = .ok more := by
  induction h generalizing column all with
  | nil => simp at bad
  | blank _ ih =>
    rw [tokensFrom, if_pos (by decide)] at read
    exact ih legible read bad
  | @token t cs ts ends _ ih =>
    rw [List.forall_mem_cons] at legible
    by_cases good : Good t
    · obtain ⟨F, first, follows⟩ := (legible.1 good).lexes ends
      obtain ⟨us, marks, reads⟩ := first column cs follows
      rw [reads] at read
      cases behind : tokensFrom (column + t.written.length) cs with
      | error => rw [behind] at read; cases read
      | ok rest =>
        rw [behind] at read
        cases read
        have bad : ∃ t ∈ ts, ¬ Good t := by
          rw [List.exists_mem_cons_iff] at bad
          exact bad.resolve_left fun not => not good
        obtain ⟨before, t', after, vs, more, column', cs', rfl, first, rfl, marks', read⟩ := ih legible.2 behind bad
        refine ⟨t :: before, t', after, us ++ vs, more, column', cs', rfl, first, ?_, ?_, read⟩
        · rw [List.append_assoc]
        · rw [List.map_append, marks, marks']
          rfl
    · exact ⟨[], t, ts, [], all, column, cs, rfl, good, rfl, rfl, read⟩

end

end Workflows
