import Workflows.Proofs.Expr.Spelling
import Workflows.Proofs.Expr.Tokens

/-!
# The tokens of a text cover it

A text is blanks and tokens, and no character of it is left out or read twice.

* `Token.Covers`: a token stands for a piece of a text; `Longest.covers`: the longest token at a place does;
* `Tiled`: a text is blanks and tokens in turn, up to what is left of it; `Tiled.columns`: the tokens stand in
  ascending columns;
* `tokensFrom_blanks`, `tokensFrom_token`: how the lexer goes on;
* `Tiled.tokensFrom`: it finds the tokens that a text is made of; `exists_tiled`: every text is made of such, up to
  its end or to where no token can be formed; `Stuck.tokensFrom`: there the lexer says so;
* **`tokenize_tiled`**: either holds of every text.
-/

namespace Workflows

/-- A token stands for the piece `span` of a text, between `before` and `after`. -/
structure Token.Covers (t : Token) (before span after : List Char) : Prop where
  column : t.column = before.length + 1
  nonempty : span ≠ []
  /-- The piece is a token, and it goes as far as one can. -/
  longest : Longest span t.kind t.text (span ++ after)
  /-- Identifiers, keywords and numbers stand for themselves. -/
  verbatim : t.kind.Verbatim → t.text.toList = span

/-- Of a text that goes on after `before`, what is up to `rest` are blanks and tokens in turn. -/
inductive Tiled : List Char → List Char → List Token → List Char → Prop
  | blanks {before blanks rest : List Char} (blank : ∀ c ∈ blanks, Text.isBlankChar c) :
      Tiled before (blanks ++ rest) [] rest
  | token {before blanks span after rest : List Char} {t : Token} {ts : List Token}
      (blank : ∀ c ∈ blanks, Text.isBlankChar c) (covers : t.Covers (before ++ blanks) span after)
      (further : Tiled (before ++ blanks ++ span) after ts rest) :
      Tiled before (blanks ++ (span ++ after)) (t :: ts) rest

section

variable {before cs span after rest : List Char} {c : Char} {t : Token} {ts : List Token}
  {kind : TokenKind} {text : String}

theorem Longest.covers (h : Longest span kind text (span ++ after)) :
    Token.Covers ⟨kind, text, before.length + 1⟩ before span after where
  column := rfl
  nonempty := h.spells.ne_nil
  longest := h
  verbatim := h.spells.verbatim

/-- No token is an end. -/
theorem Spells.kind_ne (h : Spells span kind text) : kind ≠ .eof := by
  cases h with
  | mark mem =>
    have all : ∀ m ∈ marks, m.2.1 ≠ .eof := by decide
    exact all _ mem
  | text | number | negative => decide
  | word => exact wordKind_ne _

/-! ## Tiled texts -/

theorem Tiled.none (before rest : List Char) : Tiled before rest [] rest := @Tiled.blanks before [] rest (by simp)

/-- A token without blanks before it. -/
theorem Tiled.cover (covers : t.Covers before span after) (further : Tiled (before ++ span) after ts rest) :
    Tiled before (span ++ after) (t :: ts) rest :=
  @Tiled.token before [] span after rest t ts (by simp) (by rwa [List.append_nil])
    (by rwa [List.append_nil])

/-- A blank in front is one more blank. -/
theorem Tiled.cons (blank : Text.isBlankChar c) (h : Tiled (before ++ [c]) cs ts rest) :
    Tiled before (c :: cs) ts rest := by
  cases h with
  | blanks blanks =>
    rw [← List.cons_append]
    exact .blanks (List.forall_mem_cons.2 ⟨blank, blanks⟩)
  | @token _ blanks' span _ _ _ _ blanks covers further =>
    have same : before ++ [c] ++ blanks' = before ++ c :: blanks' := by simp
    rw [same] at covers further
    rw [← List.cons_append]
    exact .token (List.forall_mem_cons.2 ⟨blank, blanks⟩) covers further

/-- Nothing of the text is lost. -/
theorem Tiled.suffix (h : Tiled before cs ts rest) : rest <:+ cs := by
  induction h with
  | @blanks _ blanks rest => exact List.suffix_append _ _
  | token _ _ _ ih => exact (ih.trans (List.suffix_append _ _)).trans (List.suffix_append _ _)

/-- There are no more tokens than characters. -/
theorem Tiled.length_le (h : Tiled before cs ts rest) : ts.length ≤ cs.length := by
  induction h with
  | blanks => exact Nat.zero_le _
  | token _ covers _ ih =>
    have taken := List.length_pos_of_ne_nil covers.nonempty
    simp only [List.length_append, List.length_cons]
    omega

theorem Tiled.kind_ne (h : Tiled before cs ts rest) : ∀ t ∈ ts, t.kind ≠ .eof := by
  induction h with
  | blanks => simp
  | token _ covers _ ih => exact List.forall_mem_cons.2 ⟨covers.longest.spells.kind_ne, ih⟩

theorem Tiled.spells (h : Tiled before cs ts rest) : ∀ t ∈ ts, ∃ span, Spells span t.kind t.text := by
  induction h with
  | blanks => simp
  | token _ covers _ ih => exact List.forall_mem_cons.2 ⟨⟨_, covers.longest.spells⟩, ih⟩

/-- Tokens stand within the text, and one after another. -/
theorem Tiled.columns (h : Tiled before cs ts rest) :
    (∀ t ∈ ts, before.length < t.column ∧ t.column ≤ before.length + cs.length) ∧
      (ts.map (·.column)).Pairwise (· < ·) := by
  induction h with
  | blanks => simp
  | @token before blanks span after rest t ts _ covers _ ih =>
    have taken := List.length_pos_of_ne_nil covers.nonempty
    obtain ⟨within, ascending⟩ := ih
    simp only [List.length_append] at within ⊢
    have column : t.column = before.length + blanks.length + 1 := by
      rw [covers.column, List.length_append]
    refine ⟨List.forall_mem_cons.2 ⟨by omega, fun u mem => ?_⟩, ?_⟩
    · have := within u mem
      omega
    · rw [List.map_cons, List.pairwise_cons, List.forall_mem_map]
      refine ⟨fun u mem => ?_, ascending⟩
      have := within u mem
      omega

/-! ## The lexer -/

theorem tokensFrom_blanks {blanks : List Char} (blank : ∀ c ∈ blanks, Text.isBlankChar c) (column : Nat) :
    tokensFrom column (blanks ++ cs) = tokensFrom (column + blanks.length) cs := by
  induction blanks generalizing column with
  | nil => rfl
  | cons c blanks ih =>
    rw [List.forall_mem_cons] at blank
    rw [List.cons_append, tokensFrom, if_pos blank.1, ih blank.2, List.length_cons, Nat.add_assoc,
      Nat.add_comm 1]

/-- The longest token is read, and then what is behind it. -/
theorem tokensFrom_token (h : Longest span kind text (span ++ after)) (column : Nat) :
    tokensFrom column (span ++ after) =
      (tokensFrom (column + span.length) after).map (⟨kind, text, column⟩ :: ·) := by
  cases span with
  | nil => exact absurd rfl h.spells.ne_nil
  | cons c cs =>
    rw [List.cons_append, tokensFrom, if_neg (by rw [h.spells.head_not_blank]; exact Bool.false_ne_true),
      h.lexeme]
    dsimp only [Lexeme.width]
    rw [List.drop_left, List.length_cons]
    cases tokensFrom (column + (cs.length + 1)) after <;> rfl

/-- The lexer finds the tokens that a text is made of. -/
theorem Tiled.tokensFrom (h : Tiled before cs ts rest) : Workflows.tokensFrom (before.length + 1) cs =
    (Workflows.tokensFrom (before.length + (cs.length - rest.length) + 1) rest).map (ts ++ ·) := by
  induction h with
  | @blanks before blanks rest blank =>
    rw [tokensFrom_blanks blank, List.length_append, Nat.add_sub_cancel, Nat.add_right_comm]
    cases Workflows.tokensFrom (before.length + blanks.length + 1) rest <;> rfl
  | @token before blanks span after rest t ts blank covers further ih =>
    have shorter := further.suffix.length_le
    obtain ⟨kind, text, column⟩ := t
    have place : column = before.length + blanks.length + 1 := by
      rw [← List.length_append]
      exact covers.column
    rw [tokensFrom_blanks blank, show before.length + 1 + blanks.length = column by omega,
      tokensFrom_token covers.longest, show column + span.length = (before ++ blanks ++ span).length + 1 by
        simp only [List.length_append]; omega, ih]
    simp only [List.length_append]
    rw [show before.length + blanks.length + span.length + (after.length - rest.length) + 1 =
      before.length + (blanks.length + (span.length + after.length) - rest.length) + 1 by omega]
    cases Workflows.tokensFrom _ rest <;> rfl

/-- The lexer finds no token at the start of `rest`, nor a blank. -/
structure Stuck (rest : List Char) : Prop where
  starts : ∃ c more, rest = c :: more ∧ Text.isBlankChar c = false
  none : ∀ span kind text, Spells span kind text → ¬ span <+: rest

/-- Every text is made of blanks and tokens, up to its end or to where no token can be formed. -/
theorem exists_tiled (before cs : List Char) : ∃ ts rest, Tiled before cs ts rest ∧ (rest = [] ∨ Stuck rest) := by
  induction size : cs.length using Nat.strong_induction_on generalizing before cs with
  | _ n ih =>
    cases cs with
    | nil => exact ⟨[], [], .none _ _, .inl rfl⟩
    | cons c cs =>
      rw [List.length_cons] at size
      by_cases blank : Text.isBlankChar c
      · obtain ⟨ts, rest, tiled, ends⟩ := ih cs.length (by omega) (before ++ [c]) cs rfl
        exact ⟨ts, rest, tiled.cons blank, ends⟩
      by_cases token : ∃ span kind text, Spells span kind text ∧ span <+: c :: cs
      · obtain ⟨_, _, _, spells, here⟩ := token
        obtain ⟨span, kind, text, longest⟩ := spells.exists_longest here
        obtain ⟨after, whole⟩ := longest.here
        rw [← whole] at longest ⊢
        have taken := List.length_pos_of_ne_nil longest.spells.ne_nil
        have shorter : after.length < n := by
          rw [← size, ← List.length_cons, ← whole, List.length_append]
          omega
        obtain ⟨ts, rest, tiled, ends⟩ := ih after.length shorter (before ++ span) after rfl
        exact ⟨⟨kind, text, before.length + 1⟩ :: ts, rest, .cover longest.covers tiled, ends⟩
      · rw [Bool.not_eq_true] at blank
        refine ⟨[], c :: cs, .none _ _, .inr ⟨⟨c, cs, rfl, blank⟩, fun span kind text spells here => ?_⟩⟩
        exact token ⟨span, kind, text, spells, here⟩

/-- Where no token can be formed, the lexer says so. -/
theorem Stuck.tokensFrom (h : Stuck rest) (column : Nat) :
    ∃ what, Workflows.tokensFrom column rest = .error (.malformed column what) := by
  obtain ⟨⟨c, more, rfl, blank⟩, none⟩ := h
  obtain ⟨what, fails⟩ := lexeme_eq_error_iff.2 none
  refine ⟨what, ?_⟩
  rw [Workflows.tokensFrom, if_neg (by rw [blank]; exact Bool.false_ne_true), fails]

end

/-- The tokens that a text is made of are those that the lexer finds, with the end behind them. -/
theorem Tiled.tokenize {s : String} {body : List Token} (h : Tiled [] s.toList body []) :
    Workflows.tokenize s = .ok (body ++ [⟨.eof, "", s.length + 1⟩]) := by
  have read := h.tokensFrom
  simp only [List.length_nil, Nat.zero_add, Nat.sub_zero, String.length_toList] at read
  rw [Workflows.tokenize, read, Workflows.tokensFrom]
  rfl

/-- What the lexer finds in a text is what it is made of. -/
theorem exists_tiled_of_tokenize {s : String} {tokens : List Token} (read : Workflows.tokenize s = .ok tokens) :
    ∃ body, tokens = body ++ [⟨.eof, "", s.length + 1⟩] ∧ Tiled [] s.toList body [] := by
  obtain ⟨body, rest, tiled, ends⟩ := exists_tiled [] s.toList
  rcases ends with rfl | stuck
  · exact ⟨body, Except.ok.inj (read.symm.trans tiled.tokenize), tiled⟩
  · obtain ⟨what, fails⟩ := stuck.tokensFrom ([].length + (s.toList.length - rest.length) + 1)
    have none := tiled.tokensFrom
    rw [fails] at none
    cases read.symm.trans none

/-- **The tokens of a text cover it.** Every text is blanks and tokens in turn, and these are what the lexer
finds, in ascending columns and with the end behind them; or it is so up to a character at which no token can be
formed, and the lexer names its column. -/
theorem tokenize_tiled (s : String) :
    (∃ body, tokenize s = .ok (body ++ [⟨.eof, "", s.length + 1⟩]) ∧ Tiled [] s.toList body [] ∧
      (∀ t ∈ body, t.kind ≠ .eof) ∧ (∀ t ∈ body, 1 ≤ t.column ∧ t.column ≤ s.length) ∧
      (body.map (·.column)).Pairwise (· < ·) ∧ body.length ≤ s.length ∧
      ∀ body', Tiled [] s.toList body' [] → body' = body) ∨
    (∃ before c rest what body, tokenize s = .error (.malformed (before.length + 1) what) ∧
      s.toList = before ++ c :: rest ∧ Tiled [] s.toList body (c :: rest) ∧ Text.isBlankChar c = false ∧
      ∀ span kind text, Spells span kind text → ¬ span <+: c :: rest) := by
  obtain ⟨body, rest, tiled, ends⟩ := exists_tiled [] s.toList
  rcases ends with rfl | stuck
  · left
    obtain ⟨within, ascending⟩ := tiled.columns
    have few := tiled.length_le
    simp only [List.length_nil, Nat.zero_add, String.length_toList] at within few
    refine ⟨body, tiled.tokenize, tiled, tiled.kind_ne, within, ascending, few, fun body' tiled' => ?_⟩
    have same := tiled'.tokenize
    rw [tiled.tokenize] at same
    exact (List.append_inj_left' (Except.ok.inj same) rfl).symm
  · right
    obtain ⟨before, whole⟩ := tiled.suffix
    obtain ⟨what, fails⟩ := stuck.tokensFrom (before.length + 1)
    obtain ⟨⟨c, more, rfl, blank⟩, none⟩ := stuck
    refine ⟨before, c, more, what, body, ?_, whole.symm, tiled, blank, none⟩
    have read := tiled.tokensFrom
    rw [← whole, List.length_append, Nat.add_sub_cancel, List.length_nil, Nat.zero_add, Nat.zero_add,
      fails] at read
    rw [tokenize, ← whole]
    exact read

end Workflows
