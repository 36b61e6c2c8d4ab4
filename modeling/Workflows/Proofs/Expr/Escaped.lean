import Workflows.Proofs.Expr.Tiling

/-!
# Escapes in text literals

Every text can be written between quotes, and what is written there is read up to the first quote that is not
escaped.

* `backslashes`: how many backslashes a text ends with; behind an odd number of them a character is escaped;
* `Enclosed`: a text without a quote that is not escaped, which may stand between two; `unescape`: what it stands for;
  `quoted_iff`: so the lexer takes it, which reads from left to right;
* `escape`: how a text is written between quotes; `quoted_escape`;
* `FirstToken`: what the lexer reads first, and what it leaves;
* **`first_token_of_quote`**: off a text that starts with a quote.
-/

namespace Workflows

/-! ## Escaped characters -/

/-- How many backslashes a text ends with. -/
def backslashes (cs : List Char) : Nat := (cs.reverse.takeWhile (· = '\\')).length

/-- What stands between two quotes `q`: the second one is not escaped, and every `q` between them is. -/
structure Enclosed (q : Char) (inside : List Char) : Prop where
  closes : Even (backslashes inside)
  escaped : ∀ before more, inside = before ++ q :: more → Odd (backslashes before)

/-- What an escaped character stands for. -/
def meaning : Char → Char
  | 'n' => '\n'
  | 't' => '\t'
  | c => c

/-- What the inside of a literal stands for. -/
def unescape : List Char → List Char
  | [] => []
  | [c] => [c]
  | c :: e :: rest => if c = '\\' then meaning e :: unescape rest else c :: unescape (e :: rest)

section

variable {q c e : Char} {cs inside meant rest : List Char}

theorem unescaped_eq_meaning (c : Char) : textBody?.unescaped c = meaning c := by
  unfold textBody?.unescaped meaning
  split
  · next same => subst same; rfl
  · split
    · next same => subst same; rfl
    · next feed tab =>
      split
      · exact absurd rfl feed
      · exact absurd rfl tab
      · rfl

theorem unescape_plain (bare : c ≠ '\\') : unescape (c :: cs) = c :: unescape cs := by
  cases cs with
  | nil => rfl
  | cons e rest => rw [unescape, if_neg bare]

theorem unescape_escaped : unescape ('\\' :: e :: cs) = meaning e :: unescape cs := by
  rw [unescape, if_pos rfl]

/-! ### Backslashes, counted from the left -/

theorem backslashes_le (cs : List Char) : backslashes cs ≤ cs.length := by
  rw [backslashes, ← @List.length_reverse _ cs]
  exact (List.takeWhile_prefix _).length_le

/-- A backslash in front counts only if there is nothing else behind it. -/
theorem backslashes_cons (c : Char) (cs : List Char) : backslashes (c :: cs) =
    if c = '\\' ∧ backslashes cs = cs.length then backslashes cs + 1 else backslashes cs := by
  unfold backslashes
  rw [List.reverse_cons, List.takeWhile_append, List.length_reverse]
  by_cases all : (cs.reverse.takeWhile (· = '\\')).length = cs.length <;> by_cases slash : c = '\\' <;>
    simp [all, slash]

theorem backslashes_plain (bare : c ≠ '\\') : backslashes (c :: cs) = backslashes cs := by
  rw [backslashes_cons, if_neg fun h => bare h.1]

/-- What is escaped at the start of a text escapes nothing behind it. -/
theorem even_backslashes_escaped : Even (backslashes ('\\' :: e :: cs)) ↔ Even (backslashes cs) := by
  have few := backslashes_le cs
  rw [backslashes_cons, backslashes_cons, List.length_cons]
  split_ifs with slash both both
  · rw [Nat.add_assoc, Nat.even_add]
    exact iff_true_right even_two
  · exact absurd ⟨rfl, congrArg (· + 1) slash.2⟩ both
  · exact absurd both.2 (by omega)
  · rfl

/-! ### What stands between quotes -/

theorem Enclosed.nil : Enclosed q [] := ⟨Even.zero, by simp⟩

theorem enclosed_plain_iff (bare : c ≠ '\\') (inner : c ≠ q) : Enclosed q (c :: cs) ↔ Enclosed q cs := by
  constructor
  · intro h
    have even := h.closes
    rw [backslashes_plain bare] at even
    refine ⟨even, fun before more same => ?_⟩
    have odd := h.escaped (c :: before) more (by rw [same]; rfl)
    rwa [backslashes_plain bare] at odd
  · intro h
    refine ⟨(backslashes_plain bare).symm ▸ h.closes, fun before more same => ?_⟩
    cases before with
    | nil => exact absurd (List.cons.inj same).1 inner
    | cons x before =>
      obtain ⟨rfl, behind⟩ := List.cons.inj same
      rw [backslashes_plain bare]
      exact h.escaped before more behind

theorem enclosed_escaped_iff (bare : q ≠ '\\') : Enclosed q ('\\' :: e :: cs) ↔ Enclosed q cs := by
  constructor
  · intro h
    refine ⟨even_backslashes_escaped.1 h.closes, fun before more same => ?_⟩
    have odd := h.escaped ('\\' :: e :: before) more (by rw [same]; rfl)
    rwa [← Nat.not_even_iff_odd, even_backslashes_escaped, Nat.not_even_iff_odd] at odd
  · intro h
    refine ⟨even_backslashes_escaped.2 h.closes, fun before more same => ?_⟩
    match before with
    | [] => exact absurd (List.cons.inj same).1.symm bare
    | [x] =>
      cases (List.cons.inj same).1
      exact odd_one
    | x :: y :: before =>
      obtain ⟨slash, behind⟩ := List.cons.inj same
      obtain ⟨-, behind⟩ := List.cons.inj behind
      rw [← slash, ← Nat.not_even_iff_odd, even_backslashes_escaped, Nat.not_even_iff_odd]
      exact h.escaped before more behind

/-- A text between quotes is read from left to right as it is said by its quotes that are not escaped. -/
theorem quoted_iff (bare : q ≠ '\\') : Quoted q inside meant ↔ Enclosed q inside ∧ meant = unescape inside := by
  constructor
  · intro h
    induction h with
    | nil => exact ⟨.nil, rfl⟩
    | plain plain inner _ ih =>
      rw [enclosed_plain_iff plain inner, unescape_plain plain]
      exact ⟨ih.1, congrArg _ ih.2⟩
    | escaped e _ ih =>
      rw [enclosed_escaped_iff bare, unescape_escaped, unescaped_eq_meaning]
      exact ⟨ih.1, congrArg _ ih.2⟩
  · rintro ⟨enclosed, rfl⟩
    induction inside using textBody?.induct q with
    | case1 => exact .nil
    | case2 => exact absurd enclosed.closes (by decide)
    | case3 e rest ih =>
      rw [unescape_escaped, ← unescaped_eq_meaning]
      exact .escaped e (ih ((enclosed_escaped_iff bare).1 enclosed))
    | case4 rest _ => exact absurd (enclosed.escaped [] rest rfl) (by decide)
    | case5 c rest plain inner ih =>
      rw [unescape_plain plain]
      exact .plain plain inner (ih ((enclosed_plain_iff plain inner).1 enclosed))

/-! ### Writing a text between quotes -/

/-- A text as it is written between quotes `q`: with a backslash before every backslash and every `q`. -/
def escape (q : Char) (cs : List Char) : List Char :=
  cs.flatMap fun c => if c = '\\' ∨ c = q then ['\\', c] else [c]

/-- A character that is escaped in writing stands for itself, since `n` and `t` are written as they are. -/
theorem meaning_of_escaped (quote : q = '"' ∨ q = '\'') (special : c = '\\' ∨ c = q) : meaning c = c := by
  rcases special with rfl | rfl
  · rfl
  · rcases quote with rfl | rfl <;> rfl

theorem quoted_escape (quote : q = '"' ∨ q = '\'') (cs : List Char) : Quoted q (escape q cs) cs := by
  induction cs with
  | nil => exact .nil
  | cons c cs ih =>
    rw [escape, List.flatMap_cons, ← escape]
    split
    · next special =>
      have read := Quoted.escaped c ih
      rwa [unescaped_eq_meaning, meaning_of_escaped quote special] at read
    · next plain =>
      rw [not_or] at plain
      exact .plain plain.1 plain.2 ih

end

/-! ## The lexer -/

/-- Off a text, the lexer first reads a token, and then it goes on with the rest of the text. -/
structure FirstToken (column : Nat) (cs : List Char) (t : Token) (rest : List Char) : Prop where
  step : ∃ c more l, cs = c :: more ∧ lexeme c more = .ok l ∧ t = ⟨l.kind, l.text, column⟩ ∧ more.drop l.more = rest
  tokens : tokensFrom column cs = (tokensFrom (column + (cs.length - rest.length)) rest).map (t :: ·)

section

variable {q : Char} {inside meant : List Char}

theorem lexeme_of_quote (quote : q = '"' ∨ q = '\'') (rest : List Char) : lexeme q rest =
    match textBody? q rest with
    | some (body, n) => .ok ⟨.text, String.ofList body, n⟩
    | none => .error .unclosedText := by
  have sign : q ∉ signs := by rcases quote with rfl | rfl <;> decide
  exact (lexeme_of_not_sign sign).trans (if_pos (by simpa using quote))

/-- A text literal is the longest token at its place, whatever follows. -/
theorem Quoted.longest (quote : q = '"' ∨ q = '\'') (body : Quoted q inside meant) (rest : List Char) :
    Longest (q :: (inside ++ [q])) .text (String.ofList meant) (q :: (inside ++ [q]) ++ rest) := by
  have bare : q ≠ '\\' := by rcases quote with rfl | rfl <;> decide
  have found := (textBody?_eq_some_iff bare).2 ⟨inside, rest, rfl, body, rfl⟩
  have read : lexeme q (inside ++ [q] ++ rest) = .ok ⟨.text, String.ofList meant, inside.length + 1⟩ := by
    rw [lexeme_of_quote quote, List.append_assoc, List.singleton_append, found]
  obtain ⟨cs, more, same, width, longest⟩ := lexeme_eq_ok_iff.1 read
  obtain ⟨rfl, rfl⟩ := List.append_inj same (by simpa using width)
  exact longest

theorem Quoted.firstToken (quote : q = '"' ∨ q = '\'') (body : Quoted q inside meant) (column : Nat)
    (rest : List Char) :
    FirstToken column (q :: (inside ++ q :: rest)) ⟨.text, String.ofList meant, column⟩ rest := by
  have longest := body.longest quote rest
  have same : q :: (inside ++ q :: rest) = q :: (inside ++ [q]) ++ rest := by simp
  rw [same]
  constructor
  · refine ⟨q, inside ++ [q] ++ rest, _, rfl, longest.lexeme, rfl, ?_⟩
    exact List.drop_left
  · rw [tokensFrom_token longest, List.length_append, Nat.add_sub_cancel]

end

/-- **What the lexer reads off a text that starts with a quote.** Every text is read back as it is written between
quotes, and what follows is left; what is between the quotes is read up to the first one that is not escaped, an
escaped character being itself but for `\n` and `\t`; and where no such quote follows, the literal is not closed. -/
theorem first_token_of_quote (q : Char) (quote : q = '"' ∨ q = '\'') (column : Nat) :
    (∀ (s : String) (rest : List Char),
      FirstToken column (q :: (escape q s.toList ++ q :: rest)) ⟨.text, s, column⟩ rest) ∧
    (∀ inside rest, Enclosed q inside →
      FirstToken column (q :: (inside ++ q :: rest)) ⟨.text, String.ofList (unescape inside), column⟩ rest) ∧
    ∀ cs, (∀ inside rest, cs = inside ++ q :: rest → Odd (backslashes inside)) →
      tokensFrom column (q :: cs) = .error (.malformed column .unclosedText) ∧
      Malformation.unclosedText.message = "Unterminated string literal" := by
  have bare : q ≠ '\\' := by rcases quote with rfl | rfl <;> decide
  refine ⟨fun s rest => ?_, fun inside rest enclosed => ?_, fun cs escaped => ⟨?_, rfl⟩⟩
  · have read := (quoted_escape quote s.toList).firstToken quote column rest
    rwa [String.ofList_toList] at read
  · exact ((quoted_iff bare).2 ⟨enclosed, rfl⟩).firstToken quote column rest
  · have unclosed : textBody? q cs = none := by
      cases found : textBody? q cs with
      | none => rfl
      | some body =>
        obtain ⟨inside, rest, same, quoted, -⟩ := (textBody?_eq_some_iff bare).1 found
        have even := ((quoted_iff bare).1 quoted).1.closes
        exact absurd even (Nat.not_even_iff_odd.2 (escaped inside rest same))
    have blank : ¬ Text.isBlankChar q := by rcases quote with rfl | rfl <;> decide
    rw [tokensFrom, if_neg blank, lexeme_of_quote quote, unclosed]

/-- A text that ends with a backslash and holds the quote, and a literal that a backslash before its last quote keeps
from being closed. -/
theorem first_token_of_apostrophe :
    ('\'' = '"' ∨ '\'' = '\'') ∧
      FirstToken 5 "'it\\'s \\\\' OR b".toList ⟨.text, "it's \\", 5⟩ " OR b".toList ∧
      tokensFrom 5 ['\'', '\\', '\''] = .error (.malformed 5 .unclosedText) := by
  have quote : '\'' = '"' ∨ '\'' = '\'' := .inr rfl
  obtain ⟨written, -, unclosed⟩ := first_token_of_quote '\'' quote 5
  refine ⟨quote, written "it's \\" " OR b".toList, (unclosed ['\\', '\''] fun inside rest same => ?_).1⟩
  match inside with
  | [] => cases same
  | [c] => cases same; exact odd_one
  | c :: d :: inside => simp at same

end Workflows
