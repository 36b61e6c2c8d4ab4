import Workflows.Expr.Parser

/-!
# Lists of tokens with an end

* `Closed`: lists of tokens with the end token last and nowhere else; `closed_iff`;
* **`tokensFrom_closed`**: texts have such lists of tokens;
* `Cursor.Valid`: a cursor in such a list, with no more levels open than are allowed;
* `Cursor.Valid.advance`, `Cursor.Valid.opened`, `Cursor.descend_eq_ok`, `Cursor.expect_eq_ok`: how a cursor
  moves on.
-/

namespace Workflows

/-- The end token is the last one, and there is no other. -/
inductive Closed : List Token → Prop
  | last {t : Token} (kind : t.kind = .eof) : Closed [t]
  | cons {t : Token} {ts : List Token} (kind : t.kind ≠ .eof) (rest : Closed ts) : Closed (t :: ts)

theorem closed_iff {ts : List Token} :
    Closed ts ↔ ∃ body last, ts = body ++ [last] ∧ last.kind = .eof ∧ ∀ t ∈ body, t.kind ≠ .eof := by
  constructor
  · intro h
    induction h with
    | @last t kind => exact ⟨[], t, rfl, kind, by simp⟩
    | @cons t _ kind _ ih =>
      obtain ⟨body, last, rfl, ended, inner⟩ := ih
      exact ⟨t :: body, last, rfl, ended, List.forall_mem_cons.2 ⟨kind, inner⟩⟩
  · rintro ⟨body, last, rfl, ended, inner⟩
    induction body with
    | nil => exact .last ended
    | cons t body ih =>
      rw [List.forall_mem_cons] at inner
      exact .cons inner.1 (ih inner.2)

/-! ## Tokens of a text -/

theorem operator_kind {rest : List Char} {alone : TokenKind × String}
    {pairs : List (Char × TokenKind × String)} (single : alone.1 ≠ .eof)
    (double : ∀ p ∈ pairs, p.2.1 ≠ .eof) : (operator rest alone pairs).kind ≠ .eof := by
  unfold operator
  split
  · exact single
  · split
    · next c _ _ kind text found =>
      obtain ⟨before, after, rfl, -⟩ := List.lookup_eq_some_iff.1 found
      exact double (c, kind, text) (by simp)
    · exact single

theorem doubled_kind {c : Char} {kind : TokenKind} {rest : List Char} {l : Lexeme} (inner : kind ≠ .eof)
    (h : doubled c kind rest = .ok l) : l.kind ≠ .eof := by
  unfold doubled at h
  split at h
  · cases h
    exact inner
  · cases h

theorem wordKind_ne (word : String) : wordKind word ≠ .eof := by
  unfold wordKind
  split <;> decide

/-- No token of a text is an end token. -/
theorem lexeme_kind {c : Char} {rest : List Char} {l : Lexeme} (h : lexeme c rest = .ok l) :
    l.kind ≠ .eof := by
  unfold lexeme at h
  split at h
  iterate 5
    · cases h
      decide
  iterate 4
    · cases h
      exact operator_kind (by decide) (by decide)
  · exact doubled_kind (by decide) h
  · exact doubled_kind (by decide) h
  · split at h
    · split at h
      · cases h
        exact (by decide : TokenKind.text ≠ .eof)
      · cases h
    · split at h
      · cases h
        exact (by decide : TokenKind.number ≠ .eof)
      · split at h
        · cases h
          exact wordKind_ne _
        · cases h

/-- **The tokens of a text have the end token last and nowhere else.** -/
theorem tokensFrom_closed {column : Nat} {cs : List Char} {ts : List Token}
    (h : tokensFrom column cs = .ok ts) : Closed ts := by
  induction column, cs using tokensFrom.induct generalizing ts with
  | case1 column =>
    unfold tokensFrom at h
    cases h
    exact .last rfl
  | case2 column c rest blank ih =>
    unfold tokensFrom at h
    rw [if_pos blank] at h
    exact ih h
  | case3 column c rest blank what fails =>
    unfold tokensFrom at h
    rw [if_neg blank, fails] at h
    cases h
  | case4 column c rest blank l read e fails ih =>
    unfold tokensFrom at h
    rw [if_neg blank, read] at h
    dsimp only at h
    rw [fails] at h
    cases h
  | case5 column c rest blank l read tokens rest' ih =>
    unfold tokensFrom at h
    rw [if_neg blank, read] at h
    dsimp only at h
    rw [rest'] at h
    cases h
    exact .cons (lexeme_kind read) (ih rest')

/-! ## Cursors -/

namespace Cursor

variable {c c' : Cursor} {t : Token} {ts : List Token} {d : Nat} {k : TokenKind}

/-- The cursor stands in a list of tokens with an end, and no more levels are open than are allowed. -/
structure Valid (c : Cursor) : Prop where
  closed : Closed c.rest
  depth : c.depth ≤ maxNesting

@[simp] theorem advance_depth : c.advance.depth = c.depth := by
  unfold advance
  split <;> rfl

theorem advance_kind : c.advance.kind = c.secondKind := by
  unfold advance secondKind
  split <;> rfl

theorem advance_mk (more : ts ≠ []) : (⟨t :: ts, d⟩ : Cursor).advance = ⟨ts, d⟩ := by
  cases ts with
  | nil => exact absurd rfl more
  | cons => rfl

/-- Past a token that is not the end. -/
theorem Valid.advance (h : c.Valid) (inner : c.kind ≠ .eof) :
    c.rest = c.peek :: c.advance.rest ∧ c.advance.Valid := by
  obtain ⟨rest, d⟩ := c
  cases h.closed with
  | last kind => exact absurd kind inner
  | @cons t ts kind closed =>
    have more : ts ≠ [] := by
      rintro rfl
      cases closed
    rw [advance_mk more]
    exact ⟨rfl, closed, h.depth⟩

theorem descend_eq_ok : c.descend = .ok c' ↔ c.depth < maxNesting ∧ c' = ⟨c.rest, c.depth + 1⟩ := by
  unfold descend
  split
  · next full =>
    constructor
    · intro h
      cases h
    · rintro ⟨room, -⟩
      exact absurd full (Nat.not_le.2 room)
  · next room =>
    rw [Except.ok.injEq, eq_comm]
    exact ⟨fun h => ⟨Nat.not_le.1 room, h⟩, And.right⟩

/-- Past a token and one level deeper. -/
theorem Valid.opened (h : c.Valid) (inner : c.kind ≠ .eof) (descended : c.advance.descend = .ok c') :
    c' = ⟨c.advance.rest, c.depth + 1⟩ ∧ c'.Valid := by
  obtain ⟨room, rfl⟩ := descend_eq_ok.1 descended
  refine ⟨?_, (h.advance inner).2.closed, room⟩
  rw [advance_depth]

theorem expect_eq_ok : c.expect k = .ok c' ↔ c.kind = k ∧ c' = c.advance := by
  unfold expect
  split
  · next same =>
    rw [Except.ok.injEq, eq_comm]
    exact ⟨fun h => ⟨same, h⟩, And.right⟩
  · next other =>
    constructor
    · intro h
      split at h <;> cases h
    · rintro ⟨same, -⟩
      exact absurd same other

end Cursor

end Workflows
