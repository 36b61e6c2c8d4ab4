import Workflows.Proofs.Expr.Completeness
import Workflows.Proofs.Expr.Tiling

/-!
# Texts put together from tokens

What stands between blanks, brackets and commas is read by itself.

* `Token.mark`: a token without its column; `Derives.of_marks`: the grammar looks at nothing else;
* `Stops`: what ends every token; `Spells.longest`: before it, a token is the longest one;
* `Lexes`: a text is read as tokens with these marks, wherever it stands before what may follow it;
  `Lexes.token`, `Lexes.sign`, `Lexes.blank`, `Lexes.append`: how such texts are put together;
* **`Lexes.parse_eq_ok_iff`**: the trees of such a text are those of its tokens.
-/

namespace Workflows

/-! ## Tokens without their columns -/

/-- A token but for its column. -/
def Token.mark (t : Token) : TokenKind × String := (t.kind, t.text)

theorem Token.mark_eq {t u : Token} (same : t.mark = u.mark) : t.kind = u.kind ∧ t.text = u.text :=
  Prod.mk.inj same

theorem Token.Denotes.of_mark {t u : Token} {v : Value} (h : t.Denotes v) (same : u.mark = t.mark) :
    u.Denotes v := by
  obtain ⟨kind', text'⟩ := Token.mark_eq same
  cases h with
  | text kind => rw [← text']; exact .text (kind'.trans kind)
  | true kind => exact .true (kind'.trans kind)
  | false kind => exact .false (kind'.trans kind)
  | null kind => exact .null (kind'.trans kind)
  | int kind reads least greatest => exact .int (kind'.trans kind) (by rw [text', reads]) least greatest
  | real kind wide reads finite =>
    exact .real (kind'.trans kind) (by rwa [text']) (by rw [text', reads]) finite

/-- Tokens with the marks of others, some before and some behind one, are cut in the same way. -/
theorem cut_of_marks {ts us vs : List Token} {o : Token} (same : us.map Token.mark = (ts ++ o :: vs).map Token.mark) :
    ∃ xs o' ys, us = xs ++ o' :: ys ∧ xs.map Token.mark = ts.map Token.mark ∧ o'.kind = o.kind ∧
      ys.map Token.mark = vs.map Token.mark := by
  rw [List.map_append, List.map_cons, List.map_eq_append_iff] at same
  obtain ⟨xs, ys, rfl, before, behind⟩ := same
  obtain ⟨o', ys, rfl, mark, after⟩ := List.map_eq_cons_iff.1 behind
  exact ⟨xs, o', ys, rfl, before, (Token.mark_eq mark).1, after⟩

/-- The same of tokens between two. -/
theorem inside_of_marks {ts us : List Token} {o c : Token}
    (same : us.map Token.mark = (o :: ts ++ [c]).map Token.mark) :
    ∃ o' xs c', us = o' :: xs ++ [c'] ∧ o'.kind = o.kind ∧ xs.map Token.mark = ts.map Token.mark ∧
      c'.kind = c.kind := by
  obtain ⟨xs, c', ys, rfl, before, closes, behind⟩ := cut_of_marks same
  obtain ⟨o', xs, rfl, mark, inside⟩ := List.map_eq_cons_iff.1 before
  obtain rfl := List.map_eq_nil_iff.1 behind
  exact ⟨o', xs, c', rfl, (Token.mark_eq mark).1, inside, closes⟩

/-- The grammar does not look at columns. -/
theorem Derives.of_marks {p : Phrase} {ts us : List Token} {T : Expr} {r : Nat} (h : Derives p ts T r)
    (same : us.map Token.mark = ts.map Token.mark) : Derives p us T r := by
  induction h generalizing us with
  | first operand _ ih => exact .first operand (ih same)
  | further operand _ kind _ left right =>
    obtain ⟨xs, o', ys, rfl, before, kind', after⟩ := cut_of_marks same
    exact .further operand (left before) (kind'.trans kind) (right after)
  | not kind _ ih =>
    obtain ⟨o', ys, rfl, mark, after⟩ := List.map_eq_cons_iff.1 same
    exact .not ((Token.mark_eq mark).1.trans kind) (ih after)
  | bare _ ih => exact .bare (ih same)
  | alone _ ih => exact .alone (ih same)
  | compare _ kinds _ left right =>
    rw [List.map_append, List.map_append, List.map_eq_append_iff] at same
    obtain ⟨xs, ys, rfl, before, after⟩ := same
    obtain ⟨xs, os, rfl, before, between⟩ := List.map_eq_append_iff.1 before
    refine .compare (left before) ?_ (right after)
    rw [← kinds]
    have := congrArg (List.map Prod.fst) between
    simpa [Token.mark, Function.comp_def] using this
  | path kind =>
    obtain ⟨u, rfl, mark⟩ := List.map_eq_singleton_iff.1 same
    obtain ⟨kind', text'⟩ := Token.mark_eq mark
    rw [← text']
    exact .path (kind'.trans kind)
  | literal denotes =>
    obtain ⟨u, rfl, mark⟩ := List.map_eq_singleton_iff.1 same
    exact .literal (denotes.of_mark mark)
  | group opens _ closes ih =>
    obtain ⟨o', xs, c', rfl, opens', inside, closes'⟩ := inside_of_marks same
    exact .group (opens'.trans opens) (ih inside) (closes'.trans closes)
  | list opens _ closes ih =>
    obtain ⟨o', xs, c', rfl, opens', inside, closes'⟩ := inside_of_marks same
    exact .list (opens'.trans opens) (ih inside) (closes'.trans closes)
  | none =>
    rw [List.map_nil, List.map_eq_nil_iff] at same
    subst same
    exact .none
  | last _ ih => exact .last (ih same)
  | more _ kind _ item rest =>
    obtain ⟨xs, c', ys, rfl, before, kind', after⟩ := cut_of_marks same
    exact .more (item before) (kind'.trans kind) (rest after)

/-! ## Where tokens end -/

/-- The characters that end every token before them. -/
def stops : List Char := [' ', ')', ']', ',']

/-- Nothing goes on with a token here. -/
def Stops : List Char → Prop
  | [] => True
  | c :: _ => c ∈ stops

section

variable {span rest : List Char} {kind : TokenKind} {text : String}

/-- What ends tokens stands in none, but for text literals. -/
theorem Spells.not_mem_stops {x : Char} {cs : List Char} {c : Char} (h : Spells (c :: cs) kind text)
    (quote : ¬ (c = '"' ∨ c = '\'')) (mem : x ∈ cs) : x ∉ stops := by
  generalize same : c :: cs = span at h
  cases h with
  | mark member =>
    have all : ∀ m ∈ marks, m.1.tail.all (· ∉ stops) := by decide
    have inner := List.all_eq_true.1 (all _ member) x (by rwa [← same])
    exact of_decide_eq_true inner
  | text quote' => cases same; exact absurd quote' quote
  | number _ inside => cases same; exact not_mem_of_any (inside x mem) (by decide)
  | negative digit inside =>
    cases same
    rcases List.mem_cons.1 mem with rfl | mem
    · exact not_mem_of_any digit (by decide)
    · exact not_mem_of_any (inside x mem) (by decide)
  | word _ inside => cases same; exact not_mem_of_any (inside x mem) (by decide)

/-- A token that starts with a quote is a text literal. -/
theorem Spells.quoted {q : Char} {cs : List Char} (h : Spells (q :: cs) kind text) (quote : q = '"' ∨ q = '\'') :
    ∃ inside meant, cs = inside ++ [q] ∧ Quoted q inside meant := by
  generalize same : q :: cs = span at h
  cases h with
  | mark member =>
    have all : ∀ m ∈ marks, m.1.head? ≠ some '"' ∧ m.1.head? ≠ some '\'' := by decide
    have first := all _ member
    rw [← same] at first
    rcases quote with rfl | rfl
    · exact absurd rfl first.1
    · exact absurd rfl first.2
  | text _ body => cases same; exact ⟨_, _, rfl, body⟩
  | number digit | word digit => cases same; rcases quote with rfl | rfl <;> exact absurd digit (by decide)
  | negative => cases same; rcases quote with quote | quote <;> cases quote

/-- Before what ends tokens, a token is the longest one. -/
theorem Spells.longest (h : Spells span kind text) (ends : Stops rest) : Longest span kind text (span ++ rest) where
  spells := h
  here := List.prefix_append _ _
  longest := by
    rintro span' kind' text' h' ⟨w, whole⟩
    rcases List.append_eq_append_iff.1 whole with ⟨more, rfl, -⟩ | ⟨more, rfl, rfl⟩
    · rw [List.length_append]
      exact Nat.le_add_right _ _
    cases more with
    | nil => rw [List.append_nil]
    | cons x more =>
      cases span with
      | nil => exact absurd rfl h.ne_nil
      | cons c cs =>
        exfalso
        by_cases quote : c = '"' ∨ c = '\''
        · have bare : c ≠ '\\' := by rcases quote with rfl | rfl <;> decide
          obtain ⟨inside, meant, rfl, body⟩ := h.quoted quote
          rw [List.cons_append] at h'
          obtain ⟨inside', meant', longer, body'⟩ := h'.quoted quote
          have read := (textBody?_eq_some_iff bare).2 ⟨inside, x :: more, rfl, body, rfl⟩
          have read' := (textBody?_eq_some_iff bare).2 ⟨inside', [], rfl, body', rfl⟩
          rw [List.append_assoc, List.singleton_append] at longer
          rw [← longer, read] at read'
          have lengths := congrArg List.length longer
          simp only [List.length_append, List.length_cons, List.length_nil] at lengths
          simp only [Option.some.injEq, Prod.mk.injEq] at read'
          omega
        · exact h'.not_mem_stops quote (List.mem_append_right _ List.mem_cons_self) ends

/-! ## Texts read by themselves -/

/-- Wherever `cs` stands before what may follow it, it is read as tokens with these marks. -/
def Lexes (cs : List Char) (ms : List (TokenKind × String)) (Follows : List Char → Prop) : Prop :=
  ∀ column rest, Follows rest → ∃ ts : List Token, ts.map Token.mark = ms ∧
    tokensFrom column (cs ++ rest) = (tokensFrom (column + cs.length) rest).map (ts ++ ·)

namespace Lexes

variable {cs ds : List Char} {ms ns : List (TokenKind × String)} {F G : List Char → Prop}

theorem of_longest (longest : ∀ rest, F rest → Longest span kind text (span ++ rest)) :
    Lexes span [(kind, text)] F :=
  fun column rest follows => ⟨[⟨kind, text, column⟩], rfl, tokensFrom_token (longest rest follows) column⟩

/-- A token before what ends it. -/
theorem token (h : Spells span kind text) : Lexes span [(kind, text)] Stops :=
  of_longest fun _ => h.longest

/-- A token that the lexer finds. -/
theorem of_lexeme {c : Char} (reads : ∀ rest, F rest → lexeme c (cs ++ rest) = .ok ⟨kind, text, cs.length⟩) :
    Lexes (c :: cs) [(kind, text)] F := by
  refine of_longest fun rest follows => ?_
  obtain ⟨cs', more, same, width, longest⟩ := lexeme_eq_ok_iff.1 (reads rest follows)
  obtain ⟨rfl, rfl⟩ := List.append_inj same width
  exact longest

/-- A sign that is a token whatever follows. -/
theorem sign {c : Char} (reads : ∀ rest, lexeme c rest = .ok ⟨kind, text, 0⟩) :
    Lexes [c] [(kind, text)] fun _ => True := of_lexeme fun rest _ => reads rest

theorem nil : Lexes [] [] F :=
  fun column rest _ => ⟨[], rfl, by
    rw [List.nil_append, List.length_nil, Nat.add_zero]
    cases tokensFrom column rest <;> rfl⟩

theorem blank : Lexes [' '] [] fun _ => True :=
  fun column rest _ => ⟨[], rfl, by
    rw [tokensFrom_blanks (List.forall_mem_singleton.2 (by decide))]
    cases tokensFrom (column + [' '].length) rest <;> rfl⟩

theorem append (first : Lexes cs ms F) (second : Lexes ds ns G) (joint : ∀ rest, G rest → F (ds ++ rest)) :
    Lexes (cs ++ ds) (ms ++ ns) G := by
  intro column rest follows
  obtain ⟨ts, marks, read⟩ := first column (ds ++ rest) (joint rest follows)
  obtain ⟨us, marks', read'⟩ := second (column + cs.length) rest follows
  refine ⟨ts ++ us, by rw [List.map_append, marks, marks'], ?_⟩
  rw [List.append_assoc, read, read', List.length_append, Nat.add_assoc]
  cases tokensFrom (column + (cs.length + ds.length)) rest with
  | error e => rfl
  | ok vs => exact congrArg Except.ok (List.append_assoc ts us vs).symm

/-- The trees of a text are those of its tokens. -/
theorem parse_eq_ok_iff {s : String} {ts : List Token} {T : Expr} (h : Lexes s.toList (ts.map Token.mark) F)
    (ended : F []) : Expr.parse s = .ok T ↔ ∃ n, Derives (.chain .or n) ts T maxNesting := by
  obtain ⟨us, marks, read⟩ := h 1 [] ended
  have tokens : tokenize s = .ok (us ++ [⟨.eof, "", 1 + s.toList.length⟩]) := by
    rw [List.append_nil, tokensFrom] at read
    exact read
  have closed := tokensFrom_closed tokens
  obtain ⟨body, last, same, kind, inner⟩ := closed_iff.1 closed
  obtain ⟨rfl, lasts⟩ := List.append_inj' same rfl
  cases lasts
  unfold Expr.parse
  rw [tokens]
  constructor
  · intro parsed
    obtain ⟨n, derives⟩ := derives_of_ofTokens closed parsed
    exact ⟨n, derives.of_marks marks.symm⟩
  · rintro ⟨n, derives⟩
    exact ofTokens_of_derives kind inner (derives.of_marks marks)

end Lexes

end

end Workflows
