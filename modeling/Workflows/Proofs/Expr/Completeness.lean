import Workflows.Proofs.Expr.Soundness

/-!
# What the parser accepts

Every phrase of the grammar is read by the parser, up to what may stand after it, where there is fuel for its
tokens and room for its levels of nesting.

* `Cursor.opened_mk`, `Cursor.expect_mk`, `Cursor.compareOp?_of_kinds`, `Cursor.compareOp?_of_precedes`: how a
  cursor moves on;
* `Accepts`: a function of the parser reads some tokens; `read_enclosed`: it does between brackets;
* `Phrase.Parsed`: the function for a phrase reads its tokens; `Phrase.Parsed.further` and its likes, for the
  rules of the grammar;
* **`Derives.parsed`**: so it is for every phrase;
* **`parses_iff_derives`**: lists of tokens, and texts, have a tree iff they are an expression.
-/

namespace Workflows

/-! ## Cursors -/

namespace Cursor

variable {t : Token} {ts us : List Token} {d : Nat}

/-- Past a token and one level deeper. -/
theorem opened_mk (more : ts ≠ []) (room : d < maxNesting) :
    (⟨t :: ts, d⟩ : Cursor).advance.descend = .ok ⟨ts, d + 1⟩ := by
  rw [advance_mk more]
  exact descend_eq_ok.2 ⟨room, rfl⟩

theorem expect_mk {k : TokenKind} (kind : t.kind = k) (more : ts ≠ []) :
    (⟨t :: ts, d⟩ : Cursor).expect k = .ok ⟨ts, d⟩ :=
  expect_eq_ok.2 ⟨kind, (advance_mk more).symm⟩

theorem ascend_mk (n : Nat) : (⟨ts, d + n⟩ : Cursor).ascend n = ⟨ts, d⟩ := by
  unfold ascend
  rw [Nat.add_sub_cancel]

/-- An operator that the next tokens are written with. -/
theorem compareOp?_of_kinds {op : CompareOp} {os : List Token} (kinds : os.map (·.kind) = op.kinds)
    (more : us ≠ []) :
    (⟨os ++ us, d⟩ : Cursor).compareOp? = some (op, os.length) ∧
      (if os.length = 2 then (⟨os ++ us, d⟩ : Cursor).advance.advance
        else (⟨os ++ us, d⟩ : Cursor).advance) = ⟨us, d⟩ := by
  cases op with
  | notIn =>
    obtain ⟨o, os, rfl, not, second⟩ := List.map_eq_cons_iff.1 kinds
    obtain ⟨o', rfl, isIn⟩ := List.map_eq_singleton_iff.1 second
    constructor
    · unfold compareOp?
      rw [kind_mk, List.cons_append, nextKind_cons, not, ← advance_kind, advance_mk (by simp), kind_mk,
        List.cons_append, nextKind_cons, isIn]
      rfl
    · change (⟨[o, o'] ++ us, d⟩ : Cursor).advance.advance = ⟨us, d⟩
      rw [List.cons_append, advance_mk (by simp), List.cons_append]
      exact advance_mk more
  | _ =>
    obtain ⟨o, rfl, kind⟩ := List.map_eq_singleton_iff.1 kinds
    refine ⟨?_, advance_mk more⟩
    unfold compareOp?
    rw [kind_mk, List.cons_append, nextKind_cons, kind]
    rfl

/-- What may stand after a comparison is no operator. -/
theorem compareOp?_of_precedes (after : Connective.and.Precedes (nextKind ts)) :
    (⟨ts, d⟩ : Cursor).compareOp? = none := by
  unfold compareOp?
  rw [kind_mk]
  generalize nextKind ts = k at after ⊢
  cases k <;> first | rfl | exact absurd after (by decide)

end Cursor

/-! ## Functions of the parser -/

/-- Where there is fuel and room, a function of the parser reads tokens up to what may stand after them. No
token is reached through more than eight functions; the `slack` is for those that have called this one. -/
structure Accepts {α : Type} (parse : Nat → Cursor → Parsing (α × Cursor)) (slack : Nat)
    (after : TokenKind → Prop) (ts : List Token) (a : α) (r : Nat) : Prop where
  reads : ∀ {fuel d : Nat} {rest : List Token}, 8 * (ts.length + 1) ≤ fuel + slack →
    d + r ≤ maxNesting → rest ≠ [] → after (nextKind rest) →
      parse fuel ⟨ts ++ rest, d⟩ = .ok (a, ⟨rest, d⟩)

/-- There is fuel for one function at least. -/
theorem Accepts.of_succ {α : Type} {parse : Nat → Cursor → Parsing (α × Cursor)} {slack r : Nat}
    {after : TokenKind → Prop} {ts : List Token} {a : α} (needs : slack < 8 * (ts.length + 1))
    (h : ∀ {fuel d : Nat} {rest : List Token}, 8 * (ts.length + 1) ≤ fuel + 1 + slack →
      d + r ≤ maxNesting → rest ≠ [] → after (nextKind rest) →
        parse (fuel + 1) ⟨ts ++ rest, d⟩ = .ok (a, ⟨rest, d⟩)) : Accepts parse slack after ts a r := by
  refine ⟨fun {fuel d rest} enough room more after => ?_⟩
  obtain ⟨fuel, rfl⟩ : ∃ f, fuel = f + 1 := ⟨fuel - 1, by omega⟩
  exact h enough room more after

section

variable {fuel d : Nat} {o t : Token} {ts rest : List Token}

/-- What is read one level deeper, up to a closing bracket. -/
theorem read_enclosed {α : Type} {k : TokenKind} {inside : Cursor → Parsing (α × Cursor)} {a : α}
    (result : α → Expr) (closes : t.kind = k) (room : d < maxNesting) (more : rest ≠ [])
    (read : inside ⟨ts ++ t :: rest, d + 1⟩ = .ok (a, ⟨t :: rest, d + 1⟩)) :
    (do
      let c ← (⟨o :: (ts ++ t :: rest), d⟩ : Cursor).advance.descend
      let (x, c) ← inside c
      let c ← c.expect k
      .ok (result x, c.ascend 1) : Parsing (Expr × Cursor)) = .ok (result a, ⟨rest, d⟩) := by
  rw [Cursor.opened_mk (by simp) room]
  dsimp only [bind, Except.bind]
  rw [read]
  dsimp only
  rw [Cursor.expect_mk closes more]
  dsimp only
  rw [Cursor.ascend_mk 1]

theorem parseOperand_group {T : Expr} (opens : o.kind = .openParen) (closes : t.kind = .closeParen)
    (room : d < maxNesting) (more : rest ≠ [])
    (inside : parseOr fuel ⟨ts ++ t :: rest, d + 1⟩ = .ok (T, ⟨t :: rest, d + 1⟩)) :
    parseOperand (fuel + 1) ⟨o :: (ts ++ t :: rest), d⟩ = .ok (T, ⟨rest, d⟩) := by
  unfold parseOperand
  rw [show (⟨o :: (ts ++ t :: rest), d⟩ : Cursor).peek = o from rfl]
  dsimp only
  rw [opens]
  exact read_enclosed id closes room more inside

theorem parseOperand_list {Ts : List Expr} (opens : o.kind = .openBracket) (closes : t.kind = .closeBracket)
    (room : d < maxNesting) (more : rest ≠ [])
    (inside : parseItems fuel ⟨ts ++ t :: rest, d + 1⟩ = .ok (Ts, ⟨t :: rest, d + 1⟩)) :
    parseOperand (fuel + 1) ⟨o :: (ts ++ t :: rest), d⟩ = .ok (.list Ts, ⟨rest, d⟩) := by
  unfold parseOperand
  rw [show (⟨o :: (ts ++ t :: rest), d⟩ : Cursor).peek = o from rfl]
  dsimp only
  rw [opens]
  exact read_enclosed .list closes room more inside

end

/-- The slack of the function for a chain. -/
def Connective.slack : Connective → Nat
  | .and => 12
  | .or => 11

/-- The function for a phrase reads its tokens. A chain is read up to where it may go on. -/
def Phrase.Parsed : Phrase → List Token → Expr → Nat → Prop
  | .chain k n, ts, T, r => ∀ {fuel d : Nat} {rest : List Token},
    8 * (ts.length + 1) ≤ fuel + n + 1 + k.slack → d + r ≤ maxNesting → rest ≠ [] →
      k.Precedes (nextKind rest) →
        k.parseChain (fuel + n + 1) ⟨ts ++ rest, d⟩ = k.goOn fuel n T ⟨rest, d + n⟩
  | .unary, ts, T, r => Accepts parseUnary 13 unary.Precedes ts T r
  | .comparison, ts, T, r => Accepts parseComparison 14 comparison.Precedes ts T r
  | .operand, ts, T, r => Accepts parseOperand 15 operand.Precedes ts T r
  | .items, ts, T, r => ∃ Ts, T = .list Ts ∧ Accepts parseItems 7 items.Precedes ts Ts r

namespace Phrase.Parsed

variable {k : Connective} {n : Nat} {p : Phrase} {ts us : List Token} {o : Token} {T U : Expr} {r : Nat}

/-- A chain that does not go on is read as a whole. -/
theorem close (h : (chain k n).Parsed ts T r) (least : n + 1 ≤ ts.length) :
    Accepts k.parseChain k.slack (fun x => k.Precedes x ∧ x ≠ k.kind) ts T r := by
  refine ⟨fun {fuel d rest} enough room more after => ?_⟩
  have slack : k.slack ≤ 12 := by cases k <;> decide
  obtain ⟨fuel, rfl⟩ : ∃ f, fuel = f + 1 + n + 1 := ⟨fuel - n - 2, by omega⟩
  rw [h enough room more after.1, Connective.goOn_succ, Cursor.kind_mk, if_neg after.2, Cursor.ascend_mk]

/-- The operands of a chain. -/
theorem chain_operand (h : p.Parsed ts T r) (operand : k.Operand p) (least : p.least ≤ ts.length) :
    Accepts k.parseOperand (k.slack + 1) k.Precedes ts T r := by
  cases operand with
  | and => exact h
  | or m =>
    refine ⟨fun enough room more after => ?_⟩
    refine (h.close least).reads enough room more ⟨.tail _ after, fun on => ?_⟩
    rw [on] at after
    exact absurd after (by decide)

theorem first (operand : k.Operand p) (h : p.Parsed ts T r) (least : p.least ≤ ts.length) :
    (chain k 0).Parsed ts T r := by
  intro fuel d rest enough room more after
  rw [Connective.parseChain_succ, (h.chain_operand operand least).reads (by omega) room more after]
  rfl

theorem further (operand : k.Operand p) (left : (chain k n).Parsed ts T (r + n + 1))
    (kind : o.kind = k.kind) (right : p.Parsed us U r) (least : p.least ≤ us.length)
    (least' : n + 1 ≤ ts.length) :
    (chain k (n + 1)).Parsed (ts ++ o :: us) (k.join T U) (r + n + 1) := by
  intro fuel d rest enough room more after
  rw [List.length_append, List.length_cons] at enough
  have slack : k.slack ≤ 12 := by cases k <;> decide
  have start := @left (fuel + 1) d (o :: us ++ rest) (by omega) room (by simp) (by
    rw [List.cons_append, nextKind_cons, kind]
    exact k.precedes_kind)
  rw [List.append_assoc, show fuel + (n + 1) + 1 = fuel + 1 + n + 1 by omega, start,
    Connective.goOn_succ, List.cons_append, Cursor.kind_mk, nextKind_cons, if_pos kind,
    Cursor.opened_mk (by simp [more]) (by omega)]
  dsimp only [bind, Except.bind]
  rw [(right.chain_operand operand least).reads (by omega) (by omega) more after]
  rfl

theorem not (kind : o.kind = .not) (h : unary.Parsed ts T r) :
    unary.Parsed (o :: ts) (.not T) (r + 1) := by
  have length : (o :: ts).length = ts.length + 1 := List.length_cons
  refine Accepts.of_succ ?_ fun {fuel d rest} enough room more after => ?_
  · omega
  unfold parseUnary
  rw [List.cons_append, Cursor.kind_mk, nextKind_cons, if_pos kind,
    Cursor.opened_mk (by simp [more]) (by omega)]
  dsimp only [bind, Except.bind]
  rw [h.reads (by omega) (by omega) more after]
  dsimp only
  rw [Cursor.ascend_mk 1]

theorem bare (derives : Derives .comparison ts T r) (h : comparison.Parsed ts T r) :
    unary.Parsed ts T r := by
  have least : 1 ≤ ts.length := derives.least
  refine Accepts.of_succ ?_ fun {fuel d rest} enough room more after => ?_
  · omega
  have other : nextKind (ts ++ rest) ≠ .not := by
    intro kind
    have starts := derives.comparison_starts rest
    rw [kind] at starts
    exact absurd starts (by decide)
  unfold parseUnary
  rw [Cursor.kind_mk, if_neg other]
  exact h.reads (by omega) room more after

theorem alone (least : 1 ≤ ts.length) (h : operand.Parsed ts T r) : comparison.Parsed ts T r := by
  refine Accepts.of_succ ?_ fun {fuel d rest} enough room more after => ?_
  · omega
  unfold parseComparison
  rw [h.reads (by omega) room more trivial]
  dsimp only [bind, Except.bind]
  rw [Cursor.compareOp?_of_precedes after]

theorem compare {op : CompareOp} {os : List Token} (left : operand.Parsed ts T r)
    (kinds : os.map (·.kind) = op.kinds) (least : 1 ≤ us.length) (right : operand.Parsed us U r) :
    comparison.Parsed (ts ++ os ++ us) (.compare op T U) r := by
  have length : (ts ++ os ++ us).length = ts.length + os.length + us.length := by
    simp [Nat.add_assoc]
  refine Accepts.of_succ ?_ fun {fuel d rest} enough room more after => ?_
  · omega
  have behind : us ++ rest ≠ [] := by simp [more]
  obtain ⟨found, moved⟩ := Cursor.compareOp?_of_kinds (d := d) kinds behind
  unfold parseComparison
  rw [List.append_assoc, List.append_assoc, left.reads (by omega) room (by simp [more]) trivial]
  dsimp only [bind, Except.bind]
  rw [found]
  dsimp only
  rw [moved, right.reads (by omega) room more trivial]

/-- A token that is an operand by itself. -/
theorem token {t : Token} (h : ∀ {fuel d rest}, rest ≠ [] →
    parseOperand (fuel + 1) ⟨t :: rest, d⟩ = .ok (T, ⟨rest, d⟩)) : operand.Parsed [t] T r :=
  Accepts.of_succ (Nat.le_refl _) fun _ _ more _ => h more

theorem path {t : Token} (kind : t.kind = .identifier) : operand.Parsed [t] (.path t.text) r := by
  refine token fun {fuel d rest} more => ?_
  unfold parseOperand
  rw [show (⟨t :: rest, d⟩ : Cursor).peek = t from rfl, Cursor.advance_mk more]
  dsimp only
  rw [kind]

theorem literal {t : Token} {v : Value} (denotes : t.Denotes v) : operand.Parsed [t] (.literal v) r := by
  refine token fun {fuel d rest} more => ?_
  unfold parseOperand
  rw [show (⟨t :: rest, d⟩ : Cursor).peek = t from rfl, Cursor.advance_mk more]
  dsimp only
  cases denotes with
  | text kind | true kind | false kind | null kind => rw [kind]
  | int kind reads least greatest =>
    have number := (Token.number?_eq_ok_iff kind).2 (.int kind reads least greatest)
    rw [kind, number]
    rfl
  | real kind wide reads finite =>
    have number := (Token.number?_eq_ok_iff kind).2 (.real kind wide reads finite)
    rw [kind, number]
    rfl

theorem group {t : Token} (opens : o.kind = .openParen) (least : n + 1 ≤ ts.length)
    (h : (chain .or n).Parsed ts T r) (closes : t.kind = .closeParen) :
    operand.Parsed (o :: ts ++ [t]) T (r + 1) := by
  have length : (o :: ts ++ [t]).length = ts.length + 2 := by simp
  refine Accepts.of_succ ?_ fun {fuel d rest} enough room more _ => ?_
  · omega
  have inside : parseOr fuel ⟨ts ++ t :: rest, d + 1⟩ = .ok (T, ⟨t :: rest, d + 1⟩) := by
    refine (h.close least).reads (by change _ ≤ _ + 11; omega) (by omega) (by simp) ?_
    rw [nextKind_cons, closes]
    exact ⟨by decide, by decide⟩
  rw [List.append_assoc, List.cons_append, List.singleton_append]
  exact parseOperand_group opens closes (by omega) more inside

theorem list {t : Token} {Ts : List Expr} (opens : o.kind = .openBracket)
    (h : items.Parsed ts (.list Ts) r) (closes : t.kind = .closeBracket) :
    operand.Parsed (o :: ts ++ [t]) (.list Ts) (r + 1) := by
  obtain ⟨_, same, accepts⟩ := h
  cases same
  have length : (o :: ts ++ [t]).length = ts.length + 2 := by simp
  refine Accepts.of_succ ?_ fun {fuel d rest} enough room more _ => ?_
  · omega
  have inside : parseItems fuel ⟨ts ++ t :: rest, d + 1⟩ = .ok (Ts, ⟨t :: rest, d + 1⟩) :=
    accepts.reads (by omega) (by omega) (by simp) closes
  rw [List.append_assoc, List.cons_append, List.singleton_append]
  exact parseOperand_list opens closes (by omega) more inside

theorem none : items.Parsed [] (.list []) r := by
  refine ⟨[], rfl, Accepts.of_succ (by decide) fun {fuel d rest} _ _ _ after => ?_⟩
  unfold parseItems
  rw [List.nil_append, Cursor.kind_mk, if_pos (show nextKind rest = .closeBracket from after)]

/-- An item is no closing bracket. -/
theorem item_starts (derives : Derives .operand ts T r) (x : List Token) :
    nextKind (ts ++ x) ≠ .closeBracket := by
  intro closes
  have starts := derives.operand_starts x
  rw [closes] at starts
  exact absurd starts (by decide)

theorem last (derives : Derives .operand ts T r) (h : operand.Parsed ts T r) :
    items.Parsed ts (.list [T]) r := by
  have least : 1 ≤ ts.length := derives.least
  refine ⟨[T], rfl, Accepts.of_succ ?_ fun {fuel d rest} enough room more after => ?_⟩
  · omega
  have apart : nextKind rest ≠ .comma := by
    rw [show nextKind rest = .closeBracket from after]
    decide
  unfold parseItems
  rw [Cursor.kind_mk, if_neg (item_starts derives rest), h.reads (by omega) room more trivial]
  dsimp only [bind, Except.bind]
  rw [Cursor.kind_mk, if_neg apart]

theorem more {t : Token} {Ts : List Expr} (derives : Derives .operand ts T r)
    (h : operand.Parsed ts T r) (kind : t.kind = .comma) (rest : items.Parsed us (.list Ts) r) :
    items.Parsed (ts ++ t :: us) (.list (T :: Ts)) r := by
  obtain ⟨_, same, accepts⟩ := rest
  cases same
  have least : 1 ≤ ts.length := derives.least
  have length : (ts ++ t :: us).length = ts.length + us.length + 1 := by simp [Nat.add_assoc]
  refine ⟨T :: Ts, rfl, Accepts.of_succ ?_ fun {fuel d rest} enough room more after => ?_⟩
  · omega
  unfold parseItems
  rw [List.append_assoc, List.cons_append, Cursor.kind_mk, if_neg (item_starts derives _),
    h.reads (by omega) room (by simp) trivial]
  dsimp only [bind, Except.bind]
  rw [Cursor.kind_mk, nextKind_cons, if_pos kind, Cursor.advance_mk (by simp [more]),
    accepts.reads (by omega) room more after]

end Phrase.Parsed

/-- **Phrases are read by the parser.** -/
theorem Derives.parsed {p : Phrase} {ts : List Token} {T : Expr} {r : Nat} (h : Derives p ts T r) :
    p.Parsed ts T r := by
  induction h with
  | first operand single ih => exact Phrase.Parsed.first operand ih single.least
  | further operand left kind right ih ih' =>
    exact Phrase.Parsed.further operand ih kind ih' right.least left.least
  | not kind _ ih => exact Phrase.Parsed.not kind ih
  | bare inner ih => exact Phrase.Parsed.bare inner ih
  | alone inner ih => exact Phrase.Parsed.alone inner.least ih
  | compare _ kinds right ih ih' => exact Phrase.Parsed.compare ih kinds right.least ih'
  | path kind => exact Phrase.Parsed.path kind
  | literal denotes => exact Phrase.Parsed.literal denotes
  | group opens inner closes ih => exact Phrase.Parsed.group opens inner.least ih closes
  | list opens _ closes ih => exact Phrase.Parsed.list opens ih closes
  | none => exact Phrase.Parsed.none
  | last item ih => exact Phrase.Parsed.last item ih
  | more item kind _ ih ih' => exact Phrase.Parsed.more item ih kind ih'

/-! ## Whole expressions -/

theorem Closed.eq_singleton {ts : List Token} (h : Closed ts) (ended : nextKind ts = .eof) :
    ∃ t, ts = [t] := by
  cases h with
  | last => exact ⟨_, rfl⟩
  | cons kind => exact absurd ended kind

section

variable {body : List Token} {last : Token} {T : Expr}

theorem derives_of_ofTokens (closed : Closed (body ++ [last]))
    (parsed : Expr.ofTokens (body ++ [last]) = .ok T) :
    ∃ n, Derives (.chain .or n) body T maxNesting := by
  unfold Expr.ofTokens at parsed
  dsimp only at parsed
  split at parsed
  · cases parsed
  · obtain ⟨⟨U, c⟩, read, whole⟩ := ok_of_bind parsed
    dsimp only at whole
    split at whole
    · next ended =>
      cases whole
      have valid : (⟨body ++ [last], 0⟩ : Cursor).Valid := ⟨closed, Nat.zero_le _⟩
      obtain ⟨n, reads⟩ := (Parser.sound (Expr.fuelFor (body ++ [last]))).chain (k := .or) valid read
      obtain ⟨ts, r, rest, room, derives⟩ := reads.derives
      obtain ⟨t, single⟩ := reads.valid.closed.eq_singleton ended
      rw [single] at rest
      obtain rfl := List.append_inj_left' rest rfl
      obtain rfl : r = maxNesting := (Nat.zero_add r).symm.trans room
      exact ⟨n, derives⟩
    · cases whole

theorem ofTokens_of_derives {n : Nat} (ended : last.kind = .eof) (inner : ∀ t ∈ body, t.kind ≠ .eof)
    (derives : Derives (.chain .or n) body T maxNesting) : Expr.ofTokens (body ++ [last]) = .ok T := by
  have least : n + 1 ≤ body.length := derives.least
  have read : Connective.or.parseChain (Expr.fuelFor (body ++ [last])) ⟨body ++ [last], 0⟩ =
      .ok (T, ⟨[last], 0⟩) := by
    refine (Phrase.Parsed.close derives.parsed least).reads ?_ (Nat.le_of_eq (Nat.zero_add _))
      (List.cons_ne_nil _ _) ?_
    · rw [Expr.fuelFor, List.length_append, List.length_singleton]
      omega
    · rw [nextKind_cons, ended]
      exact ⟨by decide, by decide⟩
  have begun : nextKind (body ++ [last]) ≠ .eof := by
    cases body with
    | nil => cases least
    | cons t body => exact inner t List.mem_cons_self
  unfold Expr.ofTokens
  dsimp only
  rw [Cursor.kind_mk, if_neg begun, show parseOr _ _ = _ from read]
  exact if_pos ended

end

/-- The tokens of a text that is read derive its tree. -/
theorem derives_of_parse {s : String} {T : Expr} (parsed : Expr.parse s = .ok T) :
    ∃ body last n, tokenize s = .ok (body ++ [last]) ∧ last.kind = .eof ∧ Derives (.chain .or n) body T maxNesting := by
  obtain ⟨tokens, read, parsed⟩ := ok_of_bind parsed
  have closed := tokensFrom_closed read
  obtain ⟨body, last, rfl, ended, -⟩ := closed_iff.1 closed
  obtain ⟨n, derives⟩ := derives_of_ofTokens closed parsed
  exact ⟨body, last, n, read, ended, derives⟩

/-- **The parser accepts exactly the expressions of the grammar**, with 64 levels of nesting at most, and with
their trees: as lists of tokens with the end token last, and as texts. The tree is the only one. -/
theorem parses_iff_derives :
    (∀ body last T, last.kind = .eof → (∀ t ∈ body, t.kind ≠ .eof) →
      (Expr.ofTokens (body ++ [last]) = .ok T ↔ ∃ n, Derives (.chain .or n) body T 64)) ∧
    (∀ s tokens, tokenize s = .ok tokens →
      ∃ body last, tokens = body ++ [last] ∧ last.kind = .eof ∧ ∀ t ∈ body, t.kind ≠ .eof) ∧
    (∀ s T, Expr.parse s = .ok T ↔
      ∃ body last n, tokenize s = .ok (body ++ [last]) ∧ Derives (.chain .or n) body T 64) ∧
    (∀ body T U n m r r', Derives (.chain .or n) body T r → Derives (.chain .or m) body U r' → T = U) := by
  have tokens : ∀ s tokens, tokenize s = .ok tokens →
      ∃ body last, tokens = body ++ [last] ∧ last.kind = .eof ∧ ∀ t ∈ body, t.kind ≠ .eof :=
    fun s tokens read => closed_iff.1 (tokensFrom_closed read)
  refine ⟨fun body last T ended inner => ⟨fun parsed => ?_, fun ⟨n, derives⟩ => ?_⟩, tokens,
    fun s T => ⟨fun parsed => ?_, fun ⟨body, last, n, read, derives⟩ => ?_⟩,
    fun body T U n m r r' h h' => h.unique h'⟩
  · exact derives_of_ofTokens (closed_iff.2 ⟨body, last, rfl, ended, inner⟩) parsed
  · exact ofTokens_of_derives ended inner derives
  · obtain ⟨ts, read, parsed⟩ := ok_of_bind parsed
    obtain ⟨body, last, rfl, ended, inner⟩ := tokens s ts read
    obtain ⟨n, derives⟩ := derives_of_ofTokens (tokensFrom_closed read) parsed
    exact ⟨body, last, n, read, derives⟩
  · obtain ⟨body', last', same, ended, inner⟩ := tokens s _ read
    obtain ⟨rfl, lasts⟩ := List.append_inj' same rfl
    cases lasts
    unfold Expr.parse
    rw [read]
    exact ofTokens_of_derives ended inner derives

namespace Sample

/-- The tokens of `a OR NOT (b NOT IN [1, 'x',] AND c)`, up to the end. -/
def condition : List Token :=
  [⟨.identifier, "a", 1⟩, ⟨.or, "OR", 3⟩, ⟨.not, "NOT", 6⟩, ⟨.openParen, "(", 10⟩, ⟨.identifier, "b", 11⟩,
    ⟨.not, "NOT", 13⟩, ⟨.isIn, "IN", 17⟩, ⟨.openBracket, "[", 20⟩, ⟨.number, "1", 21⟩, ⟨.comma, ",", 22⟩,
    ⟨.text, "x", 24⟩, ⟨.comma, ",", 27⟩, ⟨.closeBracket, "]", 28⟩, ⟨.and, "AND", 30⟩,
    ⟨.identifier, "c", 34⟩, ⟨.closeParen, ")", 35⟩]

def conditionTree : Expr :=
  .or (.path "a") (.not (.and
    (.compare .notIn (.path "b") (.list [.literal (.number (.int 1)), .literal (.text "x")])) (.path "c")))

end Sample

/-- In the sample, the tokens have that tree, and no other. -/
theorem derives_condition : (∃ n, Derives (.chain .or n) Sample.condition Sample.conditionTree 64) ∧
    ∀ U n r, Derives (.chain .or n) Sample.condition U r → U = Sample.conditionTree := by
  have parsed : Expr.ofTokens (Sample.condition ++ [⟨.eof, "", 36⟩]) = .ok Sample.conditionTree := by
    rfl
  obtain ⟨n, derives⟩ := (parses_iff_derives.1 _ _ _ rfl (by decide)).1 parsed
  exact ⟨⟨n, derives⟩, fun U m r h => parses_iff_derives.2.2.2 _ _ _ _ _ _ _ h derives⟩

end Workflows
