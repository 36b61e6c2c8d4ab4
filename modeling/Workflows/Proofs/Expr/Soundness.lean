import Mathlib.Logic.Basic
import Workflows.Proofs.Expr.Grammar
import Workflows.Proofs.Expr.Tokens

/-!
# What the parser reads

Whatever the parser reads off a list of tokens is a phrase of the grammar, within the levels of nesting that
are left.

* `Connective.parseChain`, `parseOperand`, `goOn`: the functions for `AND` and for `OR`, by the connective;
* `Token.number?_eq_ok_iff`: the numbers that tokens stand for; `Cursor.Valid.compareOp?`: operators;
* `Reads`: a phrase stands between two cursors; `Reads.further` and its likes, for the rules of the grammar;
* `Parser.Sound`: what the functions of the parser read with some fuel; `Parser.Sound.chain_succ` and its
  likes, with one more;
* **`Parser.sound`**: the parser reads phrases, whatever the fuel.
-/

namespace Workflows

/-! ## Chains, by their connective -/

namespace Connective

/-- Reads a chain. -/
def parseChain : Connective → Nat → Cursor → Parsing (Expr × Cursor)
  | .and => parseAnd
  | .or => parseOr

/-- Reads an operand of a chain. -/
def parseOperand : Connective → Nat → Cursor → Parsing (Expr × Cursor)
  | .and => parseUnary
  | .or => parseAnd

/-- Reads the further operands of a chain. -/
def goOn : Connective → Nat → Nat → Expr → Cursor → Parsing (Expr × Cursor)
  | .and => andChain
  | .or => orChain

variable (k : Connective) (fuel chained : Nat) (left : Expr) (c : Cursor)

theorem kind_ne_eof : k.kind ≠ .eof := by cases k <;> decide

theorem parseChain_zero : k.parseChain 0 c = outOfFuel c := by cases k <;> rfl

theorem parseChain_succ : k.parseChain (fuel + 1) c =
    (k.parseOperand fuel c >>= fun (left, c) => k.goOn fuel 0 left c) := by cases k <;> rfl

theorem goOn_zero : k.goOn 0 chained left c = outOfFuel c := by cases k <;> rfl

theorem goOn_succ : k.goOn (fuel + 1) chained left c =
    if c.kind = k.kind then do
      let c ← c.advance.descend
      let (right, c) ← k.parseOperand fuel c
      k.goOn fuel (chained + 1) (k.join left right) c
    else .ok (left, c.ascend chained) := by cases k <;> rfl

end Connective

/-! ## Tokens -/

/-- The numbers that are read as whole ones. -/
theorem inWord_iff {n : Int} : inWord n = true ↔ -2 ^ 63 ≤ n ∧ n < 2 ^ 63 := by
  unfold inWord
  rw [decide_eq_true_iff]
  omega

theorem Token.number?_real_eq_ok_iff {t : Token} {v : Value} :
    Token.number?.real t t.text.toList = .ok v ↔
      ∃ f x, Decimal.read? t.text.toList = some f ∧ Real64.ofFloat? f = some x ∧ v = .number (.real x) := by
  unfold Token.number?.real
  cases reads : Decimal.read? t.text.toList with
  | none => simp
  | some f =>
    cases finite : Real64.ofFloat? f with
    | none => simp [finite]
    | some x => simp [finite, eq_comm]

/-- The value of a number token is what it stands for. -/
theorem Token.number?_eq_ok_iff {t : Token} {v : Value} (kind : t.kind = .number) :
    t.number? = .ok v ↔ t.Denotes v := by
  unfold Token.number?
  constructor
  · intro h
    dsimp only at h
    split at h
    · next n reads =>
      split at h
      · next within =>
        cases h
        obtain ⟨least, greatest⟩ := inWord_iff.1 within
        exact .int kind reads least greatest
      · next wide =>
        obtain ⟨f, x, reads', finite, rfl⟩ := number?_real_eq_ok_iff.1 h
        refine .real kind (fun m same within => wide (inWord_iff.2 ?_)) reads' finite
        rw [reads] at same
        cases same
        exact within
    · next unread =>
      obtain ⟨f, x, reads', finite, rfl⟩ := number?_real_eq_ok_iff.1 h
      exact .real kind (fun m same => by rw [unread] at same; cases same) reads' finite
  · intro h
    dsimp only
    cases h with
    | text kind' | true kind' | false kind' | null kind' => rw [kind] at kind'; cases kind'
    | int _ reads least greatest =>
      rw [reads]
      exact if_pos (inWord_iff.2 ⟨least, greatest⟩)
    | real _ wide reads finite =>
      have real := number?_real_eq_ok_iff.2 ⟨_, _, reads, finite, rfl⟩
      split
      · next n whole =>
        rw [if_neg fun within => wide n whole (inWord_iff.1 within)]
        exact real
      · exact real

/-- An operator at a cursor, and the cursor behind it. -/
theorem Cursor.Valid.compareOp? {c : Cursor} {op : CompareOp} {width : Nat} (h : c.Valid)
    (found : c.compareOp? = some (op, width)) :
    let behind := if width = 2 then c.advance.advance else c.advance
    behind.Valid ∧ behind.depth = c.depth ∧
      ∃ os, c.rest = os ++ behind.rest ∧ os.map (·.kind) = op.kinds := by
  have one {k : TokenKind} (kind : c.kind = k) (inner : k ≠ .eof) :
      c.advance.Valid ∧ c.advance.depth = c.depth ∧
        ∃ os, c.rest = os ++ c.advance.rest ∧ os.map (·.kind) = [k] := by
    obtain ⟨rest, valid⟩ := h.advance (kind.trans_ne inner)
    exact ⟨valid, c.advance_depth, [c.peek], rest, congrArg (fun k => [k]) kind⟩
  unfold Cursor.compareOp? at found
  split at found
  all_goals try (next kind => cases found; exact one kind (by decide))
  · next kind =>
    split at found
    · next second =>
      cases found
      obtain ⟨rest, valid⟩ := h.advance (kind.trans_ne (by decide))
      have kind' : c.advance.kind = .isIn := Cursor.advance_kind.trans second
      obtain ⟨rest', valid'⟩ := valid.advance (kind'.trans_ne (by decide))
      refine ⟨valid', by simp, [c.peek, c.advance.peek], ?_, ?_⟩
      · rw [rest, rest']
        rfl
      · rw [List.map_cons, List.map_cons, List.map_nil, show c.peek.kind = .not from kind,
          show c.advance.peek.kind = .isIn from kind']
        rfl
    · cases found
  · cases found

/-! ## Phrases between cursors -/

/-- Between two cursors stands a phrase with a tree, within the levels that are left. -/
structure Reads (p : Phrase) (T : Expr) (c c' : Cursor) : Prop where
  derives : ∃ ts r, c.rest = ts ++ c'.rest ∧ c.depth + r = maxNesting ∧ Derives p ts T r
  valid : c'.Valid
  depth : c'.depth = c.depth

namespace Reads

variable {p q : Phrase} {T U : Expr} {c c₁ c₂ c' : Cursor}

/-- What is a phrase by itself is another one too. -/
theorem lift (h : Reads p T c c') (rule : ∀ {ts r}, Derives p ts T r → Derives q ts U r) :
    Reads q U c c' where
  derives := by
    obtain ⟨ts, r, rest, room, derives⟩ := h.derives
    exact ⟨ts, r, rest, room, rule derives⟩
  valid := h.valid
  depth := h.depth

theorem token (valid : c.Valid) (inner : c.kind ≠ .eof) (rule : ∀ {r}, Derives p [c.peek] T r) :
    Reads p T c c.advance where
  derives := by
    obtain ⟨rest, -⟩ := valid.advance inner
    exact ⟨[c.peek], maxNesting - c.depth, rest, Nat.add_sub_cancel' valid.depth, rule⟩
  valid := (valid.advance inner).2
  depth := c.advance_depth

theorem none (valid : c.Valid) : Reads .items (.list []) c c where
  derives := ⟨[], maxNesting - c.depth, rfl, Nat.add_sub_cancel' valid.depth, .none⟩
  valid := valid
  depth := rfl

/-- Two phrases with tokens between them. -/
theorem join {V : Expr} (os : List Token) (left : Reads p T c c₁) (between : c₁.rest = os ++ c₂.rest)
    (depth : c₂.depth = c₁.depth) (right : Reads q U c₂ c')
    {s : Phrase} (rule : ∀ {ts us r}, Derives p ts T r → Derives q us U r →
      Derives s (ts ++ os ++ us) V r) : Reads s V c c' where
  derives := by
    obtain ⟨ts, r, rest, room, derives⟩ := left.derives
    obtain ⟨us, r', rest', room', derives'⟩ := right.derives
    obtain rfl : r = r' := by
      rw [depth, left.depth] at room'
      omega
    refine ⟨ts ++ os ++ us, r, ?_, room, rule derives derives'⟩
    rw [rest, between, rest', List.append_assoc, List.append_assoc]
  valid := right.valid
  depth := right.depth.trans (depth.trans left.depth)

/-- A phrase one level deeper, after an opening token and before closing ones. -/
theorem inside (closing : List Token) (valid : c.Valid) (inner : c.kind ≠ .eof)
    (h : Reads p T ⟨c.advance.rest, c.depth + 1⟩ c₁) (ended : c₁.rest = closing ++ c₂.rest)
    (valid₂ : c₂.Valid) (depth : c₂.depth = c.depth + 1)
    (rule : ∀ {ts r}, Derives p ts T r → Derives q (c.peek :: ts ++ closing) U (r + 1)) :
    Reads q U c (c₂.ascend 1) where
  derives := by
    obtain ⟨ts, r, rest, room, derives⟩ := h.derives
    dsimp only at rest room
    refine ⟨c.peek :: ts ++ closing, r + 1, ?_, by omega, rule derives⟩
    rw [(valid.advance inner).1, rest, ended, List.cons_append, List.cons_append, List.append_assoc]
    rfl
  valid := ⟨valid₂.closed, Nat.le_trans (Nat.sub_le _ _) valid₂.depth⟩
  depth := (congrArg (· - 1) depth).trans (Nat.add_sub_cancel _ _)

/-- A phrase between an opening and a closing token. -/
theorem enclosed {k : TokenKind} (valid : c.Valid) (inner : c.kind ≠ .eof)
    (h : Reads p T ⟨c.advance.rest, c.depth + 1⟩ c₁) (closes : k ≠ .eof) (expected : c₁.expect k = .ok c')
    (rule : ∀ {ts r t}, Derives p ts T r → t.kind = k →
      Derives .operand (c.peek :: ts ++ [t]) U (r + 1)) : Reads .operand U c (c'.ascend 1) := by
  obtain ⟨kind, rfl⟩ := Cursor.expect_eq_ok.1 expected
  obtain ⟨ended, valid₁⟩ := h.valid.advance (kind.trans_ne closes)
  exact h.inside [c₁.peek] valid inner ended valid₁ (c₁.advance_depth.trans h.depth) fun derives =>
    rule derives kind

/-- A chain with a further operand. -/
theorem further {k : Connective} {n : Nat} {b : Cursor} (operand : k.Operand p)
    (left : Reads (.chain k n) T b ⟨c.rest, b.depth⟩) (valid : c.Valid) (kind : c.kind = k.kind)
    (right : Reads p U ⟨c.advance.rest, b.depth + n + 1⟩ c') :
    Reads (.chain k (n + 1)) (k.join T U) b ⟨c'.rest, b.depth⟩ where
  derives := by
    obtain ⟨ts, r, rest, room, derives⟩ := left.derives
    obtain ⟨us, r', rest', room', derives'⟩ := right.derives
    dsimp only at rest rest' room'
    obtain rfl : r = r' + n + 1 := by omega
    have inner : c.kind ≠ .eof := kind.trans_ne k.kind_ne_eof
    refine ⟨ts ++ c.peek :: us, r' + n + 1, ?_, room, .further operand derives kind derives'⟩
    rw [rest, (valid.advance inner).1, rest', List.append_assoc, List.cons_append]
  valid := ⟨right.valid.closed, left.valid.depth⟩
  depth := rfl

end Reads

/-! ## The parser -/

/-- An expression that is read one after another one. -/
theorem ok_of_bind {α β : Type} {x : Parsing α} {f : α → Parsing β} {b : β} (h : (x >>= f) = .ok b) :
    ∃ a, x = .ok a ∧ f a = .ok b := by
  cases x with
  | error e => cases h
  | ok a => exact ⟨a, rfl, h⟩

/-- What the functions of the parser read with some fuel are phrases. -/
structure Parser.Sound (fuel : Nat) : Prop where
  chain : ∀ {k : Connective} {c c' : Cursor} {T : Expr}, c.Valid →
    k.parseChain fuel c = .ok (T, c') → ∃ n, Reads (.chain k n) T c c'
  /-- A chain starts at `b`, and with `n` further operands it goes as far as `c`. -/
  goOn : ∀ {k : Connective} {b c c' : Cursor} {n : Nat} {T U : Expr},
    Reads (.chain k n) T b ⟨c.rest, b.depth⟩ → c.depth = b.depth + n → c.Valid →
      k.goOn fuel n T c = .ok (U, c') → ∃ m, Reads (.chain k m) U b c'
  unary : ∀ {c c' : Cursor} {T : Expr}, c.Valid → parseUnary fuel c = .ok (T, c') →
    Reads .unary T c c'
  comparison : ∀ {c c' : Cursor} {T : Expr}, c.Valid → parseComparison fuel c = .ok (T, c') →
    Reads .comparison T c c'
  operand : ∀ {c c' : Cursor} {T : Expr}, c.Valid → parseOperand fuel c = .ok (T, c') →
    Reads .operand T c c'
  items : ∀ {c c' : Cursor} {Ts : List Expr}, c.Valid → parseItems fuel c = .ok (Ts, c') →
    Reads .items (.list Ts) c c'

namespace Parser.Sound

variable {fuel : Nat} {c c' : Cursor} {T : Expr}

theorem zero : Sound 0 where
  chain _ h := by
    rw [Connective.parseChain_zero] at h
    cases h
  goOn _ _ _ h := by
    rw [Connective.goOn_zero] at h
    cases h
  unary _ h := by cases h
  comparison _ h := by cases h
  operand _ h := by cases h
  items _ h := by cases h

/-- The operands of a chain. -/
theorem chain_operand {k : Connective} (h : Sound fuel) (valid : c.Valid)
    (read : k.parseOperand fuel c = .ok (T, c')) : ∃ p, k.Operand p ∧ Reads p T c c' := by
  cases k with
  | and => exact ⟨_, .and, h.unary valid read⟩
  | or =>
    obtain ⟨n, reads⟩ := h.chain (k := .and) valid read
    exact ⟨_, .or n, reads⟩

theorem chain_succ {k : Connective} (h : Sound fuel) (valid : c.Valid)
    (read : k.parseChain (fuel + 1) c = .ok (T, c')) : ∃ n, Reads (.chain k n) T c c' := by
  rw [Connective.parseChain_succ] at read
  obtain ⟨⟨U, c₁⟩, first, rest⟩ := ok_of_bind read
  obtain ⟨p, operand, reads⟩ := h.chain_operand valid first
  have start : Reads (.chain k 0) U c ⟨c₁.rest, c.depth⟩ := by
    rw [← reads.depth]
    exact reads.lift (.first operand)
  exact h.goOn start reads.depth reads.valid rest

theorem goOn_succ {k : Connective} {b : Cursor} {n : Nat} {U : Expr} (h : Sound fuel)
    (left : Reads (.chain k n) T b ⟨c.rest, b.depth⟩) (depth : c.depth = b.depth + n) (valid : c.Valid)
    (read : k.goOn (fuel + 1) n T c = .ok (U, c')) : ∃ m, Reads (.chain k m) U b c' := by
  rw [Connective.goOn_succ] at read
  split at read
  · next kind =>
    have inner : c.kind ≠ .eof := kind.trans_ne k.kind_ne_eof
    obtain ⟨c₁, descended, read₁⟩ := ok_of_bind read
    obtain ⟨⟨V, c₂⟩, right, read₂⟩ := ok_of_bind read₁
    obtain ⟨rfl, opened⟩ := valid.opened inner descended
    obtain ⟨p, operand, reads⟩ := h.chain_operand opened right
    rw [depth] at reads
    have further := left.further operand valid kind reads
    exact h.goOn further reads.depth reads.valid read₂
  · cases read
    refine ⟨n, ?_⟩
    have ascended : c.ascend n = ⟨c.rest, b.depth⟩ := by
      unfold Cursor.ascend
      rw [depth, Nat.add_sub_cancel]
    rw [ascended]
    exact left

theorem unary_succ (h : Sound fuel) (valid : c.Valid) (read : parseUnary (fuel + 1) c = .ok (T, c')) :
    Reads .unary T c c' := by
  unfold parseUnary at read
  split at read
  · next kind =>
    have inner : c.kind ≠ .eof := kind.trans_ne (by decide)
    obtain ⟨c₁, descended, read₁⟩ := ok_of_bind read
    obtain ⟨⟨U, c₂⟩, right, read₂⟩ := ok_of_bind read₁
    obtain ⟨rfl, opened⟩ := valid.opened inner descended
    have reads := h.unary opened right
    cases read₂
    refine reads.inside [] valid inner rfl reads.valid reads.depth fun derives => ?_
    rw [List.append_nil]
    exact .not kind derives
  · exact (h.comparison valid read).lift .bare

theorem comparison_succ (h : Sound fuel) (valid : c.Valid)
    (read : parseComparison (fuel + 1) c = .ok (T, c')) : Reads .comparison T c c' := by
  unfold parseComparison at read
  obtain ⟨⟨U, c₁⟩, left, read⟩ := ok_of_bind read
  have reads := h.operand valid left
  dsimp only at read
  split at read
  · cases read
    exact reads.lift .alone
  · next op width found =>
    obtain ⟨⟨V, c₂⟩, right, read⟩ := ok_of_bind read
    obtain ⟨valid₁, depth, os, between, kinds⟩ := reads.valid.compareOp? found
    cases read
    exact reads.join os between depth (h.operand valid₁ right) fun left right => .compare left kinds right

theorem operand_succ (h : Sound fuel) (valid : c.Valid)
    (read : parseOperand (fuel + 1) c = .ok (T, c')) : Reads .operand T c c' := by
  have token {k : TokenKind} (kind : c.kind = k) (inner : k ≠ .eof)
      (rule : ∀ {r}, Derives .operand [c.peek] T r) : Reads .operand T c c.advance :=
    .token valid (kind.trans_ne inner) rule
  unfold parseOperand at read
  dsimp only at read
  split at read
  · next kind => cases read; exact token kind (by decide) (.path kind)
  · next kind => cases read; exact token kind (by decide) (.literal (.text kind))
  · next kind =>
    cases number : c.peek.number? with
    | error e =>
      rw [number] at read
      cases read
    | ok v =>
      rw [number] at read
      cases read
      exact token kind (by decide) (.literal ((Token.number?_eq_ok_iff kind).1 number))
  · next kind => cases read; exact token kind (by decide) (.literal (.true kind))
  · next kind => cases read; exact token kind (by decide) (.literal (.false kind))
  · next kind => cases read; exact token kind (by decide) (.literal (.null kind))
  · next kind =>
    have inner : c.kind ≠ .eof := kind.trans_ne (by decide)
    obtain ⟨c₁, descended, read₁⟩ := ok_of_bind read
    obtain ⟨⟨U, c₂⟩, inside, read₂⟩ := ok_of_bind read₁
    obtain ⟨c₃, expected, read₃⟩ := ok_of_bind read₂
    obtain ⟨rfl, opened⟩ := valid.opened inner descended
    obtain ⟨n, reads⟩ := h.chain (k := .or) opened inside
    cases read₃
    exact reads.enclosed valid inner (by decide) expected fun derives closes =>
      .group kind derives closes
  · next kind =>
    have inner : c.kind ≠ .eof := kind.trans_ne (by decide)
    obtain ⟨c₁, descended, read₁⟩ := ok_of_bind read
    obtain ⟨⟨Us, c₂⟩, inside, read₂⟩ := ok_of_bind read₁
    obtain ⟨c₃, expected, read₃⟩ := ok_of_bind read₂
    obtain ⟨rfl, opened⟩ := valid.opened inner descended
    cases read₃
    exact (h.items opened inside).enclosed valid inner (by decide) expected fun derives closes =>
      .list kind derives closes
  · cases read
  · cases read

theorem items_succ {Ts : List Expr} (h : Sound fuel) (valid : c.Valid)
    (read : parseItems (fuel + 1) c = .ok (Ts, c')) : Reads .items (.list Ts) c c' := by
  unfold parseItems at read
  split at read
  · cases read
    exact .none valid
  · obtain ⟨⟨U, c₁⟩, first, read⟩ := ok_of_bind read
    have reads := h.operand valid first
    dsimp only at read
    split at read
    · next kind =>
      obtain ⟨⟨Us, c₂⟩, rest, read⟩ := ok_of_bind read
      have inner : c₁.kind ≠ .eof := kind.trans_ne (by decide)
      obtain ⟨between, valid₁⟩ := reads.valid.advance inner
      cases read
      refine reads.join [c₁.peek] between c₁.advance_depth (h.items valid₁ rest)
        fun left right => ?_
      rw [List.append_assoc]
      exact .more left kind right
    · cases read
      exact reads.lift .last

end Parser.Sound

/-- **What the parser reads are phrases, whatever the fuel.** -/
theorem Parser.sound : ∀ fuel, Sound fuel
  | 0 => .zero
  | fuel + 1 =>
    have h := Parser.sound fuel
    { chain := h.chain_succ
      goOn := h.goOn_succ
      unary := h.unary_succ
      comparison := h.comparison_succ
      operand := h.operand_succ
      items := h.items_succ }

end Workflows
