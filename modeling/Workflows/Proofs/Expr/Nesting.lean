import Workflows.Proofs.Expr.Steady

/-!
# Levels that are opened and closed

Whatever the parser is given, it closes the levels that it has opened, and no others.

* `Readers.Settled`: functions with enough fuel run alike; `Readers.Settled.next`, with one more call;
  `readers_settled`, whatever is added to the fuel;
* `Rule`: the rules that a tree is read by; `Rule.run`: the run of a rule's function at a cursor;
* `Cursor.ofPosition`: the cursor at a position in some tokens;
* **`nesting_balanced`**: a call of any of the functions, with any tokens and at any position in them.
-/

namespace Workflows

namespace Parser

/-! ## Enough fuel -/

namespace Observed

variable {α β : Type} {x : Observed (α × Cursor)} {f g : α × Cursor → Observed (β × Cursor)} {p : Place} {c : Cursor}
  {d e h m : Nat}

/-- What is done alike in front of the end is done alike after something else. -/
theorem Steady.bind_congr (s : x.Steady p c d e h m) (ended : c.Ended)
    (same : ∀ a c', c'.Ended → c'.rest.length + m ≤ c.rest.length → c'.depth = e → f (a, c') = g (a, c')) :
    x >>= f = x >>= g := by
  obtain ⟨moments, result⟩ := x
  cases result with
  | error e => rfl
  | ok read =>
    obtain ⟨a, c'⟩ := read
    obtain ⟨_, -, ends⟩ := s.result
    obtain ⟨passes, depth, -⟩ := ends (a, c') rfl
    have alike := same a c' (passes.ended ended) (passes.length_le ended) depth
    change Observed.mk (moments ++ (f (a, c')).moments) _ = ⟨moments ++ (g (a, c')).moments, _⟩
    rw [alike]

/-- What is done alike one level deeper. -/
theorem descend_congr {f g : Cursor → Observed (β × Cursor)} (inner : c.kind ≠ .eof) (ended : c.Ended)
    (same : ∀ c', c'.Ended → c'.rest.length + 1 ≤ c.rest.length → c'.depth ≤ maxNesting → f c' = g c') :
    descend p c.advance >>= f = descend p c.advance >>= g := by
  have passes := Cursor.passes_advance inner
  unfold descend
  cases descended : c.advance.descend with
  | error e => rfl
  | ok c' =>
    obtain ⟨room, rfl⟩ := Cursor.descend_eq_ok.1 descended
    have alike := same ⟨c.advance.rest, c.advance.depth + 1⟩ (passes.ended ended) (passes.length_le ended) room
    change Observed.mk (_ ++ (f _).moments) _ = ⟨_ ++ (g _).moments, _⟩
    rw [alike]

end Observed

/-- How much less fuel than eight for each token is enough for a chain. -/
def spare : Connective → Nat
  | .and => 4
  | .or => 3

namespace Readers

open Observed (called)

/-- Functions with enough fuel run alike: no token is reached through more than eight calls. -/
structure Settled (r r' : Readers) (fuel : Nat) : Prop where
  chain : ∀ k p c, c.Ended → c.depth ≤ maxNesting → 8 * c.rest.length ≤ fuel + spare k → r.chain k p c = r'.chain k p c
  goOn : ∀ k n T p c, c.Ended → c.depth ≤ maxNesting → 8 * c.rest.length ≤ fuel + 7 →
    r.goOn k n T p c = r'.goOn k n T p c
  unary : ∀ p c, c.Ended → c.depth ≤ maxNesting → 8 * c.rest.length ≤ fuel + 5 → r.unary p c = r'.unary p c
  comparison : ∀ p c, c.Ended → c.depth ≤ maxNesting → 8 * c.rest.length ≤ fuel + 6 →
    r.comparison p c = r'.comparison p c
  operand : ∀ p c, c.Ended → c.depth ≤ maxNesting → 8 * c.rest.length ≤ fuel + 7 → r.operand p c = r'.operand p c
  items : ∀ p c, c.Ended → c.depth ≤ maxNesting → 8 * c.rest.length ≤ fuel + 6 → r.items p c = r'.items p c

namespace Settled

variable {r r' : Readers} {fuel : Nat} {p : Place} {c : Cursor}

theorem zero : Settled r r' 0 where
  chain k _ _ ended _ enough := absurd enough (by have := ended.length_pos; cases k <;> simp only [spare] <;> omega)
  goOn _ _ _ _ _ ended _ enough := absurd enough (by have := ended.length_pos; omega)
  unary _ _ ended _ enough := absurd enough (by have := ended.length_pos; omega)
  comparison _ _ ended _ enough := absurd enough (by have := ended.length_pos; omega)
  operand _ _ ended _ enough := absurd enough (by have := ended.length_pos; omega)
  items _ _ ended _ enough := absurd enough (by have := ended.length_pos; omega)

variable (h : Settled r r' fuel) (s : r.Steady) (ended : c.Ended) (room : c.depth ≤ maxNesting)

include h ended room

theorem chainOperand (k : Connective) (enough : 8 * c.rest.length ≤ fuel + spare k + 1) :
    r.chainOperand k p c = r'.chainOperand k p c := by
  cases k with
  | and => exact h.unary p c ended room enough
  | or => exact h.chain .and p c ended room enough

include s

theorem next_chain (k : Connective) (enough : 8 * c.rest.length ≤ fuel + 1 + spare k) :
    r.next.chain k p c = r'.next.chain k p c := by
  unfold Readers.next
  dsimp only
  rw [← h.chainOperand ended room k (by omega)]
  refine congrArg (called p.call c) ((s.chainOperand room k).bind_congr ended fun T c' ended' shorter depth => ?_)
  exact h.goOn k 0 T p.call c' ended' (depth.trans_le room) (by cases k <;> simp only [spare] at enough <;> omega)

omit room in
theorem next_goOn (k : Connective) (n : Nat) (T : Expr) (enough : 8 * c.rest.length ≤ fuel + 1 + 7) :
    r.next.goOn k n T p c = r'.next.goOn k n T p c := by
  unfold Readers.next
  dsimp only
  split
  · next kind =>
    refine Observed.descend_congr (kind.trans_ne k.kind_ne_eof) ended fun c₁ ended₁ shorter room₁ => ?_
    rw [← h.chainOperand ended₁ room₁ k (by omega)]
    refine (s.chainOperand room₁ k).bind_congr ended₁ fun U c₂ ended₂ shorter₂ depth => ?_
    exact h.goOn k (n + 1) (k.join T U) p c₂ ended₂ (depth.trans_le room₁) (by omega)
  · rfl

omit s in
theorem next_unary (enough : 8 * c.rest.length ≤ fuel + 1 + 5) : r.next.unary p c = r'.next.unary p c := by
  unfold Readers.next
  dsimp only
  refine congrArg (called p.call c) ?_
  split
  · next kind =>
    refine Observed.descend_congr (kind.trans_ne (by decide)) ended fun c₁ ended₁ shorter room₁ => ?_
    rw [h.unary p.call.enter c₁ ended₁ room₁ (by omega)]
  · exact h.comparison p.call c ended room (by omega)

theorem next_comparison (enough : 8 * c.rest.length ≤ fuel + 1 + 6) :
    r.next.comparison p c = r'.next.comparison p c := by
  unfold Readers.next
  dsimp only
  rw [← h.operand p.call c ended room (by omega)]
  refine congrArg (called p.call c) ((s.operand p.call c room).bind_congr ended fun T c₁ ended₁ shorter depth => ?_)
  dsimp only
  split
  · rfl
  · next op width found =>
    obtain ⟨passes, same⟩ := Cursor.passes_operator found
    have behind := passes.length_le ended₁
    rw [h.operand p.call _ (passes.ended ended₁) ((same.trans depth).trans_le room) (by omega)]

omit s room in
theorem next_operand (enough : 8 * c.rest.length ≤ fuel + 1 + 7) : r.next.operand p c = r'.next.operand p c := by
  unfold Readers.next
  dsimp only
  refine congrArg (called p.call c) ?_
  -- An operand of one token is read without another function.
  split
  · rfl
  · rfl
  · rfl
  · rfl
  · rfl
  · rfl
  · next kind =>
    refine Observed.descend_congr (kind.trans_ne (by decide)) ended fun c₁ ended₁ shorter room₁ => ?_
    rw [h.chain .or p.call.enter c₁ ended₁ room₁ (by simp only [spare]; omega)]
  · next kind =>
    refine Observed.descend_congr (kind.trans_ne (by decide)) ended fun c₁ ended₁ shorter room₁ => ?_
    rw [h.items p.call.enter c₁ ended₁ room₁ (by omega)]
  · rfl
  · rfl

theorem next_items (enough : 8 * c.rest.length ≤ fuel + 1 + 6) : r.next.items p c = r'.next.items p c := by
  unfold Readers.next
  dsimp only
  split
  · rfl
  · rw [← h.operand p c ended room (by omega)]
    refine (s.operand p c room).bind_congr ended fun T c₁ ended₁ shorter depth => ?_
    dsimp only
    split
    · next kind =>
      have passes := Cursor.passes_advance (kind.trans_ne (by decide))
      have behind := passes.length_le ended₁
      rw [h.items p c₁.advance (passes.ended ended₁) (c₁.advance_depth.trans_le (depth.trans_le room)) (by omega)]
    · rfl

omit ended room in
theorem next : Settled r.next r'.next (fuel + 1) where
  chain k _ _ ended room := h.next_chain s ended room k
  goOn k n T _ _ ended _ := h.next_goOn s ended k n T
  unary _ _ ended room := h.next_unary ended room
  comparison _ _ ended room := h.next_comparison s ended room
  operand _ _ ended _ := h.next_operand ended
  items _ _ ended room := h.next_items s ended room

end Settled

end Readers

/-- **More fuel than enough makes no difference.** -/
theorem readers_settled (more : Nat) : ∀ fuel, (readers fuel).Settled (readers (fuel + more)) fuel
  | 0 => .zero
  | fuel + 1 => by
    rw [Nat.add_right_comm]
    exact (readers_settled more fuel).next (readers_steady fuel)

/-! ## The rules of the grammar -/

/-- The rules that a tree is read by. -/
inductive Rule
  | or
  | and
  | unary
  | comparison
  | operand

namespace Rule

/-- The function of the parser for a rule. -/
def parse : Rule → Nat → Cursor → Parsing (Expr × Cursor)
  | .or => parseOr
  | .and => parseAnd
  | .unary => parseUnary
  | .comparison => parseComparison
  | .operand => parseOperand

/-- That function, observed. -/
def reader (r : Readers) : Rule → Place → Cursor → Observed (Expr × Cursor)
  | .or => r.chain .or
  | .and => r.chain .and
  | .unary => r.unary
  | .comparison => r.comparison
  | .operand => r.operand

/-- The run of a rule's function at a cursor. -/
def run (rule : Rule) (fuel : Nat) (c : Cursor) : Observed (Expr × Cursor) := rule.reader (readers fuel) .start c

variable (rule : Rule) (fuel : Nat) {c : Cursor}

theorem run_result (c : Cursor) : (rule.run fuel c).result = rule.parse fuel c := by
  have agree := readers_agree fuel
  cases rule with
  | or => exact agree.chain .or _ c
  | and => exact agree.chain .and _ c
  | unary => exact agree.unary _ c
  | comparison => exact agree.comparison _ c
  | operand => exact agree.operand _ c

theorem run_steady (room : c.depth ≤ maxNesting) : (rule.run fuel c).Steady .start c c.depth c.depth 5 1 := by
  have steady := readers_steady fuel
  have fewer {x : Observed (Expr × Cursor)} {h : Nat} (s : x.Steady .start c c.depth c.depth h 1) (few : h ≤ 5) :
      x.Steady .start c c.depth c.depth 5 1 := s.mono (Nat.le_refl _) few (Nat.le_refl _)
  cases rule with
  | or => exact steady.chain .or _ c room
  | and => exact fewer (steady.chain .and _ c room) (by decide)
  | unary => exact fewer (steady.unary _ c room) (by decide)
  | comparison => exact fewer (steady.comparison _ c room) (by decide)
  | operand => exact fewer (steady.operand _ c room) (by decide)

theorem run_settled {fuel : Nat} (ended : c.Ended) (room : c.depth ≤ maxNesting)
    (enough : Expr.fuelFor c.rest ≤ fuel) : rule.run fuel c = rule.run (Expr.fuelFor c.rest) c := by
  obtain ⟨more, rfl⟩ := Nat.exists_eq_add_of_le enough
  have settled := readers_settled more (Expr.fuelFor c.rest)
  have tokens (n : Nat) : 8 * c.rest.length ≤ Expr.fuelFor c.rest + n := by
    unfold Expr.fuelFor
    omega
  cases rule with
  | or => exact (settled.chain .or _ c ended room (tokens _)).symm
  | and => exact (settled.chain .and _ c ended room (tokens _)).symm
  | unary => exact (settled.unary _ c ended room (tokens _)).symm
  | comparison => exact (settled.comparison _ c ended room (tokens _)).symm
  | operand => exact (settled.operand _ c ended room (tokens _)).symm

end Rule

end Parser

/-- The cursor at a position in some tokens; behind the last token it stands at that one still. -/
def Cursor.ofPosition (tokens : List Token) (position depth : Nat) : Cursor :=
  ⟨tokens.drop (min position (tokens.length - 1)), depth⟩

/-- Where the last token is an end, that is still to come. -/
theorem Cursor.ended_ofPosition {body : List Token} {last : Token} (eof : last.kind = .eof) (position d : Nat) :
    (Cursor.ofPosition (body ++ [last]) position d).Ended := by
  refine ⟨last, ?_, eof⟩
  unfold Cursor.ofPosition
  dsimp only
  rw [List.drop_append_of_le_length (by simp only [List.length_append, List.length_singleton]; omega)]
  exact List.mem_append_right _ (List.mem_singleton.2 rfl)

namespace Parser

/-- **The parser closes the levels that it has opened.** Wherever a function of the parser is called, it ends with as
many open levels as before, having closed as many as it has opened, and has read some tokens, of which none is an end.
The moments until then are all that the counter goes through: in each of them no more levels are open than are allowed,
only levels that the call has opened are closed, and it is inside no more groups, lists and `NOT` than there were levels
left, so that its calls do not depend on the number of tokens. More fuel makes no difference. -/
theorem nesting_balanced (rule : Rule) (tokens : List Token) (position d fuel : Nat) (room : d ≤ maxNesting) :
    let c := Cursor.ofPosition tokens position d
    let run := rule.run fuel c
    run.result = rule.parse fuel c ∧
    (∀ T c', rule.parse fuel c = .ok (T, c') →
      c'.depth = d ∧ Moves d run.moments d ∧
      (run.moments.map (·.opening)).sum = (run.moments.map (·.closing)).sum ∧
      (c.Ended → ∃ read, c.rest = read ++ c'.rest ∧ read ≠ [] ∧ ∀ t ∈ read, t.kind ≠ .eof)) ∧
    ((∃ e, Moves d run.moments e) ∧
      ∀ m ∈ run.moments, m.depth ≤ maxNesting ∧ d + m.closing ≤ m.depth ∧ m.inside ≤ maxNesting - d ∧
        m.calls ≤ 5 * (maxNesting - d + 1)) ∧
    (c.Ended → Expr.fuelFor c.rest ≤ fuel → run = rule.run (Expr.fuelFor c.rest) c) := by
  intro c run
  have steady := rule.run_steady fuel (c := c) room
  obtain ⟨e, moves, ends⟩ := steady.result
  refine ⟨rule.run_result fuel c, fun T c' parsed => ?_, ⟨⟨e, moves⟩, fun m mem => ?_⟩, fun ended enough =>
    rule.run_settled ended room enough⟩
  · obtain ⟨passes, depth, rfl⟩ := ends (T, c') ((rule.run_result fuel c).trans parsed)
    refine ⟨depth, moves, Nat.add_left_cancel moves.sum, fun ended => ?_⟩
    obtain ⟨read, rest, least, inner⟩ := passes ended
    exact ⟨read, rest, List.ne_nil_of_length_pos least, inner⟩
  · have within := steady.moments m mem
    have levels : d + m.closing + m.inside ≤ m.depth := within.levels
    have calls := within.calls
    have depth := within.depth
    simp only [Place.start] at calls
    exact ⟨depth, by omega, by omega, by omega⟩

namespace Sample

def last : Token := ⟨.eof, "", 13⟩

/-- The tokens of `NOT (a OR b)`. -/
def negated : List Token :=
  [⟨.not, "NOT", 1⟩, ⟨.openParen, "(", 5⟩, ⟨.identifier, "a", 6⟩, ⟨.or, "OR", 8⟩, ⟨.identifier, "b", 11⟩,
    ⟨.closeParen, ")", 12⟩] ++ [last]

/-- In front of them 61 levels are open. -/
def crowded : Cursor := .ofPosition negated 0 61

end Sample

/-- The sample is read within the three levels that are left, and all three are closed. -/
theorem nesting_balanced_negated :
    61 ≤ maxNesting ∧
    Rule.parse .or 64 Sample.crowded = .ok (.not (.or (.path "a") (.path "b")), ⟨[Sample.last], 61⟩) ∧
    ((Rule.run .or 64 Sample.crowded).moments.map (·.opening)).sum = 3 ∧
    ((Rule.run .or 64 Sample.crowded).moments.map (·.closing)).sum = 3 ∧
    (∃ read, Sample.crowded.rest = read ++ [Sample.last] ∧ read ≠ [] ∧ ∀ t ∈ read, t.kind ≠ .eof) ∧
    ∀ m ∈ (Rule.run .or 64 Sample.crowded).moments,
      m.depth ≤ maxNesting ∧ 61 + m.closing ≤ m.depth ∧ m.inside ≤ 3 ∧ m.calls ≤ 20 := by
  have parsed : Rule.parse .or 64 Sample.crowded =
      .ok (.not (.or (.path "a") (.path "b")), ⟨[Sample.last], 61⟩) := by rfl
  have opened : ((Rule.run .or 64 Sample.crowded).moments.map (·.opening)).sum = 3 := by decide +kernel
  have ended : Sample.crowded.Ended := Cursor.ended_ofPosition rfl 0 61
  obtain ⟨-, after, ⟨-, within⟩, -⟩ := nesting_balanced .or Sample.negated 0 61 64 (by decide)
  obtain ⟨-, -, balanced, read⟩ := after _ _ parsed
  exact ⟨by decide, parsed, opened, balanced.symm.trans opened, read ended, within⟩

end Parser

end Workflows
