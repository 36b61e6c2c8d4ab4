import Workflows.Proofs.Expr.Observed

/-!
# The counter of open levels

A function of the parser ends with as many open levels as before, and on the way stays within those that are allowed.

* `Cursor.Ended`, `Cursor.Passes`: there is an end to the tokens, and a function goes on in front of it;
* `Moment.Within`: what holds of the counter in a moment of a run, from where the run starts; `Moves`: the counter goes
  through some moments;
* `Observed.Meets`: what holds in all moments of a run, and where it ends well; `Observed.Steady`: the counter goes from
  one number of levels to another; `Observed.Steady.bind` and its likes, for the steps of a run;
* `Readers.Steady`: the functions of the parser end with the counter as it was; `Readers.Steady.next`, with one more
  call; **`readers_steady`**, whatever the fuel.
-/

namespace Workflows

/-! ## Tokens that are passed -/

namespace Cursor

/-- There is an end token to come. -/
def Ended (c : Cursor) : Prop := ∃ t ∈ c.rest, t.kind = .eof

/-- From `c` to `c'` some tokens are read, at least so many and none of them an end, if there is an end to come. -/
def Passes (least : Nat) (c c' : Cursor) : Prop :=
  c.Ended → ∃ read, c.rest = read ++ c'.rest ∧ least ≤ read.length ∧ ∀ t ∈ read, t.kind ≠ .eof

variable {a b c : Cursor} {m n : Nat}

theorem Ended.length_pos (h : c.Ended) : 0 < c.rest.length := by
  obtain ⟨t, mem, -⟩ := h
  exact List.length_pos_of_mem mem

/-- No end is passed. -/
theorem Passes.ended (h : Passes n a b) (ended : a.Ended) : b.Ended := by
  obtain ⟨read, rest, -, inner⟩ := h ended
  obtain ⟨t, mem, eof⟩ := ended
  rw [rest, List.mem_append] at mem
  exact ⟨t, mem.resolve_left fun before => inner t before eof, eof⟩

theorem Passes.length_le (h : Passes n a b) (ended : a.Ended) : b.rest.length + n ≤ a.rest.length := by
  obtain ⟨read, rest, least, -⟩ := h ended
  rw [rest, List.length_append]
  omega

theorem Passes.of_rest (same : a.rest = b.rest) : Passes 0 a b := fun _ => ⟨[], same, Nat.le_refl 0, by simp⟩

theorem Passes.mono (h : Passes m a b) (fewer : n ≤ m) : Passes n a b := by
  intro ended
  obtain ⟨read, rest, least, inner⟩ := h ended
  exact ⟨read, rest, Nat.le_trans fewer least, inner⟩

theorem Passes.trans (h : Passes m a b) (h' : Passes n b c) : Passes (m + n) a c := by
  intro ended
  obtain ⟨read, rest, least, inner⟩ := h ended
  obtain ⟨more, rest', least', inner'⟩ := h' (h.ended ended)
  refine ⟨read ++ more, by rw [rest, rest', List.append_assoc], ?_, List.forall_mem_append.2 ⟨inner, inner'⟩⟩
  rw [List.length_append]
  omega

theorem passes_advance (inner : c.kind ≠ .eof) : Passes 1 c c.advance := by
  intro ⟨e, mem, eof⟩
  obtain ⟨rest, d⟩ := c
  match rest with
  | [] => cases mem
  | [t] => exact absurd (List.mem_singleton.1 mem ▸ eof) inner
  | t :: u :: rest => exact ⟨[t], rfl, Nat.le_refl 1, List.forall_mem_singleton.2 inner⟩

/-- The cursor behind an operator. -/
theorem passes_operator {op : CompareOp} {width : Nat} (found : c.compareOp? = some (op, width)) :
    let behind := if width = 2 then c.advance.advance else c.advance
    Passes 1 c behind ∧ behind.depth = c.depth := by
  have one {k : TokenKind} (kind : c.kind = k) (inner : k ≠ .eof) : Passes 1 c c.advance ∧ c.advance.depth = c.depth :=
    ⟨passes_advance (kind.trans_ne inner), c.advance_depth⟩
  unfold compareOp? at found
  split at found
  all_goals try (next kind => cases found; exact one kind (by decide))
  · next kind =>
    split at found
    · next second =>
      cases found
      have isIn : c.advance.kind = .isIn := advance_kind.trans second
      have both := (passes_advance (kind.trans_ne (by decide))).trans (passes_advance (isIn.trans_ne (by decide)))
      exact ⟨both.mono (by decide), by simp⟩
    · cases found
  · cases found

end Cursor

namespace Parser

/-! ## Moments -/

/-- A moment of a run that starts in a place with `d` open levels, and in which at most `h` functions are under way
inside each group, list or `NOT`. What the run is inside, and what is closed next, are levels that it has opened. -/
structure Moment.Within (m : Moment) (p : Place) (d h : Nat) : Prop where
  inside : p.inside ≤ m.inside
  depth : m.depth ≤ maxNesting
  levels : d + m.closing + m.inside ≤ m.depth + p.inside
  calls : m.calls + 5 * p.inside ≤ p.calls + h + 5 * m.inside

namespace Moment.Within

variable {m : Moment} {p : Place} {d d' h h' : Nat}

theorem mono (w : m.Within p d h) (lower : d' ≤ d) (more : h ≤ h') : m.Within p d' h' where
  inside := w.inside
  depth := w.depth
  levels := by have := w.levels; omega
  calls := by have := w.calls; omega

theorem call (w : m.Within p.call d h) : m.Within p d (h + 1) where
  inside := w.inside
  depth := w.depth
  levels := w.levels
  calls := by
    have calls := w.calls
    simp only [Place.call] at calls
    omega

/-- Inside a group, list or `NOT` there is room for five more functions. -/
theorem enter (w : m.Within p.enter (d + 1) (h + 5)) : m.Within p d h where
  inside := Nat.le_of_succ_le w.inside
  depth := w.depth
  levels := by
    have levels := w.levels
    simp only [Place.enter] at levels
    omega
  calls := by
    have calls := w.calls
    simp only [Place.enter] at calls
    omega

/-- A moment in the place itself, in which no level is closed but those opened before. -/
theorem of_place {c : Cursor} {opening closing : Nat} (room : c.depth ≤ maxNesting) (levels : d + closing ≤ c.depth) :
    (p.moment c opening closing).Within p d h where
  inside := Nat.le_refl _
  depth := room
  levels := Nat.add_le_add_right levels _
  calls := by simp only [Place.moment]; omega

end Moment.Within

/-- The counter goes from one number of open levels to another through some moments, each of which finds it as the one
before has left it. -/
def Moves : Nat → List Moment → Nat → Prop
  | d, [], e => d = e
  | d, m :: ms, e => m.depth = d + m.opening ∧ m.closing ≤ m.depth ∧ Moves (m.depth - m.closing) ms e

theorem Moves.append {a b c : Nat} {ms ms' : List Moment} (h : Moves a ms b) (h' : Moves b ms' c) :
    Moves a (ms ++ ms') c := by
  induction ms generalizing a with
  | nil => cases h; exact h'
  | cons m ms ih =>
    obtain ⟨depth, enough, rest⟩ := h
    exact ⟨depth, enough, ih rest⟩

theorem Moves.sum {a b : Nat} {ms : List Moment} (h : Moves a ms b) :
    a + (ms.map (·.opening)).sum = b + (ms.map (·.closing)).sum := by
  induction ms generalizing a with
  | nil => exact congrArg (· + 0) h
  | cons m ms ih =>
    obtain ⟨depth, enough, rest⟩ := h
    have later := ih rest
    simp only [List.map_cons, List.sum_cons]
    omega

/-! ## Runs -/

namespace Observed

/-- All moments of a run that starts with `d` open levels are as `P` says, and the counter goes through them; and where
the run ends well, what it leaves open and what comes of it is as `Q` says. -/
structure Meets {α : Type} (x : Observed α) (d : Nat) (P : Moment → Prop) (Q : Nat → α → Prop) : Prop where
  moments : ∀ m ∈ x.moments, P m
  result : ∃ e, Moves d x.moments e ∧ ∀ a, x.result = .ok a → Q e a

variable {α β : Type} {x : Observed α} {f : α → Observed β} {P P' : Moment → Prop} {R R' : Nat → α → Prop}
  {Q : Nat → β → Prop} {p q : Place} {c c' : Cursor} {d : Nat}

theorem Meets.imp (h : x.Meets d P R) (weaker : ∀ m, P m → P' m) (weaker' : ∀ e a, R e a → R' e a) :
    x.Meets d P' R' where
  moments m mem := weaker m (h.moments m mem)
  result := by
    obtain ⟨e, moves, result⟩ := h.result
    exact ⟨e, moves, fun a ended => weaker' e a (result a ended)⟩

theorem Meets.bind (h : x.Meets d P R) (next : ∀ e a, R e a → (f a).Meets e P Q) : (x >>= f).Meets d P Q := by
  obtain ⟨moments, result⟩ := x
  obtain ⟨e, moves, ends⟩ := h.result
  cases result with
  | error _ => exact ⟨h.moments, e, moves, nofun⟩
  | ok a =>
    have after := next e a (ends a rfl)
    obtain ⟨e', moves', ends'⟩ := after.result
    exact ⟨List.forall_mem_append.2 ⟨h.moments, after.moments⟩, e', moves.append moves', ends'⟩

theorem Meets.pure {b : β} (h : Q d b) : (Pure.pure b : Observed β).Meets d P Q where
  moments := by intro m mem; cases mem
  result := ⟨d, rfl, fun _ same => by cases same; exact h⟩

theorem Meets.of (y : Parsing α) : (of y).Meets d P fun e a => e = d ∧ y = .ok a where
  moments := by intro m mem; cases mem
  result := ⟨d, rfl, fun _ same => ⟨rfl, same⟩⟩

theorem Meets.called (h : x.Meets c.depth P R) (now : P (p.moment c 0 0)) : (called p c x).Meets c.depth P R where
  moments := List.forall_mem_cons.2 ⟨now, h.moments⟩
  result := by
    obtain ⟨e, moves, ends⟩ := h.result
    exact ⟨e, ⟨rfl, Nat.zero_le _, moves⟩, ends⟩

theorem Meets.descend (now : c.depth < maxNesting → P (p.moment ⟨c.rest, c.depth + 1⟩ 1 0)) :
    (descend p c).Meets c.depth P fun e c' => c.depth < maxNesting ∧ e = c.depth + 1 ∧ c' = ⟨c.rest, c.depth + 1⟩ := by
  unfold Observed.descend
  cases descended : c.descend with
  | error e =>
    refine ⟨?_, c.depth, rfl, nofun⟩
    intro m mem
    cases mem
  | ok c' =>
    obtain ⟨room, rfl⟩ := Cursor.descend_eq_ok.1 descended
    refine ⟨List.forall_mem_singleton.2 (now room), c.depth + 1, ⟨rfl, Nat.zero_le _, rfl⟩, fun a same => ?_⟩
    cases same
    exact ⟨room, rfl, rfl⟩

theorem Meets.ascend {k : Nat} (opened : k ≤ c.depth) (now : P (p.moment c 0 k)) :
    (ascend p c k).Meets c.depth P fun e c' => e = c.depth - k ∧ c' = c.ascend k where
  moments := List.forall_mem_singleton.2 now
  result := ⟨c.depth - k, ⟨rfl, opened, rfl⟩, fun _ same => by cases same; exact ⟨rfl, rfl⟩⟩

/-- A run that starts at `c`, closes no level but those opened above `d`, has at most `h` functions under way inside
each group, list or `NOT`, and ends with `e` open levels; at least so many tokens are passed. -/
def Steady (x : Observed (α × Cursor)) (p : Place) (c : Cursor) (d e h least : Nat) : Prop :=
  x.Meets c.depth (·.Within p d h) fun e' (_, c') => c.Passes least c' ∧ c'.depth = e ∧ e' = e

namespace Steady

variable {x : Observed (α × Cursor)} {f : α × Cursor → Observed (β × Cursor)} {g : Cursor → Observed (α × Cursor)}
  {d d' e e' h h' m n : Nat}

theorem mono (s : x.Steady p c d e h m) (lower : d' ≤ d) (more : h ≤ h') (fewer : n ≤ m) : x.Steady p c d' e h' n :=
  s.imp (fun _ within => within.mono lower more) fun _ _ ⟨passes, rest⟩ => ⟨passes.mono fewer, rest⟩

theorem fewer (s : x.Steady p c d e h m) (fewer : n ≤ m) : x.Steady p c d e h n :=
  s.mono (Nat.le_refl _) (Nat.le_refl _) fewer

theorem bind (s : x.Steady p c d e h m) (next : ∀ a c', c'.depth = e → (f (a, c')).Steady p c' d e' h n) :
    (x >>= f).Steady p c d e' h (m + n) := by
  refine Meets.bind s fun _ (a, c') ⟨passes, depth, left⟩ => ?_
  rw [left, ← depth]
  exact (next a c' depth).imp (fun _ within => within) fun _ _ ⟨passes', ended⟩ => ⟨passes.trans passes', ended⟩

theorem pure (depth : c.depth = e) (a : α) : (Pure.pure (a, c) : Observed (α × Cursor)).Steady p c d e h 0 :=
  Meets.pure ⟨.of_rest rfl, depth, depth⟩

theorem of_error (error : ExprError) : (of (.error error) : Observed (α × Cursor)).Steady p c d e h m where
  moments := by intro m mem; cases mem
  result := ⟨c.depth, rfl, nofun⟩

/-- What is done after some tokens. -/
theorem after (s : x.Steady p c' d e h n) (passes : c.Passes m c') (depth : c'.depth = c.depth) :
    x.Steady p c d e h (m + n) := by
  unfold Steady
  rw [← depth]
  exact s.imp (fun _ within => within) fun _ _ ⟨passes', ended⟩ => ⟨passes.trans passes', ended⟩

/-- What is read inside a group, list or `NOT`. -/
theorem enter (s : x.Steady p.enter c (d + 1) e (h + 5) m) : x.Steady p c d e h m :=
  s.imp (fun _ within => within.enter) fun _ _ ended => ended

theorem called (s : x.Steady p.call c d e h m) (room : c.depth ≤ maxNesting) (lower : d ≤ c.depth) :
    (called p.call c x).Steady p c d e (h + 1) m := by
  have outer : x.Steady p c d e (h + 1) m := s.imp (fun _ within => within.call) fun _ _ ended => ended
  exact Meets.called outer (.call (.of_place room lower))

theorem descend (now : c.depth < maxNesting → (q.moment ⟨c.rest, c.depth + 1⟩ 1 0).Within p d h)
    (next : c.depth < maxNesting → (g ⟨c.rest, c.depth + 1⟩).Steady p ⟨c.rest, c.depth + 1⟩ d e h n) :
    (descend q c >>= g).Steady p c d e h n := by
  refine (Meets.descend now).bind fun _ c' ⟨room, left, opened⟩ => ?_
  subst left opened
  exact next room

theorem ascend {k : Nat} (room : c.depth ≤ maxNesting) (opened : c.depth = e + k) (lower : d ≤ e) (a : α) :
    (ascend p c k >>= fun c => Pure.pure (a, c)).Steady p c d e h 0 := by
  refine (Meets.ascend (by omega) (.of_place room (by omega))).bind fun _ c' ⟨left, closed⟩ => ?_
  subst left closed
  have depth : c.depth - k = e := (congrArg (· - k) opened).trans (Nat.add_sub_cancel _ _)
  exact Meets.pure ⟨.of_rest rfl, depth, depth⟩

theorem expect {k : TokenKind} (inner : k ≠ .eof) (next : ∀ c', c'.depth = c.depth → (g c').Steady p c' d e h n) :
    (of (c.expect k) >>= g).Steady p c d e h (1 + n) := by
  refine (Meets.of _).bind fun _ c' ⟨left, expected⟩ => ?_
  obtain ⟨kind, rfl⟩ := Cursor.expect_eq_ok.1 expected
  rw [left]
  exact (next _ c.advance_depth).after (Cursor.passes_advance (kind.trans_ne inner)) c.advance_depth

/-- What is read one level deeper, and closed then. -/
theorem opened (kind : c.kind ≠ .eof) (fewer : h' ≤ 5)
    (inside : ∀ c, c.depth ≤ maxNesting → (g c).Steady p.enter c c.depth c.depth h' n)
    (closed : ∀ a c', c'.depth = c.depth + 1 → c'.depth ≤ maxNesting → (f (a, c')).Steady p c' c.depth c.depth h 0) :
    (Observed.descend p.enter c.advance >>= fun c => g c >>= f).Steady p c c.depth c.depth h 1 := by
  have same := c.advance_depth
  refine .after (m := 1) (n := 0) ?_ (Cursor.passes_advance kind) same
  refine .descend (fun room => .enter (.of_place room (by dsimp only; omega))) fun room => ?_
  have deeper := (inside ⟨c.advance.rest, c.advance.depth + 1⟩ room).mono
    (show c.depth + 1 ≤ c.advance.depth + 1 by omega) (show h' ≤ h + 5 by omega) (Nat.zero_le _)
  exact deeper.enter.bind fun a c' depth => closed a c' (depth.trans (congrArg (· + 1) same)) (depth.trans_le room)

/-- What is read between an opening token and a closing one. -/
theorem enclosed {k : TokenKind} (tree : α → β) (opens : c.kind ≠ .eof) (closes : k ≠ .eof) (fewer : h' ≤ 5)
    (inside : ∀ c, c.depth ≤ maxNesting → (g c).Steady p.enter c c.depth c.depth h' n) :
    (Observed.descend p.enter c.advance >>= fun c => g c >>= fun read => of (read.2.expect k) >>= fun c =>
      Observed.ascend p c 1 >>= fun c => Pure.pure (tree read.1, c)).Steady p c c.depth c.depth h 1 := by
  refine .opened opens fewer inside fun a c' depth room => ?_
  have closed := Steady.expect (c := c') (p := p) (h := h) closes
    (g := fun c => Observed.ascend p c 1 >>= fun c => Pure.pure (tree a, c)) fun c'' same =>
      .ascend (same.trans_le room) (same.trans depth) (Nat.le_refl _) (tree a)
  exact closed.fewer (Nat.zero_le _)

end Steady

end Observed

/-! ## The functions of the parser -/

/-- How many functions are under way for an operand of a chain. -/
def below : Connective → Nat
  | .and => 3
  | .or => 4

namespace Readers

/-- The functions of the parser end with the counter as it was, and close no levels but their own. The loop of a chain
is entered with one level for each further operand that has been read, and closes those too. -/
structure Steady (r : Readers) : Prop where
  chain : ∀ k p c, c.depth ≤ maxNesting → (r.chain k p c).Steady p c c.depth c.depth (below k + 1) 1
  goOn : ∀ k n T p c d, c.depth ≤ maxNesting → c.depth = d + n → (r.goOn k n T p c).Steady p c d d (below k) 0
  unary : ∀ p c, c.depth ≤ maxNesting → (r.unary p c).Steady p c c.depth c.depth 3 1
  comparison : ∀ p c, c.depth ≤ maxNesting → (r.comparison p c).Steady p c c.depth c.depth 2 1
  operand : ∀ p c, c.depth ≤ maxNesting → (r.operand p c).Steady p c c.depth c.depth 1 1
  items : ∀ p c, c.depth ≤ maxNesting → (r.items p c).Steady p c c.depth c.depth 1 0

theorem steady_spent : spent.Steady where
  chain _ _ _ _ := .of_error _
  goOn _ _ _ _ _ _ _ _ := .of_error _
  unary _ _ _ := .of_error _
  comparison _ _ _ := .of_error _
  operand _ _ _ := .of_error _
  items _ _ _ := .of_error _

namespace Steady

open Cursor (passes_advance passes_operator)

variable {r : Readers} (s : r.Steady) {p : Place} {c : Cursor} (room : c.depth ≤ maxNesting)

include s room

theorem chainOperand (k : Connective) : (r.chainOperand k p c).Steady p c c.depth c.depth (below k) 1 := by
  cases k with
  | and => exact s.unary p c room
  | or => exact s.chain .and p c room

theorem next_chain (k : Connective) : (r.next.chain k p c).Steady p c c.depth c.depth (below k + 1) 1 := by
  unfold Readers.next
  dsimp only
  refine .called ((s.chainOperand room k).bind (n := 0) fun T c' depth => ?_) room (Nat.le_refl _)
  exact s.goOn k 0 T p.call c' c.depth (depth.trans_le room) depth

/-- A further operand is read one level deeper. -/
theorem next_goOn {n d : Nat} (k : Connective) (T : Expr) (opened : c.depth = d + n) :
    (r.next.goOn k n T p c).Steady p c d d (below k) 0 := by
  unfold Readers.next
  dsimp only
  split
  · next kind =>
    have deep : c.advance.depth = d + n := c.advance_depth.trans opened
    refine .fewer (m := 2) ?_ (Nat.zero_le _)
    refine .after (m := 1) (n := 1) ?_ (passes_advance (kind.trans_ne k.kind_ne_eof)) c.advance_depth
    -- The level is left open: the loop closes it with the others when no operand follows.
    refine .descend (fun below_max => .of_place below_max (by dsimp only; omega)) fun below_max => ?_
    have operand := (s.chainOperand (p := p) (c := ⟨c.advance.rest, c.advance.depth + 1⟩) below_max k).mono
      (show d ≤ c.advance.depth + 1 by omega) (Nat.le_refl _) (Nat.le_refl _)
    refine operand.bind (n := 0) fun U c' depth => ?_
    exact s.goOn k (n + 1) (k.join T U) p c' d (depth.trans_le below_max) (depth.trans (by dsimp only; omega))
  · exact .ascend room opened (Nat.le_refl _) T

theorem next_unary : (r.next.unary p c).Steady p c c.depth c.depth 3 1 := by
  unfold Readers.next
  dsimp only
  refine .called (h := 2) ?_ room (Nat.le_refl _)
  split
  · next kind =>
    refine .opened (kind.trans_ne (by decide)) (by decide) (s.unary p.call.enter) fun T c' depth room => ?_
    exact .ascend room depth (Nat.le_refl _) (Expr.not T)
  · exact s.comparison p.call c room

theorem next_comparison : (r.next.comparison p c).Steady p c c.depth c.depth 2 1 := by
  unfold Readers.next
  dsimp only
  refine .called (h := 1) ?_ room (Nat.le_refl _)
  refine (s.operand p.call c room).bind (n := 0) fun T c₁ depth => ?_
  dsimp only
  split
  · exact .pure depth T
  · next op width found =>
    obtain ⟨passes, same⟩ := passes_operator found
    refine .fewer (m := 2) (.after (m := 1) (n := 1) ?_ passes same) (Nat.zero_le _)
    have right := s.operand p.call _ ((same.trans depth).trans_le room)
    rw [same.trans depth] at right
    exact right.bind (n := 0) fun U c₂ depth' => .pure depth' (Expr.compare op T U)

theorem next_operand : (r.next.operand p c).Steady p c c.depth c.depth 1 1 := by
  have token {k : TokenKind} (kind : c.kind = k) (inner : k ≠ .eof) (T : Expr) :
      (pure (T, c.advance) : Observed (Expr × Cursor)).Steady p.call c c.depth c.depth 0 1 := by
    have read : (pure (T, c.advance) : Observed (Expr × Cursor)).Steady p.call c.advance c.depth c.depth 0 0 :=
      .pure c.advance_depth T
    exact read.after (passes_advance (kind.trans_ne inner)) c.advance_depth
  unfold Readers.next
  dsimp only
  refine .called (h := 0) ?_ room (Nat.le_refl _)
  split
  · next kind => exact token kind (by decide) _
  · next kind => exact token kind (by decide) _
  · next kind =>
    cases c.peek.number? with
    | error e => exact .of_error e
    | ok v => exact token kind (by decide) (.literal v)
  · next kind => exact token kind (by decide) _
  · next kind => exact token kind (by decide) _
  · next kind => exact token kind (by decide) _
  · next kind => exact .enclosed id (kind.trans_ne (by decide)) (by decide) (by decide) (s.chain .or p.call.enter)
  · next kind => exact .enclosed Expr.list (kind.trans_ne (by decide)) (by decide) (by decide) (s.items p.call.enter)
  · exact .of_error _
  · exact .of_error _

theorem next_items : (r.next.items p c).Steady p c c.depth c.depth 1 0 := by
  unfold Readers.next
  dsimp only
  split
  · exact .pure rfl []
  · refine .fewer (m := 1) ?_ (Nat.zero_le _)
    refine (s.operand p c room).bind (n := 0) fun T c₁ depth => ?_
    dsimp only
    split
    · next kind =>
      have passes := passes_advance (kind.trans_ne (by decide))
      refine .fewer (m := 1) (.after (m := 1) (n := 0) ?_ passes c₁.advance_depth) (Nat.zero_le _)
      have same : c₁.advance.depth = c.depth := c₁.advance_depth.trans depth
      have others := s.items p c₁.advance (same.trans_le room)
      rw [same] at others
      exact others.bind (n := 0) fun Ts c₂ depth' => .pure depth' (T :: Ts)
    · exact .pure depth [T]

omit room in
theorem next : r.next.Steady where
  chain k _ _ room := s.next_chain room k
  goOn k _ T _ _ _ room opened := s.next_goOn room k T opened
  unary _ _ room := s.next_unary room
  comparison _ _ room := s.next_comparison room
  operand _ _ room := s.next_operand room
  items _ _ room := s.next_items room

end Steady

end Readers

/-- **The functions of the parser end with the counter as it was.** -/
theorem readers_steady : ∀ fuel, (readers fuel).Steady
  | 0 => Readers.steady_spent
  | fuel + 1 => (readers_steady fuel).next

end Parser

end Workflows
