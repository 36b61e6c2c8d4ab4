import Workflows.Proofs.Expr.Soundness

/-!
# Runs of the parser, observed

The parser only says what it has read. Here are its functions once more with all that the counter of open levels goes
through while they run.

* `Moment`: the counter when a function is called, when a level has been opened and before levels are closed, together
  with what is under way;
* `Observed`: what comes of a run and its moments; `Observed.descend`, `Observed.ascend`: the two steps that move the
  counter;
* `Readers.next`: the functions of the parser, each with those that it may call; `readers`: with some fuel;
* **`readers_agree`**: they read what the parser reads.
-/

namespace Workflows

namespace Parser

/-- A moment of a run of the parser. -/
structure Moment where
  /-- The levels that are open. -/
  depth : Nat
  /-- Those of them that have just been opened. -/
  opening : Nat
  /-- Those of them that are closed next. -/
  closing : Nat
  /-- The groups, lists and `NOT` that the run is inside. -/
  inside : Nat
  /-- The functions that have been called and have not ended. -/
  calls : Nat
  deriving DecidableEq

/-- Where a function of the parser is called: inside how many groups, lists and `NOT`, and from how many functions. -/
structure Place where
  inside : Nat
  calls : Nat

namespace Place

/-- Where a run starts. -/
def start : Place := ⟨0, 0⟩

/-- In one more function. -/
def call (p : Place) : Place := { p with calls := p.calls + 1 }

/-- Inside one more group, list or `NOT`. -/
def enter (p : Place) : Place := { p with inside := p.inside + 1 }

/-- The moment in which the counter stands as it does at `c`. -/
def moment (p : Place) (c : Cursor) (opening closing : Nat) : Moment :=
  ⟨c.depth, opening, closing, p.inside, p.calls⟩

end Place

/-- A run: its moments, in order, and what comes of it. -/
structure Observed (α : Type) where
  moments : List Moment
  result : Parsing α

namespace Observed

instance : Monad Observed where
  pure a := ⟨[], .ok a⟩
  bind x f :=
    match x.result with
    | .ok a => ⟨x.moments ++ (f a).moments, (f a).result⟩
    | .error e => ⟨x.moments, .error e⟩

/-- What does not look at the counter. -/
def of {α : Type} (x : Parsing α) : Observed α := ⟨[], x⟩

/-- The run of a function that is called at `c`. -/
def called {α : Type} (p : Place) (c : Cursor) (x : Observed α) : Observed α :=
  ⟨p.moment c 0 0 :: x.moments, x.result⟩

/-- Opens a level. -/
def descend (p : Place) (c : Cursor) : Observed Cursor :=
  match c.descend with
  | .ok c => ⟨[p.moment c 1 0], .ok c⟩
  | .error e => ⟨[], .error e⟩

/-- Closes `levels` levels. -/
def ascend (p : Place) (c : Cursor) (levels : Nat) : Observed Cursor :=
  ⟨[p.moment c 0 levels], .ok (c.ascend levels)⟩

variable {α β : Type}

@[simp] theorem of_result (x : Parsing α) : (of x).result = x := rfl

@[simp] theorem bind_result (x : Observed α) (f : α → Observed β) :
    (x >>= f).result = x.result >>= fun a => (f a).result := by
  obtain ⟨moments, result⟩ := x
  cases result <;> rfl

@[simp] theorem called_result (p : Place) (c : Cursor) (x : Observed α) : (called p c x).result = x.result := rfl

@[simp] theorem descend_result (p : Place) (c : Cursor) : (descend p c).result = c.descend := by
  unfold descend
  cases c.descend <;> rfl

end Observed

/-! ## The functions of the parser -/

/-- The functions of the parser: for a chain and for its further operands, by its connective, and for the others. -/
structure Readers where
  chain : Connective → Place → Cursor → Observed (Expr × Cursor)
  goOn : Connective → Nat → Expr → Place → Cursor → Observed (Expr × Cursor)
  unary : Place → Cursor → Observed (Expr × Cursor)
  comparison : Place → Cursor → Observed (Expr × Cursor)
  operand : Place → Cursor → Observed (Expr × Cursor)
  items : Place → Cursor → Observed (List Expr × Cursor)

namespace Readers

open Observed (called descend ascend of)

/-- The function for the operands of a chain. -/
def chainOperand (r : Readers) : Connective → Place → Cursor → Observed (Expr × Cursor)
  | .and => r.unary
  | .or => r.chain .and

/-- Functions without fuel. -/
def spent : Readers where
  chain _ _ c := of (outOfFuel c)
  goOn _ _ _ _ c := of (outOfFuel c)
  unary _ c := of (outOfFuel c)
  comparison _ c := of (outOfFuel c)
  operand _ c := of (outOfFuel c)
  items _ c := of (outOfFuel c)

/-- The functions that call the given ones. The further operands of a chain and the items of a list are read in the
loop of a function that has been called. -/
def next (r : Readers) : Readers where
  chain k p c := called p.call c do
    let (left, c) ← r.chainOperand k p.call c
    r.goOn k 0 left p.call c
  goOn k chained left p c :=
    if c.kind = k.kind then do
      let c ← descend p c.advance
      let (right, c) ← r.chainOperand k p c
      r.goOn k (chained + 1) (k.join left right) p c
    else do
      let c ← ascend p c chained
      return (left, c)
  unary p c := called p.call c <|
    if c.kind = .not then do
      let c ← descend p.call.enter c.advance
      let (inner, c) ← r.unary p.call.enter c
      let c ← ascend p.call c 1
      return (.not inner, c)
    else r.comparison p.call c
  comparison p c := called p.call c do
    let (left, c) ← r.operand p.call c
    match c.compareOp? with
    | none => return (left, c)
    | some (op, width) =>
      let c := if width = 2 then c.advance.advance else c.advance
      let (right, c) ← r.operand p.call c
      return (.compare op left right, c)
  operand p c := called p.call c <|
    let t := c.peek
    match t.kind with
    | .identifier => return (.path t.text, c.advance)
    | .text => return (.literal (.text t.text), c.advance)
    | .number => of (t.number?.map fun v => (.literal v, c.advance))
    | .true => return (.literal (.bool true), c.advance)
    | .false => return (.literal (.bool false), c.advance)
    | .null => return (.literal .null, c.advance)
    | .openParen => do
      let c ← descend p.call.enter c.advance
      let (inner, c) ← r.chain .or p.call.enter c
      let c ← of (c.expect .closeParen)
      let c ← ascend p.call c 1
      return (inner, c)
    | .openBracket => do
      let c ← descend p.call.enter c.advance
      let (items, c) ← r.items p.call.enter c
      let c ← of (c.expect .closeBracket)
      let c ← ascend p.call c 1
      return (.list items, c)
    | .eof => of (.error (.unexpectedEnd .operand))
    | _ => of (.error (.unexpectedToken .operand t))
  items p c :=
    if c.kind = .closeBracket then return ([], c)
    else do
      let (item, c) ← r.operand p c
      if c.kind = .comma then
        let (items, c) ← r.items p c.advance
        return (item :: items, c)
      else return ([item], c)

/-- Functions read what the parser reads with some fuel. -/
structure Agree (r : Readers) (fuel : Nat) : Prop where
  chain : ∀ k p c, (r.chain k p c).result = k.parseChain fuel c
  goOn : ∀ k n T p c, (r.goOn k n T p c).result = k.goOn fuel n T c
  unary : ∀ p c, (r.unary p c).result = parseUnary fuel c
  comparison : ∀ p c, (r.comparison p c).result = parseComparison fuel c
  operand : ∀ p c, (r.operand p c).result = parseOperand fuel c
  items : ∀ p c, (r.items p c).result = parseItems fuel c

variable {r : Readers} {fuel : Nat}

theorem agree_spent : spent.Agree 0 where
  chain k _ c := (k.parseChain_zero c).symm
  goOn k n T _ c := (k.goOn_zero n T c).symm
  unary _ _ := rfl
  comparison _ _ := rfl
  operand _ _ := rfl
  items _ _ := rfl

namespace Agree

variable (h : r.Agree fuel)

include h

theorem chainOperand (k : Connective) (p : Place) (c : Cursor) :
    (r.chainOperand k p c).result = k.parseOperand fuel c := by
  cases k with
  | and => exact h.unary p c
  | or => exact h.chain .and p c

theorem next : r.next.Agree (fuel + 1) where
  chain k p c := by
    rw [k.parseChain_succ]
    simp only [Readers.next, Observed.called_result, Observed.bind_result, h.chainOperand, h.goOn]
  goOn k n T p c := by
    rw [k.goOn_succ]
    unfold Readers.next
    dsimp only
    split
    · simp only [Observed.bind_result, Observed.descend_result, h.chainOperand, h.goOn]
    · rfl
  unary p c := by
    unfold Readers.next parseUnary
    dsimp only [Observed.called_result]
    split
    · simp only [Observed.bind_result, Observed.descend_result, h.unary]
      rfl
    · exact h.comparison p.call c
  comparison p c := by
    unfold Readers.next parseComparison
    simp only [Observed.called_result, Observed.bind_result, h.operand]
    refine bind_congr fun read => ?_
    obtain ⟨left, c⟩ := read
    dsimp only
    cases c.compareOp? with
    | none => rfl
    | some found =>
      simp only [Observed.bind_result, h.operand]
      rfl
  operand p c := by
    unfold Readers.next parseOperand
    dsimp only [Observed.called_result]
    cases c.peek.kind with
    | openParen =>
      simp only [Observed.bind_result, Observed.descend_result, h.chain, Observed.of_result]
      rfl
    | openBracket =>
      simp only [Observed.bind_result, Observed.descend_result, h.items, Observed.of_result]
      rfl
    | _ => rfl
  items p c := by
    unfold Readers.next parseItems
    dsimp only
    split
    · rfl
    · simp only [Observed.bind_result, h.operand]
      refine bind_congr fun read => ?_
      obtain ⟨item, c⟩ := read
      dsimp only
      split
      · simp only [Observed.bind_result, h.items]
        rfl
      · rfl

end Agree

end Readers

/-- The functions of the parser, with some fuel. -/
def readers : Nat → Readers
  | 0 => .spent
  | fuel + 1 => (readers fuel).next

/-- **What the parser reads is read while it is observed.** -/
theorem readers_agree : ∀ fuel, (readers fuel).Agree fuel
  | 0 => Readers.agree_spent
  | fuel + 1 => (readers_agree fuel).next

end Parser

end Workflows
