import Workflows.Proofs.Expr.Juxtaposed

/-!
# How deep trees of expressions are

A chain puts its first operand below all the others, when the levels of that operand are open no more. So a tree
has more levels than may be open at once, though still a bounded number of them.

* `Expr.depth`: the longest path in a tree, by what leaves and comparisons count; `Expr.levels`, where they count
  nothing; `Expr.height`, where they count one each, as every call of a function that calls itself on the parts
  of a tree does;
* `Bounds`, `Phrase.most`: how deep operands and phrases may be with so many levels left;
  **`Derives.depth_le`**: no phrase is deeper;
* `Expr.leftTurns`, `Derives.levels_le`: what a tree may have besides the levels that may be open;
* `bounds_levels`, `bounds_height`: how deep trees are at most;
* `Deepest`: a family of expressions that are as deep as that; `exists_deepest`: one of them is a text;
* **`parse_depth_le`**: how deep a tree of a text is at most; `parse_deeper_than_nesting`: a small one that is deeper
  than `maxNesting`.
-/

namespace Workflows

/-! ## The depth of a tree -/

namespace Expr

mutual

/-- The longest path from the root of a tree. A leaf counts `leaf`, a comparison `check` and any other node one. -/
def depth (leaf check : Nat) : Expr → Nat
  | .literal _ => leaf
  | .path _ => leaf
  | .list items => itemsDepth leaf check items + 1
  | .not e => e.depth leaf check + 1
  | .and l r => max (l.depth leaf check) (r.depth leaf check) + 1
  | .or l r => max (l.depth leaf check) (r.depth leaf check) + 1
  | .compare _ l r => max (l.depth leaf check) (r.depth leaf check) + check

/-- The longest path in the items of a list. -/
def itemsDepth (leaf check : Nat) : List Expr → Nat
  | [] => 0
  | e :: rest => max (e.depth leaf check) (itemsDepth leaf check rest)

end

/-- How many `NOT`, lists, `AND` and `OR` there are at most on a path from the root of a tree. -/
def levels (e : Expr) : Nat := e.depth 0 0

/-- How many nodes there are at most on a path from the root of a tree: so many calls are open at once when a
function calls itself on the parts of the tree. -/
def height (e : Expr) : Nat := e.depth 1 1

mutual

/-- How many `AND` and `OR` a deepest path of a tree passes on their left, which it does only where that side is
deeper than the right one. -/
def leftTurns : Expr → Nat
  | .literal _ | .path _ => 0
  | .list items => itemsLeftTurns items
  | .not e => e.leftTurns
  | .and l r | .or l r => if l.levels ≤ r.levels then r.leftTurns else l.leftTurns + 1
  | .compare _ l r => if l.levels ≤ r.levels then r.leftTurns else l.leftTurns

/-- The same of the items of a list. -/
def itemsLeftTurns : List Expr → Nat
  | [] => 0
  | e :: rest => if e.levels ≤ itemsDepth 0 0 rest then itemsLeftTurns rest else e.leftTurns

end

theorem leftTurns_join (k : Connective) (l r : Expr) :
    (k.join l r).leftTurns = if l.levels ≤ r.levels then r.leftTurns else l.leftTurns + 1 := by
  cases k <;> simp only [Connective.join, leftTurns]

theorem depth_join (leaf check : Nat) (k : Connective) (l r : Expr) :
    (k.join l r).depth leaf check = max (l.depth leaf check) (r.depth leaf check) + 1 := by
  cases k <;> simp only [Connective.join, depth]

end Expr

/-! ## Bounds -/

/-- How deep operands and unary phrases may be with `r` levels left. -/
structure Bounds (leaf check : Nat) (operand unary : Nat → Nat) : Prop where
  leaf : ∀ r, leaf ≤ operand r
  check : ∀ r, operand r + check ≤ unary r
  list : ∀ r, operand r + 1 ≤ operand (r + 1)
  not : ∀ r, unary r + 1 ≤ unary (r + 1)
  group : ∀ r, 2 * r + unary r ≤ operand (r + 1)

/-- How deep a phrase may be with `r` levels left. A chain is one deeper with every further operand, and a chain
of `OR` starts with a chain of `AND`, which may have as many of them as there are levels. -/
def Phrase.most (operand unary : Nat → Nat) (r : Nat) : Phrase → Nat
  | .chain .and n => n + unary r
  | .chain .or n => n + r + unary r
  | .unary => unary r
  | .comparison => unary r
  | .operand => operand r
  | .items => operand r + 1

section

variable {leaf check : Nat} {operand unary : Nat → Nat} {p : Phrase} {ts : List Token} {T : Expr} {r : Nat}
  {k : Connective} {n : Nat}

theorem Bounds.unary_mono (b : Bounds leaf check operand unary) : Monotone unary :=
  monotone_nat_of_le_succ fun r => Nat.le_of_succ_le (b.not r)

/-- A chain has no more further operands than levels are left. -/
theorem Derives.further_le (h : Derives (.chain k n) ts T r) : n ≤ r := by
  cases h <;> omega

/-- **No phrase is deeper than it may be.** -/
theorem Derives.depth_le (b : Bounds leaf check operand unary) (h : Derives p ts T r) :
    T.depth leaf check ≤ p.most operand unary r := by
  induction h with
  | first operand single ih =>
    cases operand with
    | and => simpa [Phrase.most] using ih
    | or n =>
      have few := single.further_le
      simp only [Phrase.most] at ih ⊢
      omega
  | @further k n _ _ _ _ _ _ r operand left _ right ih ih' =>
    have least := b.unary_mono (show r ≤ r + n + 1 by omega)
    rw [Expr.depth_join]
    cases operand with
    | and =>
      simp only [Phrase.most] at ih ih' ⊢
      omega
    | or m =>
      have few := right.further_le
      simp only [Phrase.most] at ih ih' ⊢
      omega
  | @not _ _ _ r _ _ ih =>
    have := b.not r
    simp only [Phrase.most, Expr.depth] at ih ⊢
    omega
  | bare _ ih => exact ih
  | @alone _ _ r _ ih =>
    have := b.check r
    simp only [Phrase.most] at ih ⊢
    omega
  | @compare _ _ _ _ _ _ r _ _ _ ih ih' =>
    have := b.check r
    simp only [Phrase.most, Expr.depth] at ih ih' ⊢
    omega
  | path | literal => exact b.leaf _
  | @group n _ _ _ _ r _ inner _ ih =>
    have := b.group r
    have few := inner.further_le
    simp only [Phrase.most] at ih ⊢
    omega
  | @list _ _ _ _ r _ _ _ ih => exact Nat.le_trans ih (b.list r)
  | none => simp [Expr.depth, Expr.itemsDepth, Phrase.most]
  | last _ ih => simpa [Expr.depth, Expr.itemsDepth, Phrase.most] using ih
  | more _ _ _ ih ih' =>
    simp only [Expr.depth, Expr.itemsDepth, Phrase.most] at ih ih' ⊢
    omega

/-- A whole expression is no deeper than an operand with one more level may be. -/
theorem Derives.depth_le_group (b : Bounds leaf check operand unary) (h : Derives (.chain .or n) ts T r) :
    T.depth leaf check ≤ operand (r + 1) := by
  have deep := h.depth_le b
  have group := b.group r
  have few := h.further_le
  simp only [Phrase.most] at deep
  omega

end

/-! ## What the limit bounds -/

/-- How many levels a phrase may have with `r` of them left, if no `AND` or `OR` is passed on its left. -/
def Phrase.room (r : Nat) : Phrase → Nat
  | .items => r + 1
  | _ => r

/-- **Only the levels that a deepest path passes on the left are not counted.** -/
theorem Derives.levels_le {p : Phrase} {ts : List Token} {T : Expr} {r : Nat} (h : Derives p ts T r) :
    T.levels ≤ p.room r + T.leftTurns := by
  induction h with
  | first operand _ ih => cases operand <;> exact ih
  | @further _ _ p _ _ _ _ _ r operand _ _ _ left right =>
    have same : p.room r = r := by cases operand <;> rfl
    rw [same] at right
    rw [Expr.leftTurns_join]
    simp only [Phrase.room] at left ⊢
    split <;> simp only [Expr.levels, Expr.depth_join] at * <;> omega
  | not _ _ ih =>
    simp only [Phrase.room, Expr.levels, Expr.depth, Expr.leftTurns] at ih ⊢
    omega
  | bare _ ih | alone _ ih => exact ih
  | compare _ _ _ left right =>
    rw [Expr.leftTurns]
    simp only [Phrase.room] at left right ⊢
    split <;> simp only [Expr.levels, Expr.depth] at * <;> omega
  | path | literal => exact Nat.zero_le _
  | group _ _ _ ih =>
    simp only [Phrase.room] at ih ⊢
    omega
  | list _ _ _ ih => exact ih
  | none => exact Nat.le_add_left 1 _
  | last _ ih =>
    rw [Expr.leftTurns, Expr.itemsLeftTurns, Expr.itemsLeftTurns]
    simp only [Phrase.room] at ih ⊢
    split <;> simp only [Expr.levels, Expr.depth, Expr.itemsDepth] at * <;> omega
  | more _ _ _ item rest =>
    rw [Expr.leftTurns, Expr.itemsLeftTurns]
    rw [Expr.leftTurns] at rest
    simp only [Phrase.room] at item rest ⊢
    split <;> simp only [Expr.levels, Expr.depth, Expr.itemsDepth] at * <;> omega

/-! ## How deep trees are at most -/

/-- How many levels a unary phrase has at most. -/
def mostLevels : Nat → Nat
  | 0 => 0
  | r + 1 => r * r + r + 1

theorem bounds_levels : Bounds 0 0 mostLevels mostLevels := by
  have step (r : Nat) : 2 * r + mostLevels r ≤ mostLevels (r + 1) := by
    cases r with
    | zero => decide
    | succ r => simp only [mostLevels]; nlinarith
  have succ (r : Nat) : mostLevels r + 1 ≤ mostLevels (r + 1) := by
    cases r with
    | zero => decide
    | succ r => simp only [mostLevels]; nlinarith
  exact ⟨fun _ => Nat.zero_le _, fun _ => Nat.le_refl _, succ, succ, step⟩

theorem bounds_height : Bounds 1 1 (fun r => r * r + 1) (fun r => r * r + 2) where
  leaf _ := by omega
  check _ := Nat.le_refl _
  list _ := by nlinarith
  not _ := by nlinarith
  group _ := by nlinarith

/-! ## Expressions as deep as that -/

/-- Tokens one after another with a blank behind each. -/
def spaced (ts : List Token) : List Char := ts.flatMap fun t => t.text.toList ++ [' ']

/-- Tokens that are written as their text are read off it. -/
theorem lexes_spaced {ts : List Token} (spelled : ∀ t ∈ ts, Spells t.text.toList t.kind t.text) :
    Lexes (spaced ts) (ts.map Token.mark) fun _ => True := by
  induction ts with
  | nil => exact .nil
  | cons t ts ih =>
    rw [List.forall_mem_cons] at spelled
    have first : Lexes (t.text.toList ++ [' ']) [t.mark] fun _ => True :=
      (Lexes.token spelled.1).append .blank fun _ _ => (by decide : ' ' ∈ stops)
    exact first.append (ih spelled.2) fun _ _ => trivial

namespace Deepest

/-- The tokens of the family. -/
inductive Word where
  | a | equals | not | connective (k : Connective) | opening | closing

/-- A word as a token. -/
def Word.token : Word → Token
  | .a => ⟨.identifier, "a", 0⟩
  | .equals => ⟨.eq, "==", 0⟩
  | .not => ⟨.not, "NOT", 0⟩
  | .connective .and => ⟨.and, "AND", 0⟩
  | .connective .or => ⟨.or, "OR", 0⟩
  | .opening => ⟨.openParen, "(", 0⟩
  | .closing => ⟨.closeParen, ")", 0⟩

theorem Word.spelled (w : Word) : Spells w.token.text.toList w.token.kind w.token.text := by
  cases w with
  | a => exact .of_word rfl (by decide) (by decide) (by decide +kernel)
  | not => exact .of_word rfl (by decide) (by decide) (by decide +kernel)
  | connective k => cases k <;> exact .of_word rfl (by decide) (by decide) (by decide +kernel)
  | equals | opening | closing => exact .mark (by decide)

/-- `n` further operands `a` of a chain. -/
def further (k : Connective) : Nat → List Word
  | 0 => []
  | n + 1 => further k n ++ [.connective k, .a]

/-- A tree with `n` further operands `a`. -/
def grow (k : Connective) (T : Expr) : Nat → Expr
  | 0 => T
  | n + 1 => k.join (grow k T n) (.path "a")

/-- A chain of `OR` that starts with a chain of `AND`, with `r` further operands either. -/
def chains (ws : List Word) (r : Nat) : List Word := ws ++ further .and r ++ further .or r

def chainsTree (T : Expr) (r : Nat) : Expr := grow .or (grow .and T r) r

/-- A unary phrase for `r` levels: chains in a group, with one level less. -/
def unary : Nat → List Word
  | 0 => [.a, .equals, .a]
  | 1 => [.not, .a, .equals, .a]
  | r + 2 => .opening :: chains (unary (r + 1)) (r + 1) ++ [.closing] ++ [.equals] ++ [.a]

def unaryTree : Nat → Expr
  | 0 => .compare .eq (.path "a") (.path "a")
  | 1 => .not (.compare .eq (.path "a") (.path "a"))
  | r + 2 => .compare .eq (chainsTree (unaryTree (r + 1)) (r + 1)) (.path "a")

section

variable {leaf check : Nat} {k : Connective} {ts : List Token} {T : Expr} {n r : Nat}

theorem derives_a : Derives .operand [Word.a.token] (.path "a") r := .path rfl

/-- A comparison with `a`. -/
theorem derives_check (h : Derives .operand ts T r) :
    Derives .comparison (ts ++ [Word.equals.token] ++ [Word.a.token]) (.compare .eq T (.path "a")) r :=
  .compare h rfl derives_a

theorem derives_grow (first : Derives (.chain k 0) ts T r) (room : n ≤ r) :
    Derives (.chain k n) (ts ++ (further k n).map Word.token) (grow k T n) r := by
  have one (r : Nat) : ∃ p, k.Operand p ∧ Derives p [Word.a.token] (.path "a") r := by
    have unary : Derives .unary [Word.a.token] (.path "a") r := .bare (.alone derives_a)
    cases k with
    | and => exact ⟨_, .and, unary⟩
    | or => exact ⟨_, .or 0, .first .and unary⟩
  induction n with
  | zero => simpa [further, grow] using first
  | succ n ih =>
    obtain ⟨p, operand, a⟩ := one (r - n - 1)
    have left := ih (by omega)
    have room : r = r - n - 1 + n + 1 := by omega
    rw [room] at left ⊢
    have kind : (Word.connective k).token.kind = k.kind := by cases k <;> rfl
    simpa [further, grow] using Derives.further operand left kind a

theorem derives_chains {ws : List Word} (first : Derives .unary (ws.map Word.token) T r) :
    Derives (.chain .or r) ((chains ws r).map Word.token) (chainsTree T r) r := by
  have ands := derives_grow (.first .and first) (Nat.le_refl r)
  have ors := derives_grow (.first (.or r) ands) (Nat.le_refl r)
  simpa [chains, chainsTree] using ors

/-- The family are expressions. -/
theorem derives_unary (r : Nat) : Derives .unary ((unary r).map Word.token) (unaryTree r) r := by
  induction r using unary.induct with
  | case1 => exact .bare (derives_check derives_a)
  | case2 => exact .not rfl (.bare (derives_check derives_a))
  | case3 r ih =>
    have group := Derives.group (o := Word.opening.token) (c := Word.closing.token) rfl (derives_chains ih) rfl
    simpa [unary, unaryTree] using Derives.bare (derives_check group)

theorem leaf_le_grow (least : leaf ≤ T.depth leaf check) : leaf ≤ (grow k T n).depth leaf check := by
  induction n with
  | zero => exact least
  | succ n ih =>
    rw [grow, Expr.depth_join]
    omega

theorem depth_grow (least : leaf ≤ T.depth leaf check) :
    (grow k T n).depth leaf check = T.depth leaf check + n := by
  induction n with
  | zero => rfl
  | succ n ih =>
    have : leaf ≤ T.depth leaf check + n := by omega
    rw [grow, Expr.depth_join, ih, Expr.depth]
    omega

theorem depth_chainsTree (least : leaf ≤ T.depth leaf check) :
    (chainsTree T r).depth leaf check = T.depth leaf check + 2 * r := by
  rw [chainsTree, depth_grow (leaf_le_grow least), depth_grow least]
  omega

theorem leaf_le_unaryTree : leaf ≤ (unaryTree r).depth leaf check := by
  cases r using unaryTree.induct_unfolding with
  | case1 | case2 => simp only [Expr.depth]; omega
  | case3 => simp only [Expr.depth]; omega

theorem depth_unaryTree : (unaryTree (r + 2)).depth leaf check =
    (unaryTree (r + 1)).depth leaf check + 2 * (r + 1) + check := by
  have least : leaf ≤ (unaryTree (r + 1)).depth leaf check := leaf_le_unaryTree
  rw [unaryTree, Expr.depth, depth_chainsTree least, Expr.depth]
  omega

theorem levels_unaryTree : (unaryTree (r + 1)).depth 0 0 = r * r + r + 1 := by
  induction r with
  | zero => decide
  | succ r ih => rw [depth_unaryTree, ih]; ring

theorem height_unaryTree : (unaryTree (r + 1)).depth 1 1 = (r + 1) * (r + 1) + 2 := by
  induction r with
  | zero => decide
  | succ r ih => rw [depth_unaryTree, ih]; ring

end

/-- The deepest expression. -/
def text : String := String.ofList (spaced ((chains (unary maxNesting) maxNesting).map Word.token))

def tree : Expr := chainsTree (unaryTree maxNesting) maxNesting

/-- The deepest expression is a text. -/
theorem parse_text : Expr.parse text = .ok tree := by
  have spelled : ∀ t ∈ (chains (unary maxNesting) maxNesting).map Word.token,
      Spells t.text.toList t.kind t.text := List.forall_mem_map.2 fun w _ => w.spelled
  have lexes := lexes_spaced spelled
  rw [← String.toList_ofList (l := spaced _)] at lexes
  exact (lexes.parse_eq_ok_iff trivial).2 ⟨_, derives_chains (derives_unary maxNesting)⟩

end Deepest

/-- There is a text whose tree is so deep. -/
theorem exists_deepest : ∃ s T, Expr.parse s = .ok T ∧ T.levels = maxNesting * (maxNesting + 1) + 1 ∧
    T.height = maxNesting * (maxNesting + 2) + 2 := by
  refine ⟨Deepest.text, Deepest.tree, Deepest.parse_text, ?_, ?_⟩
  · exact (Deepest.depth_chainsTree Deepest.leaf_le_unaryTree).trans
      (congrArg (· + 2 * maxNesting) (@Deepest.levels_unaryTree 63))
  · exact (Deepest.depth_chainsTree Deepest.leaf_le_unaryTree).trans
      (congrArg (· + 2 * maxNesting) (@Deepest.height_unaryTree 63))

/-- **How deep the tree of a text is at most**: it has at most `maxNesting` levels besides the `AND` and `OR` that a
deepest path passes on their left, and so at most `maxNesting` where it passes none; and 4161 levels and 4226 nodes one
below another at most in any case. -/
theorem parse_depth_le (s : String) (T : Expr) (parsed : Expr.parse s = .ok T) :
    T.levels ≤ maxNesting + T.leftTurns ∧ T.levels ≤ maxNesting * (maxNesting + 1) + 1 ∧
      T.height ≤ maxNesting * (maxNesting + 2) + 2 := by
  obtain ⟨body, last, n, -, -, derives⟩ := derives_of_parse parsed
  have levels := derives.depth_le_group bounds_levels
  have height := derives.depth_le_group bounds_height
  exact ⟨derives.levels_le, levels, height⟩

namespace Sample

/-- Sixty-four times `NOT`, and then an `AND` around them. -/
def tooDeep : String := "!!!!!!!!!!!!!!!!!!!!!!!!!!!!!!!!!!!!!!!!!!!!!!!!!!!!!!!!!!!!!!!!a AND b"

def tooDeepTree : Expr := .and (Expr.not^[64] (.path "a")) (.path "b")

set_option maxRecDepth 20000 in
theorem parse_tooDeep : Expr.parse tooDeep = .ok tooDeepTree := by cbv

end Sample

/-- A text is read although its tree has more than `maxNesting` levels. -/
theorem parse_deeper_than_nesting : Expr.parse Sample.tooDeep = .ok Sample.tooDeepTree ∧
    maxNesting < Sample.tooDeepTree.levels :=
  ⟨Sample.parse_tooDeep, by decide⟩

/-- In the sample, one level is passed on the left, and the tree is no deeper than is said above. -/
theorem depth_le_tooDeep : Expr.parse Sample.tooDeep = .ok Sample.tooDeepTree ∧
    Sample.tooDeepTree.levels ≤ 64 + Sample.tooDeepTree.leftTurns ∧ Sample.tooDeepTree.levels ≤ 4161 ∧
    Sample.tooDeepTree.height ≤ 4226 :=
  ⟨Sample.parse_tooDeep, parse_depth_le _ _ Sample.parse_tooDeep⟩

end Workflows
