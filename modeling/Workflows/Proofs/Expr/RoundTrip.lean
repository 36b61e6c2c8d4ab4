import Workflows.Proofs.Expr.Literals
import Workflows.Proofs.Expr.Rooted

/-!
# Written forms that are read back

* `Expr.Readable`: an expression whose written form stands for it;
* `Token.quoted?`: the text literal that a token is; `Derives.texts`: a phrase has those of the written form of its
  tree, in their order;
* `Apart`: no two tokens for attributes or values stand side by side; `Derives.apart`: in phrases none do;
* `Derives.denoted`, `Derives.legible`: what literals and tokens a tree has that was read off a text;
* **`parse_text_eq_ok_iff`**: the written form of the tree of a text is read back as it, if and only if it is
  readable.
-/

namespace Workflows

/-- The written form of an expression stands for it: its literals are bare, what has to be an operand is one, and no
more levels are opened than there may be. -/
structure Expr.Readable (e : Expr) : Prop where
  bare : ∀ v ∈ e.literals, v.bare
  plain : e.plain
  nesting : e.nesting ≤ maxNesting

instance (e : Expr) : Decidable e.Readable :=
  decidable_of_iff ((∀ v ∈ e.literals, v.bare) ∧ e.plain ∧ e.nesting ≤ maxNesting)
    ⟨fun ⟨bare, plain, nesting⟩ => ⟨bare, plain, nesting⟩, fun h => ⟨h.bare, h.plain, h.nesting⟩⟩

section

variable {p : Phrase} {ts us : List Token} {k : Connective} {e l r T : Expr} {n : Nat} {t : Token} {v : Value}

/-! ## Text literals in their order -/

/-- The text literal that a token is. -/
def Token.quoted? (t : Token) : Option String := if t.kind = .text then some t.text else none

theorem Token.quoted?_eq {kind : TokenKind} (is : t.kind = kind) (other : kind ≠ .text) : t.quoted? = none :=
  if_neg (is ▸ other)

theorem Token.quoted?_of_marks (same : us.map Token.mark = ts.map Token.mark) :
    us.filterMap Token.quoted? = ts.filterMap Token.quoted? := by
  have by_mark : ∀ xs : List Token, xs.filterMap Token.quoted? =
      (xs.map Token.mark).filterMap fun m => if m.1 = .text then some m.2 else none := fun xs => by
    rw [List.filterMap_map]
    rfl
  rw [by_mark, by_mark, same]

theorem Token.Denotes.quoted? (h : t.Denotes v) : t.quoted? = v.token.quoted? := by
  cases h with
  | text kind => exact if_pos kind
  | true kind | false kind | null kind | int kind | real kind => exact Token.quoted?_eq kind (by decide)

theorem quoted?_of_mem {os : List Token} {op : CompareOp} (kinds : os.map (·.kind) = op.kinds) :
    os.filterMap Token.quoted? = [] := by
  have others : ∀ t ∈ os, t.kind ≠ .text :=
    CompareOp.forall_kind (P := (· ≠ .text)) (fun op => by cases op <;> decide) kinds
  exact List.filterMap_eq_nil_iff.2 fun t mem => Token.quoted?_eq rfl (others t mem)

/-- **The text literals of a phrase are those of the written form of its tree**, in their order. -/
theorem Derives.texts (h : Derives p ts T n) :
    ts.filterMap Token.quoted? = (p.tokens T).filterMap Token.quoted? := by
  have fixed : Token.opening.quoted? = .none ∧ Token.closing.quoted? = .none ∧ Token.listOpening.quoted? = .none ∧
      Token.listClosing.quoted? = .none ∧ Token.comma.quoted? = .none ∧ Token.negation.quoted? = .none :=
    ⟨rfl, rfl, rfl, rfl, rfl, rfl⟩
  have connective (k : Connective) : k.token.quoted? = .none := by cases k <;> rfl
  induction h with
  | first operand _ ih =>
    rw [operand.tokens] at ih
    exact ih
  | @further k _ _ _ _ o _ _ _ operand _ kind _ left right =>
    have other : k.kind ≠ .text := by cases k <;> decide
    rw [operand.tokens] at right
    simp only [Phrase.tokens, Expr.tokens_join] at left ⊢
    simp [Token.quoted?_eq kind other, left, right, fixed, connective]
  | not kind _ ih =>
    simp only [Phrase.tokens, Expr.tokens] at ih ⊢
    simp [Token.quoted?_eq kind, ih, fixed]
  | bare _ ih | alone _ ih => exact ih
  | @compare op _ _ _ _ _ _ _ kinds _ left right =>
    simp only [Phrase.tokens, Expr.tokens] at left right ⊢
    simp [quoted?_of_mem kinds, quoted?_of_mem op.kinds_tokens, left, right]
  | @path t _ kind =>
    have other : Token.quoted? ⟨.identifier, t.text, 0⟩ = .none := rfl
    simp [Phrase.tokens, Expr.tokens, Token.quoted?_eq kind, other]
  | literal denotes => simp [Phrase.tokens, Expr.tokens, List.filterMap_cons, denotes.quoted?]
  | group opens _ closes ih =>
    simp only [Phrase.tokens] at ih ⊢
    simp [Token.quoted?_eq opens, Token.quoted?_eq closes, ih]
  | list opens _ closes ih =>
    simp only [Phrase.tokens, Expr.tokens] at ih ⊢
    simp [Token.quoted?_eq opens, Token.quoted?_eq closes, ih, fixed]
  | none => rfl
  | last _ ih => exact ih
  | @more _ _ _ _ items _ _ kind _ item rest =>
    simp only [Phrase.tokens] at item rest ⊢
    cases items with
    | nil => simp [Expr.itemTokens, Token.quoted?_eq kind, item, rest]
    | cons f items => simp [Expr.itemTokens, Token.quoted?_eq kind, item, rest, fixed]

/-! ## Tokens side by side -/

/-- Whether a token stands for an attribute or a value. -/
def Token.isLeaf (t : Token) : Bool := t.kind ∈ [TokenKind.identifier, .text, .number, .true, .false, .null]

/-- No two tokens for attributes or values stand side by side. -/
def Apart (ts : List Token) : Prop := ts.IsChain fun t u => ¬ (t.isLeaf ∧ u.isLeaf)

namespace Apart

theorem single (t : Token) : Apart [t] := .singleton t

/-- Between other tokens, all may stand. -/
theorem join {o : Token} (h : Apart ts) (other : o.isLeaf = false) (h' : Apart us) : Apart (ts ++ o :: us) := by
  have after : Apart (o :: us) := List.isChain_cons.2 ⟨fun u _ => by simp [other], h'⟩
  refine List.isChain_append.2 ⟨h, after, fun t _ u mem => ?_⟩
  cases mem
  simp [other]

theorem cons {o : Token} (other : o.isLeaf = false) (h : Apart ts) : Apart (o :: ts) :=
  show Apart ([] ++ o :: ts) from join .nil other h

/-- Tokens in front that are no such. -/
theorem behind {os : List Token} (others : ∀ o ∈ os, o.isLeaf = false) (h : Apart ts) : Apart (os ++ ts) := by
  induction os with
  | nil => exact h
  | cons o os ih =>
    rw [List.forall_mem_cons] at others
    exact .cons others.1 (ih others.2)

theorem concat {o : Token} (h : Apart ts) (other : o.isLeaf = false) : Apart (ts ++ [o]) := h.join other .nil

theorem not_append {before after : List Token} {t u : Token} (first : t.isLeaf) (second : u.isLeaf) :
    ¬ Apart (before ++ t :: u :: after) := by
  intro h
  have pair := (List.isChain_append.1 h).2.1
  exact (List.isChain_cons_cons.1 pair).1 ⟨first, second⟩

end Apart

theorem Token.isLeaf_eq {kind : TokenKind} (is : t.kind = kind) :
    t.isLeaf = decide (kind ∈ [TokenKind.identifier, .text, .number, .true, .false, .null]) := by
  rw [Token.isLeaf, is]

theorem CompareOp.isLeaf_of_mem {op : CompareOp} {os : List Token} (kinds : os.map (·.kind) = op.kinds) :
    ∀ t ∈ os, t.isLeaf = false :=
  CompareOp.forall_kind
    (P := fun kind => decide (kind ∈ [TokenKind.identifier, .text, .number, .true, .false, .null]) = false)
    (fun op => by cases op <;> decide) kinds

/-- **In a phrase, no two tokens for attributes or values stand side by side.** -/
theorem Derives.apart (h : Derives p ts T n) : Apart ts := by
  induction h with
  | first _ _ ih | bare _ ih | alone _ ih | last _ ih => exact ih
  | @further k _ _ _ _ _ _ _ _ _ _ kind _ left right =>
    exact left.join (by rw [Token.isLeaf_eq kind]; cases k <;> rfl) right
  | not kind _ ih => exact .cons (Token.isLeaf_eq kind) ih
  | @compare op ts os us _ _ _ _ kinds _ left right =>
    have others : ∀ o ∈ os, o.isLeaf = false := CompareOp.isLeaf_of_mem kinds
    cases os with
    | nil => cases op <;> cases kinds
    | cons o os =>
      rw [List.forall_mem_cons] at others
      rw [List.append_assoc]
      exact left.join others.1 (.behind others.2 right)
  | path | literal => exact .single _
  | group opens _ closes ih => exact .cons (Token.isLeaf_eq opens) (ih.concat (Token.isLeaf_eq closes))
  | list opens _ closes ih => exact .cons (Token.isLeaf_eq opens) (ih.concat (Token.isLeaf_eq closes))
  | none => exact .nil
  | more _ kind _ item rest => exact item.join (Token.isLeaf_eq kind) rest

/-! ## What is read off a text -/

/-- Some token stands for each literal. -/
theorem Derives.denoted (h : Derives p ts T n) : ∀ v ∈ T.literals, ∃ t, Token.Denotes t v := by
  induction h with
  | first _ _ ih | not _ _ ih | bare _ ih | alone _ ih | group _ _ _ ih | list _ _ _ ih => exact ih
  | further _ _ _ _ left right =>
    rw [Expr.literals_join]
    exact List.forall_mem_append.2 ⟨left, right⟩
  | compare _ _ _ left right =>
    rw [Expr.literals]
    exact List.forall_mem_append.2 ⟨left, right⟩
  | path | none => simp [Expr.literals, Expr.itemLiterals]
  | literal denotes => simpa [Expr.literals] using ⟨_, denotes⟩
  | last _ ih => simpa [Expr.literals, Expr.itemLiterals] using ih
  | more _ _ _ item rest =>
    rw [Expr.literals, Expr.itemLiterals]
    exact List.forall_mem_append.2 ⟨item, rest⟩

theorem legible_word {kind : TokenKind} {c : Char} {cs : List Char} {s : String} (same : s.toList = c :: cs)
    (start : isWordStart c) (rest : cs.all isWordRest) (is : wordKind s = kind) (verbatim : kind ≠ .text) :
    Token.Legible ⟨kind, s, 0⟩ := by
  unfold Token.Legible Token.written
  rw [if_neg verbatim]
  exact .of_word same start rest is

theorem legible_negation : Token.negation.Legible := legible_word rfl (by decide) (by decide) (by decide +kernel) (by decide)

theorem Connective.legible_token (k : Connective) : k.token.Legible := by
  cases k <;> exact legible_word rfl (by decide) (by decide) (by decide +kernel) (by decide)

theorem CompareOp.legible_tokens (op : CompareOp) : ∀ t ∈ op.tokens, t.Legible := by
  cases op with
  | eq | ne | lt | le | gt | ge => exact List.forall_mem_singleton.2 (Spells.mark (by decide))
  | contains | isIn =>
    exact List.forall_mem_singleton.2 (legible_word rfl (by decide) (by decide) (by decide +kernel) (by decide))
  | notIn =>
    refine List.forall_mem_cons.2 ⟨legible_negation, List.forall_mem_singleton.2 ?_⟩
    exact legible_word rfl (by decide) (by decide) (by decide +kernel) (by decide)

/-- All tokens are legible, but perhaps those of some literals. -/
def LegibleBut (vs : List Value) (ts : List Token) : Prop := ∀ t ∈ ts, t.Legible ∨ ∃ v ∈ vs, t = v.token

namespace LegibleBut

variable {vs ws : List Value}

theorem append (h : LegibleBut vs ts) (h' : LegibleBut ws us) : LegibleBut (vs ++ ws) (ts ++ us) := by
  refine List.forall_mem_append.2 ⟨fun t mem => (h t mem).imp_right ?_, fun t mem => (h' t mem).imp_right ?_⟩
  · exact fun ⟨v, mem, same⟩ => ⟨v, List.mem_append_left _ mem, same⟩
  · exact fun ⟨v, mem, same⟩ => ⟨v, List.mem_append_right _ mem, same⟩

theorem of_legible (legible : ∀ t ∈ ts, t.Legible) : LegibleBut [] ts := fun t mem => .inl (legible t mem)

theorem cons {t : Token} (legible : t.Legible) (h : LegibleBut vs ts) : LegibleBut vs (t :: ts) :=
  List.forall_mem_cons.2 ⟨.inl legible, h⟩

theorem concat {t : Token} (h : LegibleBut vs ts) (legible : t.Legible) : LegibleBut vs (ts ++ [t]) :=
  List.forall_mem_append.2 ⟨h, List.forall_mem_singleton.2 (.inl legible)⟩

end LegibleBut

/-- **The tokens of the tree of a text are legible, but perhaps its literals.** -/
theorem Derives.legibleBut (h : Derives p ts T n) (spelled : ∀ t ∈ ts, ∃ span, Spells span t.kind t.text) :
    LegibleBut T.literals (p.tokens T) := by
  have signs : Token.opening.Legible ∧ Token.closing.Legible ∧ Token.listOpening.Legible ∧
      Token.listClosing.Legible ∧ Token.comma.Legible :=
    ⟨.mark (by decide), .mark (by decide), .mark (by decide), .mark (by decide), .mark (by decide)⟩
  obtain ⟨opening, closing, listOpening, listClosing, comma⟩ := signs
  induction h with
  | first operand _ ih =>
    rw [operand.tokens] at ih
    exact ih spelled
  | @further k _ _ _ _ _ _ _ _ operand _ _ _ left right =>
    rw [List.forall_mem_append, List.forall_mem_cons] at spelled
    rw [operand.tokens] at right
    simp only [Phrase.tokens] at left ⊢
    rw [Expr.tokens_join, Expr.literals_join]
    exact .cons opening (.concat ((left spelled.1).append (.cons k.legible_token (right spelled.2.2))) closing)
  | not _ _ ih =>
    rw [List.forall_mem_cons] at spelled
    simp only [Phrase.tokens, Expr.tokens, Expr.literals] at ih ⊢
    exact .cons legible_negation (ih spelled.2)
  | bare _ ih | alone _ ih => exact ih spelled
  | @compare op _ _ _ _ _ _ _ _ _ left right =>
    rw [List.forall_mem_append, List.forall_mem_append] at spelled
    simp only [Phrase.tokens, Expr.tokens, Expr.literals] at left right ⊢
    have between := (left spelled.1.1).append (.of_legible op.legible_tokens)
    rw [List.append_nil] at between
    exact between.append (right spelled.2)
  | @path t _ kind =>
    rw [List.forall_mem_singleton, kind] at spelled
    obtain ⟨span, spells⟩ := spelled
    have same := spells.verbatim (by decide)
    rw [← same] at spells
    exact .of_legible (List.forall_mem_singleton.2 spells)
  | @literal _ v => exact List.forall_mem_singleton.2 (.inr ⟨v, List.mem_singleton_self v, rfl⟩)
  | group _ _ _ ih =>
    rw [List.forall_mem_append, List.forall_mem_cons] at spelled
    exact ih spelled.1.2
  | list _ _ _ ih =>
    rw [List.forall_mem_append, List.forall_mem_cons] at spelled
    simp only [Phrase.tokens, Expr.tokens] at ih ⊢
    exact .cons listOpening (.concat (ih spelled.1.2) listClosing)
  | none => exact .of_legible (by simp [Phrase.tokens, Expr.itemTokens])
  | last _ ih => simpa [Phrase.tokens, Expr.itemTokens, Expr.literals, Expr.itemLiterals] using ih spelled
  | @more _ _ _ _ items _ _ _ _ item rest =>
    rw [List.forall_mem_append, List.forall_mem_cons] at spelled
    simp only [Phrase.tokens, Expr.literals] at item rest ⊢
    rw [Expr.itemLiterals]
    cases items with
    | nil =>
      have only := (item spelled.1).append (rest spelled.2.2)
      rwa [show Expr.itemTokens [] = [] from rfl, List.append_nil] at only
    | cons f items => exact (item spelled.1).append (.cons comma (rest spelled.2.2))

mutual

/-- The literals of an expression are among its tokens. -/
theorem Expr.token_mem_tokens : (e : Expr) → ∀ v ∈ e.literals, v.token ∈ e.tokens
  | .literal v => by simp [Expr.literals, Expr.tokens]
  | .path p => by simp [Expr.literals]
  | .list items => fun v mem => by
    have inside := Expr.token_mem_itemTokens items v (by simpa [Expr.literals] using mem)
    simp [Expr.tokens, inside]
  | .not e => fun v mem => by
    have inside := Expr.token_mem_tokens e v (by simpa [Expr.literals] using mem)
    simp [Expr.tokens, inside]
  | .and l r | .or l r | .compare _ l r => fun v mem => by
    rw [Expr.literals, List.mem_append] at mem
    rw [Expr.tokens]
    rcases mem with mem | mem
    · simp [Expr.token_mem_tokens l v mem]
    · simp [Expr.token_mem_tokens r v mem]

theorem Expr.token_mem_itemTokens : (items : List Expr) → ∀ v ∈ Expr.itemLiterals items, v.token ∈ Expr.itemTokens items
  | [] => by simp [Expr.itemLiterals]
  | e :: rest => fun v mem => by
    rw [Expr.itemLiterals, List.mem_append] at mem
    cases rest with
    | nil =>
      have mem := mem.resolve_right (by simp [Expr.itemLiterals])
      exact Expr.token_mem_tokens e v mem
    | cons f rest =>
      rw [Expr.itemTokens]
      rcases mem with mem | mem
      · simp [Expr.token_mem_tokens e v mem]
      · simp [Expr.token_mem_itemTokens (f :: rest) v mem]
      · simp

end

/-! ## Written forms that are read -/

variable {s : String}

/-- What is known of the tree of a text. -/
structure ReadOff (T : Expr) : Prop where
  denoted : ∀ v ∈ T.literals, ∃ t, Token.Denotes t v
  legibleBut : LegibleBut T.literals T.tokens

theorem readOff_of_parse (parsed : Expr.parse s = .ok T) : ReadOff T := by
  obtain ⟨body, last, n, read, -, derives⟩ := derives_of_parse parsed
  obtain ⟨body', same, tiled⟩ := exists_tiled_of_tokenize read
  obtain ⟨rfl, -⟩ := List.append_inj' same rfl
  exact ⟨derives.denoted, derives.legibleBut tiled.spells⟩

namespace ReadOff

/-- Where its literals are bare, the tokens of a tree are read off its written form. -/
theorem lexes (h : ReadOff T) (bare : ∀ v ∈ T.literals, v.bare) :
    Lexes T.text.toList (T.tokens.map Token.mark) (· = []) := by
  refine T.displays.lexes fun t mem => ?_
  rcases h.legibleBut t mem with legible | ⟨v, literal, rfl⟩
  · exact legible
  · exact Value.legible_token (bare v literal) (h.denoted v literal)

/-- A readable tree is read off its written form. -/
theorem parse_text (h : ReadOff T) (readable : T.Readable) : Expr.parse T.text = .ok T := by
  have denotes : ∀ v ∈ T.literals, v.token.Denotes v := fun v mem =>
    Value.denotes_token (readable.bare v mem) (h.denoted v mem)
  have derives := T.derives_tokens readable.plain denotes maxNesting readable.nesting
  have chain := Derives.first (.or 0) (.first .and derives.unary)
  exact ((h.lexes readable.bare).parse_eq_ok_iff rfl).2 ⟨0, chain⟩

/-- A tree that is read off its written form has bare literals: of the first other one, something else would have been
read. -/
theorem bare (h : ReadOff T) (parsed : Expr.parse T.text = .ok T) : ∀ v ∈ T.literals, v.bare := by
  by_contra marred
  push Not at marred
  obtain ⟨v, mem, marred⟩ := marred
  obtain ⟨body, last, n, read, ended, derives⟩ := derives_of_parse parsed
  -- The tokens that are good are those of no literal but bare ones.
  have good : ∀ t ∈ T.tokens, (∀ w ∈ T.literals, t = w.token → w.bare) → t.Legible := fun t mem good => by
    rcases h.legibleBut t mem with legible | ⟨w, literal, rfl⟩
    · exact legible
    · exact Value.legible_token (good w literal rfl) (h.denoted w literal)
  obtain ⟨before, t, after, us, more, column, behind, tokens, bad, all, marks, read⟩ := T.displays.misread good read
    ⟨v.token, T.token_mem_tokens v mem, fun good => marred (good v mem rfl)⟩
  push Not at bad
  obtain ⟨w, mem, rfl, marred⟩ := bad
  obtain ⟨u, denotes⟩ := h.denoted w mem
  have marred : w.bare = false := Bool.eq_false_of_not_eq_true marred
  cases denotes with
  | text =>
    -- Another text is read in its place, and texts keep their order.
    obtain ⟨t', more, rfl, kind, other⟩ := misread_text read marred
    have texts := derives.texts
    rw [Phrase.tokens_eq Phrase.noConfusion, tokens] at texts
    have closed := congrArg (List.filterMap Token.quoted?) all
    have first : t'.quoted? = some t'.text := if_pos kind
    have meant : (Value.text u.text).token.quoted? = some u.text := rfl
    simp only [List.filterMap_append, List.filterMap_cons, List.filterMap_nil, List.append_nil,
      Token.quoted?_of_marks marks, Token.quoted?_eq ended (by decide), texts, first, meant] at closed
    exact other (List.cons.inj (List.append_cancel_left closed)).1.symm
  | @real f x =>
    obtain ⟨t', u', more, rfl, kind, kind'⟩ := misread_real read marred
    have apart := derives.apart.concat (Token.isLeaf_eq ended)
    rw [all] at apart
    exact Apart.not_append (by rw [Token.isLeaf_eq kind]; rfl) (by rw [Token.isLeaf_eq kind']; rfl) apart
  | true | false | null | int => cases marred

/-- **A tree is read off its written form if and only if it is readable.** -/
theorem parse_text_iff (h : ReadOff T) : Expr.parse T.text = .ok T ↔ T.Readable := by
  refine ⟨fun parsed => ?_, h.parse_text⟩
  have bare := h.bare parsed
  obtain ⟨n, derives⟩ := ((h.lexes bare).parse_eq_ok_iff rfl).1 parsed
  obtain ⟨plain, room, -⟩ := T.derivedPlain _ _ derives Phrase.noConfusion
  exact ⟨bare, plain, room⟩

end ReadOff

end

/-- **When the written form of an expression is read back.** For each text that is read, the written form of its tree
is read as that tree if and only if no text literal holds a quote or a backslash, no number is written with an
exponent, no `NOT` and no comparison stands as an operand of a comparison or an item of a list, and the written form
opens 64 levels at most. -/
theorem parse_text_eq_ok_iff (s : String) (T : Expr) (parsed : Expr.parse s = .ok T) :
    Expr.parse T.text = .ok T ↔ T.Readable :=
  (readOff_of_parse parsed).parse_text_iff

namespace Sample

/-- An expression that is not written as its tree is. -/
def alternative : String := "a AND NOT (b IN [-1, \"x\",] OR c <> NONE)"

def alternativeTree : Expr :=
  .and (.path "a") (.not (.or
    (.compare .isIn (.path "b") (.list [.literal (.number (.int (-1))), .literal (.text "x")]))
    (.compare .ne (.path "c") (.literal .null))))

set_option maxRecDepth 20000 in
theorem parse_alternative : Expr.parse alternative = .ok alternativeTree := by cbv

/-- An expression whose text literal holds a quote. -/
def quoted : String := "name == 'O\\'Brien'"

def quotedTree : Expr := .compare .eq (.path "name") (.literal (.text "O'Brien"))

end Sample

/-- In the sample, the written form is read back. -/
theorem parse_text_alternative : Expr.parse Sample.alternative = .ok Sample.alternativeTree ∧
    (Expr.parse Sample.alternativeTree.text = .ok Sample.alternativeTree ↔ Sample.alternativeTree.Readable) ∧
    Sample.alternativeTree.Readable :=
  ⟨Sample.parse_alternative, parse_text_eq_ok_iff _ _ Sample.parse_alternative, by decide⟩

/-- Where a text literal holds a quote, the written form is not even read. -/
theorem parse_text_quoted : Expr.parse Sample.quoted = .ok Sample.quotedTree ∧
    Sample.quotedTree.text = "name == 'O'Brien'" ∧
    Expr.parse Sample.quotedTree.text = .error (.malformed 17 .unclosedText) :=
  ⟨by cbv, by decide, by cbv⟩

end Workflows
