import Workflows.Expr.Rule
import Workflows.Proofs.Expr.Juxtaposed
import Workflows.Proofs.Text.Blank

/-!
# Blanks around an expression

Blanks before and behind an expression move the columns of its tokens, and nothing else.

* `Spells.last_not_blank`: no token ends with a blank; `Longest.append_blanks`: so blanks behind a text do not
  make its tokens longer, and (`Stuck.append_blanks`) where there was none there is none;
* `Tiled.read`: the tokens of a text that blanks follow, wherever it stands;
* **`Expr.parse_trim_eq_ok_iff`**: a text has the tree that it has when it is trimmed;
* **`Rule.evaluate_trim_eq_ok_iff`**: so it is with the verdict on a rule and its explanation.
-/

namespace Workflows

variable {c : Char} {cs span gap before rest : List Char} {kind : TokenKind} {text : String} {ts : List Token}

/-! ## The ends of tokens -/

theorem isBlankChar_not_numberChar (blank : Text.isBlankChar c) : isNumberChar c = false := by
  have point : c ≠ '.' := by
    rintro rfl
    exact absurd blank (by decide)
  rw [isNumberChar, isBlankChar_not_digit blank, decide_eq_false point]
  rfl

/-- No word has a blank in it. -/
theorem isBlankChar_not_wordRest (blank : Text.isBlankChar c) : isWordRest c = false := by
  have point : c ≠ '.' := by
    rintro rfl
    exact absurd blank (by decide)
  have start := isBlankChar_not_wordStart blank
  rw [isWordStart, Bool.or_eq_false_iff] at start
  have codes : ∀ n ∈ blankCodes, Text.inRanges Text.numeralRanges n = false := by decide +kernel
  rw [isWordRest, Text.isWordChar, start.1, start.2, decide_eq_false point, Text.isNumeral,
    codes _ (toNat_mem_blankCodes blank)]
  rfl

/-- No token ends with a blank. -/
theorem Spells.last_not_blank (h : Spells (cs ++ [c]) kind text) : Text.isBlankChar c = false := by
  by_contra blank
  rw [Bool.not_eq_false] at blank
  have mem : c ∈ cs ++ [c] := List.mem_append_right _ (List.mem_singleton_self c)
  generalize same : cs ++ [c] = span at h mem
  cases h with
  | mark member =>
    have all : ∀ m ∈ marks, m.1.all (!Text.isBlankChar ·) := by decide
    have visible := List.all_eq_true.1 (all _ member) c mem
    rw [blank] at visible
    cases visible
  | @text q _ _ quote =>
    rw [← List.cons_append] at same
    obtain ⟨-, last⟩ := List.append_inj' same rfl
    cases last
    rcases quote with rfl | rfl <;> exact absurd blank (by decide)
  | @number d ds digit inside =>
    have all : ∀ x ∈ d :: ds, isNumberChar x := List.forall_mem_cons.2 ⟨isNumberChar_of_isDigit digit, inside⟩
    have number := all c mem
    rw [isBlankChar_not_numberChar blank] at number
    cases number
  | @negative d ds digit inside =>
    have all : ∀ x ∈ d :: ds, isNumberChar x := List.forall_mem_cons.2 ⟨isNumberChar_of_isDigit digit, inside⟩
    rcases List.mem_cons.1 mem with rfl | mem
    · exact absurd blank (by decide)
    · have number := all c mem
      rw [isBlankChar_not_numberChar blank] at number
      cases number
  | @word d ds start inside =>
    have all : ∀ x ∈ d :: ds, isWordRest x := List.forall_mem_cons.2 ⟨isWordRest_of_isWordStart start, inside⟩
    have word := all c mem
    rw [isBlankChar_not_wordRest blank] at word
    cases word

/-- A token at the start of a text does not reach into the blanks behind it. -/
theorem Spells.isPrefix_of_append (h : Spells span kind text) (blank : ∀ c ∈ gap, Text.isBlankChar c)
    (here : span <+: cs ++ gap) : span <+: cs := by
  obtain ⟨w, whole⟩ := here
  rcases List.append_eq_append_iff.1 whole with ⟨more, rfl, -⟩ | ⟨more, rfl, rfl⟩
  · exact List.prefix_append _ _
  · rcases List.eq_nil_or_concat' more with rfl | ⟨init, x, rfl⟩
    · rw [List.append_nil]
    · rw [← List.append_assoc] at h
      have visible := h.last_not_blank
      rw [blank x (by simp)] at visible
      cases visible

theorem Longest.append_blanks (h : Longest span kind text cs) (blank : ∀ c ∈ gap, Text.isBlankChar c) :
    Longest span kind text (cs ++ gap) where
  spells := h.spells
  here := h.here.trans (List.prefix_append _ _)
  longest spells here := h.longest spells (spells.isPrefix_of_append blank here)

theorem Stuck.append_blanks (h : Stuck rest) (blank : ∀ c ∈ gap, Text.isBlankChar c) :
    Stuck (rest ++ gap) where
  starts := by
    obtain ⟨c, more, rfl, visible⟩ := h.starts
    exact ⟨c, more ++ gap, rfl, visible⟩
  none span kind text spells here := h.none span kind text spells (spells.isPrefix_of_append blank here)

/-! ## Texts before blanks -/

/-- A text that blanks follow is read as the same tokens wherever it stands. -/
theorem Tiled.read (h : Tiled before cs ts rest) (blank : ∀ c ∈ gap, Text.isBlankChar c) (column : Nat) :
    ∃ us : List Token, us.map Token.mark = ts.map Token.mark ∧ Workflows.tokensFrom column (cs ++ gap) =
      (Workflows.tokensFrom (column + (cs.length - rest.length)) (rest ++ gap)).map (us ++ ·) := by
  induction h generalizing column with
  | @blanks before lead rest empty =>
    refine ⟨[], rfl, ?_⟩
    rw [List.append_assoc, tokensFrom_blanks empty, List.length_append, Nat.add_sub_cancel]
    cases Workflows.tokensFrom (column + lead.length) (rest ++ gap) <;> rfl
  | @token before lead span after rest t ts empty covers further ih =>
    have shorter := further.suffix.length_le
    have longest := covers.longest.append_blanks blank
    rw [List.append_assoc] at longest
    obtain ⟨us, marks, read⟩ := ih (column + lead.length + span.length)
    refine ⟨⟨t.kind, t.text, column + lead.length⟩ :: us, by rw [List.map_cons, List.map_cons, marks]; rfl, ?_⟩
    rw [List.append_assoc, List.append_assoc, tokensFrom_blanks empty, tokensFrom_token longest, read]
    simp only [List.length_append]
    rw [show column + lead.length + span.length + (after.length - rest.length) =
      column + (lead.length + (span.length + after.length) - rest.length) by omega]
    cases Workflows.tokensFrom _ (rest ++ gap) <;> rfl

theorem Lexes.blanks {F : List Char → Prop} (blank : ∀ c ∈ cs, Text.isBlankChar c) : Lexes cs [] F :=
  fun column rest _ => ⟨[], rfl, by
    rw [tokensFrom_blanks blank]
    cases tokensFrom (column + cs.length) rest <;> rfl⟩

theorem Tiled.lexes (h : Tiled before cs ts []) :
    Lexes cs (ts.map Token.mark) fun rest => ∀ c ∈ rest, Text.isBlankChar c :=
  fun column _ blank => h.read blank column

/-- Where no token can be formed, a text is not read, with blanks around it or without. -/
theorem Tiled.fails (h : Tiled before cs ts rest) (stuck : Stuck rest)
    (blank : ∀ c ∈ gap, Text.isBlankChar c) (column : Nat) :
    ∃ x, Workflows.tokensFrom column (cs ++ gap) = .error x := by
  obtain ⟨us, -, read⟩ := h.read blank column
  obtain ⟨what, fails⟩ := (stuck.append_blanks blank).tokensFrom (column + (cs.length - rest.length))
  rw [fails] at read
  exact ⟨_, read⟩

namespace Expr

variable {s : String} {T : Expr}

/-- **A text has the tree that it has when it is trimmed.** -/
theorem parse_trim_eq_ok_iff : parse (Text.trim s) = .ok T ↔ parse s = .ok T := by
  obtain ⟨lead, trail, whole, blank, blank'⟩ := Text.exists_trimmed s.toList
  have core : (Text.trim s).toList = Text.trimChars s.toList := String.toList_ofList
  generalize Text.trimChars s.toList = cs at whole core
  obtain ⟨ts, rest, tiled, rfl | stuck⟩ := exists_tiled [] cs
  · have lexes := tiled.lexes
    have surrounded : Lexes s.toList (ts.map Token.mark) fun rest => ∀ c ∈ rest, Text.isBlankChar c := by
      have inner := lexes.append (Lexes.blanks blank') fun rest (more : ∀ c ∈ rest, Text.isBlankChar c) =>
        List.forall_mem_append.2 ⟨blank', more⟩
      rw [whole]
      have outer := (Lexes.blanks (F := fun _ => True) blank).append inner fun _ _ => trivial
      rwa [List.append_nil, List.nil_append] at outer
    rw [← core] at lexes
    rw [lexes.parse_eq_ok_iff (by simp), surrounded.parse_eq_ok_iff (by simp)]
  · -- The lexer stops at the same place, at a column that the blanks move.
    obtain ⟨x, fails⟩ : ∃ x, Workflows.tokensFrom 1 (cs ++ []) = .error x := tiled.fails stuck (by simp) 1
    obtain ⟨x', fails'⟩ := tiled.fails stuck blank' (1 + lead.length)
    rw [List.append_nil, ← core] at fails
    rw [← tokensFrom_blanks blank, ← whole] at fails'
    unfold parse tokenize
    rw [fails, fails']
    exact iff_of_false nofun nofun

/-- There is no expression in a blank text. -/
theorem parse_of_isBlank (blank : Text.isBlank s) : parse s = .error .empty := by
  have read : Workflows.tokensFrom 1 (s.toList ++ []) = _ := tokensFrom_blanks (List.all_eq_true.1 blank) 1
  rw [List.append_nil, tokensFrom] at read
  unfold parse tokenize
  rw [read]
  rfl

end Expr

namespace Rule

variable {s : String} {entity : Object} {verdict : Bool × String}

/-- The verdict on a rule is the one on its tree, told with the trimmed rule. -/
theorem evaluate_eq_ok_iff : evaluate s entity = .ok verdict ↔ ∃ T, Expr.parse s = .ok T ∧
    (T.test entity = .ok true ∧ verdict = (true, "Rule passed: " ++ Text.trim s) ∨
      T.test entity = .ok false ∧ ∃ reasons, T.explain entity = .ok reasons ∧
        verdict = (false, "Rule failed: " ++ String.intercalate "; " reasons)) := by
  unfold evaluate
  cases Expr.parse s with
  | error x => simp [bind, Except.bind]
  | ok T =>
    rcases truth : T.test entity with x | _ | _
    · simp [bind, Except.bind, truth]
    · cases explained : T.explain entity <;>
        simp [bind, Except.bind, pure, Except.pure, truth, explained, eq_comm]
    · simp [bind, Except.bind, pure, Except.pure, truth, eq_comm]

/-- **The verdict on a rule and its explanation are those on the trimmed rule.** -/
theorem evaluate_trim_eq_ok_iff : evaluate (Text.trim s) entity = .ok verdict ↔ evaluate s entity = .ok verdict := by
  simp only [evaluate_eq_ok_iff, Expr.parse_trim_eq_ok_iff, Text.trim_trim]

end Rule

end Workflows
