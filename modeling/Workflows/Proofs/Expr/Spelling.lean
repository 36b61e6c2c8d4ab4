import Mathlib
import Workflows.Expr.Lexer

/-!
# How tokens are written

The pieces of text that are tokens, independently of how they are found.

* `Quoted`: the inside of a text literal and what it stands for; `textBody?_eq_some_iff`: how it is read;
* `marks`: the tokens that are written with signs; `Spells`: a piece of text is a token;
* `Spells.verbatim`, `Spells.head_not_blank`: words and numbers stand for themselves, and no token starts with
  a blank;
* `Longest`: a piece that is a token, where no longer one is;
* `Spells.of_lexeme`, `Longest.lexeme`: what the lexer finds is a token, and it finds the longest one;
* **`lexeme_eq_ok_iff`**, **`lexeme_eq_error_iff`**: so it does wherever there is a token, and only there.
-/

namespace Workflows

/-! ## Text literals -/

/-- The inside of a text literal between quotes `q`, and the characters that it stands for. -/
inductive Quoted (q : Char) : List Char → List Char → Prop
  | nil : Quoted q [] []
  | plain {c : Char} {cs meant : List Char} (bare : c ≠ '\\') (inner : c ≠ q) (rest : Quoted q cs meant) :
      Quoted q (c :: cs) (c :: meant)
  | escaped (e : Char) {cs meant : List Char} (rest : Quoted q cs meant) :
      Quoted q ('\\' :: e :: cs) (textBody?.unescaped e :: meant)

theorem textBody?_escaped (q e : Char) (rest : List Char) : textBody? q ('\\' :: e :: rest) =
    (textBody? q rest).map fun (body, n) => (textBody?.unescaped e :: body, n + 2) := by
  rw [textBody?.eq_def]
  rfl

theorem textBody?_close {q : Char} (bare : q ≠ '\\') (rest : List Char) :
    textBody? q (q :: rest) = some ([], 1) := by
  rw [textBody?.eq_def]
  simp only [if_neg bare, if_true]

theorem textBody?_plain {q c : Char} (bare : c ≠ '\\') (inner : c ≠ q) (rest : List Char) :
    textBody? q (c :: rest) = (textBody? q rest).map fun (body, n) => (c :: body, n + 1) := by
  rw [textBody?.eq_def]
  simp only [if_neg bare, if_neg inner]

/-- The body of a literal is what stands before the first quote that no backslash makes literal. -/
theorem textBody?_eq_some_iff {q : Char} (bare : q ≠ '\\') {cs meant : List Char} {n : Nat} :
    textBody? q cs = some (meant, n) ↔
      ∃ inside more, cs = inside ++ q :: more ∧ Quoted q inside meant ∧ n = inside.length + 1 := by
  constructor
  · intro read
    induction cs using textBody?.induct q generalizing meant n with
    | case1 => cases read
    | case2 => cases read
    | case3 e rest ih =>
      rw [textBody?_escaped] at read
      obtain ⟨⟨body, m⟩, behind, same⟩ := Option.map_eq_some_iff.1 read
      obtain ⟨inside, more, rfl, quoted, rfl⟩ := ih behind
      cases same
      exact ⟨'\\' :: e :: inside, more, rfl, .escaped e quoted, rfl⟩
    | case4 rest _ =>
      rw [textBody?_close bare] at read
      cases read
      exact ⟨[], rest, rfl, .nil, rfl⟩
    | case5 c rest plain inner ih =>
      rw [textBody?_plain plain inner] at read
      obtain ⟨⟨body, m⟩, behind, same⟩ := Option.map_eq_some_iff.1 read
      obtain ⟨inside, more, rfl, quoted, rfl⟩ := ih behind
      cases same
      exact ⟨c :: inside, more, rfl, .plain plain inner quoted, rfl⟩
  · rintro ⟨inside, more, rfl, quoted, rfl⟩
    induction quoted with
    | nil => exact textBody?_close bare more
    | plain plain inner _ ih => rw [List.cons_append, textBody?_plain plain inner, ih]; rfl
    | escaped e _ ih => rw [List.cons_append, List.cons_append, textBody?_escaped, ih]; rfl

/-! ## Tokens -/

/-- The tokens that are written with signs: how, their kind and their text. -/
def marks : List (List Char × TokenKind × String) :=
  [(['('], .openParen, "("), ([')'], .closeParen, ")"), (['['], .openBracket, "["),
    ([']'], .closeBracket, "]"), ([','], .comma, ","), (['='], .eq, "=="), (['=', '='], .eq, "=="),
    (['!'], .not, "!"), (['!', '='], .ne, "!="), (['<'], .lt, "<"), (['<', '='], .le, "<="),
    (['<', '>'], .ne, "<>"), (['>'], .gt, ">"), (['>', '='], .ge, ">="), (['&', '&'], .and, "&&"),
    (['|', '|'], .or, "||")]

/-- A piece of text is a token of a kind and with a text. -/
inductive Spells : List Char → TokenKind → String → Prop
  | mark {span : List Char} {kind : TokenKind} {text : String} (mem : (span, kind, text) ∈ marks) :
      Spells span kind text
  | text {q : Char} {inside meant : List Char} (quote : q = '"' ∨ q = '\'') (body : Quoted q inside meant) :
      Spells (q :: (inside ++ [q])) .text (String.ofList meant)
  | number {d : Char} {cs : List Char} (digit : Decimal.isDigit d) (rest : ∀ c ∈ cs, isNumberChar c) :
      Spells (d :: cs) .number (String.ofList (d :: cs))
  | negative {d : Char} {cs : List Char} (digit : Decimal.isDigit d) (rest : ∀ c ∈ cs, isNumberChar c) :
      Spells ('-' :: d :: cs) .number (String.ofList ('-' :: d :: cs))
  | word {c : Char} {cs : List Char} (start : isWordStart c) (rest : ∀ c ∈ cs, isWordRest c) :
      Spells (c :: cs) (wordKind (String.ofList (c :: cs))) (String.ofList (c :: cs))

/-- The kinds of tokens whose text is how they are written: identifiers, keywords and numbers. -/
def TokenKind.Verbatim (k : TokenKind) : Prop :=
  k ∈ [.and, .or, .not, .contains, .isIn, .true, .false, .null, .identifier, .number]

instance (k : TokenKind) : Decidable k.Verbatim := by unfold TokenKind.Verbatim; infer_instance

/-! ### Classes of characters -/

/-- A character of a class is none of some that are not. -/
theorem not_mem_of_any {p : Char → Bool} {c : Char} {cs : List Char} (holds : p c) (none : cs.any p = false) : c ∉ cs := by
  intro mem
  have some := List.any_eq_true.2 ⟨c, mem, holds⟩
  rw [none] at some
  cases some

theorem isDigit_range {c : Char} (digit : Decimal.isDigit c) : 48 ≤ c.toNat ∧ c.toNat ≤ 57 := by
  simpa [Decimal.isDigit, Char.le_def, UInt32.le_iff_toNat_le] using digit

/-- A digit starts no word. -/
theorem isDigit_not_wordStart {c : Char} (digit : Decimal.isDigit c) : isWordStart c = false := by
  obtain ⟨least, greatest⟩ := isDigit_range digit
  have underscore : c ≠ '_' := by
    rintro rfl
    exact absurd greatest (by decide)
  rw [isWordStart, decide_eq_false underscore, Bool.or_false]
  unfold Text.isLetter
  generalize c.toNat = n at least greatest
  interval_cases n <;> decide

/-- The code points of blanks. -/
def blankCodes : List Nat :=
  [0x9, 0xA, 0xB, 0xC, 0xD, 0x20, 0x85, 0xA0, 0x1680, 0x2000, 0x2001, 0x2002, 0x2003, 0x2004, 0x2005, 0x2006,
    0x2007, 0x2008, 0x2009, 0x200A, 0x2028, 0x2029, 0x202F, 0x205F, 0x3000]

theorem toNat_mem_blankCodes {c : Char} (blank : Text.isBlankChar c) : c.toNat ∈ blankCodes := by
  unfold Text.isBlankChar at blank
  generalize c.toNat = n at blank ⊢
  simp only [Bool.or_eq_true, Bool.and_eq_true, decide_eq_true_eq] at blank
  simp only [blankCodes, List.mem_cons, List.not_mem_nil, or_false]
  omega

/-- A blank starts no word. -/
theorem isBlankChar_not_wordStart {c : Char} (blank : Text.isBlankChar c) : isWordStart c = false := by
  have underscore : c ≠ '_' := by
    rintro rfl
    exact absurd blank (by decide)
  have codes : ∀ n ∈ blankCodes, (if n < 0x1000 then Text.inRanges Text.letterRangesLow n
      else if n < 0x10000 then Text.inRanges Text.letterRangesBasic n
      else Text.inRanges Text.letterRangesAstral n) = false := by decide +kernel
  rw [isWordStart, decide_eq_false underscore, Bool.or_false]
  exact codes _ (toNat_mem_blankCodes blank)

theorem isNumberChar_of_isDigit {c : Char} (digit : Decimal.isDigit c) : isNumberChar c := by
  rw [isNumberChar, digit]
  rfl

theorem isWordRest_of_isWordStart {c : Char} (start : isWordStart c) : isWordRest c := by
  obtain letter | low := Bool.or_eq_true_iff.1 start
  · rw [isWordRest, Text.isWordChar, letter]
    rfl
  · rw [isWordRest, low, Bool.or_true, Bool.true_or]

/-- A blank is no digit. -/
theorem isBlankChar_not_digit {c : Char} (blank : Text.isBlankChar c) : Decimal.isDigit c = false := by
  by_contra digit
  rw [Bool.not_eq_false] at digit
  obtain ⟨least, greatest⟩ := isDigit_range digit
  have code := toNat_mem_blankCodes blank
  simp only [blankCodes, List.mem_cons, List.not_mem_nil, or_false] at code
  omega

/-! ### Pieces that are tokens -/

section

variable {c : Char} {cs span more rest : List Char} {kind : TokenKind} {text : String}

theorem Spells.ne_nil (h : Spells span kind text) : span ≠ [] := by
  cases h with
  | mark mem =>
    have all : ∀ m ∈ marks, m.1 ≠ [] := by decide
    exact all _ mem
  | text | number | negative | word => exact List.cons_ne_nil _ _

/-- A word by its kind. -/
theorem Spells.of_word {s : String} (same : s.toList = c :: cs) (start : isWordStart c) (rest : cs.all isWordRest)
    (is : wordKind s = kind) : Spells s.toList kind s := by
  have word := Spells.word start (List.all_eq_true.1 rest)
  rwa [← same, String.ofList_toList, is] at word

/-- Identifiers, keywords and numbers stand for themselves. -/
theorem Spells.verbatim (h : Spells span kind text) (same : kind.Verbatim) : text.toList = span := by
  cases h with
  | mark mem =>
    have all : ∀ m ∈ marks, m.2.1.Verbatim → m.2.2.toList = m.1 := by decide
    exact all _ mem same
  | text => exact absurd same (by decide)
  | number | negative | word => exact String.toList_ofList

/-- No token starts with a blank. -/
theorem Spells.head_not_blank (h : Spells (c :: cs) kind text) : Text.isBlankChar c = false := by
  by_contra blank
  rw [Bool.not_eq_false] at blank
  generalize same : c :: cs = span at h
  cases h with
  | mark mem =>
    have all : ∀ m ∈ marks, m.1.head?.any Text.isBlankChar = false := by decide
    have first := all _ mem
    rw [← same, List.head?_cons, Option.any_some, blank] at first
    cases first
  | text quote =>
    cases same
    rcases quote with rfl | rfl <;> exact absurd blank (by decide)
  | number digit =>
    cases same
    rw [isBlankChar_not_digit blank] at digit
    cases digit
  | negative =>
    cases same
    exact absurd blank (by decide)
  | word start =>
    cases same
    rw [isBlankChar_not_wordStart blank] at start
    cases start

/-! ## The longest token -/

/-- The piece at the start of a text is a token, and no longer piece there is one. -/
structure Longest (span : List Char) (kind : TokenKind) (text : String) (cs : List Char) : Prop where
  spells : Spells span kind text
  here : span <+: cs
  longest : ∀ {span' kind' text'}, Spells span' kind' text' → span' <+: cs → span'.length ≤ span.length

/-- Where there is a token, there is a longest one. -/
theorem Spells.exists_longest (h : Spells span kind text) (here : span <+: cs) :
    ∃ span kind text, Longest span kind text cs := by
  classical
  let IsToken (n : Nat) : Prop := ∃ kind text, Spells (cs.take n) kind text
  have token : IsToken span.length := by
    refine ⟨kind, text, ?_⟩
    rwa [← List.prefix_iff_eq_take.1 here]
  obtain ⟨kind', text', spells⟩ := Nat.findGreatest_spec here.length_le token
  refine ⟨_, kind', text', spells, List.take_prefix _ _, fun {other k t} h' here' => ?_⟩
  rw [List.length_take, Nat.min_eq_left (Nat.findGreatest_le _)]
  refine Nat.le_findGreatest here'.length_le ⟨k, t, ?_⟩
  rwa [← List.prefix_iff_eq_take.1 here']

/-- What is behind the longest token does not make it longer. -/
theorem Longest.not_spells_append {x : Char} (h : Longest span kind text (span ++ x :: more)) {k : TokenKind}
    {t : String} : ¬ Spells (span ++ [x]) k t := by
  intro longer
  have bound := h.longest longer ⟨more, by simp⟩
  simp at bound

/-! ### What the lexer finds is a token -/

theorem spells_operator {alone : TokenKind × String} {pairs : List (Char × TokenKind × String)}
    (single : ([c], alone.1, alone.2) ∈ marks) (double : ∀ p ∈ pairs, ([c, p.1], p.2.1, p.2.2) ∈ marks) :
    Spells ((c :: rest).take (operator rest alone pairs).width) (operator rest alone pairs).kind
      (operator rest alone pairs).text := by
  unfold operator
  split
  · exact .mark single
  · split
    · next d _ _ kind text found =>
      obtain ⟨before, after, rfl, -⟩ := List.lookup_eq_some_iff.1 found
      exact .mark (double (d, kind, text) (by simp))
    · exact .mark single

theorem spells_doubled {l : Lexeme} (mem : ([c, c], kind, String.ofList [c, c]) ∈ marks)
    (read : doubled c kind rest = .ok l) : Spells ((c :: rest).take l.width) l.kind l.text := by
  unfold doubled at read
  split at read
  · next twice =>
    cases read
    cases rest with
    | nil => cases twice
    | cons d rest => cases twice; exact .mark mem
  · cases read

/-- What a run of characters takes up. -/
theorem take_run (kind : String → TokenKind) (p : Char → Bool) :
    (c :: rest).take (run kind p c rest).width = c :: rest.takeWhile p := by
  rw [Lexeme.width, run, List.take_succ_cons, ← List.prefix_iff_eq_take.1 (List.takeWhile_prefix p)]

/-- A text literal that is closed is a token. -/
theorem spells_textBody? {body : List Char} {n : Nat} (quote : c = '"' ∨ c = '\'')
    (read : textBody? c rest = some (body, n)) : Spells ((c :: rest).take (n + 1)) .text (String.ofList body) := by
  have bare : c ≠ '\\' := by rcases quote with rfl | rfl <;> decide
  obtain ⟨inside, more, rfl, quoted, rfl⟩ := (textBody?_eq_some_iff bare).1 read
  have taken : (c :: (inside ++ c :: more)).take (inside.length + 1 + 1) = c :: (inside ++ [c]) := by
    rw [List.take_succ_cons, List.take_length_add_append]
    rfl
  rw [taken]
  exact .text quote quoted

/-- A run of the characters of numbers is a token, where it starts with a digit or with a minus and one. -/
theorem spells_number_run (start : (Decimal.isDigit c || (c = '-' && rest.head?.any Decimal.isDigit)) = true) :
    Spells (c :: rest.takeWhile isNumberChar) .number (String.ofList (c :: rest.takeWhile isNumberChar)) := by
  rcases Bool.or_eq_true_iff.1 start with digit | negative
  · exact .number digit fun _ => List.mem_takeWhile_imp
  · obtain ⟨minus, digit⟩ := Bool.and_eq_true_iff.1 negative
    cases of_decide_eq_true minus
    cases rest with
    | nil => cases digit
    | cons d rest =>
      have digit : Decimal.isDigit d := digit
      have number := isNumberChar_of_isDigit digit
      rw [List.takeWhile_cons_of_pos number]
      exact .negative digit fun _ => List.mem_takeWhile_imp

/-- What the lexer finds is a token. -/
theorem Spells.of_lexeme {l : Lexeme} (read : lexeme c rest = .ok l) :
    Spells ((c :: rest).take l.width) l.kind l.text := by
  unfold lexeme at read
  split at read
  iterate 5
    · cases read
      change Spells [_] _ _
      exact .mark (by decide)
  iterate 4
    · cases read
      exact spells_operator (by decide) (by decide)
  iterate 2
    · exact spells_doubled (by decide) read
  · split at read
    · next quote =>
      split at read
      · next found =>
        cases read
        exact spells_textBody? (by simpa using quote) found
      · cases read
    · split at read
      · next start =>
        cases read
        rw [take_run]
        exact spells_number_run start
      · split at read
        · next start =>
          cases read
          rw [take_run]
          exact .word start fun _ => List.mem_takeWhile_imp
        · cases read

/-! ### The lexer finds the longest token -/

theorem Longest.operator_alone {pairs : List (Char × TokenKind × String)}
    (h : Longest [c] kind text (c :: rest)) (double : ∀ p ∈ pairs, ([c, p.1], p.2.1, p.2.2) ∈ marks) :
    operator rest (kind, text) pairs = ⟨kind, text, 0⟩ := by
  unfold operator
  split
  · rfl
  · next d rest =>
    split
    · next k t found =>
      obtain ⟨before, after, rfl, -⟩ := List.lookup_eq_some_iff.1 found
      have longer : Spells ([c] ++ [d]) k t := .mark (double (d, k, t) (by simp))
      exact absurd longer (Longest.not_spells_append h)
    · rfl

/-- The signs that tokens start with. -/
def signs : List Char := ['(', ')', '[', ']', ',', '=', '!', '<', '>', '&', '|']

/-- What the lexer does with a character that is no sign. -/
theorem lexeme_of_not_sign (apart : c ∉ signs) : lexeme c rest =
    if c = '"' || c = '\'' then
      match textBody? c rest with
      | some (body, n) => .ok ⟨.text, String.ofList body, n⟩
      | none => .error .unclosedText
    else if Decimal.isDigit c || (c = '-' && (rest.head?.any Decimal.isDigit)) then
      .ok (run (fun _ => .number) isNumberChar c rest)
    else if isWordStart c then .ok (run wordKind isWordRest c rest)
    else .error (.character c) := by
  unfold lexeme
  split
  iterate 11 exact absurd (by decide) apart
  rfl

theorem lexeme_of_digit (digit : Decimal.isDigit c) : lexeme c rest = .ok (run (fun _ => .number) isNumberChar c rest) := by
  have quote : ¬ (c = '"' || c = '\'') = true := by
    intro quote
    rcases Bool.or_eq_true_iff.1 quote with q | q <;> cases of_decide_eq_true q <;> cases digit
  rw [lexeme_of_not_sign (not_mem_of_any digit (by decide)), if_neg quote, if_pos (by rw [digit]; rfl)]

theorem lexeme_of_minus {d : Char} (digit : Decimal.isDigit d) :
    lexeme '-' (d :: rest) = .ok (run (fun _ => .number) isNumberChar '-' (d :: rest)) := by
  rw [lexeme_of_not_sign (by decide), if_neg (by decide), if_pos (by simp [digit])]

theorem lexeme_of_wordStart (start : isWordStart c) : lexeme c rest = .ok (run wordKind isWordRest c rest) := by
  have quote : ¬ (c = '"' || c = '\'') = true := by
    intro quote
    rcases Bool.or_eq_true_iff.1 quote with q | q <;> cases of_decide_eq_true q <;> revert start <;> decide
  have number : ¬ (Decimal.isDigit c || (c = '-' && (rest.head?.any Decimal.isDigit))) = true := by
    intro number
    rcases Bool.or_eq_true_iff.1 number with digit | negative
    · rw [isDigit_not_wordStart digit] at start
      cases start
    · cases of_decide_eq_true (Bool.and_eq_true_iff.1 negative).1
      revert start
      decide
  rw [lexeme_of_not_sign (not_mem_of_any start (by decide)), if_neg quote, if_neg number, if_pos start]

/-- A run that goes on as far as it can. -/
theorem run_eq (kindOf : String → TokenKind) {p : Char → Bool} (inside : ∀ x ∈ cs, p x)
    (ends : ∀ x more', more = x :: more' → ¬ p x) : run kindOf p c (cs ++ more) =
      ⟨kindOf (String.ofList (c :: cs)), String.ofList (c :: cs), cs.length⟩ := by
  have body : (cs ++ more).takeWhile p = cs := by
    rw [List.takeWhile_append_of_pos inside]
    cases more with
    | nil => exact List.append_nil cs
    | cons x more => rw [List.takeWhile_cons_of_neg (ends x more rfl), List.append_nil]
  unfold run
  rw [body]

/-- The lexer finds the longest token. -/
theorem Longest.lexeme (h : Longest (c :: cs) kind text (c :: (cs ++ more))) :
    lexeme c (cs ++ more) = .ok ⟨kind, text, cs.length⟩ := by
  have ends {x : Char} {more' : List Char} {k : TokenKind} {t : String} (next : more = x :: more') :
      ¬ Spells (c :: cs ++ [x]) k t := by
    subst next
    exact h.not_spells_append
  have onward {p : Char → Bool} {xs : List Char} {x : Char} (inside : ∀ y ∈ xs, p y) (holds : p x) :
      ∀ y ∈ xs ++ [x], p y := by
    simpa [or_imp, forall_and] using ⟨inside, holds⟩
  have spells := h.spells
  generalize same : c :: cs = span at spells
  cases spells with
  | mark mem =>
    simp only [marks, List.mem_cons, Prod.mk.injEq, List.not_mem_nil, or_false] at mem
    rcases mem with ⟨rfl, rfl, rfl⟩ | ⟨rfl, rfl, rfl⟩ | ⟨rfl, rfl, rfl⟩ | ⟨rfl, rfl, rfl⟩ | ⟨rfl, rfl, rfl⟩ |
      ⟨rfl, rfl, rfl⟩ | ⟨rfl, rfl, rfl⟩ | ⟨rfl, rfl, rfl⟩ | ⟨rfl, rfl, rfl⟩ | ⟨rfl, rfl, rfl⟩ |
      ⟨rfl, rfl, rfl⟩ | ⟨rfl, rfl, rfl⟩ | ⟨rfl, rfl, rfl⟩ | ⟨rfl, rfl, rfl⟩ | ⟨rfl, rfl, rfl⟩ |
      ⟨rfl, rfl, rfl⟩
    all_goals
      cases same
      first
      | rfl
      | exact congrArg Except.ok (h.operator_alone (by decide))
  | @text q inside meant quote body =>
    obtain ⟨rfl, rfl⟩ := List.cons.inj same
    have bare : c ≠ '\\' := by rcases quote with rfl | rfl <;> decide
    have sign : c ∉ signs := by rcases quote with rfl | rfl <;> decide
    have found := (textBody?_eq_some_iff bare).2 ⟨inside, more, rfl, body, rfl⟩
    rw [List.append_assoc, lexeme_of_not_sign sign, if_pos (by simpa using quote), List.singleton_append, found]
    simp
  | number digit inside =>
    obtain ⟨rfl, rfl⟩ := List.cons.inj same
    have run := @run_eq c _ more (fun _ => .number) _ inside fun x _ next isNumber =>
      ends next (.number digit (onward inside isNumber))
    rw [lexeme_of_digit digit, run]
  | @negative d ds digit inside =>
    obtain ⟨rfl, rfl⟩ := List.cons.inj same
    have number := isNumberChar_of_isDigit digit
    have run := @run_eq '-' _ more (fun _ => .number) _ (List.forall_mem_cons.2 ⟨number, inside⟩)
      fun x _ next isNumber => ends next (.negative digit (onward inside isNumber))
    rw [List.cons_append, lexeme_of_minus digit, ← List.cons_append, run]
  | word start inside =>
    obtain ⟨rfl, rfl⟩ := List.cons.inj same
    have run := @run_eq c _ more wordKind _ inside fun x _ next isRest =>
      ends next (.word start (onward inside isRest))
    rw [lexeme_of_wordStart start, run]

/-- Where there is a token, the lexer finds the longest one. -/
theorem Spells.lexeme (h : Spells span kind text) (here : span <+: c :: rest) :
    ∃ cs more kind text, rest = cs ++ more ∧ Longest (c :: cs) kind text (c :: rest) ∧
      Workflows.lexeme c rest = .ok ⟨kind, text, cs.length⟩ := by
  obtain ⟨span, kind, text, longest⟩ := h.exists_longest here
  obtain ⟨more, whole⟩ := longest.here
  cases span with
  | nil => exact absurd rfl longest.spells.ne_nil
  | cons x cs =>
    obtain ⟨rfl, rfl⟩ := List.cons.inj whole
    exact ⟨cs, more, kind, text, rfl, longest, longest.lexeme⟩

/-- **What the lexer finds is the longest token at its place.** -/
theorem lexeme_eq_ok_iff {l : Lexeme} : lexeme c rest = .ok l ↔
    ∃ cs more, rest = cs ++ more ∧ l.more = cs.length ∧ Longest (c :: cs) l.kind l.text (c :: rest) := by
  constructor
  · intro read
    obtain ⟨cs, more, kind, text, rfl, longest, read'⟩ := (Spells.of_lexeme read).lexeme (List.take_prefix _ _)
    rw [read] at read'
    cases read'
    exact ⟨cs, more, rfl, rfl, longest⟩
  · obtain ⟨kind, text, width⟩ := l
    rintro ⟨cs, more, rfl, rfl, longest⟩
    exact longest.lexeme

/-- **The lexer fails where there is no token**, and only there. -/
theorem lexeme_eq_error_iff : (∃ what, lexeme c rest = .error what) ↔
    ∀ span kind text, Spells span kind text → ¬ span <+: c :: rest := by
  constructor
  · rintro ⟨what, fails⟩ span kind text spells here
    obtain ⟨cs, more, kind, text, -, -, read⟩ := spells.lexeme here
    rw [fails] at read
    cases read
  · intro none
    cases read : lexeme c rest with
    | error what => exact ⟨what, rfl⟩
    | ok l => exact absurd (List.take_prefix _ _) (none _ _ _ (Spells.of_lexeme read))

end

end Workflows
