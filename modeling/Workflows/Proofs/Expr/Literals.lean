import Workflows.Proofs.Decimal.ReadBack
import Workflows.Proofs.Expr.Written

/-!
# Literals as they are written

* `Value.bare`: a literal without quotes, backslashes and exponents, which are not written as they are read;
* `Value.legible_token`, `Value.denotes_token`: as a token, such a literal is read off its written form and stands
  for the value;
* `Quoted.bare`: a text between quotes that is read back as it stands is one; `misread_text`: where another text is
  written, it is not read;
* `misread_real`: where a number is written with an exponent, a number and a word are read.
-/

namespace Workflows

/-- Whether the written form of a literal is free of what is not read as it is written: quotes and backslashes in
texts, and exponents of numbers. -/
def Value.bare : Value → Bool
  | .text s => s.toList.all fun c => c ≠ '\'' ∧ c ≠ '\\'
  | .number (.real x) => !(Decimal.realText .data x.toFloat).toList.contains 'e'
  | _ => true

/-! ## Texts -/

section

variable {q : Char} {inside meant more rest : List Char}

theorem Quoted.self {cs : List Char} (bare : ∀ c ∈ cs, c ≠ q ∧ c ≠ '\\') : Quoted q cs cs := by
  induction cs with
  | nil => exact .nil
  | cons c cs ih =>
    rw [List.forall_mem_cons] at bare
    exact .plain bare.1.2 bare.1.1 (ih bare.2)

theorem unescaped_eq_backslash {e : Char} (h : textBody?.unescaped e = '\\') : e = '\\' := by
  unfold textBody?.unescaped at h
  split at h
  · cases h
  · split at h
    · cases h
    · exact h

/-- A backslash that is read off the written form of a text is never made up for. -/
theorem Quoted.not_behind_backslash (quote : q ≠ '\\') (h : Quoted q inside meant) (n : Nat) :
    List.replicate (n + 1) '\\' ++ (inside ++ q :: more) ≠ meant ++ q :: rest := by
  intro same
  induction h generalizing n with
  | nil => exact quote (List.cons.inj same).1.symm
  | plain plain _ _ _ => exact plain (List.cons.inj same).1.symm
  | escaped e _ ih =>
    obtain ⟨head, tail⟩ := List.cons.inj same
    cases unescaped_eq_backslash head.symm
    refine ih (n + 1) ?_
    rw [List.replicate_succ', List.replicate_succ', List.append_assoc, List.append_assoc]
    exact tail

/-- **A text that is read back as it stands between quotes holds no quotes and no backslashes.** -/
theorem Quoted.bare (quote : q ≠ '\\') (h : Quoted q inside meant) (same : inside ++ q :: more = meant ++ q :: rest) :
    ∀ c ∈ meant, c ≠ q ∧ c ≠ '\\' := by
  induction h with
  | nil => simp
  | plain plain inner _ ih => exact List.forall_mem_cons.2 ⟨⟨inner, plain⟩, ih (List.cons.inj same).2⟩
  | escaped e rest _ =>
    obtain ⟨head, tail⟩ := List.cons.inj same
    cases unescaped_eq_backslash head.symm
    exact absurd tail (rest.not_behind_backslash quote 0)

end

/-! ## Literals as tokens -/

theorem Value.toList_real (x : Real64) :
    (Expr.literalText (.number (.real x))).toList = (Decimal.realText .data x.toFloat).toList := String.toList_ofList

theorem Value.toList_int (n : Int) : (Expr.literalText (.number (.int n))).toList = (toString n).toList :=
  String.toList_ofList

/-- A number is bare if it is written without an exponent. -/
theorem bare_real_iff {x : Real64} :
    Value.bare (.number (.real x)) ↔ Decimal.Layout.data.Positional (Decimal.shortest x.toFloat) := by
  rw [← not_iff_not, ← Decimal.exponent_mem_iff]
  simp [Value.bare]

theorem isNumberChar_of_digits {cs : List Char} (digits : Decimal.Digits cs) : ∀ c ∈ cs, isNumberChar c :=
  fun c mem => isNumberChar_of_isDigit (digits c mem)

/-- A sign, a digit and what may follow in numbers are a number. -/
theorem spells_number (negative : Bool) {d : Char} {cs : List Char} (digit : Decimal.isDigit d)
    (rest : ∀ c ∈ cs, isNumberChar c) : Spells ((if negative then ['-'] else []) ++ d :: cs) .number
      (String.ofList ((if negative then ['-'] else []) ++ d :: cs)) := by
  cases negative with
  | true => exact .negative digit rest
  | false => exact .number digit rest

/-- A number that is written with a sign, digits and points is read off its written form. -/
theorem legible_number (negative : Bool) {n : Number} {d : Char} {cs : List Char}
    (written : (Expr.literalText (.number n)).toList = (if negative then ['-'] else []) ++ d :: cs)
    (digit : Decimal.isDigit d) (rest : ∀ c ∈ cs, isNumberChar c) : Token.Legible (Value.token (.number n)) := by
  have spells := spells_number negative digit rest
  rw [← written, String.ofList_toList] at spells
  exact spells

theorem legible_int (n : Int) : Token.Legible (Value.token (.number (.int n))) := by
  have digits := Decimal.digits_toDigits n.natAbs
  have some : Nat.toDigits 10 n.natAbs ≠ [] := Nat.toDigits_ne_nil
  have written := (Value.toList_int n).trans (Decimal.toList_toString n)
  generalize Nat.toDigits 10 n.natAbs = ds at digits some written
  cases ds with
  | nil => exact absurd rfl some
  | cons d ds =>
    have inside : ∀ c ∈ ds, isNumberChar c := isNumberChar_of_digits fun c mem => digits c (List.mem_cons_of_mem d mem)
    refine legible_number (n < 0) ?_ (digits d List.mem_cons_self) inside
    simpa using written

theorem legible_real {x : Real64} (bare : Value.bare (.number (.real x))) :
    Token.Legible (Value.token (.number (.real x))) := by
  obtain ⟨whole, places, laid, digits, some, digits', -⟩ := Decimal.layOut_point (bare_real_iff.1 bare)
  have written := (Value.toList_real x).trans (Decimal.toList_realText .data x.toFloat)
  rw [laid] at written
  cases whole with
  | nil => exact absurd rfl some
  | cons d ds =>
    have inside : ∀ c ∈ ds ++ '.' :: places, isNumberChar c := by
      refine List.forall_mem_append.2 ⟨isNumberChar_of_digits fun c mem => digits c (List.mem_cons_of_mem d mem), ?_⟩
      exact List.forall_mem_cons.2 ⟨by decide, isNumberChar_of_digits digits'⟩
    exact legible_number (negativeSign x.toFloat) written (digits d List.mem_cons_self) inside

theorem legible_text {s : String} (bare : Value.bare (.text s)) : Token.Legible (Value.token (.text s)) := by
  have bare : ∀ c ∈ s.toList, c ≠ '\'' ∧ c ≠ '\\' := by
    simpa [Value.bare] using bare
  have spells := Spells.text (.inr rfl) (Quoted.self bare)
  rw [String.ofList_toList] at spells
  exact spells

/-- **A bare literal that some token stands for is read off its written form**, -/
theorem Value.legible_token {v : Value} (bare : v.bare) (denoted : ∃ t, Token.Denotes t v) : v.token.Legible := by
  obtain ⟨t, denotes⟩ := denoted
  cases denotes with
  | text => exact legible_text bare
  | true => exact Spells.of_word (s := "true") rfl (by decide) (by decide) (by decide +kernel)
  | false => exact Spells.of_word (s := "false") rfl (by decide) (by decide) (by decide +kernel)
  | null => exact Spells.of_word (s := "null") rfl (by decide) (by decide) (by decide +kernel)
  | int => exact legible_int _
  | real => exact legible_real bare

/-- and as a token it stands for the value. -/
theorem Value.denotes_token {v : Value} (bare : v.bare) (denoted : ∃ t, Token.Denotes t v) : v.token.Denotes v := by
  obtain ⟨t, denotes⟩ := denoted
  cases denotes with
  | text => exact .text rfl
  | true => exact .true rfl
  | false => exact .false rfl
  | null => exact .null rfl
  | @int n _ _ least greatest =>
    refine .int rfl ?_ least greatest
    change Decimal.readInt? (Expr.literalText (.number (.int n))).toList = _
    rw [Value.toList_int, Decimal.readInt?_toString]
  | @real f x =>
    have positional := bare_real_iff.1 bare
    refine .real (f := x.toFloat) rfl (fun n read => ?_) ?_ (dif_pos x.isFinite)
    · obtain ⟨whole, places, laid, -⟩ := Decimal.layOut_point positional
      change Decimal.readInt? (Expr.literalText (.number (.real x))).toList = _ at read
      rw [Value.toList_real, Decimal.toList_realText, laid, Decimal.readInt?_of_point (by simp)] at read
      cases read
    · change Decimal.read? (Expr.literalText (.number (.real x))).toList = _
      rw [Value.toList_real, Decimal.read?_realText x.isFinite positional]

/-! ## What is read instead -/

/-- Where a text is written that is not bare, another text is read, if any. -/
theorem misread_text {s : String} {column : Nat} {rest : List Char} {ts : List Token}
    (read : tokensFrom column ((Value.token (.text s)).written ++ rest) = .ok ts)
    (marred : Value.bare (.text s) = false) : ∃ t more, ts = t :: more ∧ t.kind = .text ∧ t.text ≠ s := by
  change tokensFrom column ('\'' :: (s.toList ++ ['\''] ++ rest)) = _ at read
  rw [tokensFrom, if_neg (by decide), List.append_assoc, List.singleton_append, lexeme_of_not_sign (by decide),
    if_pos (by decide)] at read
  cases found : textBody? '\'' (s.toList ++ '\'' :: rest) with
  | none => rw [found] at read; cases read
  | some body =>
    obtain ⟨meant, n⟩ := body
    rw [found] at read
    dsimp only at read
    split at read
    · cases read
    · cases read
      refine ⟨_, _, rfl, rfl, ?_⟩
      dsimp only
      rintro rfl
      obtain ⟨inside, more, same, quoted, -⟩ := (textBody?_eq_some_iff (by decide)).1 found
      rw [String.toList_ofList] at same
      have bare := quoted.bare (by decide) same.symm
      have all : Value.bare (.text (String.ofList meant)) = true := by
        simpa [Value.bare] using bare
      rw [marred] at all
      cases all

/-- A number that something else than digits and points follows. -/
theorem Lexes.number (negative : Bool) {d : Char} {cs : List Char} (digit : Decimal.isDigit d)
    (inside : ∀ c ∈ cs, isNumberChar c) : Lexes ((if negative then ['-'] else []) ++ d :: cs)
      [(.number, String.ofList ((if negative then ['-'] else []) ++ d :: cs))]
      fun rest => ∀ c more, rest = c :: more → ¬ isNumberChar c := by
  cases negative with
  | true =>
    change Lexes ('-' :: d :: cs) [(.number, String.ofList ('-' :: d :: cs))] _
    refine .of_lexeme fun rest ends => ?_
    have number := isNumberChar_of_isDigit digit
    rw [List.cons_append, lexeme_of_minus digit, ← List.cons_append,
      run_eq _ (List.forall_mem_cons.2 ⟨number, inside⟩) ends]
  | false =>
    change Lexes (d :: cs) [(.number, String.ofList (d :: cs))] _
    refine .of_lexeme fun rest ends => ?_
    rw [lexeme_of_digit digit, run_eq _ inside ends]

/-- The `e` before an exponent, as a word. -/
theorem Lexes.exponent : Lexes ['e'] [(.identifier, "e")] fun rest => ∀ c more, rest = c :: more → ¬ isWordRest c := by
  refine .of_lexeme fun rest ends => ?_
  have kind : wordKind "e" = .identifier := by cbv
  rw [lexeme_of_wordStart (by decide), run_eq wordKind (by simp) ends]
  exact congrArg (fun k => Except.ok (⟨k, "e", 0⟩ : Lexeme)) kind

/-- Where a number is written with an exponent, a number and a word are read. -/
theorem misread_real {x : Real64} {column : Nat} {rest : List Char} {ts : List Token}
    (read : tokensFrom column ((Value.token (.number (.real x))).written ++ rest) = .ok ts)
    (marred : Value.bare (.number (.real x)) = false) :
    ∃ t u more, ts = t :: u :: more ∧ t.kind = .number ∧ u.kind = .identifier := by
  have beyond : ¬ Decimal.Layout.data.Positional (Decimal.shortest x.toFloat) := by
    rw [← bare_real_iff, marred]
    exact Bool.false_ne_true
  obtain ⟨c, cs, sign, more, laid, digit, inside, signed⟩ := Decimal.layOut_exponent beyond
  have inside : ∀ c ∈ cs, isNumberChar c := fun c mem => by simpa [isNumberChar] using inside c mem
  have written : (Value.token (.number (.real x))).written ++ rest =
      ((if negativeSign x.toFloat then ['-'] else []) ++ c :: cs ++ ['e']) ++ (sign :: more ++ rest) := by
    change (Expr.literalText (.number (.real x))).toList ++ rest = _
    rw [Value.toList_real, Decimal.toList_realText, laid]
    simp
  have lexes := (Lexes.number (negativeSign x.toFloat) digit inside).append Lexes.exponent fun rest _ c more same => by
    cases same
    decide
  obtain ⟨us, marks, reads⟩ := lexes column (sign :: more ++ rest) fun c more' same => by
    cases same
    rcases signed with rfl | rfl <;> decide
  rw [written, reads] at read
  obtain ⟨t, us, rfl, mark, behind⟩ := List.map_eq_cons_iff.1 marks
  obtain ⟨u, rfl, mark'⟩ := List.map_eq_singleton_iff.1 behind
  cases after : tokensFrom (column + _) (sign :: more ++ rest) with
  | error e => rw [after] at read; cases read
  | ok vs =>
    rw [after] at read
    cases read
    exact ⟨t, u, vs, rfl, congrArg Prod.fst mark, congrArg Prod.fst mark'⟩

end Workflows
