import Workflows.Json.Reader
import Workflows.Proofs.Decimal.Digits

/-!
# Written numbers

* `Json.Exponent`, `Json.Numeral`: how a number is written; `Numeral.chars`: its characters;
* `Numeral.value?`: the number that is written, if it is in range;
* `Json.Ends`: what does not go on with a number;
* **`readNumber_chars`**: a numeral is read as its number; `exists_numeral`: what is read as a number is a numeral.
-/

namespace Workflows

namespace Json

open Decimal (Digits isDigit natOfDigits splitDigits splitSign)

/-- An exponent: its letter, its sign if any and its digits. -/
structure Exponent where
  letter : Char
  sign : Option Char
  digits : List Char
  letter_eq : letter = 'e' ∨ letter = 'E'
  sign_eq : ∀ c ∈ sign, c = '+' ∨ c = '-'
  isDigits : Digits digits
  ne_nil : digits ≠ []

namespace Exponent

/-- What follows the letter. -/
def tail (e : Exponent) : List Char := e.sign.toList ++ e.digits

def amount (e : Exponent) : Int :=
  let n := min (natOfDigits e.digits) maxExponent
  if e.sign = some '-' then -(n : Int) else n

end Exponent

/-- How a number is written: its sign, the digits before the point, those after it if there is one, and its
exponent if it has one. -/
structure Numeral where
  negative : Bool
  whole : List Char
  places : Option (List Char)
  exponent : Option Exponent
  isDigits : Digits whole
  ne_nil : whole ≠ []
  no_zero : whole.head? = some '0' → whole.length = 1
  places_isDigits : ∀ ds ∈ places, Digits ds
  places_ne_nil : ∀ ds ∈ places, ds ≠ []

namespace Numeral

/-- The point and the digits after it. -/
def fraction (m : Numeral) : List Char := m.places.elim [] ('.' :: ·)

/-- The exponent with its letter. -/
def power (m : Numeral) : List Char := m.exponent.elim [] fun e => e.letter :: e.tail

def chars (m : Numeral) : List Char :=
  (if m.negative then ['-'] else []) ++ (m.whole ++ (m.fraction ++ m.power))

/-- The number that is written, if it is in range. -/
def value? (m : Numeral) : Option Number :=
  numberOf m.negative m.whole m.places (m.exponent.map Exponent.amount)

end Numeral

/-- Whether a number could go on with `c`. -/
def continues (c : Char) : Bool := isDigit c || c = '.' || c = 'e' || c = 'E'

/-- A number does not go on. -/
def Ends (rest : List Char) : Prop := ∀ c ∈ rest.head?, continues c = false

variable {cs rest : List Char}

theorem Ends.stop (ends : Ends rest) : ∀ c ∈ rest.head?, ¬ isDigit c := fun c mem digit => by
  have go := ends c mem
  rw [continues, digit] at go
  cases go

/-- Digits and what follows them. -/
theorem exists_digits (cs : List Char) : ∃ ds rest, splitDigits cs = (ds, rest) ∧ cs = ds ++ rest ∧ Digits ds :=
  ⟨_, _, rfl, List.takeWhile_append_dropWhile.symm, fun _ mem => List.mem_takeWhile_imp mem⟩

/-! ## Exponents -/

theorem readExponent_tail (e : Exponent) (ends : Ends rest) :
    readExponent (e.tail ++ rest) = some (e.amount, rest) := by
  have sign : splitSign (e.tail ++ rest) = (decide (e.sign = some '-'), e.digits ++ rest) := by
    unfold Exponent.tail
    rw [List.append_assoc]
    cases signed : e.sign with
    | none =>
      rw [Option.toList_none, List.nil_append]
      exact Decimal.splitSign_digits e.isDigits e.ne_nil
    | some c => rcases e.sign_eq c signed with rfl | rfl <;> rfl
  have written : e.digits.isEmpty = false := by simpa using e.ne_nil
  simp only [readExponent, sign, Decimal.splitDigits_digits e.isDigits ends.stop, written, Exponent.amount,
    decide_eq_true_eq, Bool.false_eq_true, if_false]

theorem exists_sign (cs : List Char) : ∃ (sign : Option Char) (rest : List Char),
    splitSign cs = (decide (sign = some '-'), rest) ∧ cs = sign.toList ++ rest ∧
      ∀ c ∈ sign, c = '+' ∨ c = '-' := by
  unfold splitSign
  split
  · exact ⟨some '-', _, rfl, rfl, by simp⟩
  · exact ⟨some '+', _, rfl, rfl, by simp⟩
  · exact ⟨none, _, rfl, rfl, by simp⟩

theorem exists_exponent {letter : Char} {n : Int} (mark : letter = 'e' ∨ letter = 'E')
    (read : readExponent cs = some (n, rest)) :
    ∃ e : Exponent, e.letter = letter ∧ cs = e.tail ++ rest ∧ e.amount = n := by
  obtain ⟨sign, behind, split, rfl, signs⟩ := exists_sign cs
  obtain ⟨ds, after, split', rfl, digits⟩ := exists_digits behind
  simp only [readExponent, split, split', decide_eq_true_eq] at read
  split at read
  · cases read
  · next written =>
    simp only [Option.some.injEq, Prod.mk.injEq] at read
    obtain ⟨amount, rfl⟩ := read
    refine ⟨⟨letter, sign, ds, mark, signs, digits, by simpa using written⟩, rfl, ?_, amount⟩
    rw [Exponent.tail, List.append_assoc]

/-! ## Numbers -/

theorem splitMinus_digits (negative : Bool) (digits : Digits cs) (some : cs ≠ []) :
    splitMinus ((if negative then ['-'] else []) ++ (cs ++ rest)) = (negative, cs ++ rest) := by
  cases negative with
  | true => rfl
  | false =>
    cases cs with
    | nil => exact absurd rfl some
    | cons c cs =>
      have digit := digits c List.mem_cons_self
      unfold splitMinus
      split
      · next same => cases same; cases digit
      · rfl

theorem exists_minus (cs : List Char) : ∃ (negative : Bool) (rest : List Char),
    splitMinus cs = (negative, rest) ∧ cs = (if negative then ['-'] else []) ++ rest := by
  unfold splitMinus
  split
  · exact ⟨true, _, rfl, rfl⟩
  · exact ⟨false, _, rfl, rfl⟩

namespace Numeral

variable (m : Numeral)

/-- Which characters a number is written with. -/
theorem of_mem_chars {c : Char} (mem : c ∈ m.chars) : isDigit c ∨ c ∈ ['-', '+', '.', 'e', 'E'] := by
  simp only [chars, fraction, power, List.mem_append] at mem
  obtain minus | whole | places | exponent := mem
  · split at minus
    · rw [List.mem_singleton.1 minus]
      exact .inr (by decide)
    · cases minus
  · exact .inl (m.isDigits c whole)
  · cases point : m.places with
    | none =>
      rw [point] at places
      cases places
    | some ds =>
      rw [point, Option.elim_some, List.mem_cons] at places
      obtain rfl | places := places
      · exact .inr (by decide)
      · exact .inl (m.places_isDigits ds point c places)
  · cases some : m.exponent with
    | none =>
      rw [some] at exponent
      cases exponent
    | some e =>
      rw [some, Option.elim_some, List.mem_cons, Exponent.tail, List.mem_append] at exponent
      obtain rfl | sign | digits := exponent
      · rcases e.letter_eq with letter | letter <;> rw [letter] <;> exact .inr (by decide)
      · rcases e.sign_eq c (Option.mem_toList.1 sign) with rfl | rfl <;> exact .inr (by decide)
      · exact .inl (e.isDigits c digits)

/-- What may stand after the digits of a number, those after the point included. -/
theorem power_ends (ends : Ends rest) : ∀ c ∈ (m.power ++ rest).head?, ¬ isDigit c ∧ c ≠ '.' := by
  unfold power
  cases m.exponent with
  | none =>
    refine fun c mem => ⟨ends.stop c mem, ?_⟩
    rintro rfl
    cases ends _ mem
  | some e =>
    rintro c ⟨⟩
    rcases e.letter_eq with letter | letter <;> rw [letter] <;> decide

theorem fraction_ends (ends : Ends rest) : ∀ c ∈ (m.fraction ++ (m.power ++ rest)).head?, ¬ isDigit c := by
  unfold fraction
  cases m.places with
  | none => exact fun c mem => (m.power_ends ends c mem).1
  | some ds =>
    rintro c ⟨⟩
    decide

theorem readWhole_append (stop : ∀ c ∈ rest.head?, ¬ isDigit c) :
    readWhole (m.whole ++ rest) = some (m.whole, rest) := by
  have written : m.whole.isEmpty = false := by simpa using m.ne_nil
  have proper : ¬ (m.whole.head? = some '0' ∧ 1 < m.whole.length) := fun ⟨zero, long⟩ => by
    rw [m.no_zero zero] at long
    exact absurd long (lt_irrefl 1)
  simp only [readWhole, Decimal.splitDigits_digits m.isDigits stop, written, Bool.false_or, Bool.and_eq_true,
    decide_eq_true_eq, if_neg proper]

theorem readPlaces_append (stop : ∀ c ∈ rest.head?, ¬ isDigit c ∧ c ≠ '.') :
    readPlaces (m.fraction ++ rest) = some (m.places, rest) := by
  unfold fraction
  cases point : m.places with
  | none =>
    rw [Option.elim_none, List.nil_append]
    unfold readPlaces
    split
    · exact absurd rfl (stop '.' rfl).2
    · rfl
  | some ds =>
    have written : ds.isEmpty = false := by simpa using m.places_ne_nil ds point
    simp only [Option.elim_some, List.cons_append, readPlaces,
      Decimal.splitDigits_digits (m.places_isDigits ds point) fun c mem => (stop c mem).1, written,
      Bool.false_eq_true, if_false]

theorem readPower_append (ends : Ends rest) :
    readPower (m.power ++ rest) = some (m.exponent.map Exponent.amount, rest) := by
  unfold power
  cases m.exponent with
  | none =>
    cases rest with
    | nil => rfl
    | cons c rest =>
      have go := ends c rfl
      simp only [continues, Bool.or_eq_false_iff, decide_eq_false_iff_not] at go
      simp [readPower, go.1.2, go.2]
  | some e =>
    have letter : (e.letter = 'e' || e.letter = 'E') = true := by simpa using e.letter_eq
    rw [Option.elim_some, List.cons_append, readPower, if_pos letter, readExponent_tail e ends]
    rfl

/-- Which character a number starts with. -/
theorem exists_first : ∃ c cs, m.chars = c :: cs ∧ (c = '-' ∨ isDigit c) := by
  unfold chars
  cases m.negative with
  | true => exact ⟨_, _, rfl, .inl rfl⟩
  | false =>
    obtain ⟨c, cs, whole⟩ := List.exists_cons_of_ne_nil m.ne_nil
    rw [whole]
    exact ⟨c, _, rfl, .inr (m.isDigits c (whole ▸ List.mem_cons_self))⟩

/-- **A numeral is read as its number**, whatever follows that does not go on with it. -/
theorem readNumber_chars (ends : Ends rest) :
    readNumber (m.chars ++ rest) = m.value?.map fun n => (n, rest) := by
  unfold chars readNumber
  simp only [List.append_assoc, splitMinus_digits _ m.isDigits m.ne_nil,
    m.readWhole_append (m.fraction_ends ends), m.readPlaces_append (m.power_ends ends), m.readPower_append ends,
    Option.bind_eq_bind, Option.bind_some]
  exact Option.map_eq_bind.symm

end Numeral

theorem of_readWhole {whole : List Char} (read : readWhole cs = some (whole, rest)) : cs = whole ++ rest ∧
    Digits whole ∧ whole ≠ [] ∧ (whole.head? = some '0' → whole.length = 1) := by
  obtain ⟨ds, after, split, rfl, digits⟩ := exists_digits cs
  simp only [readWhole, split] at read
  split at read
  · cases read
  · next proper =>
    cases read
    simp only [Bool.or_eq_true, List.isEmpty_iff, Bool.and_eq_true, decide_eq_true_eq, not_or, not_and,
      not_lt] at proper
    exact ⟨rfl, digits, proper.1, fun zero =>
      le_antisymm (proper.2 zero) (List.length_pos_iff.2 proper.1)⟩

theorem of_readPlaces {places : Option (List Char)} (read : readPlaces cs = some (places, rest)) :
    cs = places.elim [] ('.' :: ·) ++ rest ∧ ∀ ds ∈ places, Digits ds ∧ ds ≠ [] := by
  unfold readPlaces at read
  split at read
  · next behind =>
    obtain ⟨ds, after, split, rfl, digits⟩ := exists_digits behind
    simp only [split] at read
    split at read
    · cases read
    · next written =>
      cases read
      exact ⟨rfl, fun _ same => Option.some.inj same ▸ ⟨digits, by simpa using written⟩⟩
  · cases read
    exact ⟨rfl, nofun⟩

theorem of_readPower {power : Option Int} (read : readPower cs = some (power, rest)) : ∃ e : Option Exponent,
    cs = (e.elim [] fun e => e.letter :: e.tail) ++ rest ∧ e.map Exponent.amount = power := by
  unfold readPower at read
  split at read
  · next c behind =>
    split at read
    · next letter =>
      obtain ⟨⟨n, after⟩, readE, same⟩ := Option.map_eq_some_iff.1 read
      cases same
      obtain ⟨e, rfl, rfl, rfl⟩ := exists_exponent (by simpa using letter) readE
      exact ⟨some e, rfl, rfl⟩
    · cases read
      exact ⟨none, rfl, rfl⟩
  · cases read
    exact ⟨none, rfl, rfl⟩

/-- **What is read as a number is a numeral.** -/
theorem exists_numeral {n : Number} (read : readNumber cs = some (n, rest)) :
    ∃ m : Numeral, cs = m.chars ++ rest ∧ m.value? = some n := by
  obtain ⟨negative, unsigned, minus, rfl⟩ := exists_minus cs
  simp only [readNumber, minus, Option.bind_eq_bind, Option.bind_eq_some_iff, Prod.exists] at read
  obtain ⟨whole, behind, readW, places, after, readP, power, last, readE, value, number, done⟩ := read
  cases done
  obtain ⟨rfl, digits, written, zero⟩ := of_readWhole readW
  obtain ⟨rfl, fraction⟩ := of_readPlaces readP
  obtain ⟨e, rfl, rfl⟩ := of_readPower readE
  refine ⟨⟨negative, whole, places, e, digits, written, zero, fun ds mem => (fraction ds mem).1,
    fun ds mem => (fraction ds mem).2⟩, ?_, number⟩
  simp only [Numeral.chars, Numeral.fraction, Numeral.power, List.append_assoc]

end Json

end Workflows
