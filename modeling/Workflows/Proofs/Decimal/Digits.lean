import Mathlib
import Workflows.Decimal.Reading

/-!
# Reading digits

* `Decimal.Digits`: texts that are nothing but digits; `natOfDigits_append`, `natOfDigits_toDigits`: their amounts;
* `ten_pow_le`, `length_toDigits_le`: how many digits a whole number has;
* `splitSign_digits`, `splitDigits_digits`: where signs and digits end;
* `readInt?_toString`: whole numbers are read as they are written;
* **`read?_point`**: the double that is read off a sign and digits with a point among them.
-/

namespace Workflows

namespace Decimal

/-- A text is nothing but digits. -/
def Digits (cs : List Char) : Prop := ∀ c ∈ cs, isDigit c

section

variable {cs ds rest : List Char}

theorem digits_toDigits (n : Nat) : Digits (Nat.toDigits 10 n) := fun _ mem => by
  have digit := Nat.isDigit_of_mem_toDigits (by decide) (by decide) mem
  simpa [isDigit, Char.isDigit, Char.le_def] using digit

theorem Digits.append (h : Digits cs) (h' : Digits ds) : Digits (cs ++ ds) :=
  List.forall_mem_append.2 ⟨h, h'⟩

theorem digits_zeros (n : Nat) : Digits (List.replicate n '0') := fun c mem => by
  rw [List.eq_of_mem_replicate mem]
  decide

/-! ## Amounts -/

theorem natOfDigits_append (cs ds : List Char) :
    natOfDigits (cs ++ ds) = natOfDigits cs * 10 ^ ds.length + natOfDigits ds := by
  have from_zero : natOfDigits (cs ++ ds) = Nat.ofDigitChars 10 ds (natOfDigits cs) :=
    Nat.ofDigitChars_append 0
  rw [from_zero, Nat.ofDigitChars_eq_ofDigitChars_zero, Nat.mul_comm]
  rfl

theorem natOfDigits_toDigits (n : Nat) : natOfDigits (Nat.toDigits 10 n) = n :=
  Nat.ofDigitChars_ten_toDigits

theorem natOfDigits_zeros (n : Nat) : natOfDigits (List.replicate n '0') = 0 :=
  Nat.ofDigitChars_replicate_zero

/-! ## Lengths -/

/-- The leading digit of a whole number is not zero. -/
theorem ten_pow_le {n : Nat} (pos : 0 < n) : 10 ^ ((Nat.toDigits 10 n).length - 1) ≤ n := by
  rcases Nat.eq_zero_or_pos ((Nat.toDigits 10 n).length - 1) with one | more
  · rw [one]
    exact pos
  · refine Nat.not_lt.1 fun less => ?_
    have fewer := (Nat.length_toDigits_le_iff (by decide) more).2 less
    omega

/-- A whole number has no more digits than bits. -/
theorem length_toDigits_le (n : Nat) : (Nat.toDigits 10 n).length ≤ n.log2 + 1 := by
  refine (Nat.length_toDigits_le_iff (by decide) (Nat.succ_pos _)).2 ?_
  calc n < 2 ^ (n.log2 + 1) := Nat.lt_log2_self
    _ ≤ 10 ^ (n.log2 + 1) := Nat.pow_le_pow_left (by decide) _

/-! ## Parts of a number -/

/-- Digits start with no sign. -/
theorem splitSign_digits (digits : Digits cs) (some : cs ≠ []) : splitSign (cs ++ rest) = (false, cs ++ rest) := by
  cases cs with
  | nil => exact absurd rfl some
  | cons c cs =>
    have digit := digits c List.mem_cons_self
    unfold splitSign
    split
    · next same => cases same; cases digit
    · next same => cases same; cases digit
    · rfl

/-- Digits end where none follows. -/
theorem splitDigits_digits (digits : Digits cs) (ends : ∀ c ∈ rest.head?, ¬ isDigit c) :
    splitDigits (cs ++ rest) = (cs, rest) := by
  have none : rest.takeWhile isDigit = [] := by
    cases rest with
    | nil => rfl
    | cons c rest => exact List.takeWhile_cons_of_neg (ends c rfl)
  have all : rest.dropWhile isDigit = rest := by
    cases rest with
    | nil => rfl
    | cons c rest => exact List.dropWhile_cons_of_neg (ends c rfl)
  rw [splitDigits, List.takeWhile_append_of_pos digits, List.dropWhile_append_of_pos digits, none, all,
    List.append_nil]

theorem readNat?_toDigits (n : Nat) : readNat? (Nat.toDigits 10 n) = some n := by
  have all : (Nat.toDigits 10 n).all isDigit := List.all_eq_true.2 (digits_toDigits n)
  rw [readNat?, all, natOfDigits_toDigits]
  simp

/-- Whole numbers are written with a sign and digits. -/
theorem toList_toString (n : Int) :
    (toString n).toList = (if n < 0 then ['-'] else []) ++ Nat.toDigits 10 n.natAbs := by
  cases n with
  | ofNat n => simp [Int.toString_eq_repr, Int.repr]
  | negSucc n => simp [Int.toString_eq_repr, Int.repr, Int.negSucc_lt_zero]

/-- Whole numbers are read as they are written. -/
theorem readInt?_toString (n : Int) : readInt? (toString n).toList = some n := by
  have digits : splitSign (Nat.toDigits 10 n.natAbs ++ []) = _ :=
    splitSign_digits (digits_toDigits n.natAbs) Nat.toDigits_ne_nil
  rw [List.append_nil] at digits
  rw [toList_toString, readInt?]
  by_cases negative : n < 0
  · have amount : -(n.natAbs : Int) = n := by omega
    simp only [negative, if_true, List.singleton_append, splitSign, readNat?_toDigits]
    exact congrArg some amount
  · have amount : (n.natAbs : Int) = n := by omega
    simp only [negative, if_false, List.nil_append, digits, readNat?_toDigits]
    exact congrArg some amount

/-- A whole number has no point. -/
theorem readInt?_of_point (point : '.' ∈ cs) : readInt? cs = none := by
  have digits : ∀ ds : List Char, '.' ∈ ds → readNat? ds = none := fun ds mem => by
    have all : ds.all isDigit = false := List.all_eq_false.2 ⟨'.', mem, by decide⟩
    rw [readNat?, all]
    simp
  have behind : '.' ∈ (splitSign cs).2 := by
    unfold splitSign
    split
    · simpa using point
    · simpa using point
    · exact point
  unfold readInt?
  generalize splitSign cs = p at behind ⊢
  obtain ⟨negative, rest⟩ := p
  dsimp only at behind ⊢
  rw [digits rest behind]
  rfl

/-- A number with a point among its digits, without its sign. -/
theorem splitDigits_point {whole places : List Char} (digits : Digits whole) (digits' : Digits places) :
    splitDigits (whole ++ '.' :: places) = (whole, '.' :: places) ∧ splitDigits places = (places, []) := by
  constructor
  · refine splitDigits_digits digits fun c mem => ?_
    cases mem
    decide
  · have last : splitDigits (places ++ []) = _ := splitDigits_digits digits' (by simp)
    rwa [List.append_nil] at last

/-- **What is read off a sign and digits with a point among them.** -/
theorem read?_point {whole places : List Char} (negative : Bool) (digits : Digits whole) (some : whole ≠ [])
    (digits' : Digits places) : read? ((if negative then ['-'] else []) ++ (whole ++ '.' :: places)) =
      let x := nearest (natOfDigits (whole ++ places)) (-places.length)
      .some (if negative then -x else x) := by
  have sign : splitSign ((if negative then ['-'] else []) ++ (whole ++ '.' :: places)) =
      (negative, whole ++ '.' :: places) := by
    cases negative with
    | true => rfl
    | false =>
      rw [if_neg Bool.false_ne_true, List.nil_append]
      exact splitSign_digits digits some
  obtain ⟨first, second⟩ := splitDigits_point digits digits'
  have written : whole.isEmpty = false := by simpa using some
  unfold read?
  simp only [sign, first, second, written, Bool.false_and, Bool.false_eq_true, if_false, readExponent?,
    Option.map_some, Int.zero_sub]

end

end Decimal

end Workflows
