import Workflows.Decimal.Written
import Workflows.Proofs.Decimal.Nearest
import Workflows.Proofs.Decimal.Shortest

/-!
# Written doubles read back

* `significant_eq`: the digits of a decimal are the significant ones and zeros;
* `Pointed`: a text is digits with a point among them, and has an amount; `Pointed.withPoint`: so are digits that a
  point is put into;
* `Layout.Positional`: a decimal is laid out without an exponent; `layOut_point`, `layOut_exponent`: how such decimals
  look, and the others;
* `exponent_mem_iff`: which doubles are written with an exponent;
* **`read?_realText`**: the others are read back.
-/

namespace Workflows

namespace Decimal

variable {d : Decimal} {ds : List Char}

/-! ## Significant digits -/

theorem significant_ne_nil (d : Decimal) : d.significant ≠ [] := by
  unfold significant
  dsimp only
  split
  · exact List.cons_ne_nil _ _
  · next some => simpa using some

theorem digits_significant (d : Decimal) : Digits d.significant := by
  have digits := digits_toDigits d.digits
  intro c mem
  unfold significant at mem
  dsimp only at mem
  split at mem
  · rw [List.mem_singleton.1 mem]
    decide
  · exact digits c (List.mem_reverse.1 ((List.dropWhile_sublist _).mem (List.mem_reverse.1 mem)))

/-- The digits of a decimal are the significant ones and zeros. -/
theorem significant_eq (some : 0 < d.digits) : ∃ n, d.digitChars = d.significant ++ List.replicate n '0' := by
  have parts := congrArg List.reverse (List.takeWhile_append_dropWhile (p := (· = '0')) (l := d.digitChars.reverse))
  rw [List.reverse_append, List.reverse_reverse] at parts
  have zeros : (d.digitChars.reverse.takeWhile (· = '0')).reverse =
      List.replicate (d.digitChars.reverse.takeWhile (· = '0')).length '0' := by
    rw [List.eq_replicate_iff, List.length_reverse]
    refine ⟨rfl, fun c mem => ?_⟩
    have zero := List.mem_takeWhile_imp (List.mem_reverse.1 mem)
    exact of_decide_eq_true zero
  refine ⟨(d.digitChars.reverse.takeWhile (· = '0')).length, ?_⟩
  rw [← zeros]
  unfold significant
  dsimp only
  rw [if_neg, parts]
  intro none
  -- A decimal with no digit but zeros is zero.
  rw [List.isEmpty_iff.1 none, List.nil_append, zeros] at parts
  have amount := natOfDigits_toDigits d.digits
  change natOfDigits d.digitChars = d.digits at amount
  rw [← parts, natOfDigits_zeros] at amount
  exact some.ne amount

/-! ## Digits with a point among them -/

/-- A text is digits with a point among them, and has an amount. -/
def Pointed (cs : List Char) (v : ℚ) : Prop :=
  ∃ whole places, cs = whole ++ '.' :: places ∧ Digits whole ∧ whole ≠ [] ∧ Digits places ∧
    (natOfDigits (whole ++ places) * 10 ^ (-places.length : ℤ) : ℚ) = v

theorem natOfDigits_zero_cons (ds : List Char) : natOfDigits ('0' :: ds) = natOfDigits ds := rfl

/-- So are digits that a point is put into after the first `n`. -/
theorem Pointed.withPoint (digits : Digits ds) (some : ds ≠ []) (n : ℕ) :
    Pointed (withPoint ds n) (natOfDigits ds * 10 ^ (n - ds.length : ℤ)) := by
  have ten : (10 : ℚ) ≠ 0 := by norm_num
  unfold Decimal.withPoint
  dsimp only
  rcases lt_or_ge n ds.length with inside | outside
  · have none : n - ds.length = 0 := by omega
    have places : (ds.drop n).isEmpty = false := by simpa using inside
    have length : ((ds.drop n).length : ℤ) = ds.length - n := by rw [List.length_drop]; omega
    rw [none, List.replicate_zero, List.append_nil, places]
    have digits' : Digits (ds.drop n) := fun c mem => digits c (List.mem_of_mem_drop mem)
    have exponent : (n - ds.length : ℤ) = -((ds.drop n).length : ℤ) := by omega
    by_cases first : (ds.take n).isEmpty
    · have zero : ds.drop n = ds := by
        have zero : n = 0 := by simpa [some] using first
        rw [zero, List.drop_zero]
      refine ⟨['0'], ds.drop n, by rw [if_pos first]; rfl, digits_zeros 1, List.cons_ne_nil _ _, digits', ?_⟩
      rw [exponent, zero, List.singleton_append, natOfDigits_zero_cons]
    · refine ⟨ds.take n, ds.drop n, by rw [if_neg first]; rfl, fun c mem => digits c (List.mem_of_mem_take mem),
        by simpa using first, digits', ?_⟩
      rw [exponent, List.take_append_drop]
  · have places : (ds.drop n).isEmpty = true := by simpa using outside
    have whole : (ds ++ List.replicate (n - ds.length) '0').isEmpty = false := by simp [some]
    rw [places, List.take_of_length_le outside, whole]
    refine ⟨ds ++ List.replicate (n - ds.length) '0', ['0'], rfl, digits.append (digits_zeros _),
      by simp [some], digits_zeros 1, ?_⟩
    have exponent : (n - ds.length : ℤ) = (n - ds.length : ℕ) := by omega
    have zero : natOfDigits ['0'] = 0 := rfl
    rw [natOfDigits_append, natOfDigits_append, natOfDigits_zeros, List.length_replicate, exponent, zpow_natCast,
      zero]
    simp

/-! ## Decimals laid out -/

/-- The exponent of the leading digit as it is laid out. -/
def shown (d : Decimal) : ℤ := if d.digits = 0 then 0 else d.leading

/-- A decimal is laid out with a point and no exponent. -/
def Layout.Positional (layout : Layout) (d : Decimal) : Prop := layout.least ≤ d.shown ∧ d.shown ≤ layout.greatest

/-- The amount of a decimal by its significant digits. -/
theorem amount_significant (d : Decimal) : (natOfDigits d.significant * 10 ^ (d.shown + 1 - d.significant.length) : ℚ) =
    d.digits * 10 ^ d.exponent := by
  rcases Nat.eq_zero_or_pos d.digits with none | some
  · have zero : d.significant = ['0'] := by
      unfold significant digitChars
      rw [none]
      rfl
    rw [zero, none]
    simp [show natOfDigits ['0'] = 0 from rfl]
  · obtain ⟨n, parts⟩ := significant_eq some
    have length := congrArg List.length parts
    rw [List.length_append, List.length_replicate] at length
    have whole : d.digits = natOfDigits d.significant * 10 ^ n := by
      have amount := natOfDigits_toDigits d.digits
      change natOfDigits d.digitChars = d.digits at amount
      rwa [parts, natOfDigits_append, natOfDigits_zeros, List.length_replicate, Nat.add_zero, eq_comm] at amount
    have place : d.shown + 1 - d.significant.length = n + d.exponent := by
      rw [shown, if_neg some.ne', leading, length]
      omega
    rw [place, whole, zpow_add₀ (by norm_num), zpow_natCast]
    push_cast
    ring

variable {layout : Layout}

/-- A decimal that is laid out with a point only is digits with a point among them. -/
theorem layOut_point (positional : layout.Positional d) :
    Pointed (d.layOut layout) (d.digits * 10 ^ d.exponent) := by
  have digits := d.digits_significant
  have some := d.significant_ne_nil
  have laid : d.layOut layout = if 0 ≤ d.shown then withPoint d.significant (d.shown.toNat + 1)
      else withPoint (List.replicate (-d.shown - 1).toNat '0' ++ d.significant) 0 := if_pos positional
  rw [← d.amount_significant, laid]
  split
  · next up =>
    have point := Pointed.withPoint digits some (d.shown.toNat + 1)
    have place : ((d.shown.toNat + 1 : ℕ) : ℤ) = d.shown + 1 := by omega
    rwa [place] at point
  · next down =>
    have point := Pointed.withPoint ((digits_zeros (-d.shown - 1).toNat).append digits) (by simp [some]) 0
    rw [natOfDigits_append, natOfDigits_zeros, List.length_append, List.length_replicate] at point
    have place : ((0 : ℕ) : ℤ) - ((-d.shown - 1).toNat + d.significant.length : ℕ) =
        d.shown + 1 - d.significant.length := by omega
    rwa [place, Nat.zero_mul, Nat.zero_add] at point

/-- Other decimals are laid out as a digit, perhaps a point and digits, and an exponent with its sign. -/
theorem layOut_exponent (beyond : ¬ layout.Positional d) :
    ∃ c cs sign more, d.layOut layout = c :: cs ++ 'e' :: sign :: more ∧ isDigit c ∧
      (∀ x ∈ cs, isDigit x ∨ x = '.') ∧ (sign = '+' ∨ sign = '-') := by
  have digits := d.digits_significant
  have some := d.significant_ne_nil
  have laid : d.layOut layout = d.significant.take 1 ++ (if (d.significant.drop 1).isEmpty then []
      else '.' :: d.significant.drop 1) ++ 'e' :: exponentText layout.exponentWidth d.shown := if_neg beyond
  rw [laid]
  generalize d.significant = ds at digits some
  cases ds with
  | nil => exact absurd rfl some
  | cons c ds =>
    refine ⟨c, if ds.isEmpty then [] else '.' :: ds, _, _, rfl, digits c List.mem_cons_self, fun x mem => ?_, ?_⟩
    · split at mem
      · cases mem
      · rcases List.mem_cons.1 mem with rfl | mem
        · exact .inr rfl
        · exact .inl (digits x (List.mem_cons_of_mem _ mem))
    · split <;> simp

/-! ## Doubles -/

variable {x : Float}

theorem toList_realText (layout : Layout) (x : Float) : (realText layout x).toList =
    (if negativeSign x then ['-'] else []) ++ (shortest x).layOut layout := String.toList_ofList

/-- A double has an exponent where it is written with an `e`. -/
theorem exponent_mem_iff : 'e' ∈ (realText layout x).toList ↔ ¬ layout.Positional (shortest x) := by
  constructor
  · intro exponent positional
    obtain ⟨whole, places, written, digits, -, digits', -⟩ := layOut_point positional
    have none : isDigit 'e' = false := by decide
    rw [toList_realText, written] at exponent
    simp only [List.mem_append, List.mem_cons] at exponent
    rcases exponent with sign | mem | same | mem
    · split at sign <;> simp at sign
    · rw [digits _ mem] at none
      cases none
    · cases same
    · rw [digits' _ mem] at none
      cases none
  · intro beyond
    obtain ⟨c, cs, sign, more, written, -⟩ := layOut_exponent beyond
    rw [toList_realText, written]
    simp

/-- **A double that is written without an exponent is read back.** -/
theorem read?_realText (finite : x.isFinite) (positional : layout.Positional (shortest x)) :
    read? (realText layout x).toList = some x := by
  obtain ⟨whole, places, written, digits, first, digits', amount⟩ := layOut_point positional
  rw [toList_realText, written, read?_point (negativeSign x) digits first digits']
  dsimp only
  rcases Nat.eq_zero_or_pos (Binary.ofFloat x).mantissa with none | some
  · have zero : shortest x = ⟨0, 0⟩ := if_pos none
    have zero : natOfDigits (whole ++ places) = 0 := by
      rw [zero] at amount
      simpa using amount
    rw [zero]
    exact congrArg Option.some (eq_zero none).symm
  · have c := Binary.canonical_ofFloat finite some
    have attracts := attracts_shortest some c.bits
    rw [← amount] at attracts
    have pos : 0 < natOfDigits (whole ++ places) := by
      refine Nat.pos_of_ne_zero fun zero => attracts.ne_zero some ?_
      rw [zero, Nat.cast_zero, zero_mul]
    rw [nearest_eq c pos attracts]
    have same := ofModel_pack_ofFloat finite some
    unfold signOf at same
    refine congrArg Option.some ?_
    split
    · next negative =>
      rw [if_pos negative] at same
      exact (neg_ofModel_pack c).trans same
    · next positive =>
      rw [if_neg positive] at same
      exact same

end Decimal

end Workflows
