import Mathlib
import Workflows.Decimal.Shortest

/-!
# Rounding to doubles

* `Represents`: what a mantissa and its residual bits say of an amount; `Represents.shiftRight`: it is kept when
  bits are dropped; `Represents.roundedMantissa_eq`: the mantissa is rounded to the nearest whole number;
* `Binary.Canonical`: the amount of a finite double that is not zero; `Binary.Attracts`: the amounts that are
  rounded to it;
* **`roundWithAccuracy_eq`**: these are rounded to it, where enough bits are known;
* `mul_eq`, `div_eq`: so are products and quotients.
-/

namespace Workflows

open Float.Model Float.Model.UnpackedFloat

/-! ## Mantissas with residual bits -/

/-- What a mantissa and its residual bits say of an amount in units of its last place: the round bit is a half,
and the sticky bit anything less. -/
def Represents (em : ExtendedMantissa) (u : ℚ) : Prop :=
  match em.roundBit, em.stickyBit with
  | false, false => u = em.mantissa
  | false, true => em.mantissa < u ∧ u < em.mantissa + 1 / 2
  | true, false => u = em.mantissa + 1 / 2
  | true, true => em.mantissa + 1 / 2 < u ∧ u < em.mantissa + 1

/-- A whole number is the nearest one to an amount, the even one of two. -/
def IsNearest (n : ℕ) (u : ℚ) : Prop :=
  n - 1 / 2 ≤ u ∧ u ≤ n + 1 / 2 ∧ (n % 2 = 1 → n - 1 / 2 < u ∧ u < n + 1 / 2)

namespace Represents

variable {em : ExtendedMantissa} {u : ℚ}

theorem bounds (h : Represents em u) : em.mantissa ≤ u ∧ u < em.mantissa + 1 := by
  obtain ⟨m, round, sticky⟩ := em
  cases round <;> cases sticky <;> simp only [Represents] at h ⊢ <;> constructor <;> linarith

theorem shiftRightOne (h : Represents em u) : Represents em.shiftRightOne (u / 2) := by
  obtain ⟨m, round, sticky⟩ := em
  have parts : (m : ℚ) = 2 * (m / 2 : ℕ) + (m % 2 : ℕ) := by exact_mod_cast (Nat.div_add_mod m 2).symm
  have one : ((1 : ℕ) != 0) = true := rfl
  rcases Nat.mod_two_eq_zero_or_one m with bit | bit <;> rw [bit] at parts <;>
    cases round <;> cases sticky <;> simp only [Represents] at h <;>
    simp only [Represents, ExtendedMantissa.shiftRightOne, bit, one, Nat.cast_zero, Nat.cast_one] at parts ⊢ <;>
    norm_num
  all_goals first | (constructor <;> linarith) | linarith

theorem shiftRight (h : Represents em u) (n : ℕ) : Represents (em >>> n) (u / 2 ^ n) := by
  change Represents (n.repeat ExtendedMantissa.shiftRightOne em) _
  induction n with
  | zero => simpa [Nat.repeat] using h
  | succ n ih =>
    rw [pow_succ, ← div_div]
    exact ih.shiftRightOne

/-- **The mantissa is rounded to the nearest whole number.** -/
theorem roundedMantissa_eq {n : ℕ} (h : Represents em u) (nearest : IsNearest n u) : em.roundedMantissa = n := by
  obtain ⟨lower, upper, strict⟩ := nearest
  have bounds := h.bounds
  obtain ⟨m, round, sticky⟩ := em
  have least : (m : ℚ) < n + 1 := by linarith
  have greatest : (n : ℚ) < m + 2 := by linarith
  have least : m < n + 1 := by exact_mod_cast least
  have greatest : n < m + 2 := by exact_mod_cast greatest
  -- The nearest whole number is the one below or the one above.
  obtain rfl | rfl : n = m ∨ n = m + 1 := by omega
  · cases round <;> cases sticky <;> simp only [Represents] at h <;>
      simp only [ExtendedMantissa.roundedMantissa, ExtendedMantissa.accuracy, Accuracy.roundToNearestEven]
    · rcases Nat.mod_two_eq_zero_or_one n with even | odd
      · omega
      · linarith [(strict odd).2]
    · linarith
  · push_cast at lower upper strict
    cases round <;> cases sticky <;> simp only [Represents] at h <;>
      simp only [ExtendedMantissa.roundedMantissa, ExtendedMantissa.accuracy, Accuracy.roundToNearestEven]
    · linarith
    · linarith
    · rcases Nat.mod_two_eq_zero_or_one m with even | odd
      · linarith [(strict (by omega)).1]
      · omega

end Represents

/-! ## Doubles -/

namespace Binary

/-- The amount of a finite double that is not zero. -/
structure Canonical (b : Binary) : Prop where
  pos : 0 < b.mantissa
  bits : b.mantissa < 2 ^ 53
  least : -1074 ≤ b.exponent
  greatest : b.exponent ≤ 971
  /-- Only the smallest doubles have less than 53 bits. -/
  normal : -1074 < b.exponent → 2 ^ 52 ≤ b.mantissa
  narrow : b.narrowBelow ↔ b.mantissa = 2 ^ 52 ∧ -1074 < b.exponent

/-- How far below a double amounts are rounded to it, in units of its last place. -/
def reach (b : Binary) : ℚ := if b.narrowBelow then 1 / 4 else 1 / 2

theorem reach_pos (b : Binary) : 0 < b.reach := by
  unfold reach
  split <;> norm_num

theorem reach_le (b : Binary) : b.reach ≤ 1 / 2 := by
  unfold reach
  split <;> norm_num

/-- An amount in units of the last place of a double. -/
def scaled (b : Binary) (v : ℚ) : ℚ := v / 2 ^ b.exponent

/-- An amount is rounded to a double: it is at most half a unit away from it, or a quarter where the doubles below
are closer; the ends belong to even mantissas. -/
def Attracts (b : Binary) (v : ℚ) : Prop :=
  b.mantissa - b.reach ≤ b.scaled v ∧ b.scaled v ≤ b.mantissa + 1 / 2 ∧
    (b.mantissa % 2 = 1 → b.mantissa - b.reach < b.scaled v ∧ b.scaled v < b.mantissa + 1 / 2)

end Binary

section

variable {b : Binary} {m : ℕ} {e : ℤ} {acc : Accuracy} {v : ℚ}

/-- The exponent of a double for a mantissa and an exponent. -/
theorem targetExponent_eq (m : ℕ) (e : ℤ) :
    Format.binary64.targetExponent (totalExponent m e) = max (m.log2 + e - 52) (-1074) := by
  simp only [Format.targetExponent, totalExponent, Format.mantissaBits, Format.minExponent]
  norm_num
  omega

/-- An amount is less than the power of two above its mantissa. -/
theorem Represents.lt_pow {em : ExtendedMantissa} {u : ℚ} (h : Represents em u) : u < 2 ^ (em.mantissa.log2 + 1) := by
  have above : em.mantissa + 1 ≤ 2 ^ (em.mantissa.log2 + 1) := Nat.lt_log2_self
  have above : (em.mantissa : ℚ) + 1 ≤ 2 ^ (em.mantissa.log2 + 1) := by exact_mod_cast above
  exact lt_of_lt_of_le h.bounds.2 above

theorem Represents.pow_le {em : ExtendedMantissa} {u : ℚ} (h : Represents em u) (some : em.mantissa ≠ 0) :
    2 ^ em.mantissa.log2 ≤ u := by
  have below : (2 : ℚ) ^ em.mantissa.log2 ≤ em.mantissa := by exact_mod_cast Nat.log2_self_le some
  exact below.trans h.bounds.1

theorem mantissa_ofMantissaAndAccuracy (m : ℕ) (acc : Accuracy) :
    (ExtendedMantissa.ofMantissaAndAccuracy m acc).mantissa = m := by
  cases acc with
  | exact => rfl
  | inexact order => cases order <;> rfl

theorem two_zpow_lt_iff {x y : ℤ} : (2 : ℚ) ^ x < 2 ^ y ↔ x < y := zpow_lt_zpow_iff_right₀ (by norm_num)

/-- An amount by its mantissa and exponent. -/
theorem Represents.amount (rep : Represents (.ofMantissaAndAccuracy m acc) (v / 2 ^ e)) :
    v < 2 ^ (m.log2 + 1 + e) ∧ (m ≠ 0 → 2 ^ (m.log2 + e) ≤ v) := by
  have unit : (0 : ℚ) < 2 ^ e := by positivity
  have below := rep.lt_pow
  have above := rep.pow_le
  rw [mantissa_ofMantissaAndAccuracy] at below above
  constructor
  · rw [div_lt_iff₀ unit, ← zpow_natCast, ← zpow_add₀ two_ne_zero] at below
    exact_mod_cast below
  · intro some
    have above := above some
    rw [le_div_iff₀ unit, ← zpow_natCast, ← zpow_add₀ two_ne_zero] at above
    exact above

/-- An amount by the double that attracts it. -/
theorem Binary.Attracts.amount (c : b.Canonical) (attracts : b.Attracts v) :
    v < 2 ^ (53 + b.exponent) ∧ (-1074 < b.exponent → 2 ^ (51 + b.exponent) ≤ v) ∧
      (2 ^ 52 < b.mantissa → 2 ^ (52 + b.exponent) ≤ v) := by
  have unit : (0 : ℚ) < 2 ^ b.exponent := by positivity
  obtain ⟨lower, upper, -⟩ := attracts
  have reach := b.reach_le
  have value : v = b.scaled v * 2 ^ b.exponent := (div_mul_cancel₀ v unit.ne').symm
  rw [value, zpow_add₀ two_ne_zero, zpow_add₀ two_ne_zero, zpow_add₀ two_ne_zero]
  refine ⟨mul_lt_mul_of_pos_right ?_ unit, fun above => mul_le_mul_of_nonneg_right ?_ unit.le,
    fun above => mul_le_mul_of_nonneg_right ?_ unit.le⟩
  · have bits : (b.mantissa : ℚ) + 1 ≤ 2 ^ 53 := by exact_mod_cast c.bits
    norm_num
    linarith
  · have normal : (2 : ℚ) ^ 52 ≤ b.mantissa := by exact_mod_cast c.normal above
    norm_num
    linarith
  · have above : (2 : ℚ) ^ 52 + 1 ≤ b.mantissa := by exact_mod_cast above
    norm_num
    linarith

/-- The exponent that an amount is rounded at is the one of the double that attracts it, but for amounts below a
power of two. -/
theorem Binary.Attracts.targetExponent (c : b.Canonical) (attracts : b.Attracts v)
    (rep : Represents (.ofMantissaAndAccuracy m acc) (v / 2 ^ e))
    (bits : e ≤ Format.binary64.targetExponent (totalExponent m e)) :
    Format.binary64.targetExponent (totalExponent m e) = b.exponent ∨
      Format.binary64.targetExponent (totalExponent m e) = b.exponent - 1 ∧ b.mantissa = 2 ^ 52 ∧
        -1074 < b.exponent := by
  obtain ⟨below, above⟩ := rep.amount
  obtain ⟨upper, lower, lower'⟩ := attracts.amount c
  have least := c.least
  have normal := c.normal
  rw [targetExponent_eq] at bits ⊢
  have most : m ≠ 0 → m.log2 + e < 53 + b.exponent := fun some =>
    two_zpow_lt_iff.1 ((above some).trans_lt upper)
  have fewest : -1074 < b.exponent → 51 + b.exponent < m.log2 + 1 + e := fun normal =>
    two_zpow_lt_iff.1 ((lower normal).trans_lt below)
  have fewest' : 2 ^ 52 < b.mantissa → 52 + b.exponent < m.log2 + 1 + e := fun more =>
    two_zpow_lt_iff.1 ((lower' more).trans_lt below)
  have none : m = 0 → m.log2 = 0 := by rintro rfl; rfl
  omega

/-! ### Rounding -/

/-- At the exponent of a double, the double's mantissa is the nearest whole number. -/
theorem Binary.Attracts.isNearest (attracts : b.Attracts v) : IsNearest b.mantissa (b.scaled v) := by
  obtain ⟨lower, upper, strict⟩ := attracts
  have reach := b.reach_le
  exact ⟨by linarith, upper, fun odd => ⟨by linarith [(strict odd).1], (strict odd).2⟩⟩

/-- Below a power of two, amounts are rounded up to it at the exponent of the doubles below. -/
theorem Binary.Attracts.isNearest_below (c : b.Canonical) (attracts : b.Attracts v) (power : b.mantissa = 2 ^ 52)
    (above : -1074 < b.exponent) (below : v < 2 ^ (52 + b.exponent)) :
    IsNearest (2 ^ 53) (v / 2 ^ (b.exponent - 1)) := by
  have unit : (0 : ℚ) < 2 ^ b.exponent := by positivity
  have reach : b.reach = 1 / 4 := if_pos (c.narrow.2 ⟨power, above⟩)
  have twice : v / 2 ^ (b.exponent - 1) = 2 * b.scaled v := by
    rw [Binary.scaled, zpow_sub₀ two_ne_zero]
    field_simp
  have small : b.scaled v < 2 ^ 52 := by
    rw [Binary.scaled, div_lt_iff₀ unit]
    rwa [zpow_add₀ two_ne_zero] at below
  have lower := attracts.1
  rw [reach, power] at lower
  rw [twice]
  push_cast at lower ⊢
  refine ⟨by linarith, by linarith, fun odd => absurd odd (by norm_num)⟩

/-- Bits are dropped up to the exponent that is aimed at. -/
theorem shiftToTargetExponent_eq (m : ℕ) (e : ℤ) (acc : Accuracy)
    (bits : e ≤ Format.binary64.targetExponent (totalExponent m e)) :
    shiftToTargetExponent Format.binary64 m e acc =
      (ExtendedMantissa.ofMantissaAndAccuracy m acc >>> (Format.binary64.targetExponent (totalExponent m e) - e).toNat,
        Format.binary64.targetExponent (totalExponent m e)) := by
  have sum : e + ((Format.binary64.targetExponent (totalExponent m e) - e).toNat : ℤ) =
      Format.binary64.targetExponent (totalExponent m e) := by omega
  exact Prod.ext rfl sum

/-- A mantissa that is not too long is left alone. -/
theorem shiftToTargetExponent_fits (short : m < 2 ^ 53) (least : -1074 ≤ e) :
    shiftToTargetExponent Format.binary64 m e .exact = (⟨m, false, false⟩, e) := by
  have log : m.log2 < 53 := by
    rcases Nat.eq_zero_or_pos m with rfl | pos
    · decide
    · exact (Nat.log2_lt pos.ne').2 short
  have none : (Format.binary64.targetExponent (totalExponent m e) - e).toNat = 0 := by
    rw [targetExponent_eq]
    omega
  unfold shiftToTargetExponent shiftToExponent
  dsimp only
  rw [none]
  exact Prod.ext rfl (Int.add_zero e)

/-- A mantissa that was rounded up to one bit more loses it. -/
theorem shiftToTargetExponent_carry (least : -1074 ≤ e) :
    shiftToTargetExponent Format.binary64 (2 ^ 53) e .exact = (⟨2 ^ 52, false, false⟩, e + 1) := by
  have one : (Format.binary64.targetExponent (totalExponent (2 ^ 53) e) - e).toNat = 1 := by
    rw [targetExponent_eq, Nat.log2_two_pow]
    omega
  unfold shiftToTargetExponent shiftToExponent
  dsimp only
  rw [one]
  rfl

/-- **Amounts that a double attracts are rounded to it**, where enough bits of them are known. -/
theorem roundWithAccuracy_eq (sign : Sign) (c : b.Canonical) (attracts : b.Attracts v)
    (rep : Represents (.ofMantissaAndAccuracy m acc) (v / 2 ^ e))
    (bits : e ≤ Format.binary64.targetExponent (totalExponent m e)) :
    roundWithAccuracy Format.binary64 sign m e acc = .finite sign b.mantissa b.exponent c.pos := by
  have dropped := rep.shiftRight (Format.binary64.targetExponent (totalExponent m e) - e).toNat
  rw [div_div, ← zpow_natCast, ← zpow_add₀ two_ne_zero, Int.toNat_of_nonneg (by omega),
    add_sub_cancel] at dropped
  have least := c.least
  unfold roundWithAccuracy
  rw [shiftToTargetExponent_eq m e acc bits]
  dsimp only
  rcases attracts.targetExponent c rep bits with same | ⟨less, power, above⟩
  · rw [same] at dropped ⊢
    have rounded := dropped.roundedMantissa_eq attracts.isNearest
    rw [rounded, shiftToTargetExponent_fits c.bits least]
    exact dif_neg c.pos.ne'
  -- Below a power of two there is one bit more, and rounding up to the power drops it again.
  · have below : v < 2 ^ (52 + b.exponent) := by
      refine rep.amount.1.trans_le (zpow_le_zpow_right₀ (by norm_num) ?_)
      rw [targetExponent_eq] at less
      omega
    rw [less] at dropped ⊢
    have rounded := dropped.roundedMantissa_eq (attracts.isNearest_below c power above below)
    rw [rounded, shiftToTargetExponent_carry (by omega), sub_add_cancel]
    simp only [power]
    rfl

/-! ### Products and quotients -/

variable {m₁ m₂ : ℕ} {e₁ e₂ : ℤ}

/-- A product that a double attracts is rounded to it. -/
theorem mul_eq (c : b.Canonical) (pos₁ : 0 < m₁) (pos₂ : 0 < m₂)
    (attracts : b.Attracts (m₁ * 2 ^ e₁ * (m₂ * 2 ^ e₂))) (long : 2 ^ 52 ≤ m₁ * m₂) :
    UnpackedFloat.mul Format.binary64 (.finite .positive m₁ e₁ pos₁) (.finite .positive m₂ e₂ pos₂) =
      .finite .positive b.mantissa b.exponent c.pos := by
  refine roundWithAccuracy_eq _ c attracts ?_ ?_
  · change _ / 2 ^ (e₁ + e₂) = ((m₁ * m₂ : ℕ) : ℚ)
    rw [zpow_add₀ two_ne_zero]
    push_cast
    field_simp
  · have log : 52 ≤ (m₁ * m₂).log2 := (Nat.le_log2 (Nat.mul_pos pos₁ pos₂).ne').2 long
    rw [targetExponent_eq]
    omega

/-- What is left of a division says how far the quotient is off. -/
theorem represents_quotient (m : ℕ) (pos : 0 < m₂) :
    Represents (.ofMantissaAndAccuracy (m / m₂) (accuracyOfFraction (m % m₂) m₂)) (m / m₂) := by
  have whole : (m : ℚ) = m₂ * (m / m₂ : ℕ) + (m % m₂ : ℕ) := by exact_mod_cast (Nat.div_add_mod m m₂).symm
  have pos' : (0 : ℚ) < m₂ := by exact_mod_cast pos
  have value : (m : ℚ) / m₂ = (m / m₂ : ℕ) + (m % m₂ : ℕ) / m₂ := by
    rw [whole]
    field_simp
  have less : ((m % m₂ : ℕ) : ℚ) / m₂ < 1 := by
    rw [div_lt_one pos']
    exact_mod_cast Nat.mod_lt m pos
  rw [value]
  generalize m / m₂ = q
  generalize m % m₂ = r at less ⊢
  unfold accuracyOfFraction
  split
  · next none => simp [Represents, ExtendedMantissa.ofMantissaAndAccuracy, none]
  · next some =>
    have some : (0 : ℚ) < r / m₂ := div_pos (by exact_mod_cast Nat.pos_of_ne_zero some) pos'
    rcases half : compare (2 * r) m₂ with _ | _ | _ <;>
      simp only [Represents, ExtendedMantissa.ofMantissaAndAccuracy]
    · have half : 2 * (r : ℚ) < m₂ := by exact_mod_cast Nat.compare_eq_lt.1 half
      have half : (r : ℚ) / m₂ < 1 / 2 := by
        rw [div_lt_div_iff₀ pos' two_pos]
        linarith
      constructor <;> linarith
    · have half : 2 * (r : ℚ) = m₂ := by exact_mod_cast Nat.compare_eq_eq.1 half
      rw [← half]
      field_simp
    · have half : (m₂ : ℚ) < 2 * r := by exact_mod_cast Nat.compare_eq_gt.1 half
      have half : 1 / 2 < (r : ℚ) / m₂ := by
        rw [div_lt_div_iff₀ two_pos pos']
        linarith
      constructor <;> linarith

/-- A quotient has 53 bits where the dividend has as many more than the divisor. -/
theorem le_log2_quotient {k : ℕ} (pos₁ : 0 < m₁) (pos₂ : 0 < m₂) (room : m₂.log2 + 53 ≤ m₁.log2 + k) :
    52 ≤ (m₁ * 2 ^ k / m₂).log2 := by
  have quotient : 2 ^ 52 ≤ m₁ * 2 ^ k / m₂ := by
    rw [Nat.le_div_iff_mul_le pos₂]
    calc 2 ^ 52 * m₂ ≤ 2 ^ 52 * 2 ^ (m₂.log2 + 1) := Nat.mul_le_mul_left _ Nat.lt_log2_self.le
      _ = 2 ^ (m₂.log2 + 53) := by rw [← pow_add]; congr 1; omega
      _ ≤ 2 ^ (m₁.log2 + k) := Nat.pow_le_pow_right two_pos room
      _ = 2 ^ m₁.log2 * 2 ^ k := pow_add _ _ _
      _ ≤ m₁ * 2 ^ k := Nat.mul_le_mul_right _ (Nat.log2_self_le pos₁.ne')
  exact (Nat.le_log2 (by omega)).2 quotient

/-- A quotient that a double attracts is rounded to it. -/
theorem div_eq (c : b.Canonical) (pos₁ : 0 < m₁) (pos₂ : 0 < m₂)
    (attracts : b.Attracts (m₁ * 2 ^ e₁ / (m₂ * 2 ^ e₂))) :
    UnpackedFloat.div Format.binary64 (.finite .positive m₁ e₁ pos₁) (.finite .positive m₂ e₂ pos₂) =
      .finite .positive b.mantissa b.exponent c.pos := by
  have fine : Format.binary64.targetExponent (totalExponent m₁ e₁ - totalExponent m₂ e₂) =
      max (m₁.log2 + e₁ - (m₂.log2 + e₂) - 53) (-1074) := by
    simp only [Format.targetExponent, totalExponent, Format.mantissaBits, Format.minExponent]
    norm_num
    omega
  unfold UnpackedFloat.div divCore
  dsimp only
  generalize target : min (e₁ - e₂) (Format.binary64.targetExponent (totalExponent m₁ e₁ - totalExponent m₂ e₂)) = d
  rw [fine] at target
  obtain ⟨k, shift⟩ : ∃ k : ℕ, e₁ - e₂ = d + k := ⟨(e₁ - e₂ - d).toNat, by omega⟩
  have amount : (e₁ - e₂ - d).toNat = k := by omega
  rw [amount, Nat.shiftLeft_eq]
  refine roundWithAccuracy_eq _ c attracts ?_ ?_
  · have quotient := represents_quotient (m₁ * 2 ^ k) pos₂
    have same : (m₁ * 2 ^ e₁ / (m₂ * 2 ^ e₂) / 2 ^ d : ℚ) = ((m₁ * 2 ^ k : ℕ) : ℚ) / m₂ := by
      have sum : (2 : ℚ) ^ e₁ = 2 ^ e₂ * 2 ^ d * 2 ^ k := by
        rw [← zpow_natCast, ← zpow_add₀ two_ne_zero, ← zpow_add₀ two_ne_zero]
        congr 1
        omega
      rw [sum]
      push_cast
      field_simp
    rwa [same]
  · rw [targetExponent_eq]
    have long : -1074 < d → 52 ≤ (m₁ * 2 ^ k / m₂).log2 := fun above =>
      le_log2_quotient pos₁ pos₂ (by omega)
    omega

end

end Workflows
