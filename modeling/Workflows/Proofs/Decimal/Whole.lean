import Workflows.Decimal.Written
import Workflows.Proofs.Decimal.Nearest
import Workflows.Proofs.Decimal.Order

/-!
# Whole numbers as doubles

* `isNearest_roundDiv`, `IsNearest.mono`: quotients are rounded to the nearest whole number, and in order;
* `roundNat`, `roundInt`: whole numbers rounded to 53 bits; `roundInt_of_le`, `roundInt_mono`: those of few bits stay
  as they are, and all stay in order;
* `exists_attracts`: a whole number is attracted by the double of what it is rounded to;
* **`amountOf_ofInt`**: so this is the amount that it has as a double; `ofInt_ne_nan`: a number of any size is no NaN.
-/

namespace Workflows

open Float.Model Float.Model.UnpackedFloat

variable {b : Binary} {m n : ℕ} {i j : ℤ} {x : Float}

/-! ## Rounded quotients -/

/-- A quotient is rounded to the nearest whole number. -/
theorem isNearest_roundDiv (num den : ℕ) (pos : 0 < den) : IsNearest (Decimal.roundDiv num den) (num / den) := by
  have unit : (0 : ℚ) < den := by exact_mod_cast pos
  have parts : ((num / den : ℕ) * den + (num % den : ℕ) : ℚ) = num := by exact_mod_cast Nat.div_add_mod' num den
  have rest : ((num % den : ℕ) : ℚ) < den := by exact_mod_cast Nat.mod_lt num pos
  have some : (0 : ℚ) ≤ (num % den : ℕ) := Nat.cast_nonneg _
  unfold Decimal.roundDiv IsNearest
  rw [le_div_iff₀ unit, div_le_iff₀ unit, lt_div_iff₀ unit, div_lt_iff₀ unit]
  dsimp only
  split
  · next down =>
    have half : 2 * ((num % den : ℕ) : ℚ) ≤ den := by
      have : 2 * (num % den) ≤ den := by omega
      exact_mod_cast this
    refine ⟨by linarith, by linarith, fun odd => ?_⟩
    have half : 2 * ((num % den : ℕ) : ℚ) < den := by
      have : 2 * (num % den) < den := by omega
      exact_mod_cast this
    exact ⟨by linarith, by linarith⟩
  · next up =>
    have half : den ≤ 2 * ((num % den : ℕ) : ℚ) := by
      have : den ≤ 2 * (num % den) := by omega
      exact_mod_cast this
    push_cast
    refine ⟨by linarith, by linarith, fun odd => ?_⟩
    have half : den < 2 * ((num % den : ℕ) : ℚ) := by
      have : den < 2 * (num % den) := by omega
      exact_mod_cast this
    exact ⟨by linarith, by linarith⟩

/-- Rounding to the nearest whole number keeps the order. -/
theorem IsNearest.mono {u v : ℚ} (h : IsNearest m u) (h' : IsNearest n v) (le : u ≤ v) : m ≤ n := by
  by_contra more
  obtain ⟨lower, -, strict⟩ := h
  obtain ⟨-, upper, strict'⟩ := h'
  have next : (n : ℚ) + 1 ≤ m := by exact_mod_cast Nat.lt_of_not_le more
  -- Both lie in the middle between two whole numbers, of which one is odd.
  have same : (m : ℚ) = (n + 1 : ℕ) := by
    push_cast
    linarith
  obtain rfl : m = n + 1 := by exact_mod_cast same
  push_cast at lower strict
  rcases Nat.mod_two_eq_zero_or_one n with even | odd
  · linarith [(strict (by omega)).1]
  · linarith [(strict' odd).2]

/-! ## Whole numbers of 53 bits -/

/-- How many bits of a whole number do not fit into a double. -/
def excess (n : ℕ) : ℕ := n.log2 - 52

/-- A whole number rounded to 53 bits, a half to the even neighbour. -/
def roundNat (n : ℕ) : ℕ := Decimal.roundDiv n (2 ^ excess n) * 2 ^ excess n

theorem excess_eq_zero (bits : n < 2 ^ 53) : excess n = 0 := by
  rcases Nat.eq_zero_or_pos n with rfl | pos
  · decide
  · have := (Nat.log2_lt pos.ne').2 bits
    unfold excess
    omega

theorem isNearest_excess (n : ℕ) : IsNearest (Decimal.roundDiv n (2 ^ excess n)) (n / 2 ^ excess n) := by
  have nearest := isNearest_roundDiv n (2 ^ excess n) (by positivity)
  rwa [Nat.cast_pow, Nat.cast_two] at nearest

/-- A long number has 53 bits before those in excess. -/
theorem bits_of_long (long : 52 ≤ n.log2) :
    (2 : ℚ) ^ 52 ≤ n / 2 ^ excess n ∧ (n : ℚ) / 2 ^ excess n < 2 ^ 53 := by
  have pos : n ≠ 0 := by
    rintro rfl
    simp at long
  have unit : (0 : ℚ) < 2 ^ excess n := by positivity
  have lower : 52 + excess n = n.log2 := by unfold excess; omega
  have upper : 53 + excess n = n.log2 + 1 := by omega
  rw [le_div_iff₀ unit, div_lt_iff₀ unit, ← pow_add, ← pow_add, lower, upper]
  exact ⟨by exact_mod_cast Nat.log2_self_le pos, by exact_mod_cast Nat.lt_log2_self⟩

theorem roundDiv_of_long (long : 52 ≤ n.log2) :
    2 ^ 52 ≤ Decimal.roundDiv n (2 ^ excess n) ∧ Decimal.roundDiv n (2 ^ excess n) ≤ 2 ^ 53 := by
  obtain ⟨least, most⟩ := bits_of_long long
  obtain ⟨lower, upper, -⟩ := isNearest_excess n
  generalize Decimal.roundDiv n (2 ^ excess n) = q at *
  have above : (2 ^ 52 : ℚ) < q + 1 := by linarith
  have below : (q : ℚ) < 2 ^ 53 + 1 := by linarith
  have above : 2 ^ 52 < q + 1 := by exact_mod_cast above
  have below : q < 2 ^ 53 + 1 := by exact_mod_cast below
  omega

theorem roundNat_of_lt (bits : n < 2 ^ 53) : roundNat n = n := by
  rw [roundNat, excess_eq_zero bits]
  simp [Decimal.roundDiv, Nat.mod_one]

/-- Whole numbers up to `2 ^ 53` stay as they are. -/
theorem roundNat_of_le (bits : n ≤ 2 ^ 53) : roundNat n = n := by
  rcases bits.lt_or_eq with less | rfl
  · exact roundNat_of_lt less
  · decide +kernel

/-- A number is rounded to one between the powers of two around it. -/
theorem roundNat_bounds (pos : 0 < n) : 2 ^ n.log2 ≤ roundNat n ∧ roundNat n ≤ 2 ^ (n.log2 + 1) := by
  by_cases long : 52 ≤ n.log2
  · obtain ⟨least, most⟩ := roundDiv_of_long long
    have lower : n.log2 = 52 + excess n := by unfold excess; omega
    have upper : n.log2 + 1 = 53 + excess n := by omega
    rw [upper, lower, pow_add, pow_add, roundNat]
    exact ⟨Nat.mul_le_mul_right _ least, Nat.mul_le_mul_right _ most⟩
  · have bits : n < 2 ^ 53 := (Nat.log2_lt pos.ne').1 (by omega)
    rw [roundNat_of_lt bits]
    exact ⟨Nat.log2_self_le pos.ne', Nat.lt_log2_self.le⟩

theorem roundNat_mono (le : m ≤ n) : roundNat m ≤ roundNat n := by
  rcases Nat.eq_zero_or_pos m with rfl | pos
  · exact Nat.zero_le _
  have pos' : 0 < n := by omega
  have logs : m.log2 ≤ n.log2 := (Nat.le_log2 pos'.ne').2 ((Nat.log2_self_le pos.ne').trans le)
  rcases logs.lt_or_eq with less | same
  · calc roundNat m ≤ 2 ^ (m.log2 + 1) := (roundNat_bounds pos).2
      _ ≤ 2 ^ n.log2 := Nat.pow_le_pow_right two_pos less
      _ ≤ roundNat n := (roundNat_bounds pos').1
  · have places : excess m = excess n := by rw [excess, excess, same]
    have nearest := isNearest_excess m
    rw [places] at nearest
    rw [roundNat, roundNat, places]
    refine Nat.mul_le_mul_right _ (nearest.mono (isNearest_excess n) ?_)
    gcongr

/-- A whole number rounded to 53 bits. -/
def roundInt (i : ℤ) : ℤ := if i < 0 then -roundNat i.natAbs else roundNat i.natAbs

theorem roundInt_natCast (n : ℕ) : roundInt n = roundNat n := if_neg (by omega)

/-- **Whole numbers of at most 53 bits stay as they are**, -/
theorem roundInt_of_le (bits : i.natAbs ≤ 2 ^ 53) : roundInt i = i := by
  rw [roundInt, roundNat_of_le bits]
  omega

/-- **and all stay in order.** -/
theorem roundInt_mono (le : i ≤ j) : roundInt i ≤ roundInt j := by
  unfold roundInt
  split <;> split
  · have := roundNat_mono (show j.natAbs ≤ i.natAbs by omega)
    omega
  · omega
  · omega
  · have := roundNat_mono (show i.natAbs ≤ j.natAbs by omega)
    omega

/-! ## Their doubles -/

/-- The amount of 53 bits and places behind them. -/
def Binary.ofBits (q k : ℕ) : Binary := ⟨q, k, q = 2 ^ 52⟩

section

variable {q k : ℕ} {v : ℚ}

theorem Binary.canonical_ofBits (long : 2 ^ 52 ≤ q) (bits : q < 2 ^ 53) (few : k ≤ 971) :
    (Binary.ofBits q k).Canonical := by
  refine ⟨by change 0 < q; omega, bits, by change -1074 ≤ (k : ℤ); omega, by change (k : ℤ) ≤ 971; omega,
    fun _ => long, ?_⟩
  change decide (q = 2 ^ 52) = true ↔ q = 2 ^ 52 ∧ -1074 < (k : ℤ)
  rw [decide_eq_true_eq]
  omega

theorem Binary.scaled_ofBits : (Binary.ofBits q k).scaled v = v / 2 ^ k := by
  rw [Binary.scaled, Binary.ofBits, zpow_natCast]

theorem Binary.amount_ofBits : (Binary.ofBits q k).amount = q * 2 ^ k := by
  rw [Binary.amount, Binary.ofBits, zpow_natCast]

theorem Binary.reach_ofBits : (Binary.ofBits q k).reach = if q = 2 ^ 52 then 1 / 4 else 1 / 2 := by
  simp only [Binary.reach, Binary.ofBits, decide_eq_true_eq]

theorem Binary.attracts_ofBits (least : 2 ^ 52 ≤ v / 2 ^ k) (nearest : IsNearest q (v / 2 ^ k)) :
    (Binary.ofBits q k).Attracts v := by
  obtain ⟨lower, upper, strict⟩ := nearest
  unfold Binary.Attracts
  rw [Binary.scaled_ofBits, Binary.reach_ofBits]
  by_cases power : q = 2 ^ 52
  · subst power
    rw [if_pos rfl]
    change ((2 ^ 52 : ℕ) : ℚ) - 1 / 4 ≤ _ ∧ _ ≤ ((2 ^ 52 : ℕ) : ℚ) + 1 / 2 ∧ _
    push_cast at upper ⊢
    exact ⟨by linarith, upper, fun (odd : 2 ^ 52 % 2 = 1) => absurd odd (by decide)⟩
  · rw [if_neg power]
    exact ⟨lower, upper, strict⟩

/-- What is rounded up to one bit more is attracted by the next power of two. -/
theorem Binary.attracts_carry (most : v / 2 ^ k < 2 ^ 53) (nearest : IsNearest (2 ^ 53) (v / 2 ^ k)) :
    (Binary.ofBits (2 ^ 52) (k + 1)).Attracts v := by
  have halved : v / 2 ^ (k + 1) = v / 2 ^ k / 2 := by rw [pow_succ, div_div]
  have lower := nearest.1
  push_cast at lower
  unfold Binary.Attracts
  rw [Binary.scaled_ofBits, Binary.reach_ofBits, if_pos rfl, halved]
  change ((2 ^ 52 : ℕ) : ℚ) - 1 / 4 ≤ _ ∧ _ ≤ ((2 ^ 52 : ℕ) : ℚ) + 1 / 2 ∧ _
  push_cast
  exact ⟨by linarith, by linarith, fun (odd : 2 ^ 52 % 2 = 1) => absurd odd (by decide)⟩

end

/-- **A whole number is attracted by the double of what it is rounded to.** -/
theorem exists_attracts (pos : 0 < n) (few : n.log2 < 1023) :
    ∃ b : Binary, b.Canonical ∧ b.Attracts n ∧ b.amount = roundNat n := by
  by_cases long : 52 ≤ n.log2
  · have nearest := isNearest_excess n
    have places : excess n < 971 := by unfold excess; omega
    obtain ⟨least, most⟩ := roundDiv_of_long long
    obtain ⟨some, below⟩ := bits_of_long long
    rw [roundNat, Nat.cast_mul, Nat.cast_pow, Nat.cast_two]
    rcases most.lt_or_eq with short | carry
    · exact ⟨_, Binary.canonical_ofBits least short places.le, Binary.attracts_ofBits some nearest,
        Binary.amount_ofBits⟩
    · rw [carry] at nearest ⊢
      refine ⟨_, Binary.canonical_ofBits (k := excess n + 1) (le_refl (2 ^ 52)) (by norm_num) places,
        Binary.attracts_carry below nearest, ?_⟩
      rw [Binary.amount_ofBits, pow_succ]
      push_cast
      ring
  · have short : n < 2 ^ 53 := (Nat.log2_lt pos.ne').1 (by omega)
    refine ⟨_, Binary.canonical_ofNat pos short, ?_, ?_⟩
    · have attracts := Binary.attracts_self (Binary.ofNat n)
      rwa [Binary.ofNat_amount pos short] at attracts
    · rw [roundNat_of_lt short, ← Binary.ofNat_amount pos short, Binary.amount]

/-- A decimal without places is read as a whole number. -/
theorem nearest_zero (few : (Nat.toDigits 10 n).length ≤ 400) : Decimal.nearest n 0 = Float.ofNat n := by
  unfold Decimal.nearest
  dsimp only
  split
  · next none =>
    subst none
    decide +kernel
  · rw [if_neg (by omega), if_neg (by omega)]
    rfl

theorem ofNat_eq (c : b.Canonical) (pos : 0 < n) (attracts : b.Attracts n) : Float.ofNat n = c.toFloat := by
  have scaled : b.Attracts (n * 10 ^ (0 : ℤ)) := by rwa [zpow_zero, mul_one]
  have few := (scaled.size c pos).2
  rw [← Decimal.nearest_eq c pos scaled, nearest_zero (by omega)]

theorem isFinite_of_unpack {sign : Sign} {pos : 0 < m} (unpacked : x.toModel.unpack = .finite sign m i pos) :
    x.isFinite := by
  change x.toModel.unpack.isFinite = true
  rw [unpacked]
  rfl

/-- **A whole number has as a double the amount that it is rounded to.** -/
theorem amountOf_ofInt (few : i.natAbs.log2 < 1023) :
    (Float.ofInt i).isFinite ∧ amountOf (Float.ofInt i) = roundInt i := by
  cases i with
  | ofNat n =>
    rw [Int.ofNat_eq_natCast, Int.natAbs_natCast] at few
    rw [Int.ofNat_eq_natCast, roundInt_natCast]
    change (Float.ofNat n).isFinite ∧ amountOf (Float.ofNat n) = _
    rcases Nat.eq_zero_or_pos n with rfl | pos
    · have none : (Binary.ofFloat (Float.ofNat 0)).mantissa = 0 := by decide +kernel
      exact ⟨by decide +kernel, congrArg unpackedAmount (unpack_of_mantissa_eq_zero none)⟩
    · obtain ⟨b, c, attracts, amount⟩ := exists_attracts pos few
      rw [ofNat_eq c pos attracts, Int.cast_natCast, ← amount]
      exact ⟨isFinite_of_unpack c.unpack_toFloat, congrArg unpackedAmount c.unpack_toFloat⟩
  | negSucc n =>
    have pos : 0 < n + 1 := Nat.succ_pos n
    have rounded : roundInt (Int.negSucc n) = -roundNat (n + 1) := if_pos (Int.negSucc_lt_zero n)
    obtain ⟨b, c, attracts, amount⟩ := exists_attracts pos few
    change (-Float.ofNat (n + 1)).isFinite ∧ amountOf (-Float.ofNat (n + 1)) = _
    rw [ofNat_eq c pos attracts, Binary.Canonical.toFloat, neg_ofModel_pack c, rounded, Int.cast_neg,
      Int.cast_natCast, ← amount]
    exact ⟨isFinite_of_unpack (unpack_pack c), congrArg unpackedAmount (unpack_pack c)⟩

/-! ## No NaN -/

theorem ofNat_ne_nan (n : ℕ) : (Float.ofNat n).toModel.unpack ≠ .notANumber := by
  by_cases few : n.log2 < 1023
  · exact ne_nan_of_isFinite (amountOf_ofInt (i := n) few).1
  · have pos : n ≠ 0 := by
      rintro rfl
      exact few (by decide)
    have long : ¬ (n < 2 ^ 53 ∧ 0 ≤ 22) := fun short => by
      have := (Nat.log2_lt pos).2 short.1
      omega
    have least : ¬ (0 : ℤ) < -((2 ^ Format.binary64.exponentBits : ℤ) + n.log2) := by
      change ¬ (0 : ℤ) < -(2 ^ 11 + (n.log2 : ℤ))
      omega
    change (Float.ofScientific n false 0).toModel.unpack ≠ _
    rw [Float.ofScientific, dif_neg long]
    refine unpack_pack_ne_nan (u := UnpackedFloat.ofScientific Format.binary64 n 0) ?_
    unfold UnpackedFloat.ofScientific
    rw [dif_neg pos, if_neg (by decide), if_neg least, if_pos (le_refl 0)]
    exact mul_ne_nan

/-- **No whole number becomes a NaN**, however large it is. -/
theorem ofInt_ne_nan (i : ℤ) : (Float.ofInt i).toModel.unpack ≠ .notANumber := by
  cases i with
  | ofNat n => exact ofNat_ne_nan n
  | negSucc n =>
    have some := ofNat_ne_nan (n + 1)
    refine unpack_pack_ne_nan (u := (Float.ofNat (n + 1)).toModel.unpack.neg) ?_
    generalize (Float.ofNat (n + 1)).toModel.unpack = u at some ⊢
    cases u with
    | notANumber => exact absurd rfl some
    | _ => nofun

end Workflows
