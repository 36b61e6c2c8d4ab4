import Workflows.Decimal.Reading
import Workflows.Proofs.Decimal.Bits
import Workflows.Proofs.Decimal.Digits

/-!
# The nearest double

* `Binary.attracts_self`: a double's own amount is rounded to it; `Binary.ofNat`, `toFloat_eq`: so are whole
  numbers of 53 bits;
* `powers_exact`: the powers of ten that are doubles;
* `ofScientific_fast`, `ofScientific_slow`: decimals are turned into doubles by arithmetic on doubles or on whole
  numbers;
* **`Decimal.nearest_eq`**: decimals are turned into the double that attracts them.
-/

namespace Workflows

open Float.Model Float.Model.UnpackedFloat

/-- The positive double of a canonical amount. -/
def Binary.Canonical.toFloat {b : Binary} (c : b.Canonical) : Float :=
  Float.ofModel (Float.Model.pack (.finite .positive b.mantissa b.exponent c.pos))

section

variable {b : Binary} {m : ℕ} {e : ℤ}

/-- A double's own amount is rounded to it. -/
theorem Binary.attracts_self (b : Binary) : b.Attracts (b.mantissa * 2 ^ b.exponent) := by
  have unit : (2 : ℚ) ^ b.exponent ≠ 0 := by positivity
  have scaled : b.scaled (b.mantissa * 2 ^ b.exponent) = b.mantissa := mul_div_cancel_right₀ _ unit
  have reach := b.reach_pos
  unfold Binary.Attracts
  rw [scaled]
  exact ⟨by linarith, by linarith, fun _ => ⟨by linarith, by linarith⟩⟩

/-! ## Whole numbers -/

/-- The amount of a whole number of at most 53 bits. -/
def Binary.ofNat (n : ℕ) : Binary :=
  ⟨n * 2 ^ (52 - n.log2), (n.log2 : ℤ) - 52, n * 2 ^ (52 - n.log2) = 2 ^ 52⟩

section

variable {n : ℕ}

theorem Binary.long_ofNat (pos : 0 < n) (bits : n < 2 ^ 53) :
    2 ^ 52 ≤ (Binary.ofNat n).mantissa ∧ (Binary.ofNat n).mantissa < 2 ^ 53 := by
  have log : n.log2 < 53 := (Nat.log2_lt pos.ne').2 bits
  have least : 2 ^ 52 = 2 ^ n.log2 * 2 ^ (52 - n.log2) := by rw [← pow_add]; congr 1; omega
  have greatest : 2 ^ 53 = 2 ^ (n.log2 + 1) * 2 ^ (52 - n.log2) := by rw [← pow_add]; congr 1; omega
  rw [least, greatest]
  exact ⟨Nat.mul_le_mul_right _ (Nat.log2_self_le pos.ne'), Nat.mul_lt_mul_of_pos_right Nat.lt_log2_self (by positivity)⟩

theorem Binary.canonical_ofNat (pos : 0 < n) (bits : n < 2 ^ 53) : (Binary.ofNat n).Canonical := by
  have log : n.log2 < 53 := (Nat.log2_lt pos.ne').2 bits
  obtain ⟨least, greatest⟩ := Binary.long_ofNat pos bits
  have exponent : (Binary.ofNat n).exponent = n.log2 - 52 := rfl
  have narrow : (Binary.ofNat n).narrowBelow = decide ((Binary.ofNat n).mantissa = 2 ^ 52) := rfl
  refine ⟨by omega, greatest, by omega, by omega, fun _ => least, ?_⟩
  rw [narrow, decide_eq_true_eq]
  exact ⟨fun same => ⟨same, by omega⟩, And.left⟩

theorem Binary.ofNat_amount (pos : 0 < n) (bits : n < 2 ^ 53) :
    ((Binary.ofNat n).mantissa * 2 ^ (Binary.ofNat n).exponent : ℚ) = n := by
  have log : n.log2 < 53 := (Nat.log2_lt pos.ne').2 bits
  have inverse : (Binary.ofNat n).exponent = -((52 - n.log2 : ℕ) : ℤ) := by
    change (n.log2 : ℤ) - 52 = _
    omega
  have mantissa : (Binary.ofNat n).mantissa = n * 2 ^ (52 - n.log2) := rfl
  rw [inverse, mantissa, zpow_neg, zpow_natCast]
  push_cast
  field_simp

/-- Whole numbers of at most 53 bits are doubles. -/
theorem toFloat_eq (pos : 0 < n) (bits : n < 2 ^ 53) :
    n.toUInt64.toFloat = (Binary.canonical_ofNat pos bits).toFloat := by
  have log : n.log2 < 53 := (Nat.log2_lt pos.ne').2 bits
  have c := Binary.canonical_ofNat pos bits
  have small : n.toUInt64.toNat = n := by
    rw [Nat.toUInt64_eq, UInt64.toNat_ofNat']
    omega
  have target : Format.binary64.targetExponent (totalExponent n 0) = n.log2 - 52 := by
    rw [targetExponent_eq]
    omega
  have rounded : UnpackedFloat.round Format.binary64 .positive n 0 =
      .finite .positive (Binary.ofNat n).mantissa (Binary.ofNat n).exponent c.pos := by
    unfold UnpackedFloat.round decreaseExponent
    dsimp only
    have amount : (0 - ((n.log2 : ℤ) - 52)).toNat = 52 - n.log2 := by omega
    have exponent : (0 : ℤ) - ((52 - n.log2 : ℕ) : ℤ) = (Binary.ofNat n).exponent := by
      change _ = (n.log2 : ℤ) - 52
      omega
    rw [target, amount, exponent, Nat.shiftLeft_eq]
    have unit : (2 : ℚ) ^ (Binary.ofNat n).exponent ≠ 0 := by positivity
    refine roundWithAccuracy_eq _ c (Binary.attracts_self _) ?_ ?_
    · exact mul_div_cancel_right₀ _ unit
    · have long : 52 ≤ (Binary.ofNat n).mantissa.log2 :=
        (Nat.le_log2 c.pos.ne').2 (Binary.long_ofNat pos bits).1
      have mantissa : (Binary.ofNat n).mantissa = n * 2 ^ (52 - n.log2) := rfl
      rw [targetExponent_eq, ← mantissa]
      omega
  have normal : UnpackedFloat.ofNat Format.binary64 n = UnpackedFloat.round Format.binary64 .positive n 0 := by
    unfold UnpackedFloat.ofNat UnpackedFloat.ofInt UnpackedFloat.normalize
    rw [Int.compare_eq_gt.2 (by omega)]
    rfl
  change Float.ofModel (Float.Model.pack (UnpackedFloat.ofNat Format.binary64 n.toUInt64.toNat)) = _
  rw [small, normal, rounded]
  rfl

end

/-! ## Powers of ten -/

/-- The powers of ten up to the twenty-second are doubles. -/
theorem powers_exact : ∀ k : Fin 23, Float.exactlyRepresentablePowersOfTen[k].isFinite ∧
    negativeSign Float.exactlyRepresentablePowersOfTen[k] = false ∧
    2 ^ 52 ≤ (Binary.ofFloat Float.exactlyRepresentablePowersOfTen[k]).mantissa ∧
    (Binary.ofFloat Float.exactlyRepresentablePowersOfTen[k]).mantissa *
        2 ^ (Binary.ofFloat Float.exactlyRepresentablePowersOfTen[k]).exponent.toNat =
      10 ^ k.val * 2 ^ (-(Binary.ofFloat Float.exactlyRepresentablePowersOfTen[k]).exponent).toNat := by
  decide +kernel

/-- A power of ten as it stands in the table. -/
theorem power_eq {k : ℕ} (few : k ≤ 22) {x : Float}
    (entry : x = getElem Float.exactlyRepresentablePowersOfTen k (Nat.lt_succ_of_le few)) :
    ∃ a f, ∃ pos : 0 < a, x.toModel.unpack = .finite .positive a f pos ∧ (a * 2 ^ f : ℚ) = 10 ^ k ∧ 2 ^ 52 ≤ a := by
  obtain ⟨finite, sign, long, exact'⟩ := powers_exact ⟨k, Nat.lt_succ_of_le few⟩
  change _ = _ * _ at exact'
  have entry' : Float.exactlyRepresentablePowersOfTen[(⟨k, Nat.lt_succ_of_le few⟩ : Fin 23)] = x := entry.symm
  rw [entry'] at finite sign long exact'
  have pos : 0 < (Binary.ofFloat x).mantissa := by omega
  refine ⟨(Binary.ofFloat x).mantissa, (Binary.ofFloat x).exponent, pos, ?_, ?_, long⟩
  · rw [Binary.unpack_ofFloat finite pos, signOf, sign]
    rfl
  · have whole : ((Binary.ofFloat x).mantissa * 2 ^ (Binary.ofFloat x).exponent.toNat : ℚ) =
        10 ^ k * 2 ^ (-(Binary.ofFloat x).exponent).toNat := by exact_mod_cast exact'
    generalize (Binary.ofFloat x).exponent = f at whole ⊢
    rcases le_total 0 f with up | down
    · obtain ⟨n, rfl⟩ := Int.eq_ofNat_of_zero_le up
      simpa using whole
    · obtain ⟨n, hn⟩ := Int.eq_ofNat_of_zero_le (neg_nonneg.2 down)
      obtain rfl : f = -n := by omega
      rw [zpow_neg, zpow_natCast, ← div_eq_mul_inv, div_eq_iff (by positivity)]
      simpa using whole

/-! ## Decimals -/

theorem Binary.Canonical.unpack_toFloat (c : b.Canonical) :
    c.toFloat.toModel.unpack = .finite .positive b.mantissa b.exponent c.pos := unpack_pack c

/-- A product of doubles that a double attracts is it. -/
theorem toFloat_mul {b₁ : Binary} (c : b.Canonical) (c₁ : b₁.Canonical) {x : Float} {a : ℕ} {f : ℤ} {pos : 0 < a}
    (unpacked : x.toModel.unpack = .finite .positive a f pos)
    (attracts : b.Attracts (b₁.mantissa * 2 ^ b₁.exponent * (a * 2 ^ f))) (long : 2 ^ 52 ≤ a) :
    c₁.toFloat * x = c.toFloat := by
  change Float.ofModel (Float.Model.pack (UnpackedFloat.mul _ c₁.toFloat.toModel.unpack x.toModel.unpack)) = _
  have long' : 2 ^ 52 ≤ b₁.mantissa * a := long.trans (Nat.le_mul_of_pos_left _ c₁.pos)
  rw [c₁.unpack_toFloat, unpacked, mul_eq c c₁.pos pos attracts long']
  rfl

/-- A quotient of doubles that a double attracts is it. -/
theorem toFloat_div {b₁ : Binary} (c : b.Canonical) (c₁ : b₁.Canonical) {x : Float} {a : ℕ} {f : ℤ} {pos : 0 < a}
    (unpacked : x.toModel.unpack = .finite .positive a f pos)
    (attracts : b.Attracts (b₁.mantissa * 2 ^ b₁.exponent / (a * 2 ^ f))) : c₁.toFloat / x = c.toFloat := by
  change Float.ofModel (Float.Model.pack (UnpackedFloat.div _ c₁.toFloat.toModel.unpack x.toModel.unpack)) = _
  rw [c₁.unpack_toFloat, unpacked, div_eq c c₁.pos pos attracts]
  rfl

/-- Decimals of few digits and places are turned into doubles by arithmetic on doubles. -/
theorem ofScientific_fast (c : b.Canonical) (pos : 0 < m) (bits : m < 2 ^ 53) (few : e.natAbs ≤ 22)
    (attracts : b.Attracts (m * 10 ^ e)) : Float.ofScientific m (e < 0) e.natAbs = c.toFloat := by
  unfold Float.ofScientific
  rw [dif_pos ⟨bits, few⟩]
  dsimp only
  generalize entry : getElem Float.exactlyRepresentablePowersOfTen e.natAbs _ = x
  obtain ⟨a, f, pos', unpacked, power, long⟩ := power_eq few entry.symm
  have whole := Binary.ofNat_amount pos bits
  rw [toFloat_eq pos bits]
  rcases lt_or_ge e 0 with negative | positive
  · rw [if_pos (decide_eq_true negative)]
    refine toFloat_div c _ unpacked ?_
    have inverse : e = -(e.natAbs : ℤ) := by omega
    rw [inverse, zpow_neg, zpow_natCast, ← div_eq_mul_inv] at attracts
    rwa [whole, power]
  · rw [if_neg (by simpa using positive)]
    refine toFloat_mul c _ unpacked ?_ long
    have same : e = (e.natAbs : ℤ) := by omega
    rw [same, zpow_natCast] at attracts
    rwa [whole, power]

/-- Other decimals are turned into doubles by arithmetic on whole numbers. -/
theorem ofScientific_slow (c : b.Canonical) (pos : 0 < m) (most : e ≤ 2 ^ 11) (least : -(2 ^ 11 + (m.log2 : ℤ)) ≤ e)
    (attracts : b.Attracts (m * 10 ^ e)) :
    UnpackedFloat.ofScientific Format.binary64 m e = .finite .positive b.mantissa b.exponent c.pos := by
  unfold UnpackedFloat.ofScientific
  have bits : Format.binary64.exponentBits = 11 := rfl
  rw [dif_neg pos.ne', bits, if_neg (by omega), if_neg (by omega)]
  rcases lt_or_ge e 0 with negative | positive
  · rw [if_neg (by omega)]
    refine div_eq c pos _ ?_
    have inverse : e = -((-e).toNat : ℤ) := by omega
    rw [inverse, zpow_neg, zpow_natCast, ← div_eq_mul_inv] at attracts
    simpa using attracts
  · rw [if_pos positive]
    refine mul_eq c _ _ ?_ ?_
    · have same : e = (e.toNat : ℤ) := by omega
      rw [same, zpow_natCast] at attracts
      have whole : ((m <<< 53 : ℕ) * 2 ^ (-(53 : ℕ) : ℤ) : ℚ) = m := by
        rw [Nat.shiftLeft_eq, zpow_neg, zpow_natCast]
        push_cast
        field_simp
        norm_num
      change b.Attracts (((m <<< 53 : ℕ) : ℚ) * 2 ^ (-(53 : ℕ) : ℤ) * _)
      rw [whole]
      simpa using attracts
    · rw [Nat.shiftLeft_eq]
      change 2 ^ 52 ≤ m * 2 ^ 53 * 10 ^ e.toNat
      have one : 1 ≤ m * 10 ^ e.toNat := Nat.mul_pos pos (by positivity)
      calc 2 ^ 52 ≤ 1 * 2 ^ 53 := by norm_num
        _ ≤ m * 10 ^ e.toNat * 2 ^ 53 := Nat.mul_le_mul_right _ one
        _ = m * 2 ^ 53 * 10 ^ e.toNat := by ring

theorem Binary.Canonical.two_zpow_le (c : b.Canonical) : (2 : ℚ) ^ (53 + b.exponent) ≤ 10 ^ (309 : ℤ) := by
  have exponent : 53 + b.exponent ≤ 1024 := by linarith [c.greatest]
  refine (zpow_le_zpow_right₀ (by norm_num) exponent).trans ?_
  have powers : 2 ^ 1024 ≤ 10 ^ 309 := by decide +kernel
  exact_mod_cast powers

/-- A double attracts nothing below `10 ^ -324`. -/
theorem Binary.Attracts.least_le {x : ℚ} (c : b.Canonical) (attracts : b.Attracts x) :
    (10 : ℚ) ^ (-324 : ℤ) ≤ x := by
  have place : (2 : ℚ) ^ (-1074 : ℤ) ≤ 2 ^ b.exponent := zpow_le_zpow_right₀ (by norm_num) c.least
  have half : 1 / 2 ≤ b.scaled x := by
    have one : (1 : ℚ) ≤ b.mantissa := by exact_mod_cast c.pos
    have reach := b.reach_le
    linarith [attracts.1]
  rw [Binary.scaled, le_div_iff₀ (by positivity)] at half
  refine le_trans (le_trans ?_ (mul_le_mul_of_nonneg_left place (by norm_num))) half
  have powers : 2 ^ 1074 * 2 ≤ 10 ^ 324 := by decide +kernel
  have powers : (2 : ℚ) ^ 1074 * 2 ≤ 10 ^ 324 := by exact_mod_cast powers
  rw [zpow_neg, zpow_neg, one_div, ← mul_inv]
  refine inv_anti₀ (by positivity) ?_
  rw [mul_comm]
  exact powers

/-- The decimal exponent of an amount that a double attracts. -/
theorem Binary.Attracts.size (c : b.Canonical) (pos : 0 < m) (attracts : b.Attracts (m * 10 ^ e)) :
    -324 < e + (Nat.toDigits 10 m).length ∧ e + (Nat.toDigits 10 m).length ≤ 309 := by
  generalize digits : (Nat.toDigits 10 m).length = n
  have some : 0 < n := digits ▸ Nat.length_toDigits_pos
  have ten : (1 : ℚ) < 10 := by norm_num
  have unit : (0 : ℚ) < 10 ^ e := by positivity
  have below : m < 10 ^ n := (Nat.length_toDigits_le_iff (by norm_num) some).1 digits.le
  have above : 10 ^ (n - 1) ≤ m := digits ▸ Decimal.ten_pow_le pos
  have below : (m * 10 ^ e : ℚ) < 10 ^ (e + n) := by
    rw [add_comm, zpow_add₀ (by norm_num), zpow_natCast]
    exact mul_lt_mul_of_pos_right (by exact_mod_cast below) unit
  have above : (10 : ℚ) ^ (e + n - 1) ≤ m * 10 ^ e := by
    have place : e + (n : ℤ) - 1 = (n - 1 : ℕ) + e := by omega
    rw [place, zpow_add₀ (by norm_num), zpow_natCast]
    exact mul_le_mul_of_nonneg_right (by exact_mod_cast above) unit.le
  have first := (zpow_lt_zpow_iff_right₀ ten).1 ((attracts.least_le c).trans_lt below)
  have second := (zpow_lt_zpow_iff_right₀ ten).1 ((above.trans_lt (attracts.amount c).1).trans_le c.two_zpow_le)
  omega

/-- **Decimals are turned into the double that attracts them.** -/
theorem Decimal.nearest_eq (c : b.Canonical) (pos : 0 < m) (attracts : b.Attracts (m * 10 ^ e)) :
    Decimal.nearest m e = c.toFloat := by
  obtain ⟨least, most⟩ := attracts.size c pos
  have digits : 0 < (Nat.toDigits 10 m).length := Nat.length_toDigits_pos
  have bits := Decimal.length_toDigits_le m
  unfold Decimal.nearest
  dsimp only
  rw [if_neg pos.ne', if_neg (by omega), if_neg (by omega)]
  by_cases fast : m < 2 ^ 53 ∧ e.natAbs ≤ 22
  · exact ofScientific_fast c pos fast.1 fast.2 attracts
  · unfold Float.ofScientific
    rw [dif_neg fast]
    have signed : (if decide (e < 0) = true then Int.negOfNat e.natAbs else Int.ofNat e.natAbs) = e := by
      rw [Int.negOfNat_eq, Int.ofNat_eq_natCast]
      split <;> rename_i negative <;> rw [decide_eq_true_eq] at negative <;> omega
    dsimp only
    rw [signed]
    change Float.ofModel (Float.Model.pack (UnpackedFloat.ofScientific _ _ _)) = _
    rw [ofScientific_slow c pos (by omega) (by omega) attracts]
    rfl

end

end Workflows
