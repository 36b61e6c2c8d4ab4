import Workflows.Decimal.Shortest
import Workflows.Proofs.Decimal.Digits
import Workflows.Proofs.Decimal.Rounding

/-!
# Shortest decimals are rounded to their double

* `Grid.Scaled`: a grid is made for a power of ten and a last place; `Grid.attracts_of_reads`: its points that read
  back are rounded to the double;
* `Grid.isSome_hit?`: on a fine grid one of the neighbours reads back;
* `Binary.leadingExponent_le`: where the digits of an amount start, seventeen places below which the grid is fine;
* **`Decimal.attracts_shortest`**: the shortest decimal of a double is rounded to it.
-/

namespace Workflows

variable {b : Binary} {g : Grid} {d : ℕ} {k : ℤ}

/-! ## Grids -/

namespace Grid

/-- A quarter of a last place and the step of the grid, on one scale. -/
structure Scaled (g : Grid) (b : Binary) (k : ℤ) : Prop where
  pos : 0 < g.quarter
  scale : (g.step : ℚ) * 2 ^ b.exponent = 4 * g.quarter * 10 ^ k

theorem scaled_ofExponents (b : Binary) (k : ℤ) : (ofExponents b.exponent k).Scaled b k := by
  have parts (x : ℚ) (n : ℤ) (some : x ≠ 0) : x ^ n = x ^ n.toNat / x ^ (-n).toNat := by
    rw [← zpow_natCast, ← zpow_natCast, ← zpow_sub₀ some]
    congr 1
    omega
  refine ⟨Nat.mul_pos (Nat.pow_pos two_pos) (Nat.pow_pos (by norm_num)), ?_⟩
  have place : (2 : ℚ) ^ b.exponent = 4 * 2 ^ (b.exponent - 2) := by
    rw [zpow_sub₀ two_ne_zero]
    norm_num
    ring
  change ((Nat.pow 10 k.toNat * Nat.pow 2 (-(b.exponent - 2)).toNat : ℕ) : ℚ) * 2 ^ b.exponent =
    4 * (Nat.pow 2 (b.exponent - 2).toNat * Nat.pow 10 (-k).toNat : ℕ) * 10 ^ k
  rw [place, parts 2 _ two_ne_zero, parts 10 k (by norm_num)]
  simp only [Nat.pow_eq]
  push_cast
  field_simp

namespace Scaled

variable (h : g.Scaled b k)

include h

/-- A grid point in units of the last place. -/
theorem point (d : ℕ) : (d * g.step : ℚ) = 4 * b.scaled (d * 10 ^ k) * g.quarter := by
  have unit : (2 : ℚ) ^ b.exponent ≠ 0 := by positivity
  rw [← mul_left_inj' unit, mul_assoc, h.scale, Binary.scaled]
  field_simp

theorem step_pos : 0 < g.step := by
  have right : (0 : ℚ) < 4 * g.quarter * 10 ^ k := by
    have pos : (0 : ℚ) < g.quarter := by exact_mod_cast h.pos
    positivity
  rw [← h.scale] at right
  exact_mod_cast pos_of_mul_pos_left right (by positivity)

end Scaled

/-- The lower end of the interval. -/
theorem lower_eq (some : 0 < b.mantissa) : (g.lower b : ℚ) = 4 * (b.mantissa - b.reach) * g.quarter := by
  unfold lower Binary.reach
  rw [Nat.cast_mul, Nat.cast_sub (by split <;> omega)]
  split <;> push_cast <;> ring

/-- The upper end of the interval. -/
theorem upper_eq : (g.upper b : ℚ) = 4 * (b.mantissa + 1 / 2) * g.quarter := by
  unfold upper
  push_cast
  ring

/-- A grid point that reads back is rounded to the double. -/
theorem attracts_of_reads (h : g.Scaled b k) (some : 0 < b.mantissa) (reads : g.reads b d) :
    b.Attracts (d * 10 ^ k) := by
  have pos : (0 : ℚ) < g.quarter := by exact_mod_cast h.pos
  have cancel (x y : ℚ) : 4 * x * g.quarter ≤ 4 * y * g.quarter ↔ x ≤ y := by
    rw [mul_le_mul_iff_left₀ pos, mul_le_mul_iff_right₀ (by norm_num)]
  have cancel' (x y : ℚ) : 4 * x * g.quarter < 4 * y * g.quarter ↔ x < y := by
    rw [mul_lt_mul_iff_left₀ pos, mul_lt_mul_iff_right₀ (by norm_num)]
  have lower : g.lower b ≤ d * g.step ↔ b.mantissa - b.reach ≤ b.scaled (d * 10 ^ k) := by
    rw [← cancel, ← lower_eq some, ← h.point]
    norm_cast
  have upper : d * g.step ≤ g.upper b ↔ b.scaled (d * 10 ^ k) ≤ b.mantissa + 1 / 2 := by
    rw [← cancel, ← upper_eq, ← h.point]
    norm_cast
  have lower' : g.lower b < d * g.step ↔ b.mantissa - b.reach < b.scaled (d * 10 ^ k) := by
    rw [← cancel', ← lower_eq some, ← h.point]
    norm_cast
  have upper' : d * g.step < g.upper b ↔ b.scaled (d * 10 ^ k) < b.mantissa + 1 / 2 := by
    rw [← cancel', ← upper_eq, ← h.point]
    norm_cast
  unfold Grid.reads at reads
  by_cases even : b.mantissa % 2 = 0
  · rw [if_pos even, decide_eq_true_eq, lower, upper] at reads
    exact ⟨reads.1, reads.2, fun odd => absurd odd (by omega)⟩
  · rw [if_neg even, decide_eq_true_eq, lower', upper'] at reads
    exact ⟨reads.1.le, reads.2.le, fun _ => reads⟩

/-- The neighbour that is found reads back. -/
theorem reads_of_hit? (hit : g.hit? b = some d) : g.reads b d := by
  unfold hit? at hit
  dsimp only at hit
  generalize (if 2 * (g.amount b % g.step) < g.step ∨ 2 * (g.amount b % g.step) = g.step ∧
    g.amount b / g.step % 2 = 0 then g.amount b / g.step else g.amount b / g.step + 1) = nearer at hit
  generalize (if nearer = g.amount b / g.step then g.amount b / g.step + 1 else g.amount b / g.step) = farther at hit
  split_ifs at hit with near far
  · exact Option.some.inj hit ▸ near
  · exact Option.some.inj hit ▸ far

/-- A grid point within the interval reads back. -/
theorem reads_of_between (above : g.lower b < d * g.step) (below : d * g.step < g.upper b) : g.reads b d := by
  unfold reads
  split
  · exact decide_eq_true ⟨above.le, below.le⟩
  · exact decide_eq_true ⟨above, below⟩

/-- On a grid that is fine enough a neighbour reads back: the nearer one is off by half a step at most. -/
theorem isSome_hit? (some : 0 < b.mantissa) (pos : 0 < g.step) (fine : g.step < 2 * g.quarter) :
    (g.hit? b).isSome := by
  have lower : g.lower b ≤ g.amount b - g.quarter := by
    unfold Grid.lower amount
    rw [← Nat.sub_one_mul]
    exact Nat.mul_le_mul_right _ (by split <;> omega)
  have upper : g.upper b = g.amount b + 2 * g.quarter := Nat.add_mul _ _ _
  have room : g.quarter ≤ g.amount b := Nat.le_mul_of_pos_left _ (by omega)
  have whole := Nat.div_add_mod (g.amount b) g.step
  have bound := Nat.mod_lt (g.amount b) pos
  rw [mul_comm] at whole
  unfold hit?
  dsimp only
  generalize g.amount b / g.step = below at *
  have next : (below + 1) * g.step = below * g.step + g.step := Nat.succ_mul _ _
  generalize nearest : (if 2 * (g.amount b % g.step) < g.step ∨ 2 * (g.amount b % g.step) = g.step ∧
    below % 2 = 0 then below else below + 1) = nearer
  have reads : g.reads b nearer := by
    subst nearest
    split_ifs with near
    · exact reads_of_between (by omega) (by omega)
    · exact reads_of_between (by omega) (by omega)
  rw [if_pos reads]
  rfl

end Grid

/-! ## The leading digit -/

/-- Powers of two are less than powers of ten with a third of their exponent. -/
theorem two_pow_le_places (n : ℕ) : 2 ^ n ≤ 10 ^ Binary.places n := by
  have thousand : 2 ^ 1000 ≤ 10 ^ 302 := by decide +kernel
  refine (Nat.pow_le_pow_iff_left (n := 1000) (by norm_num)).1 ?_
  calc (2 ^ n) ^ 1000 = (2 ^ 1000) ^ n := by rw [← pow_mul, ← pow_mul, mul_comm]
    _ ≤ (10 ^ 302) ^ n := Nat.pow_le_pow_left thousand n
    _ = 10 ^ (302 * n) := (pow_mul _ _ _).symm
    _ ≤ 10 ^ (Binary.places n * 1000) := Nat.pow_le_pow_right (by norm_num) (by unfold Binary.places; omega)
    _ = (10 ^ Binary.places n) ^ 1000 := pow_mul _ _ _

/-- The digits of an amount start at its leading exponent. -/
theorem Binary.leadingExponent_le (some : 0 < b.mantissa) :
    (10 : ℚ) ^ b.leadingExponent ≤ b.mantissa * 2 ^ b.exponent := by
  unfold leadingExponent
  dsimp only
  generalize below : (-b.exponent).toNat = n
  generalize scaled : b.mantissa * Nat.pow 10 (places n) * Nat.pow 2 b.exponent.toNat / Nat.pow 2 n = s
  simp only [Nat.pow_eq] at scaled
  have pos : 0 < s := by
    rw [← scaled]
    refine Nat.div_pos ?_ (by positivity)
    calc 2 ^ n ≤ 1 * 10 ^ places n * 1 := by simpa using two_pow_le_places n
      _ ≤ b.mantissa * 10 ^ places n * 2 ^ b.exponent.toNat :=
        Nat.mul_le_mul (Nat.mul_le_mul_right _ some) (Nat.pow_pos two_pos)
  have digits := Decimal.ten_pow_le pos
  have length : 0 < (Nat.toDigits 10 s).length := Nat.length_toDigits_pos
  generalize (Nat.toDigits 10 s).length = l at *
  have product : 10 ^ (l - 1) * 2 ^ n ≤ b.mantissa * 10 ^ places n * 2 ^ b.exponent.toNat :=
    (Nat.mul_le_mul_right _ digits).trans (scaled ▸ Nat.div_mul_le_self _ _)
  have product : ((10 : ℚ) ^ (l - 1) * 2 ^ n) ≤ b.mantissa * 10 ^ places n * 2 ^ b.exponent.toNat := by
    exact_mod_cast product
  have place : (l : ℤ) - 1 - places n = (l - 1 : ℕ) - (places n : ℤ) := by omega
  have parts : b.exponent = b.exponent.toNat - (n : ℤ) := by omega
  rw [place, parts, zpow_sub₀ (by norm_num), zpow_sub₀ two_ne_zero]
  simp only [zpow_natCast]
  rw [← mul_div_assoc, div_le_div_iff₀ (by positivity) (by positivity)]
  linarith

/-- Seventeen places below the leading digit the grid is fine. -/
theorem Grid.Scaled.fine {g : Grid} (h : g.Scaled b (b.leadingExponent - 17)) (some : 0 < b.mantissa)
    (bits : b.mantissa < 2 ^ 53) : g.step < 2 * g.quarter := by
  have unit : (0 : ℚ) < 2 ^ b.exponent := by positivity
  have quarter : (0 : ℚ) < g.quarter := by exact_mod_cast h.pos
  have bits : (b.mantissa : ℚ) < 2 ^ 53 := by exact_mod_cast bits
  have top := (b.leadingExponent_le some).trans (mul_le_mul_of_nonneg_right bits.le unit.le)
  have scale := h.scale
  rw [zpow_sub₀ (by norm_num)] at scale
  have small : (10 : ℚ) ^ b.leadingExponent / 10 ^ (17 : ℤ) < 1 / 2 * 2 ^ b.exponent := by
    rw [div_lt_iff₀ (by positivity)]
    norm_num at top ⊢
    linarith
  have less : (g.step : ℚ) * 2 ^ b.exponent < 2 * g.quarter * 2 ^ b.exponent := by
    rw [scale]
    calc 4 * g.quarter * ((10 : ℚ) ^ b.leadingExponent / 10 ^ (17 : ℤ))
        < 4 * g.quarter * (1 / 2 * 2 ^ b.exponent) := mul_lt_mul_of_pos_left small (by positivity)
      _ = 2 * g.quarter * 2 ^ b.exponent := by ring
  exact_mod_cast (mul_lt_mul_iff_left₀ unit).1 less

/-! ## Shortest decimals -/

/-- Amounts that are rounded to a double are not zero. -/
theorem Binary.Attracts.ne_zero {v : ℚ} (some : 0 < b.mantissa) (attracts : b.Attracts v) : v ≠ 0 := by
  rintro rfl
  have one : (1 : ℚ) ≤ b.mantissa := by exact_mod_cast some
  have reach := b.reach_le
  have lower := attracts.1
  rw [Binary.scaled, zero_div] at lower
  linarith

namespace Decimal

variable {x : Float}

/-- **The shortest decimal of a double is rounded to it.** -/
theorem attracts_shortest (some : 0 < (Binary.ofFloat x).mantissa) (bits : (Binary.ofFloat x).mantissa < 2 ^ 53) :
    (Binary.ofFloat x).Attracts ((shortest x).digits * 10 ^ (shortest x).exponent) := by
  unfold shortest
  dsimp only
  rw [if_neg some.ne']
  generalize Binary.ofFloat x = b at *
  cases found : (List.range 18).findSome? fun i : ℕ =>
      ((Grid.ofExponents b.exponent (b.leadingExponent - i)).hit? b).map fun d =>
        (⟨d, b.leadingExponent - i⟩ : Decimal) with
  | some d =>
    obtain ⟨i, -, on_grid⟩ := List.exists_of_findSome?_eq_some found
    obtain ⟨n, hit, rfl⟩ := Option.map_eq_some_iff.1 on_grid
    change b.Attracts (n * 10 ^ (b.leadingExponent - i))
    exact Grid.attracts_of_reads (Grid.scaled_ofExponents b _) some (Grid.reads_of_hit? hit)
  | none =>
    -- The last grid that was tried is fine, and has a point that reads back.
    have scaled := Grid.scaled_ofExponents b (b.leadingExponent - 17)
    have last : (Grid.ofExponents b.exponent (b.leadingExponent - 17)).hit? b = none :=
      Option.map_eq_none_iff.1 (List.findSome?_eq_none_iff.1 found 17 (by decide))
    have hit := Grid.isSome_hit? some scaled.step_pos (scaled.fine some bits)
    rw [last] at hit
    cases hit

end Decimal

end Workflows
