import Workflows.Proofs.Decimal.Bits

/-!
# The order of doubles

* `Binary.amount`, `amountOf`: the amount of a double, without its sign and with it;
* `Binary.Canonical.compare_eq`: canonical amounts are in the order of their exponents, and of their mantissas where
  these are the same;
* **`compare_unpack`**: finite doubles are in the order of their amounts; `lt_iff_amountOf`, `beq_iff_amountOf`;
* `beq_iff_unpack`: doubles are equal just where they are the same or both zero, and no NaN; `unpack_pack_ne_nan`,
  `mul_ne_nan`: packing and multiplying make no NaN.
-/

namespace Workflows

open Float.Model Float.Model.UnpackedFloat

/-- The amount `mantissa · 2 ^ exponent`. -/
def Binary.amount (b : Binary) : ℚ := b.mantissa * 2 ^ b.exponent

/-- The amount of an unpacked double with its sign, zero where there is none. -/
def unpackedAmount : UnpackedFloat → ℚ
  | .finite .positive m e _ => m * 2 ^ e
  | .finite .negative m e _ => -(m * 2 ^ e)
  | _ => 0

/-- The amount of a finite double, with its sign. -/
def amountOf (x : Float) : ℚ := unpackedAmount x.toModel.unpack

variable {a b : Binary} {x y : Float}

/-! ## Canonical amounts -/

namespace Binary.Canonical

theorem amount_pos (c : b.Canonical) : 0 < b.amount :=
  mul_pos (Nat.cast_pos.2 c.pos) (by positivity)

/-- The double with the larger exponent is the larger one, since its mantissa has all bits. -/
theorem amount_lt_of_exponent_lt (c : a.Canonical) (d : b.Canonical) (less : a.exponent < b.exponent) :
    a.amount < b.amount := by
  have unit : (0 : ℚ) < 2 ^ a.exponent := by positivity
  have short : (a.mantissa : ℚ) < 2 ^ 53 := by exact_mod_cast c.bits
  have long : (2 : ℚ) ^ 52 ≤ b.mantissa := by exact_mod_cast d.normal (lt_of_le_of_lt c.least less)
  have places : (2 : ℚ) * 2 ^ a.exponent ≤ 2 ^ b.exponent := by
    rw [← zpow_one_add₀ two_ne_zero]
    exact zpow_le_zpow_right₀ (by norm_num) (by omega)
  calc a.amount < 2 ^ 53 * 2 ^ a.exponent := mul_lt_mul_of_pos_right short unit
    _ = 2 ^ 52 * (2 * 2 ^ a.exponent) := by ring
    _ ≤ b.mantissa * 2 ^ b.exponent := mul_le_mul long places (by positivity) (by positivity)

/-- **Canonical amounts are in the order of their exponents and mantissas.** -/
theorem compare_eq (c : a.Canonical) (d : b.Canonical) :
    (compare a.exponent b.exponent).then (compare a.mantissa b.mantissa) = compare a.amount b.amount := by
  rcases lt_trichotomy a.exponent b.exponent with less | same | more
  · rw [compare_lt_iff_lt.2 less, compare_lt_iff_lt.2 (c.amount_lt_of_exponent_lt d less)]
    rfl
  · have unit : (0 : ℚ) < 2 ^ b.exponent := by positivity
    rw [compare_eq_iff_eq.2 same, Binary.amount, Binary.amount, same]
    change compare a.mantissa b.mantissa = _
    rw [← cmp_eq_compare, ← cmp_eq_compare, cmp_mul_pos_right unit, Nat.strictMono_cast.cmp_map_eq]
  · rw [compare_gt_iff_gt.2 more, compare_gt_iff_gt.2 (d.amount_lt_of_exponent_lt c more)]
    rfl

end Binary.Canonical

/-! ## Finite doubles -/

/-- A double without an amount is a zero. -/
theorem unpack_of_mantissa_eq_zero (none : (Binary.ofFloat x).mantissa = 0) :
    x.toModel.unpack = .zero (signOf x) := by
  have fields := Binary.ofFloat_eq x
  by_cases field : (bitsOf x).toNat / 2 ^ 52 % 2 ^ 11 = 0
  · rw [if_pos field] at fields
    rw [fields] at none
    rw [unpack_toModel, unpack_eq _ (by rw [field]; norm_num), dif_pos ⟨field, none⟩, signOf_eq]
  · rw [if_neg field] at fields
    rw [fields] at none
    exact absurd none (Nat.succ_ne_zero _)

/-- A finite double is zero, or a canonical amount with a sign. -/
theorem unpack_cases (finite : x.isFinite) :
    (∃ sign, x.toModel.unpack = .zero sign) ∨
      ∃ sign, ∃ b : Binary, ∃ c : b.Canonical, x.toModel.unpack = .finite sign b.mantissa b.exponent c.pos := by
  rcases Nat.eq_zero_or_pos (Binary.ofFloat x).mantissa with none | some
  · exact .inl ⟨_, unpack_of_mantissa_eq_zero none⟩
  · exact .inr ⟨_, _, Binary.canonical_ofFloat finite some, Binary.unpack_ofFloat finite some⟩

theorem compare_neg_neg (u v : ℚ) : compare (-u) (-v) = (compare u v).swap := by
  rw [← cmp_eq_compare, ← cmp_eq_compare, cmp_swap]
  exact StrictAnti.cmp_map_eq (fun _ _ => neg_lt_neg) u v

/-- **Finite doubles are in the order of their amounts.** -/
theorem compare_unpack (finite : x.isFinite) (finite' : y.isFinite) :
    x.toModel.unpack.compare y.toModel.unpack = some (compare (amountOf x) (amountOf y)) := by
  unfold amountOf
  rcases unpack_cases finite with ⟨s, hx⟩ | ⟨_ | _, a, c, hx⟩ <;>
    rcases unpack_cases finite' with ⟨t, hy⟩ | ⟨_ | _, b, d, hy⟩ <;>
    rw [hx, hy] <;> refine congrArg some (Eq.symm ?_)
  · exact (compare_eq_iff_eq (a := (0 : ℚ))).2 rfl
  · exact compare_gt_iff_gt.2 (neg_neg_of_pos d.amount_pos)
  · exact compare_lt_iff_lt.2 d.amount_pos
  · exact compare_lt_iff_lt.2 (neg_neg_of_pos c.amount_pos)
  · exact (compare_neg_neg a.amount b.amount).trans (congrArg Ordering.swap (c.compare_eq d).symm)
  · exact compare_lt_iff_lt.2 ((neg_neg_of_pos c.amount_pos).trans d.amount_pos)
  · exact compare_gt_iff_gt.2 c.amount_pos
  · exact compare_gt_iff_gt.2 ((neg_neg_of_pos d.amount_pos).trans c.amount_pos)
  · exact (c.compare_eq d).symm

theorem beq_iff_amountOf (finite : x.isFinite) (finite' : y.isFinite) :
    (x == y) = true ↔ amountOf x = amountOf y := by
  change (x.toModel.unpack.compare y.toModel.unpack == some .eq) = true ↔ _
  rw [compare_unpack finite finite', beq_iff_eq, Option.some.injEq, compare_eq_iff_eq]

theorem lt_iff_amountOf (finite : x.isFinite) (finite' : y.isFinite) : x < y ↔ amountOf x < amountOf y := by
  change decide ((x.toModel.unpack.compare y.toModel.unpack == some .lt) = true) = true ↔ _
  rw [compare_unpack finite finite', decide_eq_true_eq, beq_iff_eq, Option.some.injEq, compare_lt_iff_lt]

/-! ## Equality and NaN -/

theorem compare_eq_eq_iff {u v : UnpackedFloat} : u.compare v = some .eq ↔ u ≠ .notANumber ∧
    (u = v ∨ ∃ s t, u = .zero s ∧ v = .zero t) := by
  have same {e f : ℤ} {m n : ℕ} : (compare e f).then (compare m n) = .eq ↔ m = n ∧ e = f := by
    rw [Ordering.then_eq_eq, compare_eq_iff_eq, compare_eq_iff_eq, and_comm]
  have signs (s t : Sign) : compare s t = .eq ↔ s = t := by
    cases s <;> cases t <;> first | exact iff_of_true rfl rfl | exact iff_of_false nofun nofun
  rcases u with ⟨_ | _⟩ | _ | s | ⟨_ | _, m, e, pos⟩ <;> rcases v with ⟨_ | _⟩ | _ | t | ⟨_ | _, n, f, pos'⟩ <;>
    simp [UnpackedFloat.compare, same, signs]

/-- Doubles are equal just where they are the same or both zero, and no NaN. -/
theorem beq_iff_unpack : (x == y) = true ↔ x.toModel.unpack ≠ .notANumber ∧
    (x.toModel.unpack = y.toModel.unpack ∨ ∃ s t, x.toModel.unpack = .zero s ∧ y.toModel.unpack = .zero t) := by
  change (x.toModel.unpack.compare y.toModel.unpack == some .eq) = true ↔ _
  rw [beq_iff_eq, compare_eq_eq_iff]

/-- A double that is no NaN is equal to itself. -/
theorem float_beq_refl (some : x.toModel.unpack ≠ .notANumber) : (x == x) = true :=
  beq_iff_unpack.2 ⟨some, .inl rfl⟩

theorem float_beq_symm (h : (x == y) = true) : (y == x) = true := by
  rw [beq_iff_unpack] at h ⊢
  obtain ⟨some, same | ⟨s, t, zero, zero'⟩⟩ := h
  · exact ⟨same ▸ some, .inl same.symm⟩
  · exact ⟨by rw [zero']; nofun, .inr ⟨t, s, zero', zero⟩⟩

theorem float_beq_trans {z : Float} (h : (x == y) = true) (h' : (y == z) = true) : (x == z) = true := by
  rw [beq_iff_unpack] at h h' ⊢
  obtain ⟨some, same | ⟨s, t, zero, zero'⟩⟩ := h
  · rw [same]
    exact h'
  · refine ⟨some, .inr ?_⟩
    obtain ⟨-, same | ⟨-, t', -, zero''⟩⟩ := h'
    · exact ⟨s, t, zero, same ▸ zero'⟩
    · exact ⟨s, t', zero, zero''⟩

theorem ne_nan_of_isFinite (finite : x.isFinite) : x.toModel.unpack ≠ .notANumber := by
  intro nan
  change x.toModel.unpack.isFinite = true at finite
  rw [nan] at finite
  cases finite

/-- Bits that are no NaN: those with no fraction, and those of less than the largest exponent. -/
theorem unpack_bits_ne_nan (v : BitVec Format.binary64.numBits)
    (some : v.toNat % 2 ^ 52 = 0 ∨ v.toNat / 2 ^ 52 % 2 ^ 11 ≠ 2047) :
    UnpackedFloat.unpack Format.binary64 v ≠ .notANumber := by
  rcases some with none | finite
  · have none : unpackMantissa v = 0#_ := by
      rw [← BitVec.toNat_inj, toNat_unpackMantissa]
      exact none
    unfold UnpackedFloat.unpack
    dsimp only
    rw [if_pos none]
    split
    · nofun
    · split <;> nofun
  · rw [unpack_eq v finite]
    split
    · nofun
    · split <;> nofun

/-- What is packed is no NaN unless it was. -/
theorem unpack_pack_ne_nan {u : UnpackedFloat} (some : u ≠ .notANumber) :
    (Float.Model.pack u).unpack ≠ .notANumber := by
  refine unpack_bits_ne_nan (UnpackedFloat.pack Format.binary64 u) ?_
  have plain (sign : Sign) (exponent : BitVec 11) :
      (packComponents Format.binary64 sign exponent 0).toNat % 2 ^ 52 = 0 := by
    rw [toNat_packComponents]
    change (_ + 0) % _ = _
    omega
  have field (sign : Sign) (exponent : BitVec 11) (mantissa : BitVec 52) (few : exponent.toNat < 2047) :
      (packComponents Format.binary64 sign exponent mantissa).toNat / 2 ^ 52 % 2 ^ 11 ≠ 2047 := by
    have bound := mantissa.isLt
    rw [toNat_packComponents]
    omega
  cases u with
  | notANumber => exact absurd rfl some
  | infinity s => exact .inl (plain s _)
  | zero s => exact .inl (plain s _)
  | finite s m e pos =>
    unfold UnpackedFloat.pack
    dsimp only
    split
    · exact .inl (plain s _)
    · next few =>
      refine .inr ?_
      split
      · refine field s _ _ ?_
        change ¬ 2 ^ 11 ≤ _ at few
        rw [BitVec.toNat_ofNat]
        omega
      · exact field s _ _ (by decide)

/-- A product of finite amounts is no NaN. -/
theorem mul_ne_nan {spec : Format} {s t : Sign} {m k : ℕ} {e f : ℤ} {pos : 0 < m} {pos' : 0 < k} :
    UnpackedFloat.mul spec (.finite s m e pos) (.finite t k f pos') ≠ .notANumber := by
  change roundWithAccuracy spec (s * t) (m * k) (e + f) .exact ≠ _
  unfold roundWithAccuracy
  dsimp only
  split <;> nofun

end Workflows
