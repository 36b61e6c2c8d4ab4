import Workflows.Data.Value
import Workflows.Proofs.Decimal.Rounding

/-!
# The bits of doubles

* `signOf`: the sign of a double; `toNat_packComponents` and its likes: bits as whole numbers;
* `Binary.unpack_ofFloat`, `Binary.canonical_ofFloat`: a finite double by its amount;
* `unpack_pack`: canonical amounts are doubles;
* **`ofModel_pack_ofFloat`**: a finite double is the one of its sign and amount; `neg_ofModel_pack`: with the other
  sign.
-/

namespace Workflows

open Float.Model Float.Model.UnpackedFloat

/-! ## Bits -/

/-- The sign of a double. -/
def signOf (x : Float) : Sign := if negativeSign x then .negative else .positive

section

variable {sign : Sign} {b : Binary} {x : Float}

theorem toNat_packComponents (exponent : BitVec 11) (mantissa : BitVec 52) :
    (packComponents Format.binary64 sign exponent mantissa).toNat =
      sign.toBitVec.toNat * 2 ^ 63 + exponent.toNat * 2 ^ 52 + mantissa.toNat := by
  unfold packComponents
  rw [BitVec.toNat_append, ← Nat.shiftLeft_add_eq_or_of_lt mantissa.isLt, BitVec.toNat_append,
    ← Nat.shiftLeft_add_eq_or_of_lt exponent.isLt]
  simp only [Nat.shiftLeft_eq]
  ring

variable (v : BitVec Format.binary64.numBits)

theorem toNat_unpackMantissa : (unpackMantissa v).toNat = v.toNat % 2 ^ 52 := by
  simp [unpackMantissa, BitVec.extractLsb, BitVec.extractLsb'_toNat]

theorem toNat_unpackExponent : (unpackExponent v).toNat = v.toNat / 2 ^ 52 % 2 ^ 11 := by
  simp [unpackExponent, BitVec.extractLsb, BitVec.extractLsb'_toNat, Nat.shiftRight_eq_div_pow]

theorem toNat_unpackSign : (unpackSign v).toNat = v.toNat / 2 ^ 63 := by
  have bound : v.toNat < 2 ^ 64 := v.isLt
  simp [unpackSign, BitVec.extractLsb, BitVec.extractLsb'_toNat, Nat.shiftRight_eq_div_pow]
  omega

theorem ofBitVec_unpackSign : Sign.ofBitVec (unpackSign v) = if v.toNat / 2 ^ 63 = 0 then .positive else .negative := by
  unfold Sign.ofBitVec
  rw [← toNat_unpackSign]
  have zero : unpackSign v = 0#1 ↔ (unpackSign v).toNat = 0 := by
    rw [← BitVec.toNat_inj]
    rfl
  simp only [zero]

/-- What bits stand for when they are no infinity and no NaN. -/
theorem unpack_eq (finite : v.toNat / 2 ^ 52 % 2 ^ 11 ≠ 2047) : UnpackedFloat.unpack Format.binary64 v =
    if h : v.toNat / 2 ^ 52 % 2 ^ 11 = 0 ∧ v.toNat % 2 ^ 52 = 0 then .zero (Sign.ofBitVec (unpackSign v))
    else if h' : v.toNat / 2 ^ 52 % 2 ^ 11 = 0 then
      .finite (Sign.ofBitVec (unpackSign v)) (v.toNat % 2 ^ 52) (-1074) (by omega)
    else
      .finite (Sign.ofBitVec (unpackSign v)) (v.toNat % 2 ^ 52 + 2 ^ 52) ((v.toNat / 2 ^ 52 % 2 ^ 11 : ℕ) - 1075)
        (by omega) := by
  have infinite : unpackExponent v ≠ -1#_ := by
    rw [Ne, ← BitVec.toNat_inj, toNat_unpackExponent]
    exact finite
  have least : unpackExponent v = 0#_ ↔ v.toNat / 2 ^ 52 % 2 ^ 11 = 0 := by
    rw [← BitVec.toNat_inj, toNat_unpackExponent]
    rfl
  have none : unpackMantissa v = 0#_ ↔ v.toNat % 2 ^ 52 = 0 := by
    rw [← BitVec.toNat_inj, toNat_unpackMantissa]
    rfl
  have implicit : (1#1 ++ unpackMantissa v).toNat = v.toNat % 2 ^ 52 + 2 ^ 52 := by
    rw [BitVec.toNat_append, ← Nat.shiftLeft_add_eq_or_of_lt (unpackMantissa v).isLt, toNat_unpackMantissa]
    exact Nat.add_comm _ _
  unfold UnpackedFloat.unpack
  dsimp only
  rw [if_neg infinite]
  by_cases field : v.toNat / 2 ^ 52 % 2 ^ 11 = 0
  · rw [if_pos (least.2 field)]
    by_cases fraction : v.toNat % 2 ^ 52 = 0
    · rw [dif_pos (none.2 fraction), dif_pos ⟨field, fraction⟩]
    · rw [dif_neg (mt none.1 fraction), dif_neg fun h => fraction h.2, dif_pos field]
      congr 1
      rw [toNat_unpackExponent, field]
      rfl
  · rw [if_neg (mt least.1 field), dif_neg fun h => field h.1, dif_neg field]
    congr 1
    rw [toNat_unpackExponent]
    rfl

/-! ## Doubles and their amounts -/

variable (x) in
/-- The bits of a double. -/
def bitsOf : BitVec Format.binary64.numBits := x.toModel.toBits.toBitVec

theorem unpack_toModel : x.toModel.unpack = UnpackedFloat.unpack Format.binary64 (bitsOf x) := rfl

theorem toNat_bitsOf : (bitsOf x).toNat = x.toBits.toNat := rfl

/-- The exponent field of a finite double is not all ones. -/
theorem field_ne (finite : x.isFinite) : (bitsOf x).toNat / 2 ^ 52 % 2 ^ 11 ≠ 2047 := by
  intro ones
  have infinite : unpackExponent (bitsOf x) = -1#_ := by
    rw [← BitVec.toNat_inj, toNat_unpackExponent]
    exact ones
  have none : (UnpackedFloat.unpack Format.binary64 (bitsOf x)).isFinite = false := by
    unfold UnpackedFloat.unpack
    dsimp only
    rw [if_pos infinite]
    split <;> rfl
  have finite : (UnpackedFloat.unpack Format.binary64 (bitsOf x)).isFinite = true := finite
  rw [none] at finite
  cases finite

theorem signOf_eq : signOf x = Sign.ofBitVec (unpackSign (bitsOf x)) := by
  have bound : x.toBits.toNat < 2 ^ 64 := x.toBits.toBitVec.isLt
  rw [ofBitVec_unpackSign, toNat_bitsOf, signOf, negativeSign]
  by_cases negative : 0x8000000000000000 ≤ x.toBits.toNat
  · rw [if_pos (decide_eq_true negative), if_neg (by omega)]
  · rw [if_neg (by simpa using negative), if_pos (by omega)]

namespace Binary

theorem ofFloat_eq (x : Float) : ofFloat x = if (bitsOf x).toNat / 2 ^ 52 % 2 ^ 11 = 0 then
    ⟨(bitsOf x).toNat % 2 ^ 52, -1074, false⟩ else
    ⟨(bitsOf x).toNat % 2 ^ 52 + 2 ^ 52, ((bitsOf x).toNat / 2 ^ 52 % 2 ^ 11 : ℕ) - 1075,
      (bitsOf x).toNat % 2 ^ 52 = 0 ∧ 1 < (bitsOf x).toNat / 2 ^ 52 % 2 ^ 11⟩ := rfl

/-- A finite double that is not zero is its sign and amount. -/
theorem unpack_ofFloat (finite : x.isFinite) (some : 0 < (ofFloat x).mantissa) :
    x.toModel.unpack = .finite (signOf x) (ofFloat x).mantissa (ofFloat x).exponent some := by
  have fields := ofFloat_eq x
  rw [unpack_toModel, unpack_eq _ (field_ne finite), signOf_eq]
  generalize ofFloat x = b at *
  by_cases field : (bitsOf x).toNat / 2 ^ 52 % 2 ^ 11 = 0
  · rw [if_pos field] at fields
    subst fields
    rw [dif_neg fun h => some.ne' h.2, dif_pos field]
  · rw [if_neg field] at fields
    subst fields
    rw [dif_neg fun h => field h.1, dif_neg field]

theorem canonical_ofFloat (finite : x.isFinite) (some : 0 < (ofFloat x).mantissa) : (ofFloat x).Canonical := by
  have fields := ofFloat_eq x
  have ones := field_ne finite
  have fraction : (bitsOf x).toNat % 2 ^ 52 < 2 ^ 52 := Nat.mod_lt _ (by norm_num)
  have bound : (bitsOf x).toNat / 2 ^ 52 % 2 ^ 11 < 2 ^ 11 := Nat.mod_lt _ (by norm_num)
  generalize ofFloat x = b at *
  generalize (bitsOf x).toNat / 2 ^ 52 % 2 ^ 11 = field at *
  generalize (bitsOf x).toNat % 2 ^ 52 = f at *
  by_cases zero : field = 0
  · rw [if_pos zero] at fields
    subst fields
    exact ⟨some, by dsimp only; omega, le_refl _, by norm_num, fun h => absurd h (lt_irrefl _), by simp⟩
  · rw [if_neg zero] at fields
    subst fields
    refine ⟨some, ?_, ?_, ?_, fun _ => ?_, ?_⟩ <;> dsimp only <;> try omega
    simp
    omega

end Binary

/-! ## Packing -/

/-- The exponent field of a double. -/
def Binary.field (b : Binary) : ℕ := if b.mantissa < 2 ^ 52 then 0 else (b.exponent + 1075).toNat

theorem toNat_pack (c : b.Canonical) : (UnpackedFloat.pack Format.binary64
    (.finite sign b.mantissa b.exponent c.pos)).toNat =
      sign.toBitVec.toNat * 2 ^ 63 + b.field * 2 ^ 52 + b.mantissa % 2 ^ 52 := by
  have ⟨pos, bits, least, greatest, _, _⟩ := c
  have biased : b.exponent + (Format.binary64.exponentBias : ℤ) + (52 : ℕ) = b.exponent + 1075 := by
    have bias : Format.binary64.exponentBias = 1023 := rfl
    rw [bias]
    omega
  unfold UnpackedFloat.pack
  dsimp only
  rw [biased, if_neg (by omega)]
  by_cases short : b.mantissa < 2 ^ 52
  · have log : b.mantissa.log2 < 52 := (Nat.log2_lt pos.ne').2 short
    have shorter : ¬ b.mantissa.log2 + 1 = Format.binary64.mantissaBits := by
      change ¬ b.mantissa.log2 + 1 = 53
      omega
    rw [if_neg shorter, toNat_packComponents, Binary.field, if_pos short, BitVec.toNat_ofNat]
    rfl
  · have log : 52 ≤ b.mantissa.log2 := (Nat.le_log2 pos.ne').2 (by omega)
    have log' : b.mantissa.log2 < 53 := (Nat.log2_lt pos.ne').2 bits
    have full : b.mantissa.log2 + 1 = Format.binary64.mantissaBits := by
      change b.mantissa.log2 + 1 = 53
      omega
    rw [if_pos full, toNat_packComponents, Binary.field, if_neg short, BitVec.toNat_ofNat, BitVec.toNat_ofNat,
      Nat.mod_eq_of_lt (a := (b.exponent + 1075).toNat) (by omega)]

/-- The sign, the field and the fraction are found again. -/
theorem pack_parts (c : b.Canonical) {n : ℕ}
    (same : n = sign.toBitVec.toNat * 2 ^ 63 + b.field * 2 ^ 52 + b.mantissa % 2 ^ 52) :
    n / 2 ^ 63 = sign.toBitVec.toNat ∧ n / 2 ^ 52 % 2 ^ 11 = b.field ∧ n % 2 ^ 52 = b.mantissa % 2 ^ 52 := by
  have ⟨pos, bits, least, greatest, normal, _⟩ := c
  have field : b.field < 2 ^ 11 := by
    unfold Binary.field
    split <;> omega
  omega

/-- **Canonical amounts are doubles.** -/
theorem unpack_pack (c : b.Canonical) : (Float.Model.pack (.finite sign b.mantissa b.exponent c.pos)).unpack =
    .finite sign b.mantissa b.exponent c.pos := by
  change UnpackedFloat.unpack _ (UnpackedFloat.pack _ _) = _
  have whole : (UnpackedFloat.pack Format.binary64 (.finite sign b.mantissa b.exponent c.pos)).toNat = _ := toNat_pack c
  obtain ⟨signs, field, fraction⟩ := pack_parts c whole
  have ⟨pos, bits, least, greatest, normal, _⟩ := c
  have same : Sign.ofBitVec (unpackSign (UnpackedFloat.pack Format.binary64
      (.finite sign b.mantissa b.exponent c.pos))) = sign := by
    rw [ofBitVec_unpackSign, signs]
    cases sign <;> rfl
  unfold Binary.field at field
  rw [unpack_eq _ (by rw [field]; split <;> omega), same]
  by_cases short : b.mantissa < 2 ^ 52
  · rw [if_pos short] at field
    rw [dif_neg (by omega), dif_pos field]
    congr 1 <;> omega
  · rw [if_neg short] at field
    rw [dif_neg (by omega), dif_neg (by omega)]
    congr 1 <;> omega

theorem ofModel_inj {f g : Float.Model} (same : f.toBits.toBitVec = g.toBits.toBitVec) :
    Float.ofModel f = Float.ofModel g := by
  obtain ⟨bits, _⟩ := f
  obtain ⟨bits', _⟩ := g
  cases UInt64.toBitVec_inj.1 same
  rfl

/-- **A finite double is the one of its sign and amount.** -/
theorem ofModel_pack_ofFloat (finite : x.isFinite) (some : 0 < (Binary.ofFloat x).mantissa) :
    Float.ofModel (Float.Model.pack (.finite (signOf x) (Binary.ofFloat x).mantissa (Binary.ofFloat x).exponent
      some)) = x := by
  refine ofModel_inj (g := x.toModel) (BitVec.eq_of_toNat_eq ?_)
  have c := Binary.canonical_ofFloat finite some
  refine (toNat_pack c).trans ?_
  change _ = (bitsOf x).toNat
  have signs : (signOf x).toBitVec.toNat = (bitsOf x).toNat / 2 ^ 63 := by
    have bound : (bitsOf x).toNat < 2 ^ 64 := (bitsOf x).isLt
    rw [signOf_eq, ofBitVec_unpackSign]
    split
    · next positive => rw [positive]; rfl
    · next negative =>
      change 1 = _
      omega
  rw [signs, Binary.field, Binary.ofFloat_eq]
  by_cases field : (bitsOf x).toNat / 2 ^ 52 % 2 ^ 11 = 0
  · rw [if_pos field]
    dsimp only
    rw [if_pos (Nat.mod_lt _ (by norm_num))]
    omega
  · rw [if_neg field]
    dsimp only
    rw [if_neg (by omega)]
    omega

/-- A double with the other sign. -/
theorem neg_ofModel_pack (c : b.Canonical) :
    -Float.ofModel (Float.Model.pack (.finite .positive b.mantissa b.exponent c.pos)) =
      Float.ofModel (Float.Model.pack (.finite .negative b.mantissa b.exponent c.pos)) := by
  change Float.ofModel (Float.Model.pack (UnpackedFloat.neg (Float.Model.unpack _))) = _
  rw [unpack_pack c]
  rfl

theorem bitsOf_zero : (bitsOf 0.0).toNat = 0 := by decide +kernel

theorem bitsOf_neg_zero : (bitsOf (-0.0)).toNat = 2 ^ 63 := by decide +kernel

/-- A double without an amount is zero. -/
theorem eq_zero (none : (Binary.ofFloat x).mantissa = 0) : x = if negativeSign x then -0.0 else 0.0 := by
  have bound : (bitsOf x).toNat < 2 ^ 64 := (bitsOf x).isLt
  have bits : (bitsOf x).toNat % 2 ^ 63 = 0 := by
    rw [Binary.ofFloat_eq] at none
    by_cases field : (bitsOf x).toNat / 2 ^ 52 % 2 ^ 11 = 0
    · rw [if_pos field] at none
      dsimp only at none
      omega
    · rw [if_neg field] at none
      exact absurd none (Nat.succ_ne_zero _)
  have sign : negativeSign x = decide (0x8000000000000000 ≤ (bitsOf x).toNat) := rfl
  split
  · next negative =>
    rw [sign, decide_eq_true_eq] at negative
    refine ofModel_inj (f := x.toModel) (g := (-0.0 : Float).toModel) (BitVec.eq_of_toNat_eq ?_)
    exact Eq.trans (show (bitsOf x).toNat = 2 ^ 63 by omega) bitsOf_neg_zero.symm
  · next positive =>
    rw [sign, decide_eq_true_eq] at positive
    refine ofModel_inj (f := x.toModel) (g := (0.0 : Float).toModel) (BitVec.eq_of_toNat_eq ?_)
    exact Eq.trans (show (bitsOf x).toNat = 0 by omega) bitsOf_zero.symm

end

end Workflows
