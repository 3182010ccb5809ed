import Mathlib
import Raster.Proofs.Number.Magnitude
/-!
# Doubles of whole numbers

A whole number below `2 ^ 53` has a double of its own: its mantissa is the number, shifted until it
has 53 bits.  Rounding does not change such a double (`roundWithAccuracy_scaled`), so products and
quotients that come out as whole numbers below `2 ^ 53` are exact (`IsWhole.mul`,
`IsWhole.div`), and rounding to a whole number gives the number back (`IsWhole.clampedNat`).
-/

namespace Raster

open Float.Model Float.Model.UnpackedFloat

/-! ## Mantissas of 53 bits -/

lemma log2_mul_two_pow {n : Nat} (hn : n ≠ 0) (k : Nat) : (n * 2 ^ k).log2 = n.log2 + k := by
  have hpos : n * 2 ^ k ≠ 0 := Nat.mul_ne_zero hn (Nat.two_pow_pos k).ne'
  rw [Nat.log2_eq_iff hpos, Nat.pow_add, Nat.add_right_comm, Nat.pow_add]
  exact ⟨Nat.mul_le_mul_right _ (Nat.log2_self_le hn),
    Nat.mul_lt_mul_of_pos_right Nat.lt_log2_self (Nat.two_pow_pos k)⟩

lemma log2_le_of_lt {n : Nat} (hn : n ≠ 0) (h : n < 2 ^ 53) : n.log2 ≤ 52 :=
  Nat.le_of_lt_succ ((Nat.log2_lt hn).2 h)

/-- A product has as many bits as its factors together, or one less. -/
lemma log2_mul_bounds {m n : Nat} (hm : m ≠ 0) (hn : n ≠ 0) :
    m.log2 + n.log2 ≤ (m * n).log2 ∧ (m * n).log2 ≤ m.log2 + n.log2 + 1 := by
  have hmn := Nat.mul_ne_zero hm hn
  constructor
  · rw [Nat.le_log2 hmn, Nat.pow_add]
    exact Nat.mul_le_mul (Nat.log2_self_le hm) (Nat.log2_self_le hn)
  · have hsplit : m.log2 + n.log2 + 2 = (m.log2 + 1) + (n.log2 + 1) := by omega
    rw [← Nat.lt_succ_iff, Nat.log2_lt hmn]
    show m * n < 2 ^ (m.log2 + n.log2 + 2)
    rw [hsplit, Nat.pow_add]
    exact Nat.mul_lt_mul'' Nat.lt_log2_self Nat.lt_log2_self

/-- The mantissa of a whole number: the number itself, shifted until it has 53 bits. -/
def wholeMantissa (n : Nat) : Nat := n * 2 ^ (52 - n.log2)

section Mantissa

variable {n : Nat}

lemma wholeMantissa_pos (hn : n ≠ 0) : 0 < wholeMantissa n :=
  Nat.mul_pos (Nat.pos_of_ne_zero hn) (Nat.two_pow_pos _)

lemma log2_wholeMantissa (hn : n ≠ 0) (h : n < 2 ^ 53) : (wholeMantissa n).log2 = 52 := by
  rw [wholeMantissa, log2_mul_two_pow hn, Nat.add_sub_cancel' (log2_le_of_lt hn h)]

end Mantissa

/-- A whole number, taken apart into its sign, its mantissa and its exponent. -/
def unpackedWhole (n : Nat) : UnpackedFloat :=
  if h : n = 0 then .zero .positive
  else .finite .positive (wholeMantissa n) (n.log2 - 52) (wholeMantissa_pos h)

lemma unpackedWhole_of_ne {n : Nat} (hn : n ≠ 0) :
    unpackedWhole n =
      .finite .positive (wholeMantissa n) (n.log2 - 52) (wholeMantissa_pos hn) :=
  dif_neg hn

/-! ## Packing -/

/-- A double with a mantissa of 53 bits and an exponent in range is found again in its bits. -/
lemma unpack_pack_normal (s : Sign) {m : Nat} {e : Int} (hm : 0 < m) (hlog : m.log2 = 52)
    (hlow : -1074 ≤ e) (hhigh : e ≤ 971) :
    UnpackedFloat.unpack Format.binary64 (UnpackedFloat.pack Format.binary64 (.finite s m e hm)) =
      .finite s m e hm := by
  obtain ⟨hle, hlt⟩ := (Nat.log2_eq_iff hm.ne').1 hlog
  have hbias : (Format.binary64.exponentBias : Int) = 1023 := rfl
  have hfield : (e + Format.binary64.exponentBias +
      Format.binary64.mantissaBitsWithoutImplicit).toNat = (e + 1075).toNat := by
    rw [hbias]
    show (e + 1023 + 52).toNat = _
    omega
  rw [UnpackedFloat.pack]
  simp only [hfield, hlog]
  have hfits : ¬2 ^ Format.binary64.exponentBits ≤ (e + 1075).toNat + 1 := by
    show ¬2048 ≤ (e + 1075).toNat + 1
    omega
  have hbits : 52 + 1 = Format.binary64.mantissaBits := rfl
  rw [if_neg hfits, if_pos hbits, UnpackedFloat.unpack]
  simp only [unpackMantissa_packComponents, unpackExponent_packComponents,
    unpackSign_packComponents, Sign.ofBitVec_toBitVec]
  have hexponent : (BitVec.ofNat 11 (e + 1075).toNat).toNat = (e + 1075).toNat :=
    Nat.mod_eq_of_lt (by omega)
  have hones : BitVec.ofNat 11 (e + 1075).toNat ≠ -1#11 := by
    intro h
    have hnat : (e + 1075).toNat = 2047 := hexponent.symm.trans (congrArg BitVec.toNat h)
    omega
  have hzero : BitVec.ofNat 11 (e + 1075).toNat ≠ 0#11 := by
    intro h
    have hnat : (e + 1075).toNat = 0 := hexponent.symm.trans (congrArg BitVec.toNat h)
    omega
  have hmantissa : (1#1 ++ BitVec.ofNat 52 m).toNat = m := by
    rw [BitVec.toNat_append, ← Nat.shiftLeft_add_eq_or_of_lt (BitVec.ofNat 52 m).isLt,
      BitVec.toNat_ofNat]
    show 1 <<< 52 + m % 2 ^ 52 = m
    omega
  rw [if_neg hones, if_neg hzero]
  congr 1
  rw [hexponent, hbias]
  show ((e + 1075).toNat : Int) - (1023 + 52) = e
  omega

lemma unpack_pack_whole {n : Nat} (h : n < 2 ^ 53) :
    (Float.Model.pack (unpackedWhole n)).unpack = unpackedWhole n := by
  by_cases hn : n = 0
  · subst hn
    rfl
  · have hlog := log2_le_of_lt hn h
    rw [unpackedWhole_of_ne hn]
    exact unpack_pack_normal _ _ (log2_wholeMantissa hn h) (by omega) (by omega)

/-! ## Rounding -/

lemma targetExponent_eq (t : Int) : Format.binary64.targetExponent t = max (t - 53) (-1074) := rfl

/-- Shifting zeros out loses nothing. -/
lemma shiftRight_scaled (m k : Nat) :
    ExtendedMantissa.ofMantissaAndAccuracy (m * 2 ^ k) .exact >>> k =
      ExtendedMantissa.ofMantissaAndAccuracy m .exact := by
  induction k generalizing m with
  | zero =>
    rw [Nat.pow_zero, Nat.mul_one]
    rfl
  | succ k ih =>
    have hstep : m * 2 ^ (k + 1) = m * 2 * 2 ^ k := by ring
    show ExtendedMantissa.shiftRightOne
      (ExtendedMantissa.ofMantissaAndAccuracy (m * 2 ^ (k + 1)) .exact >>> k) = _
    rw [hstep, ih]
    simp [ExtendedMantissa.shiftRightOne, ExtendedMantissa.ofMantissaAndAccuracy]

/-- A number with 53 bits or more, all of them zero behind the 53rd, is rounded to itself. -/
lemma roundWithAccuracy_scaled {n k : Nat} (hn : n ≠ 0) (h : n < 2 ^ 53) (hk : 52 ≤ n.log2 + k) :
    roundWithAccuracy Format.binary64 .positive (n * 2 ^ k) (-k) .exact = unpackedWhole n := by
  have hlog := log2_le_of_lt hn h
  -- the bits behind the 53rd are shifted out
  have hshift : shiftToTargetExponent Format.binary64 (n * 2 ^ k) (-k) .exact =
      (ExtendedMantissa.ofMantissaAndAccuracy (wholeMantissa n) .exact, (n.log2 : Int) - 52) := by
    have hsplit : n * 2 ^ k = wholeMantissa n * 2 ^ (n.log2 + k - 52) := by
      rw [wholeMantissa, Nat.mul_assoc, ← Nat.pow_add]
      congr 2
      omega
    have hamount : (max (((n.log2 + k : Nat) : Int) + 1 + -k - 53) (-1074) - -k).toNat =
        n.log2 + k - 52 := by
      omega
    simp only [shiftToTargetExponent, shiftToExponent, totalExponent, targetExponent_eq,
      log2_mul_two_pow hn, hamount]
    rw [hsplit, shiftRight_scaled]
    exact congrArg _ (by omega)
  -- a second time there is nothing to shift
  have hagain :
      shiftToTargetExponent Format.binary64 (wholeMantissa n) ((n.log2 : Int) - 52) .exact =
        (ExtendedMantissa.ofMantissaAndAccuracy (wholeMantissa n) .exact, (n.log2 : Int) - 52) := by
    have hamount : (max (((52 : Nat) : Int) + 1 + ((n.log2 : Int) - 52) - 53) (-1074) -
        ((n.log2 : Int) - 52)).toNat = 0 := by
      omega
    simp only [shiftToTargetExponent, shiftToExponent, totalExponent, targetExponent_eq,
      log2_wholeMantissa hn h, hamount]
    exact congrArg _ (by omega)
  rw [roundWithAccuracy, hshift]
  dsimp only
  have hrounded :
      (ExtendedMantissa.ofMantissaAndAccuracy (wholeMantissa n) .exact).roundedMantissa =
        wholeMantissa n := rfl
  rw [hrounded, hagain, unpackedWhole_of_ne hn]
  exact dif_neg (wholeMantissa_pos hn).ne'

/-! ## Arithmetic -/

/-- A double is a whole number below `2 ^ 53`. -/
structure IsWhole (x : Float) (n : Nat) : Prop where
  lt : n < 2 ^ 53
  unpack_eq : x.toModel.unpack = unpackedWhole n

variable {x y : Float} {m n : Nat}

lemma isWhole_nearestDouble (h : n < 2 ^ 53) : IsWhole (nearestDouble n) n := by
  refine ⟨h, ?_⟩
  have htoNat : (UInt64.ofNat n).toNat = n :=
    Nat.mod_eq_of_lt (Nat.lt_trans h (by decide))
  have hround : UnpackedFloat.ofUInt64 Format.binary64 (UInt64.ofNat n) = unpackedWhole n := by
    rw [UnpackedFloat.ofUInt64, htoNat, UnpackedFloat.ofNat, UnpackedFloat.ofInt,
      UnpackedFloat.normalize]
    by_cases hn : n = 0
    · subst hn
      rfl
    · have hpos : compare (n : Int) 0 = .gt := Int.compare_eq_gt.2 (by omega)
      have hlog := log2_le_of_lt hn h
      have hamount : (0 - max (((n.log2 : Nat) : Int) + 1 + 0 - 53) (-1074)).toNat =
          52 - n.log2 := by
        omega
      have hexponent : (0 : Int) - ((52 - n.log2 : Nat) : Int) = -((52 - n.log2 : Nat) : Int) := by
        omega
      rw [hpos]
      simp only [UnpackedFloat.round, decreaseExponent, totalExponent, targetExponent_eq,
        Int.toNat_natCast, hamount, hexponent, Nat.shiftLeft_eq]
      exact roundWithAccuracy_scaled hn h (by omega)
  show (Float.Model.pack (UnpackedFloat.ofUInt64 Format.binary64 (UInt64.ofNat n))).unpack = _
  rw [hround, unpack_pack_whole h]

lemma mul_unpackedWhole (hm : m < 2 ^ 53) (hn : n < 2 ^ 53) (h : m * n < 2 ^ 53) :
    UnpackedFloat.mul Format.binary64 (unpackedWhole m) (unpackedWhole n) =
      unpackedWhole (m * n) := by
  by_cases hm0 : m = 0
  · subst hm0
    rw [Nat.zero_mul]
    by_cases hn0 : n = 0
    · subst hn0
      rfl
    · rw [unpackedWhole_of_ne hn0]
      rfl
  · by_cases hn0 : n = 0
    · subst hn0
      rw [Nat.mul_zero, unpackedWhole_of_ne hm0]
      rfl
    · have hlogm := log2_le_of_lt hm0 hm
      have hlogn := log2_le_of_lt hn0 hn
      have hbits := (log2_mul_bounds hm0 hn0).1
      have hmantissa : wholeMantissa m * wholeMantissa n =
          m * n * 2 ^ (52 - m.log2 + (52 - n.log2)) := by
        rw [wholeMantissa, wholeMantissa, Nat.pow_add]
        ring
      have hexponent : (m.log2 : Int) - 52 + (n.log2 - 52) =
          -((52 - m.log2 + (52 - n.log2) : Nat) : Int) := by
        omega
      rw [unpackedWhole_of_ne hm0, unpackedWhole_of_ne hn0]
      show roundWithAccuracy _ _ (wholeMantissa m * wholeMantissa n)
        ((m.log2 : Int) - 52 + (n.log2 - 52)) _ = _
      rw [hmantissa, hexponent]
      exact roundWithAccuracy_scaled (Nat.mul_ne_zero hm0 hn0) h (by omega)

/-- A product that is a whole number below `2 ^ 53` is exact. -/
lemma IsWhole.mul (hx : IsWhole x m) (hy : IsWhole y n) (h : m * n < 2 ^ 53) :
    IsWhole (x * y) (m * n) := by
  refine ⟨h, ?_⟩
  show (Float.Model.pack
    (UnpackedFloat.mul Format.binary64 x.toModel.unpack y.toModel.unpack)).unpack = _
  rw [hx.unpack_eq, hy.unpack_eq, mul_unpackedWhole hx.lt hy.lt h, unpack_pack_whole h]

/-- Dividing a product by a factor leaves no remainder. -/
lemma divCore_wholeMantissa (hm : m ≠ 0) (hn : n ≠ 0) (h : m * n < 2 ^ 53) :
    ∃ k : Nat, 52 ≤ m.log2 + k ∧
      divCore Format.binary64 (wholeMantissa (m * n)) ((m * n).log2 - 52) (wholeMantissa n)
        (n.log2 - 52) = (m * 2 ^ k, -(k : Int), .exact) := by
  have hmn := Nat.mul_ne_zero hm hn
  have hlogm : m.log2 ≤ 52 :=
    log2_le_of_lt hm (Nat.lt_of_le_of_lt (Nat.le_mul_of_pos_right m (Nat.pos_of_ne_zero hn)) h)
  have hn53 : n < 2 ^ 53 :=
    Nat.lt_of_le_of_lt (Nat.le_mul_of_pos_left n (Nat.pos_of_ne_zero hm)) h
  have hlogn := log2_le_of_lt hn hn53
  have hlogmn := log2_le_of_lt hmn h
  obtain ⟨hlow, hhigh⟩ := log2_mul_bounds hm hn
  obtain ⟨k, hk⟩ : ∃ k, k + (m * n).log2 = 53 + n.log2 :=
    ⟨53 + n.log2 - (m * n).log2, by omega⟩
  refine ⟨k, by omega, ?_⟩
  have htarget : min (((m * n).log2 : Int) - 52 - (n.log2 - 52))
      (max (((52 : Nat) : Int) + 1 + ((m * n).log2 - 52) -
        (((52 : Nat) : Int) + 1 + (n.log2 - 52)) - 53) (-1074)) = -(k : Int) := by
    omega
  have hamount : (((m * n).log2 : Int) - 52 - (n.log2 - 52) - -(k : Int)).toNat = 53 := by
    omega
  have hmantissa : wholeMantissa (m * n) * 2 ^ 53 = m * 2 ^ k * wholeMantissa n := by
    have hpow : 2 ^ (52 - (m * n).log2) * 2 ^ 53 = 2 ^ k * 2 ^ (52 - n.log2) := by
      rw [← Nat.pow_add, ← Nat.pow_add]
      congr 1
      omega
    calc wholeMantissa (m * n) * 2 ^ 53
        = m * n * (2 ^ (52 - (m * n).log2) * 2 ^ 53) := Nat.mul_assoc _ _ _
      _ = m * n * (2 ^ k * 2 ^ (52 - n.log2)) := by rw [hpow]
      _ = m * 2 ^ k * wholeMantissa n := by
        rw [wholeMantissa]
        ring
  simp only [divCore, totalExponent, targetExponent_eq, log2_wholeMantissa hmn h,
    log2_wholeMantissa hn hn53, htarget, hamount, Nat.shiftLeft_eq, hmantissa]
  rw [Nat.mul_div_cancel _ (wholeMantissa_pos hn), Nat.mul_mod_left]
  rfl

/-- A quotient that is a whole number is exact. -/
lemma IsWhole.div (hx : IsWhole x (m * n)) (hy : IsWhole y n) (hn : n ≠ 0) :
    IsWhole (x / y) m := by
  have hm : m < 2 ^ 53 :=
    Nat.lt_of_le_of_lt (Nat.le_mul_of_pos_right m (Nat.pos_of_ne_zero hn)) hx.lt
  have hround : UnpackedFloat.div Format.binary64 (unpackedWhole (m * n)) (unpackedWhole n) =
      unpackedWhole m := by
    by_cases hm0 : m = 0
    · subst hm0
      rw [Nat.zero_mul, unpackedWhole_of_ne hn]
      rfl
    · obtain ⟨k, hk, hcore⟩ := divCore_wholeMantissa hm0 hn hx.lt
      rw [unpackedWhole_of_ne (Nat.mul_ne_zero hm0 hn), unpackedWhole_of_ne hn]
      show (match divCore Format.binary64 (wholeMantissa (m * n)) ((m * n).log2 - 52)
          (wholeMantissa n) (n.log2 - 52) with
        | (q, e, accuracy) => roundWithAccuracy Format.binary64 _ q e accuracy) = _
      rw [hcore]
      exact roundWithAccuracy_scaled hm0 hm hk
  refine ⟨hm, ?_⟩
  show (Float.Model.pack
    (UnpackedFloat.div Format.binary64 x.toModel.unpack y.toModel.unpack)).unpack = _
  rw [hx.unpack_eq, hy.unpack_eq, hround, unpack_pack_whole hm]

/-! ## The number that a double stands for -/

/-- The fraction field of a 64-bit pattern. -/
def fractionField (b : BitVec 64) : Nat := (@unpackMantissa Format.binary64 b).toNat

/-- Whether the sign bit of a 64-bit pattern is set. -/
def isNegative (b : BitVec 64) : Bool := (@unpackSign Format.binary64 b).toNat == 1

/-- A pattern is read field by field. -/
lemma ofBits_eq (b : BitVec 64) :
    Binary64.ofBits b.toNat =
      if exponentField b = 2047 then
        if fractionField b = 0 then .infinite (isNegative b) else .nan
      else if exponentField b = 0 then .finite (isNegative b) (fractionField b) (-1074)
      else .finite (isNegative b) (fractionField b + 1 <<< 52) (exponentField b - 1075) := rfl

lemma isNegative_eq_false {b : BitVec 64}
    (h : Sign.ofBitVec (@unpackSign Format.binary64 b) = .positive) : isNegative b = false := by
  by_cases hs : @unpackSign Format.binary64 b = 0#1
  · rw [isNegative, hs]
    rfl
  · rw [Sign.ofBitVec, if_neg hs] at h
    cases h

/-- A positive double stands for the number that it unpacks to. -/
lemma ofBits_of_unpack_finite {b : BitVec 64} {m : Nat} {e : Int} {hm : 0 < m}
    (h : UnpackedFloat.unpack Format.binary64 b = .finite .positive m e hm) :
    Binary64.ofBits b.toNat = .finite false m e := by
  have hbias : ((Format.binary64.exponentBias : Nat) : Int) = 1023 := rfl
  unfold UnpackedFloat.unpack at h
  dsimp only at h
  rw [ofBits_eq]
  split at h
  · split at h <;> cases h
  · rename_i hones
    have hfinite : exponentField b ≠ 2047 := fun h => hones (BitVec.eq_of_toNat_eq h)
    rw [if_neg hfinite]
    split at h
    · rename_i hzero
      split at h
      · cases h
      · injection h with hs hmantissa hexponent
        have hfield : exponentField b = 0 := congrArg BitVec.toNat hzero
        have he : (-1074 : Int) = e := by
          rw [← hexponent, hzero, hbias]
          rfl
        rw [if_pos hfield, isNegative_eq_false hs, fractionField, hmantissa, he]
    · rename_i hzero
      injection h with hs hmantissa hexponent
      have hfraction : fractionField b + 1 <<< 52 = m := by
        rw [← hmantissa, BitVec.toNat_append, ← Nat.shiftLeft_add_eq_or_of_lt (BitVec.isLt _)]
        exact Nat.add_comm _ _
      have hfield : exponentField b ≠ 0 := fun h => hzero (BitVec.eq_of_toNat_eq h)
      rw [hbias] at hexponent
      rw [if_neg hfield, isNegative_eq_false hs, hfraction]
      exact congrArg _ hexponent

lemma ofBits_of_unpack_zero {b : BitVec 64}
    (h : UnpackedFloat.unpack Format.binary64 b = .zero .positive) :
    Binary64.ofBits b.toNat = .finite false 0 (-1074) := by
  unfold UnpackedFloat.unpack at h
  dsimp only at h
  rw [ofBits_eq]
  split at h
  · split at h <;> cases h
  · rename_i hones
    split at h
    · rename_i hzero
      split at h
      · rename_i hmantissa
        injection h with hs
        have hfinite : exponentField b ≠ 2047 := fun h => hones (BitVec.eq_of_toNat_eq h)
        have hfield : exponentField b = 0 := congrArg BitVec.toNat hzero
        rw [if_neg hfinite, if_pos hfield, isNegative_eq_false hs, fractionField, hmantissa]
        rfl
      · cases h
    · cases h

lemma magnitude_down_scaled (n k : Nat) : Rounding.down.magnitude (n * 2 ^ k) (-k) = n := by
  cases k with
  | zero =>
    show (n * 2 ^ 0) <<< 0 = n
    rw [Nat.shiftLeft_zero, Nat.pow_zero, Nat.mul_one]
  | succ k =>
    show n * 2 ^ (k + 1) / 1 <<< (k + 1) = n
    rw [Nat.one_shiftLeft, Nat.mul_div_cancel _ (Nat.two_pow_pos _)]

lemma IsWhole.ofFloat_of_ne (hx : IsWhole x n) (hn : n ≠ 0) :
    Binary64.ofFloat x = .finite false (wholeMantissa n) (n.log2 - 52) :=
  ofBits_of_unpack_finite (hx.unpack_eq.trans (unpackedWhole_of_ne hn))

/-- A whole number is rounded down to itself. -/
lemma IsWhole.clampedNat (hx : IsWhole x n) {max : Nat} (hmax : n ≤ max) :
    Rounding.down.clampedNat max x = n := by
  rw [Rounding.clampedNat]
  by_cases hn : n = 0
  · subst hn
    have hzero : Binary64.ofFloat x = .finite false 0 (-1074) := ofBits_of_unpack_zero hx.unpack_eq
    rw [hzero]
    exact Nat.min_eq_right (Nat.zero_le max)
  · rw [hx.ofFloat_of_ne hn]
    have hlog := log2_le_of_lt hn hx.lt
    have hwhole : Rounding.down.magnitude (wholeMantissa n) ((n.log2 : Int) - 52) = n := by
      have hexponent : (n.log2 : Int) - 52 = -((52 - n.log2 : Nat) : Int) := by omega
      rw [hexponent]
      exact magnitude_down_scaled n (52 - n.log2)
    show min max (Rounding.down.magnitude (wholeMantissa n) ((n.log2 : Int) - 52)) = n
    rw [hwhole, Nat.min_eq_right hmax]

end Raster
