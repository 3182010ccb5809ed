import Mathlib.Tactic.Common
import Raster.Number.Binary64
/-!
# Doubles that are not large

A range check compares doubles, and NaN passes it.  Here we read off the bits of a double that
is neither below zero nor above a thousand: it is NaN, or its exponent field is at most that of
a thousand (`isModest_of_range`).  The same then holds of its absolute value
(`isModest_abs_of_range`), and such a double rounds down to less than 1024
(`IsModest.clampedNat_lt`).
-/

namespace Raster

open Float.Model Float.Model.UnpackedFloat

/-- The exponent field of a 64-bit pattern. -/
def exponentField (b : BitVec 64) : Nat := (@unpackExponent Format.binary64 b).toNat

lemma exponentField_eq (b : BitVec 64) : exponentField b = b.toNat >>> 52 % 1 <<< 11 := rfl

@[simp] lemma exponentField_packComponents (s : Sign) (e : BitVec 11) (m : BitVec 52) :
    exponentField (packComponents Format.binary64 s e m) = e.toNat :=
  congrArg BitVec.toNat (@unpackExponent_packComponents Format.binary64 s e m)

/-- A double that is NaN, or whose exponent field is at most that of a thousand. -/
def IsModest (x : Float) : Prop :=
  x.toBits.toBitVec = packedNaN Format.binary64 ∨ exponentField x.toBits.toBitVec ≤ 1032

/-! ## Rounding down -/

lemma magnitude_down_lt {mantissa : Nat} {exponent : Int} (hm : mantissa < 1 <<< 53)
    (he : exponent ≤ -43) : Rounding.down.magnitude mantissa exponent < 1024 := by
  cases exponent with
  | ofNat e =>
    have : (0 : Int) ≤ Int.ofNat e := Int.natCast_nonneg e
    omega
  | negSucc e =>
    show mantissa / 1 <<< (e + 1) < 1024
    rw [Nat.one_shiftLeft]
    have hpow : 2 ^ 43 ≤ 2 ^ (e + 1) := Nat.pow_le_pow_right (by decide) (by omega)
    refine Nat.div_lt_of_lt_mul (Nat.lt_of_lt_of_le hm ?_)
    calc 1 <<< 53 = 2 ^ 43 * 1024 := by decide
      _ ≤ 2 ^ (e + 1) * 1024 := Nat.mul_le_mul_right _ hpow

/-- A modest double rounds down to less than 1024. -/
lemma IsModest.clampedNat_lt {x : Float} (h : IsModest x) (max : Nat) :
    Rounding.down.clampedNat max x < 1024 := by
  have hfraction : x.toBits.toNat % 1 <<< 52 < 1 <<< 52 := Nat.mod_lt _ (by decide)
  rcases h with h | h
  · have hx : x.toBits.toNat = (packedNaN Format.binary64).toNat := congrArg BitVec.toNat h
    have hnan : Binary64.ofFloat x = .nan := by
      rw [Binary64.ofFloat, hx]
      rfl
    rw [Rounding.clampedNat, hnan]
    exact (by decide : 0 < 1024)
  · rw [exponentField_eq] at h
    change x.toBits.toNat >>> 52 % 1 <<< 11 ≤ 1032 at h
    unfold Rounding.clampedNat Binary64.ofFloat Binary64.ofBits
    -- a small exponent field is not the one of NaN and the infinities
    rw [if_neg (by omega)]
    by_cases hzero : x.toBits.toNat >>> 52 % 1 <<< 11 = 0
    · rw [if_pos hzero]
      dsimp only
      split
      · decide
      · exact Nat.lt_of_le_of_lt (Nat.min_le_right _ _)
          (magnitude_down_lt (by omega) (by decide))
    · rw [if_neg hzero]
      dsimp only
      split
      · decide
      · exact Nat.lt_of_le_of_lt (Nat.min_le_right _ _)
          (magnitude_down_lt (by omega) (by omega))

/-! ## Passing a range check -/

lemma float_lt_iff {x y : Float} :
    x < y ↔ x.toModel.unpack.compare y.toModel.unpack = some .lt := by
  show decide ((x.toModel.unpack.compare y.toModel.unpack == some .lt) = true) = true ↔ _
  rw [decide_eq_true_iff, beq_iff_eq]

/-- What is neither below zero nor above a thousand is NaN, zero, or positive with an exponent
that is not above that of a thousand. -/
lemma unpack_of_range {x : Float} (hlow : ¬x < 0.0) (hhigh : ¬(1000.0 : Float) < x) :
    x.toModel.unpack = .notANumber ∨ (∃ s, x.toModel.unpack = .zero s) ∨
      ∃ m e hm, x.toModel.unpack = .finite .positive m e hm ∧ e ≤ -43 := by
  have hzero : (0.0 : Float).toModel.unpack = .zero .positive := rfl
  have hthousand : (1000.0 : Float).toModel.unpack =
      .finite .positive 8796093022208000 (-43) (by decide) := rfl
  rw [float_lt_iff, hzero] at hlow
  rw [float_lt_iff, hthousand] at hhigh
  cases hx : x.toModel.unpack with
  | notANumber => exact Or.inl rfl
  | zero s => exact Or.inr (Or.inl ⟨s, rfl⟩)
  | infinity s =>
    rw [hx] at hlow hhigh
    cases s with
    | negative => exact absurd rfl hlow
    | positive => exact absurd rfl hhigh
  | finite s m e hm =>
    rw [hx] at hlow hhigh
    cases s with
    | negative => exact absurd rfl hlow
    | positive =>
      refine Or.inr (Or.inr ⟨m, e, hm, rfl, ?_⟩)
      by_contra he
      -- the greater exponent alone puts the number above a thousand
      have hlt : compare (-43 : Int) e = .lt := Int.compare_eq_lt.2 (by omega)
      apply hhigh
      show some ((compare (-43 : Int) e).then (compare 8796093022208000 m)) = some .lt
      rw [hlt]
      rfl

lemma isModest_of_range {x : Float} (hlow : ¬x < 0.0) (hhigh : ¬(1000.0 : Float) < x) :
    IsModest x := by
  have hx := unpack_of_range hlow hhigh
  unfold Float.Model.unpack UnpackedFloat.unpack at hx
  dsimp only at hx
  by_cases hones : @unpackExponent Format.binary64 x.toModel.toBits.toBitVec = -1#11
  · -- NaN or an infinity, and no infinity is in range
    rw [if_pos hones] at hx
    by_cases hmantissa : @unpackMantissa Format.binary64 x.toModel.toBits.toBitVec = 0#52
    · rw [if_pos hmantissa] at hx
      rcases hx with hx | ⟨s, hx⟩ | ⟨m, e, hm, hx, he⟩ <;> cases hx
    · exact Or.inl (x.toModel.valid.eq_packedNaN hones hmantissa)
  · right
    show (@unpackExponent Format.binary64 x.toModel.toBits.toBitVec).toNat ≤ 1032
    rw [if_neg hones] at hx
    by_cases hzero : @unpackExponent Format.binary64 x.toModel.toBits.toBitVec = 0#11
    · rw [hzero]
      decide
    · rw [if_neg hzero] at hx
      rcases hx with hx | ⟨s, hx⟩ | ⟨m, e, hm, hx, he⟩
      · cases hx
      · cases hx
      · injection hx with _ _ hx
        have hbias : (Format.binary64.exponentBias : Int) = 1023 := rfl
        omega

lemma exponentField_pack_le {s : Sign} {m : Nat} {e : Int} {hm : 0 < m} (he : e ≤ -43) :
    exponentField (UnpackedFloat.pack Format.binary64 (.finite s m e hm)) ≤ 1032 := by
  have hbias : (Format.binary64.exponentBias : Int) = 1023 := rfl
  unfold UnpackedFloat.pack
  dsimp only
  rw [if_neg (by omega)]
  split
  · rw [exponentField_packComponents, BitVec.toNat_ofNat]
    exact Nat.le_trans (Nat.mod_le _ _) (by omega)
  · rw [exponentField_packComponents]
    decide

lemma isModest_abs_of_range {x : Float} (hlow : ¬x < 0.0) (hhigh : ¬(1000.0 : Float) < x) :
    IsModest x.abs := by
  show UnpackedFloat.pack Format.binary64 x.toModel.unpack.abs = _ ∨
    exponentField (UnpackedFloat.pack Format.binary64 x.toModel.unpack.abs) ≤ 1032
  rcases unpack_of_range hlow hhigh with h | ⟨s, h⟩ | ⟨m, e, hm, h, he⟩
  · rw [h]
    exact Or.inl rfl
  · rw [h]
    exact Or.inr (by cases s <;> decide)
  · rw [h]
    exact Or.inr (exponentField_pack_le he)

end Raster
