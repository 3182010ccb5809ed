import Raster.Pixel.Pixel
import Raster.Proofs.Number.Value
/-!
# Levels and their doubles

A gray level of at most 32 bits is a double (`hasValue_levelDouble`); one of 64 bits becomes the
nearest double.  On the way back, a double that is less than a half away from a level becomes this
level (`HasValue.quantize_eq`).
-/

namespace Raster

variable {x : Float} {a : ℚ}

lemma Depth.top_lt (d : Depth) : d.top < 2 ^ d.bits := by
  rw [Depth.top, Nat.one_shiftLeft]
  exact Nat.sub_lt (Nat.two_pow_pos _) Nat.one_pos

lemma Depth.bits_le {d : Depth} (hd : d ≠ .sixtyFour) : d.bits ≤ 32 := by
  cases d with
  | eight | sixteen | thirtyTwo => decide
  | sixtyFour => exact absurd rfl hd

lemma toNat_lt {d : Depth} (v : d.Level) : v.toNat < 2 ^ 64 := by
  refine v.isLt.trans_le (Nat.pow_le_pow_right (by norm_num) ?_)
  cases d <;> decide

lemma toNat_le_top {d : Depth} (v : d.Level) : v.toNat ≤ d.top := by
  have := v.isLt
  rw [Depth.top, Nat.one_shiftLeft]
  omega

/-- A double becomes the nearest level, but none above the greatest one. -/
lemma HasValue.toNat_quantize (hx : HasValue x a) (d : Depth) :
    (d.quantize x).toNat = min d.top ⌊a + 1 / 2⌋₊ := by
  rw [Depth.quantize, hx.clampedNat, BitVec.toNat_ofNat]
  exact Nat.mod_eq_of_lt ((min_le_left _ _).trans_lt d.top_lt)

/-- A double nearer to a level than a half becomes this level. -/
lemma HasValue.quantize_eq (hx : HasValue x a) {d : Depth} (v : d.Level)
    (h : |a - v.toNat| < 1 / 2) : d.quantize x = v := by
  obtain ⟨hlow, hhigh⟩ := abs_lt.1 h
  have hfloor : ⌊a + 1 / 2⌋₊ = v.toNat := by
    rw [Nat.floor_eq_iff (by linarith [hx.nonneg])]
    constructor <;> linarith
  apply BitVec.eq_of_toNat_eq
  rw [hx.toNat_quantize, hfloor, min_eq_right (toNat_le_top v)]

lemma HasValue.quantize_byte (hx : HasValue x a) (v : Byte) (h : |a - v.toNat| < 1 / 2) :
    Byte.quantize x = v :=
  hx.quantize_eq (d := .eight) v h

/-- A double that is nearly the greatest level, or above it, becomes the greatest level. -/
lemma HasValue.toNat_quantize_top (hx : HasValue x a) {d : Depth} (h : (d.top : ℚ) - 1 / 2 ≤ a) :
    (d.quantize x).toNat = d.top := by
  have hfloor : d.top ≤ ⌊a + 1 / 2⌋₊ := Nat.le_floor (by linarith)
  rw [hx.toNat_quantize, min_eq_left hfloor]

/-- A level of at most 32 bits is a double. -/
lemma hasValue_levelDouble {n : ℕ} (hn : n ≤ 32) (v : BitVec n) :
    HasValue (levelDouble v) v.toNat := by
  have hlt : v.toNat < 2 ^ 53 :=
    v.isLt.trans_le (Nat.pow_le_pow_right (by norm_num) (hn.trans (by norm_num)))
  exact (isWhole_nearestDouble hlt).hasValue

end Raster
