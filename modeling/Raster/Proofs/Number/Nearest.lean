import Raster.Proofs.Number.Level
/-!
# Levels through doubles

A gray level that is handed on as a double comes back as the nearest double, clamped to the
greatest level (`Depth.viaDouble`).  A whole number is a double exactly if all its binary digits
behind the first 53 are zeros (`hasValue_nearestDouble_iff`), so these levels come back as they
were, and beside them only the greatest level does (`Depth.viaDouble_eq_self_iff`).  What has come
back once is not changed again (`Depth.viaDouble_viaDouble`).
-/

namespace Raster

/-! ## Whole numbers -/

section Whole

variable {n : ℕ} {x : Float}

/-- A whole number is a double if it has at most 53 binary digits, with zeros behind them. -/
lemma hasValue_nearestDouble_iff (h : n < 2 ^ 64) :
    HasValue (nearestDouble n) n ↔ ∃ m e : ℕ, m < 2 ^ 53 ∧ n = m * 2 ^ e := by
  constructor
  · intro hx
    rcases Nat.lt_or_ge n (2 ^ 53) with hsmall | hlarge
    · exact ⟨n, 0, hsmall, by rw [Nat.pow_zero, Nat.mul_one]⟩
    · have hn : (n : ℚ) ≠ 0 := by exact_mod_cast (by omega : n ≠ 0)
      obtain ⟨m, e, hm, -, hlog, -, -, hvalue⟩ := hx.exists_normal hn
      have hlt := (mantissa_bounds hm hlog).2
      -- the mantissa is less than the number, so it has been shifted to the left
      have hpos : 0 < e := by
        by_contra hle
        have hdown : (n : ℚ) ≤ m := by
          rw [hvalue]
          exact mul_le_of_le_one_right (Nat.cast_nonneg m)
            (zpow_le_one_of_nonpos₀ (by norm_num) (not_lt.1 hle))
        have hdown' : n ≤ m := by exact_mod_cast hdown
        omega
      obtain ⟨k, rfl⟩ := Int.eq_ofNat_of_zero_le hpos.le
      exact ⟨m, k, hlt, by exact_mod_cast hvalue⟩
  · rintro ⟨m, e, hm, rfl⟩
    by_cases hzero : m = 0
    · subst hzero
      rw [Nat.zero_mul]
      exact (isWhole_nearestDouble (by norm_num)).hasValue
    · obtain ⟨a, ha, hround⟩ :=
        exists_nearestDouble (Nat.mul_ne_zero hzero (Nat.two_pow_pos e).ne') h
      have hself : IsRounded (m * 2 ^ e : ℕ) (m * 2 ^ e : ℕ) := by
        exact_mod_cast isRounded_of_lt hzero hm e
      rwa [hround.unique hself] at ha

/-- A double that stands for a whole number is the one nearest to it. -/
lemma HasValue.nearestDouble_eq (hx : HasValue x n) (h : n < 2 ^ 64) : nearestDouble n = x := by
  by_cases hn : n = 0
  · subst hn
    exact (isWhole_nearestDouble (by norm_num)).hasValue.eq hx
  · obtain ⟨a, ha, hround⟩ := exists_nearestDouble hn h
    have hself : IsRounded n n := hx.isRounded (by exact_mod_cast hn)
    rw [hround.unique hself] at ha
    exact ha.eq hx

end Whole

/-! ## Levels -/

namespace Depth

/-- A level, turned into a double and back. -/
def viaDouble (d : Depth) (v : d.Level) : d.Level := d.quantize (levelDouble v)

variable {d : Depth} {v : d.Level} {k : ℕ}

lemma toNat_viaDouble (hk : HasValue (levelDouble v) k) :
    (d.viaDouble v).toNat = min d.top k := by
  have hfloor : ⌊(k : ℚ) + 1 / 2⌋₊ = k := by
    rw [Nat.floor_eq_iff (by positivity)]
    constructor <;> linarith
  rw [viaDouble, hk.toNat_quantize, hfloor]

/-- The greatest level of 64 bits is no double; the way back clamps its double again. -/
lemma viaDouble_top (d : Depth) :
    d.viaDouble (BitVec.ofNat d.bits d.top) = BitVec.ofNat d.bits d.top := by
  cases d <;> decide +kernel

lemma eq_top_of_toNat (h : v.toNat = d.top) : v = BitVec.ofNat d.bits d.top := by
  rw [← h, BitVec.ofNat_toNat, BitVec.setWidth_eq]

/-- What has come back from the doubles once is not changed again. -/
lemma viaDouble_viaDouble (v : d.Level) : d.viaDouble (d.viaDouble v) = d.viaDouble v := by
  obtain ⟨k, hk, -⟩ := exists_nearestDouble_nat (toNat_lt v)
  have hback : (d.viaDouble v).toNat = min d.top k := toNat_viaDouble hk
  rcases Nat.lt_or_ge d.top k with hover | hwithin
  · rw [min_eq_left hover.le] at hback
    rw [eq_top_of_toNat hback, viaDouble_top]
  · rw [min_eq_right hwithin] at hback
    have hsame : levelDouble (d.viaDouble v) = levelDouble v := by
      have hlt := toNat_lt (d.viaDouble v)
      rw [hback] at hlt
      rw [levelDouble, hback]
      exact hk.nearestDouble_eq hlt
    show d.quantize (levelDouble (d.viaDouble v)) = d.quantize (levelDouble v)
    rw [hsame]

/-- **Levels that doubles do not change:** the greatest one, and those of at most 53 binary digits
with zeros behind them. -/
lemma viaDouble_eq_self_iff :
    d.viaDouble v = v ↔ v.toNat = d.top ∨ ∃ m e : ℕ, m < 2 ^ 53 ∧ v.toNat = m * 2 ^ e := by
  rw [← hasValue_nearestDouble_iff (toNat_lt v)]
  constructor
  · intro hself
    obtain ⟨k, hk, -⟩ := exists_nearestDouble_nat (toNat_lt v)
    have hback : (d.viaDouble v).toNat = min d.top k := toNat_viaDouble hk
    rw [hself] at hback
    rcases Nat.lt_or_ge d.top k with hover | hwithin
    · exact Or.inl (hback.trans (min_eq_left hover.le))
    · obtain rfl : v.toNat = k := hback.trans (min_eq_right hwithin)
      exact Or.inr hk
  · rintro (htop | hx)
    · rw [eq_top_of_toNat htop, viaDouble_top]
    · apply BitVec.eq_of_toNat_eq
      rw [toNat_viaDouble hx, min_eq_right (toNat_le_top v)]

lemma viaDouble_of_ne (hd : d ≠ .sixtyFour) (v : d.Level) : d.viaDouble v = v :=
  (hasValue_levelDouble (bits_le hd) v).quantize_eq v (by simp)

/-- A level of more than 53 digits comes back rounded to 53 digits, but not above the greatest. -/
lemma exists_toNat_viaDouble (h : 2 ^ 53 ≤ v.toNat) :
    ∃ k : ℕ, IsRounded v.toNat k ∧ (d.viaDouble v).toNat = min d.top k := by
  obtain ⟨a, ha, hround⟩ := exists_nearestDouble (n := v.toNat) (by omega) (toNat_lt v)
  obtain ⟨k, rfl⟩ := hround.exists_nat h
  exact ⟨k, hround, toNat_viaDouble ha⟩

end Depth

end Raster
