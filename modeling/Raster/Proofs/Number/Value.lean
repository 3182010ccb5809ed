import Raster.Proofs.Number.Rounding
/-!
# The values of doubles

`HasValue x a` says that the double `x` is zero, or positive with a mantissa of 53 bits, and
stands for the number `a`.  Sums, differences, products and quotients that are far from both ends
of the range stand for the exact results, rounded (`HasValue.add`, `HasValue.sub`, `HasValue.mul`,
`HasValue.div`); doubles are in the order of their values (`HasValue.lt_iff`); and rounding to a
whole number rounds the value (`HasValue.clampedNat`).
-/

namespace Raster

open Float.Model Float.Model.UnpackedFloat

/-- The double `x` is zero, or positive with a mantissa of 53 bits, and stands for `a`. -/
inductive HasValue (x : Float) : ℚ → Prop
  | zero (h : x.toModel.unpack = .zero .positive) : HasValue x 0
  | normal {m : ℕ} {e : ℤ} (hm : 0 < m) (h : x.toModel.unpack = .finite .positive m e hm)
      (hlog : m.log2 = 52) (hlow : -1074 ≤ e) (hhigh : e ≤ 971) : HasValue x (m * 2 ^ e)

section Value

variable {x x' y y' : Float} {a b c : ℚ} {n : ℕ}

lemma hasValue_zero_iff : HasValue x 0 ↔ x.toModel.unpack = .zero .positive := by
  refine ⟨fun h => ?_, .zero⟩
  generalize ha : (0 : ℚ) = a at h
  cases h with
  | zero h => exact h
  | @normal m e hm h =>
    have hpos : (0 : ℚ) < m * 2 ^ e := mul_pos (by exact_mod_cast hm) (two_zpow_pos e)
    exact absurd ha hpos.ne

/-- A positive value is that of a mantissa of 53 bits. -/
lemma HasValue.exists_normal (h : HasValue x a) (ha : a ≠ 0) :
    ∃ m e hm, x.toModel.unpack = .finite .positive m e hm ∧ m.log2 = 52 ∧ -1074 ≤ e ∧ e ≤ 971 ∧
      a = m * 2 ^ e := by
  cases h with
  | zero => exact absurd rfl ha
  | normal hm h hlog hlow hhigh => exact ⟨_, _, hm, h, hlog, hlow, hhigh, rfl⟩

lemma HasValue.nonneg (h : HasValue x a) : 0 ≤ a := by
  cases h with
  | zero => exact le_rfl
  | normal => exact mul_nonneg (Nat.cast_nonneg _) (two_zpow_pos _).le

/-- A mantissa of 53 bits is below twice another one. -/
lemma mantissa_bounds {m : ℕ} (hm : 0 < m) (hlog : m.log2 = 52) : 2 ^ 52 ≤ m ∧ m < 2 ^ 53 :=
  (Nat.log2_eq_iff hm.ne').1 hlog

/-- A value is its own rounding. -/
lemma HasValue.isRounded (h : HasValue x a) (ha : a ≠ 0) : IsRounded a a := by
  obtain ⟨m, e, hm, -, hlog, -, -, rfl⟩ := h.exists_normal ha
  obtain ⟨hlow, hhigh⟩ := mantissa_bounds hm hlog
  exact isRounded_self hlow hhigh e

/-- What is packed with a mantissa of 53 bits has its value. -/
lemma hasValue_of_pack {u : UnpackedFloat} (hx : x.toModel = Float.Model.pack u)
    (h : ∃ m e hm, u = .finite .positive m e hm ∧ m.log2 = 52 ∧ -1074 ≤ e ∧ e ≤ 971 ∧
      IsRounded b (m * 2 ^ e)) : ∃ c, HasValue x c ∧ IsRounded b c := by
  obtain ⟨m, e, hm, rfl, hlog, hlow, hhigh, hb⟩ := h
  have hu : x.toModel.unpack = .finite .positive m e hm := by
    rw [hx]
    exact unpack_pack_normal _ hm hlog hlow hhigh
  exact ⟨_, .normal hm hu hlog hlow hhigh, hb⟩

/-- What is packed as zero has the value zero. -/
lemma hasValue_zero_of_pack {u : UnpackedFloat} (hx : x.toModel = Float.Model.pack u)
    (hu : u = .zero .positive) : HasValue x 0 := by
  refine .zero ?_
  rw [hx, hu]
  rfl

/-! ## Order -/

/-- Among mantissas of 53 bits the greater exponent decides, then the mantissa. -/
lemma value_lt_iff {m m' : ℕ} {e e' : ℤ} (hm : 0 < m) (hm' : 0 < m') (hlog : m.log2 = 52)
    (hlog' : m'.log2 = 52) :
    (m : ℚ) * 2 ^ e < m' * 2 ^ e' ↔ e < e' ∨ e = e' ∧ m < m' := by
  have hlt_of_exponent : ∀ {m m' : ℕ} {e e' : ℤ}, m < 2 ^ 53 → 2 ^ 52 ≤ m' → e < e' →
      (m : ℚ) * 2 ^ e < m' * 2 ^ e' := by
    intro m m' e e' hm hm' he
    have hm₁ : (m : ℚ) < 2 ^ 53 := by exact_mod_cast hm
    have hm₂ : (2 : ℚ) ^ 52 ≤ m' := by exact_mod_cast hm'
    have hstep : (2 : ℚ) ^ (e + 1) ≤ 2 ^ e' := zpow_le_zpow_right₀ (by norm_num) he
    rw [two_zpow_succ] at hstep
    calc (m : ℚ) * 2 ^ e < 2 ^ 53 * 2 ^ e := mul_lt_mul_of_pos_right hm₁ (two_zpow_pos e)
      _ = 2 ^ 52 * (2 * 2 ^ e) := by ring
      _ ≤ 2 ^ 52 * 2 ^ e' := mul_le_mul_of_nonneg_left hstep (by positivity)
      _ ≤ m' * 2 ^ e' := mul_le_mul_of_nonneg_right hm₂ (two_zpow_pos e').le
  obtain ⟨hlow, hhigh⟩ := mantissa_bounds hm hlog
  obtain ⟨hlow', hhigh'⟩ := mantissa_bounds hm' hlog'
  rcases lt_trichotomy e e' with he | rfl | he
  · exact iff_of_true (hlt_of_exponent hhigh hlow' he) (Or.inl he)
  · rw [mul_lt_mul_iff_left₀ (two_zpow_pos e), Nat.cast_lt]
    simp
  · exact iff_of_false (hlt_of_exponent hhigh' hlow he).not_gt (by omega)

/-- Doubles are in the order of their values. -/
lemma HasValue.lt_iff (hx : HasValue x a) (hy : HasValue y b) : x < y ↔ a < b := by
  rw [float_lt_iff]
  cases hx with
  | zero hx =>
    cases hy with
    | zero hy =>
      rw [hx, hy]
      exact iff_of_false (by simp [UnpackedFloat.compare]) (lt_irrefl 0)
    | @normal m e hm hy =>
      rw [hx, hy]
      exact iff_of_true rfl (mul_pos (by exact_mod_cast hm) (two_zpow_pos e))
  | @normal m e hm hx hlog =>
    cases hy with
    | zero hy =>
      rw [hx, hy]
      exact iff_of_false (by simp [UnpackedFloat.compare])
        (mul_pos (by exact_mod_cast hm) (two_zpow_pos e)).not_gt
    | @normal m' e' hm' hy hlog' =>
      rw [hx, hy]
      show some ((compare e e').then (compare m m')) = some .lt ↔ _
      rw [value_lt_iff hm hm' hlog hlog', Option.some_inj, Ordering.then_eq_lt,
        Int.compare_eq_lt, Int.compare_eq_eq, Nat.compare_eq_lt]

/-- Doubles of one value have the same parts. -/
lemma HasValue.unpack_eq (hx : HasValue x a) (hy : HasValue y a) :
    x.toModel.unpack = y.toModel.unpack := by
  by_cases ha : a = 0
  · subst ha
    rw [hasValue_zero_iff.1 hx, hasValue_zero_iff.1 hy]
  · obtain ⟨m, e, hm, hxu, hlog, -, -, rfl⟩ := hx.exists_normal ha
    obtain ⟨m', e', hm', hyu, hlog', -, -, hvalue⟩ := hy.exists_normal ha
    have hlt := (value_lt_iff hm hm' hlog hlog').not.1 hvalue.not_lt
    have hgt := (value_lt_iff hm' hm hlog' hlog).not.1 hvalue.symm.not_lt
    obtain rfl : e = e' := by omega
    obtain rfl : m = m' := by omega
    rw [hxu, hyu]

lemma HasValue.isNaN (hx : HasValue x a) : x.isNaN = false := by
  show x.toModel.unpack.isNaN = false
  cases hx with
  | zero h => rw [h]; rfl
  | normal _ h => rw [h]; rfl

lemma HasValue.unique (hx : HasValue x a) (hx' : HasValue x b) : a = b := by
  have hself : ¬x < x := (hx.lt_iff hx).not.2 (lt_irrefl a)
  exact le_antisymm (not_lt.1 ((hx'.lt_iff hx).not.1 hself))
    (not_lt.1 ((hx.lt_iff hx').not.1 hself))

/-- A double is what its parts are packed to. -/
lemma pack_unpack_toModel (x : Float) : Float.Model.pack x.toModel.unpack = x.toModel := by
  obtain ⟨⟨⟨bits⟩, valid⟩⟩ := x
  have hbits : UnpackedFloat.pack Format.binary64 (UnpackedFloat.unpack Format.binary64 bits) =
      bits := by
    rw [@pack_unpack Format.binary64 bits (by decide)]
    split
    · rename_i hnan
      have hfields := of_decide_eq_true hnan
      exact (valid.eq_packedNaN hfields.1 hfields.2).symm
    · rfl
  simp only [Float.Model.pack, Float.Model.unpack, hbits]

/-- Doubles of one value are one. -/
lemma HasValue.eq (hx : HasValue x a) (hy : HasValue y a) : x = y := by
  show Float.ofModel x.toModel = Float.ofModel y.toModel
  rw [← pack_unpack_toModel x, hx.unpack_eq hy, pack_unpack_toModel]

/-- A difference depends on the values only. -/
lemma HasValue.sub_congr (hx : HasValue x a) (hx' : HasValue x' a) (hy : HasValue y b)
    (hy' : HasValue y' b) : x - y = x' - y' := by
  rw [hx.eq hx', hy.eq hy']

/-! ## Arithmetic -/

/-- A product is rounded. -/
lemma HasValue.mul (hx : HasValue x a) (hy : HasValue y b) (h : InRange (a * b)) :
    ∃ c, HasValue (x * y) c ∧ IsRounded (a * b) c := by
  obtain ⟨m, e, hm, hxu, hlog, -, -, rfl⟩ := hx.exists_normal (left_ne_zero_of_mul h.pos.ne')
  obtain ⟨m', e', hm', hyu, hlog', -, -, rfl⟩ := hy.exists_normal (right_ne_zero_of_mul h.pos.ne')
  refine hasValue_of_pack (u := UnpackedFloat.mul Format.binary64 x.toModel.unpack
    y.toModel.unpack) rfl ?_
  have hproduct : (m : ℚ) * 2 ^ e * (m' * 2 ^ e') = (m * m' : ℕ) * 2 ^ (e + e') := by
    rw [zpow_add₀ (by norm_num)]
    push_cast
    ring
  have hbits := (log2_mul_bounds hm.ne' hm'.ne').1
  rw [hproduct] at h ⊢
  rw [hxu, hyu]
  exact exists_roundWithAccuracy _ (stands_exact _) (by omega) h

lemma HasValue.mul_eq_zero (hx : HasValue x a) (hy : HasValue y b) (h : a * b = 0) :
    HasValue (x * y) 0 := by
  have hfactor : a = 0 ∨ b = 0 := by simpa using h
  refine hasValue_zero_of_pack (u := UnpackedFloat.mul Format.binary64 x.toModel.unpack
    y.toModel.unpack) rfl ?_
  rcases hfactor with rfl | rfl
  · rw [hasValue_zero_iff.1 hx]
    cases hy with
    | zero hy => rw [hy]; rfl
    | normal _ hy => rw [hy]; rfl
  · rw [hasValue_zero_iff.1 hy]
    cases hx with
    | zero hx => rw [hx]; rfl
    | normal _ hx => rw [hx]; rfl

lemma hasValue_one : HasValue 1.0 1 := by
  have hunpack : (1.0 : Float).toModel.unpack =
      .finite .positive (2 ^ 52) (-52) (Nat.two_pow_pos 52) := rfl
  have hvalue : (1 : ℚ) = (2 ^ 52 : ℕ) * 2 ^ (-52 : ℤ) := by norm_num
  rw [hvalue]
  exact .normal (Nat.two_pow_pos 52) hunpack Nat.log2_two_pow (by norm_num) (by norm_num)

/-- Once a double is the double. -/
lemma HasValue.one_mul (hx : HasValue x a) (h : a ≠ 0 → InRange a) : 1.0 * x = x := by
  by_cases ha : a = 0
  · subst ha
    exact (hasValue_one.mul_eq_zero hx (by simp)).eq hx
  · have hproduct : InRange (1 * a) := by simpa using h ha
    obtain ⟨c, hc, hround⟩ := hasValue_one.mul hx hproduct
    have hround' : IsRounded a c := by simpa using hround
    exact (hround'.unique (hx.isRounded ha) ▸ hc).eq hx

/-- A quotient with what is left stands for the exact quotient. -/
lemma stands_accuracyOfFraction (m : ℕ) {n : ℕ} (hn : 0 < n) :
    Stands (.ofMantissaAndAccuracy (m / n) (accuracyOfFraction (m % n) n)) ((m : ℚ) / n) := by
  have hn' : (0 : ℚ) < n := by exact_mod_cast hn
  have hsplit : (m : ℚ) / n = (m / n : ℕ) + ((m % n : ℕ) : ℚ) / n := by
    have hdiv : (m : ℚ) = n * (m / n : ℕ) + (m % n : ℕ) := by
      exact_mod_cast (Nat.div_add_mod m n).symm
    rw [div_eq_iff hn'.ne', add_mul, div_mul_cancel₀ _ hn'.ne', mul_comm _ (n : ℚ)]
    exact hdiv
  have hless : m % n < n := Nat.mod_lt m hn
  rw [hsplit]
  generalize m % n = r at *
  generalize m / n = q at *
  have hlt_one : (r : ℚ) / n < 1 := (div_lt_one hn').2 (by exact_mod_cast hless)
  rw [accuracyOfFraction]
  by_cases hr : r = 0
  · subst hr
    rw [if_pos rfl]
    simp [Stands, ExtendedMantissa.ofMantissaAndAccuracy]
  · have hpos : (0 : ℚ) < (r : ℚ) / n := div_pos (by exact_mod_cast Nat.pos_of_ne_zero hr) hn'
    rw [if_neg hr]
    rcases lt_trichotomy (2 * r) n with hhalf | hhalf | hhalf
    · rw [Nat.compare_eq_lt.2 hhalf]
      have : (r : ℚ) / n < 1 / 2 := by
        rw [div_lt_div_iff₀ hn' (by norm_num)]
        exact_mod_cast by omega
      exact ⟨by linarith, by linarith⟩
    · rw [Nat.compare_eq_eq.2 hhalf]
      have : (r : ℚ) / n = 1 / 2 := by
        rw [div_eq_div_iff hn'.ne' (by norm_num)]
        exact_mod_cast by omega
      exact congrArg _ this
    · rw [Nat.compare_eq_gt.2 hhalf]
      have : 1 / 2 < (r : ℚ) / n := by
        rw [div_lt_div_iff₀ (by norm_num) hn']
        exact_mod_cast by omega
      exact ⟨by linarith, by linarith⟩

/-- The quotient of two mantissas of 53 bits is taken to 53 binary places. -/
lemma divCore_normal {m m' : ℕ} {e e' : ℤ} (hlog : m.log2 = 52) (hlog' : m'.log2 = 52)
    (h : -1021 ≤ e - e') :
    divCore Format.binary64 m e m' e' =
      (m * 2 ^ 53 / m', e - e' - 53, accuracyOfFraction (m * 2 ^ 53 % m') m') := by
  have htarget : min (e - e') (max (((52 : ℕ) : ℤ) + 1 + e - (((52 : ℕ) : ℤ) + 1 + e') - 53)
      (-1074)) = e - e' - 53 := by
    omega
  have hamount : (e - e' - (e - e' - 53)).toNat = 53 := by omega
  simp only [divCore, totalExponent, targetExponent_eq, hlog, hlog', htarget, hamount,
    Nat.shiftLeft_eq]

lemma quotient_eq (m m' : ℕ) (e e' : ℤ) :
    (m : ℚ) * 2 ^ e / (m' * 2 ^ e') = ((m * 2 ^ 53 : ℕ) : ℚ) / m' * 2 ^ (e - e' - 53) := by
  have hpow : (2 : ℚ) ^ (e - e' - 53) = 2 ^ e / 2 ^ e' / 2 ^ 53 := by
    rw [zpow_sub₀ (by norm_num), zpow_sub₀ (by norm_num)]
    rfl
  have hne := (two_zpow_pos e').ne'
  rw [hpow]
  push_cast
  field_simp
  norm_num

/-- A quotient is rounded. -/
lemma HasValue.div (hx : HasValue x a) (hy : HasValue y b) (h : InRange (a / b)) :
    ∃ c, HasValue (x / y) c ∧ IsRounded (a / b) c := by
  obtain ⟨m, e, hm, hxu, hlog, -, -, rfl⟩ := hx.exists_normal fun ha => h.pos.ne' (by simp [ha])
  obtain ⟨m', e', hm', hyu, hlog', -, -, rfl⟩ :=
    hy.exists_normal fun hb => h.pos.ne' (by simp [hb])
  refine hasValue_of_pack (u := UnpackedFloat.div Format.binary64 x.toModel.unpack
    y.toModel.unpack) rfl ?_
  obtain ⟨hlow, hhigh⟩ := mantissa_bounds hm hlog
  obtain ⟨hlow', hhigh'⟩ := mantissa_bounds hm' hlog'
  have hstands := stands_accuracyOfFraction (m * 2 ^ 53) hm'
  obtain ⟨hbelow, habove⟩ := hstands.mantissa_bounds
  have hsize : 2 ^ 52 ≤ m * 2 ^ 53 / m' := by
    rw [Nat.le_div_iff_mul_le hm']
    calc 2 ^ 52 * m' ≤ 2 ^ 52 * 2 ^ 53 := Nat.mul_le_mul_left _ hhigh'.le
      _ ≤ m * 2 ^ 53 := Nat.mul_le_mul_right _ hlow
  have hbits : 52 ≤ (m * 2 ^ 53 / m').log2 := (Nat.le_log2 (by omega)).2 hsize
  have hfewer : (m * 2 ^ 53 / m').log2 < 54 := by
    rw [Nat.log2_lt (by omega)]
    refine Nat.div_lt_of_lt_mul ?_
    calc m * 2 ^ 53 < 2 ^ 53 * 2 ^ 53 := Nat.mul_lt_mul_of_pos_right hhigh (by norm_num)
      _ ≤ m' * 2 ^ 54 := by omega
  rw [quotient_eq] at h ⊢
  have hexponent := h.log2_bounds (by omega) hbelow habove
  have hdiv : UnpackedFloat.div Format.binary64 x.toModel.unpack y.toModel.unpack =
      roundWithAccuracy Format.binary64 .positive (m * 2 ^ 53 / m') (e - e' - 53)
        (accuracyOfFraction (m * 2 ^ 53 % m') m') := by
    rw [hxu, hyu]
    show (match divCore Format.binary64 m e m' e' with
      | (q, e, accuracy) => roundWithAccuracy Format.binary64 _ q e accuracy) = _
    rw [divCore_normal hlog hlog' (by omega)]
    rfl
  rw [hdiv]
  exact exists_roundWithAccuracy .positive hstands hbits h

/-- Two mantissas over the smaller exponent. -/
lemma decreaseExponent_fst {m : ℕ} {e e' : ℤ} (h : e' ≤ e) :
    ((decreaseExponent m e e').1 : ℚ) * 2 ^ e' = m * 2 ^ e := by
  obtain ⟨k, rfl⟩ := Int.le.dest h
  have hamount : (e' + (k : ℤ) - e').toNat = k := by omega
  rw [decreaseExponent, hamount, Nat.shiftLeft_eq, zpow_add₀ (by norm_num), zpow_natCast]
  push_cast
  ring

/-- A positive number over some exponent is rounded. -/
lemma exists_normalize {k : ℤ} {e : ℤ} (h : InRange (k * 2 ^ e)) :
    ∃ m' e' hm', UnpackedFloat.normalize Format.binary64 k e .positive =
      .finite .positive m' e' hm' ∧ m'.log2 = 52 ∧ -1074 ≤ e' ∧ e' ≤ 971 ∧
      IsRounded (k * 2 ^ e) (m' * 2 ^ e') := by
  have hk : 0 < k := by exact_mod_cast pos_of_mul_pos_left h.pos (two_zpow_pos e).le
  obtain ⟨n, rfl⟩ := Int.eq_ofNat_of_zero_le hk.le
  have hn : n ≠ 0 := by omega
  rw [UnpackedFloat.normalize, Int.compare_eq_gt.2 hk]
  exact exists_round .positive hn (by exact_mod_cast h)

/-- Zero adds nothing. -/
lemma HasValue.add_zero (hx : HasValue x a) (hy : HasValue y 0) : HasValue (x + y) a := by
  have hsum : UnpackedFloat.add Format.binary64 x.toModel.unpack y.toModel.unpack =
      x.toModel.unpack := by
    rw [hasValue_zero_iff.1 hy]
    cases hx with
    | zero hxu => rw [hxu]; rfl
    | normal _ hxu => rw [hxu]; rfl
  have hsame : x + y = x := by
    show Float.ofModel (Float.Model.pack
      (UnpackedFloat.add Format.binary64 x.toModel.unpack y.toModel.unpack)) = x
    rw [hsum, pack_unpack_toModel]
  rwa [hsame]

lemma HasValue.zero_add (hx : HasValue x a) : 0.0 + x = x := by
  have hzero : (0.0 : Float).toModel.unpack = .zero .positive := rfl
  have hsum : UnpackedFloat.add Format.binary64 (0.0 : Float).toModel.unpack x.toModel.unpack =
      x.toModel.unpack := by
    rw [hzero]
    cases hx with
    | zero hxu => rw [hxu]; rfl
    | normal _ hxu => rw [hxu]; rfl
  show Float.ofModel (Float.Model.pack
    (UnpackedFloat.add Format.binary64 (0.0 : Float).toModel.unpack x.toModel.unpack)) = x
  rw [hsum, pack_unpack_toModel]

/-- A sum is rounded. -/
lemma HasValue.add (hx : HasValue x a) (hy : HasValue y b) (ha : a ≠ 0) (hb : b ≠ 0)
    (h : InRange (a + b)) : ∃ c, HasValue (x + y) c ∧ IsRounded (a + b) c := by
  obtain ⟨m, e, hm, hxu, -, -, -, rfl⟩ := hx.exists_normal ha
  obtain ⟨m', e', hm', hyu, -, -, -, rfl⟩ := hy.exists_normal hb
  refine hasValue_of_pack (u := UnpackedFloat.add Format.binary64 x.toModel.unpack
    y.toModel.unpack) rfl ?_
  have hsum : (m : ℚ) * 2 ^ e + m' * 2 ^ e' =
      (((decreaseExponent m e (min e e')).1 + (decreaseExponent m' e' (min e e')).1 : ℤ) : ℚ) *
        2 ^ min e e' := by
    push_cast
    rw [add_mul, decreaseExponent_fst (min_le_left e e'),
      decreaseExponent_fst (min_le_right e e')]
  rw [hsum] at h ⊢
  rw [hxu, hyu]
  exact exists_normalize h

/-- A difference is rounded. -/
lemma HasValue.sub (hx : HasValue x a) (hy : HasValue y b) (h : InRange (a - b)) :
    ∃ c, HasValue (x - y) c ∧ IsRounded (a - b) c := by
  have hpack : (x - y).toModel = Float.Model.pack
    (UnpackedFloat.sub Format.binary64 x.toModel.unpack y.toModel.unpack) := rfl
  have ha : a ≠ 0 := (hy.nonneg.trans_lt (sub_pos.1 h.pos)).ne'
  obtain ⟨m, e, hm, hxu, hlog, hlow, hhigh, rfl⟩ := hx.exists_normal ha
  refine hasValue_of_pack hpack ?_
  cases hy with
  | zero hyu =>
    rw [sub_zero]
    refine ⟨m, e, hm, ?_, hlog, hlow, hhigh, hx.isRounded ha⟩
    rw [hxu, hyu]
    rfl
  | @normal m' e' hm' hyu =>
    rw [hxu, hyu]
    have hdifference : (m : ℚ) * 2 ^ e - m' * 2 ^ e' =
        (((decreaseExponent m e (min e e')).1 - (decreaseExponent m' e' (min e e')).1 : ℤ) : ℚ) *
          2 ^ min e e' := by
      push_cast
      rw [sub_mul, decreaseExponent_fst (min_le_left e e'),
        decreaseExponent_fst (min_le_right e e')]
    rw [hdifference] at h ⊢
    exact exists_normalize h

/-- Doubles of one value leave nothing of each other. -/
lemma HasValue.sub_self (hx : HasValue x a) (hy : HasValue y a) : HasValue (x - y) 0 := by
  refine hasValue_zero_of_pack (u := UnpackedFloat.sub Format.binary64 x.toModel.unpack
    y.toModel.unpack) rfl ?_
  rw [← hx.unpack_eq hy]
  cases hx with
  | zero hx => rw [hx]; rfl
  | @normal m e hm hx =>
    rw [hx]
    show UnpackedFloat.normalize Format.binary64 (((decreaseExponent m e (min e e)).1 : ℤ) -
      (decreaseExponent m e (min e e)).1) _ _ = _
    rw [Int.sub_self]
    rfl

/-! ## Whole numbers -/

lemma IsWhole.hasValue (hx : IsWhole x n) : HasValue x n := by
  by_cases hn : n = 0
  · subst hn
    exact_mod_cast HasValue.zero hx.unpack_eq
  · have hlog := log2_le_of_lt hn hx.lt
    rw [natCast_eq_wholeMantissa hn hx.lt]
    exact .normal (wholeMantissa_pos hn) (hx.unpack_eq.trans (unpackedWhole_of_ne hn))
      (log2_wholeMantissa hn hx.lt) (by omega) (by omega)

/-- The double nearest to a 64-bit number stands for the number, rounded. -/
lemma exists_nearestDouble (hn : n ≠ 0) (h : n < 2 ^ 64) :
    ∃ a, HasValue (nearestDouble n) a ∧ IsRounded n a := by
  have htoNat : (UInt64.ofNat n).toNat = n := Nat.mod_eq_of_lt h
  refine hasValue_of_pack (u := UnpackedFloat.ofUInt64 Format.binary64 (UInt64.ofNat n)) rfl ?_
  rw [UnpackedFloat.ofUInt64, htoNat, UnpackedFloat.ofNat, UnpackedFloat.ofInt]
  have hone : (1 : ℚ) ≤ n := by exact_mod_cast Nat.pos_of_ne_zero hn
  have hhigh : (n : ℚ) ≤ 2 ^ (64 : ℤ) := by exact_mod_cast h.le
  have hrange : InRange (((n : ℤ) : ℚ) * 2 ^ (0 : ℤ)) := by
    rw [zpow_zero, mul_one, Int.cast_natCast]
    exact ⟨(zpow_le_one_of_nonpos₀ (by norm_num) (by norm_num)).trans hone,
      hhigh.trans (zpow_le_zpow_right₀ (by norm_num) (by norm_num))⟩
  have hround := exists_normalize hrange
  rwa [zpow_zero, mul_one, Int.cast_natCast] at hround

/-- A whole number of more than 53 bits is rounded to a whole number. -/
lemma IsRounded.exists_nat (h : IsRounded n a) (hn : 2 ^ 53 ≤ n) : ∃ k : ℕ, a = k := by
  obtain ⟨t, k, hk, rfl⟩ := h
  have hlt : (2 : ℚ) ^ (53 : ℤ) < 2 ^ (53 + t) := by
    rw [zpow_add₀ (by norm_num)]
    exact lt_of_le_of_lt (by exact_mod_cast hn) hk.lt
  have ht := (zpow_lt_zpow_iff_right₀ (by norm_num : (1 : ℚ) < 2)).1 hlt
  obtain ⟨p, rfl⟩ := Int.eq_ofNat_of_zero_le (a := t) (by omega)
  exact ⟨k * 2 ^ p, by push_cast; rw [zpow_natCast]⟩

/-- The double nearest to a 64-bit number stands for a whole number, not much greater. -/
lemma exists_nearestDouble_nat (h : n < 2 ^ 64) :
    ∃ k : ℕ, HasValue (nearestDouble n) k ∧ k < 2 ^ 65 := by
  rcases Nat.lt_or_ge n (2 ^ 53) with hsmall | hlarge
  · exact ⟨n, (isWhole_nearestDouble hsmall).hasValue, by omega⟩
  · obtain ⟨a, ha, hrounded⟩ := exists_nearestDouble (by omega) h
    obtain ⟨k, rfl⟩ := hrounded.exists_nat hlarge
    have hn : (n : ℚ) < 2 ^ 64 := by exact_mod_cast h
    have hk : (k : ℚ) < 2 ^ 65 := by linarith [hrounded.bounds.2]
    exact ⟨k, ha, by exact_mod_cast hk⟩

/-- A greater number does not have a smaller nearest double. -/
lemma HasValue.nearestDouble_le {m : ℕ} (ha : HasValue (nearestDouble m) a)
    (hb : HasValue (nearestDouble n) b) (hmn : m ≤ n) (h : n < 2 ^ 64) : a ≤ b := by
  by_cases hm : m = 0
  · subst hm
    have hzero : HasValue (nearestDouble 0) (0 : ℕ) :=
      (isWhole_nearestDouble (by norm_num)).hasValue
    rw [ha.unique hzero, Nat.cast_zero]
    exact hb.nonneg
  · obtain ⟨c, hc, hround⟩ := exists_nearestDouble hm (hmn.trans_lt h)
    obtain ⟨c', hc', hround'⟩ := exists_nearestDouble (n := n) (by omega) h
    rw [ha.unique hc, hb.unique hc']
    exact hround.le_of_le hround' (by exact_mod_cast hmn)

/-! ## Rounding to a whole number -/

/-- The nearest whole number, a half rounded up. -/
lemma magnitude_nearest (m : ℕ) (e : ℤ) :
    Rounding.nearest.magnitude m e = ⌊(m : ℚ) * 2 ^ e + 1 / 2⌋₊ := by
  cases e with
  | ofNat k =>
    have hwhole : (m : ℚ) * 2 ^ Int.ofNat k + 1 / 2 = (m * 2 ^ k : ℕ) + 1 / 2 := by
      rw [Int.ofNat_eq_natCast, zpow_natCast]
      push_cast
      rfl
    show m <<< k = _
    rw [hwhole, Nat.shiftLeft_eq, eq_comm, Nat.floor_eq_iff (by positivity)]
    constructor <;> linarith
  | negSucc k =>
    have hquotient : (m : ℚ) * 2 ^ Int.negSucc k + 1 / 2 =
        ((m + 2 ^ k : ℕ) : ℚ) / (2 ^ (k + 1) : ℕ) := by
      rw [zpow_negSucc]
      push_cast
      rw [pow_succ]
      field_simp
    show (m + 1 <<< k) / 1 <<< (k + 1) = _
    rw [hquotient, Nat.floor_div_eq_div, Nat.one_shiftLeft, Nat.one_shiftLeft]

/-- A value is rounded to the nearest whole number. -/
lemma HasValue.clampedNat (hx : HasValue x a) (max : ℕ) :
    Rounding.nearest.clampedNat max x = min max ⌊a + 1 / 2⌋₊ := by
  rw [Rounding.clampedNat]
  cases hx with
  | zero h =>
    have hzero : Binary64.ofFloat x = .finite false 0 (-1074) := ofBits_of_unpack_zero h
    have hhalf : ⌊(0 : ℚ) + 1 / 2⌋₊ = 0 := by norm_num
    rw [hzero, hhalf]
    rfl
  | @normal m e hm h =>
    have hfinite : Binary64.ofFloat x = .finite false m e := ofBits_of_unpack_finite h
    rw [hfinite, ← magnitude_nearest]
    rfl

end Value

end Raster
