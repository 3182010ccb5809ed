import Mathlib
import Raster.Proofs.Number.Whole
/-!
# Rounding to 53 binary digits

A positive number has one place in which its 53rd binary digit stands.  Rounded there, to the
nearer neighbour and between two equally near ones to the even one, it becomes a whole number of
units of this place (`RoundsAt`).  Such a rounding errs by at most one part in `2 ^ 53`
(`IsRounded.abs_sub_le`), keeps the order (`IsRounded.le_of_le`) and leaves alone what has no
digits behind the 53rd (`isRounded_self`).

A mantissa with a round bit and a sticky bit stands for a number between it and the next mantissa
(`Stands`); shifting it by one halves that number, so rounding a mantissa with its bits rounds the
number that it stands for (`exists_roundWithAccuracy`).
-/

namespace Raster

open Float.Model Float.Model.UnpackedFloat

/-- The 53rd binary digit of `v` stands in the place of `2 ^ t`, and `v` is rounded there to
`k` units. -/
structure RoundsAt (t : ℤ) (k : ℕ) (v : ℚ) : Prop where
  le : 2 ^ 52 * 2 ^ t ≤ v
  lt : v < 2 ^ 53 * 2 ^ t
  near : |v - k * 2 ^ t| ≤ 2 ^ t / 2
  even : |v - k * 2 ^ t| = 2 ^ t / 2 → k % 2 = 0

/-- `a` is `v`, rounded to 53 binary digits. -/
def IsRounded (v a : ℚ) : Prop := ∃ t k, RoundsAt t k v ∧ a = k * 2 ^ t

section Order

variable {t t' : ℤ} {k k' : ℕ} {v w a b : ℚ}

lemma two_zpow_pos (t : ℤ) : (0 : ℚ) < 2 ^ t := zpow_pos (by norm_num) t

lemma two_zpow_succ (t : ℤ) : (2 : ℚ) ^ (t + 1) = 2 * 2 ^ t := by
  rw [zpow_add₀ (by norm_num), zpow_one, mul_comm]

namespace RoundsAt

lemma le_units (h : RoundsAt t k v) : 2 ^ 52 ≤ k := by
  have hpos := two_zpow_pos t
  have hnear := abs_le.1 h.near
  have hlt : ((2 ^ 52 - 1 : ℕ) : ℚ) * 2 ^ t < k * 2 ^ t := by
    have := h.le
    push_cast
    linarith [hnear.2]
  have hlt' : 2 ^ 52 - 1 < k := by exact_mod_cast (mul_lt_mul_iff_left₀ hpos).1 hlt
  omega

lemma units_le (h : RoundsAt t k v) : k ≤ 2 ^ 53 := by
  have hpos := two_zpow_pos t
  have hnear := abs_le.1 h.near
  have hlt : (k : ℚ) * 2 ^ t < ((2 ^ 53 + 1 : ℕ) : ℚ) * 2 ^ t := by
    have := h.lt
    push_cast
    linarith [hnear.1]
  have hlt' : k < 2 ^ 53 + 1 := by exact_mod_cast (mul_lt_mul_iff_left₀ hpos).1 hlt
  omega

/-- A greater number does not have its 53rd digit in a lower place. -/
lemma place_le (h : RoundsAt t k v) (h' : RoundsAt t' k' w) (hvw : v ≤ w) : t ≤ t' := by
  have hlt : (2 : ℚ) ^ (52 + t) < 2 ^ (53 + t') := by
    rw [zpow_add₀ (by norm_num), zpow_add₀ (by norm_num)]
    exact lt_of_le_of_lt (h.le.trans hvw) h'.lt
  have := (zpow_lt_zpow_iff_right₀ (by norm_num : (1 : ℚ) < 2)).1 hlt
  omega

/-- In one place a greater number is not rounded to fewer units. -/
lemma units_le_units (h : RoundsAt t k v) (h' : RoundsAt t k' w) (hvw : v ≤ w) : k ≤ k' := by
  by_contra hlt
  have hpos := two_zpow_pos t
  have hnear := abs_le.1 h.near
  have hnear' := abs_le.1 h'.near
  have hsucc : (k' : ℚ) + 1 ≤ k := by exact_mod_cast Nat.lt_of_not_le hlt
  have hunit := mul_le_mul_of_nonneg_right hsucc hpos.le
  rw [add_mul, one_mul] at hunit
  -- both errors are a half, so the numbers are one, and it is rounded to an even number twice
  have heq : (k : ℚ) * 2 ^ t = (k' + 1) * 2 ^ t := by linarith
  have hnext : k = k' + 1 := by exact_mod_cast (mul_left_inj' hpos.ne').1 heq
  have htie : |v - k * 2 ^ t| = 2 ^ t / 2 := by
    rw [abs_of_nonpos (by linarith)]
    linarith
  have htie' : |w - k' * 2 ^ t| = 2 ^ t / 2 := by
    rw [abs_of_nonneg (by linarith)]
    linarith
  have heven := h.even htie
  have heven' := h'.even htie'
  omega

end RoundsAt

namespace IsRounded

/-- Rounding keeps the order. -/
lemma le_of_le (h : IsRounded v a) (h' : IsRounded w b) (hvw : v ≤ w) : a ≤ b := by
  obtain ⟨t, k, hk, rfl⟩ := h
  obtain ⟨t', k', hk', rfl⟩ := h'
  rcases (hk.place_le hk' hvw).lt_or_eq with hlt | rfl
  · have hplace : (2 : ℚ) ^ (t + 1) ≤ 2 ^ t' := zpow_le_zpow_right₀ (by norm_num) hlt
    have hle : (k : ℚ) ≤ 2 ^ 53 := by exact_mod_cast hk.units_le
    have hge : (2 : ℚ) ^ 52 ≤ k' := by exact_mod_cast hk'.le_units
    rw [two_zpow_succ] at hplace
    calc (k : ℚ) * 2 ^ t ≤ 2 ^ 53 * 2 ^ t := mul_le_mul_of_nonneg_right hle (two_zpow_pos t).le
      _ = 2 ^ 52 * (2 * 2 ^ t) := by ring
      _ ≤ 2 ^ 52 * 2 ^ t' := mul_le_mul_of_nonneg_left hplace (by positivity)
      _ ≤ k' * 2 ^ t' := mul_le_mul_of_nonneg_right hge (two_zpow_pos t').le
  · have hunits : (k : ℚ) ≤ k' := by exact_mod_cast hk.units_le_units hk' hvw
    exact mul_le_mul_of_nonneg_right hunits (two_zpow_pos t).le

lemma unique (h : IsRounded v a) (h' : IsRounded v b) : a = b :=
  le_antisymm (h.le_of_le h' le_rfl) (h'.le_of_le h le_rfl)

lemma abs_sub_le (h : IsRounded v a) : |a - v| ≤ v / 2 ^ 53 := by
  obtain ⟨t, k, hk, rfl⟩ := h
  rw [abs_sub_comm, le_div_iff₀ (by positivity)]
  have hnear := hk.near
  have hle := hk.le
  linarith

lemma bounds (h : IsRounded v a) : v - v / 2 ^ 53 ≤ a ∧ a ≤ v + v / 2 ^ 53 := by
  obtain ⟨hlow, hhigh⟩ := abs_le.1 h.abs_sub_le
  constructor <;> linarith

/-- The last number below a power of two, as a 53-digit number. -/
lemma eq_of_ge_of_lt (h : IsRounded v a) (hge : (2 ^ 53 - 1) * 2 ^ t ≤ a)
    (hlt : a < 2 ^ 53 * 2 ^ t) : a = (2 ^ 53 - 1) * 2 ^ t := by
  obtain ⟨t', k, hk, rfl⟩ := h
  have hpos := two_zpow_pos t
  have hlow : (2 : ℚ) ^ 52 ≤ k := by exact_mod_cast hk.le_units
  have hhigh : (k : ℚ) ≤ 2 ^ 53 := by exact_mod_cast hk.units_le
  rcases lt_trichotomy t t' with ht | rfl | ht
  · have hplace : (2 : ℚ) ^ (t + 1) ≤ 2 ^ t' := zpow_le_zpow_right₀ (by norm_num) ht
    rw [two_zpow_succ] at hplace
    have hunits := mul_le_mul_of_nonneg_right hlow (two_zpow_pos t').le
    linarith
  · have hltk : (k : ℚ) < 2 ^ 53 := (mul_lt_mul_iff_left₀ hpos).1 hlt
    have hgek : (2 : ℚ) ^ 53 - 1 ≤ k := (mul_le_mul_iff_left₀ hpos).1 hge
    have hk : k + 1 = 2 ^ 53 := by
      have hlt' : k < 2 ^ 53 := by exact_mod_cast hltk
      have hge' : 2 ^ 53 ≤ k + 1 := by
        have : (2 : ℚ) ^ 53 ≤ k + 1 := by linarith
        exact_mod_cast this
      omega
    have hk' : (k : ℚ) + 1 = 2 ^ 53 := by exact_mod_cast hk
    rw [← hk', add_sub_cancel_right]
  · have hplace : (2 : ℚ) ^ (t' + 1) ≤ 2 ^ t := zpow_le_zpow_right₀ (by norm_num) ht
    rw [two_zpow_succ] at hplace
    have hunits := mul_le_mul_of_nonneg_right hhigh (two_zpow_pos t').le
    linarith

end IsRounded

/-- A number without digits behind the 53rd is rounded to itself. -/
lemma isRounded_self (hlow : 2 ^ 52 ≤ k) (hhigh : k < 2 ^ 53) (t : ℤ) :
    IsRounded (k * 2 ^ t) (k * 2 ^ t) := by
  have hpos := two_zpow_pos t
  have hlow' : (2 : ℚ) ^ 52 ≤ k := by exact_mod_cast hlow
  have hhigh' : (k : ℚ) < 2 ^ 53 := by exact_mod_cast hhigh
  refine ⟨t, k, ⟨mul_le_mul_of_nonneg_right hlow' hpos.le, mul_lt_mul_of_pos_right hhigh' hpos,
    ?_, ?_⟩, rfl⟩
  · rw [sub_self, abs_zero]
    positivity
  · intro h
    rw [sub_self, abs_zero] at h
    linarith

/-- A whole number is its mantissa in the unit of its last bit. -/
lemma natCast_eq_wholeMantissa {n : ℕ} (hn : n ≠ 0) (h : n < 2 ^ 53) :
    (n : ℚ) = (wholeMantissa n : ℕ) * 2 ^ ((n.log2 : ℤ) - 52) := by
  have hlog := log2_le_of_lt hn h
  have hexponent : (n.log2 : ℤ) - 52 = -((52 - n.log2 : ℕ) : ℤ) := by omega
  rw [hexponent, wholeMantissa, zpow_neg, zpow_natCast]
  push_cast
  field_simp

/-- A number of at most 53 digits is rounded to itself, whatever the unit is. -/
lemma isRounded_of_lt {n : ℕ} (hn : n ≠ 0) (h : n < 2 ^ 53) (t : ℤ) :
    IsRounded (n * 2 ^ t) (n * 2 ^ t) := by
  obtain ⟨hlow, hhigh⟩ :=
    (Nat.log2_eq_iff (wholeMantissa_pos hn).ne').1 (log2_wholeMantissa hn h)
  rw [natCast_eq_wholeMantissa hn h, mul_assoc, ← zpow_add₀ (by norm_num)]
  exact isRounded_self hlow hhigh _

end Order

/-! ## Mantissas with a round bit and a sticky bit -/

/-- A mantissa with its two bits stands for a number of units: the mantissa itself, or a number
below, on or above the middle between it and the next one. -/
def Stands (em : ExtendedMantissa) (x : ℚ) : Prop :=
  match em with
  | ⟨m, false, false⟩ => x = m
  | ⟨m, false, true⟩ => (m : ℚ) < x ∧ x < m + 1 / 2
  | ⟨m, true, false⟩ => x = m + 1 / 2
  | ⟨m, true, true⟩ => (m : ℚ) + 1 / 2 < x ∧ x < m + 1

section Stands

variable {em : ExtendedMantissa} {x : ℚ}

lemma Stands.bounds (h : Stands em x) : (em.mantissa : ℚ) ≤ x ∧ x < em.mantissa + 1 := by
  obtain ⟨m, r, s⟩ := em
  cases r <;> cases s <;> simp only [Stands] at h ⊢ <;> constructor <;> linarith

/-- Shifting by one bit halves the number. -/
lemma Stands.shiftRightOne (h : Stands em x) : Stands em.shiftRightOne (x / 2) := by
  obtain ⟨m, r, s⟩ := em
  have hm : (m : ℚ) = 2 * (m / 2 : ℕ) + (m % 2 : ℕ) := by exact_mod_cast (Nat.div_add_mod m 2).symm
  rcases Nat.mod_two_eq_zero_or_one m with hbit | hbit <;> rw [hbit] at hm <;>
    cases r <;> cases s <;> simp [Stands, ExtendedMantissa.shiftRightOne, hbit, hm] at h ⊢ <;>
    first | linarith | constructor <;> linarith

lemma Stands.shiftRight (h : Stands em x) (n : ℕ) : Stands (em >>> n) (x / 2 ^ n) := by
  induction n with
  | zero =>
    rw [pow_zero, div_one]
    exact h
  | succ n ih =>
    have hstep := ih.shiftRightOne
    rw [div_div, ← pow_succ] at hstep
    exact hstep

/-- The rounded mantissa is the nearest whole number, and the even one of two that are equally
near. -/
lemma Stands.roundedMantissa (h : Stands em x) : |x - em.roundedMantissa| ≤ 1 / 2 ∧
    (|x - em.roundedMantissa| = 1 / 2 → em.roundedMantissa % 2 = 0) := by
  obtain ⟨m, r, s⟩ := em
  cases r <;> cases s <;> simp only [Stands] at h
  case false.false =>
    show |x - m| ≤ 1 / 2 ∧ (|x - m| = 1 / 2 → m % 2 = 0)
    rw [h, sub_self, abs_zero]
    exact ⟨by norm_num, fun h => by norm_num at h⟩
  case false.true =>
    show |x - m| ≤ 1 / 2 ∧ (|x - m| = 1 / 2 → m % 2 = 0)
    rw [abs_of_pos (by linarith)]
    exact ⟨by linarith, fun h => by linarith⟩
  case true.false =>
    show |x - (m + m % 2 : ℕ)| ≤ 1 / 2 ∧ (|x - (m + m % 2 : ℕ)| = 1 / 2 → (m + m % 2) % 2 = 0)
    refine ⟨?_, fun _ => by omega⟩
    rw [h, abs_le]
    rcases Nat.mod_two_eq_zero_or_one m with hbit | hbit <;> rw [hbit] <;> push_cast <;>
      constructor <;> linarith
  case true.true =>
    show |x - (m + 1 : ℕ)| ≤ 1 / 2 ∧ (|x - (m + 1 : ℕ)| = 1 / 2 → (m + 1) % 2 = 0)
    push_cast
    rw [abs_of_neg (by linarith)]
    exact ⟨by linarith, fun h => by linarith⟩

end Stands

/-! ## Rounding a mantissa with its bits -/

/-- A number is far from both ends of the range of the doubles. -/
structure InRange (v : ℚ) : Prop where
  low : 2 ^ (-1000 : ℤ) ≤ v
  high : v ≤ 2 ^ (1000 : ℤ)

section Round

variable {m : ℕ} {e : ℤ} {accuracy : Accuracy} {x : ℚ}

lemma InRange.pos (h : InRange x) : 0 < x := (two_zpow_pos _).trans_le h.low

lemma inRange_of_bounds (hlow : 2 ^ (-100 : ℤ) ≤ x) (hhigh : x ≤ 2 ^ (100 : ℤ)) : InRange x :=
  ⟨(zpow_le_zpow_right₀ (by norm_num) (by norm_num)).trans hlow,
    hhigh.trans (zpow_le_zpow_right₀ (by norm_num) (by norm_num))⟩

/-- The bits of the mantissa tell how large the number is. -/
lemma InRange.log2_bounds (h : InRange (x * 2 ^ e)) (hm : m ≠ 0) (hle : (m : ℚ) ≤ x)
    (hlt : x < m + 1) : -1000 ≤ m.log2 + e ∧ m.log2 + e ≤ 1000 := by
  have hbelow : ((2 ^ m.log2 : ℕ) : ℚ) ≤ x :=
    le_trans (by exact_mod_cast Nat.log2_self_le hm) hle
  have habove : x < ((2 ^ (m.log2 + 1) : ℕ) : ℚ) :=
    hlt.trans_le (by exact_mod_cast Nat.lt_log2_self (n := m))
  have hhigh : (2 : ℚ) ^ (m.log2 + e) ≤ 2 ^ (1000 : ℤ) := by
    rw [zpow_add₀ (by norm_num), zpow_natCast]
    push_cast at hbelow
    exact (mul_le_mul_of_nonneg_right hbelow (two_zpow_pos e).le).trans h.high
  have hlow : (2 : ℚ) ^ (-1000 : ℤ) < 2 ^ ((m.log2 + 1 : ℕ) + e) := by
    rw [zpow_add₀ (by norm_num), zpow_natCast]
    push_cast at habove
    exact h.low.trans_lt (mul_lt_mul_of_pos_right habove (two_zpow_pos e))
  have hhigh' := (zpow_le_zpow_iff_right₀ (by norm_num : (1 : ℚ) < 2)).1 hhigh
  have hlow' := (zpow_lt_zpow_iff_right₀ (by norm_num : (1 : ℚ) < 2)).1 hlow
  omega

lemma stands_exact (m : ℕ) : Stands (.ofMantissaAndAccuracy m .exact) m := rfl

lemma mantissa_ofMantissaAndAccuracy (m : ℕ) (accuracy : Accuracy) :
    (ExtendedMantissa.ofMantissaAndAccuracy m accuracy).mantissa = m := by
  rcases accuracy with _ | (_ | _ | _) <;> rfl

lemma Stands.mantissa_bounds (h : Stands (.ofMantissaAndAccuracy m accuracy) x) :
    (m : ℚ) ≤ x ∧ x < m + 1 := by
  have hbounds := h.bounds
  rwa [mantissa_ofMantissaAndAccuracy] at hbounds

/-- Cut off behind its 53rd digit, a mantissa with its bits is rounded there. -/
lemma Stands.roundsAt (h : Stands (.ofMantissaAndAccuracy m accuracy) x) {n : ℕ}
    (hlog : m.log2 = 52 + n) (e : ℤ) :
    RoundsAt (e + n) (ExtendedMantissa.ofMantissaAndAccuracy m accuracy >>> n).roundedMantissa
      (x * 2 ^ e) := by
  have hm : m ≠ 0 := by
    rintro rfl
    simp at hlog
    omega
  obtain ⟨hle, hlt⟩ := (Nat.log2_eq_iff hm).1 hlog
  obtain ⟨hbelow, habove⟩ := h.mantissa_bounds
  have hle' : (2 : ℚ) ^ 52 * 2 ^ n ≤ m := by rw [← pow_add]; exact_mod_cast hle
  have hlt' : (m : ℚ) + 1 ≤ 2 ^ 53 * 2 ^ n := by
    have hpow : (2 : ℕ) ^ (52 + n + 1) = 2 ^ 53 * 2 ^ n := by ring
    rw [hpow] at hlt
    exact_mod_cast hlt
  have hunit : (2 : ℚ) ^ (e + (n : ℕ)) = 2 ^ n * 2 ^ e := by
    rw [zpow_add₀ (by norm_num), zpow_natCast, mul_comm]
  have hpos := two_zpow_pos (e + (n : ℕ))
  have hscale : x * 2 ^ e = x / 2 ^ n * 2 ^ (e + (n : ℕ)) := by
    rw [hunit]
    field_simp
  obtain ⟨hnear, heven⟩ := (h.shiftRight n).roundedMantissa
  generalize (ExtendedMantissa.ofMantissaAndAccuracy m accuracy >>> n).roundedMantissa = k at *
  have herror : |x * 2 ^ e - k * 2 ^ (e + (n : ℕ))| = |x / 2 ^ n - k| * 2 ^ (e + (n : ℕ)) := by
    rw [hscale, ← sub_mul, abs_mul, abs_of_pos hpos]
  refine ⟨?_, ?_, ?_, ?_⟩
  · rw [hunit, ← mul_assoc]
    exact mul_le_mul_of_nonneg_right (hle'.trans hbelow) (two_zpow_pos e).le
  · rw [hunit, ← mul_assoc]
    exact mul_lt_mul_of_pos_right (habove.trans_le hlt') (two_zpow_pos e)
  · rw [herror]
    linarith [mul_le_mul_of_nonneg_right hnear hpos.le]
  · intro htie
    rw [herror] at htie
    refine heven ((mul_left_inj' hpos.ne').1 ?_)
    linarith

/-- A mantissa is shifted to 53 binary digits, if that does not take its exponent too low. -/
lemma shiftToTargetExponent_eq (accuracy : Accuracy) {n : ℕ} (hlog : m.log2 = 52 + n)
    (h : -1074 ≤ e + n) :
    shiftToTargetExponent Format.binary64 m e accuracy =
      (ExtendedMantissa.ofMantissaAndAccuracy m accuracy >>> n, e + n) := by
  have hamount : (max (((52 + n : ℕ) : ℤ) + 1 + e - 53) (-1074) - e).toNat = n := by omega
  simp only [shiftToTargetExponent, shiftToExponent, totalExponent, targetExponent_eq, hlog,
    hamount]

/-- A mantissa with its bits, of 53 digits at least and in range, is rounded to a number with a
mantissa of 53 bits. -/
lemma exists_roundWithAccuracy (s : Sign) (h : Stands (.ofMantissaAndAccuracy m accuracy) x)
    (hlog : 52 ≤ m.log2) (hrange : InRange (x * 2 ^ e)) :
    ∃ m' e' hm', roundWithAccuracy Format.binary64 s m e accuracy = .finite s m' e' hm' ∧
      m'.log2 = 52 ∧ -1074 ≤ e' ∧ e' ≤ 971 ∧ IsRounded (x * 2 ^ e) (m' * 2 ^ e') := by
  obtain ⟨n, hn⟩ := Nat.exists_eq_add_of_le hlog
  have hrounds := h.roundsAt hn e
  obtain ⟨hbelow, habove⟩ := h.mantissa_bounds
  have hm : m ≠ 0 := by
    rintro rfl
    simp at hlog
  obtain ⟨hlow, hhigh⟩ := hrange.log2_bounds hm hbelow habove
  rw [roundWithAccuracy, shiftToTargetExponent_eq accuracy hn (by omega)]
  dsimp only
  generalize (ExtendedMantissa.ofMantissaAndAccuracy m accuracy >>> n).roundedMantissa = k at *
  generalize ht : e + (n : ℕ) = t at *
  have hk := hrounds.le_units
  rcases hrounds.units_le.lt_or_eq with hlt | rfl
  · -- there is nothing left to shift
    have hlogk : k.log2 = 52 := (Nat.log2_eq_iff (by omega)).2 ⟨hk, hlt⟩
    have hagain := shiftToTargetExponent_eq (e := t) .exact (n := 0) hlogk (by omega)
    have hne : ¬(ExtendedMantissa.ofMantissaAndAccuracy k .exact >>> 0).mantissa = 0 := by
      show ¬k = 0
      omega
    rw [hagain, dif_neg hne]
    exact ⟨k, t + 0, _, rfl, hlogk, by omega, by omega, t, k, hrounds, by rw [add_zero]⟩
  · -- rounding up has carried into a 54th digit
    have hlogk : (2 ^ 53 : ℕ).log2 = 52 + 1 := Nat.log2_two_pow
    have hagain := shiftToTargetExponent_eq (e := t) .exact hlogk (by omega)
    have hne : ¬(ExtendedMantissa.ofMantissaAndAccuracy (2 ^ 53) .exact >>> 1).mantissa = 0 := by
      show ¬2 ^ 52 = 0
      norm_num
    rw [hagain, dif_neg hne]
    refine ⟨2 ^ 52, t + 1, _, rfl, Nat.log2_two_pow, by omega, by omega, t, 2 ^ 53, hrounds, ?_⟩
    rw [two_zpow_succ]
    push_cast
    ring

/-- Any mantissa in range is rounded to a number with a mantissa of 53 bits. -/
lemma exists_round (s : Sign) (hm : m ≠ 0) (hrange : InRange (m * 2 ^ e)) :
    ∃ m' e' hm', UnpackedFloat.round Format.binary64 s m e = .finite s m' e' hm' ∧
      m'.log2 = 52 ∧ -1074 ≤ e' ∧ e' ≤ 971 ∧ IsRounded (m * 2 ^ e) (m' * 2 ^ e') := by
  obtain ⟨hlow, hhigh⟩ := hrange.log2_bounds hm le_rfl (lt_add_one _)
  obtain ⟨n, hn⟩ : ∃ n : ℕ, (e - max ((m.log2 : ℤ) + 1 + e - 53) (-1074)).toNat = n := ⟨_, rfl⟩
  have hlog := log2_mul_two_pow hm n
  have hvalue : (m : ℚ) * 2 ^ e = (m * 2 ^ n : ℕ) * 2 ^ (e - (n : ℕ)) := by
    push_cast
    rw [zpow_sub₀ (by norm_num), zpow_natCast]
    field_simp
  simp only [UnpackedFloat.round, decreaseExponent, totalExponent, targetExponent_eq, hn,
    Nat.shiftLeft_eq]
  rw [hvalue] at hrange ⊢
  exact exists_roundWithAccuracy s (stands_exact _) (by omega) hrange

end Round

end Raster
