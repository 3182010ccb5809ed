import Mathlib.Algebra.Group.Nat.Defs
import Mathlib.Tactic.Common
import Raster.Proofs.Convert.Hubs
/-!
# Gray levels at several depths

A gray level changes its depth by a shift, when ranges are stretched, and else by losing its
leading bits.  On the way to another depth it may go through a third one exactly if that one has at
least as many bits as one of the two ends (`Conversion.through_gray_iff`); a depth below both ends
loses a bit that the end would have shown.  For images this is `Image.gray_depths_compose`.
-/

namespace Raster

/-! ## Stretching numbers -/

/-- A number of `a` bits stretched to `b` bits. -/
def stretch (a b n : Nat) : Nat := if b < a then n >>> (a - b) else n <<< (b - a)

section Stretch

variable {a b c m n : Nat}

lemma stretch_of_lt (h : b < a) (n : Nat) : stretch a b n = n >>> (a - b) := if_pos h

lemma stretch_of_le (h : a ≤ b) (n : Nat) : stretch a b n = n <<< (b - a) :=
  if_neg (Nat.not_lt.2 h)

lemma stretch_lt (hn : n < 2 ^ a) : stretch a b n < 2 ^ b := by
  rcases Nat.lt_or_ge b a with h | h
  · rw [stretch_of_lt h, Nat.shiftRight_eq_div_pow, Nat.div_lt_iff_lt_mul (Nat.two_pow_pos _),
      ← Nat.pow_add, Nat.add_sub_cancel' (Nat.le_of_lt h)]
    exact hn
  · rw [stretch_of_le h, Nat.shiftLeft_eq]
    calc n * 2 ^ (b - a) < 2 ^ a * 2 ^ (b - a) :=
          Nat.mul_lt_mul_of_pos_right hn (Nat.two_pow_pos _)
      _ = 2 ^ b := by rw [← Nat.pow_add, Nat.add_sub_cancel' h]

lemma stretch_le_stretch (h : m ≤ n) : stretch a b m ≤ stretch a b n := by
  rcases Nat.lt_or_ge b a with hb | hb
  · rw [stretch_of_lt hb, stretch_of_lt hb, Nat.shiftRight_eq_div_pow, Nat.shiftRight_eq_div_pow]
    exact Nat.div_le_div_right h
  · rw [stretch_of_le hb, stretch_of_le hb, Nat.shiftLeft_eq, Nat.shiftLeft_eq]
    exact Nat.mul_le_mul_right _ h

/-- Stretching twice is stretching once, unless the number in between has fewer bits than both
ends. -/
lemma stretch_stretch (h : min a c ≤ b) : stretch b c (stretch a b n) = stretch a c n := by
  rcases Nat.lt_or_ge b a with hba | hab
  · -- cut twice
    have hcb : c ≤ b := by omega
    rw [stretch_of_lt hba, stretch_of_lt (Nat.lt_of_le_of_lt hcb hba)]
    rcases Nat.lt_or_eq_of_le hcb with hcb | rfl
    · have hsplit : a - c = (a - b) + (b - c) := by omega
      rw [stretch_of_lt hcb, hsplit, Nat.shiftRight_add]
    · rw [stretch_of_le (Nat.le_refl c), Nat.sub_self, Nat.shiftLeft_zero]
  · rw [stretch_of_le hab]
    rcases Nat.lt_or_ge c b with hcb | hbc
    · -- widened, then cut by more or by less than that
      rw [stretch_of_lt hcb]
      rcases Nat.lt_or_ge c a with hca | hac
      · have hsplit : b - c = (b - a) + (a - c) := by omega
        rw [stretch_of_lt hca, hsplit, Nat.shiftRight_add, Nat.shiftLeft_shiftRight]
      · have hsplit : b - a = (c - a) + (b - c) := by omega
        rw [stretch_of_le hac, hsplit, Nat.shiftLeft_add, Nat.shiftLeft_shiftRight]
    · -- widened twice
      have hsplit : c - a = (b - a) + (c - b) := by omega
      rw [stretch_of_le hbc, stretch_of_le (Nat.le_trans hab hbc), hsplit, Nat.shiftLeft_add]

/-- In fewer bits than both ends have, the last bit that the end shows is lost. -/
lemma exists_stretch_stretch_ne (h : b < min a c) :
    ∃ n < 2 ^ a, stretch b c (stretch a b n) ≠ stretch a c n := by
  have hba : b < a := by omega
  have hbc : b < c := by omega
  have hlost : stretch a b (2 ^ (a - c)) = 0 := by
    rw [stretch_of_lt hba, Nat.shiftRight_eq_div_pow]
    exact Nat.div_eq_of_lt (Nat.pow_lt_pow_right (by decide) (by omega))
  refine ⟨2 ^ (a - c), Nat.pow_lt_pow_right (by decide) (by omega), ?_⟩
  rw [hlost, stretch_of_le (Nat.le_of_lt hbc), Nat.zero_shiftLeft]
  rcases Nat.lt_or_ge c a with hca | hac
  · rw [stretch_of_lt hca, Nat.shiftRight_eq_div_pow, Nat.div_self (Nat.two_pow_pos _)]
    exact Nat.zero_ne_one
  · rw [stretch_of_le hac, Nat.shiftLeft_eq]
    exact Nat.ne_of_lt (Nat.mul_pos (Nat.two_pow_pos _) (Nat.two_pow_pos _))

end Stretch

/-! ## Levels -/

namespace Conversion

variable {c : Conversion} {d e f : Depth}

lemma toNat_level_of_rescale (hr : c.rescale = true) (v : d.Level) :
    (c.level d e v).toNat = stretch d.bits e.bits v.toNat := by
  have hlevel : c.level d e v = BitVec.ofNat e.bits (stretch d.bits e.bits v.toNat) := by
    unfold level stretch
    rw [if_pos hr, apply_ite (BitVec.ofNat e.bits)]
  rw [hlevel, BitVec.toNat_ofNat, Nat.mod_eq_of_lt (stretch_lt v.isLt)]

lemma toNat_level_of_not_rescale (hr : ¬c.rescale = true) (v : d.Level) :
    (c.level d e v).toNat = v.toNat % 2 ^ e.bits := by
  unfold level
  rw [if_neg hr, BitVec.toNat_ofNat]

lemma level_level (h : min d.bits f.bits ≤ e.bits) (v : d.Level) :
    c.level e f (c.level d e v) = c.level d f v := by
  apply BitVec.eq_of_toNat_eq
  by_cases hr : c.rescale = true
  · simp only [toNat_level_of_rescale hr]
    exact stretch_stretch h
  · simp only [toNat_level_of_not_rescale hr]
    rcases Nat.lt_or_ge e.bits f.bits with hef | hfe
    · -- the number in between is the number itself
      have hde : d.bits ≤ e.bits := by omega
      rw [Nat.mod_eq_of_lt (Nat.lt_of_lt_of_le v.isLt (Nat.pow_le_pow_right (by decide) hde))]
    · exact Nat.mod_mod_of_dvd _ (Nat.pow_dvd_pow 2 hfe)

lemma exists_level_level_ne (h : e.bits < min d.bits f.bits) :
    ∃ v : d.Level, c.level e f (c.level d e v) ≠ c.level d f v := by
  by_cases hr : c.rescale = true
  · obtain ⟨n, hn, hne⟩ := exists_stretch_stretch_ne h
    refine ⟨BitVec.ofNat d.bits n, fun heq => hne ?_⟩
    have hnat := congrArg BitVec.toNat heq
    simpa only [toNat_level_of_rescale hr, BitVec.toNat_ofNat, Nat.mod_eq_of_lt hn] using hnat
  · have hpow : ∀ k, e.bits < k → 2 ^ e.bits < 2 ^ k :=
      fun k hk => Nat.pow_lt_pow_right (by decide) hk
    refine ⟨BitVec.ofNat d.bits (2 ^ e.bits), fun heq => ?_⟩
    have hnat := congrArg BitVec.toNat heq
    simp only [toNat_level_of_not_rescale hr, BitVec.toNat_ofNat,
      Nat.mod_eq_of_lt (hpow d.bits (by omega)), Nat.mod_eq_of_lt (hpow f.bits (by omega)),
      Nat.mod_self, Nat.zero_mod] at hnat
    exact absurd hnat (Nat.ne_of_lt (Nat.two_pow_pos _))

lemma level_le_level (hr : c.rescale = true) {v w : d.Level} (h : v ≤ w) :
    c.level d e v ≤ c.level d e w := by
  rw [BitVec.le_def, toNat_level_of_rescale hr, toNat_level_of_rescale hr]
  exact stretch_le_stretch h

/-- A level may go through a depth exactly if that has at least as many bits as one of the
ends. -/
lemma through_gray_iff :
    c.Through (.gray d) (.gray e) (.gray f) ↔ min d.bits f.bits ≤ e.bits := by
  constructor
  · intro h
    by_contra hlt
    obtain ⟨v, hv⟩ := exists_level_level_ne (c := c) (Nat.lt_of_not_le hlt)
    exact hv (h v)
  · exact level_level

end Conversion

/-! ## Images -/

/-- An image of gray levels. -/
def Image.gray {d : Depth} {s : Shape} (g : Grid s d.Level) : Image := ⟨.gray d, s, g⟩

/-- **Changes of depth compose.**  Whether ranges are stretched or numbers kept, an image of gray
levels may go through another depth exactly if that depth has at least as many bits as one of the
ends; in particular it comes back from a depth that has no fewer bits.  When ranges are stretched,
the pixels keep their order. -/
theorem Image.gray_depths_compose (c : Conversion) (d e f : Depth) :
    ((∀ (s : Shape) (g : Grid s d.Level),
        ((gray g).converted c (.gray e)).converted c (.gray f) = (gray g).converted c (.gray f)) ↔
      min d.bits f.bits ≤ e.bits) ∧
    (d.bits ≤ e.bits → ∀ (s : Shape) (g : Grid s d.Level),
      ((gray g).converted c (.gray e)).converted c (.gray d) = gray g) ∧
    (c.rescale = true → ∃ change : d.Level → e.Level,
      (∀ v w, v ≤ w → change v ≤ change w) ∧
      ∀ (s : Shape) (g : Grid s d.Level),
        (gray g).converted c (.gray e) = gray (g.map change)) := by
  refine ⟨through_iff.symm.trans Conversion.through_gray_iff, fun hde s g => ?_, fun hr => ?_⟩
  · have hback : c.Through (.gray d) (.gray e) (.gray d) :=
      Conversion.through_gray_iff.2 (Nat.le_trans (Nat.min_le_left _ _) hde)
    exact (converted_through hback).trans (converted_self (gray g))
  · exact ⟨c.level d e, fun v w => Conversion.level_le_level hr,
      fun s g => converted_mk (s := .gray d) g⟩

/-- Bytes on their way to 64 bits and back, by way of 16 bits. -/
theorem Image.bytes_through_sixteen_bits :
    let image := gray (d := .eight) (s := [3]) ⟨#v[0, 1, 255]⟩
    (image.converted {} (.gray .sixteen)).converted {} (.gray .sixtyFour) =
        image.converted {} (.gray .sixtyFour) ∧
      (image.converted {} (.gray .sixteen)).converted {} (.gray .eight) = image := by
  intro image
  have hthere := gray_depths_compose {} .eight .sixteen .sixtyFour
  exact ⟨hthere.1.2 (by decide) [3] image.grid, hthere.2.1 (by decide) [3] image.grid⟩

end Raster
