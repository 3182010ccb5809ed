import Raster.Proofs.Grid.Odometer
import Raster.Resize.AntiAlias
/-!
# The band of frequencies that is kept

Before an image shrinks, each of its channels is transformed, the frequencies beyond the band of the
target are set to zero, and the rest is transformed back.  A frequency is beyond the band if it is
cut on some axis that shrinks (`BeyondBand`), where frequency `f` of an axis of `n` cells and
frequency `n - f` are the same but for the direction.  So a frequency and its opposite share their
fate (`beyondBand_opposite_iff`), and on each axis an odd number of them is kept, not more than the
target has cells (`countP_kept`).
-/

namespace Raster

/-! ## One axis -/

/-- A frequency is cut on an axis that goes from `n` cells to `m`: the axis shrinks, and the
frequency is too high in either direction. -/
def IsCut (n m f : Nat) : Prop := m < n ∧ (m - 1) / 2 < min f (n - f)

instance (n m f : Nat) : Decidable (IsCut n m f) :=
  inferInstanceAs (Decidable (m < n ∧ (m - 1) / 2 < min f (n - f)))

section Axis

variable {n m f : Nat}

lemma isCut_iff :
    (m < n && highestFrequency m < f && f < n - highestFrequency m) = true ↔ IsCut n m f := by
  simp only [Bool.and_eq_true, decide_eq_true_eq]
  rw [highestFrequency, IsCut]
  omega

lemma not_isCut_zero : ¬IsCut n m 0 := by
  rintro ⟨-, hcut⟩
  omega

lemma isCut_opposite_iff (hf : f < n) : IsCut n m ((n - f) % n) ↔ IsCut n m f := by
  have hopposite : min ((n - f) % n) (n - (n - f) % n) = min f (n - f) := by
    rcases Nat.eq_zero_or_pos f with rfl | hpos
    · rw [Nat.sub_zero, Nat.mod_self]
      omega
    · rw [Nat.mod_eq_of_lt (by omega)]
      omega
  rw [IsCut, hopposite, IsCut]

/-- An axis keeps the zero frequency and as many in one direction as in the other. -/
lemma countP_not_isCut (h : m < n) :
    (List.range n).countP (fun f => ¬IsCut n m f) = 2 * ((m - 1) / 2) + 1 := by
  obtain ⟨middle, hn⟩ : ∃ middle, n = (m - 1) / 2 + 1 + middle + (m - 1) / 2 :=
    ⟨n - (2 * ((m - 1) / 2) + 1), by omega⟩
  have hlow : (List.range ((m - 1) / 2 + 1)).countP (fun f => ¬IsCut n m f) =
      (m - 1) / 2 + 1 := by
    rw [List.countP_eq_length.2, List.length_range]
    intro f hf
    rw [List.mem_range] at hf
    rw [decide_eq_true_eq, IsCut]
    omega
  have hmiddle : (List.range middle).countP
      (fun f => ¬IsCut n m ((m - 1) / 2 + 1 + f)) = 0 := by
    rw [List.countP_eq_zero]
    intro f hf
    rw [List.mem_range] at hf
    rw [decide_eq_true_eq, IsCut]
    omega
  have hhigh : (List.range ((m - 1) / 2)).countP
      (fun f => ¬IsCut n m ((m - 1) / 2 + 1 + middle + f)) = (m - 1) / 2 := by
    rw [List.countP_eq_length.2, List.length_range]
    intro f hf
    rw [List.mem_range] at hf
    rw [decide_eq_true_eq, IsCut]
    omega
  have hrange : List.range n = List.range ((m - 1) / 2 + 1) ++
      (List.range middle).map ((m - 1) / 2 + 1 + ·) ++
      (List.range ((m - 1) / 2)).map ((m - 1) / 2 + 1 + middle + ·) := by
    rw [← List.range_add, ← List.range_add, ← hn]
  rw [hrange, List.countP_append, List.countP_append, List.countP_map, List.countP_map]
  show _ + List.countP (fun f => ¬IsCut n m ((m - 1) / 2 + 1 + f)) _ +
    List.countP (fun f => ¬IsCut n m ((m - 1) / 2 + 1 + middle + f)) _ = _
  rw [hlow, hmiddle, hhigh]
  omega

end Axis

/-! ## All axes -/

/-- A frequency is beyond the band of the target: it is cut on some axis. -/
def BeyondBand (s target : Shape) (k : List Nat) : Prop :=
  ∃ axis n m f : Nat,
    s[axis]? = some n ∧ target[axis]? = some m ∧ k[axis]? = some f ∧ IsCut n m f

/-- The same frequency in the other direction, on every axis. -/
def Shape.opposite (s : Shape) (k : List Nat) : List Nat :=
  List.zipWith (fun n f => (n - f) % n) s k

section Axes

variable {s target : Shape} {k : List Nat} {axis n m p : Nat}

lemma beyondBand_cons_iff {f : Nat} :
    BeyondBand (n :: s) (m :: target) (f :: k) ↔ IsCut n m f ∨ BeyondBand s target k := by
  constructor
  · rintro ⟨axis, n', m', f', hn, hm, hf, hcut⟩
    cases axis with
    | zero =>
      cases hn
      cases hm
      cases hf
      exact Or.inl hcut
    | succ axis => exact Or.inr ⟨axis, n', m', f', hn, hm, hf, hcut⟩
  · rintro (hcut | ⟨axis, n', m', f', hn, hm, hf, hcut⟩)
    · exact ⟨0, n, m, f, rfl, rfl, rfl, hcut⟩
    · exact ⟨axis + 1, n', m', f', hn, hm, hf, hcut⟩

/-- The test that looks at one axis after the other finds the frequencies beyond the band. -/
lemma outsideBand_iff : outsideBand s target k = true ↔ BeyondBand s target k := by
  induction s generalizing target k with
  | nil => simp [outsideBand, BeyondBand]
  | cons n s ih =>
    cases target with
    | nil => simp [outsideBand, BeyondBand]
    | cons m target =>
      cases k with
      | nil => simp [outsideBand, BeyondBand]
      | cons f k => rw [outsideBand, Bool.or_eq_true, isCut_iff, ih, beyondBand_cons_iff]

instance (s target : Shape) (k : List Nat) : Decidable (BeyondBand s target k) :=
  decidable_of_iff _ outsideBand_iff

lemma shrinks_iff :
    shrinks s target = true ↔
      ∃ axis n m : Nat, s[axis]? = some n ∧ target[axis]? = some m ∧ m < n := by
  induction s generalizing target with
  | nil => simp [shrinks]
  | cons n s ih =>
    cases target with
    | nil => simp [shrinks]
    | cons m target =>
      rw [shrinks, Bool.or_eq_true, decide_eq_true_eq, ih]
      constructor
      · rintro (hlt | ⟨axis, n', m', hn, hm, hlt⟩)
        · exact ⟨0, n, m, rfl, rfl, hlt⟩
        · exact ⟨axis + 1, n', m', hn, hm, hlt⟩
      · rintro ⟨axis, n', m', hn, hm, hlt⟩
        cases axis with
        | zero =>
          cases hn
          cases hm
          exact Or.inl hlt
        | succ axis => exact Or.inr ⟨axis, n', m', hn, hm, hlt⟩

lemma Shape.Contains.opposite (h : s.Contains k) : s.Contains (s.opposite k) := by
  induction s generalizing k with
  | nil => trivial
  | cons n s ih =>
    cases k with
    | nil => exact absurd h id
    | cons f k => exact ⟨Nat.mod_lt _ (Nat.zero_lt_of_lt h.1), ih h.2⟩

/-- A frequency and its opposite are both beyond the band, or neither is. -/
lemma beyondBand_opposite_iff (h : s.Contains k) :
    BeyondBand s target (s.opposite k) ↔ BeyondBand s target k := by
  induction s generalizing target k with
  | nil => simp [BeyondBand]
  | cons n s ih =>
    cases target with
    | nil => simp [BeyondBand]
    | cons m target =>
      cases k with
      | nil => exact absurd h id
      | cons f k =>
        rw [Shape.opposite, List.zipWith_cons_cons, beyondBand_cons_iff, beyondBand_cons_iff,
          isCut_opposite_iff h.1]
        exact or_congr_right (ih h.2)

lemma not_beyondBand_origin : ¬BeyondBand s target s.origin := by
  rintro ⟨axis, n, m, f, -, -, hf, hcut⟩
  obtain rfl : f = 0 := List.eq_of_mem_replicate (List.mem_of_getElem? hf)
  exact not_isCut_zero hcut

/-- A component is cut on its axis, or the frequency is beyond the band on another axis, where a
zero in its place makes no difference. -/
lemma beyondBand_set_iff (hn : s[axis]? = some n) (hm : target[axis]? = some m)
    (haxis : axis < k.length) (p : Nat) :
    BeyondBand s target (k.set axis p) ↔ IsCut n m p ∨ BeyondBand s target (k.set axis 0) := by
  constructor
  · rintro ⟨b, n', m', f, hn', hm', hf, hcut⟩
    by_cases hb : axis = b
    · subst hb
      obtain rfl := Option.some.inj (hn.symm.trans hn')
      obtain rfl := Option.some.inj (hm.symm.trans hm')
      rw [List.getElem?_set_self haxis] at hf
      obtain rfl := Option.some.inj hf
      exact Or.inl hcut
    · rw [List.getElem?_set_ne hb] at hf
      exact Or.inr ⟨b, n', m', f, hn', hm', by rwa [List.getElem?_set_ne hb], hcut⟩
  · rintro (hcut | ⟨b, n', m', f, hn', hm', hf, hcut⟩)
    · exact ⟨axis, n, m, p, hn, hm, List.getElem?_set_self haxis, hcut⟩
    · have hb : axis ≠ b := by
        rintro rfl
        rw [List.getElem?_set_self haxis] at hf
        obtain rfl := Option.some.inj hf
        exact not_isCut_zero hcut
      rw [List.getElem?_set_ne hb] at hf
      exact ⟨b, n', m', f, hn', hm', by rwa [List.getElem?_set_ne hb], hcut⟩

lemma beyondBand_iff_at (hn : s[axis]? = some n) (hm : target[axis]? = some m)
    (haxis : axis < k.length) :
    BeyondBand s target k ↔ IsCut n m k[axis] ∨ BeyondBand s target (k.set axis 0) := by
  rw [← beyondBand_set_iff hn hm haxis, List.set_getElem_self]

/-- On an axis that does not shrink any component will do. -/
lemma beyondBand_set_iff_of_le (hn : s[axis]? = some n) (hm : target[axis]? = some m)
    (haxis : axis < k.length) (hle : n ≤ m) (p : Nat) :
    BeyondBand s target (k.set axis p) ↔ BeyondBand s target k := by
  have hnever : ∀ f, ¬IsCut n m f := fun f hcut => Nat.not_lt.2 hle hcut.1
  rw [beyondBand_set_iff hn hm haxis, beyondBand_iff_at hn hm haxis, or_iff_right (hnever p),
    or_iff_right (hnever _)]

lemma countP_kept (hn : s[axis]? = some n) (hm : target[axis]? = some m)
    (haxis : axis < k.length) (hlt : m < n) (hkept : ¬BeyondBand s target k) :
    (List.range n).countP (fun p => ¬BeyondBand s target (k.set axis p)) =
      2 * ((m - 1) / 2) + 1 := by
  -- the other axes keep the frequency, so this one decides
  have hothers : ¬BeyondBand s target (k.set axis 0) := fun h =>
    hkept ((beyondBand_iff_at hn hm haxis).2 (Or.inr h))
  have hdecides : ∀ p, BeyondBand s target (k.set axis p) ↔ IsCut n m p := fun p => by
    rw [beyondBand_set_iff hn hm haxis, or_iff_left hothers]
  rw [← countP_not_isCut hlt]
  refine List.countP_congr fun p _ => ?_
  simp only [hdecides]

end Axes

/-! ## Spectra -/

namespace Grid

variable {s : Shape}

/-- The spectrum of a channel: its numbers as complex ones, with the lines transformed along every
axis, one axis after the other.  What becomes of a single line is up to `transform`. -/
def channelSpectrum (transform : LineTransform) (channel : Grid s Float) : Grid s Complex64 :=
  (channel.map fun v => (⟨v, 0.0⟩ : Complex64)).fourier transform .forward

/-- A spectrum with zeros beyond the band of the target. -/
def cutBand (target : Shape) (spectrum : Grid s Complex64) : Grid s Complex64 :=
  spectrum.mapWithCoordinates fun z k => if outsideBand s target k then Complex.zero64 else z

/-- The channel that a spectrum belongs to, without its imaginary part. -/
def ofChannelSpectrum (transform : LineTransform) (spectrum : Grid s Complex64) : Grid s Float :=
  (spectrum.fourier transform .backward).map fun z => z.re / nearestDouble s.size

lemma lowPass_eq (transform : LineTransform) (target : Shape) (channel : Grid s Float) :
    channel.lowPass transform target =
      ((channel.channelSpectrum transform).cutBand target).ofChannelSpectrum transform :=
  rfl

/-- The cells of a spectrum beyond the band become zero, and the others stay as they are. -/
lemma get?_cutBand (target : Shape) (spectrum : Grid s Complex64) {k : List Nat}
    (h : s.Contains k) :
    (spectrum.cutBand target).get? k =
      if BeyondBand s target k then .ok Complex.zero64 else spectrum.get? k := by
  obtain ⟨z, hz⟩ := spectrum.exists_get? h
  rw [cutBand, get?_mapWithCoordinates hz, hz]
  simp only [outsideBand_iff]
  split
  · rfl
  · rfl

end Grid

/-- **The band that is kept is symmetric, holds the zero frequency, and fits the target.**  If some
axis shrinks, the clever way of preparing an image takes each channel to its spectrum, sets this to
zero beyond the band and nowhere else, and goes back; otherwise the image stays as it is.  A
frequency and its opposite are both kept or both set to zero, and the zero frequency is kept.  An
axis that does not shrink has no say in this.  Along one that shrinks to `m` cells, exactly
`2 · ⌊(m - 1) / 2⌋ + 1` frequencies are kept where any is, and these are not more than `m`. -/
theorem Image.clever_keeps_band (transform : LineTransform) (image : Image) (target : Shape) :
    ((∃ axis n m : Nat, image.shape[axis]? = some n ∧ target[axis]? = some m ∧ m < n) →
      image.antiAlias transform .clever target =
        .ok (.fresh ⟨image.type, image.shape, .ofChannels image.type (Vector.ofFn fun c =>
          (((image.grid.channel c).channelSpectrum transform).cutBand target).ofChannelSpectrum
            transform)⟩)) ∧
    ((¬∃ axis n m : Nat, image.shape[axis]? = some n ∧ target[axis]? = some m ∧ m < n) →
      image.antiAlias transform .clever target = .ok .unchanged) ∧
    (∀ (spectrum : Grid image.shape Complex64) (k : List Nat), image.shape.Contains k →
      (spectrum.cutBand target).get? k =
        if BeyondBand image.shape target k then .ok Complex.zero64 else spectrum.get? k) ∧
    (∀ k, image.shape.Contains k → image.shape.Contains (image.shape.opposite k) ∧
      (BeyondBand image.shape target (image.shape.opposite k) ↔
        BeyondBand image.shape target k)) ∧
    ¬BeyondBand image.shape target image.shape.origin ∧
    ∀ (k : List Nat) (axis n m : Nat), image.shape.Contains k → image.shape[axis]? = some n →
      target[axis]? = some m →
        (n ≤ m → ∀ p,
          (BeyondBand image.shape target (k.set axis p) ↔ BeyondBand image.shape target k)) ∧
        (m < n → 1 ≤ m → ¬BeyondBand image.shape target k →
          (List.range n).countP (fun p => ¬BeyondBand image.shape target (k.set axis p)) =
              2 * ((m - 1) / 2) + 1 ∧
            2 * ((m - 1) / 2) + 1 ≤ m) := by
  refine ⟨fun hshrinks => ?_, fun hgrows => ?_, fun spectrum k hk => ?_, fun k hk => ?_,
    not_beyondBand_origin, fun k axis n m hk hn hm => ?_⟩
  · rw [Image.antiAlias, if_pos (shrinks_iff.2 hshrinks), Grid.limitBand]
    simp only [Grid.lowPass_eq]
  · exact if_neg fun hshrinks => hgrows (shrinks_iff.1 hshrinks)
  · exact spectrum.get?_cutBand target hk
  · exact ⟨hk.opposite, beyondBand_opposite_iff hk⟩
  · have haxis : axis < k.length := by
      rw [hk.length_eq]
      exact (List.getElem?_eq_some_iff.1 hn).1
    exact ⟨beyondBand_set_iff_of_le hn hm haxis,
      fun hlt hpos hkept => ⟨countP_kept hn hm haxis hlt hkept, by omega⟩⟩

/-- Eight cells that become four keep three frequencies: zero, and one in either direction. -/
theorem Image.clever_keeps_band_of_four :
    let image := Image.zeros (.real .double) [8, 3]
    (∃ prepared, image.antiAlias LineTransform.direct .clever [4, 3] = .ok (.fresh prepared)) ∧
    (image.shape.Contains [2, 1] ∧ image.shape.opposite [2, 1] = [6, 2] ∧
      BeyondBand image.shape [4, 3] [2, 1] ∧ BeyondBand image.shape [4, 3] [6, 2]) ∧
    ¬BeyondBand image.shape [4, 3] [0, 0] ∧
    (List.range 8).countP (fun p => ¬BeyondBand image.shape [4, 3] ([0, 2].set 0 p)) = 3 := by
  intro image
  obtain ⟨hfresh, -, -, hopposite, horigin, haxis⟩ :=
    image.clever_keeps_band LineTransform.direct [4, 3]
  have hcontains : image.shape.Contains [2, 1] := ⟨by decide, by decide, trivial⟩
  have hcut : BeyondBand image.shape [4, 3] [2, 1] := ⟨0, 8, 4, 2, rfl, rfl, rfl, by decide⟩
  have hzero : ¬BeyondBand image.shape [4, 3] [0, 2] := by decide
  refine ⟨⟨_, hfresh ⟨0, 8, 4, rfl, rfl, by decide⟩⟩, ⟨hcontains, rfl, hcut, ?_⟩, horigin, ?_⟩
  · exact (hopposite [2, 1] hcontains).2.2 hcut
  · have hline : image.shape.Contains [0, 2] := ⟨by decide, by decide, trivial⟩
    exact ((haxis [0, 2] 0 8 4 hline rfl rfl).2 (by decide) (by decide) hzero).1

end Raster
