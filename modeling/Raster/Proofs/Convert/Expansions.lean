import Raster.Proofs.Convert.Hubs
import Raster.Proofs.Number.Level
/-!
# Opaque expansions

Bytes that become transparent pixels are opaque there, and nothing shows through an opaque byte
(`Conversion.blend_full`).  Gray bytes that become colours have three equal parts, and with the
usual weights the gray level of such a colour is the part (`Conversion.luminance_gray`): each
product and each sum errs by one part in `2 ^ 53` at most, so that rounding to the nearest level
finds the way back.
-/

namespace Raster

namespace Conversion

variable {c : Conversion} {x y z : Float} {a b d : ℚ}

/-! ## Opaque bytes -/

/-- Nothing shows through an opaque byte. -/
lemma blend_full (value background : Byte) : blend value 255 background = value := by
  have hdivisor : IsWhole (255.0 : Float) 255 := ⟨by norm_num, rfl⟩
  have hone : IsWhole (1.0 : Float) 1 := ⟨by norm_num, rfl⟩
  have hshare : IsWhole (levelDouble (255 : Byte) / 255.0) 1 :=
    (isWhole_nearestDouble (n := 1 * 255) (by norm_num)).div hdivisor (by norm_num)
  have hvalue : IsWhole (levelDouble value * (levelDouble (255 : Byte) / 255.0)) value.toNat := by
    have hlt : value.toNat < 2 ^ 53 := value.isLt.trans (by norm_num)
    have hproduct := (isWhole_nearestDouble hlt).mul hshare (by rwa [mul_one])
    rwa [mul_one] at hproduct
  have hrest := hone.hasValue.sub_self hshare.hasValue
  have hbackground := (hasValue_levelDouble (by norm_num) background).mul_eq_zero hrest
    (mul_zero _)
  exact (hvalue.hasValue.add_zero hbackground).quantize_byte value (by norm_num)

/-! ## Weighted colours -/

/-- The weights of the three colours are the usual ones. -/
def HasUsualWeights (c : Conversion) : Prop :=
  c.redWeight = ({} : Conversion).redWeight ∧ c.greenWeight = ({} : Conversion).greenWeight ∧
    c.blueWeight = ({} : Conversion).blueWeight

lemma hasValue_redWeight : HasValue ({} : Conversion).redWeight
    ((5386305154335113 : ℕ) * 2 ^ (-54 : ℤ)) :=
  .normal (by norm_num) rfl rfl (by norm_num) (by norm_num)

lemma hasValue_greenWeight : HasValue ({} : Conversion).greenWeight
    ((5287225962532962 : ℕ) * 2 ^ (-53 : ℤ)) :=
  .normal (by norm_num) rfl rfl (by norm_num) (by norm_num)

lemma hasValue_blueWeight : HasValue ({} : Conversion).blueWeight
    ((8214565720323785 : ℕ) * 2 ^ (-56 : ℤ)) :=
  .normal (by norm_num) rfl rfl (by norm_num) (by norm_num)

/-- The gray level of a gray colour is its level. -/
lemma luminance_gray (hw : c.HasUsualWeights) (v : Byte) : c.luminance ⟨v, v, v⟩ = v := by
  obtain ⟨hred, hgreen, hblue⟩ := hw
  have hv := hasValue_levelDouble (by norm_num) v
  rw [luminance, hred, hgreen, hblue]
  have hbyte : (v.toNat : ℚ) ≤ 255 := by
    exact_mod_cast Nat.le_of_lt_succ v.isLt
  by_cases hzero : v.toNat = 0
  · have hpart : ∀ {w : Float} {a : ℚ}, HasValue w a → HasValue (levelDouble v * w) 0 :=
      fun hw => hv.mul_eq_zero hw (by simp [hzero])
    exact (((hpart hasValue_redWeight).add_zero (hpart hasValue_greenWeight)).add_zero
      (hpart hasValue_blueWeight)).quantize_byte v (by simp [hzero])
  · -- every product and every sum is off by one part in `2 ^ 53` at most
    have hone : (1 : ℚ) ≤ v.toNat := by exact_mod_cast Nat.pos_of_ne_zero hzero
    obtain ⟨r, hr, hred⟩ := hv.mul hasValue_redWeight
      (inRange_of_bounds (by norm_num; linarith) (by norm_num; linarith))
    obtain ⟨g, hg, hgreen⟩ := hv.mul hasValue_greenWeight
      (inRange_of_bounds (by norm_num; linarith) (by norm_num; linarith))
    obtain ⟨b, hb, hblue⟩ := hv.mul hasValue_blueWeight
      (inRange_of_bounds (by norm_num; linarith) (by norm_num; linarith))
    have hred := hred.bounds
    have hgreen := hgreen.bounds
    have hblue := hblue.bounds
    norm_num at hred hgreen hblue
    obtain ⟨s, hs, hsum⟩ := hr.add hg (by linarith) (by linarith)
      (inRange_of_bounds (by norm_num; linarith) (by norm_num; linarith))
    have hsum := hsum.bounds
    norm_num at hsum
    obtain ⟨t, ht, htotal⟩ := hs.add hb (by linarith) (by linarith)
      (inRange_of_bounds (by norm_num; linarith) (by norm_num; linarith))
    have htotal := htotal.bounds
    norm_num at htotal
    exact ht.quantize_byte v (abs_lt.2 ⟨by linarith, by linarith⟩)

/-! ## There and back -/

/-- Pixels of type `s` come back from type `u`. -/
def Returns (there back : Conversion) (s u : PixelType) : Prop :=
  ∀ v : s.Pixel, back.pixel u s (there.pixel s u v) = v

variable {there back : Conversion}

lemma returns_rgba_of_rgb : Returns there back .rgb .rgba := by
  rintro ⟨r, g, b⟩
  show back.flatten ⟨r, g, b, 255⟩ = ⟨r, g, b⟩
  rw [flatten, blend_full, blend_full, blend_full]

lemma pixel_gray_eight (c : Conversion) (t : PixelType) (v : (PixelType.gray .eight).Pixel) :
    c.pixel (.gray .eight) t v = c.ofByte t v :=
  (c.ofByte_eq t v).symm

lemma returns_grayAlpha_of_gray : Returns there back (.gray .eight) .grayAlpha := by
  intro v
  rw [pixel_gray_eight]
  exact (back.level_self .eight _).trans (blend_full v back.grayBackground)

lemma returns_rgb_of_gray (hw : back.HasUsualWeights) :
    Returns there back (.gray .eight) .rgb := by
  intro v
  rw [pixel_gray_eight]
  exact (back.level_self .eight _).trans (luminance_gray hw v)

/-- Gray becomes an opaque colour, and this becomes gray by way of the colour without opacity. -/
lemma returns_rgba_of_gray (hw : back.HasUsualWeights) :
    Returns there back (.gray .eight) .rgba := by
  intro v
  have hflat : back.flatten (there.ofByte .rgba v) = ⟨v, v, v⟩ := by
    show back.flatten ⟨v, v, v, 255⟩ = _
    rw [flatten, blend_full, blend_full, blend_full]
  rw [there.pixel_gray_eight, back.pixel_rgba (by decide) (by decide), hflat]
  exact (back.level_self .eight _).trans (luminance_gray hw v)

lemma returns_rgba_of_grayAlpha (hw : back.HasUsualWeights) :
    Returns there back .grayAlpha .rgba := by
  rintro ⟨v, alpha⟩
  show (⟨back.luminance ⟨v, v, v⟩, alpha⟩ : GrayAlpha) = ⟨v, alpha⟩
  rw [luminance_gray hw]

end Conversion

namespace Image

variable {there back : Conversion} {image : Image} {u : PixelType}

lemma converted_back (h : Conversion.Returns there back image.type u) :
    (image.converted there u).converted back image.type = image := by
  obtain ⟨s, shape, g⟩ := image
  have hpixel : back.pixel u s ∘ there.pixel s u = id := funext h
  rw [converted_mk, converted_mk, Grid.map_map, hpixel]
  simp [Grid.map]

/-- **Opaque expansions lose nothing.**  With any settings on either way, an image comes back from
a type that adds an opacity: colours from transparent colours, and eight-bit gray from transparent
gray.  If the weights on the way back are the usual ones, whatever the backgrounds, eight-bit gray
also comes back from colours, opaque or transparent, and transparent gray from transparent
colours. -/
theorem opaque_expansions_return (there back : Conversion) (image : Image) :
    (image.type = .rgb → (image.converted there .rgba).converted back .rgb = image) ∧
    (image.type = .gray .eight →
      (image.converted there .grayAlpha).converted back (.gray .eight) = image) ∧
    (back.HasUsualWeights →
      (image.type = .gray .eight →
        (image.converted there .rgb).converted back (.gray .eight) = image ∧
        (image.converted there .rgba).converted back (.gray .eight) = image) ∧
      (image.type = .grayAlpha →
        (image.converted there .rgba).converted back .grayAlpha = image)) := by
  obtain ⟨s, shape, g⟩ := image
  refine ⟨?_, ?_, fun hw => ⟨?_, ?_⟩⟩
  · rintro (rfl : s = .rgb)
    exact converted_back Conversion.returns_rgba_of_rgb
  · rintro (rfl : s = .gray .eight)
    exact converted_back Conversion.returns_grayAlpha_of_gray
  · rintro (rfl : s = .gray .eight)
    exact ⟨converted_back (Conversion.returns_rgb_of_gray hw),
      converted_back (Conversion.returns_rgba_of_gray hw)⟩
  · rintro (rfl : s = .grayAlpha)
    exact converted_back (Conversion.returns_rgba_of_grayAlpha hw)

/-- Two gray levels by way of transparent colours, with another background on the way back. -/
theorem gray_levels_return :
    let image : Image := ⟨.gray .eight, [2], ⟨#v[17, 254]⟩⟩
    let back : Conversion := { rescale := false, background := ⟨0, 128, 7⟩ }
    (back.HasUsualWeights ∧ image.type = .gray .eight) ∧
      (image.converted {} .grayAlpha).converted back (.gray .eight) = image ∧
      (image.converted {} .rgba).converted back (.gray .eight) = image := by
  intro image back
  have hw : back.HasUsualWeights := ⟨rfl, rfl, rfl⟩
  obtain ⟨-, hgray, hweighted⟩ := opaque_expansions_return {} back image
  exact ⟨⟨hw, rfl⟩, hgray rfl, ((hweighted hw).1 rfl).2⟩

end Image

end Raster
