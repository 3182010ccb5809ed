import Mathlib.Tactic.Common
import Raster.Convert.Image
/-!
# Conversions by way of a hub

A conversion may go through another type if, pixel by pixel, its two halves make up the whole
(`Conversion.Through`).  Then and only then it may do so for images (`Image.through_iff`).  The
arithmetic on samples is never looked into here.

Every conversion may go through the hub on its route: transparent colours through opaque ones,
opaque colours and transparent grays through eight-bit gray, scalars on their way to colours
through eight-bit gray.  Complex numbers come from the reals of their precision, and what is not
complex does not see whether it came from complex numbers or from these reals
(`Image.converted_through_hubs`).
-/

namespace Raster

namespace Image

variable {c : Conversion} {s t u : PixelType}

/-- The image that a conversion ends in. -/
def converted (c : Conversion) (target : PixelType) (image : Image) : Image :=
  (image.convert c target).get image

lemma converted_mk {shape : Shape} (g : Grid shape s.Pixel) :
    converted c t ⟨s, shape, g⟩ = ⟨t, shape, g.map (c.pixel s t)⟩ := by
  rw [converted, convert_eq, get_followed]
  rfl

lemma converted_self (image : Image) : image.converted c image.type = image := by
  rw [converted, convert_eq, get_followed, convertPixels_self]

lemma converted_converted (image : Image) : (image.converted c u).converted c t =
    ⟨t, image.shape, image.grid.map (c.pixel u t ∘ c.pixel image.type u)⟩ := by
  obtain ⟨s, shape, g⟩ := image
  rw [converted_mk, converted_mk, Grid.map_map]

end Image

/-! ## Going through a type -/

/-- The conversion of pixels of type `s` to type `t` may go through type `u`. -/
def Conversion.Through (c : Conversion) (s u t : PixelType) : Prop :=
  ∀ v : s.Pixel, c.pixel u t (c.pixel s u v) = c.pixel s t v

namespace Image

variable {c : Conversion} {s t u : PixelType}

lemma converted_through {image : Image} (h : c.Through image.type u t) :
    (image.converted c u).converted c t = image.converted c t := by
  obtain ⟨s, shape, g⟩ := image
  have hpixel : c.pixel u t ∘ c.pixel s u = c.pixel s t := funext h
  rw [converted_converted, converted_mk, hpixel]

/-- Images of a single pixel show whether a conversion may go through a type. -/
lemma through_iff : c.Through s u t ↔ ∀ (shape : Shape) (g : Grid shape s.Pixel),
    (converted c u ⟨s, shape, g⟩).converted c t = converted c t ⟨s, shape, g⟩ := by
  constructor
  · intro h shape g
    exact converted_through h
  · intro h v
    have hone := h [] (Grid.fill [] v)
    rw [converted_converted, converted_mk] at hone
    have hcells := congrArg Grid.cells (eq_of_heq (Image.mk.inj hone).2.2)
    simpa [Grid.map, Grid.fill, Shape.size] using hcells

end Image

/-! ## The hubs -/

lemma PixelType.ne_complex {t : PixelType} (h : t.isComplex = false) (p : Precision) :
    t ≠ .complex p := by
  rintro rfl
  cases h

namespace Conversion

variable {c : Conversion} {s t u : PixelType}

/-- A way that begins with a step to a hub leads through the hub. -/
lemma through_of_step {step : s.Pixel → u.Pixel}
    (hhub : ∀ v, c.pixel s u v = c.pixel u u (step v))
    (hend : ∀ v, c.pixel s t v = c.pixel u t (step v)) : c.Through s u t := by
  intro v
  rw [hhub, pixel_self, hend]

lemma through_rgb (hself : t ≠ .rgba) (hgray : t ≠ .grayAlpha) : c.Through .rgba .rgb t :=
  through_of_step (c.pixel_rgba (by decide) (by decide)) (c.pixel_rgba hself hgray)

lemma through_gray_of_rgb (hself : t ≠ .rgb) (hopacity : t ≠ .rgba) :
    c.Through .rgb (.gray .eight) t :=
  through_of_step (c.pixel_rgb (by decide) (by decide)) (c.pixel_rgb hself hopacity)

lemma through_gray_of_grayAlpha (hself : t ≠ .grayAlpha) (hopacity : t ≠ .rgba) :
    c.Through .grayAlpha (.gray .eight) t :=
  through_of_step (c.pixel_grayAlpha (by decide) (by decide)) (c.pixel_grayAlpha hself hopacity)

lemma through_gray_of_scalar (hs : s.isScalar = true)
    (ht : t = .grayAlpha ∨ t = .rgb ∨ t = .rgba) : c.Through s (.gray .eight) t :=
  fun v => (c.ofByte_eq t _).symm.trans (c.pixel_scalar hs ht v).symm

/-- What is not complex does not see whether it came from complex numbers or from the reals of
their precision. -/
lemma pixel_from_complex (hs : s.isComplex = false) (ht : t.isComplex = false) (p : Precision)
    (v : s.Pixel) : c.pixel (.complex p) t (c.pixel s (.complex p) v) =
      c.pixel (.real p) t (c.pixel s (.real p) v) := by
  rw [c.pixel_to_complex (PixelType.ne_complex hs), c.pixel_complex (PixelType.ne_complex ht)]

end Conversion

namespace Image

variable {c : Conversion} {t : PixelType}

lemma converted_from_complex {image : Image} (hs : image.type.isComplex = false)
    (ht : t.isComplex = false) (p : Precision) :
    (image.converted c (.complex p)).converted c t =
      (image.converted c (.real p)).converted c t := by
  have hpixel : c.pixel (.complex p) t ∘ c.pixel image.type (.complex p) =
      c.pixel (.real p) t ∘ c.pixel image.type (.real p) :=
    funext (Conversion.pixel_from_complex hs ht p)
  rw [converted_converted, converted_converted, hpixel]

lemma exists_converted_complex {image : Image} (hs : image.type.isComplex = false)
    (p : Precision) : ∃ g : Grid image.shape p.Real,
      image.converted c (.real p) = ⟨.real p, image.shape, g⟩ ∧
      image.converted c (.complex p) = ⟨.complex p, image.shape, g.map fun v => ⟨v, p.zero⟩⟩ := by
  obtain ⟨s, shape, g⟩ := image
  have hpixel : c.pixel s (.complex p) = (fun v => ⟨v, p.zero⟩) ∘ c.pixel s (.real p) :=
    funext (c.pixel_to_complex (PixelType.ne_complex hs) p)
  refine ⟨g.map (c.pixel s (.real p)), converted_mk g, ?_⟩
  rw [converted_mk, Grid.map_map, hpixel]

/-- **Conversions factor through their hubs.**  For an image and a type other than its own, with
any settings: complex numbers in between are as good as the reals of their precision, if neither
end is complex; transparent colours may go through opaque ones, except to transparent gray; opaque
colours and transparent grays may go through eight-bit gray, except to transparent colours;
scalars that become colours or transparent gray go through eight-bit gray; and what becomes
complex becomes the reals of that precision, with zero as imaginary part. -/
theorem converted_through_hubs (c : Conversion) (image : Image) (t : PixelType)
    (hself : t ≠ image.type) :
    (∀ p, image.type.isComplex = false → t.isComplex = false →
      (image.converted c (.complex p)).converted c t =
        (image.converted c (.real p)).converted c t) ∧
    (image.type = .rgba → t ≠ .grayAlpha →
      image.converted c t = (image.converted c .rgb).converted c t) ∧
    (image.type = .rgb ∨ image.type = .grayAlpha → t ≠ .rgba →
      image.converted c t = (image.converted c (.gray .eight)).converted c t) ∧
    (image.type.isScalar = true → t = .grayAlpha ∨ t = .rgb ∨ t = .rgba →
      image.converted c t = (image.converted c (.gray .eight)).converted c t) ∧
    (∀ p, image.type.isComplex = false → t = .complex p → ∃ g : Grid image.shape p.Real,
      image.converted c (.real p) = ⟨.real p, image.shape, g⟩ ∧
      image.converted c t = ⟨.complex p, image.shape, g.map fun v => ⟨v, p.zero⟩⟩) := by
  obtain ⟨s, shape, g⟩ := image
  refine ⟨fun p hs ht => converted_from_complex hs ht p, ?_, ?_, ?_, ?_⟩
  · rintro (rfl : s = .rgba) hgray
    exact (converted_through (Conversion.through_rgb hself hgray)).symm
  · rintro ((rfl : s = .rgb) | (rfl : s = .grayAlpha)) hopacity
    · exact (converted_through (Conversion.through_gray_of_rgb hself hopacity)).symm
    · exact (converted_through (Conversion.through_gray_of_grayAlpha hself hopacity)).symm
  · intro hs ht
    exact (converted_through (Conversion.through_gray_of_scalar hs ht)).symm
  · rintro p hs rfl
    exact exists_converted_complex hs p

/-- Two transparent pixels, on their way to complex numbers by way of colours. -/
theorem transparent_pixels_through_hubs :
    let image : Image := ⟨.rgba, [2], ⟨#v[⟨255, 0, 0, 128⟩, ⟨1, 2, 3, 0⟩]⟩⟩
    PixelType.complex .single ≠ image.type ∧
      image.converted {} (.complex .single) =
        (image.converted {} .rgb).converted {} (.complex .single) ∧
      ∃ g : Grid [2] Float32, image.converted {} (.real .single) = ⟨.real .single, [2], g⟩ ∧
        image.converted {} (.complex .single) =
          ⟨.complex .single, [2], g.map fun v => ⟨v, (0 : Float32)⟩⟩ := by
  intro image
  obtain ⟨-, hrgb, -, -, hcomplex⟩ :=
    converted_through_hubs {} image (.complex .single) (by decide)
  exact ⟨by decide, hrgb rfl (by decide), hcomplex .single rfl rfl⟩

end Image

end Raster
