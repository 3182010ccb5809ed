import Raster.Convert.Pixel
import Raster.Convert.Route
/-!
# Converting images

An image that already has the wanted type is handed on; any other is converted along its route.
No route fails, and where it leads is where converting pixel by pixel leads (`Image.route_eq`):
at each hub the pixels are those that `Conversion.pixel` goes through.
-/

namespace Raster

/-- Convert every pixel of a grid. -/
def Grid.convert {shape : Shape} (c : Conversion) (s t : PixelType) (g : Grid shape s.Pixel) :
    Grid shape t.Pixel :=
  g.map (c.pixel s t)

/-! ## Hubs -/

namespace Conversion

variable (c : Conversion)

@[simp] theorem level_self (d : Depth) (v : d.Level) : c.level d d v = v := by
  simp [level]

@[simp] theorem real_self (p : Precision) (v : p.Real) : real p p v = v := by
  cases p <;> rfl

/-- A pixel of the wanted type stays as it is. -/
@[simp] theorem pixel_self (t : PixelType) (v : t.Pixel) : c.pixel t t v = v := by
  cases t with
  | gray d => exact c.level_self d v
  | real p => exact real_self p v
  | complex p => simp [pixel, ofComplex]
  | grayAlpha | rgb | rgba => rfl

theorem pixel_complex {p : Precision} {t : PixelType} (ht : ∀ q, t ≠ .complex q)
    (v : Complex p.Real) : c.pixel (.complex p) t v = c.pixel (.real p) t v.re := by
  cases t with
  | complex q => exact absurd rfl (ht q)
  | gray | grayAlpha | real | rgb | rgba => rfl

theorem pixel_to_complex {s : PixelType} (hs : ∀ p, s ≠ .complex p) (q : Precision) (v : s.Pixel) :
    c.pixel s (.complex q) v = ⟨c.pixel s (.real q) v, q.zero⟩ := by
  cases s with
  | complex p => exact absurd rfl (hs p)
  | gray | grayAlpha | real | rgb | rgba => rfl

theorem ofByte_eq (t : PixelType) (v : Byte) : c.ofByte t v = c.pixel (.gray .eight) t v := by
  cases t with
  | gray | real | complex => rfl
  | grayAlpha | rgb | rgba => exact congrArg (c.ofByte _) (c.level_self .eight v).symm

theorem pixel_rgba {t : PixelType} (hself : t ≠ .rgba) (hgray : t ≠ .grayAlpha) (v : Rgba) :
    c.pixel .rgba t v = c.pixel .rgb t (c.flatten v) := by
  cases t <;> first | rfl | contradiction

theorem pixel_rgb {t : PixelType} (hself : t ≠ .rgb) (hopacity : t ≠ .rgba) (v : Rgb) :
    c.pixel .rgb t v = c.pixel (.gray .eight) t (c.luminance v) := by
  rw [← ofByte_eq]
  cases t <;> first | rfl | contradiction

theorem pixel_grayAlpha {t : PixelType} (hself : t ≠ .grayAlpha) (hopacity : t ≠ .rgba)
    (v : GrayAlpha) : c.pixel .grayAlpha t v = c.pixel (.gray .eight) t (c.flattenGray v) := by
  rw [← ofByte_eq]
  cases t <;> first | rfl | contradiction

/-- Scalars become colours by way of eight-bit gray. -/
theorem pixel_scalar {s t : PixelType} (hs : s.isScalar = true)
    (ht : t = .grayAlpha ∨ t = .rgb ∨ t = .rgba) (v : s.Pixel) :
    c.pixel s t v = c.ofByte t (c.pixel s (.gray .eight) v) := by
  cases s with
  | gray | real => obtain rfl | rfl | rfl := ht <;> rfl
  | grayAlpha | rgb | rgba | complex => cases hs

end Conversion

/-! ## Routes -/

namespace Image

/-- The image with every pixel converted. -/
def convertPixels (c : Conversion) (target : PixelType) (image : Image) : Image :=
  ⟨target, image.shape, image.grid.convert c image.type target⟩

/-- What a route comes to: nothing is left to do, or every pixel is converted. -/
def followed (c : Conversion) (target : PixelType) (image : Image) : Derived :=
  if image.type = target then .unchanged else .fresh (image.convertPixels c target)

variable {c : Conversion} {s : Shape} {t u target : PixelType} {g : Grid s t.Pixel}

theorem convertPixels_self (image : Image) : image.convertPixels c image.type = image := by
  obtain ⟨t, s, g⟩ := image
  have hpixel : c.pixel t t = id := funext (c.pixel_self t)
  simp [convertPixels, Grid.convert, Grid.map, hpixel]

theorem get_followed (image : Image) :
    (image.followed c target).get image = image.convertPixels c target := by
  rw [followed]
  split
  · rename_i htype
    subst htype
    exact image.convertPixels_self.symm
  · rfl

theorem followed_of_ne (h : t ≠ target) :
    followed c target ⟨t, s, g⟩ = .fresh ⟨target, s, g.convert c t target⟩ :=
  if_neg h

/-- The pixels of the source become those of a hub, and these are converted. -/
theorem convert_map {f : t.Pixel → u.Pixel}
    (h : ∀ v, c.pixel t target v = c.pixel u target (f v)) :
    (g.map f).convert c u target = g.convert c t target := by
  have hpixel : c.pixel t target = c.pixel u target ∘ f := funext h
  simp [Grid.convert, Grid.map, hpixel]

/-- The source is converted to a hub, and the pixels of the hub become those of the target. -/
theorem map_convert {f : u.Pixel → target.Pixel}
    (h : ∀ v, c.pixel t target v = f (c.pixel t u v)) :
    (g.convert c t u).map f = g.convert c t target := by
  have hpixel : c.pixel t target = f ∘ c.pixel t u := funext h
  simp [Grid.convert, Grid.map, hpixel]

/-- A route that goes on from a hub. -/
theorem route_from_hub {f : t.Pixel → u.Pixel} (hne : t ≠ target)
    (hhub : route c ⟨u, s, g.map f⟩ target = .ok (followed c target ⟨u, s, g.map f⟩))
    (hpixel : ∀ v, c.pixel t target v = c.pixel u target (f v)) :
    (do
      let result ← route c ⟨u, s, g.map f⟩ target
      return Derived.fresh (result.get ⟨u, s, g.map f⟩)) =
    .ok (followed c target ⟨t, s, g⟩) := by
  rw [hhub, followed_of_ne hne, ← convert_map hpixel]
  exact congrArg (Except.ok ∘ Derived.fresh) (get_followed _)

/-- A route that goes to a hub first. -/
theorem route_to_hub {f : u.Pixel → target.Pixel} (hne : t ≠ target)
    (hhub : route c ⟨t, s, g⟩ u = .ok (followed c u ⟨t, s, g⟩))
    (hpixel : ∀ v, c.pixel t target v = f (c.pixel t u v)) :
    (do
      let result ← route c ⟨t, s, g⟩ u
      let h ← orFault ((result.get ⟨t, s, g⟩).view u)
      return Derived.fresh ⟨target, (result.get ⟨t, s, g⟩).shape, h.map f⟩) =
    .ok (followed c target ⟨t, s, g⟩) := by
  rw [hhub, followed_of_ne hne, ← map_convert hpixel]
  show (do
    let h ← orFault (((followed c u ⟨t, s, g⟩).get ⟨t, s, g⟩).view u)
    pure (Derived.fresh ⟨target, ((followed c u ⟨t, s, g⟩).get ⟨t, s, g⟩).shape, h.map f⟩)) = _
  rw [get_followed, convertPixels, view_self]
  rfl

theorem isScalar_of_ne (hcomplex : ∀ p, t ≠ .complex p) (hrgba : t ≠ .rgba) (hrgb : t ≠ .rgb)
    (hgray : t ≠ .grayAlpha) : t.isScalar = true := by
  cases t with
  | gray | real => rfl
  | complex p => exact absurd rfl (hcomplex p)
  | grayAlpha | rgb | rgba => contradiction

theorem scalarToScalar_eq (ht : t.isScalar = true) (htarget : target.isScalar = true)
    (hne : t ≠ target) :
    c.scalarToScalar ⟨t, s, g⟩ target = .ok (followed c target ⟨t, s, g⟩) := by
  rw [followed_of_ne hne]
  cases t with
  | gray d =>
    cases target with
    | gray | real => simp only [Conversion.scalarToScalar, view_self]; rfl
    | grayAlpha | rgb | rgba | complex => cases htarget
  | real p =>
    cases target with
    | gray | real => simp only [Conversion.scalarToScalar, view_self]; rfl
    | grayAlpha | rgb | rgba | complex => cases htarget
  | grayAlpha | rgb | rgba | complex => cases ht

/-- Every route leads to its end, and the pixels are converted on the way. -/
theorem route_eq (c : Conversion) (image : Image) (target : PixelType) :
    image.route c target = .ok (image.followed c target) := by
  fun_induction Image.route c image target
  case case1 image => simp [followed]
  case case2 image p q htype hne =>
    obtain ⟨t, s, g⟩ := image
    obtain rfl : t = _ := htype
    rw [view_self, followed_of_ne hne]
    rfl
  case case3 image p target htarget htype hne ih =>
    obtain ⟨t, s, g⟩ := image
    obtain rfl : t = _ := htype
    rw [view_self]
    exact route_from_hub hne (ih g) (c.pixel_complex htarget)
  case case4 image q htype hne ih =>
    obtain ⟨t, s, g⟩ := image
    exact route_to_hub hne ih (c.pixel_to_complex htype q)
  case case5 image htype hne | case6 image htype hne | case8 image htype hne |
      case10 image htype hne =>
    obtain ⟨t, s, g⟩ := image
    obtain rfl : t = _ := htype
    rw [view_self, followed_of_ne hne]
    rfl
  case case7 image target _ _ hgray htype hne ih =>
    obtain ⟨t, s, g⟩ := image
    obtain rfl : t = _ := htype
    rw [view_self]
    exact route_from_hub hne (ih g) (c.pixel_rgba (Ne.symm hne) hgray)
  case case9 image target _ hopacity htype hne ih =>
    obtain ⟨t, s, g⟩ := image
    obtain rfl : t = _ := htype
    rw [view_self]
    exact route_from_hub hne (ih g) (c.pixel_rgb (Ne.symm hne) hopacity)
  case case11 image htype hne =>
    obtain ⟨t, s, g⟩ := image
    obtain rfl : t = _ := htype
    rw [view_self, followed_of_ne hne]
    exact congrArg (fun h => Except.ok (Derived.fresh ⟨.rgb, s, h⟩)) (Grid.map_map _ _ g)
  case case12 image target _ hopacity _ htype hne ih =>
    obtain ⟨t, s, g⟩ := image
    obtain rfl : t = _ := htype
    rw [view_self]
    exact route_from_hub hne (ih g) (c.pixel_grayAlpha (Ne.symm hne) hopacity)
  case case13 image hcomplex hrgba hrgb hgray hne ih |
      case14 image hcomplex hrgba hrgb hgray hne ih |
      case15 image hcomplex hrgba hrgb hgray hne ih =>
    obtain ⟨t, s, g⟩ := image
    have hscalar := isScalar_of_ne hcomplex hrgba hrgb hgray
    exact route_to_hub hne ih (c.pixel_scalar hscalar (by simp))
  case case16 image target hne hcomplex hrgba hrgb hgray hcomplex' hgray' hrgb' hrgba'
      _ _ _ _ _ _ =>
    obtain ⟨t, s, g⟩ := image
    exact scalarToScalar_eq (isScalar_of_ne hcomplex hrgba hrgb hgray)
      (isScalar_of_ne hcomplex' hrgba' hrgb' hgray') hne

/-- Convert an image to a pixel type, along its route. -/
def convert (c : Conversion) (target : PixelType) (image : Image) : Derived :=
  match h : image.route c target with
  | .ok result => result
  | .error _ => absurd h (by simp [route_eq])

theorem convert_eq (c : Conversion) (target : PixelType) (image : Image) :
    image.convert c target = image.followed c target := by
  unfold convert
  split
  · rename_i result h
    exact Except.ok.inj (h.symm.trans (image.route_eq c target))
  · rename_i h
    exact absurd (h.symm.trans (image.route_eq c target)) nofun

end Image

end Raster
