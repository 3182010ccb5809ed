import Raster.Channels
import Raster.Proofs.Grid.Place
/-!
# Components of pixels

A component is a part of a pixel that is a pixel itself: a colour byte, an opacity, the real or
the imaginary part of a complex number.  It shares its sample with one channel of the pixel, and
a pixel that is put together from samples has the component that this one sample makes.
Splitting an image yields one image for each component (`Image.components?_eq_some`).
-/

namespace Raster

/-- A part of the pixels of a type that is a pixel itself, and the channel that it is on. -/
structure Component (t : PixelType) where
  name : String
  type : PixelType
  channel : Fin t.channels
  part : t.Pixel → type.Pixel
  get_samples_part : ∀ p c, (type.samples (part p)).get c = (t.samples p).get channel
  part_ofSamples : ∀ (x : Vector Float t.channels) (y : Vector Float type.channels),
    (∀ c, y.get c = x.get channel) → part (t.ofSamples x) = type.ofSamples y

namespace Component

variable {t : PixelType} {s : Shape}

/-- A component that is a byte. -/
def byte (name : String) (channel : Fin t.channels) (part : t.Pixel → Byte)
    (hsamples : ∀ p, levelDouble (part p) = (t.samples p).get channel)
    (hpart : ∀ x, part (t.ofSamples x) = Byte.quantize (x.get channel)) : Component t where
  name := name
  type := .gray .eight
  channel := channel
  part := part
  get_samples_part p c := by
    obtain rfl : c = (0 : Fin 1) := Fin.fin_one_eq_zero c
    exact hsamples p
  part_ofSamples x y hy := (hpart x).trans (congrArg Byte.quantize (hy (0 : Fin 1)).symm)

/-- A component that is a real number. -/
def number (name : String) (p : Precision) (channel : Fin t.channels) (part : t.Pixel → p.Real)
    (hsamples : ∀ z, p.widen (part z) = (t.samples z).get channel)
    (hpart : ∀ x, part (t.ofSamples x) = p.narrow (x.get channel)) : Component t where
  name := name
  type := .real p
  channel := channel
  part := part
  get_samples_part z c := by
    obtain rfl : c = (0 : Fin 1) := Fin.fin_one_eq_zero c
    exact hsamples z
  part_ofSamples x y hy := (hpart x).trans (congrArg p.narrow (hy (0 : Fin 1)).symm)

/-- The image of one component of the pixels of a grid. -/
def image (k : Component t) (g : Grid s t.Pixel) : Image := ⟨k.type, s, g.map k.part⟩

end Component

/-- The components of the pixels of a type, in the order of their channels. -/
def PixelType.components : (t : PixelType) → List (Component t)
  | .grayAlpha =>
    [.byte "gray" (0 : Fin 2) (·.gray) (fun _ => rfl) (fun _ => rfl),
      .byte "alpha" (1 : Fin 2) (·.alpha) (fun _ => rfl) (fun _ => rfl)]
  | .rgb =>
    [.byte "red" (0 : Fin 3) (·.red) (fun _ => rfl) (fun _ => rfl),
      .byte "green" (1 : Fin 3) (·.green) (fun _ => rfl) (fun _ => rfl),
      .byte "blue" (2 : Fin 3) (·.blue) (fun _ => rfl) (fun _ => rfl)]
  | .rgba =>
    [.byte "red" (0 : Fin 4) (·.red) (fun _ => rfl) (fun _ => rfl),
      .byte "green" (1 : Fin 4) (·.green) (fun _ => rfl) (fun _ => rfl),
      .byte "blue" (2 : Fin 4) (·.blue) (fun _ => rfl) (fun _ => rfl),
      .byte "alpha" (3 : Fin 4) (·.alpha) (fun _ => rfl) (fun _ => rfl)]
  | .complex p =>
    [.number "real" p (0 : Fin 2) (·.re) (fun _ => rfl) (fun _ => rfl),
      .number "imaginary" p (1 : Fin 2) (·.im) (fun _ => rfl) (fun _ => rfl)]
  | .gray _ | .real _ => []

/-- The images of the components of an image, each with its name. -/
def Image.components (image : Image) : List (String × Image) :=
  image.type.components.map fun k => (k.name, k.image image.grid)

lemma Image.components?_eq_some (image : Image) (h : image.type.components ≠ []) :
    image.components? = some image.components := by
  obtain ⟨type, s, g⟩ := image
  cases type with
  | gray | real => exact absurd rfl h
  | grayAlpha | rgb | rgba | complex => rfl

end Raster
