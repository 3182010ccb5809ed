import Raster.Convert.Image
import Raster.Fourier.Grid
/-!
# Spectra of images

The Fourier transform of an image of real or complex numbers.  The result is real when no
imaginary part is larger than a rounding error, and complex otherwise; its precision is that
of the input.
-/

namespace Raster

/-- What a Fourier transform of an image does besides transforming. -/
structure SpectrumSettings where
  direction : Direction
  /-- Keep the zero frequency in the middle of the spectrum. -/
  centred : Bool
  /-- Divide by the square root of the number of cells, so that both directions are alike. -/
  normalized : Bool

namespace Grid

variable {s : Shape}

/-- Multiply every cell by a real number. -/
def scale (r : Float) (g : Grid s Complex64) : Grid s Complex64 := g.map fun z => z.scale r

/-- Transform a grid, with centring and scaling as asked for.  A centred spectrum is moved
back before it is transformed backward. -/
def spectrum (transform : LineTransform) (settings : SpectrumSettings) (g : Grid s Complex64) :
    Grid s Complex64 :=
  let g := if settings.centred ∧ settings.direction = .backward then g.unshift else g
  let g := g.fourier transform settings.direction
  let g := if settings.normalized then g.scale (1.0 / (nearestDouble s.size).sqrt) else g
  if settings.centred ∧ settings.direction = .forward then g.shift else g

/-- Whether every imaginary part is smaller than a rounding error. -/
def isEffectivelyReal (g : Grid s Complex64) : Bool :=
  g.cells.all fun z => z.im.abs < 1e-6

/-- A spectrum as an image of a given precision: of reals if they tell all. -/
def collapse (p : Precision) (g : Grid s Complex64) : Image :=
  let target : PixelType := if g.isEffectivelyReal then .real p else .complex p
  ⟨target, s, Grid.convert {} (.complex .double) target g⟩

end Grid

/-- The cells of an image of numbers as complex numbers, and their precision. -/
def Image.complexCells? (image : Image) : Option (Precision × Grid image.shape Complex64) :=
  match image with
  | ⟨.real p, _, g⟩ => some (p, g.map fun v => ⟨p.widen v, 0.0⟩)
  | ⟨.complex p, _, g⟩ => some (p, g.map fun z => ⟨p.widen z.re, p.widen z.im⟩)
  | _ => none

/-- The transform of an image of numbers. -/
def Image.spectrum? (transform : LineTransform) (settings : SpectrumSettings) (image : Image) :
    Option Image :=
  image.complexCells?.map fun (p, cells) => (cells.spectrum transform settings).collapse p

end Raster
