import Raster.Pixel.Pixel
/-!
# Converting single samples

How a gray level or a real number becomes a gray level of another depth or a real of another
precision, how opacity is blended away, and how a colour is reduced to gray.
-/

namespace Raster

/-- The settings of a lossy conversion. -/
structure Conversion where
  /-- Stretch the range of one depth over the range of the other, instead of keeping the
  number. -/
  rescale : Bool := true
  /-- What shows through a transparent gray pixel. -/
  grayBackground : Byte := 255
  /-- What shows through a transparent colour pixel. -/
  background : Rgb := ⟨255, 255, 255⟩
  /-- The share of each colour in the gray level. -/
  redWeight : Float := 0.299
  greenWeight : Float := 0.587
  blueWeight : Float := 0.114

namespace Conversion

variable (c : Conversion)

/-- A gray level at another depth: the leading bits, filled up with zeros, when ranges are
stretched, and the trailing bits when numbers are kept. -/
def level (d e : Depth) (v : d.Level) : e.Level :=
  if c.rescale then
    if e.bits < d.bits then BitVec.ofNat e.bits (v.toNat >>> (d.bits - e.bits))
    else BitVec.ofNat e.bits (v.toNat <<< (e.bits - d.bits))
  else BitVec.ofNat e.bits v.toNat

/-- A gray level as a real: its share of the greatest level, or its number. -/
def levelToReal (d : Depth) (p : Precision) (v : d.Level) : p.Real :=
  if c.rescale then p.narrow (levelDouble v / nearestDouble d.top)
  else p.narrow (levelDouble v)

/-- A real as a gray level: its share of the greatest level, rounded, or its number without
the places after the point. -/
def realToLevel (p : Precision) (d : Depth) (v : p.Real) : d.Level :=
  if c.rescale then d.quantize (p.widen v * nearestDouble d.top)
  else BitVec.ofNat d.bits (Rounding.down.clampedNat d.top (p.widen v))

/-- A real at another precision. -/
def real : (p q : Precision) → p.Real → q.Real
  | .single, .single, v => v
  | .single, .double, v => v.toFloat
  | .double, .single, v => v.toFloat32
  | .double, .double, v => v

/-- A byte seen through an opacity, over a background. -/
def blend (value alpha background : Byte) : Byte :=
  let share := levelDouble alpha / 255.0
  Byte.quantize (levelDouble value * share + levelDouble background * (1.0 - share))

/-- The gray level of a colour. -/
def luminance (v : Rgb) : Byte :=
  Byte.quantize
    (levelDouble v.red * c.redWeight + levelDouble v.green * c.greenWeight +
      levelDouble v.blue * c.blueWeight)

/-- The gray level of a transparent gray pixel over the background. -/
def flattenGray (v : GrayAlpha) : Byte := blend v.gray v.alpha c.grayBackground

/-- The colour of a transparent pixel over the background. -/
def flatten (v : Rgba) : Rgb :=
  ⟨blend v.red v.alpha c.background.red, blend v.green v.alpha c.background.green,
    blend v.blue v.alpha c.background.blue⟩

end Conversion

end Raster
