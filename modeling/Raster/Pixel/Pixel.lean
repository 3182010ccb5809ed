import Raster.Number.Binary64
import Raster.Pixel.PixelType
/-!
# Pixels and their samples

`PixelType.Pixel t` is the type of the pixels of an image of type `t`.  Numeric filters see a
pixel as a short vector of doubles, one for each channel: `PixelType.samples` takes it apart
and `PixelType.ofSamples` puts one together, rounding integer channels to the nearest level
and clamping them into their range.
-/

namespace Raster

/-- A colour or opacity byte. -/
abbrev Byte := BitVec 8

/-- A gray level of a given depth. -/
abbrev Depth.Level (d : Depth) : Type := BitVec d.bits

/-- A real number of a given precision. -/
abbrev Precision.Real : Precision → Type
  | .single => Float32
  | .double => Float

/-- A complex number in Cartesian form. -/
structure Complex (α : Type) where
  re : α
  im : α
deriving BEq, Repr

/-- A gray byte with an opacity. -/
structure GrayAlpha where
  gray : Byte
  alpha : Byte
deriving DecidableEq, Repr

/-- A colour of three bytes. -/
structure Rgb where
  red : Byte
  green : Byte
  blue : Byte
deriving DecidableEq, Repr

/-- A colour of three bytes with an opacity. -/
structure Rgba where
  red : Byte
  green : Byte
  blue : Byte
  alpha : Byte
deriving DecidableEq, Repr

/-- The pixels of an image of type `t`. -/
abbrev PixelType.Pixel : PixelType → Type
  | .gray d => d.Level
  | .grayAlpha => GrayAlpha
  | .real p => p.Real
  | .rgb => Rgb
  | .rgba => Rgba
  | .complex p => Complex p.Real

namespace Precision

/-- The double with the value of a real. -/
def widen : (p : Precision) → p.Real → Float
  | .single, v => v.toFloat
  | .double, v => v

/-- The real nearest to a double. -/
def narrow : (p : Precision) → Float → p.Real
  | .single, v => v.toFloat32
  | .double, v => v

/-- Zero. -/
def zero : (p : Precision) → p.Real
  | .single => 0
  | .double => 0

end Precision

/-- The level nearest to `x`, clamped into the range of the depth. -/
def Depth.quantize (d : Depth) (x : Float) : d.Level :=
  BitVec.ofNat d.bits (Rounding.nearest.clampedNat d.top x)

/-- The byte nearest to `x`. -/
def Byte.quantize (x : Float) : Byte := Depth.eight.quantize x

/-- The double with the value of a level; of two equally near ones the even one. -/
def levelDouble {n : Nat} (v : BitVec n) : Float := nearestDouble v.toNat

namespace PixelType

/-- The pixel all of whose bits are zero. -/
def zeroPixel : (t : PixelType) → t.Pixel
  | .gray d => BitVec.ofNat d.bits 0
  | .grayAlpha => ⟨0, 0⟩
  | .real p => p.zero
  | .rgb => ⟨0, 0, 0⟩
  | .rgba => ⟨0, 0, 0, 0⟩
  | .complex p => ⟨p.zero, p.zero⟩

instance (t : PixelType) : Inhabited t.Pixel := ⟨t.zeroPixel⟩

/-- The samples of a pixel. -/
def samples : (t : PixelType) → t.Pixel → Vector Float t.channels
  | .gray _, v => #v[levelDouble v]
  | .grayAlpha, v => #v[levelDouble v.gray, levelDouble v.alpha]
  | .real p, v => #v[p.widen v]
  | .rgb, v => #v[levelDouble v.red, levelDouble v.green, levelDouble v.blue]
  | .rgba, v => #v[levelDouble v.red, levelDouble v.green, levelDouble v.blue, levelDouble v.alpha]
  | .complex p, v => #v[p.widen v.re, p.widen v.im]

/-- The pixel with the given samples: levels are rounded and clamped, reals narrowed. -/
def ofSamples : (t : PixelType) → Vector Float t.channels → t.Pixel
  | .gray d, (s : Vector Float 1) => d.quantize s[0]
  | .grayAlpha, (s : Vector Float 2) => ⟨Byte.quantize s[0], Byte.quantize s[1]⟩
  | .real p, (s : Vector Float 1) => p.narrow s[0]
  | .rgb, (s : Vector Float 3) => ⟨Byte.quantize s[0], Byte.quantize s[1], Byte.quantize s[2]⟩
  | .rgba, (s : Vector Float 4) =>
    ⟨Byte.quantize s[0], Byte.quantize s[1], Byte.quantize s[2], Byte.quantize s[3]⟩
  | .complex p, (s : Vector Float 2) => ⟨p.narrow s[0], p.narrow s[1]⟩

/-- The samples that a list must hold before a pixel can be made of it: colour bytes that are
missing count as zero, numbers must be there. -/
def requiredSamples : PixelType → Nat
  | .grayAlpha | .rgb | .rgba => 0
  | .gray _ | .real _ => 1
  | .complex _ => 2

/-- The pixel with the samples that a list begins with. -/
def ofSampleList? (t : PixelType) (s : List Float) : Option t.Pixel :=
  if t.requiredSamples ≤ s.length then some (t.ofSamples (Vector.ofFn fun c => s.getD c 0))
  else none

end PixelType

end Raster
