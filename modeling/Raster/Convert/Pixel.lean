import Raster.Convert.Sample
/-!
# Converting pixels

Every pixel type converts to every other.  Types that are not next to each other meet in a
hub: colours and scalars in eight-bit gray, transparent colours in opaque colours, complex
numbers in the reals of their precision.  `Conversion.pixel` routes a pixel; a pixel that is
already of the wanted type stays as it is.
-/

namespace Raster.Conversion

variable (c : Conversion)

/-- An eight-bit gray level as a pixel of any type. -/
def ofByte : (t : PixelType) → Byte → t.Pixel
  | .gray d, v => c.level .eight d v
  | .grayAlpha, v => ⟨v, 255⟩
  | .real p, v => c.levelToReal .eight p v
  | .rgb, v => ⟨v, v, v⟩
  | .rgba, v => ⟨v, v, v, 255⟩
  | .complex p, v => ⟨c.levelToReal .eight p v, p.zero⟩

/-- A gray level as a pixel of any type; colours are made of the eight-bit level. -/
def ofLevel (d : Depth) : (t : PixelType) → d.Level → t.Pixel
  | .gray e, v => c.level d e v
  | .real p, v => c.levelToReal d p v
  | .complex p, v => ⟨c.levelToReal d p v, p.zero⟩
  | t, v => c.ofByte t (c.level d .eight v)

/-- A real as a pixel of any type; colours are made of the eight-bit level. -/
def ofReal (p : Precision) : (t : PixelType) → p.Real → t.Pixel
  | .gray d, v => c.realToLevel p d v
  | .real q, v => real p q v
  | .complex q, v => ⟨real p q v, q.zero⟩
  | t, v => c.ofByte t (c.realToLevel p .eight v)

/-- A complex number as a pixel of any type; all but complex numbers are made of the real
part. -/
def ofComplex (p : Precision) : (t : PixelType) → Complex p.Real → t.Pixel
  | .complex q, v => ⟨real p q v.re, real p q v.im⟩
  | t, v => c.ofReal p t v.re

/-- A gray level with an opacity as a pixel of any type. -/
def ofGrayAlpha : (t : PixelType) → GrayAlpha → t.Pixel
  | .grayAlpha, v => v
  | .rgba, v => ⟨v.gray, v.gray, v.gray, v.alpha⟩
  | t, v => c.ofByte t (c.flattenGray v)

/-- A colour as a pixel of any type. -/
def ofRgb : (t : PixelType) → Rgb → t.Pixel
  | .rgb, v => v
  | .rgba, v => ⟨v.red, v.green, v.blue, 255⟩
  | t, v => c.ofByte t (c.luminance v)

/-- A colour with an opacity as a pixel of any type. -/
def ofRgba : (t : PixelType) → Rgba → t.Pixel
  | .rgba, v => v
  | .grayAlpha, v => ⟨c.luminance ⟨v.red, v.green, v.blue⟩, v.alpha⟩
  | t, v => c.ofRgb t (c.flatten v)

/-- A pixel of type `s` as a pixel of type `t`. -/
def pixel : (s t : PixelType) → s.Pixel → t.Pixel
  | .gray d, t, v => c.ofLevel d t v
  | .grayAlpha, t, v => c.ofGrayAlpha t v
  | .real p, t, v => c.ofReal p t v
  | .rgb, t, v => c.ofRgb t v
  | .rgba, t, v => c.ofRgba t v
  | .complex p, t, v => c.ofComplex p t v

end Raster.Conversion
