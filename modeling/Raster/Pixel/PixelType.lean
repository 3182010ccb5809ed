/-!
# Pixel types

The eleven kinds of pixel that an image may hold: integer gray levels of four depths, real
and complex numbers of two precisions, and three layouts of colour bytes.  Each has a name,
a size in bytes and a number of channels; `PixelType.ofName?` reads a name back, whatever
its letter case.
-/

namespace Raster

/-- The number of bits of an integer gray level. -/
inductive Depth where
  | eight | sixteen | thirtyTwo | sixtyFour
deriving DecidableEq, Repr

namespace Depth

/-- The number of bits. -/
def bits : Depth → Nat
  | eight => 8
  | sixteen => 16
  | thirtyTwo => 32
  | sixtyFour => 64

/-- The greatest level. -/
def top (d : Depth) : Nat := 1 <<< d.bits - 1

end Depth

/-- Single or double precision. -/
inductive Precision where
  | single | double
deriving DecidableEq, Repr

/-- What one pixel of an image is. -/
inductive PixelType where
  | gray (depth : Depth)
  | grayAlpha
  | real (precision : Precision)
  | rgb
  | rgba
  | complex (precision : Precision)
deriving DecidableEq, Repr

namespace PixelType

/-- Every pixel type, in the order in which types are listed. -/
def all : List PixelType :=
  [gray .eight, grayAlpha, gray .sixteen, gray .thirtyTwo, gray .sixtyFour,
    real .single, real .double, rgb, rgba, complex .single, complex .double]

/-- No type is missing from the list. -/
theorem mem_all (t : PixelType) : t ∈ all := by
  rcases t with d | _ | p | _ | _ | p
  · cases d <;> decide
  · decide
  · cases p <;> decide
  · decide
  · decide
  · cases p <;> decide

/-- The name that option values and messages use. -/
def name : PixelType → String
  | gray .eight => "GRAY8"
  | grayAlpha => "GRAYA8"
  | gray .sixteen => "GRAY16"
  | gray .thirtyTwo => "GRAY32"
  | gray .sixtyFour => "GRAY64"
  | real .single => "FLOAT"
  | real .double => "DOUBLE"
  | rgb => "RGB8"
  | rgba => "RGBA8"
  | complex .single => "COMPLEX_F"
  | complex .double => "COMPLEX_D"

/-- The name in the description of an array. -/
def shortName : PixelType → String
  | gray .eight => "Gray8"
  | grayAlpha => "GrayA8"
  | gray .sixteen => "Gray16"
  | gray .thirtyTwo => "Gray32"
  | gray .sixtyFour => "Gray64"
  | real .single => "Float"
  | real .double => "Double"
  | rgb => "Rgb8"
  | rgba => "Rgba8"
  | complex .single => "ComplexF"
  | complex .double => "ComplexD"

/-- The type of a given name; ASCII letters match in either case. -/
def ofName? (s : String) : Option PixelType :=
  all.find? fun t => t.name.toLower = s.toLower

/-- Different types have different names. -/
theorem name_injective {t u : PixelType} (h : t.name = u.name) : t = u := by
  have key : ∀ t ∈ all, ∀ u ∈ all, t.name = u.name → t = u := by decide
  exact key t (mem_all t) u (mem_all u) h

/-- The bytes that one pixel takes. -/
def byteSize : PixelType → Nat
  | gray d => d.bits / 8
  | grayAlpha => 2
  | real .single => 4
  | real .double => 8
  | rgb => 3
  | rgba => 4
  | complex .single => 8
  | complex .double => 16

/-- The number of samples that a pixel is made of. -/
def channels : PixelType → Nat
  | gray _ | real _ => 1
  | grayAlpha | complex _ => 2
  | rgb => 3
  | rgba => 4

/-- Every pixel has a first sample. -/
theorem channels_pos (t : PixelType) : 0 < t.channels := by
  cases t <;> simp [channels]

/-- Whether pixels are complex numbers. -/
def isComplex : PixelType → Bool
  | complex _ => true
  | _ => false

/-- Whether a pixel is one number: an integer gray level or a real. -/
def isScalar : PixelType → Bool
  | gray _ | real _ => true
  | _ => false

end PixelType

end Raster
