import Raster.Image
/-!
# Remapping intensities

Pointwise functions on images of one number a pixel, and on complex images: stretching the
observed range over the whole range of the type, absolute values, and negatives.
-/

namespace Raster

/-- A function on the pixels of an image. -/
inductive Remapping where
  | identity | linearStretch | abs | negative
deriving DecidableEq, Repr

/-- The function of a given name. -/
def Remapping.ofName (s : String) : Except Refusal Remapping :=
  if s = "identity" then .ok identity
  else if s = "linear_stretch" then .ok linearStretch
  else if s = "abs" then .ok abs
  else if s = "negative" then .ok negative
  else .error (.unknownChoice .function s)

/-! ## Minimum and maximum -/

/-- The smaller of two doubles; NaN gives way, and of two equal ones the first stays. -/
def lesser (x y : Float) : Float := if x.isNaN then y else if y < x then y else x

/-- The greater of two doubles; NaN gives way, and of two equal ones the first stays. -/
def greater (x y : Float) : Float := if x.isNaN then y else if x < y then y else x

/-- The smallest and the greatest of some doubles; without any, the infinities in the wrong
order. -/
def observedRange (vs : List Float) : Float × Float :=
  vs.foldl (fun (lo, hi) v => (lesser lo v, greater hi v)) (1.0 / 0.0, -1.0 / 0.0)

/-! ## Types of one number -/

/-- A type whose pixels are one number. -/
inductive ScalarType where
  | gray (depth : Depth)
  | real (precision : Precision)

namespace ScalarType

/-- The type as a pixel type. -/
abbrev type : ScalarType → PixelType
  | gray d => .gray d
  | real p => .real p

/-- The number in a pixel. -/
def toDouble : (t : ScalarType) → t.type.Pixel → Float
  | gray _, v => levelDouble v
  | real p, v => p.widen v

/-- The pixel nearest to a number. -/
def ofDouble : (t : ScalarType) → Float → t.type.Pixel
  | gray d, x => d.quantize x
  | real p, x => p.narrow x

/-- The upper end of the range: the greatest level, or one. -/
def top : ScalarType → Float
  | gray d => nearestDouble d.top
  | real _ => 1.0

/-- The pixel as far below the upper end as this one is above zero. -/
def negate : (t : ScalarType) → t.type.Pixel → t.type.Pixel
  | gray d, v => BitVec.ofNat d.bits (d.top - v.toNat)
  | real .single, v => 1 - v
  | real .double, v => 1 - v

/-- The pixel without its sign. -/
def magnitude : (t : ScalarType) → t.type.Pixel → t.type.Pixel
  | gray _, v => v
  | real .single, v => v.abs
  | real .double, v => v.abs

end ScalarType

/-- Spread the observed range over the whole range of the type.  A constant image has no range
and is copied. -/
def Grid.stretch {s : Shape} (t : ScalarType) (g : Grid s t.type.Pixel) : Grid s t.type.Pixel :=
  let (lo, hi) := observedRange (g.toList.map t.toDouble)
  if lo < hi then
    let factor := t.top / (hi - lo)
    g.map fun v => t.ofDouble ((t.toDouble v - lo) * factor)
  else g

/-! ## Complex numbers -/

/-- The length of a vector, safe from overflow. -/
def hypotenuse (x y : Float) : Float :=
  if x.isInf || y.isInf then 1.0 / 0.0
  else
    let a := x.abs
    let b := y.abs
    let long := if a < b then b else a
    let short := if a < b then a else b
    if short == 0.0 then long
    else
      let ratio := short / long
      long * (1.0 + ratio * ratio).sqrt

/-- The absolute value of a complex number. -/
def Complex.norm : (p : Precision) → Complex p.Real → p.Real
  | .single, z =>
    let re := z.re.toFloat
    let im := z.im.toFloat
    if re.isInf || im.isInf then 1.0 / 0.0 else (re * re + im * im).sqrt.toFloat32
  | .double, z => hypotenuse z.re z.im

/-! ## Images -/

/-- Remap an image of numbers of one type.  What leaves every pixel as it is hands the image
on. -/
def remapScalar (f : Remapping) (t : ScalarType) (shape : Shape) (g : Grid shape t.type.Pixel) :
    Derived :=
  match f, t with
  | .identity, _ => .unchanged
  | .linearStretch, t => .fresh ⟨t.type, shape, g.stretch t⟩
  | .abs, .gray _ => .unchanged
  | .abs, .real p => .fresh ⟨.real p, shape, g.map (ScalarType.real p).magnitude⟩
  | .negative, t => .fresh ⟨t.type, shape, g.map t.negate⟩

/-- Remap a complex image.  Only the absolute value changes it. -/
def remapComplex (f : Remapping) (p : Precision) (shape : Shape)
    (g : Grid shape (Complex p.Real)) : Derived :=
  match f with
  | .abs => .fresh ⟨.real p, shape, g.map (Complex.norm p)⟩
  | _ => .unchanged

/-- Remap an image, if its pixels are numbers. -/
def Image.remap? (f : Remapping) (image : Image) : Option Derived :=
  match image with
  | ⟨.gray d, shape, g⟩ => some (remapScalar f (.gray d) shape g)
  | ⟨.real p, shape, g⟩ => some (remapScalar f (.real p) shape g)
  | ⟨.complex p, shape, g⟩ => some (remapComplex f p shape g)
  | _ => none

end Raster
