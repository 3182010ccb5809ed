import Raster.Convert.Route
import Raster.Store.Work
/-!
# Conversion in memory

A conversion goes by way of hubs, each of which is an array of its own.  An array that has the
wanted type already is handed on, be it the source or a hub; every step to another type
allocates.
-/

namespace Raster

/-- The first or the last step of a conversion, and what is left to do. -/
inductive Way (source target : PixelType) where
  /-- There is only one step. -/
  | direct (f : source.Pixel → target.Pixel)
  /-- Step to a hub that is nearer to the scalars, and go on from there. -/
  | through (hub : PixelType) (f : source.Pixel → hub.Pixel) (nearer : hub.hops < source.hops)
  /-- Go to a hub first, and step to the target. -/
  | upTo (hub : PixelType) (f : hub.Pixel → target.Pixel) (nearer : hub.hops < target.hops)

namespace Conversion

/-- The way from one pixel type to another. -/
def way (c : Conversion) : (source target : PixelType) → Way source target
  | .complex p, .complex q => .direct fun z => ⟨real p q z.re, real p q z.im⟩
  | .complex p, _ => .through (.real p) (fun z => z.re) Nat.zero_lt_one
  | _, .complex q => .upTo (.real q) (fun v => ⟨v, q.zero⟩) Nat.zero_lt_one
  | .rgba, .rgb => .direct c.flatten
  | .rgba, .grayAlpha => .direct fun v => ⟨c.luminance ⟨v.red, v.green, v.blue⟩, v.alpha⟩
  | .rgba, _ => .through .rgb c.flatten (by decide)
  | .rgb, .rgba => .direct fun v => ⟨v.red, v.green, v.blue, 255⟩
  | .rgb, _ => .through (.gray .eight) c.luminance (by decide)
  | .grayAlpha, .rgba => .direct fun v => ⟨v.gray, v.gray, v.gray, v.alpha⟩
  | .grayAlpha, _ => .through (.gray .eight) c.flattenGray (by decide)
  | _, .grayAlpha => .upTo (.gray .eight) (fun v => ⟨v, 255⟩) (by decide)
  | _, .rgb => .upTo (.gray .eight) (fun v => ⟨v, v, v⟩) (by decide)
  | _, .rgba => .upTo (.gray .eight) (fun v => ⟨v, v, v, 255⟩) (by decide)
  | .gray d, .gray e => .direct (c.level d e)
  | .gray d, .real p => .direct (c.levelToReal d p)
  | .real p, .gray d => .direct (c.realToLevel p d)
  | .real p, .real q => .direct (real p q)

end Conversion

namespace Work

/-- Convert an array to a pixel type. -/
def convert (c : Conversion) {type : PixelType} {shape : Shape} (a : ArrayOf type shape)
    (target : PixelType) : Work (ArrayOf target shape) :=
  if type = target then return ⟨a.buffer⟩
  else
    match c.way type target with
    | .direct f => remake a fun g => g.map f
    | .through hub f _ => do
      let b : ArrayOf hub shape ← remake a fun g => g.map f
      convert c b target
    | .upTo hub f _ => do
      let b ← convert c a hub
      remake b fun g => g.map f
termination_by type.hops + target.hops
decreasing_by all_goals omega

end Work

end Raster
