import Raster.Convert.Sample
import Raster.Image
/-!
# Routes between pixel types

Only neighbouring types are converted into each other directly.  Everything else goes through a
hub: transparent colours through opaque ones, colours through eight-bit gray, complex numbers
through the reals of their precision.  `Image.route` looks at source and target, takes the first
way that fits them, and starts again from the hub; no hub is farther from the scalars than the
type that it stands for.
-/

namespace Raster

/-- The number of hubs between a type and the scalars. -/
def PixelType.hops : PixelType → Nat
  | .gray _ | .real _ => 0
  | .grayAlpha | .rgb | .complex _ => 1
  | .rgba => 2

namespace Conversion

/-- An image of eight-bit gray levels as one of colour bytes or of levels with an opacity. -/
def expandGray {s : Shape} (target : PixelType) (g : Grid s Byte) : Except Failure Derived :=
  match target with
  | .grayAlpha => .ok (.fresh ⟨.grayAlpha, s, g.map fun v => ⟨v, 255⟩⟩)
  | .rgb => .ok (.fresh ⟨.rgb, s, g.map fun v => ⟨v, v, v⟩⟩)
  | .rgba => .ok (.fresh ⟨.rgba, s, g.map fun v => ⟨v, v, v, 255⟩⟩)
  | _ => refuse (.noExpansion target)

/-- An image of gray levels or reals as another of these. -/
def scalarToScalar (c : Conversion) (image : Image) (target : PixelType) :
    Except Failure Derived :=
  match image.type, target with
  | .gray d, .gray e => do
    let g ← orFault (image.view (.gray d))
    return .fresh ⟨.gray e, image.shape, g.map (c.level d e)⟩
  | .gray d, .real p => do
    let g ← orFault (image.view (.gray d))
    return .fresh ⟨.real p, image.shape, g.map (c.levelToReal d p)⟩
  | .real p, .gray d => do
    let g ← orFault (image.view (.real p))
    return .fresh ⟨.gray d, image.shape, g.map (c.realToLevel p d)⟩
  | .real p, .real q => do
    let g ← orFault (image.view (.real p))
    return .fresh ⟨.real q, image.shape, g.map (real p q)⟩
  | source, target => refuse (.noConversion source target)

end Conversion

/-- Convert an image to a pixel type, on the way that source and target ask for. -/
def Image.route (c : Conversion) (image : Image) (target : PixelType) : Except Failure Derived :=
  if image.type = target then .ok .unchanged
  else
    match _ : image.type, target with
    | .complex p, .complex q => do
      let g ← orFault (image.view (.complex p))
      return .fresh ⟨.complex q, image.shape,
        g.map fun z => ⟨Conversion.real p q z.re, Conversion.real p q z.im⟩⟩
    | .complex p, target => do
      let g ← orFault (image.view (.complex p))
      let hub : Image := ⟨.real p, image.shape, g.map (·.re)⟩
      let result ← hub.route c target
      return .fresh (result.get hub)
    | _, .complex q => do
      let result ← image.route c (.real q)
      let hub := result.get image
      let g ← orFault (hub.view (.real q))
      return .fresh ⟨.complex q, hub.shape, g.map fun v => ⟨v, q.zero⟩⟩
    | .rgba, .rgb => do
      let g ← orFault (image.view .rgba)
      return .fresh ⟨.rgb, image.shape, g.map c.flatten⟩
    | .rgba, .grayAlpha => do
      let g ← orFault (image.view .rgba)
      return .fresh ⟨.grayAlpha, image.shape,
        g.map fun v => ⟨c.luminance ⟨v.red, v.green, v.blue⟩, v.alpha⟩⟩
    | .rgba, target => do
      let g ← orFault (image.view .rgba)
      let hub : Image := ⟨.rgb, image.shape, g.map c.flatten⟩
      let result ← hub.route c target
      return .fresh (result.get hub)
    | .rgb, .rgba => do
      let g ← orFault (image.view .rgb)
      return .fresh ⟨.rgba, image.shape, g.map fun v => ⟨v.red, v.green, v.blue, 255⟩⟩
    | .rgb, target => do
      let g ← orFault (image.view .rgb)
      let hub : Image := ⟨.gray .eight, image.shape, g.map c.luminance⟩
      let result ← hub.route c target
      return .fresh (result.get hub)
    | .grayAlpha, .rgba => do
      let g ← orFault (image.view .grayAlpha)
      return .fresh ⟨.rgba, image.shape, g.map fun v => ⟨v.gray, v.gray, v.gray, v.alpha⟩⟩
    | .grayAlpha, .rgb => do
      let g ← orFault (image.view .grayAlpha)
      Conversion.expandGray .rgb (g.map c.flattenGray)
    | .grayAlpha, target => do
      let g ← orFault (image.view .grayAlpha)
      let hub : Image := ⟨.gray .eight, image.shape, g.map c.flattenGray⟩
      let result ← hub.route c target
      return .fresh (result.get hub)
    | _, .grayAlpha | _, .rgb | _, .rgba => do
      let result ← image.route c (.gray .eight)
      let g ← orFault ((result.get image).view (.gray .eight))
      Conversion.expandGray target g
    | _, _ => c.scalarToScalar image target
termination_by image.type.hops + target.hops
decreasing_by all_goals simp [PixelType.hops, *]

end Raster
