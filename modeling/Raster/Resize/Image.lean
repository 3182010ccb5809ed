import Raster.Resize.AntiAlias
import Raster.Resize.Nearest
import Raster.Resize.Target
/-!
# Resizing images

An image is prepared for its new shape and then sampled onto it.  The result is a new image
also when nothing changes.
-/

namespace Raster

/-- Sample an image onto another shape. -/
def Image.nearest (target : Shape) (image : Image) : Except Fault Image := do
  let grid ← image.grid.nearest target
  return ⟨image.type, target, grid⟩

/-- Resize an image. -/
def Image.resize (transform : LineTransform) (way : AntiAliasing) (target : Shape)
    (image : Image) : Except Fault Image := do
  let prepared ← image.antiAlias transform way target
  (prepared.get image).nearest target

end Raster
