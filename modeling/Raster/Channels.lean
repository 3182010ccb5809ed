import Raster.Image
/-!
# Splitting channels

An image whose pixels have several components becomes one image for each of them, under the
component's name.
-/

namespace Raster

/-- The component images of an image, each with its name, if its pixels have components. -/
def Image.components? (image : Image) : Option (List (String × Image)) :=
  match image with
  | ⟨.grayAlpha, s, g⟩ =>
    some [("gray", ⟨.gray .eight, s, g.map (·.gray)⟩),
      ("alpha", ⟨.gray .eight, s, g.map (·.alpha)⟩)]
  | ⟨.rgb, s, g⟩ =>
    some [("red", ⟨.gray .eight, s, g.map (·.red)⟩), ("green", ⟨.gray .eight, s, g.map (·.green)⟩),
      ("blue", ⟨.gray .eight, s, g.map (·.blue)⟩)]
  | ⟨.rgba, s, g⟩ =>
    some [("red", ⟨.gray .eight, s, g.map (·.red)⟩), ("green", ⟨.gray .eight, s, g.map (·.green)⟩),
      ("blue", ⟨.gray .eight, s, g.map (·.blue)⟩), ("alpha", ⟨.gray .eight, s, g.map (·.alpha)⟩)]
  | ⟨.complex p, s, g⟩ =>
    some [("real", ⟨.real p, s, g.map (·.re)⟩), ("imaginary", ⟨.real p, s, g.map (·.im)⟩)]
  | _ => none

end Raster
