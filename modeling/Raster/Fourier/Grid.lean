import Raster.Fourier.Line
import Raster.Grid.Rotate
/-!
# Fourier transforms of grids

The transform of a grid transforms its lines along every axis in turn.  `Grid.shift` moves
the first cell of every axis to the middle, where a spectrum is easier to look at, and
`Grid.unshift` moves it back.
-/

namespace Raster

namespace Grid

variable {s : Shape} {α : Type}

/-- Transform the lines along one axis. -/
def fourierAxis (transform : LineTransform) (direction : Direction) (g : Grid s Complex64)
    (axis : Fin s.length) : Grid s Complex64 :=
  g.mapLines axis (transform.run direction)

/-- Transform along every axis, the fastest first. -/
def fourier (transform : LineTransform) (direction : Direction) (g : Grid s Complex64) :
    Grid s Complex64 :=
  (List.finRange s.length).foldl (fourierAxis transform direction) g

/-- Move the first cell of every axis to the middle. -/
def shift (g : Grid s α) : Grid s α :=
  (List.finRange s.length).foldl
    (fun g axis => g.mapLines axis (rotateRight (s.get axis / 2))) g

/-- Move the middle cell of every axis to the front. -/
def unshift (g : Grid s α) : Grid s α :=
  (List.finRange s.length).foldl
    (fun g axis => g.mapLines axis (rotateLeft (s.get axis / 2))) g

end Grid

end Raster
