import Raster.Blur.Boundary
import Raster.Blur.Kernel
import Raster.Image
/-!
# Blurring along an axis

Each sample becomes the weighted sum of its neighbours on the line.  Channels are blurred one
by one in doubles, and the pixel is put together again from the sums.
-/

namespace Raster

/-- The distances of the taps of a half kernel from the centre, each with its weight, from the
left end to the right. -/
def HalfKernel.taps (right : HalfKernel) : List (Int × Float) :=
  let k := right.length
  (List.range (2 * k - 1)).map fun (j : Nat) =>
    let offset : Int := (j : Int) - ((k - 1 : Nat) : Int)
    (offset, right.getD offset.natAbs 0.0)

/-- The weighted sum around sample `i` of a line of doubles. -/
def convolveAt {n : Nat} (taps : List (Int × Float)) (b : Boundary) (line : Vector Float n)
    (i : Fin n) : Float :=
  taps.foldl
    (fun sum (offset, weight) =>
      match b.resolve i offset with
      | some j => sum + weight * line.get j
      | none => sum)
    0.0

/-- The samples of one channel along a line of pixels. -/
def channelLine {n : Nat} (t : PixelType) (line : Vector t.Pixel n) (c : Fin t.channels) :
    Vector Float n :=
  line.map fun p => (t.samples p).get c

/-- A blurred line. -/
def convolveLine {n : Nat} (t : PixelType) (right : HalfKernel) (b : Boundary)
    (line : Vector t.Pixel n) : Vector t.Pixel n :=
  let taps := right.taps
  let channels := Vector.ofFn (channelLine t line)
  Vector.ofFn fun i => t.ofSamples (channels.map fun channel => convolveAt taps b channel i)

namespace Grid

variable {s : Shape} {t : PixelType}

/-- Blur along one axis. -/
def blurAxis (right : HalfKernel) (b : Boundary) (g : Grid s t.Pixel) (axis : Fin s.length) :
    Grid s t.Pixel :=
  g.mapLines axis (convolveLine t right b)

/-- Blur along some axes, one after the other. -/
def blurAxes (right : HalfKernel) (b : Boundary) (axes : List (Fin s.length))
    (g : Grid s t.Pixel) : Grid s t.Pixel :=
  axes.foldl (blurAxis right b) g

end Grid

end Raster
