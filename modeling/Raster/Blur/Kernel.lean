import Raster.Error
/-!
# Blur kernels

A kernel is symmetric and is kept as its right half: the weight of the centre, then the
weight of the two samples at distance one, two, ….  The weights of the whole kernel add up
to one.
-/

namespace Raster

/-- The shape of a blur kernel. -/
inductive KernelShape where
  | box | gauss
deriving DecidableEq, Repr

/-- The right half of a symmetric kernel. -/
abbrev HalfKernel := List Float

namespace KernelShape

/-- The kernel shape of a given name. -/
def ofName (s : String) : Except Refusal KernelShape :=
  if s = "box" then .ok box
  else if s = "gauss" then .ok gauss
  else .error (.unknownChoice .blurFilter s)

end KernelShape

namespace HalfKernel

/-- The number of weights on the right half of a box.  The whole box is as wide as the whole part of
the intensity if that is odd, and wider by one if it is even: three samples for an intensity of
3.9, five for one of 4. -/
def boxLength (intensity : Float) : Nat :=
  (Rounding.down.clampedNat maxExtent intensity / 2 * 2 + 1) / 2 + 1

/-- All samples of a box weigh the same. -/
def box (intensity : Float) : HalfKernel :=
  let k := boxLength intensity
  List.replicate k (1.0 / nearestDouble (2 * k - 1))

/-- The number of weights on the right half of a bell curve: three standard deviations and the
centre. -/
def gaussianLength (sigma : Float) : Nat :=
  Rounding.up.clampedNat maxExtent (3.0 * sigma.abs) + 1

/-- The height of the bell curve at a distance from the centre. -/
def bell (sigma : Float) (i : Nat) : Float :=
  Float.exp (-(nearestDouble (i * i)) / (2.0 * sigma * sigma))

/-- The weights of a bell curve, scaled to add up to one.  A curve that is narrower than any
pixel is the centre alone. -/
def gaussian (sigma : Float) : HalfKernel :=
  if sigma.abs < 1e-9 then [1.0]
  else
    let heights := (List.range (gaussianLength sigma)).map (bell sigma)
    let total := heights.headD 0.0 + 2.0 * heights.tail.foldl (· + ·) 0.0
    heights.map (· / total)

end HalfKernel

namespace KernelShape

/-- The whole part of an intensity: the width of a box, the standard deviation of a bell
curve. -/
def wholeIntensity : KernelShape → Float → Nat
  | box, width => Rounding.down.clampedNat maxExtent width
  | gauss, sigma => Rounding.down.clampedNat maxExtent sigma.abs

/-- No intensity is as great as this: the weights would not fit into memory. -/
def intensityLimit : Nat := 1 <<< 48

/-- The half kernel of a shape and an intensity. -/
def halfKernel (shape : KernelShape) (intensity : Float) : Except Fault HalfKernel :=
  if shape.wholeIntensity intensity < intensityLimit then
    match shape with
    | box => .ok (HalfKernel.box intensity)
    | gauss => .ok (HalfKernel.gaussian intensity)
  else .error .outOfBounds

end KernelShape

end Raster
