import Raster.Blur.Line
import Raster.Grid.Sweep
/-!
# Blurring tap by tap

A kernel is laid over each sample of a line and gone through from its left end to its right.  A tap
is a distance from the centre: it looks up the weight at that distance and the sample at the
position that it reaches, and adds their products to one sum for each channel.

Weights and samples are looked up by numbers, and a look-up outside the kernel or the line is a
fault.  `Grid.sweepTaps` blurs the lines of a grid one after the other in this way, and
`Grid.sweepAxes` goes through some axes by their numbers.
-/

namespace Raster

/-- The element at a position of a line, which has to be there. -/
def lineElement {n : Nat} {α : Type} (line : Vector α n) (position : Int) : Except Fault α :=
  match Boundary.place? n position with
  | some p => .ok (line.get p)
  | none => .error (.lineIndex position.toNat n)

/-- The position that lies as far inside the end of a line of `n` elements as a position lies
beyond it. -/
def Boundary.reflected (n : Nat) (position : Int) : Int :=
  if position < 0 then -position - 1 else 2 * n - position - 1

/-- The element that a tap meets at a position, if any, when its kernel is centred on an element
`centre`. -/
def Boundary.meet (b : Boundary) {n : Nat} {α : Type} (line : Vector α n) (centre : α)
    (position : Int) : Except Fault (Option α) :=
  if 0 ≤ position ∧ position < n then (lineElement line position).map some
  else
    match b with
    | zero => .ok none
    | nearest => (lineElement line (max 0 (min position (n - 1)))).map some
    | mirror =>
      let inside := reflected n position
      if 0 ≤ inside ∧ inside < n then (lineElement line inside).map some
      else .ok (some centre)

namespace HalfKernel

/-- The distances of the taps from the centre, from the left end of the kernel to its right. -/
def distances (right : HalfKernel) : List Int :=
  (List.range (2 * right.length - 1)).map fun (j : Nat) => 1 - (right.length : Int) + j

/-- The weight at a distance from the centre, which has to be there. -/
def weightAt (right : HalfKernel) (distance : Int) : Except Fault Float :=
  match right[distance.natAbs]? with
  | some weight => .ok weight
  | none => .error .outOfBounds

variable (t : PixelType) (right : HalfKernel) (b : Boundary) {n : Nat}

/-- Add what a tap contributes to the sums of the channels. -/
def addTap (line : Vector t.Pixel n) (i : Nat) (centre : t.Pixel)
    (sums : Vector Float t.channels) (distance : Int) : Except Fault (Vector Float t.channels) := do
  let weight ← right.weightAt distance
  match ← b.meet line centre (i + distance) with
  | some p => return Vector.ofFn fun c => sums.get c + weight * (t.samples p).get c
  | none => return sums

/-- The blurred sample at a place of a line. -/
def tapSample (line : Vector t.Pixel n) (i : Nat) : Except Fault t.Pixel := do
  let centre ← lineElement line i
  let sums ← right.distances.foldlM (right.addTap t b line i centre)
    (Vector.replicate t.channels 0.0)
  return t.ofSamples sums

/-- A line, blurred from its first sample to its last. -/
def tapLine (line : Vector t.Pixel n) : Except Fault (Vector t.Pixel n) :=
  (Vector.range n).mapM (right.tapSample t b line)

end HalfKernel

namespace Grid

variable {s : Shape} {t : PixelType}

/-- Blur the lines along an axis one after the other, writing to a grid of zeros. -/
def sweepTaps (right : HalfKernel) (b : Boundary) (g : Grid s t.Pixel) (axis : Fin s.length) :
    Except Fault (Grid s t.Pixel) :=
  (s.linesAlong axis).foldlM (fun out places => do
    let line ← g.readLine places
    let blurred ← right.tapLine t b line
    writeLine setFlat places blurred out) (fill s t.zeroPixel)

/-- Blur along the axes with some numbers, one after the other. -/
def sweepAxes (right : HalfKernel) (b : Boundary) (axes : List Nat) (g : Grid s t.Pixel) :
    Except Fault (Grid s t.Pixel) :=
  axes.foldlM (fun g axis => do g.sweepTaps right b (← s.axis? axis)) g

end Grid

end Raster
