import Raster.Error
import Raster.Grid.Shape
import Raster.Number.Numeral
import Raster.Text.Blank
import Raster.Text.Split
/-!
# The extents that an image is resized to

They come from one factor for all axes, or from a text that lists the extent of each axis.  In
such a text a single non-zero entry fixes the scale, and the zeros follow it.
-/

namespace Raster

/-- Multiply every extent by a factor, round, and keep it at least one. -/
def scaleExtents (factor : Float) (extents : List Nat) : List Nat :=
  extents.map fun n =>
    max 1 (Rounding.nearest.clampedNat maxExtent (nearestDouble n * factor))

/-- Whether a factor can scale extents: a finite number above zero. -/
def isScaleFactor (factor : Float) : Bool :=
  factor.isFinite && 0.0 < factor

/-- One entry of a list of extents; blanks around it do not count. -/
def resolutionEntry (entry : List Char) : Except Refusal Nat :=
  match numeral? maxExtent (Text.trimChars entry) with
  | some n => .ok n
  | none => .error (.resolutionEntry (String.ofList entry))

/-- The extents that a list with zeros stands for: its only other entry fixes the scale. -/
def completeExtents (extents : List Nat) (text : String) (requested : List Nat) :
    Except Refusal (List Nat) :=
  match requested.zipIdx.filter fun (n, _) => n ≠ 0 with
  | [(n, axis)] =>
    let ratio := nearestDouble n / nearestDouble (extents.getD axis 0)
    .ok ((scaleExtents ratio extents).set axis n)
  | _ => .error (.resolutionZeros text)

/-- The extents that a text asks for. -/
def requestedExtents (extents : List Nat) (text : String) : Except Refusal (List Nat) := do
  let requested ← (Text.splitChars ',' text.toList).mapM resolutionEntry
  if requested.length ≠ extents.length then
    throw (.resolutionCount text requested.length extents.length)
  else if requested.all (· ≠ 0) then
    return requested
  else
    completeExtents extents text requested

/-- The extents of a resized image: from the factor if the text says `auto`, else from the
text. -/
def targetExtents (extents : List Nat) (factor : Float) (text : String) :
    Except Refusal (List Nat) :=
  if Text.trim text = "auto" then
    if isScaleFactor factor then .ok (scaleExtents factor extents)
    else .error (.scaleFactor factor)
  else requestedExtents extents text

end Raster
