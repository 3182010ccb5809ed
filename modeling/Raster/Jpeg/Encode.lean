import Raster.Jpeg.Colour
import Raster.Jpeg.Frame
/-!
# Writing files

A gray picture has one component, a coloured one three with as many samples each.  Where the
last blocks of a row or of a column stick out, the last pixel is repeated.
-/

namespace Raster.Jpeg

/-- A component that is to be written. -/
structure Plane where
  /-- The steps of the coefficients, in the order in which these are written. -/
  steps : List Nat
  code : BlockCode
  /-- The sample at a place of the picture. -/
  sample : (x y : Nat) → Int

/-- Steps at some quality, in the order in which coefficients are written. -/
def stepsAt (quality : Nat) (steps : List Nat) : List Nat :=
  zigzag.map fun place => stepAt quality (steps.getD place 1)

/-- The block of a plane with the given number, around zero. -/
def Plane.block (p : Plane) (width height column row : Nat) : Block :=
  Block.ofFn fun y x =>
    p.sample (min (8 * column + x) (width - 1)) (min (8 * row + y) (height - 1)) - 128

/-- The coefficients of each plane in each unit, one block of each plane to a unit. -/
def unitsOf (planes : List Plane) (width height : Nat) : List (List (List Int)) :=
  let columns := (width + 7) / 8
  (List.range ((height + 7) / 8 * columns)).map fun i =>
    planes.map fun p => coefficientsOf p.steps (p.block width height (i % columns) (i / columns))

/-- The bits of some units; every block is predicted from the one of its plane before. -/
def unitBits (codes : List BlockCode) :
    (predicted : List Int) → List (List (List Int)) → List Bool
  | _, [] => []
  | predicted, unit :: units =>
    ((codes.zip (predicted.zip unit)).flatMap fun (code, p, ns) => blockBits code p ns) ++
      unitBits codes (unit.map fun ns => ns.headD 0) units

/-- Put a zero behind every byte of ones. -/
def stuff (bs : List Byte) : List Byte := bs.flatMap fun b => if b = 0xff then [b, 0] else [b]

/-- The pixel of a picture at a place. -/
def pixelOf (p : Picture) (x y : Nat) : List Int :=
  (p.pixels.cells.toArray.getD (y * p.width + x) (Vector.replicate _ 0)).toList.map Int.ofNat

/-- The planes of a picture. -/
def planesOf (quality : Nat) (p : Picture) : List Plane :=
  let part (i : Nat) (x y : Nat) : Int :=
    match pixelOf p x y with
    | [r, g, b] => (ofColour r g b).getD i 0
    | samples => samples.getD i 0
  let colour (i : Nat) : Plane :=
    ⟨stepsAt quality colourSteps, ⟨colourFirst, colourRest⟩, part i⟩
  ⟨stepsAt quality brightnessSteps, ⟨brightnessFirst, brightnessRest⟩, part 0⟩ ::
    if p.layout.hasColour then [colour 1, colour 2] else []

/-- The segment with a code. -/
def codeSegment (number : Nat) (code : CanonicalCode) : Segment :=
  ⟨codeMarker, (number :: (code.counts ++ code.symbols.toList)).map (BitVec.ofNat 8)⟩

/-- The segments in front of the blocks.  The first plane has the tables with the number zero,
the others share those with the number one. -/
def segmentsOf (width height : Nat) (planes : List Plane) : List Segment :=
  let tables := (planes.take 2).zipIdx
  let numbered := planes.zipIdx
  let byte (n : Nat) : Byte := BitVec.ofNat 8 n
  tables.map (fun (p, i) => ⟨stepMarker, (i :: p.steps).map byte⟩) ++
  [⟨frameMarker, 8 :: (Bytes.ofBigEndian 2 height ++ Bytes.ofBigEndian 2 width) ++
    byte planes.length :: numbered.flatMap fun (_, i) => [byte (i + 1), 0x11, byte (min i 1)]⟩] ++
  tables.flatMap (fun (p, i) => [codeSegment i p.code.first, codeSegment (16 + i) p.code.rest]) ++
  [⟨scanMarker, byte planes.length ::
    (numbered.flatMap fun (_, i) => [byte (i + 1), byte (17 * min i 1)]) ++ [0, 63, 0]⟩]

/-- Write a picture with samples of one byte and without opacity. -/
def encode (quality : Nat) (p : Picture) : List Byte :=
  let planes := planesOf quality p
  let bits := unitBits (planes.map Plane.code) (planes.map fun _ => 0)
    (unitsOf planes p.width p.height)
  startBytes ++ (segmentsOf p.width p.height planes).flatMap Segment.bytes ++
    stuff (bytesOfBits bits) ++ endBytes

end Raster.Jpeg
