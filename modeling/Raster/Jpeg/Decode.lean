import Raster.Jpeg.Colour
import Raster.Jpeg.Frame
/-!
# Reading files

The blocks stand unit by unit, each unit with all blocks of every component that cover the same
part of the picture.  A component with fewer samples than others is stretched over the picture.
-/

namespace Raster.Jpeg

/-- Cut coded bytes where prediction starts anew, and take away the zero that follows a byte of
ones; another marker ends them.  `part` is what has been read since the last cut, in
reverse. -/
def codedParts : (part : List Byte) → List Byte → List (List Byte)
  | part, b :: c :: bs =>
    if b ≠ 0xff then codedParts (b :: part) (c :: bs)
    else if c = 0 then codedParts (b :: part) bs
    else if 0xd0 ≤ c.toNat ∧ c.toNat ≤ 0xd7 then part.reverse :: codedParts [] bs
    else [part.reverse]
  | part, [b] => [(b :: part).reverse]
  | part, [] => [part.reverse]

/-- A component that is being read. -/
structure Lane where
  component : Component
  steps : List Nat
  code : BlockCode
  /-- The first coefficient of the last block. -/
  predicted : Int
  /-- The blocks that have been read. -/
  blocks : Array Block

/-- The lane of a component. -/
def Lane.ofComponent? (p : Preamble) (c : Component) : Option Lane := do
  let steps ← p.steps.lookup c.steps
  let codes ← p.scan.lookup c.name
  let first ← p.codes.lookup (codes / 16)
  let rest ← p.codes.lookup (16 + codes % 16)
  return ⟨c, steps, ⟨first, rest⟩, 0, #[]⟩

/-- Take some blocks of a component. -/
def takeBlocks : (count : Nat) → Lane → List Bool → Except Unit (Lane × List Bool)
  | 0, lane, bits => .ok (lane, bits)
  | count + 1, lane, bits => do
    let (ns, bits) ← takeBlock lane.code lane.predicted bits
    let blocks := lane.blocks.push (levelsOf lane.steps ns)
    takeBlocks count { lane with predicted := ns.headD 0, blocks := blocks } bits

/-- Take a unit. -/
def takeUnit : List Lane → List Bool → Except Unit (List Lane × List Bool)
  | [], bits => .ok ([], bits)
  | lane :: lanes, bits => do
    let (lane, bits) ← takeBlocks (lane.component.across * lane.component.down) lane bits
    let (lanes, bits) ← takeUnit lanes bits
    return (lane :: lanes, bits)

/-- Take some units. -/
def takeUnits : (count : Nat) → List Lane → List Bool → Except Unit (List Lane)
  | 0, lanes, _ => .ok lanes
  | count + 1, lanes, bits => do
    let (lanes, bits) ← takeUnit lanes bits
    takeUnits count lanes bits

/-- Take units from several parts; each but the last holds `restart` units. -/
def takeParts (restart : Nat) :
    (count : Nat) → List Lane → List (List Byte) → Except Unit (List Lane)
  | count, lanes, [] => if count = 0 then .ok lanes else .error ()
  | count, lanes, part :: parts => do
    let now := if restart = 0 then count else min restart count
    let lanes ← takeUnits now lanes (bitsOfBytes part)
    takeParts restart (count - now) (lanes.map fun lane => { lane with predicted := 0 }) parts

/-- The number of blocks across a unit. -/
def unitAcross (cs : List Component) : Nat := cs.foldl (fun n c => max n c.across) 1

/-- The number of blocks down a unit. -/
def unitDown (cs : List Component) : Nat := cs.foldl (fun n c => max n c.down) 1

namespace Frame

/-- The number of units in a row. -/
def unitsInRow (f : Frame) : Nat :=
  (f.width + 8 * unitAcross f.components - 1) / (8 * unitAcross f.components)

/-- The number of rows of units. -/
def unitRows (f : Frame) : Nat :=
  (f.height + 8 * unitDown f.components - 1) / (8 * unitDown f.components)

end Frame

/-- The sample of a component at a place of the picture. -/
def Lane.sampleAt (f : Frame) (lane : Lane) (x y : Nat) : Int :=
  let c := lane.component
  let x := x * c.across / unitAcross f.components
  let y := y * c.down / unitDown f.components
  let column := x / 8
  let row := y / 8
  let unit := row / c.down * f.unitsInRow + column / c.across
  let place := unit * (c.across * c.down) + row % c.down * c.across + column % c.across
  match lane.blocks[place]? with
  | some b => 128 + b.entry (y % 8) (x % 8)
  | none => 0

/-- The pixel at a place of the picture. -/
def pixelAt (f : Frame) (lanes : List Lane) (x y : Nat) : Vector Nat f.layout.channels :=
  let samples := match lanes.map fun lane => lane.sampleAt f x y with
    | [y, cb, cr] => toColour (clampByte y) (clampByte cb) (clampByte cr)
    | samples => samples.map clampByte
  Vector.ofFn fun i => samples.getD i 0

/-- Read the picture of a file. -/
def decode (bs : List Byte) : Option Picture := do
  let file ← openFile bs
  let f := file.frame
  let lanes ← f.components.mapM (Lane.ofComponent? file.preamble)
  match takeParts file.preamble.restart (f.unitsInRow * f.unitRows) lanes
      (codedParts [] file.blocks) with
  | .ok lanes =>
    return ⟨f.layout, f.width, f.height,
      Grid.ofFn _ fun c => pixelAt f lanes (c.getD 0 0) (c.getD 1 0)⟩
  | .error _ => none

end Raster.Jpeg
