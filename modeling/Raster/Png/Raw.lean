import Raster.Png.Header
/-!
# Samples as they stand in a file

The samples of a row are packed into bytes, the first one into the most significant bits.  A
pixel of a picture is made of the samples in the file: levels of fewer than eight bits are
scaled to the whole range, numbers of colours are looked up in the palette, and transparency
becomes an opacity.
-/

namespace Raster.Png

/-- The samples of `depth` bits in a number of `count` times as many, the most significant
first. -/
def unpackNumber (depth n : Nat) : (count : Nat) → List Nat
  | 0 => []
  | count + 1 => n >>> (depth * count) % 1 <<< depth :: unpackNumber depth n count

/-- The samples in some bytes. -/
def unpack (depth : Nat) (bs : List Byte) : List Nat :=
  if depth = 16 then wideNumbers bs
  else bs.flatMap fun b => unpackNumber depth b.toNat (8 / depth)

/-- Cut a list into `count` pieces of `size` elements. -/
def pieces {α : Type} (size : Nat) : (count : Nat) → List α → List (List α)
  | 0, _ => []
  | count + 1, l => l.take size :: pieces size count (l.drop size)

namespace Preamble

/-- A level with the given number of bits, in the range of the picture. -/
def scaled (p : Preamble) (v : Nat) : Nat :=
  if p.header.depth < 8 then v * (255 / (1 <<< p.header.depth - 1)) else v

/-- The opacity of a pixel whose samples in the file are known. -/
def opacity (p : Preamble) (samples : List Nat) : Nat :=
  match p.transparency with
  | some (.colour s) => if samples = s then 0 else p.layout.top
  | _ => p.layout.top

/-- The number of entries in the palette. -/
def paletteSize (p : Preamble) : Nat := (p.palette.getD []).length / 3

/-- An entry of the palette; black if there is none. -/
def paletteColour (p : Preamble) (entry : Nat) : List Nat :=
  if entry < p.paletteSize then
    (((p.palette.getD []).drop (3 * entry)).take 3).map BitVec.toNat
  else [0, 0, 0]

/-- The opacity of an entry of the palette.  Opacities do not count if they are more than the
entries. -/
def paletteOpacity (p : Preamble) (entry : Nat) : Nat :=
  match p.transparency with
  | some (.entries os) => if os.length ≤ p.paletteSize then os.getD entry 255 else 255
  | _ => 255

/-- The samples of a pixel of the picture, given its samples in the file. -/
def pixelSamples (p : Preamble) (samples : List Nat) : List Nat :=
  match p.header.model with
  | .gray | .colour =>
    let levels := samples.map p.scaled
    if p.hasOpacity then levels ++ [p.opacity samples] else levels
  | .indexed =>
    let entry := samples.headD 0
    let colour := p.paletteColour entry
    if p.hasOpacity then colour ++ [p.paletteOpacity entry] else colour
  | .grayOpacity | .colourOpacity => samples

/-- A pixel of the picture, given its samples in the file. -/
def pixel (p : Preamble) (samples : List Nat) : Vector Nat p.layout.channels :=
  let levels := p.pixelSamples samples
  Vector.ofFn fun i => levels.getD i 0

/-- The pixels of a row. -/
def rowPixels (p : Preamble) (width : Nat) (row : List Byte) :
    List (Vector Nat p.layout.channels) :=
  (pieces p.header.model.channels width (unpack p.header.depth row)).map p.pixel

end Preamble

end Raster.Png
