import Raster.Deflate.Stored
import Raster.Png.Decode
/-!
# Writing files

A picture is written without prediction and without compression: a header, the rows in data
chunks of limited size, and the end.
-/

namespace Raster.Png

/-- The model of the samples of a picture. -/
def modelOf (l : Layout) : Model :=
  match l.hasColour, l.hasOpacity with
  | false, false => .gray
  | false, true => .grayOpacity
  | true, false => .colour
  | true, true => .colourOpacity

/-- The header of a picture. -/
def headerOf (p : Picture) : Header :=
  ⟨p.width, p.height, 8 * p.layout.sampleBytes, modelOf p.layout, false⟩

/-- The bytes of a pixel. -/
def pixelBytes (l : Layout) (v : Vector Nat l.channels) : List Byte :=
  v.toList.flatMap (Bytes.ofBigEndian l.sampleBytes)

/-- The rows of a picture, each with the byte for no prediction in front. -/
def rowsOf (p : Picture) : List Byte :=
  (pieces p.width p.height p.pixels.toList).flatMap fun row =>
    0 :: row.flatMap (pixelBytes p.layout)

/-- The greatest number of bytes in a data chunk. -/
def dataSize : Nat := 65536

/-- Some bytes in data chunks. -/
def dataChunks (bs : List Byte) : List Chunk :=
  (pieces dataSize (bs.length / dataSize + 1) bs).map (Chunk.ofData dataKind)

/-- Write a picture. -/
def encode (p : Picture) : List Byte :=
  signature ++ (Chunk.ofData headerKind (headerOf p).bytes ::
    (dataChunks (Deflate.wrap (rowsOf p)) ++ [Chunk.ofData endKind []])).flatMap Chunk.bytes

end Raster.Png
