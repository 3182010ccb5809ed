import Raster.Deflate.Inflate
import Raster.Png.Pass
/-!
# Reading files

A file is a signature and chunks.  Its properties stand in front of the data, which are one
compressed stream cut into consecutive chunks; the picture is complete when a chunk of another
kind has begun behind them.
-/

namespace Raster.Png

/-- The eight bytes that a file begins with. -/
def signature : List Byte := [0x89, 0x50, 0x4e, 0x47, 0x0d, 0x0a, 0x1a, 0x0a]

/-- Take the signature away.  Its halves are looked at one after the other. -/
def afterSignature (bs : List Byte) : Except Rejection (List Byte) :=
  if bs.length < 4 then .error .truncated
  else if bs.take 4 ≠ signature.take 4 then .error .foreign
  else if bs.length < 8 then .error .truncated
  else if bs.take 8 ≠ signature then .error .foreign
  else .ok (bs.drop 8)

/-- A file up to its data. -/
structure Opened where
  preamble : Preamble
  /-- The chunks from the first one with data on. -/
  chunks : List Chunk
  /-- What is left behind the last complete chunk. -/
  rest : List Byte

/-- Read a file up to its data. -/
def openFile (bs : List Byte) : Except Rejection Opened := do
  let bs ← afterSignature bs
  let (chunks, rest) := splitChunks bs
  let (preamble, chunks) ← Preamble.read chunks rest
  return ⟨preamble, chunks, rest⟩

/-- Where the data of a file end. -/
inductive DataEnd where
  /-- At the beginning of another chunk. -/
  | complete
  /-- At the end of the file. -/
  | cutOff
  /-- At a chunk with a wrong checksum. -/
  | damaged
deriving DecidableEq

/-- The data of consecutive chunks, and where they end. -/
def joinedData (rest : List Byte) : List Chunk → List Byte × DataEnd
  | c :: cs =>
    if c.kind = dataKind then
      if c.isSound then
        let (data, ending) := joinedData rest cs
        (c.data ++ data, ending)
      else ([], .damaged)
    else ([], .complete)
  | [] =>
    match announced? rest with
    | some (kind, data) => if kind = dataKind then (data, .cutOff) else ([], .complete)
    | none => ([], .cutOff)

/-- What it means that there are fewer data than the picture has pixels. -/
def shortage (ending : DataEnd) (inflated : Deflate.Inflated) : Rejection :=
  match ending, inflated.ending with
  | .cutOff, .ok _ | .cutOff, .error .starved => .truncated
  | _, _ => .foreign

/-- Whether all data are there. -/
def isComplete (ending : DataEnd) (inflated : Deflate.Inflated) : Bool :=
  match ending, inflated.ending with
  | .complete, .ok _ => true
  | _, _ => false

/-- Whether colours are numbers of entries in a palette that is missing. -/
def Preamble.lacksPalette (p : Preamble) : Bool :=
  p.header.model = .indexed && p.palette.isNone

/-- Read the picture of a file. -/
def decode (bs : List Byte) : Except Rejection Picture := do
  let file ← openFile bs
  let p := file.preamble
  if p.lacksPalette then throw .foreign
  let (data, ending) := joinedData file.rest file.chunks
  let inflated := Deflate.unwrap data
  let short := shortage ending inflated
  let passes ← readPasses p short p.header.passes inflated.output.toList
  if !isComplete ending inflated then throw short
  return ⟨p.layout, p.header.width, p.header.height,
    Grid.ofFn _ fun c => pixelAt p.layout passes (c.getD 0 0) (c.getD 1 0)⟩

end Raster.Png
