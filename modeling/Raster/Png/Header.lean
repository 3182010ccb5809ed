import Raster.Format.Picture
import Raster.Png.Chunk
/-!
# Headers

The first chunk says how large the picture is and which samples stand for a pixel; chunks
between it and the data may add a palette and transparency.
-/

namespace Raster.Png

/-- What the samples of a pixel in a file mean. -/
inductive Model where
  | gray
  | colour
  /-- The number of an entry of the palette. -/
  | indexed
  | grayOpacity
  | colourOpacity
deriving DecidableEq, Repr

namespace Model

/-- The number that stands for a model in a file. -/
def code : Model → Nat
  | gray => 0
  | colour => 2
  | indexed => 3
  | grayOpacity => 4
  | colourOpacity => 6

/-- The model that a number stands for. -/
def ofCode? : Nat → Option Model
  | 0 => some gray
  | 2 => some colour
  | 3 => some indexed
  | 4 => some grayOpacity
  | 6 => some colourOpacity
  | _ => none

/-- The samples in a file that make a pixel. -/
def channels : Model → Nat
  | gray | indexed => 1
  | grayOpacity => 2
  | colour => 3
  | colourOpacity => 4

/-- How many bits a sample may have. -/
def depths : Model → List Nat
  | gray => [1, 2, 4, 8, 16]
  | indexed => [1, 2, 4, 8]
  | colour | grayOpacity | colourOpacity => [8, 16]

theorem ofCode?_code (m : Model) : ofCode? m.code = some m := by cases m <;> rfl

end Model

/-- What the first chunk says. -/
structure Header where
  width : Nat
  height : Nat
  /-- The number of bits of a sample. -/
  depth : Nat
  model : Model
  isInterlaced : Bool
deriving DecidableEq

namespace Header

/-- Read a header. -/
def ofBytes? (bs : List Byte) : Option Header := do
  let (width, bs) ← Bytes.cut? 4 bs
  let (height, bs) ← Bytes.cut? 4 bs
  match bs.map BitVec.toNat with
  | depth :: code :: compression :: filters :: interlacing :: _ =>
    let model ← Model.ofCode? code
    let header : Header :=
      ⟨Bytes.bigEndian width, Bytes.bigEndian height, depth, model, interlacing = 1⟩
    if 0 < header.width ∧ 0 < header.height ∧ depth ∈ model.depths ∧ compression = 0 ∧
        filters = 0 ∧ interlacing ≤ 1 then some header else none
  | _ => none

/-- Write a header. -/
def bytes (h : Header) : List Byte :=
  Bytes.ofBigEndian 4 h.width ++ (Bytes.ofBigEndian 4 h.height ++
    [BitVec.ofNat 8 h.depth, BitVec.ofNat 8 h.model.code, 0, 0, if h.isInterlaced then 1 else 0])

/-- The number of bits of a pixel. -/
def pixelBits (h : Header) : Nat := h.model.channels * h.depth

/-- The number of bytes of a row of some pixels. -/
def rowBytes (h : Header) (width : Nat) : Nat := (h.pixelBits * width + 7) / 8

/-- How far back the byte stands that a byte is compared with. -/
def stride (h : Header) : Nat := max 1 (h.pixelBits / 8)

end Header

/-- Which pixels are transparent. -/
inductive Transparency where
  /-- Those whose samples are these. -/
  | colour (samples : List Nat)
  /-- Opacities of the first entries of the palette. -/
  | entries (opacities : List Nat)
deriving DecidableEq

/-- Numbers of two bytes each; a byte that is left over does not count. -/
def wideNumbers : List Byte → List Nat
  | high :: low :: bs => (256 * high.toNat + low.toNat) :: wideNumbers bs
  | _ => []

/-- Read transparency. -/
def Transparency.ofBytes? (h : Header) (hasPalette : Bool) (bs : List Byte) :
    Option Transparency :=
  let samples := ((wideNumbers bs).take h.model.channels).map fun n =>
    if h.depth < 16 then n % 256 else n
  match h.model with
  | .gray | .colour =>
    if samples.length = h.model.channels then some (.colour samples) else none
  | .indexed => if hasPalette then some (.entries (bs.map BitVec.toNat)) else none
  | .grayOpacity | .colourOpacity => none

/-- What a file says before its data. -/
structure Preamble where
  header : Header
  /-- The samples of the palette, three for each entry. -/
  palette : Option (List Byte)
  transparency : Option Transparency

namespace Preamble

/-- Whether pixels get an opacity. -/
def hasOpacity (p : Preamble) : Bool :=
  match p.header.model with
  | .grayOpacity | .colourOpacity => true
  | _ => p.transparency.isSome

/-- The layout of the picture. -/
def layout (p : Preamble) : Layout where
  hasColour := match p.header.model with
    | .gray | .grayOpacity => false
    | _ => true
  hasOpacity := p.hasOpacity
  isWide := p.header.depth = 16

/-- Take account of a chunk that stands before the data. -/
def add (p : Preamble) (c : Chunk) : Except Rejection Preamble :=
  if !c.isSound then if isCritical c.kind then .error .foreign else .ok p
  else if c.kind = paletteKind then
    if p.palette.isSome then .error .foreign else .ok { p with palette := some c.data }
  else if c.kind = transparencyKind then
    if p.transparency.isSome then .error .foreign
    else match Transparency.ofBytes? p.header p.palette.isSome c.data with
      | some t => .ok { p with transparency := some t }
      | none => .error .foreign
  else if isCritical c.kind then .error .foreign
  else .ok p

/-- Read chunks up to the data.  What is left of the file behind its last complete chunk must
announce data if no complete chunk does. -/
def readFrom (rest : List Byte) : Preamble → List Chunk → Except Rejection (Preamble × List Chunk)
  | p, [] =>
    if (announced? rest).any fun (kind, _) => kind = dataKind then .ok (p, [])
    else .error .truncated
  | p, c :: cs =>
    if c.kind = dataKind then .ok (p, c :: cs) else (p.add c).bind (readFrom rest · cs)

/-- Read the first chunk, and others up to the data. -/
def read (cs : List Chunk) (rest : List Byte) : Except Rejection (Preamble × List Chunk) :=
  match cs with
  | [] =>
    if (announced? rest).any fun (kind, _) => kind ≠ headerKind then .error .foreign
    else .error .truncated
  | c :: cs =>
    if c.kind = headerKind ∧ c.isSound then
      match Header.ofBytes? c.data with
      | some h => readFrom rest ⟨h, none, none⟩ cs
      | none => .error .foreign
    else .error .foreign

end Preamble

end Raster.Png
