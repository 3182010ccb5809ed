import Raster.Bytes.Checksum
/-!
# Chunks

After its signature a file consists of chunks: the length of the data, a name of four letters,
the data, and a checksum over name and data.  `splitChunks` cuts a file into chunks, and
`cutChunk?_bytes` says that a chunk that was written is found again.
-/

namespace Raster.Png

/-- A part of a file. -/
structure Chunk where
  /-- The four letters that say what the data mean. -/
  kind : List Byte
  data : List Byte
  /-- The checksum as it stands in the file. -/
  checksum : List Byte
deriving DecidableEq

/-- The name of a chunk as bytes. -/
def kindOf (s : String) : List Byte := s.toList.map fun c => BitVec.ofNat 8 c.toNat

/-- Size, sample layout and arrangement of the picture. -/
def headerKind : List Byte := kindOf "IHDR"
/-- The colours of an indexed picture. -/
def paletteKind : List Byte := kindOf "PLTE"
/-- Which colours are transparent. -/
def transparencyKind : List Byte := kindOf "tRNS"
/-- The rows of the picture, compressed. -/
def dataKind : List Byte := kindOf "IDAT"
/-- The last chunk. -/
def endKind : List Byte := kindOf "IEND"

/-- Whether a reader must understand chunks of this name: the first letter is a capital. -/
def isCritical (kind : List Byte) : Bool := kind.head?.any fun b => !b.getLsbD 5

/-- The checksum over name and data. -/
def checksumOf (kind data : List Byte) : List Byte :=
  Bytes.ofBigEndian 4 (Bytes.crc32 (kind ++ data)).toNat

namespace Chunk

/-- A chunk with the right checksum. -/
def ofData (kind data : List Byte) : Chunk := ⟨kind, data, checksumOf kind data⟩

/-- Whether the checksum is right. -/
def isSound (c : Chunk) : Bool := c.checksum = checksumOf c.kind c.data

theorem isSound_ofData (kind data : List Byte) : (ofData kind data).isSound = true := by
  simp [isSound, ofData]

/-- The bytes of a chunk. -/
def bytes (c : Chunk) : List Byte :=
  Bytes.ofBigEndian 4 c.data.length ++ (c.kind ++ (c.data ++ c.checksum))

end Chunk

/-- The chunk at the front of some bytes. -/
def cutChunk? (bs : List Byte) : Option (Chunk × List Byte) := do
  let (length, bs) ← Bytes.cut? 4 bs
  let (kind, bs) ← Bytes.cut? 4 bs
  let (data, bs) ← Bytes.cut? (Bytes.bigEndian length) bs
  let (checksum, bs) ← Bytes.cut? 4 bs
  return (⟨kind, data, checksum⟩, bs)

/-- Cut off at most `count` chunks from the front of some bytes. -/
def cutChunks : (count : Nat) → List Byte → List Chunk × List Byte
  | 0, bs => ([], bs)
  | count + 1, bs =>
    match cutChunk? bs with
    | some (c, bs) =>
      let (cs, rest) := cutChunks count bs
      (c :: cs, rest)
    | none => ([], bs)

/-- The chunks of which some bytes consist, and what is left behind the last complete one; a
chunk has twelve bytes at least. -/
def splitChunks (bs : List Byte) : List Chunk × List Byte := cutChunks (bs.length / 12) bs

/-- The name and the data, as far as they go, of a chunk that is not complete. -/
def announced? (bs : List Byte) : Option (List Byte × List Byte) := do
  let (length, bs) ← Bytes.cut? 4 bs
  let (kind, bs) ← Bytes.cut? 4 bs
  return (kind, bs.take (Bytes.bigEndian length))

/-! ## Writing and reading -/

theorem cutChunk?_bytes (c : Chunk) (rest : List Byte) (hk : c.kind.length = 4)
    (hs : c.checksum.length = 4) (hd : c.data.length < UInt32.size) :
    cutChunk? (c.bytes ++ rest) = some (c, rest) := by
  have h1 : Bytes.cut? 4 (c.bytes ++ rest) =
      some (Bytes.ofBigEndian 4 c.data.length, c.kind ++ (c.data ++ (c.checksum ++ rest))) := by
    have := Bytes.cut?_append (Bytes.ofBigEndian 4 c.data.length)
      (c.kind ++ (c.data ++ (c.checksum ++ rest)))
    simpa [Chunk.bytes] using this
  have h2 := Bytes.cut?_append c.kind (c.data ++ (c.checksum ++ rest))
  have h3 := Bytes.cut?_append c.data (c.checksum ++ rest)
  have h4 := Bytes.cut?_append c.checksum rest
  rw [hk] at h2
  rw [hs] at h4
  have hlength := @Bytes.bigEndian_ofBigEndian 4 _ hd
  simp [cutChunk?, h1, h2, hlength, h3, h4]

end Raster.Png
