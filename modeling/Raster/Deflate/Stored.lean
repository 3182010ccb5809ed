import Raster.Bytes.Checksum
/-!
# Data that are wrapped and not compressed

Bytes in blocks that hold them as they are, in the wrapper that compressed data have.
-/

namespace Raster.Deflate

/-- The greatest number of bytes in a block. -/
def blockSize : Nat := 65535

/-- A block of bytes as they are. -/
def storedBlock (isLast : Bool) (data : List Byte) : List Byte :=
  (if isLast then 1 else 0) :: (Bytes.ofLittleEndian 2 data.length ++
    Bytes.ofLittleEndian 2 (65535 - data.length) ++ data)

/-- Some bytes as blocks; all but the last are full. -/
def storedBlocks (data : List Byte) : List Byte :=
  if data.length ≤ blockSize then storedBlock true data
  else storedBlock false (data.take blockSize) ++ storedBlocks (data.drop blockSize)
termination_by data.length
decreasing_by simp only [List.length_drop, blockSize] at *; omega

/-- Some bytes in their wrapper. -/
def wrap (data : List Byte) : List Byte :=
  [0x78, 0x01] ++ storedBlocks data ++ Bytes.ofBigEndian 4 (Bytes.adler32 data)

end Raster.Deflate
