import Raster.Bytes.Endian
/-!
# Checksums

The cyclic redundancy check of 32 bits with the reversed polynomial `edb88320`, and the sum of
Adler, whose two halves are taken modulo 65521.
-/

namespace Raster.Bytes

/-- Divide one bit out of the remainder. -/
def crcBit (r : BitVec 32) : BitVec 32 :=
  if r.getLsbD 0 then (r >>> 1) ^^^ 0xedb88320#32 else r >>> 1

/-- Divide one byte out of the remainder. -/
def crcByte (r : BitVec 32) (b : Byte) : BitVec 32 :=
  let r := r ^^^ b.zeroExtend 32
  crcBit (crcBit (crcBit (crcBit (crcBit (crcBit (crcBit (crcBit r)))))))

/-- The cyclic redundancy check of some bytes. -/
def crc32 (bs : List Byte) : BitVec 32 := ~~~(bs.foldl crcByte 0xffffffff#32)

/-- The sum of Adler of some bytes. -/
def adler32 (bs : List Byte) : Nat :=
  let (a, b) := bs.foldl
    (fun ((a, b) : Nat × Nat) x =>
      let a := (a + x.toNat) % 65521
      (a, (b + a) % 65521))
    (1, 0)
  b * 65536 + a

end Raster.Bytes
