import Raster.Pixel.Pixel
/-!
# Numbers as bytes

A number written as some bytes, its most significant byte first or last, and a list cut after
a number of bytes.  Reading gives back what was written if the number fits.
-/

namespace Raster

namespace Bytes

/-- The number whose most significant byte comes first. -/
def bigEndian (bs : List Byte) : Nat := bs.foldl (fun n b => 256 * n + b.toNat) 0

/-- The number whose least significant byte comes first. -/
def littleEndian : List Byte → Nat
  | [] => 0
  | b :: bs => b.toNat + 256 * littleEndian bs

/-- The last bytes of a number, the least significant first. -/
def ofLittleEndian : (count : Nat) → Nat → List Byte
  | 0, _ => []
  | count + 1, n => BitVec.ofNat 8 n :: ofLittleEndian count (n / 256)

/-- The last bytes of a number, the most significant first. -/
def ofBigEndian (count n : Nat) : List Byte := (ofLittleEndian count n).reverse

/-- Cut a list after a number of elements, if it has them. -/
def cut? {α : Type} (count : Nat) (l : List α) : Option (List α × List α) :=
  let front := l.take count
  if front.length = count then some (front, l.drop count) else none

theorem cut?_append {α : Type} (front rest : List α) :
    cut? front.length (front ++ rest) = some (front, rest) := by
  simp [cut?]

theorem bigEndian_append (bs : List Byte) (b : Byte) :
    bigEndian (bs ++ [b]) = 256 * bigEndian bs + b.toNat := by
  simp [bigEndian]

/-- Without its last byte, a number fits into one byte less. -/
theorem div_lt_of_succ {count n : Nat} (h : n < 1 <<< (8 * (count + 1))) :
    n / 256 < 1 <<< (8 * count) := by
  rw [Nat.one_shiftLeft, Nat.mul_add, Nat.pow_add] at h
  rw [Nat.one_shiftLeft]
  omega

/-- Reading gives back the written number. -/
theorem bigEndian_ofBigEndian {count n : Nat} (h : n < 1 <<< (8 * count)) :
    bigEndian (ofBigEndian count n) = n := by
  induction count generalizing n with
  | zero => simp [ofBigEndian, ofLittleEndian, bigEndian] at h ⊢; omega
  | succ count ih =>
    have := ih (div_lt_of_succ h)
    simp only [ofBigEndian, ofLittleEndian, List.reverse_cons] at this ⊢
    rw [bigEndian_append, this, BitVec.toNat_ofNat]
    omega

/-- Reading gives back the written number. -/
theorem littleEndian_ofLittleEndian {count n : Nat} (h : n < 1 <<< (8 * count)) :
    littleEndian (ofLittleEndian count n) = n := by
  induction count generalizing n with
  | zero => simp [ofLittleEndian, littleEndian] at h ⊢; omega
  | succ count ih =>
    simp only [ofLittleEndian, littleEndian, ih (div_lt_of_succ h), BitVec.toNat_ofNat]
    omega

@[simp] theorem length_ofLittleEndian (count n : Nat) :
    (ofLittleEndian count n).length = count := by
  induction count generalizing n with
  | zero => rfl
  | succ count ih => simp [ofLittleEndian, ih]

@[simp] theorem length_ofBigEndian (count n : Nat) : (ofBigEndian count n).length = count := by
  simp [ofBigEndian]

end Bytes

end Raster
