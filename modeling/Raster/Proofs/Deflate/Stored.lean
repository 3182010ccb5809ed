import Mathlib.Tactic.Common
import Raster.Deflate.Inflate
import Raster.Deflate.Stored
/-!
# Inflating what was not compressed

Data that were written in blocks as they are come out again, one block after the other
(`inflateBlocks_storedBlock`, `inflateBlocks_storedBlocks`), and what stands behind them is left;
so nothing is lost in the wrapper (`unwrap_wrap`).
-/

namespace Raster.Deflate

variable {data tail : List Byte} {out : Array Byte}

/-! ## One block -/

lemma BitSource.fill_of_le {n held count : Nat} (h : n ≤ count) (bs : List Byte) :
    fill n held count bs = some ⟨held, count, bs⟩ := by
  cases bs with
  | nil => exact if_pos h
  | cons b bs => exact if_pos h

/-- The first three bits of a byte. -/
lemma takeBits_three (b : Byte) (bs : List Byte) :
    takeBits 3 (.ofBytes (b :: bs)) = .ok (b.toNat % 8, ⟨b.toNat >>> 3, 5, bs⟩) := by
  have hfill : BitSource.fill 3 0 0 (b :: bs) = some ⟨b.toNat, 8, bs⟩ := by
    rw [BitSource.fill, if_neg (by decide), BitSource.fill_of_le (by decide), Nat.zero_add,
      Nat.shiftLeft_zero]
  rw [takeBits, BitSource.take, BitSource.ofBytes, hfill]
  rfl

/-- The number of bytes in a block and its complement are read back. -/
lemma inflateStored_of_bytes (held count : Nat) (h : data.length ≤ blockSize) :
    inflateStored ⟨⟨held, count, Bytes.ofLittleEndian 2 data.length ++
      Bytes.ofLittleEndian 2 (65535 - data.length) ++ data ++ tail⟩, out⟩ =
        .ok ⟨.ofBytes tail, out ++ data⟩ := by
  set front := Bytes.ofLittleEndian 2 data.length
  set back := Bytes.ofLittleEndian 2 (65535 - data.length)
  have hfront : front.length = 2 := Bytes.length_ofLittleEndian 2 _
  have hcut : Bytes.cut? 4 (front ++ back ++ data ++ tail) =
      some (front ++ back, data ++ tail) := by
    have := Bytes.cut?_append (front ++ back) (data ++ tail)
    rwa [List.length_append, hfront, Bytes.length_ofLittleEndian, ← List.append_assoc] at this
  have hlength : Bytes.littleEndian front = data.length :=
    Bytes.littleEndian_ofLittleEndian (Nat.lt_of_le_of_lt h (by decide))
  have hcomplement : Bytes.littleEndian back = 65535 - data.length :=
    Bytes.littleEndian_ofLittleEndian (Nat.lt_of_le_of_lt (Nat.sub_le _ _) (by decide))
  have hsum : data.length + (65535 - data.length) = 65535 := Nat.add_sub_cancel' h
  rw [inflateStored, BitSource.align, hcut]
  simp only [← hfront, List.take_left, List.drop_left, hlength, hcomplement, hsum, if_true]

/-- **A block that was written is one step,** and the last one ends it. -/
lemma inflateBlocks_storedBlock (fuel : Nat) (isLast : Bool) (h : data.length ≤ blockSize) :
    inflateBlocks (fuel + 1) ⟨.ofBytes (storedBlock isLast data ++ tail), out⟩ =
      if isLast then ⟨out ++ data, .ok (.ofBytes tail)⟩
      else inflateBlocks fuel ⟨.ofBytes tail, out ++ data⟩ := by
  have hstored (isLast : Bool) : inflateBlock (isLast.toNat % 8 / 2) = inflateStored := by
    cases isLast <;> rfl
  have hheader : (if isLast then 1 else 0 : Byte).toNat = isLast.toNat := by
    cases isLast <;> rfl
  rw [storedBlock, List.cons_append, inflateBlocks, takeBits_three, hheader]
  simp only [hstored, inflateStored_of_bytes _ _ h]
  cases isLast <;> rfl

/-! ## All blocks -/

/-- The induction is on the blocks; each has a byte at least, so the fuel lasts. -/
lemma inflateBlocks_storedBlocks {fuel : Nat} (hfuel : (storedBlocks data).length ≤ fuel) :
    inflateBlocks fuel ⟨.ofBytes (storedBlocks data ++ tail), out⟩ =
      ⟨out ++ data, .ok (.ofBytes tail)⟩ := by
  fun_induction storedBlocks data generalizing fuel out with
  | case1 data hlast =>
    obtain ⟨fuel, rfl⟩ := Nat.exists_eq_succ_of_ne_zero (n := fuel) (by
      rw [storedBlock, List.length_cons] at hfuel
      omega)
    exact inflateBlocks_storedBlock fuel true hlast
  | case2 data hmore ih =>
    obtain ⟨fuel, rfl⟩ := Nat.exists_eq_succ_of_ne_zero (n := fuel) (by
      rw [storedBlock, List.cons_append, List.length_cons] at hfuel
      omega)
    rw [storedBlock, List.cons_append, List.length_cons, List.length_append] at hfuel
    have hjoin : out ++ data.take blockSize ++ data.drop blockSize = out ++ data := by
      rw [← Array.toList_inj]
      simp
    rw [List.append_assoc, inflateBlocks_storedBlock fuel false (List.length_take_le _ _),
      if_neg Bool.false_ne_true, ih (by omega), hjoin]

/-- **Nothing is lost in the wrapper.** -/
lemma unwrap_wrap (data : List Byte) :
    unwrap (wrap data) =
      ⟨data.toArray, .ok (.ofBytes (Bytes.ofBigEndian 4 (Bytes.adler32 data)))⟩ := by
  have hinflate : inflate (storedBlocks data ++ Bytes.ofBigEndian 4 (Bytes.adler32 data)) =
      ⟨data.toArray, .ok (.ofBytes (Bytes.ofBigEndian 4 (Bytes.adler32 data)))⟩ := by
    rw [inflate, inflateBlocks_storedBlocks (by rw [List.length_append]; omega)]
    simp
  have hwrapper : isWrapper 0x78 0x01 = true := by decide
  rw [wrap, List.append_assoc]
  show unwrap (0x78 :: 0x01 :: (storedBlocks data ++ _)) = _
  rw [unwrap, if_pos hwrapper, hinflate]
  simp [BitSource.ofBytes]

end Raster.Deflate
