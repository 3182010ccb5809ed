import Raster.Pixel.Pixel
/-!
# Row filters

Each row of a picture is written as the difference from a prediction: the pixel to the left,
the one above, their mean, or the one of three neighbours that is closest to a linear
extrapolation.  A byte in front of the row says which.
-/

namespace Raster.Png

/-- How the bytes of a row are predicted. -/
inductive RowFilter where
  | plain | left | above | mean | closest
deriving DecidableEq, Repr

namespace RowFilter

/-- The filter that a byte stands for. -/
def ofByte? (b : Byte) : Option RowFilter :=
  [plain, left, above, mean, closest][b.toNat]?

/-- Which of three neighbours is closest to `a + b - c`; of equally close ones the earlier. -/
def nearestNeighbour (a b c : Byte) : Byte :=
  let goal : Int := a.toNat + b.toNat - c.toNat
  let distance (x : Byte) : Nat := (goal - x.toNat).natAbs
  if distance a ≤ distance b ∧ distance a ≤ distance c then a
  else if distance b ≤ distance c then b else c

/-- The prediction from the neighbours to the left, above, and above to the left. -/
def predict : RowFilter → (a b c : Byte) → Byte
  | plain, _, _, _ => 0
  | left, a, _, _ => a
  | above, _, b, _ => b
  | mean, a, b, _ => BitVec.ofNat 8 ((a.toNat + b.toNat) / 2)
  | closest, a, b, c => nearestNeighbour a b c

/-- Restore a row.  `lefts` and `corners` are the bytes of the last pixel of this row and of the
row above, `aboves` is what follows them in the row above. -/
def restoreFrom (f : RowFilter) : (lefts corners aboves row : List Byte) → List Byte
  | a :: lefts, c :: corners, b :: aboves, x :: row =>
    let y := x + f.predict a b c
    y :: restoreFrom f (lefts ++ [y]) (corners ++ [b]) aboves row
  | _, _, _, _ => []

/-- Restore a row of pixels of `stride` bytes. -/
def restore (f : RowFilter) (stride : Nat) (aboves row : List Byte) : List Byte :=
  restoreFrom f (List.replicate stride 0) (List.replicate stride 0) aboves row

/-- A row without prediction stands as it is. -/
theorem restoreFrom_plain (lefts corners aboves row : List Byte) (hl : 0 < lefts.length)
    (hc : 0 < corners.length) (ha : row.length ≤ aboves.length) :
    restoreFrom plain lefts corners aboves row = row := by
  induction row generalizing lefts corners aboves with
  | nil => cases lefts <;> cases corners <;> cases aboves <;> simp_all [restoreFrom]
  | cons x row ih =>
    match lefts, corners, aboves with
    | a :: lefts, c :: corners, b :: aboves =>
      simp only [restoreFrom, predict]
      rw [ih] <;> simp_all

end RowFilter

end Raster.Png
