import Raster.Png.Filter
import Raster.Png.Raw
/-!
# Passes

The rows of a file go over the picture in one pass, or in seven: each pass takes the pixels
that lie on a lattice, and together they take every pixel once.
-/

namespace Raster.Png

/-- The pixels on a lattice. -/
structure Pass where
  /-- The column of its first pixel. -/
  left : Nat
  /-- The row of its first pixel. -/
  top : Nat
  /-- How far apart its columns are. -/
  columnStep : Nat
  /-- How far apart its rows are. -/
  rowStep : Nat

namespace Pass

/-- Every pixel. -/
def whole : Pass := ⟨0, 0, 1, 1⟩

/-- The seven passes of an interlaced picture. -/
def interlaced : List Pass :=
  [⟨0, 0, 8, 8⟩, ⟨4, 0, 8, 8⟩, ⟨0, 4, 4, 8⟩, ⟨2, 0, 4, 4⟩, ⟨0, 2, 2, 4⟩, ⟨1, 0, 2, 2⟩, ⟨0, 1, 1, 2⟩]

/-- The number of columns in a picture of some width. -/
def columns (p : Pass) (width : Nat) : Nat := (width - p.left + (p.columnStep - 1)) / p.columnStep

/-- The number of rows in a picture of some height. -/
def rows (p : Pass) (height : Nat) : Nat := (height - p.top + (p.rowStep - 1)) / p.rowStep

/-- Whether a pixel belongs to the pass. -/
def takes (p : Pass) (x y : Nat) : Bool :=
  p.left ≤ x && p.top ≤ y && (x - p.left) % p.columnStep = 0 && (y - p.top) % p.rowStep = 0

end Pass

/-- The passes of a picture. -/
def Header.passes (h : Header) : List Pass :=
  if h.isInterlaced then Pass.interlaced else [Pass.whole]

/-- Restore some rows from the front of the data; `short` says what it means that data are
missing. -/
def restoreRows (short : Rejection) (stride rowBytes : Nat) :
    (rows : Nat) → (aboves : List Byte) → List Byte →
      Except Rejection (List (List Byte) × List Byte)
  | 0, _, bs => .ok ([], bs)
  | rows + 1, aboves, bs =>
    match bs with
    | [] => .error short
    | code :: bs =>
      match Bytes.cut? rowBytes bs with
      | none => .error short
      | some (row, bs) =>
        match RowFilter.ofByte? code with
        | none => .error .foreign
        | some f => do
          let row := f.restore stride aboves row
          let (below, bs) ← restoreRows short stride rowBytes rows row bs
          return (row :: below, bs)

/-- The pixels of a pass, row by row. -/
abbrev PassPixels (l : Layout) := Array (Array (Vector Nat l.channels))

/-- Read a pass from the front of the data.  A pass without columns has no rows. -/
def readPass (p : Preamble) (short : Rejection) (pass : Pass) (bs : List Byte) :
    Except Rejection (PassPixels p.layout × List Byte) := do
  let width := pass.columns p.header.width
  let height := if width = 0 then 0 else pass.rows p.header.height
  let rowBytes := p.header.rowBytes width
  let (rows, bs) ←
    restoreRows short p.header.stride rowBytes height (List.replicate rowBytes 0) bs
  return ((rows.map fun row => (p.rowPixels width row).toArray).toArray, bs)

/-- Read some passes. -/
def readPasses (p : Preamble) (short : Rejection) :
    List Pass → List Byte → Except Rejection (List (Pass × PassPixels p.layout))
  | [], _ => .ok []
  | pass :: passes, bs => do
    let (pixels, bs) ← readPass p short pass bs
    let others ← readPasses p short passes bs
    return (pass, pixels) :: others

/-- A pixel of the picture: the first pass that takes it has it. -/
def pixelAt (l : Layout) (passes : List (Pass × PassPixels l)) (x y : Nat) :
    Vector Nat l.channels :=
  match passes.find? fun (pass, _) => pass.takes x y with
  | some (pass, rows) =>
    (rows.getD ((y - pass.top) / pass.rowStep) #[]).getD ((x - pass.left) / pass.columnStep)
      (Vector.replicate _ 0)
  | none => Vector.replicate _ 0

end Raster.Png
