import Raster.Bytes.Endian
import Raster.Format.Picture
import Raster.Jpeg.Entropy
/-!
# Segments and frames

A file is a sequence of segments, each with a marker that says what it holds: the steps of the
coefficients, the codes, the frame with the size and the components of the picture, and last
the scan, behind which the coded blocks stand.
-/

namespace Raster.Jpeg

/-- A part of a file. -/
structure Segment where
  /-- The byte that says what it holds. -/
  marker : Nat
  data : List Byte

/-- The bytes of a segment; the length counts itself. -/
def Segment.bytes (s : Segment) : List Byte :=
  0xff :: BitVec.ofNat 8 s.marker :: (Bytes.ofBigEndian 2 (s.data.length + 2) ++ s.data)

/-- The bytes in front of the first segment. -/
def startBytes : List Byte := [0xff, 0xd8]

/-- The bytes behind the blocks. -/
def endBytes : List Byte := [0xff, 0xd9]

/-- The marker of the segment with the size and the components. -/
def frameMarker : Nat := 0xc0
/-- The marker of segments with codes. -/
def codeMarker : Nat := 0xc4
/-- The marker of the segment behind which the blocks stand. -/
def scanMarker : Nat := 0xda
/-- The marker of segments with steps. -/
def stepMarker : Nat := 0xdb
/-- The marker of the segment that says after how many units prediction starts anew. -/
def restartMarker : Nat := 0xdd

/-- Cut off at most `count` segments, up to the scan; what follows it are its blocks. -/
def cutSegments : (count : Nat) → List Byte → Option (List Segment × List Byte)
  | 0, _ => none
  | count + 1, bs => do
    let (lead, bs) ← Bytes.cut? 2 bs
    let marker := (lead.getD 1 0).toNat
    if lead.head? ≠ some 0xff ∨ marker < 0xc0 then none
    let (length, bs) ← Bytes.cut? 2 bs
    let length := Bytes.bigEndian length
    if length < 2 then none
    let (data, bs) ← Bytes.cut? (length - 2) bs
    if marker = scanMarker then return ([⟨marker, data⟩], bs)
    let (segments, bs) ← cutSegments count bs
    return (⟨marker, data⟩ :: segments, bs)

/-- The segments of a file, and the bytes of the blocks. -/
def splitSegments (bs : List Byte) : Option (List Segment × List Byte) := do
  let (start, bs) ← Bytes.cut? 2 bs
  if start = startBytes then cutSegments (bs.length / 4) bs else none

/-! ## What segments hold -/

/-- The place of a component in a picture, and the steps of its coefficients. -/
structure Component where
  name : Nat
  /-- The number of its blocks in a row of a unit. -/
  across : Nat
  /-- The number of its blocks in a column of a unit. -/
  down : Nat
  /-- The number of its table of steps. -/
  steps : Nat

/-- The size and the components of a picture. -/
structure Frame where
  width : Nat
  height : Nat
  components : List Component

/-- Read components of three bytes each. -/
def readComponents : (count : Nat) → List Nat → Option (List Component)
  | 0, [] => some []
  | count + 1, name :: sampling :: steps :: bs =>
    let across := sampling / 16
    let down := sampling % 16
    if 1 ≤ across ∧ across ≤ 4 ∧ 1 ≤ down ∧ down ≤ 4 then
      (readComponents count bs).map (⟨name, across, down, steps⟩ :: ·)
    else none
  | _, _ => none

/-- Read a frame of one or three components with samples of eight bits. -/
def Frame.ofBytes? (bs : List Byte) : Option Frame := do
  match bs.map BitVec.toNat with
  | 8 :: h1 :: h0 :: w1 :: w0 :: count :: bs =>
    let components ← readComponents count bs
    if (count = 1 ∨ count = 3) ∧ 0 < 256 * w1 + w0 ∧ 0 < 256 * h1 + h0 then
      return ⟨256 * w1 + w0, 256 * h1 + h0, components⟩
    none
  | _ => none

/-- Tables by their numbers, the last one first. -/
abbrev Numbered (α : Type) := List (Nat × α)

/-- Read tables of steps; the steps stand in the order of the coefficients, with one or two
bytes each. -/
def readSteps : (fuel : Nat) → List Byte → Option (Numbered (List Nat))
  | _, [] => some []
  | 0, _ => none
  | fuel + 1, b :: bs => do
    let size := if b.toNat < 16 then 1 else 2
    let (steps, bs) ← Bytes.cut? (64 * size) bs
    let steps := (List.range 64).map fun i => Bytes.bigEndian ((steps.drop (size * i)).take size)
    let others ← readSteps fuel bs
    return others ++ [(b.toNat % 16, steps)]

/-- Read codes; those of the coefficients after the first have numbers from sixteen on. -/
def readCodes : (fuel : Nat) → List Byte → Option (Numbered CanonicalCode)
  | _, [] => some []
  | 0, _ => none
  | fuel + 1, b :: bs => do
    let (counts, bs) ← Bytes.cut? 16 bs
    let counts := counts.map BitVec.toNat
    let (symbols, bs) ← Bytes.cut? counts.sum bs
    let others ← readCodes fuel bs
    return others ++ [(b.toNat, ⟨counts, (symbols.map BitVec.toNat).toArray⟩)]

/-- What stands in front of the blocks. -/
structure Preamble where
  frame : Option Frame
  steps : Numbered (List Nat)
  codes : Numbered CanonicalCode
  /-- After how many units prediction starts anew; never if zero. -/
  restart : Nat
  /-- The components of the scan, each with the number of its codes. -/
  scan : List (Nat × Nat)

/-- Read the components of a scan. -/
def readScan (bs : List Byte) : Option (List (Nat × Nat)) :=
  match bs.map BitVec.toNat with
  | count :: bs =>
    if bs.length = 2 * count + 3 then
      some ((List.range count).map fun i => (bs.getD (2 * i) 0, bs.getD (2 * i + 1) 0))
    else none
  | [] => none

/-- Take account of a segment.  Frames of other kinds than the sequential one are refused,
segments with remarks are passed over. -/
def Preamble.add (p : Preamble) (s : Segment) : Option Preamble :=
  if s.marker = stepMarker then
    (readSteps s.data.length s.data).map fun t => { p with steps := t ++ p.steps }
  else if s.marker = codeMarker then
    (readCodes s.data.length s.data).map fun t => { p with codes := t ++ p.codes }
  else if s.marker = restartMarker then some { p with restart := Bytes.bigEndian (s.data.take 2) }
  else if s.marker = scanMarker then (readScan s.data).map fun t => { p with scan := t }
  else if s.marker = frameMarker ∨ s.marker = frameMarker + 1 then
    if p.frame.isSome then none
    else (Frame.ofBytes? s.data).map fun f => { p with frame := some f }
  else if 0xe0 ≤ s.marker then some p
  else none

/-- A file up to its blocks. -/
structure Opened where
  preamble : Preamble
  frame : Frame
  blocks : List Byte

/-- Read a file up to its blocks. -/
def openFile (bs : List Byte) : Option Opened := do
  let (segments, blocks) ← splitSegments bs
  let preamble ← segments.foldlM Preamble.add ⟨none, [], [], 0, []⟩
  let frame ← preamble.frame
  return ⟨preamble, frame, blocks⟩

/-- The layout of the picture of a frame. -/
def Frame.layout (f : Frame) : Layout := ⟨f.components.length = 3, false, false⟩

end Raster.Jpeg
