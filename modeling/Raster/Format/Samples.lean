import Raster.Format.Picture
import Raster.Png.Raw
/-!
# Samples without pixels

A codec that is not part of the library knows nothing of pixels.  It takes the samples of a
picture as bytes, in the order in which the machine keeps the bytes of a number, and gives back
samples as numbers.  `Picture.buffer` takes the pixels of a picture apart into samples, and
`SampleBuffer.picture` cuts samples into pixels.
-/

namespace Raster

/-- Which byte of a number a machine keeps first. -/
inductive ByteOrder where
  | littleEndian | bigEndian
deriving DecidableEq, Repr

namespace ByteOrder

/-- A number of some bytes as the machine keeps it. -/
def bytes : ByteOrder → (count n : Nat) → List Byte
  | littleEndian => Bytes.ofLittleEndian
  | bigEndian => Bytes.ofBigEndian

/-- The number that the machine keeps as some bytes. -/
def number : ByteOrder → List Byte → Nat
  | littleEndian => Bytes.littleEndian
  | bigEndian => Bytes.bigEndian

end ByteOrder

@[simp] theorem Png.length_pieces {α : Type} (size count : Nat) (l : List α) :
    (Png.pieces size count l).length = count := by
  induction count generalizing l with
  | zero => rfl
  | succ count ih => simp [Png.pieces, ih]

/-- The samples of all pixels of a picture, in flat order. -/
structure SampleBuffer where
  layout : Layout
  width : Nat
  height : Nat
  samples : List Nat
  /-- Every pixel has all of its samples. -/
  length_samples : samples.length = Shape.size [width, height] * layout.channels

/-- The samples of a picture. -/
def Picture.buffer (p : Picture) : SampleBuffer where
  layout := p.layout
  width := p.width
  height := p.height
  samples := p.pixels.toList.flatMap Vector.toList
  length_samples := by
    simp [List.length_flatMap, Grid.toList, List.map_const']

/-- A pixel with the given samples. -/
def Layout.assemble (l : Layout) (samples : List Nat) : Vector Nat l.channels :=
  Vector.ofFn fun i => samples.getD i 0

namespace SampleBuffer

/-- Every sample is in the range of the layout. -/
def IsInRange (b : SampleBuffer) : Prop := ∀ v ∈ b.samples, v ≤ b.layout.top

instance (b : SampleBuffer) : Decidable b.IsInRange :=
  inferInstanceAs (Decidable (∀ v ∈ b.samples, v ≤ b.layout.top))

/-- The picture that the samples make, cut into pixels. -/
def picture (b : SampleBuffer) : Picture where
  layout := b.layout
  width := b.width
  height := b.height
  pixels := ⟨⟨((Png.pieces b.layout.channels (Shape.size [b.width, b.height]) b.samples).map
    b.layout.assemble).toArray, by simp⟩⟩

/-- The samples as bytes. -/
def bytes (order : ByteOrder) (b : SampleBuffer) : List Byte :=
  b.samples.flatMap (order.bytes b.layout.sampleBytes)

/-- The samples in some bytes. -/
def ofBytes (order : ByteOrder) (l : Layout) (width height : Nat) (bs : List Byte) :
    SampleBuffer where
  layout := l
  width := width
  height := height
  samples := (Png.pieces l.sampleBytes (Shape.size [width, height] * l.channels) bs).map
    order.number
  length_samples := by simp

end SampleBuffer

end Raster
