import Raster.Format.Loading
import Raster.Format.Samples
import Raster.Format.Saving
/-!
# Codecs

The bytes of a file can be left to a library that is told samples, width, height and layout and
sees neither pixels nor options.  `Codec.saveImages` and `Codec.loadImages` save and load with any
such codec; `Codec.standard` is made of the encoders and decoders of this library.
`Codec.IsFaithful` is what has to be known of a codec: it reads PNG files that it has written.
-/

namespace Raster

/-- An encoder and a decoder of samples. -/
structure Codec where
  /-- The bytes of a file, from samples as the machine keeps them. -/
  encode : Encoding → (samples : List Byte) → (width height : Nat) → Layout → Option (List Byte)
  /-- The samples in the bytes of a file. -/
  decode : FileFormat → List Byte → Except Rejection SampleBuffer
  /-- Width, height and layout of the picture in the bytes of a file. -/
  heading : FileFormat → List Byte → Except Rejection (Nat × Nat × Layout)

/-- The layouts of the pictures that a format stores. -/
def FileFormat.layouts : FileFormat → List Layout
  | jpeg => [⟨false, false, false⟩, ⟨true, false, false⟩]
  | png =>
    [⟨false, false, false⟩, ⟨false, true, false⟩, ⟨false, false, true⟩, ⟨true, false, false⟩,
      ⟨true, true, false⟩]

namespace Codec

/-- Samples of a picture that PNG stores are encoded, and decoding the file gives back the layout,
the size and the samples. -/
def IsFaithful (codec : Codec) (order : ByteOrder) : Prop :=
  ∀ (c : Compression) (b : SampleBuffer), b.layout ∈ FileFormat.png.layouts →
    FileFormat.png.takesShape [b.width, b.height] = true → b.IsInRange →
      ∃ bytes, codec.encode (.png c) (b.bytes order) b.width b.height b.layout = some bytes ∧
        codec.decode .png bytes = .ok b

/-- The codec of the library itself, on a machine with the given order of bytes. -/
def standard (order : ByteOrder) : Codec where
  encode e samples width height layout :=
    e.bytes? (SampleBuffer.ofBytes order layout width height samples).picture
  decode f bytes := (f.picture bytes).map Picture.buffer
  heading := FileFormat.heading

variable (codec : Codec) (order : ByteOrder)

/-- What is put around a codec: pixels are taken apart before, and put together afterwards. -/
@[reducible] def coding : Coding where
  encode e p := codec.encode e (p.buffer.bytes order) p.width p.height p.layout
  decode f bytes := (codec.decode f bytes).map SampleBuffer.picture
  heading := codec.heading

variable {m : Type → Type} [Monad m] [FileAccess m]

/-- Save images, and return the path that has been written. -/
def saveImages (matcher : Matcher) (images : List Image) (path : Path) (format : Option String)
    (o : Options) : m (Except Failure Path) :=
  letI := codec.coding order
  matcher.saveImages images path format o

/-- Load the images in a file. -/
def loadImages (matcher : Matcher) (path : Path) (base : Option Path) (format : Option String)
    (o : Options) : m (Except Failure (List Labelled)) :=
  letI := codec.coding order
  matcher.loadImages path base format o

end Codec

end Raster
