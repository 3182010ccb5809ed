import Raster.Convert.Image
import Raster.Extension.Table
import Raster.Grid.Edit
/-!
# Shared buffers

A store holds pixel buffers and handles on them.  Several handles may lead to one buffer, and
what is written through one of them is seen through all; each handle has a pixel type and a
shape of its own, through which it sees the buffer.  A handle whose type or shape did not fit
its buffer would see nothing: `Store.image?` says what a handle sees.
-/

namespace Raster

/-- Pixels in memory, with the tag that says what they are. -/
structure Buffer where
  type : PixelType
  cells : Array type.Pixel

/-- A way to see a buffer. -/
structure Handle where
  /-- The number of the buffer. -/
  buffer : Nat
  type : PixelType
  shape : Shape
deriving DecidableEq, Repr

/-- Whether two handles lead to one buffer. -/
def Handle.sharesWith (h k : Handle) : Bool := h.buffer = k.buffer

/-- A description of an array, after the name of its kind. -/
def Handle.describe (kind : String) (h : Handle) : String :=
  kind ++ " \x7b pixel_type: " ++ h.type.shortName ++ ", shape: " ++ Text.natList h.shape ++ " \x7d"

/-- Buffers, numbered from zero, and named handles. -/
structure Store where
  buffers : List Buffer
  handles : Table Handle

/-- The buffer of an image. -/
def Image.toBuffer (image : Image) : Buffer := ⟨image.type, image.grid.cells.toArray⟩

namespace Store

/-- The store without buffers and handles. -/
def empty : Store := ⟨[], []⟩

/-- The handle of a given name. -/
def handle? (s : Store) (name : String) : Option Handle := Table.get? name s.handles

/-- The image that a handle sees. -/
def image? (s : Store) (h : Handle) : Option Image :=
  match s.buffers[h.buffer]? with
  | some b =>
    if b.type = h.type then
      if size : b.cells.size = h.shape.size then some ⟨b.type, h.shape, ⟨⟨b.cells, size⟩⟩⟩ else none
    else none
  | none => none

/-! ## Changes of the store -/

/-- The handle of the buffer that is allocated next. -/
def nextHandle (s : Store) (image : Image) : Handle := ⟨s.buffers.length, image.type, image.shape⟩

/-- Allocate a buffer, without a handle on it. -/
def allocate (s : Store) (image : Image) : Store :=
  { s with buffers := s.buffers ++ [image.toBuffer] }

/-- Give a handle a name, in place of the handle that had it. -/
def named (s : Store) (name : String) (h : Handle) : Store :=
  { s with handles := Table.put name h s.handles }

/-- Allocate a buffer and name a handle on it. -/
def new (s : Store) (name : String) (image : Image) : Store :=
  (s.allocate image).named name (s.nextHandle image)

/-- Replace the pixels of the buffer that a handle leads to. -/
def write (s : Store) (h : Handle) (image : Image) : Store :=
  { s with buffers := s.buffers.set h.buffer image.toBuffer }

/-- Name what an operation returned: its source, or a new buffer. -/
def newDerived (s : Store) (name : String) (source : Handle) : Derived → Store
  | .unchanged => s.named name source
  | .fresh image => s.new name image

end Store

end Raster
