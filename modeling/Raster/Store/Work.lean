import Raster.Error
import Raster.Store.Store
/-!
# Work on arrays

What is done in memory: arrays are read through handles, new arrays are allocated, and pixels are
written in place.  `ArrayOf type shape` is a handle whose type and shape are known; forgetting
them makes it a `Handle`.

Work may fail.  What has been allocated and written until then stays.
-/

namespace Raster

/-- A handle whose type and shape are known. -/
structure ArrayOf (type : PixelType) (shape : Shape) where
  /-- The number of the buffer. -/
  buffer : Nat

/-- Forget the type and the shape. -/
def ArrayOf.erase {type : PixelType} {shape : Shape} (a : ArrayOf type shape) : Handle :=
  ⟨a.buffer, type, shape⟩

/-- A handle, with its type and its shape known. -/
def Handle.typed (h : Handle) : ArrayOf h.type h.shape := ⟨h.buffer⟩

/-- The pixels of an image, if it is of a given type and shape. -/
def Image.gridOf? (image : Image) (type : PixelType) (shape : Shape) :
    Option (Grid shape type.Pixel) :=
  if h : image.type = type ∧ image.shape = shape then some (h.1 ▸ h.2 ▸ image.grid) else none

/-- The pixels that are seen through a handle of known type and shape. -/
def Store.grid? {type : PixelType} {shape : Shape} (s : Store) (a : ArrayOf type shape) :
    Option (Grid shape type.Pixel) :=
  (s.image? a.erase).bind fun image => image.gridOf? type shape

/-- Work on the arrays of a store. -/
abbrev Work := ExceptT Failure (StateM Store)

namespace Work

variable {type type' : PixelType} {shape shape' : Shape} {α : Type}

/-- What has been found out without the store. -/
def ofResult (r : Except Failure α) : Work α := ExceptT.mk (pure r)

/-- What a look at the store shows; there has to be something. -/
def look (f : Store → Option α) : Work α := ExceptT.mk fun s =>
  match f s with
  | some a => (.ok a, s)
  | none => (orFault (.error .outOfBounds), s)

/-- Look through a handle. -/
def see (h : Handle) : Work Image := look (·.image? h)

/-- Read an array. -/
def read (a : ArrayOf type shape) : Work (Grid shape type.Pixel) := look (·.grid? a)

/-- Allocate an array. -/
def allocate (g : Grid shape type.Pixel) : Work (ArrayOf type shape) := ExceptT.mk fun s =>
  (.ok ⟨s.buffers.length⟩, s.allocate ⟨type, shape, g⟩)

/-- Write over the pixels of an array. -/
def overwrite (a : ArrayOf type shape) (g : Grid shape type.Pixel) : Work Unit :=
  ExceptT.mk fun s => (.ok (), s.write a.erase ⟨type, shape, g⟩)

/-- Allocate an array that is made of another one. -/
def remake (a : ArrayOf type shape) (f : Grid shape type.Pixel → Grid shape' type'.Pixel) :
    Work (ArrayOf type' shape') := do
  let g ← read a
  allocate (f g)

/-- Allocate a copy. -/
def copy (a : ArrayOf type shape) : Work (ArrayOf type shape) := remake a id

/-- Change the pixels of an array in place. -/
def edit (a : ArrayOf type shape) (f : Grid shape type.Pixel → Grid shape type.Pixel) :
    Work Unit := do
  let g ← read a
  overwrite a (f g)

end Work

end Raster
