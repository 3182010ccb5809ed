import Raster.Grid.Basic
import Raster.Pixel.Pixel
/-!
# Images

An image is a grid of pixels whose type and shape are known at run time.  An operation on an
image either hands its input on or makes a new image; `Derived` keeps the two apart, because
an image that is handed on shares its buffer with the input.
-/

namespace Raster

/-- A grid of pixels of some type and some shape. -/
structure Image where
  type : PixelType
  shape : Shape
  grid : Grid shape type.Pixel

namespace Image

/-- The image all of whose pixels are zero. -/
def zeros (type : PixelType) (shape : Shape) : Image :=
  ⟨type, shape, Grid.fill shape type.zeroPixel⟩

/-- An image from its pixels in flat order. -/
def ofArray? (type : PixelType) (shape : Shape) (pixels : Array type.Pixel) :
    Except Fault Image :=
  (Grid.ofArray? shape pixels).map fun grid => ⟨type, shape, grid⟩

/-- The pixels of an image of a given type. -/
def view (image : Image) (type : PixelType) : Except Fault (Grid image.shape type.Pixel) :=
  if h : image.type = type then .ok (h ▸ image.grid) else .error (.view image.type type)

@[simp] theorem view_self (type : PixelType) (shape : Shape) (grid : Grid shape type.Pixel) :
    view ⟨type, shape, grid⟩ type = .ok grid :=
  dif_pos rfl

end Image

/-- What an operation on an image returns: the image itself, or a new one. -/
inductive Derived where
  | unchanged
  | fresh (image : Image)

/-- The image that is meant, given the one that the operation started from. -/
def Derived.get (source : Image) : Derived → Image
  | unchanged => source
  | fresh image => image

/-- Whether the result shares the buffer of its source. -/
def Derived.isShared : Derived → Bool
  | unchanged => true
  | fresh _ => false

end Raster
