import Raster.Format.Content
import Raster.Format.Encoding
import Raster.Format.Properties
/-!
# Libraries for pictures

The bytes of a file are made from a picture, and a picture from bytes, by a library for pictures.
What is stored is checked before it is handed to the library, and what the library cannot encode is
a failure of its own.
-/

namespace Raster

/-- A library that encodes pictures and decodes them. -/
class Coding where
  /-- The bytes of a file with a picture. -/
  encode : Encoding → Picture → Option (List Byte)
  /-- The picture in the bytes of a file. -/
  decode : FileFormat → List Byte → Except Rejection Picture
  /-- Width, height and layout of the picture in the bytes of a file. -/
  heading : FileFormat → List Byte → Except Rejection (Nat × Nat × Layout)

/-- The library that files are read and written with. -/
instance Coding.own : Coding := ⟨Encoding.bytes?, FileFormat.picture, FileFormat.heading⟩

namespace FileFormat

variable [Coding]

/-- The bytes of a file with some images; the path is for messages. -/
def fileBytes (f : FileFormat) (images : List Image) (path : Path) (o : Options) :
    Except Failure (List Byte) := do
  let image ← orRefuse (f.onlyImage images)
  orRefuse (checkPlanar image.shape)
  let encoding ← orRefuse (f.encoding o)
  match image.picture?.bind (Coding.encode encoding) with
  | some bytes => return bytes
  | none => throw (.encode path.text)

/-- What is known of an image before its pixels are read. -/
def properties (f : FileFormat) (bytes : List Byte) : Except Rejection ImageProperties := do
  let (width, height, layout) ← Coding.heading f bytes
  return ⟨f.name, [width, height], [("color_type", layout.name)]⟩

end FileFormat

end Raster
