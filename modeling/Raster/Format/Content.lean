import Raster.Format.FileFormat
import Raster.Jpeg.Decode
import Raster.Png.Decode
/-!
# What the bytes of a file hold
-/

namespace Raster

namespace FileFormat

/-- The picture in the bytes of a file. -/
def picture (f : FileFormat) (bytes : List Byte) : Except Rejection Picture :=
  match f with
  | jpeg => (Jpeg.decode bytes).elim (.error .foreign) .ok
  | png => Png.decode bytes

/-- Width, height and layout of the picture in the bytes of a file.  Its pixels are not looked
at. -/
def heading (f : FileFormat) (bytes : List Byte) : Except Rejection (Nat × Nat × Layout) :=
  match f with
  | jpeg =>
    match Jpeg.openFile bytes with
    | some file => .ok (file.frame.width, file.frame.height, file.frame.layout)
    | none => .error .foreign
  | png => do
    let p := (← Png.openFile bytes).preamble
    return (p.header.width, p.header.height, p.layout)

end FileFormat

end Raster
