import Raster.Files.Access
import Raster.Format.Coding
/-!
# Reading and writing image files

A file is read in a known format: it holds an image, or it is not in the format, or reading
fails.  Writing happens only when all bytes of the file are known.
-/

namespace Raster

namespace FileFormat

variable {m : Type → Type} [Monad m] [FileAccess m]

/-- The result of reading bytes: none if they are not in the format. -/
def orForeign {α : Type} (path : Path) : Except Rejection α → Except Failure (Option α)
  | .ok a => .ok (some a)
  | .error .foreign => .ok none
  | .error .truncated => .error (.read path.text none)

/-- Read something from a file; none if the file is not in the format. -/
def readFile {α : Type} (f : List Byte → Except Rejection α) (path : Path) :
    m (Except Failure (Option α)) := do
  match ← FileAccess.read path with
  | .ok bytes => return orForeign path (f bytes)
  | .error e => return .error (.read path.text (some e))

/-- Read the image in a file. -/
def load [Coding] (f : FileFormat) (path : Path) : m (Except Failure (Option Image)) :=
  readFile (fun bytes => (Coding.decode f bytes).map Picture.image) path

/-- Read the properties of the image in a file. -/
def information [Coding] (f : FileFormat) (path : Path) :
    m (Except Failure (Option ImageProperties)) :=
  readFile f.properties path

/-- Write images to a file, without looking at their number and shape beforehand. -/
def store [Coding] (f : FileFormat) (images : List Image) (path : Path) (o : Options) :
    m (Except Failure Unit) := do
  match f.fileBytes images path o with
  | .error e => return .error e
  | .ok bytes =>
    return (← FileAccess.write path bytes).mapError fun e => .write path.text (some e)

/-- Write images to a file if the format takes them. -/
def save [Coding] (f : FileFormat) (images : List Image) (path : Path) (o : Options) :
    m (Except Failure Unit) := do
  match f.capabilities.check images with
  | .error e => return .error (.unsupported e)
  | .ok () => f.store images path o

end FileFormat

end Raster
