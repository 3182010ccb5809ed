import Raster.Format.Files
import Raster.Format.Resolve
/-!
# Saving

The format and the path are chosen first; then the options are checked against the schema of
the format, and the defaults are added.
-/

namespace Raster

variable {m : Type → Type} [Monad m] [FileAccess m]

/-- The options for saving in a format, with the defaults. -/
def FileFormat.savingOptions (f : FileFormat) (o : Options) : Except Refusal Options :=
  match f.savingSchema.validate o with
  | .ok () => .ok (f.savingSchema.finalize o)
  | .error cause => .error (.optionsOfFormat f.name cause)

/-- Save images, and return the path that has been written. -/
def Matcher.saveImages [Coding] (matcher : Matcher) (images : List Image) (path : Path)
    (format : Option String) (o : Options) : m (Except Failure Path) := do
  match matcher.resolve images path format with
  | .error e => return .error (.unsupported e)
  | .ok destination =>
    match destination.format.savingOptions o with
    | .error e => return .error (.unsupported e)
    | .ok o =>
      return (← destination.format.save images destination.path o).map fun () => destination.path

end Raster
