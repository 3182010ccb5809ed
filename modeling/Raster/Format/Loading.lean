import Raster.Format.Files
import Raster.Labelled
/-!
# Loading

A file is tried in one format after the other, those that match its extension first.  The
images in it are labelled by the stem of the file, below the folder that it lies in.
-/

namespace Raster

variable {m : Type → Type} [Monad m] [FileAccess m]

/-- The label of the image in a file, as seen from a folder. -/
def Path.loadingLabel (path : Path) (base : Option Path) : Path :=
  let folder := (base.bind fun b => path.parent?.bind fun p => p.stripPrefix? b).getD .empty
  folder.join ⟨path.stem?.getD []⟩

/-- Ask formats in turn until one gives an answer; those that do not know the options are
passed over. -/
def firstAnswer {α : Type} (ask : FileFormat → m (Except Failure (Option α))) (o : Options) :
    List String → m (Except Failure (Option α))
  | [] => return .ok none
  | name :: names =>
    match FileFormat.ofName name with
    | .error e => return .error (.unsupported e)
    | .ok f =>
      if f.loadingSchema.isValid o then do
        match ← ask f with
        | .ok none => firstAnswer ask o names
        | answer => return answer
      else firstAnswer ask o names

/-- The formats in which a file is tried: the named one, or all. -/
def Matcher.loadingOrder (matcher : Matcher) (path : Path) :
    Option String → Except Refusal (List String)
  | some name => .ok [name]
  | none => matcher.sorted path

/-- Ask the formats in which a file is tried, and fail if none has an answer. -/
def Matcher.askFormats {α : Type} (matcher : Matcher) (path : Path) (format : Option String)
    (o : Options) (ask : FileFormat → m (Except Failure (Option α))) :
    m (Except Failure α) := do
  match matcher.loadingOrder path format with
  | .error e => return .error (.unsupported e)
  | .ok names =>
    match ← firstAnswer ask o names with
    | .ok (some a) => return .ok a
    | .ok none => return .error (.unsupported (.noImageInFile path.text))
    | .error e => return .error e

namespace Matcher

/-- Load the images in a file. -/
def loadImages [Coding] (matcher : Matcher) (path : Path) (base : Option Path)
    (format : Option String) (o : Options) : m (Except Failure (List Labelled)) := do
  let image ← matcher.askFormats path format o fun f => f.load path
  return image.map fun image => [⟨path.loadingLabel base, image⟩]

/-- Load the image in a file that holds exactly one. -/
def loadOne [Coding] (matcher : Matcher) (path : Path) (base : Option Path) (format : Option String)
    (o : Options) : m (Except Failure Labelled) := do
  match ← matcher.loadImages path base format o with
  | .ok [image] => return .ok image
  | .ok images => return .error (.unsupported (.imageCountInFile path.text images.length))
  | .error e => return .error e

/-- Load the images in some files; files without a supported image are passed over. -/
def loadFiles [Coding] (matcher : Matcher) (base : Path) (format : Option String) (o : Options) :
    List Path → m (Except Failure (List (List Labelled)))
  | [] => return .ok []
  | path :: paths => do
    match ← matcher.loadImages path (some base) format o with
    | .error (.unsupported _) => matcher.loadFiles base format o paths
    | .error e => return .error e
    | .ok images =>
      return (← matcher.loadFiles base format o paths).map (images :: ·)

/-- Load the images in a folder, file by file; if `deep`, also those in the folders in it. -/
def loadFolder [Coding] (matcher : Matcher) (folder : Path) (deep : Bool) (format : Option String)
    (o : Options) : m (Except Failure (List (List Labelled))) := do
  match ← FileAccess.filesIn folder deep with
  | .ok paths => matcher.loadFiles folder format o paths
  | .error e => return .error (.read folder.text (some e))

/-- The properties of the image in a file. -/
def properties [Coding] (matcher : Matcher) (path : Path) (o : Options) :
    m (Except Failure ImageProperties) :=
  matcher.askFormats path none o fun f => f.information path

end Matcher

end Raster
