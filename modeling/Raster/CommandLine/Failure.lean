import Raster.Error
import Raster.Path
/-!
# Why a run fails

A failure of the library is reported with what was being done when it occurred.  Where
something outside has its own wording for a cause, it follows the message.
-/

namespace Raster

/-- The wording of a failure, followed by that of its own cause. -/
def Failure.chain : Failure → String
  | .read path (some cause) => s!"failed to read {path}: {cause.text}: {cause.text}"
  | .read path none => s!"failed to read {path}"
  | .write path (some cause) => s!"failed to write {path}: {cause.text}: {cause.text}"
  | .write path none => s!"failed to write {path}"
  | .encode path => s!"failed to encode {path}"
  | .system cause => s!"I/O error: {cause.text}: {cause.text}"
  | failure => failure.message?.getD ""

namespace CommandLine

/-- Why a preset cannot be read. -/
inductive PresetTrouble where
  | system (cause : SystemError)
  /-- The bytes are not text. -/
  | notText

/-- The wording. -/
def PresetTrouble.text : PresetTrouble → String
  | system cause => cause.text
  | notText => "stream did not contain valid UTF-8"

/-- Why a run fails. -/
inductive RunFailure where
  | inputRequired
  | noInput (path : Path)
  /-- Settings for folders are given, and the input is none. -/
  | folderRequired
  | outputRequired
  | formatRequired
  | alreadyExists (path : Path)
  | presetUnreadable (path : Path) (cause : PresetTrouble)
  | presetInvalid (path : Path)
  | algorithmOptionsInvalid
  | loadingOptionsInvalid
  | savingOptionsInvalid
  | failed (cause : Failure)
  | algorithmFailed (name : String) (cause : Failure)
  /-- No format stores an image under its label. -/
  | notStorable (label : Path) (cause : Failure)
  | notSaved (path : Path) (cause : Failure)
  | notCreated (folder : Path) (cause : SystemError)
  | notReadable (path : Path) (cause : Failure)
  | system (cause : SystemError)

/-- The wording of a failure. -/
def RunFailure.text : RunFailure → String
  | inputRequired => "Input path is required"
  | noInput path => s!"Input path does not exist: {path.text}"
  | folderRequired => "--recurse and --as-one require INPUT to be a directory"
  | outputRequired => "Output path is required"
  | formatRequired => "--format is required when INPUT is a directory"
  | alreadyExists path => s!"{path.text} already exists, use --allow-override to replace it"
  | presetUnreadable path cause => s!"Failed to read preset {path.text}: {cause.text}"
  | presetInvalid path => s!"{path.text} is not a valid preset"
  | algorithmOptionsInvalid => "--algo-options is not a JSON object of option maps"
  | loadingOptionsInvalid => "Invalid --loading-options"
  | savingOptionsInvalid => "Invalid --saving-options"
  | failed cause => cause.chain
  | algorithmFailed name cause => s!"Algorithm '{name}' failed: {cause.chain}"
  | notStorable label cause => s!"No way to save {label.text}: {cause.chain}"
  | notSaved path cause => s!"Failed to save {path.text}: {cause.chain}"
  | notCreated folder cause => s!"Failed to create {folder.text}: {cause.text}"
  | notReadable path cause => s!"Cannot read {path.text}: {cause.chain}"
  | system cause => cause.text

end CommandLine

end Raster
