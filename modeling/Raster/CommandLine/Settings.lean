import Raster.CommandLine.Arguments
import Raster.CommandLine.Failure
import Raster.Files.Access
import Raster.Options.OptionsJson
import Raster.Text.Utf8
/-!
# Settings of a run

The settings come from a preset, a JSON file, and from the arguments, which count where both
say something.  A preset is an object, or a list of the settings in a fixed order; what it
does not say has a default, and members that it does not know are passed over.
-/

namespace Raster.CommandLine

/-- What a run is to do. -/
structure Settings where
  format : Option String := none
  algorithms : List String := []
  /-- The options of algorithms, under the names with which these are given. -/
  algorithmOptions : List (String × Options) := []
  loadingOptions : Options := .empty
  savingOptions : Options := .empty
  recurse : Bool := false
  asOne : Bool := false
  allowOverride : Bool := false
  printInfo : Bool := false

/-! ## Presets -/

/-- The option maps that the members of an object stand for, the last one of a key first. -/
def optionMaps? : Json → Option (List (String × Options))
  | .object members => do
    let maps ← members.mapM fun (key, j) => do return (key, ← Options.ofJson? j)
    return maps.reverse
  | _ => none

/-- A text. -/
def text? : Json → Option String
  | .text s => some s
  | _ => none

/-- A list of texts. -/
def texts? : Json → Option (List String)
  | .list items => items.mapM text?
  | _ => none

/-- A truth value. -/
def flag? : Json → Option Bool
  | .bool b => some b
  | _ => none

/-- The members of a preset, in the order in which a list gives them. -/
def presetKeys : List String :=
  ["format", "algorithms", "algo_options", "loading_options", "saving_options", "recurse",
    "as_one", "allow_override", "print_info"]

/-- Take one member of a preset into settings. -/
def Settings.set? (s : Settings) : String × Json → Option Settings
  | ("format", .null) => some { s with format := none }
  | ("format", j) => (text? j).map fun v => { s with format := some v }
  | ("algorithms", j) => (texts? j).map fun v => { s with algorithms := v }
  | ("algo_options", j) => (optionMaps? j).map fun v => { s with algorithmOptions := v }
  | ("loading_options", j) => (Options.ofJson? j).map fun v => { s with loadingOptions := v }
  | ("saving_options", j) => (Options.ofJson? j).map fun v => { s with savingOptions := v }
  | ("recurse", j) => (flag? j).map fun v => { s with recurse := v }
  | ("as_one", j) => (flag? j).map fun v => { s with asOne := v }
  | ("allow_override", j) => (flag? j).map fun v => { s with allowOverride := v }
  | ("print_info", j) => (flag? j).map fun v => { s with printInfo := v }
  | _ => some s

/-- The settings in a preset. -/
def Settings.ofJson? : Json → Option Settings
  | .object members =>
    let known := (members.map (·.1)).filter fun key => key ∈ presetKeys
    if known.eraseDups.length = known.length then members.foldlM Settings.set? {} else none
  | .list items =>
    if items.length ≤ presetKeys.length then
      (presetKeys.zip items).foldlM Settings.set? {}
    else none
  | _ => none

/-- The settings that the bytes of a preset hold. -/
def Settings.ofPreset [JsonLibrary] (path : Path) (bytes : List Byte) :
    Except RunFailure Settings :=
  match Text.ofUtf8? bytes with
  | none => .error (.presetUnreadable path .notText)
  | some s =>
    match (JsonLibrary.read? s).bind Settings.ofJson? with
    | some settings => .ok settings
    | none => .error (.presetInvalid path)

/-! ## Arguments -/

/-- Read the value of a key, if it is given. -/
def given? {α : Type} (a : Arguments) (key : ValuedKey) (read : String → Option α)
    (failure : RunFailure) : Except RunFailure (Option α) :=
  match a.value? key with
  | none => .ok none
  | some s =>
    match read s with
    | some v => .ok (some v)
    | none => .error failure

/-- Take the arguments into settings. -/
def Settings.merge [JsonLibrary] (s : Settings) (a : Arguments) : Except RunFailure Settings := do
  let maps (text : String) := (JsonLibrary.read? text).bind optionMaps?
  let options (text : String) := (JsonLibrary.read? text).bind Options.ofJson?
  let algorithmOptions ← given? a .algorithmOptions maps .algorithmOptionsInvalid
  let loadingOptions ← given? a .loadingOptions options .loadingOptionsInvalid
  let savingOptions ← given? a .savingOptions options .savingOptionsInvalid
  return {
    format := (a.value? .format).or s.format
    algorithms := if a.algorithms.isEmpty then s.algorithms else a.algorithms
    algorithmOptions := algorithmOptions.getD s.algorithmOptions
    loadingOptions := loadingOptions.getD s.loadingOptions
    savingOptions := savingOptions.getD s.savingOptions
    recurse := s.recurse || a.has .recurse
    asOne := s.asOne || a.has .asOne
    allowOverride := s.allowOverride || a.has .allowOverride
    printInfo := s.printInfo || a.has .printInfo }

/-- The settings of a run with some arguments. -/
def Settings.load {m : Type → Type} [Monad m] [FileAccess m] [JsonLibrary] (a : Arguments) :
    m (Except RunFailure Settings) := do
  match a.value? .preset with
  | none => return Settings.merge {} a
  | some name =>
    let path := Path.ofString name
    match ← FileAccess.read path with
    | .error e => return .error (.presetUnreadable path (.system e))
    | .ok bytes => return (Settings.ofPreset path bytes).bind fun s => s.merge a

end Raster.CommandLine
