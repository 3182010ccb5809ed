import Raster.CommandLine.Plan
import Raster.Format.Loading
import Raster.Format.Saving
import Raster.Number.Decimal
import Raster.Schema.SchemaText
/-!
# Runs

A run lists what the program knows, prints what files hold, or loads images, applies
algorithms to them, and saves the results.  In the last case everything is loaded, computed,
planned and looked up before the first file is written.
-/

namespace Raster.CommandLine

variable {m : Type → Type} [Monad m] [FileAccess m] [Console m]

/-- A part of a run: it may fail. -/
abbrev Part (m : Type → Type) := ExceptT RunFailure m

/-- Carry out an operation and report its failure. -/
def orReport {ε α : Type} (report : ε → RunFailure) (x : m (Except ε α)) : Part m α :=
  ExceptT.mk do return (← x).mapError report

/-- Print a line. -/
def say (line : String) : Part m Unit := ExceptT.lift (Console.printLine line)

/-! ## What the program knows -/

/-- Print the names of formats and algorithms. -/
def printNames : Part m Unit := do
  say "Supported formats:"
  FileFormat.all.forM fun f => say s!"\t{f.name}"
  say "Supported algorithms:"
  Algorithm.all.forM fun a => say s!"\t{a.name}"

/-- The names of pixel types in one line. -/
def typeLine (types : List PixelType) : String :=
  "SUPPORTED TYPES: " ++ " ".intercalate (types.map PixelType.name)

/-- Print the types and options of a format. -/
def printFormat (name : String) : Part m Unit := do
  let f ← orReport (.failed ∘ .unsupported) (return FileFormat.ofName name)
  say (typeLine f.types)
  say s!"LOADING OPTIONS:\n{f.loadingSchema.text}"
  say s!"SAVING OPTIONS:\n{f.savingSchema.text}"

/-- Print the types and options of an algorithm. -/
def printAlgorithm (name : String) : Part m Unit := do
  let a ← orReport (.failed ∘ .unsupported) (return Algorithm.ofName name)
  say (typeLine a.types)
  say s!"OPTIONS:\n{a.schema.text}"

/-! ## What files hold -/

/-- The size of a file in thousands of bytes, with one decimal place. -/
def sizeText (bytes : Nat) : String :=
  (Binary64.ofFloat (nearestDouble bytes / 1000.0)).textPlaces 1

/-- Print what a file holds. -/
def printFile [Coding] (matcher : Matcher) (o : Options) (path : Path) : Part m Unit := do
  let size ← match ← ExceptT.lift (FileAccess.kind? path) with
    | some (.file size) => pure size
    | some .folder => pure 0
    | none => throw (.system .notFound)
  let properties ← orReport (.notReadable path) (matcher.properties path o)
  say s!"{path.text}:"
  say s!"File size: {sizeText size} KB"
  say properties.text

/-- Print what a file holds, or the files in a folder. -/
def printInput [Coding] (matcher : Matcher) (s : Settings) (isFolder : Bool) (input : Path) :
    Part m Unit := do
  if isFolder then
    let paths ← orReport .system (FileAccess.filesIn input s.recurse)
    paths.forM (printFile matcher s.loadingOptions)
  else printFile matcher s.loadingOptions input

/-! ## Work on images -/

/-- Load the images of an input, in groups. -/
def loadGroups [Coding] (matcher : Matcher) (s : Settings) (isFolder : Bool) (input : Path) :
    Part m (List (List Labelled)) := do
  let groups ←
    if isFolder then
      orReport .failed (matcher.loadFolder input s.recurse none s.loadingOptions)
    else do
      return [← orReport .failed (matcher.loadImages input none none s.loadingOptions)]
  return if s.asOne then [mergeGroups groups] else groups

/-- Refuse files that exist. -/
def checkFree : List PlannedWrite → Part m Unit
  | [] => return
  | w :: writes => do
    if ← ExceptT.lift (FileAccess.exists? w.path) then throw (.alreadyExists w.path)
    checkFree writes

/-- Make the folder that a file lies in. -/
def createParent (path : Path) : Part m Unit :=
  match path.parent? with
  | some folder =>
    if folder.chars.isEmpty then return
    else orReport (.notCreated folder) (FileAccess.createFolders folder)
  | none => return

/-- Write a planned file, and make the folder that it lies in. -/
def writePlanned [Coding] (matcher : Matcher) (s : Settings) (w : PlannedWrite) : Part m Unit := do
  createParent w.path
  let _ ← orReport (.notSaved w.path) (matcher.saveImages w.images w.path s.format s.savingOptions)

/-- Load, compute and plan. -/
def plan [Coding] (transform : LineTransform) (matcher : Matcher) (s : Settings) (isFolder : Bool)
    (input output : Path) : Part m (List PlannedWrite) := do
  let groups ← loadGroups matcher s isFolder input
  orReport id (return planGroups transform matcher s isFolder output groups)

/-- Write the planned files. -/
def writeAll [Coding] (matcher : Matcher) (s : Settings) (writes : List PlannedWrite) :
    Part m Unit := do
  writes.forM (writePlanned matcher s)
  say s!"Wrote {writes.length} file(s)"

/-- Look up the planned files, and write them. -/
def carryOut [Coding] (matcher : Matcher) (s : Settings) (writes : List PlannedWrite) :
    Part m Unit := do
  if !s.allowOverride then checkFree writes
  writeAll matcher s writes

/-- Load, compute, plan, look up and write. -/
def convert [Coding] (transform : LineTransform) (matcher : Matcher) (s : Settings)
    (isFolder : Bool) (input output : Path) : Part m Unit := do
  let writes ← plan transform matcher s isFolder input output
  carryOut matcher s writes

/-- Do what the settings say with an input. -/
def process [Coding] [JsonLibrary] (transform : LineTransform) (matcher : Matcher)
    (a : Arguments) (input : Path) : Part m Unit := do
  if !(← ExceptT.lift (FileAccess.exists? input)) then throw (.noInput input)
  let s ← orReport id (Settings.load a)
  let isFolder ← ExceptT.lift (FileAccess.isFolder input)
  if !isFolder && (s.recurse || s.asOne) then throw .folderRequired
  if s.printInfo then printInput matcher s isFolder input
  else
    match a.output with
    | none => throw .outputRequired
    | some output =>
      if isFolder && s.format.isNone then throw .formatRequired
      convert transform matcher s isFolder input output

/-- Do what the arguments say. -/
def run [Coding] [JsonLibrary] (transform : LineTransform) (matcher : Matcher) (a : Arguments) :
    Part m Unit :=
  if a.has .list then printNames
  else
    match a.value? .helpFormat, a.value? .helpAlgorithm, a.input with
    | some name, _, _ => printFormat name
    | none, some name, _ => printAlgorithm name
    | none, none, some input => process transform matcher a input
    | none, none, none => throw .inputRequired

end Raster.CommandLine
