import Raster.CommandLine.Run
import Raster.Version
/-!
# The program

The command line on the files of the system.
-/

namespace Raster

/-! ## Access to the system -/

/-- The trouble that a failed call reports. -/
def SystemError.ofCall : IO.Error → SystemError
  | .noFileOrDirectory _ _ _ => .notFound
  | .alreadyExists _ _ _ => .alreadyExists
  | .inappropriateType _ code details =>
    if code = 20 then .notADirectory
    else if code = 21 then .isADirectory
    else .other code.toNat details
  | .permissionDenied _ code details => .other code.toNat details
  | .resourceExhausted _ code details => .other code.toNat details
  | .noSuchThing _ code details => .other code.toNat details
  | .resourceVanished code details => .other code.toNat details
  | .otherError code details => .other code.toNat details
  | e => .other 0 (toString e)

/-- Carry out calls and report their trouble. -/
def attempt {α : Type} (call : IO α) : IO (Except SystemError α) := do
  match ← call.toBaseIO with
  | .ok a => return .ok a
  | .error e => return .error (.ofCall e)

/-- Where a path leads to, from the current folder. -/
def Path.onSystem (p : Path) := (fun here => here / p.text) <$> IO.currentDir

/-- The files in a folder, in the order of their names. -/
partial def systemFiles (p : Path) (deep : Bool) : IO (List Path) := do
  let found ← (← p.onSystem).readDir
  let names := (found.toList.map fun e => e.fileName).mergeSort fun a b => !(b < a)
  let parts ← names.mapM fun name => do
    let file := p.join (.ofString name)
    if ← (← file.onSystem).isDir then
      if deep then systemFiles file deep else return []
    else return [file]
  return parts.flatten

instance : FileAccess IO where
  kind? p := do
    let place ← p.onSystem
    if ← place.isDir then return some .folder
    else if ← place.pathExists then return some (.file (← place.metadata).byteSize.toNat)
    else return none
  read p := attempt do
    let bytes ← IO.FS.readBinFile p.text
    return bytes.data.toList.map fun b => BitVec.ofNat 8 b.toNat
  filesIn p deep := attempt (systemFiles p deep)
  write p bytes := attempt do
    IO.FS.writeBinFile p.text ⟨(bytes.map fun b => UInt8.ofNat b.toNat).toArray⟩
  createFolders p := attempt (IO.FS.createDirAll p.text)

instance : Console IO where
  printLine line := IO.println line

/-! ## The command -/

/-- How the program is called. -/
def usage : String :=
  "Usage: raster [OPTIONS] [INPUT] [OUTPUT]\n\n" ++
  "Options:\n" ++
  "  -f, --format NAME           Output format\n" ++
  "  -a, --algorithm NAME        Algorithm to apply; repeat to chain\n" ++
  "      --algo-options JSON     Options of algorithms, by their names\n" ++
  "      --loading-options JSON  Options for loading\n" ++
  "      --saving-options JSON   Options for saving\n" ++
  "      --preset FILE           Settings from a file\n" ++
  "  -r, --recurse               Go into subdirectories\n" ++
  "      --as-one                Treat the images of a directory as one input\n" ++
  "      --print-info            Only print information about the input\n" ++
  "      --allow-override        Replace existing files\n" ++
  "      --help-format NAME      Show the types and options of a format\n" ++
  "      --help-algo NAME        Show the types and options of an algorithm\n" ++
  "      --list                  List formats and algorithms\n" ++
  "  -v, --verbose               Print more\n" ++
  "  -h, --help                  Print this text\n" ++
  "  -V, --version               Print the version"

/-- Run the program. -/
def program (args : List String) : IO UInt32 := do
  match CommandLine.Arguments.parse args with
  | .error .help =>
    IO.println usage
    return 0
  | .error .version =>
    IO.println s!"raster {version}"
    return 0
  | .error .misuse =>
    IO.eprintln usage
    return 2
  | .ok arguments =>
    let work : CommandLine.Part IO Unit :=
      CommandLine.run LineTransform.direct Matcher.standard arguments
    match ← work.run with
    | .ok () => return 0
    | .error failure =>
      IO.eprintln failure.text
      return 1

end Raster

/-- Run the program. -/
def main (args : List String) : IO UInt32 := Raster.program args
