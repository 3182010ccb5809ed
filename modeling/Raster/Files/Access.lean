import Raster.Error
import Raster.Path
import Raster.Pixel.Pixel
/-!
# Access to files

What the library needs of files and folders, for any monad that provides it: the system that
the program runs on, or a tree of files that is held in memory.
-/

namespace Raster

/-- What a path leads to. -/
inductive EntryKind where
  /-- A file of some number of bytes. -/
  | file (size : Nat)
  | folder
deriving DecidableEq

/-- Reading and writing of files. -/
class FileAccess (m : Type → Type) where
  /-- What a path leads to, if anything. -/
  kind? : Path → m (Option EntryKind)
  /-- The bytes of a file. -/
  read : Path → m (Except SystemError (List Byte))
  /-- The files in a folder, in the order of their names; if `deep`, also those in the folders
  in it, where a folder has its place among the names. -/
  filesIn : Path → (deep : Bool) → m (Except SystemError (List Path))
  /-- Write a file, in place of what it held before. -/
  write : Path → List Byte → m (Except SystemError Unit)
  /-- Make a folder, and the folders that it lies in. -/
  createFolders : Path → m (Except SystemError Unit)

/-- Printing of lines. -/
class Console (m : Type → Type) where
  printLine : String → m Unit

namespace FileAccess

variable {m : Type → Type} [Monad m] [FileAccess m]

/-- Whether a path leads anywhere. -/
def exists? (p : Path) : m Bool := return (← kind? p).isSome

/-- Whether a path leads to a folder. -/
def isFolder (p : Path) : m Bool := return (← kind? p) == some .folder

end FileAccess

end Raster
