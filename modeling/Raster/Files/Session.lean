import Raster.Files.FileTree
/-!
# Sessions

A session holds files in memory and keeps the lines that have been printed.  `InMemory` is the
monad of computations in a session.
-/

namespace Raster

/-- Files, and the lines printed so far. -/
structure Session where
  files : FileTree
  lines : List String

/-- A computation in a session. -/
abbrev InMemory := StateM Session

namespace Session

/-- Carry out an operation on the files. -/
def change (f : FileTree → FileTree × Except SystemError Unit) :
    InMemory (Except SystemError Unit) := fun s =>
  ((f s.files).2, { s with files := (f s.files).1 })

/-- Ask something about the files. -/
def ask {α : Type} (f : FileTree → α) : InMemory α := fun s => (f s.files, s)

end Session

instance : FileAccess InMemory where
  kind? p := Session.ask (·.kind? p)
  read p := Session.ask (·.read p)
  filesIn p deep := Session.ask (·.filesIn p deep)
  write p bytes := Session.change (·.write p bytes)
  createFolders p := Session.change (·.createFolders p)

instance : Console InMemory where
  printLine line := fun s => ((), { s with lines := s.lines ++ [line] })

end Raster
