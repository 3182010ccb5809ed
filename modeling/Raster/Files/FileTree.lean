import Raster.Files.Access
import Raster.Text.Split
/-!
# Trees of files

A tree of files in memory gives some locations a file or a folder.  A location is the list of
names that lead to it.  A path is followed name by name through folders; one dot stays, two
dots go back.
-/

namespace Raster

/-- The names that lead from the root to a file or folder. -/
abbrev Location := List (List Char)

/-- A file or a folder. -/
inductive Entry where
  | file (bytes : List Byte)
  | folder
deriving DecidableEq

/-- What an entry is. -/
def Entry.kind : Entry → EntryKind
  | file bytes => .file bytes.length
  | folder => .folder

/-- Files and folders in memory. -/
structure FileTree where
  entries : List (Location × Entry)

namespace Path

/-- The names and dots of a path. -/
def steps (p : Path) : List (List Char) :=
  (Text.splitChars '/' p.chars).filter fun part => !part.isEmpty

/-- Whether a path is written as that of a folder. -/
def endsInSlash (p : Path) : Bool := p.chars.getLast? = some '/'

/-- The location at which a path begins; that of an absolute path has a name of its own. -/
def start (p : Path) : Location := if p.isAbsolute then [['/']] else []

end Path

namespace FileTree

/-- The tree without files. -/
def empty : FileTree := ⟨[]⟩

/-- What a list has at a location. -/
def find? (l : Location) : List (Location × Entry) → Option Entry
  | [] => none
  | (k, v) :: rest => if k = l then some v else find? l rest

/-- What is at a location. -/
def entry? (t : FileTree) (l : Location) : Option Entry :=
  if l = [] ∨ l = [['/']] then some .folder else find? l t.entries

/-- The content of the file at a location. -/
def file? (t : FileTree) (l : Location) : Option (List Byte) :=
  match t.entry? l with
  | some (.file bytes) => some bytes
  | _ => none

/-- Put something at a location in a list. -/
def putEntry (l : Location) (n : Entry) : List (Location × Entry) → List (Location × Entry)
  | [] => [(l, n)]
  | (k, v) :: rest => if k = l then (l, n) :: rest else (k, v) :: putEntry l n rest

/-- Put something at a location. -/
def put (t : FileTree) (l : Location) (n : Entry) : FileTree := ⟨putEntry l n t.entries⟩

theorem find?_putEntry (l k : Location) (n : Entry) (entries : List (Location × Entry)) :
    find? k (putEntry l n entries) = if l = k then some n else find? k entries := by
  induction entries with
  | nil => simp [putEntry, find?]
  | cons e entries ih =>
    obtain ⟨k', v⟩ := e
    by_cases h : k' = l
    · subst h
      by_cases hk : k' = k <;> simp [putEntry, find?, hk]
    · by_cases hk : k' = k
      · subst hk
        simp [putEntry, find?, h, Ne.symm h]
      · simp [putEntry, find?, h, hk, ih]

/-! ## Following paths -/

/-- Where a step of a path leads. -/
def next (l : Location) (step : List Char) : Location :=
  if step = ['.'] then l else if step = ['.', '.'] then l.dropLast else l ++ [step]

/-- Follow steps, each of which must start in a folder. -/
def follow (t : FileTree) : Location → List (List Char) → Except SystemError Location
  | l, [] => .ok l
  | l, step :: steps =>
    match t.entry? l with
    | some .folder => follow t (next l step) steps
    | some (.file _) => .error .notADirectory
    | none => .error .notFound

/-- The location that a path leads to; nothing need be there. -/
def locate (t : FileTree) (p : Path) : Except SystemError Location :=
  if p.chars.isEmpty then .error .notFound else t.follow p.start p.steps

/-- What a path leads to.  A path that is written as that of a folder leads to no file. -/
def get (t : FileTree) (p : Path) : Except SystemError (Location × Entry) := do
  let l ← t.locate p
  match t.entry? l with
  | some (.file bytes) =>
    if p.endsInSlash then throw .notADirectory else return (l, .file bytes)
  | some .folder => return (l, .folder)
  | none => throw .notFound

/-! ## Access -/

/-- What a path leads to, if anything. -/
def kind? (t : FileTree) (p : Path) : Option EntryKind :=
  match t.get p with
  | .ok (_, n) => some n.kind
  | .error _ => none

/-- The bytes of a file. -/
def read (t : FileTree) (p : Path) : Except SystemError (List Byte) := do
  match ← t.get p with
  | (_, .file bytes) => return bytes
  | (_, .folder) => throw .isADirectory

/-- The names that lead from one location to a file below it. -/
def below? (l : Location) : Location × Entry → Option Location
  | (k, .file _) =>
    if l.length < k.length ∧ k.take l.length = l then some (k.drop l.length) else none
  | (_, .folder) => none

/-- The files in a folder. -/
def filesIn (t : FileTree) (p : Path) (deep : Bool) : Except SystemError (List Path) := do
  match ← t.get p with
  | (l, .folder) =>
    let found := (t.entries.filterMap (below? l)).filter fun k => deep || k.length = 1
    let ordered := found.mergeSort fun a b => (compare a b).isLE
    return ordered.map fun k => k.foldl (fun p name => p.join ⟨name⟩) p
  | (_, .file _) => throw .notADirectory

/-- The location at which a path can be written: a file, or nothing. -/
def writable (t : FileTree) (p : Path) : Except SystemError Location := do
  let l ← t.locate p
  match t.entry? l with
  | some .folder => throw .isADirectory
  | some (.file _) => if p.endsInSlash then throw .notADirectory else return l
  | none => if p.endsInSlash then throw .isADirectory else return l

/-- Write a file. -/
def write (t : FileTree) (p : Path) (bytes : List Byte) : FileTree × Except SystemError Unit :=
  match t.writable p with
  | .ok l => (t.put l (.file bytes), .ok ())
  | .error e => (t, .error e)

/-- Make the folders that steps lead through.  Where that fails, those made before stay. -/
def makeFolders : FileTree → Location → List (List Char) → FileTree × Except SystemError Unit
  | t, _, [] => (t, .ok ())
  | t, l, step :: steps =>
    let l := next l step
    match t.entry? l with
    | some .folder => makeFolders t l steps
    | some (.file _) => (t, .error (if steps.isEmpty then .alreadyExists else .notADirectory))
    | none => makeFolders (t.put l .folder) l steps

/-- Make a folder, and the folders that it lies in. -/
def createFolders (t : FileTree) (p : Path) : FileTree × Except SystemError Unit :=
  t.makeFolders p.start p.steps

end FileTree

end Raster
