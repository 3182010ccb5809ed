import Raster.Format.FileFormat
/-!
# Choosing a format and a path for saving

Either a format is named, or those that match the extension of the path are tried in turn; the
first one that stores the images is taken, and the path gets its extension.
-/

namespace Raster

/-- Where images are saved, and in which format. -/
structure Destination where
  format : FileFormat
  path : Path

/-- The first of some formats that stores the images. -/
def firstAccepting (images : List Image) : List String → Except Refusal (Option FileFormat)
  | [] => .ok none
  | name :: names => do
    let f ← FileFormat.ofName name
    if f.capabilities.accepts images then return some f else firstAccepting images names

/-- The name of the file in messages. -/
def Path.nameText (p : Path) : String := String.ofList (p.fileName?.getD p.chars)

/-- The formats that come into question: the named one, or those that match the extension. -/
def Matcher.candidates (m : Matcher) (path : Path) : Option String → Except Refusal (List String)
  | some name => .ok [name]
  | none => m.find path

/-- The format in which images are saved, and the path with its extension. -/
def Matcher.resolve (m : Matcher) (images : List Image) (path : Path) (format : Option String) :
    Except Refusal Destination := do
  let candidates ← m.candidates path format
  match ← firstAccepting images candidates with
  | some f => return ⟨f, m.withOutput f.name path⟩
  | none => throw (.noFormatForImages path.nameText)

end Raster
