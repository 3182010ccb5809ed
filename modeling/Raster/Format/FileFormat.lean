import Raster.Algorithm.Capabilities
import Raster.Extension.Matcher
import Raster.Schema.Schema
/-!
# File formats

The two file formats, and for each of them its name, what images it stores, its options, and
the suffixes of its files.  Both store one image with two axes.
-/

namespace Raster

/-- A format of image files. -/
inductive FileFormat where
  | jpeg | png
deriving DecidableEq, Repr

namespace FileFormat

/-- Every file format, in the order of their names. -/
def all : List FileFormat := [jpeg, png]

/-- The name of a format. -/
def name : FileFormat → String
  | jpeg => "jpeg"
  | png => "png"

/-- The format of a given name, or a refusal. -/
def ofName (s : String) : Except Refusal FileFormat :=
  match all.find? fun f => f.name = s with
  | some f => .ok f
  | none => .error (.unknownFormat s)

/-- The pixel types that a format stores. -/
def types : FileFormat → List PixelType
  | jpeg => [.gray .eight, .rgb]
  | png => [.gray .eight, .grayAlpha, .gray .sixteen, .rgb, .rgba]

/-- The greatest width or height that a format stores. -/
def greatestExtent : FileFormat → Nat
  | jpeg => UInt16.size - 1
  | png => UInt32.size - 1

/-- Whether a shape has two axes, neither empty nor too long. -/
def takesShape (f : FileFormat) (s : Shape) : Bool :=
  s.length = 2 && s.all fun n => 0 < n && n ≤ f.greatestExtent

/-- What images a format stores. -/
def capabilities (f : FileFormat) : Capabilities :=
  ⟨f.name, f.types, (· == 1), f.takesShape, true⟩

/-- The options for loading. -/
def loadingSchema (_ : FileFormat) : Schema := .nil

/-- The options for saving. -/
def savingSchema : FileFormat → Schema
  | jpeg => .setting ⟨"quality", "Quality", .int 90 (some (1, 100)), none⟩ .nil
  | png =>
    .setting ⟨"compression", "Compression", .choice "default" ["default", "fast", "best"], none⟩
      .nil

/-- The suffixes of the files of a format. -/
def suffixes : FileFormat → List SuffixConfig
  | jpeg => [⟨"jpg", false⟩, ⟨"jpeg", false⟩, ⟨"jp[eg]|jfif?", true⟩]
  | png => [⟨"png", false⟩, ⟨"apng", false⟩]

/-- The extension that files of a format are written under. -/
def outputExtension : FileFormat → String
  | jpeg => "jpg"
  | png => "png"

end FileFormat

/-- The matcher that knows the suffixes of every file format. -/
def Matcher.standard : Matcher :=
  FileFormat.all.foldl (fun m f => (m.load f.name f.outputExtension f.suffixes).1) .empty

end Raster
