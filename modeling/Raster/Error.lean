import Raster.Options.OptionValue
import Raster.Pixel.PixelType
import Raster.Text.Quoted
/-!
# Refusals, faults and failures

A `Refusal` is a request that the library understands and does not carry out: a name nobody
registered, an image that an algorithm does not take, a setting out of range.  A `Fault` is
misuse by the programmer, such as a coordinate outside the array.  A `Failure` is either of
these, a document that cannot be read, or trouble with a file.  Each cause is a constructor;
the wording of all of them stands in `Refusal.text`, `Fault.message?` and `Failure.message?`.
-/

namespace Raster

/-! ## Faults -/

/-- Misuse of an array by the programmer. -/
inductive Fault where
  /-- The cells do not fill the shape. -/
  | cellCount (count : Nat) (shape : List Nat)
  /-- The coordinate has another number of axes than the array. -/
  | coordinateRank (given rank : Nat)
  /-- A component of the coordinate lies outside its axis. -/
  | coordinateRange (component axis extent : Nat)
  /-- The array has no such axis. -/
  | noSuchAxis (axis rank : Nat)
  /-- The line has no such element. -/
  | lineIndex (index length : Nat)
  /-- The new elements of a line are more or fewer than the old ones. -/
  | lineLength
  /-- The array holds pixels of another type. -/
  | view (actual requested : PixelType)
  /-- The extension for a path contains a slash. -/
  | extensionSlash
  /-- Anything else that lies outside a buffer, or does not fit into memory. -/
  | outOfBounds
deriving DecidableEq, Repr

/-- The wording of a fault, where it has one of its own. -/
def Fault.message? : Fault → Option String
  | cellCount count shape =>
    some s!"buffer of {count} elements does not match shape {Text.natList shape}"
  | coordinateRank given rank =>
    some s!"coordinate rank {given} does not match array rank {rank}"
  | coordinateRange component axis extent =>
    some s!"coordinate {component} out of range on axis {axis} (extent {extent})"
  | noSuchAxis axis rank => some s!"axis {axis} out of range for rank {rank}"
  | lineIndex index length => some s!"row index {index} out of range (len {length})"
  | lineLength => some "row length mismatch"
  | view actual requested => some s!"cannot view {actual.name} array as {requested.name}"
  | extensionSlash | outOfBounds => none

/-! ## Refusals -/

/-- A setting that takes one of a few words. -/
inductive Choice where
  | boundary | blurFilter | direction | antiAliasing | interpolation | function | compression
deriving DecidableEq, Repr

/-- The words for such a setting in messages. -/
def Choice.name : Choice → String
  | boundary => "boundary condition"
  | blurFilter => "blur filter"
  | direction => "FFT direction"
  | antiAliasing => "anti-aliasing"
  | interpolation => "interpolation"
  | function => "function"
  | compression => "PNG compression"

/-- What is wrong with the value of an option that the schema declares. -/
inductive ValueFault where
  | outside (value low high : OptionValue)
  | lengthOutside (length low high : Nat)
  | notAmong (value : String) (choices : List String)
  | unexpectedKind (kind : ValueKind)

/-- The wording after the name of the option. -/
def ValueFault.text : ValueFault → String
  | outside value low high =>
    s!"{value.display} outside [{low.display}, {high.display}]"
  | lengthOutside length low high => s!"length {length} outside [{low}, {high}]"
  | notAmong value choices =>
    s!"'{value}' is not one of {Text.bracketed (choices.map Text.quoted)}"
  | unexpectedKind kind => s!"unexpected {kind.name} value"

/-- A request that is understood and not carried out. -/
inductive Refusal where
  | unknownPixelType (name : String)
  | unknownAlgorithm (name : String)
  | unknownFormat (name : String)
  /-- The number of images is not one that `name` takes. -/
  | imageCount (name : String) (count : Nat)
  | imageShape (name : String) (shape : List Nat)
  | differentShapes (name : String)
  | noImages
  | mixedTypes (expected actual : PixelType)
  /-- The algorithm does not work on this type. -/
  | unsupportedType (name : String) (type : PixelType)
  /-- The file format cannot hold this type. -/
  | unstorableType (name : String) (type : PixelType)
  | notOneImage (count : Nat)
  | missingOption (key : String)
  | optionKind (key : String) (expected actual : ValueKind)
  | notAByte (key : String)
  | unknownOption (key : String)
  | badOption (key : String) (fault : ValueFault)
  /-- A subsection that encloses the option is switched off. -/
  | optionDisabled (key gate : String)
  | optionsOfAlgorithm (name : String) (cause : Refusal)
  | optionsOfFormat (name : String) (cause : Refusal)
  | blurAxis (axis : Int) (rank : Nat)
  | unknownChoice (choice : Choice) (word : String)
  | scaleFactor (factor : Float)
  | resolutionEntry (entry : String)
  | resolutionCount (text : String) (count rank : Nat)
  | resolutionZeros (text : String)
  | extensionNotAscii (path : String)
  | suffixPattern (suffix : String)
  | noFormatForPath (path : String)
  /-- No format takes these images under a file of this name. -/
  | noFormatForImages (path : String)
  | noImageInFile (path : String)
  | imageCountInFile (path : String) (count : Nat)
  /-- The file format stores exactly one image. -/
  | storesOneImage (format : String)
  | notPlanar (shape : List Nat)
  | tooWide
  | tooTall
  | quality (value : Int)
  /-- No way leads from one pixel type to another. -/
  | noConversion (source target : PixelType)
  /-- Eight-bit gray is not the hub for this type. -/
  | noExpansion (target : PixelType)

/-- The wording of a refusal, without the word that marks it as one. -/
def Refusal.text : Refusal → String
  | unknownPixelType name => s!"unknown pixel type '{name}'"
  | unknownAlgorithm name => s!"unknown algorithm '{name}'"
  | unknownFormat name => s!"unknown format '{name}'"
  | imageCount name count => s!"{name} does not accept {count} image(s)"
  | imageShape name shape => s!"{name} does not accept dimensions {Text.natList shape}"
  | differentShapes name => s!"{name} requires all images to share dimensions"
  | noImages => "no input images"
  | mixedTypes expected actual =>
    s!"mixed pixel types in one call: expected {expected.name}, got {actual.name}"
  | unsupportedType name type => s!"{name} does not support {type.name}"
  | unstorableType name type => s!"{name} cannot store {type.name}"
  | notOneImage count => s!"expected exactly one image, got {count}"
  | missingOption key => s!"missing option '{key}'"
  | optionKind key expected actual =>
    s!"option '{key}' should be {expected.name}, got {actual.name}"
  | notAByte key => s!"option '{key}' must be in 0..=255"
  | unknownOption key => s!"unknown option '{key}'"
  | badOption key fault => s!"option '{key}': {fault.text}"
  | optionDisabled key gate => s!"option '{key}' requires '{gate}' to be enabled"
  | optionsOfAlgorithm name cause =>
    s!"options rejected by '{name}': unsupported: {cause.text}"
  | optionsOfFormat name cause =>
    s!"options rejected by format '{name}': unsupported: {cause.text}"
  | blurAxis axis rank => s!"dim_idx {axis} out of range for rank {rank}"
  | unknownChoice choice word => s!"unknown {choice.name} '{word}'"
  | scaleFactor factor => s!"invalid scale factor {doubleText factor}"
  | resolutionEntry entry => s!"invalid resolution entry '{entry}'"
  | resolutionCount text count rank =>
    s!"resolution '{text}' has {count} entries for a rank {rank} image"
  | resolutionZeros text =>
    s!"resolution '{text}' needs exactly one non-zero entry to keep the aspect ratio"
  | extensionNotAscii path => s!"extension of '{path}' must consist of ASCII characters"
  | suffixPattern suffix => s!"invalid extension pattern '{suffix}'"
  | noFormatForPath path => s!"no format matches '{path}'"
  | noFormatForImages path =>
    s!"no supported format found for the given images and '{path}'"
  | noImageInFile path => s!"'{path}' contains no supported image"
  | imageCountInFile path count => s!"'{path}' contains {count} images, expected 1"
  | storesOneImage format => s!"{format} stores exactly one image"
  | notPlanar shape => s!"expected a 2-D image, got {Text.natList shape}"
  | tooWide => "image too wide"
  | tooTall => "image too tall"
  | quality value => s!"JPEG quality {value} outside 1..=100"
  | noConversion source target => s!"no conversion from {source.name} to {target.name}"
  | noExpansion target => s!"GRAY8 does not expand to {target.name}"

/-! ## Failures -/

/-- Trouble that the operating system reports. -/
inductive SystemError where
  | notFound | notADirectory | isADirectory | alreadyExists
  | other (code : Nat) (text : String)
deriving DecidableEq, Repr

/-- The number of the trouble. -/
def SystemError.code : SystemError → Nat
  | notFound => 2
  | alreadyExists => 17
  | notADirectory => 20
  | isADirectory => 21
  | other code _ => code

/-- The wording of the trouble, with its number. -/
def SystemError.text (e : SystemError) : String :=
  let words := match e with
    | notFound => "No such file or directory"
    | alreadyExists => "File exists"
    | notADirectory => "Not a directory"
    | isADirectory => "Is a directory"
    | other _ text => text
  s!"{words} (os error {e.code})"

/-- A JSON document that is refused. -/
inductive Document where
  | options | schema
deriving DecidableEq, Repr

/-- The name of such a document. -/
def Document.name : Document → String
  | options => "options"
  | schema => "schema"

/-- Why an operation did not return a result. -/
inductive Failure where
  | unsupported (cause : Refusal)
  | config (document : Document)
  /-- The file cannot be read; without a cause its content breaks off. -/
  | read (path : String) (cause : Option SystemError)
  | write (path : String) (cause : Option SystemError)
  /-- The pixels cannot be encoded into the file. -/
  | encode (path : String)
  | system (cause : SystemError)
  | fault (cause : Fault)

/-- The wording of a failure, where the library decides all of it. -/
def Failure.message? : Failure → Option String
  | unsupported cause => some s!"unsupported: {cause.text}"
  | config document => some s!"invalid configuration {document.name}"
  | read path cause => cause.map fun c => s!"failed to read {path}: {c.text}"
  | write path cause => cause.map fun c => s!"failed to write {path}: {c.text}"
  | encode _ => none
  | system cause => some s!"I/O error: {cause.text}"
  | fault cause => cause.message?

/-- Stop with a refusal. -/
def refuse {α : Type} (cause : Refusal) : Except Failure α := .error (.unsupported cause)

/-- Carry a refusal over to where any failure may occur. -/
def orRefuse {α : Type} (r : Except Refusal α) : Except Failure α := r.mapError .unsupported

/-- Carry a fault over to where any failure may occur. -/
def orFault {α : Type} (r : Except Fault α) : Except Failure α := r.mapError .fault

end Raster
