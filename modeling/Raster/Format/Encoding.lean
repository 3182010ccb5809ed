import Raster.Format.FileFormat
import Raster.Jpeg.Encode
import Raster.Png.Encode
/-!
# Pictures as bytes of a file

What is to be stored is checked once more, in this order: the type of the first image, the
types of the others, their number, the axes, and the options.
-/

namespace Raster

/-- How much time may be spent on making a file small. -/
inductive Compression where
  | default | fast | best
deriving DecidableEq, Repr

/-- The setting that a word stands for. -/
def Compression.ofWord : String → Except Refusal Compression
  | "default" => .ok .default
  | "fast" => .ok .fast
  | "best" => .ok .best
  | word => .error (.unknownChoice .compression word)

/-- A file format with its settings. -/
inductive Encoding where
  | jpeg (quality : Nat)
  | png (compression : Compression)

namespace FileFormat

/-- The abbreviation of a format. -/
def abbreviation : FileFormat → String
  | jpeg => "JPEG"
  | png => "PNG"

/-- Read the settings of a format; an option that is not given has its default. -/
def encoding (f : FileFormat) (o : Options) : Except Refusal Encoding :=
  match f with
  | jpeg =>
    if o.contains "quality" then do
      let quality ← o.int "quality"
      if 1 ≤ quality ∧ quality ≤ 100 then return .jpeg quality.toNat
      else throw (.quality quality)
    else return .jpeg 90
  | png =>
    if o.contains "compression" then do
      return .png (← Compression.ofWord (← o.text "compression"))
    else return .png .default

end FileFormat

/-- The bytes of a file with a picture.  An empty picture cannot be stored, nor one that is
too long.  A file is the same for every compression: its data are not compressed. -/
def Encoding.bytes? (e : Encoding) (p : Picture) : Option (List Byte) :=
  if p.width = 0 ∨ p.height = 0 then none
  else match e with
    | .jpeg quality =>
      if p.width ≤ FileFormat.jpeg.greatestExtent ∧ p.height ≤ FileFormat.jpeg.greatestExtent then
        some (Jpeg.encode quality p)
      else none
    | .png _ => some (Png.encode p)

/-- Refuse a shape that does not have two axes of at most 32 bits. -/
def checkPlanar : Shape → Except Refusal Unit
  | [w, h] =>
    if UInt32.size ≤ w then .error .tooWide
    else if UInt32.size ≤ h then .error .tooTall
    else .ok ()
  | s => .error (.notPlanar s)

namespace FileFormat

/-- The one image that is to be stored. -/
def onlyImage (f : FileFormat) (images : List Image) : Except Refusal Image := do
  let type ← leadingType images
  if type ∉ f.types then throw (.unstorableType f.name type)
  checkUniform type images
  match images with
  | [image] => return image
  | _ => throw (.storesOneImage f.abbreviation)

end FileFormat

end Raster
