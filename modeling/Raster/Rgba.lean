import Raster.Labelled
/-!
# Pictures as colour bytes

Three operations on a picture that is handed over as one row of bytes, red, green, blue and
opacity of each pixel in turn, together with its width and height.
-/

namespace Raster

/-- The pixels that a row of bytes stands for. -/
def rgbaPixels : List Byte → Option (List Rgba)
  | [] => some []
  | r :: g :: b :: a :: rest => (rgbaPixels rest).map (⟨r, g, b, a⟩ :: ·)
  | _ => none

/-- The bytes of a pixel. -/
def Rgba.bytes (p : Rgba) : List Byte := [p.red, p.green, p.blue, p.alpha]

/-- The picture that a row of bytes stands for. -/
def Image.ofRgbaBytes? (width height : Nat) (bytes : List Byte) : Option Image :=
  match rgbaPixels bytes with
  | some pixels => (Image.ofArray? .rgba [width, height] pixels.toArray).toOption
  | none => none

/-- The bytes of a picture of gray levels or of colours with an opacity. -/
def Image.bytes? (image : Image) : Option (List Byte) :=
  match image with
  | ⟨.gray .eight, _, g⟩ => some g.toList
  | ⟨.rgba, _, g⟩ => some (g.toList.flatMap Rgba.bytes)
  | _ => none

/-- Apply an algorithm to a picture. -/
def applyToRgba (transform : LineTransform) (a : Algorithm) (o : Options)
    (width height : Nat) (bytes : List Byte) : Option (List Byte) := do
  let image ← Image.ofRgbaBytes? width height bytes
  let outputs ← (a.applyChecked transform o [image]).toOption
  let output ← outputs.getLast?
  (output.result.get image).bytes?

/-- Blur a picture with a bell curve. -/
def blurRgba (transform : LineTransform) (sigma : Float) (width height : Nat)
    (bytes : List Byte) : Option (List Byte) :=
  applyToRgba transform .blur
    (.ofList [("intensity", .double sigma), ("filter", .text "gauss")]) width height bytes

/-- Resize a picture; an extent of zero follows the other. -/
def resizeRgba (transform : LineTransform) (newWidth newHeight : Nat) (width height : Nat)
    (bytes : List Byte) : Option (List Byte) :=
  applyToRgba transform .resize
    (.ofList [("exact_res", .text s!"{newWidth},{newHeight}")]) width height bytes

/-- The gray bytes of a picture in front of white. -/
def grayscaleRgba (transform : LineTransform) (width height : Nat) (bytes : List Byte) :
    Option (List Byte) :=
  applyToRgba transform .toGray8 .empty width height bytes

end Raster
