import Raster.Image
/-!
# Pictures

A picture is an image as a file holds it: two axes, and pixels of one to four integer samples
of one or two bytes.  `Image.picture?` prepares an image for storing and `Picture.image` makes
an image of what has been read.  Where an image type has the layout of the picture the samples
stay as they are; any other layout becomes colour bytes with an opacity.
-/

namespace Raster

/-- Which samples a pixel of a picture has. -/
structure Layout where
  /-- Red, green and blue in place of gray. -/
  hasColour : Bool
  /-- The last sample is an opacity. -/
  hasOpacity : Bool
  /-- Samples have two bytes in place of one. -/
  isWide : Bool
deriving DecidableEq, Repr

namespace Layout

/-- The number of samples of a pixel. -/
def channels (l : Layout) : Nat := (if l.hasColour then 3 else 1) + if l.hasOpacity then 1 else 0

/-- The number of bytes of a sample. -/
def sampleBytes (l : Layout) : Nat := if l.isWide then 2 else 1

/-- The greatest value of a sample. -/
def top (l : Layout) : Nat := 1 <<< (8 * l.sampleBytes) - 1

/-- The name of a layout. -/
def name (l : Layout) : String :=
  (if l.hasColour then "Rgb" else "L") ++ (if l.hasOpacity then "a" else "") ++
    if l.isWide then "16" else "8"

/-- The type of the images that are made of pictures of this layout. -/
def pixelType : Layout → PixelType
  | ⟨false, false, false⟩ => .gray .eight
  | ⟨false, false, true⟩ => .gray .sixteen
  | ⟨false, true, false⟩ => .grayAlpha
  | ⟨true, false, false⟩ => .rgb
  | _ => .rgba

end Layout

/-- A sample of one byte. -/
def Byte.ofSample (v : Nat) : Byte := BitVec.ofNat 8 v

/-- A sample of two bytes, scaled to one byte and rounded to the nearest. -/
def Byte.ofWideSample (v : Nat) : Byte := BitVec.ofNat 8 ((v + 128) / 257)

/-- The pixel whose samples are given by their places. -/
def Layout.pixelOf : (l : Layout) → (Nat → Nat) → l.pixelType.Pixel
  | ⟨false, false, false⟩, s => BitVec.ofNat 8 (s 0)
  | ⟨false, false, true⟩, s => BitVec.ofNat 16 (s 0)
  | ⟨false, true, false⟩, s => ⟨.ofSample (s 0), .ofSample (s 1)⟩
  | ⟨true, false, false⟩, s => ⟨.ofSample (s 0), .ofSample (s 1), .ofSample (s 2)⟩
  | ⟨true, true, false⟩, s =>
    ⟨.ofSample (s 0), .ofSample (s 1), .ofSample (s 2), .ofSample (s 3)⟩
  | ⟨false, true, true⟩, s =>
    let gray := Byte.ofWideSample (s 0)
    ⟨gray, gray, gray, .ofWideSample (s 1)⟩
  | ⟨true, false, true⟩, s =>
    ⟨.ofWideSample (s 0), .ofWideSample (s 1), .ofWideSample (s 2), 255⟩
  | ⟨true, true, true⟩, s =>
    ⟨.ofWideSample (s 0), .ofWideSample (s 1), .ofWideSample (s 2), .ofWideSample (s 3)⟩

/-- The pixel with the given samples. -/
def Layout.pixel (l : Layout) (v : Vector Nat l.channels) : l.pixelType.Pixel :=
  l.pixelOf fun i => v[i]?.getD 0

/-- An image as a file holds it. -/
structure Picture where
  layout : Layout
  width : Nat
  height : Nat
  pixels : Grid [width, height] (Vector Nat layout.channels)

namespace Picture

/-- The image that a picture shows. -/
def image (p : Picture) : Image :=
  ⟨p.layout.pixelType, [p.width, p.height], p.pixels.map p.layout.pixel⟩

end Picture

/-- An image as a picture, if it has two axes and pictures have its type. -/
def Image.picture? : Image → Option Picture
  | ⟨.gray .eight, [w, h], g⟩ => some ⟨⟨false, false, false⟩, w, h, g.map fun v => #v[v.toNat]⟩
  | ⟨.gray .sixteen, [w, h], g⟩ => some ⟨⟨false, false, true⟩, w, h, g.map fun v => #v[v.toNat]⟩
  | ⟨.grayAlpha, [w, h], g⟩ =>
    some ⟨⟨false, true, false⟩, w, h, g.map fun v => #v[v.gray.toNat, v.alpha.toNat]⟩
  | ⟨.rgb, [w, h], g⟩ =>
    some ⟨⟨true, false, false⟩, w, h,
      g.map fun v => #v[v.red.toNat, v.green.toNat, v.blue.toNat]⟩
  | ⟨.rgba, [w, h], g⟩ =>
    some ⟨⟨true, true, false⟩, w, h,
      g.map fun v => #v[v.red.toNat, v.green.toNat, v.blue.toNat, v.alpha.toNat]⟩
  | _ => none

/-- Why a file yields no picture. -/
inductive Rejection where
  /-- The bytes are not in the format. -/
  | foreign
  /-- The bytes are in the format as far as they go, and break off. -/
  | truncated
deriving DecidableEq, Repr

end Raster
