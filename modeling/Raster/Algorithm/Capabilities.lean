import Raster.Image
/-!
# Capabilities

What an algorithm or a file format takes: pixel types, a number of images, shapes, and
whether all images have to be of one shape.  `Capabilities.check` tests number, shapes and
sameness, in this order; the pixel type is looked at later, by what does the work.
-/

namespace Raster

/-- What images something takes. -/
structure Capabilities where
  name : String
  types : List PixelType
  takesCount : Nat → Bool
  takesShape : Shape → Bool
  sameShape : Bool

namespace Capabilities

/-- Check the number of images, the shape of each, and whether the shapes are the same. -/
def check (c : Capabilities) (images : List Image) : Except Refusal Unit :=
  if !c.takesCount images.length then .error (.imageCount c.name images.length)
  else
    match images.find? fun i => !c.takesShape i.shape with
    | some image => .error (.imageShape c.name image.shape)
    | none =>
      match images with
      | [] => .ok ()
      | first :: _ =>
        if c.sameShape && images.any (fun i => i.shape ≠ first.shape) then
          .error (.differentShapes c.name)
        else .ok ()

/-- Whether the images are all of types that are taken, and pass the checks. -/
def accepts (c : Capabilities) (images : List Image) : Bool :=
  images.all (fun i => i.type ∈ c.types) && (c.check images).isOk

end Capabilities

/-- The pixel type of the first image. -/
def leadingType (images : List Image) : Except Refusal PixelType :=
  match images with
  | [] => .error .noImages
  | image :: _ => .ok image.type

/-- Refuse images of another type than the first. -/
def checkUniform (type : PixelType) (images : List Image) : Except Refusal Unit :=
  match images.find? fun i => i.type ≠ type with
  | some image => .error (.mixedTypes type image.type)
  | none => .ok ()

end Raster
