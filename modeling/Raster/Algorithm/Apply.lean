import Raster.Algorithm.Algorithm
import Raster.Blur.Line
import Raster.Channels
import Raster.Convert.Image
import Raster.Convert.Settings
import Raster.Fourier.Spectrum
import Raster.Intensity
import Raster.Resize.Image
/-!
# Applying an algorithm

An algorithm reads its settings from an option map, each in its turn, and then works on one
image.  `Algorithm.run` does that; `Algorithm.dispatch` first looks at the pixel types, and
`Algorithm.apply` before that at the number and the shapes of the images.

Nothing here writes to an image.  An output is a new image or the input itself, and which of
the two it is can be read off `Output.result`.
-/

namespace Raster

/-- One of the images that an algorithm returns, under the name of its role.  An algorithm with
a single output leaves the name empty. -/
structure Output where
  role : String
  result : Derived

/-- A single output without a role. -/
def singleOutput (result : Derived) : List Output := [⟨"", result⟩]

/-! ## Settings -/

/-- What a blur needs to know, besides the kernel's weights. -/
structure BlurSettings where
  kernel : KernelShape
  intensity : Float
  boundary : Boundary
  /-- The only axis that is blurred, or none for all of them. -/
  axis : Option Nat

/-- Read the settings of a blur of an image with some number of axes. -/
def BlurSettings.ofOptions (rank : Nat) (o : Options) : Except Refusal BlurSettings := do
  let intensity ← o.double "intensity"
  let kernel ← KernelShape.ofName (← o.text "filter")
  let boundary ← Boundary.ofName (← o.text "bound_condition")
  if ← o.bool "one_dim" then
    let axis ← o.int "dim_idx"
    if 0 ≤ axis ∧ axis < rank then return ⟨kernel, intensity, boundary, some axis.toNat⟩
    else throw (.blurAxis axis rank)
  else return ⟨kernel, intensity, boundary, none⟩

/-- The axes that are blurred. -/
def BlurSettings.axes (b : BlurSettings) (s : Shape) : List (Fin s.length) :=
  match b.axis with
  | some axis => if h : axis < s.length then [⟨axis, h⟩] else []
  | none => List.finRange s.length

/-- The direction of a given name. -/
def Direction.ofName (s : String) : Except Refusal Direction :=
  if s = "forward" then .ok .forward
  else if s = "backward" then .ok .backward
  else .error (.unknownChoice .direction s)

/-- Read the settings of a Fourier transform. -/
def SpectrumSettings.ofOptions (o : Options) : Except Refusal SpectrumSettings := do
  let direction ← Direction.ofName (← o.text "direction")
  let centred ← o.bool "shift"
  let normalized ← o.bool "normalize"
  return ⟨direction, centred, normalized⟩

/-- What resizing needs to know. -/
structure ResizeSettings where
  target : Shape
  antiAliasing : AntiAliasing

/-- Read the settings for resizing an image of some shape. -/
def ResizeSettings.ofOptions (s : Shape) (o : Options) : Except Refusal ResizeSettings := do
  let factor ← o.double "scale_factor"
  let text ← o.text "exact_res"
  let target ← targetExtents s factor text
  let antiAliasing ← AntiAliasing.ofName (← o.text "anti_aliasing")
  let interpolation ← o.text "interpolation"
  if interpolation = "nearest neighbour" then return ⟨target, antiAliasing⟩
  else throw (.unknownChoice .interpolation interpolation)

/-- What changing the type needs to know: nothing if the type stays. -/
inductive TypeChange where
  | keep
  | convert (target : PixelType) (conversion : Conversion)

/-- The pixel type of a given name. -/
def PixelType.ofName (s : String) : Except Refusal PixelType :=
  match PixelType.ofName? s with
  | some t => .ok t
  | none => .error (.unknownPixelType s)

/-- Read the settings of a change of type. -/
def TypeChange.ofOptions (o : Options) : Except Refusal TypeChange := do
  let name ← o.text "output_type"
  if name = Algorithm.sameAsInput then return .keep
  else
    let target ← PixelType.ofName name
    let conversion ← Conversion.ofOptions o
    return .convert target conversion

/-! ## Work -/

/-- Blur an image. -/
def Image.blur (b : BlurSettings) (image : Image) : Except Fault Image := do
  let right ← b.kernel.halfKernel b.intensity
  return ⟨image.type, image.shape,
    image.grid.blurAxes right b.boundary (b.axes image.shape)⟩

namespace Algorithm

/-- Read the settings of an algorithm and let it work on an image.  A type that the algorithm
does not work on is refused. -/
def run (transform : LineTransform) (a : Algorithm) (o : Options) (image : Image) :
    Except Failure (List Output) := do
  match a with
  | blur =>
    let settings ← orRefuse (BlurSettings.ofOptions image.shape.length o)
    let blurred ← orFault (image.blur settings)
    return singleOutput (.fresh blurred)
  | changeType =>
    match ← orRefuse (TypeChange.ofOptions o) with
    | .keep => return singleOutput .unchanged
    | .convert target conversion => return singleOutput (image.convert conversion target)
  | fourier =>
    let settings ← orRefuse (SpectrumSettings.ofOptions o)
    match image.spectrum? transform settings with
    | some spectrum => return singleOutput (.fresh spectrum)
    | none => refuse (.unsupportedType a.name image.type)
  | resize =>
    let settings ← orRefuse (ResizeSettings.ofOptions image.shape o)
    let resized ← orFault (image.resize transform settings.antiAliasing settings.target)
    return singleOutput (.fresh resized)
  | splitChannels =>
    match image.components? with
    | some components => return components.map fun (role, i) => ⟨role, .fresh i⟩
    | none => refuse (.unsupportedType a.name image.type)
  | toGray8 =>
    let conversion ← orRefuse (Conversion.ofOptions o)
    return singleOutput (image.convert conversion (.gray .eight))
  | unaryMath =>
    let f ← orRefuse (o.text "function" >>= Remapping.ofName)
    match image.remap? f with
    | some result => return singleOutput result
    | none => refuse (.unsupportedType a.name image.type)

/-- Look at the pixel types of the images, and let the algorithm work on the only one. -/
def dispatch (transform : LineTransform) (a : Algorithm) (o : Options) (images : List Image) :
    Except Failure (List Output) := do
  let type ← orRefuse (leadingType images)
  if type ∈ a.types then
    orRefuse (checkUniform type images)
    match images with
    | [image] => a.run transform o image
    | _ => refuse (.notOneImage images.length)
  else refuse (.unsupportedType a.name type)

/-- Check the images and apply the algorithm, with options that are complete. -/
def apply (transform : LineTransform) (a : Algorithm) (o : Options) (images : List Image) :
    Except Failure (List Output) := do
  orRefuse (a.capabilities.check images)
  a.dispatch transform o images

/-- Check the images and the options, fill in the defaults, and apply the algorithm. -/
def applyChecked (transform : LineTransform) (a : Algorithm) (o : Options)
    (images : List Image) : Except Failure (List Output) := do
  orRefuse (a.capabilities.check images)
  orRefuse ((a.schema.validate o).mapError (.optionsOfAlgorithm a.name))
  a.dispatch transform (a.schema.finalize o) images

/-- Apply the algorithm of a given name, with options that are complete. -/
def applyListed (transform : LineTransform) (name : String) (o : Options)
    (images : List Image) : Except Failure (List Output) := do
  let a ← orRefuse (ofName name)
  a.apply transform o images

/-- Apply the algorithm of a given name, with the checks and the defaults of its options. -/
def applyNamed (transform : LineTransform) (name : String) (o : Options)
    (images : List Image) : Except Failure (List Output) := do
  let a ← orRefuse (ofName name)
  a.applyChecked transform o images

end Algorithm

end Raster
