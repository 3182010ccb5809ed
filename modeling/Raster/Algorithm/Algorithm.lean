import Raster.Algorithm.Capabilities
import Raster.Schema.Schema
/-!
# The algorithms

Seven algorithms work on one image each.  For each of them this module gives its name, what
images it takes, and the schema of its options.
-/

namespace Raster

/-- An algorithm on images. -/
inductive Algorithm where
  | blur | changeType | fourier | resize | splitChannels | toGray8 | unaryMath
deriving DecidableEq, Repr

namespace Algorithm

/-- Every algorithm, in the order of their names. -/
def all : List Algorithm :=
  [blur, changeType, fourier, resize, splitChannels, toGray8, unaryMath]

/-- The name of an algorithm. -/
def name : Algorithm → String
  | blur => "blur"
  | changeType => "change_type"
  | fourier => "fft"
  | resize => "resize"
  | splitChannels => "split_channels"
  | toGray8 => "to_gray8"
  | unaryMath => "unary_math"

/-- The algorithm of a given name. -/
def ofName? (s : String) : Option Algorithm := all.find? fun a => a.name = s

/-- The algorithm of a given name, or a refusal. -/
def ofName (s : String) : Except Refusal Algorithm :=
  match ofName? s with
  | some a => .ok a
  | none => .error (.unknownAlgorithm s)

/-! ## Images -/

/-- The pixel types that an algorithm works on. -/
def types : Algorithm → List PixelType
  | blur | changeType => PixelType.all
  | fourier => [.real .single, .real .double, .complex .single, .complex .double]
  | resize | toGray8 => PixelType.all.filter fun t => !t.isComplex
  | splitChannels => [.grayAlpha, .rgb, .rgba, .complex .single, .complex .double]
  | unaryMath =>
    [.gray .eight, .gray .sixteen, .gray .thirtyTwo, .gray .sixtyFour, .real .single,
      .real .double, .complex .single, .complex .double]

/-- Whether a shape has an axis, and no axis is empty. -/
def isSolid (s : Shape) : Bool := !s.isEmpty && s.all (0 < ·)

/-- The shapes that an algorithm works on. -/
def takesShape : Algorithm → Shape → Bool
  | blur, s | resize, s | unaryMath, s => isSolid s
  | fourier, s => !s.isEmpty
  | changeType, _ | splitChannels, _ | toGray8, _ => true

/-- What images an algorithm takes. -/
def capabilities (a : Algorithm) : Capabilities :=
  ⟨a.name, a.types, (· == 1), a.takesShape, true⟩

/-! ## Options -/

/-- A byte of a background colour. -/
def backgroundSetting (id name : String) : Setting :=
  ⟨id, name, .int 255 (some (0, 255)), none⟩

/-- The weight of a colour in the gray level. -/
def weightSetting (id name : String) (default : Float) : Setting :=
  ⟨id, name, .double default (some (0.0, 1.0)), none⟩

/-- The options of a conversion. -/
def conversionSchema : Schema :=
  .setting ⟨"rescale", "Rescale values", .checkbox true,
    some "Map values onto the target range instead of reinterpreting them"⟩ <|
  .header "Background" <|
  .setting (backgroundSetting "gray_bg" "Gray background") <|
  .setting (backgroundSetting "red_bg" "Red background") <|
  .setting (backgroundSetting "green_bg" "Green background") <|
  .setting (backgroundSetting "blue_bg" "Blue background") <|
  .header "Gray weights" <|
  .setting (weightSetting "red_mult" "Red weight" 0.299) <|
  .setting (weightSetting "green_mult" "Green weight" 0.587) <|
  .setting (weightSetting "blue_mult" "Blue weight" 0.114) .nil

/-- The word for the output type that leaves an image as it is. -/
def sameAsInput : String := "same as input"

/-- The options of an algorithm. -/
def schema : Algorithm → Schema
  | blur =>
    .header "Kernel" <|
    .setting ⟨"intensity", "Intensity", .double 3.0 (some (0.0, 1000.0)),
      some "Box radius, or Gaussian sigma"⟩ <|
    .setting ⟨"filter", "Filter", .choice "gauss" ["box", "gauss"], none⟩ <|
    .setting ⟨"bound_condition", "Boundary condition",
      .choice "mirror" ["zero", "mirror", "nearest"], none⟩ <|
    .gated ⟨"one_dim", "Blur a single axis", false, none⟩
      (.setting ⟨"dim_idx", "Axis", .int 0 (some (0, 64)), none⟩ .nil) .nil
  | changeType =>
    .setting ⟨"output_type", "Output type",
      .choice sameAsInput (sameAsInput :: PixelType.all.map PixelType.name), none⟩
      conversionSchema
  | fourier =>
    .setting ⟨"direction", "Direction", .choice "forward" ["forward", "backward"], none⟩ <|
    .setting ⟨"shift", "Centre the zero frequency", .checkbox true, none⟩ <|
    .setting ⟨"normalize", "Normalize", .checkbox true,
      some "Divide the transform by sqrt(N)"⟩ .nil
  | resize =>
    .header "Target size" <|
    .setting ⟨"scale_factor", "Scale factor", .double 1.0 (some (0.0001, 10000.0)), none⟩ <|
    .setting ⟨"exact_res", "Exact resolution", .text "auto" (some (1, 256)),
      some "Comma separated extents, 0 keeps the aspect ratio; 'auto' uses the scale factor"⟩ <|
    .header "Sampling" <|
    .setting ⟨"anti_aliasing", "Antialiasing", .choice "fast" ["none", "fast", "clever"], none⟩ <|
    .setting ⟨"interpolation", "Interpolation",
      .choice "nearest neighbour" ["nearest neighbour"], none⟩ .nil
  | splitChannels => .nil
  | toGray8 => conversionSchema
  | unaryMath =>
    .setting ⟨"function", "Function",
      .choice "identity" ["identity", "linear_stretch", "abs", "negative"], none⟩ .nil

end Algorithm

end Raster
