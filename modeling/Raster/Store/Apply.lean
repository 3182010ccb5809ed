import Raster.Algorithm.Apply
import Raster.Store.Convert
/-!
# Algorithms in memory

An algorithm works on the array that a handle leads to, and returns handles.  Most of its steps
allocate a new array for what they make; the Fourier transform also writes in place, and where
there is nothing to do an array is handed on as it is.  Which of these comes last decides
whether the result is an array of its own.

`Algorithm.runOn` and what is built on it go through the same checks, in the same order, as
`Algorithm.run` and the functions that are built on that.
-/

namespace Raster

namespace Work

variable {type : PixelType} {shape : Shape}

/-! ## Blurring -/

/-- Blur along an axis. -/
def blurAxis (right : HalfKernel) (b : Boundary) (a : ArrayOf type shape)
    (axis : Fin shape.length) : Work (ArrayOf type shape) :=
  remake a fun g => g.blurAxis right b axis

/-- Blur a copy along some axes, one after the other. -/
def blurAxes (right : HalfKernel) (b : Boundary) (axes : List (Fin shape.length))
    (a : ArrayOf type shape) : Work (ArrayOf type shape) := do
  let a ← copy a
  axes.foldlM (blurAxis right b) a

/-- Blur an array. -/
def blur (b : BlurSettings) (a : ArrayOf type shape) : Work (ArrayOf type shape) := do
  let right ← ofResult (orFault (b.kernel.halfKernel b.intensity))
  blurAxes right b.boundary (b.axes shape) a

/-! ## Fourier transforms -/

/-- Transform in place, along every axis. -/
def fourier (transform : LineTransform) (direction : Direction)
    (a : ArrayOf (.complex .double) shape) : Work Unit :=
  (List.finRange shape.length).forM fun axis =>
    edit a fun g => g.fourierAxis transform direction axis

/-- Move the first cell of every axis to the middle, in place. -/
def shift (a : ArrayOf type shape) : Work Unit :=
  (List.finRange shape.length).forM fun axis =>
    edit a fun g => g.mapLines axis (rotateRight (shape.get axis / 2))

/-- Move the middle cell of every axis to the front, in place. -/
def unshift (a : ArrayOf type shape) : Work Unit :=
  (List.finRange shape.length).forM fun axis =>
    edit a fun g => g.mapLines axis (rotateLeft (shape.get axis / 2))

/-- Do something or not. -/
def doIf (c : Prop) [Decidable c] (w : Work Unit) : Work Unit := if c then w else return

/-- Allocate the spectrum of some complex numbers. -/
def spectrum (transform : LineTransform) (settings : SpectrumSettings)
    (cells : Grid shape Complex64) : Work (ArrayOf (.complex .double) shape) := do
  let a : ArrayOf (.complex .double) shape ← allocate cells
  doIf (settings.centred ∧ settings.direction = .backward) (unshift a)
  fourier transform settings.direction a
  doIf settings.normalized (edit a fun g => g.scale (1.0 / (nearestDouble shape.size).sqrt))
  doIf (settings.centred ∧ settings.direction = .forward) (shift a)
  return a

/-- Convert a spectrum to a precision: to reals if they tell all. -/
def collapse (p : Precision) (a : ArrayOf (.complex .double) shape) : Work Handle := do
  let g ← read a
  let target : PixelType := if g.isEffectivelyReal then .real p else .complex p
  let a ← convert {} a target
  return a.erase

/-! ## Resizing -/

/-- Blur along every axis that shrinks. -/
def smooth (kernels : List (Fin shape.length × HalfKernel)) (a : ArrayOf type shape) :
    Work (ArrayOf type shape) :=
  kernels.foldlM (fun a (axis, right) => blurAxis right .mirror a axis) a

/-- One channel without the frequencies beyond the band. -/
def lowPass (transform : LineTransform) (target : List Nat) (a : ArrayOf type shape)
    (c : Fin type.channels) : Work (Grid shape Float) := do
  let spectrum : ArrayOf (.complex .double) shape ←
    remake a fun g => (g.channel c).map fun v => (⟨v, 0.0⟩ : Complex64)
  fourier transform .forward spectrum
  let kept : ArrayOf (.complex .double) shape ←
    remake spectrum fun g => g.mapWithCoordinates fun z k =>
      if outsideBand shape target k then Complex.zero64 else z
  fourier transform .backward kept
  let g : Grid shape Complex64 ← read kept
  return g.map fun z => z.re / nearestDouble shape.size

/-- Every channel without the frequencies beyond the band. -/
def limitBand (transform : LineTransform) (target : List Nat) (a : ArrayOf type shape) :
    Work (ArrayOf type shape) := do
  let channels ← Vector.ofFnM (lowPass transform target a)
  allocate (Grid.ofChannels type channels)

/-- Prepare an array for a shape that it is resized to. -/
def antiAlias (transform : LineTransform) (way : AntiAliasing) (target : List Nat)
    (a : ArrayOf type shape) : Work (ArrayOf type shape) :=
  match way with
  | .none => return a
  | .fast => do
    let kernels ← ofResult (orFault (shrinkKernels shape target))
    smooth kernels a
  | .clever => if shrinks shape target then limitBand transform target a else return a

/-- Sample an array onto another shape. -/
def nearest (target : Shape) (a : ArrayOf type shape) : Work (ArrayOf type target) := do
  let g ← read a
  let resized ← ofResult (orFault (g.nearest target))
  allocate resized

/-- Resize an array. -/
def resize (transform : LineTransform) (settings : ResizeSettings) (a : ArrayOf type shape) :
    Work (ArrayOf type settings.target) := do
  let prepared ← antiAlias transform settings.antiAliasing settings.target a
  nearest settings.target prepared

/-! ## Remapping intensities -/

/-- Spread the observed range over the whole range of the type; without a range, copy. -/
def stretch (t : ScalarType) (a : ArrayOf t.type shape) : Work (ArrayOf t.type shape) := do
  let g ← read a
  let (lo, hi) := observedRange (g.toList.map t.toDouble)
  if lo < hi then
    let factor := t.top / (hi - lo)
    remake a fun g => g.map fun v => t.ofDouble ((t.toDouble v - lo) * factor)
  else copy a

/-- Remap an array of numbers of one type. -/
def remapScalar (f : Remapping) (t : ScalarType) (a : ArrayOf t.type shape) :
    Work (ArrayOf t.type shape) :=
  match f, t with
  | .identity, _ => return a
  | .linearStretch, t => stretch t a
  | .abs, .gray _ => return a
  | .abs, .real p => remake a fun g => g.map (ScalarType.real p).magnitude
  | .negative, t => remake a fun g => g.map t.negate

/-- Remap a complex array. -/
def remapComplex (f : Remapping) (p : Precision) (a : ArrayOf (.complex p) shape) :
    Work Handle :=
  match f with
  | .abs => do
    let norms : ArrayOf (.real p) shape ← remake a fun g => g.map (Complex.norm p)
    return norms.erase
  | _ => return a.erase

/-- Remap an array, if its pixels are numbers. -/
def remap? (f : Remapping) (h : Handle) : Option (Work Handle) :=
  match h with
  | ⟨n, .gray d, shape⟩ => some do
    let a : ArrayOf (.gray d) shape ← remapScalar f (.gray d) ⟨n⟩
    return a.erase
  | ⟨n, .real p, shape⟩ => some do
    let a : ArrayOf (.real p) shape ← remapScalar f (.real p) ⟨n⟩
    return a.erase
  | ⟨n, .complex p, shape⟩ => some (remapComplex f p (⟨n⟩ : ArrayOf (.complex p) shape))
  | _ => none

/-! ## Splitting channels -/

/-- Allocate an array for each of some images. -/
def allocateAll (images : List (String × Image)) : Work (List (String × Handle)) :=
  images.mapM fun (role, image) => do
    let a ← allocate image.grid
    return (role, a.erase)

/-- A single output without a role. -/
def single (w : Work Handle) : Work (List (String × Handle)) := do
  let h ← w
  return [("", h)]

end Work

/-! ## Algorithms -/

namespace Algorithm

open Work

/-- Read the settings of an algorithm and let it work on an array. -/
def runOn (transform : LineTransform) (a : Algorithm) (o : Options) (h : Handle) :
    Work (List (String × Handle)) :=
  match a with
  | blur => do
    let settings ← ofResult (orRefuse (BlurSettings.ofOptions h.shape.length o))
    single do return (← Work.blur settings h.typed).erase
  | changeType => do
    match ← ofResult (orRefuse (TypeChange.ofOptions o)) with
    | .keep => single (return h)
    | .convert target conversion => single do return (← convert conversion h.typed target).erase
  | fourier => do
    let settings ← ofResult (orRefuse (SpectrumSettings.ofOptions o))
    let image ← see h
    match image.complexCells? with
    | some (p, cells) => single do collapse p (← spectrum transform settings cells)
    | none => ofResult (refuse (.unsupportedType a.name h.type))
  | resize => do
    let settings ← ofResult (orRefuse (ResizeSettings.ofOptions h.shape o))
    single do return (← Work.resize transform settings h.typed).erase
  | splitChannels => do
    let image ← see h
    match image.components? with
    | some components => allocateAll components
    | none => ofResult (refuse (.unsupportedType a.name h.type))
  | toGray8 => do
    let conversion ← ofResult (orRefuse (Conversion.ofOptions o))
    single do return (← convert conversion h.typed (.gray .eight)).erase
  | unaryMath => do
    let f ← ofResult (orRefuse (o.text "function" >>= Remapping.ofName))
    match remap? f h with
    | some w => single w
    | none => ofResult (refuse (.unsupportedType a.name h.type))

/-- Look at the pixel types, and let the algorithm work on the only array. -/
def dispatchOn (transform : LineTransform) (a : Algorithm) (o : Options) (images : List Image)
    (sources : List Handle) : Work (List (String × Handle)) := do
  let type ← ofResult (orRefuse (leadingType images))
  if type ∈ a.types then
    ofResult (orRefuse (checkUniform type images))
    match sources with
    | [h] => a.runOn transform o h
    | _ => ofResult (refuse (.notOneImage sources.length))
  else ofResult (refuse (.unsupportedType a.name type))

/-- Check the images that handles lead to and apply the algorithm, with options that are
complete. -/
def applyOn (transform : LineTransform) (a : Algorithm) (o : Options) (sources : List Handle) :
    Work (List (String × Handle)) := do
  let images ← sources.mapM see
  ofResult (orRefuse (a.capabilities.check images))
  a.dispatchOn transform o images sources

/-- Check the images and the options, fill in the defaults, and apply the algorithm. -/
def applyCheckedOn (transform : LineTransform) (a : Algorithm) (o : Options)
    (sources : List Handle) : Work (List (String × Handle)) := do
  let images ← sources.mapM see
  ofResult (orRefuse (a.capabilities.check images))
  ofResult (orRefuse ((a.schema.validate o).mapError (.optionsOfAlgorithm a.name)))
  a.dispatchOn transform (a.schema.finalize o) images sources

/-- Apply the algorithm of a given name, with options that are complete. -/
def applyListedOn (transform : LineTransform) (name : String) (o : Options)
    (sources : List Handle) : Work (List (String × Handle)) := do
  let a ← ofResult (orRefuse (ofName name))
  a.applyOn transform o sources

/-- Apply the algorithm of a given name, with the checks and the defaults of its options. -/
def applyNamedOn (transform : LineTransform) (name : String) (o : Options)
    (sources : List Handle) : Work (List (String × Handle)) := do
  let a ← ofResult (orRefuse (ofName name))
  a.applyCheckedOn transform o sources

end Algorithm

end Raster
