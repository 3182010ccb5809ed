import Raster.Blur.Line
import Raster.Fourier.Grid
/-!
# Anti-aliasing

Before an image shrinks, detail that its new cells cannot show is taken out: with a bell curve
along every shrinking axis, or by cutting every frequency off that lies beyond the band of the
target.  An image that does not shrink is handed on.
-/

namespace Raster

/-- What is done before an image shrinks. -/
inductive AntiAliasing where
  | none | fast | clever
deriving DecidableEq, Repr

/-- The way of a given name. -/
def AntiAliasing.ofName (s : String) : Except Refusal AntiAliasing :=
  if s = "none" then .ok .none
  else if s = "fast" then .ok .fast
  else if s = "clever" then .ok .clever
  else .error (.unknownChoice .antiAliasing s)

/-! ## A bell curve on every axis that shrinks -/

/-- The standard deviation for an axis that goes from `n` cells to `m`. -/
def shrinkSigma (n m : Nat) : Float := (nearestDouble n / nearestDouble m - 1.0) / 2.0

/-- The kernel for an axis that goes from `n` cells to fewer.  There is none for an axis that
shrinks to nothing. -/
def shrinkKernel (n m : Nat) : Except Fault HalfKernel :=
  if m = 0 then .error .outOfBounds else .ok (HalfKernel.gaussian (shrinkSigma n m))

/-- The axes that shrink, each with its kernel. -/
def shrinkKernels (s : Shape) (target : List Nat) :
    Except Fault (List (Fin s.length × HalfKernel)) :=
  (List.finRange s.length).filterMapM fun axis =>
    match target[axis.val]? with
    | some m =>
      if m < s.get axis then (shrinkKernel (s.get axis) m).map fun k => some (axis, k)
      else .ok Option.none
    | Option.none => .ok Option.none

/-- Blur along every axis that shrinks. -/
def Grid.smooth {s : Shape} {t : PixelType} (kernels : List (Fin s.length × HalfKernel))
    (g : Grid s t.Pixel) : Grid s t.Pixel :=
  kernels.foldl (fun g (axis, right) => g.blurAxis right .mirror axis) g

/-! ## Frequencies beyond the band -/

/-- The highest frequency that an axis of `m` cells can show. -/
def highestFrequency (m : Nat) : Nat := (m - 1) / 2

/-- Whether a frequency lies beyond the band of the target on some axis that shrinks.
Frequency `k` of an axis of `n` cells is the same as `k - n`. -/
def outsideBand : (source target : List Nat) → (frequency : List Nat) → Bool
  | n :: source, m :: target, k :: ks =>
    (m < n && highestFrequency m < k && k < n - highestFrequency m) || outsideBand source target ks
  | _, _, _ => false

/-- Whether some axis shrinks. -/
def shrinks : (source target : List Nat) → Bool
  | n :: source, m :: target => m < n || shrinks source target
  | _, _ => false

namespace Grid

variable {s : Shape}

/-- One channel without the frequencies beyond the band. -/
def lowPass (transform : LineTransform) (target : List Nat) (channel : Grid s Float) :
    Grid s Float :=
  let spectrum := (channel.map fun v => (⟨v, 0.0⟩ : Complex64)).fourier transform .forward
  let kept := spectrum.mapWithCoordinates fun z k =>
    if outsideBand s target k then Complex.zero64 else z
  (kept.fourier transform .backward).map fun z => z.re / nearestDouble s.size

/-- The samples of one channel. -/
def channel {t : PixelType} (g : Grid s t.Pixel) (c : Fin t.channels) : Grid s Float :=
  g.map fun p => (t.samples p).get c

/-- The grid of pixels with the given channels. -/
def ofChannels (t : PixelType) (channels : Vector (Grid s Float) t.channels) :
    Grid s t.Pixel :=
  ⟨Vector.ofFn fun i => t.ofSamples (channels.map fun channel => channel.cells.get i)⟩

/-- Every channel without the frequencies beyond the band. -/
def limitBand {t : PixelType} (transform : LineTransform) (target : List Nat)
    (g : Grid s t.Pixel) : Grid s t.Pixel :=
  ofChannels t (Vector.ofFn fun c => (g.channel c).lowPass transform target)

end Grid

/-- Prepare an image for a shape that it is resized to. -/
def Image.antiAlias (transform : LineTransform) (way : AntiAliasing) (target : List Nat)
    (image : Image) : Except Fault Derived :=
  match way with
  | .none => .ok .unchanged
  | .fast => do
    let kernels ← shrinkKernels image.shape target
    if kernels.isEmpty then return .unchanged
    else return .fresh ⟨image.type, image.shape, image.grid.smooth kernels⟩
  | .clever =>
    if shrinks image.shape target then
      .ok (.fresh ⟨image.type, image.shape, image.grid.limitBand transform target⟩)
    else .ok .unchanged

end Raster
