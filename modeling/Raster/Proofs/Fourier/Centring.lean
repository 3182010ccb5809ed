import Raster.Proofs.Algorithm.Chain
import Raster.Proofs.Grid.Shift
/-!
# Centring does not show after a round trip

A spectrum is centred after the transform forward and moved back before the transform backward.
In between it becomes an image, of reals if no imaginary part is larger than a rounding error,
and its cells are read again.  All of that treats the cells one by one or all together, so the
shift can be pulled through it (`Image.spectrum?_centred_forward`) and meets its inverse
(`Image.spectrum?_centred_backward`).  Nothing here asks what the transform of a line is.
-/

namespace Raster

variable {transform : LineTransform}

/-- The image with the first cell of every axis in the middle. -/
def Image.shift (image : Image) : Image := ⟨image.type, image.shape, image.grid.shift⟩

/-! ## Grids -/

namespace Grid

variable {s : Shape}

lemma spectrum_centred_forward (n : Bool) (g : Grid s Complex64) :
    g.spectrum transform ⟨.forward, true, n⟩ =
      (g.spectrum transform ⟨.forward, false, n⟩).shift := by
  simp [spectrum]

lemma spectrum_centred_backward (n : Bool) (g : Grid s Complex64) :
    g.spectrum transform ⟨.backward, true, n⟩ =
      g.unshift.spectrum transform ⟨.backward, false, n⟩ := by
  simp [spectrum]

lemma isEffectivelyReal_shift (g : Grid s Complex64) :
    g.shift.isEffectivelyReal = g.isEffectivelyReal :=
  all_shift _ g

lemma collapse_shift (p : Precision) (g : Grid s Complex64) :
    g.shift.collapse p = (g.collapse p).shift := by
  rw [collapse, collapse, isEffectivelyReal_shift]
  exact congrArg (Image.mk _ s) (shift_map _ g).symm

end Grid

/-! ## Images -/

namespace Image

lemma complexCells?_shift (image : Image) :
    image.shift.complexCells? =
      image.complexCells?.map fun (p, cells) => (p, cells.shift) := by
  obtain ⟨type, s, g⟩ := image
  cases type with
  | real p => exact congrArg (fun cells => some (p, cells)) (Grid.shift_map _ g).symm
  | complex p => exact congrArg (fun cells => some (p, cells)) (Grid.shift_map _ g).symm
  | gray | grayAlpha | rgb | rgba => rfl

/-- Centring the spectrum of an image is shifting it. -/
lemma spectrum?_centred_forward (n : Bool) (image : Image) :
    image.spectrum? transform ⟨.forward, true, n⟩ =
      (image.spectrum? transform ⟨.forward, false, n⟩).map shift := by
  rw [spectrum?, spectrum?, Option.map_map]
  refine congrArg (Option.map · image.complexCells?) (funext fun (p, cells) => ?_)
  exact (congrArg (Grid.collapse p) (cells.spectrum_centred_forward n)).trans
    (Grid.collapse_shift p _)

/-- The transform back from a centred spectrum moves it back first. -/
lemma spectrum?_centred_backward (n : Bool) (image : Image) :
    image.shift.spectrum? transform ⟨.backward, true, n⟩ =
      image.spectrum? transform ⟨.backward, false, n⟩ := by
  rw [spectrum?, spectrum?, complexCells?_shift, Option.map_map]
  refine congrArg (Option.map · image.complexCells?) (funext fun (p, cells) => ?_)
  refine congrArg (Grid.collapse p) ?_
  exact (cells.shift.spectrum_centred_backward n).trans (by rw [Grid.unshift_shift])

/-- The images that the algorithm works on are those that have a spectrum, and a spectrum is
again one of them. -/
lemma exists_spectrum (transform : LineTransform) {image : Image}
    (h : image.type ∈ Algorithm.fourier.types) (settings : SpectrumSettings) :
    ∃ result, image.spectrum? transform settings = some result ∧
      result.type ∈ Algorithm.fourier.types ∧ result.shape = image.shape := by
  have hcollapse : ∀ (p : Precision) (g : Grid image.shape Complex64),
      (g.collapse p).type ∈ Algorithm.fourier.types := by
    intro p g
    show (if g.isEffectivelyReal then PixelType.real p else .complex p) ∈ _
    cases g.isEffectivelyReal <;> cases p <;> decide
  obtain ⟨type, s, g⟩ := image
  cases type with
  | real p => exact ⟨_, rfl, hcollapse p _, rfl⟩
  | complex p => exact ⟨_, rfl, hcollapse p _, rfl⟩
  | gray | grayAlpha | rgb | rgba => simp [Algorithm.types] at h

end Image

/-! ## Chains -/

/-- The name of a direction. -/
def Direction.name : Direction → String
  | forward => "forward"
  | backward => "backward"

/-- Options from which the settings of a Fourier transform are read. -/
def SpectrumSettings.toOptions (settings : SpectrumSettings) : Options :=
  .ofList [("direction", .text settings.direction.name), ("shift", .bool settings.centred),
    ("normalize", .bool settings.normalized)]

namespace ChainStep

/-- Whether a step is a Fourier transform with some settings, be they written out or left to
the defaults. -/
structure Transforms (step : ChainStep) (settings : SpectrumSettings) : Prop where
  algorithm : step.algorithm = Algorithm.fourier.name
  accepted : Algorithm.fourier.schema.validate step.options = .ok ()
  read : SpectrumSettings.ofOptions (Algorithm.fourier.schema.finalize step.options) =
    .ok settings

lemma transforms_toOptions (settings : SpectrumSettings) :
    Transforms ⟨"fft", settings.toOptions⟩ settings := by
  obtain ⟨direction, centred, normalized⟩ := settings
  cases direction <;> cases centred <;> cases normalized <;> exact ⟨rfl, rfl, rfl⟩

variable {step : ChainStep} {settings : SpectrumSettings}

/-- A transform of one image keeps its label. -/
lemma Transforms.apply_singleton (hstep : step.Transforms settings) (label : Path)
    {image result : Image} (htype : image.type ∈ Algorithm.fourier.types)
    (hrank : image.shape ≠ []) (hresult : image.spectrum? transform settings = some result) :
    step.apply transform [⟨label, image⟩] = .ok [⟨label, result⟩] := by
  have hshape : Algorithm.fourier.takesShape image.shape = true := by
    simpa [Algorithm.takesShape] using hrank
  have hone : step.applyOne transform ⟨label, image⟩ = .ok [⟨label, result⟩] := by
    rw [applyOne, hstep.algorithm, Algorithm.applyNamed_eq_run hshape hstep.accepted htype,
      Algorithm.run, hstep.read]
    simp only [orRefuse, Except.mapError, bind, Except.bind, hresult]
    rfl
  rw [apply_cons, hone, apply_nil]
  rfl

end ChainStep

/-- **A spectrum that is centred and moved back does not show it.**  Whatever the transform of a
line is and however the two passes are scaled, transforming an image forward and backward gives
the same image with centring as without: of the same type, of the same shape and with the same
cells. -/
theorem applyChain_roundTrip_centred {n m : Bool} {forth back : Bool → ChainStep}
    (hforth : ∀ centred, (forth centred).Transforms ⟨.forward, centred, n⟩)
    (hback : ∀ centred, (back centred).Transforms ⟨.backward, centred, m⟩)
    (label : Path) {image : Image} (htype : image.type ∈ Algorithm.fourier.types)
    (hrank : image.shape ≠ []) :
    ∃ result, ∀ centred, applyChain transform [forth centred, back centred] [⟨label, image⟩] =
      .ok [⟨label, result⟩] := by
  obtain ⟨middle, hmiddle, hmiddleType, -⟩ :=
    Image.exists_spectrum transform htype ⟨.forward, false, n⟩
  obtain ⟨result, hresult, -⟩ :=
    Image.exists_spectrum transform hmiddleType ⟨.backward, false, m⟩
  have hpasses : ∀ centred, ∃ between, image.spectrum? transform ⟨.forward, centred, n⟩ =
      some between ∧ between.spectrum? transform ⟨.backward, centred, m⟩ = some result := by
    rintro (_ | _)
    · exact ⟨middle, hmiddle, hresult⟩
    · refine ⟨middle.shift, ?_, ?_⟩
      · rw [Image.spectrum?_centred_forward, hmiddle]
        rfl
      · rw [Image.spectrum?_centred_backward, hresult]
  refine ⟨result, fun centred => ?_⟩
  obtain ⟨between, hforward, hbackward⟩ := hpasses centred
  obtain ⟨between', hbetween, hbetweenType, hbetweenShape⟩ :=
    Image.exists_spectrum transform htype ⟨.forward, centred, n⟩
  obtain rfl : between' = between := Option.some.inj (hbetween.symm.trans hforward)
  have hbetweenRank : between'.shape ≠ [] := by rwa [hbetweenShape]
  rw [applyChain, List.foldlM_cons, (hforth centred).apply_singleton label htype hrank hforward]
  show (back centred).apply transform [⟨label, between'⟩] >>= pure = _
  rw [(hback centred).apply_singleton label hbetweenType hbetweenRank hbackward]
  rfl

/-- A line of three different numbers: on an odd number of cells, moving the first one to the middle
is not the same as moving the middle one to the front. -/
theorem roundTrip_centred_three :
    let line : Image :=
      ⟨.real .double, [3], Grid.ofFn [3] fun c => nearestDouble (c.getD 0 0 + 1)⟩
    ∃ result, ∀ centred,
      applyChain LineTransform.direct
        [⟨"fft", (SpectrumSettings.mk .forward centred true).toOptions⟩,
          ⟨"fft", (SpectrumSettings.mk .backward centred true).toOptions⟩]
        [⟨Path.ofString "line", line⟩] =
      .ok [⟨Path.ofString "line", result⟩] :=
  applyChain_roundTrip_centred (fun _ => ChainStep.transforms_toOptions _)
    (fun _ => ChainStep.transforms_toOptions _) _ (by decide) (by decide)

end Raster
