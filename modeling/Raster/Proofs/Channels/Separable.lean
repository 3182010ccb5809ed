import Raster.Proofs.Algorithm.Chain
import Raster.Proofs.Channels.Filters
/-!
# Splitting before or after a filter

Blurring and resizing come down to an operation that works on the channels one by one, behind
checks that look at the shape and the options alone (`Algorithm.guarded`).  So it does not matter
whether an image is split before or after (`applyChain_exchange`): the same images come out under
the same labels, or the same failure.
-/

namespace Raster

variable {transform : LineTransform} {o : Options}

/-! ## What the algorithms do to one image -/

namespace Algorithm

/-- Look at the shape and at the options before work on an image. -/
def guarded (a : Algorithm) (o : Options) (work : Image → Except Failure Image) (image : Image) :
    Except Failure Image :=
  if a.takesShape image.shape then do
    orRefuse ((a.schema.validate o).mapError (.optionsOfAlgorithm a.name))
    work image
  else .error (.unsupported (.imageShape a.name image.shape))

lemma isChannelwise_guarded {a : Algorithm} {work : Image → Except Failure Image}
    (h : IsChannelwise work) : IsChannelwise (a.guarded o work) := by
  refine IsChannelwise.of_shape (f := fun s image => if a.takesShape s then do
    orRefuse ((a.schema.validate o).mapError (.optionsOfAlgorithm a.name))
    work image
  else .error (.unsupported (.imageShape a.name s))) fun s => ?_
  by_cases hshape : a.takesShape s
  · simp only [hshape]
    exact IsChannelwise.read _ fun _ => h
  · simp only [hshape]
    exact IsChannelwise.error _

/-- Blur as complete options say. -/
def blurWith (o : Options) (image : Image) : Except Failure Image := do
  let b ← orRefuse (BlurSettings.ofOptions image.shape.length o)
  orFault (image.blur b)

/-- Resize as complete options say. -/
def resizeWith (transform : LineTransform) (o : Options) (image : Image) :
    Except Failure Image := do
  let settings ← orRefuse (ResizeSettings.ofOptions image.shape o)
  orFault (image.resize transform settings.antiAliasing settings.target)

lemma isChannelwise_blurWith : IsChannelwise (blurWith o) := by
  refine IsChannelwise.of_shape (f := fun s image => do
    let b ← orRefuse (BlurSettings.ofOptions s.length o)
    orFault (image.blur b)) fun s => ?_
  exact IsChannelwise.read _ fun b => (Image.isChannelwise_blur b).orFault

lemma isChannelwise_resizeWith : IsChannelwise (resizeWith transform o) := by
  refine IsChannelwise.of_shape (f := fun s image => do
    let settings ← orRefuse (ResizeSettings.ofOptions s o)
    orFault (image.resize transform settings.antiAliasing settings.target)) fun s => ?_
  refine IsChannelwise.read _ fun settings => ?_
  exact (Image.isChannelwise_resize transform settings.antiAliasing settings.target).orFault

/-- Whether an algorithm makes one image of each image that it takes, as `work` does. -/
def FiltersWith (transform : LineTransform) (a : Algorithm) (o : Options)
    (work : Image → Except Failure Image) : Prop :=
  ∀ image, image.type ∈ a.types → applyNamed transform a.name o [image] =
    (work image).map fun result => singleOutput (.fresh result)

lemma filtersWith_guarded {a : Algorithm} {work : Image → Except Failure Image}
    (h : ∀ image, a.run transform (a.schema.finalize o) image =
      (work image).map fun result => singleOutput (.fresh result)) :
    FiltersWith transform a o (a.guarded o work) := by
  intro image htype
  rw [applyNamed_singleton, guarded]
  by_cases hshape : a.takesShape image.shape
  · rw [if_pos hshape, if_pos hshape, if_pos htype, h]
    cases a.schema.validate o <;> rfl
  · rw [if_neg hshape, if_neg hshape]
    rfl

lemma filtersWith_blur :
    FiltersWith transform blur o (blur.guarded o (blurWith (blur.schema.finalize o))) := by
  refine filtersWith_guarded fun image => ?_
  rw [run, blurWith]
  cases BlurSettings.ofOptions image.shape.length (blur.schema.finalize o) with
  | error cause => rfl
  | ok b =>
    show (orFault (image.blur b) >>= _) = (orFault (image.blur b)).map _
    cases orFault (image.blur b) <;> rfl

lemma filtersWith_resize :
    FiltersWith transform resize o
      (resize.guarded o (resizeWith transform (resize.schema.finalize o))) := by
  refine filtersWith_guarded fun image => ?_
  rw [run, resizeWith]
  cases ResizeSettings.ofOptions image.shape (resize.schema.finalize o) with
  | error cause => rfl
  | ok settings =>
    show (orFault (image.resize transform settings.antiAliasing settings.target) >>= _) =
      (orFault (image.resize transform settings.antiAliasing settings.target)).map _
    cases orFault (image.resize transform settings.antiAliasing settings.target) <;> rfl

end Algorithm

/-! ## Steps of a chain -/

/-- What a filter makes of a labelled image; the label stays. -/
def Labelled.filter (work : Image → Except Failure Image) (i : Labelled) :
    Except Failure Labelled :=
  (work i.image).map fun image => ⟨i.label, image⟩

/-- The images of the components of a labelled image, each labelled with its name. -/
def Labelled.components (i : Labelled) : List Labelled :=
  i.image.components.map fun (role, image) => ⟨derivedLabel i.label role, image⟩

lemma components_ne_nil {t : PixelType} (h : t ∈ Algorithm.splitChannels.types) :
    t.components ≠ [] := by
  cases t with
  | gray | real => simp [Algorithm.types] at h
  | grayAlpha | rgb | rgba | complex => simp [PixelType.components]

namespace ChainStep

lemma apply_filter {a : Algorithm} {work : Image → Except Failure Image}
    (hwork : Algorithm.FiltersWith transform a o work) {images : List Labelled}
    (h : ∀ i ∈ images, i.image.type ∈ a.types) :
    apply transform ⟨a.name, o⟩ images = images.mapM (Labelled.filter work) := by
  induction images with
  | nil => rfl
  | cons i rest ih =>
    rw [List.forall_mem_cons] at h
    rw [apply_cons, applyOne, hwork i.image h.1, ih h.2, List.mapM_cons, Labelled.filter]
    cases work i.image with
    | error cause => rfl
    | ok image => rfl

lemma apply_splitChannels {images : List Labelled}
    (h : ∀ i ∈ images, i.image.type ∈ Algorithm.splitChannels.types) :
    apply transform ⟨"split_channels", .empty⟩ images =
      .ok (images.flatMap Labelled.components) := by
  induction images with
  | nil => rfl
  | cons i rest ih =>
    rw [List.forall_mem_cons] at h
    have hsome : i.image.components? = some i.image.components :=
      i.image.components?_eq_some (components_ne_nil h.1)
    have hrun : Algorithm.applyNamed transform Algorithm.splitChannels.name .empty [i.image] =
        .ok (i.image.components.map fun (role, image) => ⟨role, .fresh image⟩) := by
      rw [Algorithm.applyNamed_eq_run rfl rfl h.1, Algorithm.run, hsome]
      rfl
    have hone : applyOne transform ⟨"split_channels", .empty⟩ i = .ok i.components := by
      show Algorithm.applyNamed transform Algorithm.splitChannels.name .empty [i.image] >>= _ = _
      rw [hrun]
      exact congrArg Except.ok List.map_map
    rw [apply_cons, hone, ih h.2]
    rfl

end ChainStep

/-! ## The exchange -/

/-- A filter makes of the images of the components what it makes of the image. -/
lemma Labelled.mapM_components {work : Image → Except Failure Image} (hwork : IsChannelwise work)
    {i : Labelled} (h : i.image.type ∈ Algorithm.splitChannels.types) :
    i.components.mapM (Labelled.filter work) = (i.filter work).map Labelled.components := by
  obtain ⟨label, t, s, g⟩ := i
  obtain ⟨r, hwhole, hpart⟩ := hwork t s g
  have hcomponents : ∀ (s' : Shape) (g' : Grid s' t.Pixel),
      Labelled.components ⟨label, t, s', g'⟩ =
        t.components.map fun k => ⟨derivedLabel label k.name, k.image g'⟩ :=
    fun _ _ => List.map_map
  rw [hcomponents, List.mapM_map, Labelled.filter, hwhole]
  have hfilter : ∀ k : Component t,
      Labelled.filter work ⟨derivedLabel label k.name, k.image g⟩ =
        r.map fun g' => ⟨derivedLabel label k.name, k.image g'.2⟩ := by
    intro k
    rw [Labelled.filter, hpart]
    cases r <;> rfl
  rw [show (Labelled.filter work ∘ fun k : Component t => _) = _ from funext hfilter,
    mapM_const r _ (components_ne_nil h)]
  cases r with
  | error cause => rfl
  | ok g' => exact congrArg Except.ok (hcomponents g'.1 g'.2).symm

lemma Labelled.type_of_filter {work : Image → Except Failure Image} (hwork : IsChannelwise work)
    {i j : Labelled} (h : i.filter work = .ok j) : j.image.type = i.image.type := by
  obtain ⟨label, t, s, g⟩ := i
  obtain ⟨r, hwhole, -⟩ := hwork t s g
  rw [Labelled.filter, hwhole] at h
  cases r with
  | error cause => cases h
  | ok g' =>
    cases h
    rfl

/-- Splitting and a filter can be exchanged on images of some types, if the filter works on
images of these types and on those of their components. -/
lemma applyChain_exchange {a : Algorithm} {work : Image → Except Failure Image}
    (hwork : Algorithm.FiltersWith transform a o work) (hchannelwise : IsChannelwise work)
    {types : List PixelType} (hsplit : ∀ t ∈ types, t ∈ Algorithm.splitChannels.types)
    (hwhole : ∀ t ∈ types, t ∈ a.types)
    (hparts : ∀ t ∈ types, ∀ u ∈ t.components.map Component.type, u ∈ a.types)
    {images : List Labelled} (h : ∀ i ∈ images, i.image.type ∈ types) :
    applyChain transform [⟨a.name, o⟩, ⟨"split_channels", .empty⟩] images =
      applyChain transform [⟨"split_channels", .empty⟩, ⟨a.name, o⟩] images := by
  have hcomponents : ∀ j ∈ images.flatMap Labelled.components, j.image.type ∈ a.types := by
    intro j hj
    obtain ⟨i, hi, hj⟩ := List.mem_flatMap.1 hj
    obtain ⟨c, hc, rfl⟩ := List.mem_map.1 hj
    obtain ⟨k, hk, rfl⟩ := List.mem_map.1 hc
    exact hparts i.image.type (h i hi) k.type (List.mem_map_of_mem hk)
  have hright : applyChain transform [⟨"split_channels", .empty⟩, ⟨a.name, o⟩] images =
      (images.flatMap Labelled.components).mapM (Labelled.filter work) := by
    rw [applyChain, List.foldlM_cons,
      ChainStep.apply_splitChannels fun i hi => hsplit _ (h i hi)]
    show ChainStep.apply transform ⟨a.name, o⟩ _ >>= pure = _
    rw [bind_pure, ChainStep.apply_filter hwork hcomponents]
  have hleft : applyChain transform [⟨a.name, o⟩, ⟨"split_channels", .empty⟩] images =
      (images.mapM (Labelled.filter work)).map fun results =>
        results.flatMap Labelled.components := by
    rw [applyChain, List.foldlM_cons, ChainStep.apply_filter hwork fun i hi => hwhole _ (h i hi)]
    cases hresults : images.mapM (Labelled.filter work) with
    | error cause => rfl
    | ok results =>
      -- the filtered images are of the old types, so they can be split
      have hresult : ∀ j ∈ results, j.image.type ∈ Algorithm.splitChannels.types := by
        intro j hj
        obtain ⟨i, hi, hij⟩ := exists_of_mapM_ok hresults j hj
        rw [Labelled.type_of_filter hchannelwise hij]
        exact hsplit _ (h i hi)
      show ChainStep.apply transform ⟨"split_channels", .empty⟩ results >>= pure = _
      rw [bind_pure, ChainStep.apply_splitChannels hresult]
      rfl
  rw [hleft, hright, mapM_flatMap fun i hi => Labelled.mapM_components hchannelwise
    (hsplit _ (h i hi))]

/-- **Channels do not touch each other in a filter.**  Resizing images with colour bytes or an
opacity and then splitting them gives the same as splitting them and then resizing the components
with the same options: the same images under the same labels, or the same failure.  So it is for
blurring, where images may be of complex numbers as well.  This holds for any transform of a
line, any options, and any shape. -/
theorem applyChain_splitChannels_comm (transform : LineTransform) (o : Options)
    (images : List Labelled) :
    ((∀ i ∈ images, i.image.type ∈ [.grayAlpha, .rgb, .rgba]) →
      applyChain transform [⟨"resize", o⟩, ⟨"split_channels", .empty⟩] images =
        applyChain transform [⟨"split_channels", .empty⟩, ⟨"resize", o⟩] images) ∧
    ((∀ i ∈ images, i.image.type ∈
        [.grayAlpha, .rgb, .rgba, .complex .single, .complex .double]) →
      applyChain transform [⟨"blur", o⟩, ⟨"split_channels", .empty⟩] images =
        applyChain transform [⟨"split_channels", .empty⟩, ⟨"blur", o⟩] images) := by
  constructor
  · intro h
    exact applyChain_exchange Algorithm.filtersWith_resize
      (Algorithm.isChannelwise_guarded Algorithm.isChannelwise_resizeWith)
      (by decide) (by decide) (by decide) h
  · intro h
    exact applyChain_exchange Algorithm.filtersWith_blur
      (Algorithm.isChannelwise_guarded Algorithm.isChannelwise_blurWith)
      (by decide) (by decide) (by decide) h

/-- A picture whose pixels and whose channels differ is shrunk, and a line of complex numbers
blurred, before or after it is split. -/
theorem splitChannels_comm_small :
    let shrink := Options.ofList [("exact_res", .text "1,2"), ("anti_aliasing", .text "clever")]
    let blur := Options.ofList [("intensity", .double 2.0)]
    let colours : List Labelled := [⟨Path.ofString "a.png", .rgb, [2, 3],
      Grid.ofFn [2, 3] fun c => ⟨BitVec.ofNat 8 (c.getD 0 0), BitVec.ofNat 8 (c.getD 1 0), 9⟩⟩]
    let numbers : List Labelled := [⟨Path.ofString "b", .complex .double, [3],
      Grid.ofFn [3] fun c => ⟨nearestDouble (c.getD 0 0), 1.0⟩⟩]
    applyChain LineTransform.direct [⟨"resize", shrink⟩, ⟨"split_channels", .empty⟩] colours =
        applyChain LineTransform.direct [⟨"split_channels", .empty⟩, ⟨"resize", shrink⟩] colours ∧
      applyChain LineTransform.direct [⟨"blur", blur⟩, ⟨"split_channels", .empty⟩] numbers =
        applyChain LineTransform.direct [⟨"split_channels", .empty⟩, ⟨"blur", blur⟩] numbers :=
  ⟨(applyChain_splitChannels_comm LineTransform.direct _ _).1 (by decide),
    (applyChain_splitChannels_comm LineTransform.direct _ _).2 (by decide)⟩

end Raster
