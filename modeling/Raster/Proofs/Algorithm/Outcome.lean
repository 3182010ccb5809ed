import Raster.Proofs.Algorithm.Capabilities
import Raster.Proofs.Algorithm.Settings
import Raster.Proofs.Resize.Resize
/-!
# When applying an algorithm fails

An algorithm of a given name is applied to images with options that may be incomplete.  The
name, the images and the options are checked first, then the defaults are filled in, the
settings are read, and the work is done.  `applyNamed_classified` says that this is refused exactly
if one of the checks fails, or the axis of a blur or the size of a resized image is impossible.
The only fault is a resized image with more cells than can be counted.

`Outcome` lists what one image can lead to once the options are complete.  An algorithm keeps
to that list whatever the image is (`run_outcome`); the checks before it rule the rest out.
-/

namespace Raster

/-- A refusal for something that a schema checks: an option that is missing, of the wrong kind,
no byte, or not one of the words that it may be. -/
def Refusal.isOptionFault : Refusal → Bool
  | missingOption _ | optionKind _ _ _ | notAByte _ | unknownChoice _ _ | unknownPixelType _ => true
  | _ => false

/-- The size of a resized image is refused for what it says, not for what it is. -/
lemma isOptionFault_of_targetExtents {extents : List Nat} {factor : Float} {text : String}
    {cause : Refusal} (h : targetExtents extents factor text = .error cause) :
    cause.isOptionFault = false := by
  unfold targetExtents at h
  split at h
  · split at h
    · cases h
    · cases h
      rfl
  · unfold requestedExtents at h
    cases hmap : (Text.splitChars ',' text.toList).mapM resolutionEntry with
    | error e =>
      rw [hmap] at h
      cases h
      obtain ⟨entry, -, hentry⟩ := exists_of_mapM_error hmap
      unfold resolutionEntry at hentry
      split at hentry
      · cases hentry
      · cases hentry
        rfl
    | ok requested =>
      rw [hmap] at h
      simp only [bind, Except.bind] at h
      split at h
      · cases h
        rfl
      · split at h
        · cases h
        · unfold completeExtents at h
          split at h
          · cases h
          · cases h
            rfl

/-- A modest intensity has a kernel. -/
lemma KernelShape.exists_halfKernel (shape : KernelShape) {intensity : Float}
    (hlow : ¬intensity < 0.0) (hhigh : ¬(1000.0 : Float) < intensity) :
    ∃ right, shape.halfKernel intensity = .ok right := by
  have hlimit : 1024 < intensityLimit := by decide
  cases shape with
  | box =>
    have hwhole : box.wholeIntensity intensity < 1024 :=
      (isModest_of_range hlow hhigh).clampedNat_lt maxExtent
    exact ⟨_, if_pos (Nat.lt_trans hwhole hlimit)⟩
  | gauss =>
    have hwhole : gauss.wholeIntensity intensity < 1024 :=
      (isModest_abs_of_range hlow hhigh).clampedNat_lt maxExtent
    exact ⟨_, if_pos (Nat.lt_trans hwhole hlimit)⟩

namespace Algorithm

/-! ## One image -/

/-- With complete options, an algorithm cannot work on an image although it takes its type and
its shape: the axis to be blurred is not there, or the new size cannot be made out. -/
inductive Stops (o : Options) (image : Image) : Algorithm → Prop
  | axis (h : MissesAxis o image.shape.length) : Stops o image blur
  | size {factor : Float} {text : String} {cause : Refusal}
      (hfactor : o.double "scale_factor" = .ok factor) (htext : o.text "exact_res" = .ok text)
      (h : targetExtents image.shape factor text = .error cause) : Stops o image resize

/-- With complete options, the new size of an image can be made out, but not its cells counted. -/
inductive Overflows (o : Options) (image : Image) : Algorithm → Prop
  | size {factor : Float} {text : String} {target : Shape}
      (hfactor : o.double "scale_factor" = .ok factor) (htext : o.text "exact_res" = .ok text)
      (h : targetExtents image.shape factor text = .ok target)
      (hcount : target.isCountable = false) : Overflows o image resize

/-- What an algorithm makes of an image, given complete options. -/
inductive Outcome (a : Algorithm) (o : Options) (image : Image) :
    Except Failure (List Output) → Prop
  | done (outputs : List Output) (h : ¬Stops o image a) (hsize : ¬Overflows o image a) :
      Outcome a o image (.ok outputs)
  | stopped {cause : Refusal} (h : Stops o image a) (hcause : cause.isOptionFault = false) :
      Outcome a o image (.error (.unsupported cause))
  | wrongType (h : image.type ∉ a.types) :
      Outcome a o image (.error (.unsupported (.unsupportedType a.name image.type)))
  | overflowed (h : ¬Stops o image a) (hsize : Overflows o image a) :
      Outcome a o image (.error (.fault .outOfBounds))
  | wrongShape (fault : Fault) (h : a.takesShape image.shape = false) :
      Outcome a o image (.error (.fault fault))

variable {transform : LineTransform} {o : Options}

lemma blur_outcome (hv : blur.schema.validate o = .ok ()) (image : Image) :
    Outcome blur (blur.schema.finalize o) image
      (blur.run transform (blur.schema.finalize o) image) := by
  rcases blurSettings_cases hv image.shape.length with
    ⟨haxis, b, hb, hlow, hhigh⟩ | ⟨haxis, axis, hrefused⟩
  · obtain ⟨right, hright⟩ := b.kernel.exists_halfKernel hlow hhigh
    simp only [run, hb, Image.blur, hright, orRefuse, orFault, Except.mapError, bind, Except.bind]
    refine .done _ ?_ (by rintro ⟨⟩)
    rintro ⟨h⟩
    exact haxis h
  · simp only [run, hrefused, orRefuse, Except.mapError, bind, Except.bind]
    exact .stopped (.axis haxis) rfl

lemma changeType_outcome (hv : changeType.schema.validate o = .ok ()) (image : Image) :
    Outcome changeType (changeType.schema.finalize o) image
      (changeType.run transform (changeType.schema.finalize o) image) := by
  obtain ⟨change, hchange⟩ := exists_typeChange hv
  simp only [run, hchange, orRefuse, Except.mapError, bind, Except.bind]
  cases change with
  | keep => exact .done _ (by rintro ⟨⟩) (by rintro ⟨⟩)
  | convert target conversion => exact .done _ (by rintro ⟨⟩) (by rintro ⟨⟩)

lemma fourier_outcome (hv : fourier.schema.validate o = .ok ()) (image : Image) :
    Outcome fourier (fourier.schema.finalize o) image
      (fourier.run transform (fourier.schema.finalize o) image) := by
  obtain ⟨settings, hsettings⟩ := exists_spectrumSettings hv
  simp only [run, hsettings, orRefuse, Except.mapError, bind, Except.bind]
  cases hspectrum : image.spectrum? transform settings with
  | some spectrum => exact .done _ (by rintro ⟨⟩) (by rintro ⟨⟩)
  | none =>
    refine .wrongType ?_
    intro htype
    obtain ⟨type, shape, grid⟩ := image
    simp only [types, List.mem_cons, List.not_mem_nil, or_false] at htype
    rcases htype with rfl | rfl | rfl | rfl <;> cases hspectrum

/-- Resizing stops when the new size cannot be made out. -/
lemma stops_resize_iff {image : Image} {factor : Float} {text : String}
    (hfactor : o.double "scale_factor" = .ok factor) (htext : o.text "exact_res" = .ok text) :
    Stops o image resize ↔ ∃ cause, targetExtents image.shape factor text = .error cause := by
  constructor
  · rintro (_ | ⟨hfactor', htext', h⟩)
    obtain rfl := Except.ok.inj (hfactor.symm.trans hfactor')
    obtain rfl := Except.ok.inj (htext.symm.trans htext')
    exact ⟨_, h⟩
  · rintro ⟨cause, h⟩
    exact .size hfactor htext h

lemma overflows_resize_iff {image : Image} {factor : Float} {text : String}
    (hfactor : o.double "scale_factor" = .ok factor) (htext : o.text "exact_res" = .ok text) :
    Overflows o image resize ↔
      ∃ target, targetExtents image.shape factor text = .ok target ∧
        Shape.isCountable target = false := by
  constructor
  · rintro ⟨hfactor', htext', h, hcount⟩
    obtain rfl := Except.ok.inj (hfactor.symm.trans hfactor')
    obtain rfl := Except.ok.inj (htext.symm.trans htext')
    exact ⟨_, h, hcount⟩
  · rintro ⟨target, h, hcount⟩
    exact .size hfactor htext h hcount

lemma resize_outcome (hv : resize.schema.validate o = .ok ()) (image : Image) :
    Outcome resize (resize.schema.finalize o) image
      (resize.run transform (resize.schema.finalize o) image) := by
  obtain ⟨factor, text, way, hfactor, htext, hread⟩ := exists_resizeSettings hv
  have hstops := @stops_resize_iff _ image _ _ hfactor htext
  have hoverflows := @overflows_resize_iff _ image _ _ hfactor htext
  simp only [run, hread]
  cases htarget : targetExtents image.shape factor text with
  | error cause =>
    exact .stopped (hstops.2 ⟨cause, htarget⟩) (isOptionFault_of_targetExtents htarget)
  | ok target =>
    simp only [htarget, reduceCtorEq, exists_false, iff_false] at hstops
    simp only [htarget, Except.ok.injEq, exists_eq_left'] at hoverflows
    have hsize := isTarget_of_targetExtents htarget
    simp only [Except.map, orRefuse, Except.mapError, bind, Except.bind]
    cases hcount : Shape.isCountable target with
    | false =>
      rw [image.resize_eq_error transform way hsize hcount]
      exact .overflowed hstops (hoverflows.2 hcount)
    | true =>
      have hfits : ¬Overflows (resize.schema.finalize o) image resize := by
        rw [hoverflows, hcount]
        exact Bool.noConfusion
      cases hresize : image.resize transform way target with
      | ok resized => exact .done _ hstops hfits
      | error fault =>
        -- an image without an empty axis can be resized to any such target
        refine .wrongShape fault ?_
        by_contra hshape
        have hsolid : ∀ n ∈ image.shape, 0 < n := by
          simp only [takesShape, isSolid, Bool.not_eq_false, Bool.and_eq_true, List.all_eq_true,
            decide_eq_true_eq] at hshape
          exact hshape.2
        obtain ⟨resized, hresized⟩ := image.exists_resize transform way hsolid hsize hcount
        rw [hresized] at hresize
        cases hresize

lemma splitChannels_outcome (image : Image) :
    Outcome splitChannels o image (splitChannels.run transform o image) := by
  simp only [run]
  cases hcomponents : image.components? with
  | some components => exact .done _ (by rintro ⟨⟩) (by rintro ⟨⟩)
  | none =>
    refine .wrongType ?_
    intro htype
    obtain ⟨type, shape, grid⟩ := image
    simp only [types, List.mem_cons, List.not_mem_nil, or_false] at htype
    rcases htype with rfl | rfl | rfl | rfl | rfl <;> cases hcomponents

lemma toGray8_outcome (hv : toGray8.schema.validate o = .ok ()) (image : Image) :
    Outcome toGray8 (toGray8.schema.finalize o) image
      (toGray8.run transform (toGray8.schema.finalize o) image) := by
  obtain ⟨conversion, hconversion⟩ := exists_conversion hv
  simp only [run, hconversion, orRefuse, Except.mapError, bind, Except.bind]
  exact .done _ (by rintro ⟨⟩) (by rintro ⟨⟩)

lemma unaryMath_outcome (hv : unaryMath.schema.validate o = .ok ()) (image : Image) :
    Outcome unaryMath (unaryMath.schema.finalize o) image
      (unaryMath.run transform (unaryMath.schema.finalize o) image) := by
  obtain ⟨f, hf⟩ := exists_remapping hv
  simp only [run, hf]
  simp only [orRefuse, Except.mapError, bind, Except.bind]
  cases hremap : image.remap? f with
  | some result => exact .done _ (by rintro ⟨⟩) (by rintro ⟨⟩)
  | none =>
    refine .wrongType ?_
    intro htype
    obtain ⟨type, shape, grid⟩ := image
    simp only [types, List.mem_cons, List.not_mem_nil, or_false] at htype
    rcases htype with rfl | rfl | rfl | rfl | rfl | rfl | rfl | rfl <;> cases hremap

/-- With options that its schema accepts and the defaults filled in, an algorithm leads to one
of the outcomes, whatever the image is. -/
lemma run_outcome (a : Algorithm) (hv : a.schema.validate o = .ok ()) (image : Image) :
    Outcome a (a.schema.finalize o) image (a.run transform (a.schema.finalize o) image) := by
  cases a with
  | blur => exact blur_outcome hv image
  | changeType => exact changeType_outcome hv image
  | fourier => exact fourier_outcome hv image
  | resize => exact resize_outcome hv image
  | splitChannels => exact splitChannels_outcome image
  | toGray8 => exact toGray8_outcome hv image
  | unaryMath => exact unaryMath_outcome hv image

/-! ## Lists of images -/

lemma ofName?_eq_some_iff {name : String} {a : Algorithm} :
    ofName? name = some a ↔ a.name = name := by
  constructor
  · intro h
    simpa using List.find?_some h
  · rintro rfl
    cases a <;> rfl

/-- Images that pass the checks are a single image of a shape that is taken. -/
lemma exists_image_of_check {a : Algorithm} {images : List Image}
    (h : a.capabilities.check images = .ok ()) :
    ∃ image, images = [image] ∧ a.takesShape image.shape = true := by
  obtain ⟨hcount, hshape, -⟩ := Capabilities.check_eq_ok_iff.1 h
  obtain ⟨image, rfl⟩ : ∃ image, images = [image] := by
    rw [← List.length_eq_one_iff]
    simpa [capabilities] using hcount
  exact ⟨image, rfl, hshape image List.mem_cons_self⟩

lemma dispatch_singleton (a : Algorithm) (o : Options) (image : Image) :
    a.dispatch transform o [image] =
      if image.type ∈ a.types then a.run transform o image
      else .error (.unsupported (.unsupportedType a.name image.type)) := by
  have huniform : checkUniform image.type [image] = .ok () := by
    simp [checkUniform]
  simp only [dispatch, leadingType, orRefuse, Except.mapError, bind, Except.bind, huniform]
  rfl

lemma isOptionFault_of_checkUniform {type : PixelType} {images : List Image} {cause : Refusal}
    (h : checkUniform type images = .error cause) : cause.isOptionFault = false := by
  unfold checkUniform at h
  split at h
  · cases h
    rfl
  · cases h

/-- An algorithm does not refuse complete options for what the schema checks, whatever the
images are. -/
lemma isOptionFault_of_dispatch {a : Algorithm} (hv : a.schema.validate o = .ok ())
    {images : List Image} {cause : Refusal}
    (h : a.dispatch transform (a.schema.finalize o) images = .error (.unsupported cause)) :
    cause.isOptionFault = false := by
  match images with
  | [] =>
    cases h
    rfl
  | [image] =>
    rw [dispatch_singleton] at h
    split at h
    · have houtcome := @run_outcome transform o a hv image
      rw [h] at houtcome
      cases houtcome with
      | stopped _ hcause => exact hcause
      | wrongType _ => rfl
    · cases h
      rfl
  | first :: second :: rest =>
    -- two images are never worked on; only the refusal differs
    simp only [dispatch, leadingType, orRefuse, Except.mapError, bind, Except.bind] at h
    split at h
    · cases huniform : checkUniform first.type (first :: second :: rest) with
      | error e =>
        rw [huniform] at h
        cases h
        exact isOptionFault_of_checkUniform huniform
      | ok u =>
        rw [huniform] at h
        cases h
        rfl
    · cases h
      rfl

/-- Why an algorithm does not accept some images and options: the images fail a check, the
options fail a check, an image is of a type that the algorithm does not work on, or it stops
once the defaults are filled in. -/
inductive Rejects (a : Algorithm) (o : Options) (images : List Image) : Prop
  | check (h : a.capabilities.check images ≠ .ok ())
  | options (h : a.schema.validate o ≠ .ok ())
  | type {image : Image} (hmem : image ∈ images) (h : image.type ∉ a.types)
  | stop {image : Image} (hmem : image ∈ images) (h : Stops (a.schema.finalize o) image a)

/-- The only image is to be resized to more cells than can be counted. -/
def IsOversized (a : Algorithm) (o : Options) (images : List Image) : Prop :=
  ∃ image ∈ images, Overflows (a.schema.finalize o) image a

section Single

variable {a : Algorithm} {image : Image}

lemma applyChecked_singleton (hc : a.capabilities.check [image] = .ok ())
    (hv : a.schema.validate o = .ok ()) :
    a.applyChecked transform o [image] =
      if image.type ∈ a.types then a.run transform (a.schema.finalize o) image
      else .error (.unsupported (.unsupportedType a.name image.type)) := by
  rw [applyChecked, hc, hv]
  exact dispatch_singleton a (a.schema.finalize o) image

lemma rejects_singleton_iff (hc : a.capabilities.check [image] = .ok ())
    (hv : a.schema.validate o = .ok ()) :
    a.Rejects o [image] ↔ image.type ∉ a.types ∨ Stops (a.schema.finalize o) image a := by
  constructor
  · rintro (h | h | ⟨hmem, h⟩ | ⟨hmem, h⟩)
    · exact absurd hc h
    · exact absurd hv h
    · obtain rfl := List.mem_singleton.1 hmem
      exact Or.inl h
    · obtain rfl := List.mem_singleton.1 hmem
      exact Or.inr h
  · rintro (h | h)
    · exact .type List.mem_cons_self h
    · exact .stop List.mem_cons_self h

lemma isOversized_singleton_iff :
    a.IsOversized o [image] ↔ Overflows (a.schema.finalize o) image a := by
  simp [IsOversized]

end Single

lemma applyChecked_cases (a : Algorithm) (images : List Image) :
    (a.Rejects o images ∧
      ∃ cause, a.applyChecked transform o images = .error (.unsupported cause)) ∨
    (¬a.Rejects o images ∧ a.IsOversized o images ∧
      a.applyChecked transform o images = .error (.fault .outOfBounds)) ∨
    (¬a.Rejects o images ∧ ¬a.IsOversized o images ∧
      ∃ outputs, a.applyChecked transform o images = .ok outputs) := by
  cases hc : a.capabilities.check images with
  | error cause => exact Or.inl ⟨.check (by simp [hc]), cause, by rw [applyChecked, hc]; rfl⟩
  | ok u =>
    cases hv : a.schema.validate o with
    | error cause =>
      exact Or.inl ⟨.options (by simp [hv]), .optionsOfAlgorithm a.name cause,
        by rw [applyChecked, hc, hv]; rfl⟩
    | ok u =>
      -- both checks are passed: what follows is the work on the only image
      obtain ⟨image, rfl, hshape⟩ := exists_image_of_check hc
      rw [applyChecked_singleton hc hv, rejects_singleton_iff hc hv, isOversized_singleton_iff]
      by_cases htype : image.type ∈ a.types
      · rw [if_pos htype, or_iff_right (not_not_intro htype)]
        have houtcome := @run_outcome transform o a hv image
        generalize a.run transform (a.schema.finalize o) image = result at houtcome
        cases houtcome with
        | done outputs hstop hsize => exact Or.inr (Or.inr ⟨hstop, hsize, outputs, rfl⟩)
        | stopped h _ => exact Or.inl ⟨h, _, rfl⟩
        | overflowed hstop h => exact Or.inr (Or.inl ⟨hstop, h, rfl⟩)
        | wrongType h => exact absurd htype h
        | wrongShape fault h => simp [hshape] at h
      · rw [if_neg htype]
        exact Or.inl ⟨Or.inl htype, _, rfl⟩

/-- What an algorithm has worked on is neither rejected nor too large. -/
lemma accepts_of_applyChecked {a : Algorithm} {images : List Image} {outputs : List Output}
    (h : a.applyChecked transform o images = .ok outputs) :
    ¬a.Rejects o images ∧ ¬a.IsOversized o images := by
  rcases @applyChecked_cases transform o a images with
    ⟨-, cause, herror⟩ | ⟨-, -, herror⟩ | ⟨hrejects, hsize, -⟩
  · rw [h] at herror
    cases herror
  · rw [h] at herror
    cases herror
  · exact ⟨hrejects, hsize⟩

/-- No algorithm has the name, or the one that has it rejects the images and options. -/
def IsRefused (name : String) (o : Options) (images : List Image) : Prop :=
  (∀ a : Algorithm, a.name ≠ name) ∨ ∃ a : Algorithm, a.name = name ∧ a.Rejects o images

lemma name_injective {a b : Algorithm} (h : a.name = b.name) : a = b :=
  Option.some.inj ((ofName?_eq_some_iff.2 rfl).symm.trans (ofName?_eq_some_iff.2 h.symm))

lemma isRefused_name_iff {a : Algorithm} {images : List Image} :
    IsRefused a.name o images ↔ a.Rejects o images := by
  constructor
  · rintro (h | ⟨b, hb, h⟩)
    · exact absurd rfl (h a)
    · rwa [← name_injective hb]
  · exact fun h => Or.inr ⟨a, rfl, h⟩

lemma ofName_name (a : Algorithm) : ofName a.name = .ok a := by
  rw [ofName, ofName?_eq_some_iff.2 rfl]

lemma applyNamed_name (a : Algorithm) (o : Options) (images : List Image) :
    applyNamed transform a.name o images = a.applyChecked transform o images := by
  rw [applyNamed, ofName_name]
  rfl

lemma applyNamed_cases (name : String) (images : List Image) :
    (IsRefused name o images ∧
      ∃ cause, applyNamed transform name o images = .error (.unsupported cause)) ∨
    (¬IsRefused name o images ∧ (∃ a : Algorithm, a.name = name ∧ a.IsOversized o images) ∧
      applyNamed transform name o images = .error (.fault .outOfBounds)) ∨
    (¬IsRefused name o images ∧ ¬(∃ a : Algorithm, a.name = name ∧ a.IsOversized o images) ∧
      ∃ outputs, applyNamed transform name o images = .ok outputs) := by
  cases hname : ofName? name with
  | none =>
    refine Or.inl ⟨Or.inl fun a ha => ?_, .unknownAlgorithm name, ?_⟩
    · rw [ofName?_eq_some_iff.2 ha] at hname
      cases hname
    · rw [applyNamed, ofName, hname]
      rfl
  | some a =>
    obtain rfl := ofName?_eq_some_iff.1 hname
    -- the name belongs to one algorithm only
    have honly : (∃ b : Algorithm, b.name = a.name ∧ b.IsOversized o images) ↔
        a.IsOversized o images :=
      ⟨fun ⟨_, hb, h⟩ => name_injective hb ▸ h, fun h => ⟨a, rfl, h⟩⟩
    rw [isRefused_name_iff, honly, applyNamed_name]
    exact applyChecked_cases a images

/-- If applying an algorithm does not fail, it has worked on the only image, with the defaults
filled in. -/
lemma exists_run_of_applyNamed {name : String} {images : List Image} {outputs : List Output}
    (h : applyNamed transform name o images = .ok outputs) :
    ∃ a image, ofName? name = some a ∧ images = [image] ∧
      a.run transform (a.schema.finalize o) image = .ok outputs := by
  cases hname : ofName? name with
  | none =>
    rw [applyNamed, ofName, hname] at h
    cases h
  | some a =>
    obtain rfl := ofName?_eq_some_iff.1 hname
    rw [applyNamed_name] at h
    have hrejects := (accepts_of_applyChecked h).1
    have hc : a.capabilities.check images = .ok () := by_contra fun hc => hrejects (.check hc)
    have hv : a.schema.validate o = .ok () := by_contra fun hv => hrejects (.options hv)
    obtain ⟨image, rfl, -⟩ := exists_image_of_check hc
    rw [applyChecked_singleton hc hv] at h
    split at h
    · exact ⟨a, image, rfl, rfl, h⟩
    · cases h

/-- **When applying an algorithm fails.**  It is refused exactly if no algorithm has the name, or
the one that has it rejects the images and options.  Otherwise it fails exactly if an image is to be
resized to more cells than can be counted, and with that fault.  With options that the schema of an
algorithm accepts, complete as they are then, no images make it refuse an option for what the schema
checks. -/
theorem applyNamed_classified (transform : LineTransform) (name : String) (o : Options)
    (images : List Image) :
    ((∃ cause, applyNamed transform name o images = .error (.unsupported cause)) ↔
      IsRefused name o images) ∧
    (∀ failure, applyNamed transform name o images = .error failure →
      (∃ cause, failure = .unsupported cause) ∨ failure = .fault .outOfBounds) ∧
    (applyNamed transform name o images = .error (.fault .outOfBounds) ↔
      ¬IsRefused name o images ∧ ∃ a : Algorithm, a.name = name ∧ a.IsOversized o images) ∧
    (∀ a : Algorithm, a.schema.validate o = .ok () → ∀ cause,
      a.dispatch transform (a.schema.finalize o) images = .error (.unsupported cause) →
        cause.isOptionFault = false) := by
  refine ⟨?_, ?_, ?_, fun a hv cause h => isOptionFault_of_dispatch hv h⟩
  all_goals
    rcases @applyNamed_cases transform o name images with
      ⟨hrefused, cause, herror⟩ | ⟨hnot, hsize, herror⟩ | ⟨hnot, hsize, outputs, hok⟩
  · exact iff_of_true ⟨_, herror⟩ hrefused
  · exact iff_of_false (by simp [herror]) hnot
  · exact iff_of_false (by simp [hok]) hnot
  · exact fun failure hfailure =>
      Or.inl ⟨cause, Except.error.inj (hfailure.symm.trans herror)⟩
  · exact fun failure hfailure => Or.inr (Except.error.inj (hfailure.symm.trans herror))
  · intro failure hfailure
    rw [hok] at hfailure
    cases hfailure
  · exact iff_of_false (by simp [herror]) fun h => h.1 hrefused
  · exact iff_of_true herror ⟨hnot, hsize⟩
  · exact iff_of_false (by simp [hok]) fun h => hsize h.2

end Algorithm

end Raster
