import Raster.Labelled
import Raster.Proofs.Algorithm.Outcome
/-!
# Steps of a chain

A step works on one labelled image after the other: what it makes of a list is what it makes of
the first image, followed by what it makes of the others (`ChainStep.apply_cons`).  Applied to
one image, an algorithm looks at the shape, the options and the type, in this order, before it
works (`Algorithm.applyNamed_singleton`).
-/

namespace Raster

variable {transform : LineTransform}

namespace Algorithm

lemma check_singleton (a : Algorithm) (image : Image) :
    a.capabilities.check [image] =
      if a.takesShape image.shape then .ok () else .error (.imageShape a.name image.shape) := by
  cases hshape : a.takesShape image.shape with
  | true => simp [Capabilities.check, capabilities, hshape]
  | false => simp [Capabilities.check, capabilities, hshape]

/-- What applying an algorithm to one image comes down to. -/
lemma applyNamed_singleton (a : Algorithm) (o : Options) (image : Image) :
    applyNamed transform a.name o [image] =
      if a.takesShape image.shape then do
        orRefuse ((a.schema.validate o).mapError (.optionsOfAlgorithm a.name))
        if image.type ∈ a.types then a.run transform (a.schema.finalize o) image
        else .error (.unsupported (.unsupportedType a.name image.type))
      else .error (.unsupported (.imageShape a.name image.shape)) := by
  rw [applyNamed_name, applyChecked, check_singleton, dispatch_singleton]
  by_cases hshape : a.takesShape image.shape = true
  · rw [if_pos hshape, if_pos hshape]
    rfl
  · rw [if_neg hshape, if_neg hshape]
    rfl

/-- An image that is taken, with options that are accepted, is worked on. -/
lemma applyNamed_eq_run {a : Algorithm} {o : Options} {image : Image}
    (hshape : a.takesShape image.shape = true) (hv : a.schema.validate o = .ok ())
    (htype : image.type ∈ a.types) :
    applyNamed transform a.name o [image] = a.run transform (a.schema.finalize o) image := by
  rw [applyNamed_singleton, if_pos hshape, hv, if_pos htype]
  rfl

end Algorithm

namespace ChainStep

/-- What a step makes of one image. -/
def applyOne (transform : LineTransform) (s : ChainStep) (i : Labelled) :
    Except Failure (List Labelled) := do
  let outputs ← Algorithm.applyNamed transform s.algorithm s.options [i.image]
  return outputs.map fun output => ⟨derivedLabel i.label output.role, output.result.get i.image⟩

variable {s : ChainStep}

/-- The number of the first image only says which image an output is made of. -/
lemma applyEach_labelled (first : Nat) (images : List Labelled) :
    (do
      let outputs ← Algorithm.applyEach transform s.algorithm s.options first images
      return outputs.map LabelledOutput.labelled) =
    (do
      let results ← images.mapM (s.applyOne transform)
      return results.flatten) := by
  induction images generalizing first with
  | nil => rfl
  | cons i rest ih =>
    simp only [Algorithm.applyEach, applyOne, List.mapM_cons, bind_assoc, pure_bind,
      List.map_append, List.map_map, List.flatten_cons, Function.comp_def,
      LabelledOutput.labelled]
    refine bind_congr fun outputs => ?_
    generalize outputs.map _ = here
    have hrest := congrArg (· >>= fun others => pure (here ++ others)) (ih (first + 1))
    simpa only [bind_assoc, pure_bind] using hrest

lemma apply_eq_mapM (images : List Labelled) :
    s.apply transform images = (do
      let results ← images.mapM (s.applyOne transform)
      return results.flatten) :=
  applyEach_labelled 0 images

lemma apply_nil : s.apply transform [] = .ok [] :=
  rfl

lemma apply_cons (i : Labelled) (rest : List Labelled) :
    s.apply transform (i :: rest) = (do
      let first ← s.applyOne transform i
      let others ← s.apply transform rest
      return first ++ others) := by
  simp only [apply_eq_mapM, List.mapM_cons, bind_assoc, pure_bind, List.flatten_cons]

end ChainStep

end Raster
