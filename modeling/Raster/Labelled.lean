import Raster.Algorithm.Apply
import Raster.Path
/-!
# Labelled images

A label is the path under which an image is known: where it was loaded from, and where it
will be written.  `derivedLabel` names an output after its input and its role, and
`applyLabelled` works on one image after the other, so that a chain of algorithms keeps track
of where every image came from.
-/

namespace Raster

/-- An image and its label. -/
structure Labelled where
  label : Path
  image : Image

/-- The label of the output with some role.  An output without a role keeps the label of its
input; any other has the role after the stem, and the extension of the input. -/
def derivedLabel (input : Path) (role : String) : Path :=
  if role = "" then input
  else
    let name := input.stem?.getD [] ++ '_' :: role.toList
    let label := input.withFileName name
    match input.extension? with
    | some extension => label.setExtension extension
    | none => label

/-- An output of an algorithm together with the image that it was made of. -/
structure LabelledOutput where
  label : Path
  /-- The number of the image among the inputs. -/
  source : Nat
  result : Derived
  image : Image

/-- The output as an image. -/
def LabelledOutput.labelled (o : LabelledOutput) : Labelled := ⟨o.label, o.image⟩

namespace Algorithm

/-- Apply an algorithm to each image by itself, from image number `first` on. -/
def applyEach (transform : LineTransform) (name : String) (o : Options) :
    (first : Nat) → List Labelled → Except Failure (List LabelledOutput)
  | _, [] => .ok []
  | first, i :: rest => do
    let outputs ← applyNamed transform name o [i.image]
    let others ← applyEach transform name o (first + 1) rest
    return outputs.map (fun output =>
      ⟨derivedLabel i.label output.role, first, output.result, output.result.get i.image⟩) ++ others

/-- Apply the algorithm of a given name to each image by itself. -/
def applyLabelled (transform : LineTransform) (name : String) (o : Options)
    (images : List Labelled) : Except Failure (List LabelledOutput) :=
  applyEach transform name o 0 images

end Algorithm

/-! ## Chains -/

/-- One step of a chain: an algorithm and its options. -/
structure ChainStep where
  algorithm : String
  options : Options

/-- Apply one step. -/
def ChainStep.apply (transform : LineTransform) (s : ChainStep) (images : List Labelled) :
    Except Failure (List Labelled) := do
  let outputs ← Algorithm.applyLabelled transform s.algorithm s.options images
  return outputs.map LabelledOutput.labelled

/-- Apply one step after the other, each to the images of the one before. -/
def applyChain (transform : LineTransform) (steps : List ChainStep) (images : List Labelled) :
    Except Failure (List Labelled) :=
  steps.foldlM (fun images s => s.apply transform images) images

end Raster
