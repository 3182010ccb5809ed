import Mathlib.Tactic.Common
import Raster.Algorithm.Capabilities
/-!
# What the checks of images say
-/

namespace Raster

namespace Capabilities

/-- Images pass the checks exactly if their number is taken, the shape of each is, and all have
the shape of the first where that is asked for. -/
lemma check_eq_ok_iff {c : Capabilities} {images : List Image} :
    c.check images = .ok () ↔
      c.takesCount images.length = true ∧ (∀ i ∈ images, c.takesShape i.shape = true) ∧
        (c.sameShape = true → ∀ first ∈ images.head?, ∀ i ∈ images, i.shape = first.shape) := by
  unfold check
  cases hcount : c.takesCount images.length with
  | false => simp
  | true =>
    cases hshape : images.find? fun i => !c.takesShape i.shape with
    | some image =>
      have hmem := List.mem_of_find?_eq_some hshape
      have hnot : c.takesShape image.shape = false := by simpa using List.find?_some hshape
      refine iff_of_false (by simp) fun h => ?_
      rw [h.2.1 image hmem] at hnot
      cases hnot
    | none =>
      have hall : ∀ i ∈ images, c.takesShape i.shape = true := by
        simpa [List.find?_eq_none] using hshape
      cases images with
      | nil => simp
      | cons first rest =>
        cases hsame : c.sameShape with
        | false => simpa using hall
        | true => simpa using fun _ => hall

end Capabilities

end Raster
