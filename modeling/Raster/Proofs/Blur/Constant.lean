import Mathlib.Logic.Function.Iterate
import Raster.Proofs.Blur.Tap
/-!
# Blurring a grid of one value

Where a line goes on beyond its ends, every tap meets a sample.  So on a grid all of whose cells
have one value each cell adds up all weights of the kernel, from the left end to the right, each
multiplied with that value: the blurred grid has one value again, which is `HalfKernel.blurredPixel`
of the old one wherever the cell lies (`Grid.blurAxis_fill`).
-/

namespace Raster

/-- What a kernel makes of a pixel that it meets at every tap. -/
def HalfKernel.blurredPixel (t : PixelType) (right : HalfKernel) (v : t.Pixel) : t.Pixel :=
  t.ofSamples (Vector.ofFn fun c =>
    right.taps.foldl (fun sum (_, weight) => sum + weight * (t.samples v).get c) 0.0)

namespace HalfKernel

variable {t : PixelType} {right : HalfKernel} {b : Boundary} {n : Nat}

lemma get_convolveLine_of_constant (hb : b ≠ .zero) {line : Vector t.Pixel n} {v : t.Pixel}
    (h : ∀ j, line.get j = v) (i : Fin n) :
    (convolveLine t right b line).get i = right.blurredPixel t v := by
  rw [get_convolveLine]
  refine congrArg t.ofSamples (congrArg Vector.ofFn (funext fun c => ?_))
  refine List.foldl_ext _ _ 0.0 fun sum tap _ => ?_
  obtain ⟨j, hj⟩ := Boundary.exists_resolve hb i tap.1
  simp only [contribution, hj, h]

end HalfKernel

namespace Grid

variable {t : PixelType} {s : Shape} {right : HalfKernel} {b : Boundary}

@[simp] lemma get_fill {α : Type} (v : α) (i : Fin s.size) : (fill s v).cells.get i = v :=
  Vector.getElem_replicate i.isLt

/-- All cells of a grid have one value exactly if the grid is filled with it. -/
lemma eq_fill_iff {α : Type} {g : Grid s α} {v : α} : g = fill s v ↔ ∀ u ∈ g.toList, u = v := by
  constructor
  · rintro rfl u hu
    exact List.eq_of_mem_replicate (n := s.size) (by simpa [fill, toList] using hu)
  · intro h
    refine ext_get fun i => ?_
    rw [get_fill]
    exact h _ (by simp [toList, Vector.get])

lemma blurAxis_fill (hb : b ≠ .zero) (axis : Fin s.length) (v : t.Pixel) :
    (fill s v).blurAxis right b axis = fill s (right.blurredPixel t v) := by
  refine ext_get fun i => ?_
  rw [blurAxis, get_mapLines, get_fill]
  refine HalfKernel.get_convolveLine_of_constant hb (fun p => ?_) _
  rw [get_line, get_fill]

/-- Each axis changes the value once, in whatever order the axes come. -/
lemma blurAxes_fill (hb : b ≠ .zero) (axes : List (Fin s.length)) (v : t.Pixel) :
    (fill s v).blurAxes right b axes = fill s ((right.blurredPixel t)^[axes.length] v) := by
  rw [blurAxes]
  induction axes generalizing v with
  | nil => rfl
  | cons axis axes ih =>
    rw [List.foldl_cons, blurAxis_fill hb, ih, List.length_cons, Function.iterate_succ_apply]

/-- **Blurring keeps a grid of one value a grid of one value.**  Where a line goes on beyond its
ends, blurring along some axes does not fail and makes all pixels of such a grid equal again; what
they are depends on the old value, the kernel and the number of the axes, and neither on the shape
nor on how the line goes on. -/
theorem blurAxes_constant (t : PixelType) (s : Shape) (right : HalfKernel) (b : Boundary)
    (hb : b = .mirror ∨ b = .nearest) (axes : List (Fin s.length)) (v : t.Pixel)
    (g : Grid s t.Pixel) (hg : ∀ u ∈ g.toList, u = v) :
    ∃ blurred, g.sweepAxes right b (axes.map Fin.val) = .ok blurred ∧
      g.blurAxes right b axes = blurred ∧
      ∀ u ∈ blurred.toList, u = (right.blurredPixel t)^[axes.length] v := by
  have hzero : b ≠ .zero := by
    rcases hb with rfl | rfl
    · decide
    · decide
  refine ⟨_, g.sweepAxes_eq right b axes, rfl, ?_⟩
  rw [← eq_fill_iff, eq_fill_iff.2 hg]
  exact blurAxes_fill hzero axes v

/-- A kernel that is longer than either axis halves a level of eight along the first axis, and
halves it again along the second. -/
theorem blurAxes_constant_two_by_one :
    let g : Grid [2, 1] (PixelType.gray .eight).Pixel := ⟨#v[8, 8]⟩
    let right : HalfKernel := [0.0, 0.125, 0.125]
    (Boundary.mirror = .mirror ∨ Boundary.mirror = .nearest) ∧ (∀ u ∈ g.toList, u = 8) ∧
    ∃ blurred, g.sweepAxes right .mirror [0, 1] = .ok blurred ∧
      ∀ u ∈ blurred.toList, u = 2 := by
  intro g right
  have hg : ∀ u ∈ g.toList, u = 8 := by decide
  obtain ⟨blurred, hsweep, -, hvalue⟩ := blurAxes_constant (.gray .eight) [2, 1] right .mirror
    (.inl rfl) [⟨0, by decide⟩, ⟨1, by decide⟩] 8 g hg
  have hquarter : ((HalfKernel.blurredPixel (.gray .eight) [0.0, 0.125, 0.125])^[2] 8 : BitVec 8) =
      2 := by decide +kernel
  exact ⟨.inl rfl, hg, blurred, hsweep, fun u hu => (hvalue u hu).trans hquarter⟩

end Grid

end Raster
