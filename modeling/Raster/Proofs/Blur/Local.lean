import Raster.Proofs.Blur.Tap
/-!
# Blurring is local

A kernel whose right half has `k` weights reaches less than `k` samples away from its centre, and
never off the line.  So a blurred sample depends on the samples of its line less than `k` away
(`HalfKernel.convolveLine_congr`), and a pixel of a blurred grid on the pixels of its line less than
`k` away (`Grid.blurAxis_local`).
-/

namespace Raster

/-- Two coordinates that agree off an axis and are less than `k` apart along it. -/
structure Shape.IsNear (axis k : Nat) (d e : List Nat) : Prop where
  off_axis : ∀ a, a ≠ axis → d[a]? = e[a]?
  along : ∀ p q, d[axis]? = some p → e[axis]? = some q → p < q + k ∧ q < p + k

namespace HalfKernel

variable {t : PixelType} {right : HalfKernel} {b : Boundary} {n : Nat}

lemma natAbs_lt_of_mem_taps {tap : Int × Float} (h : tap ∈ right.taps) :
    tap.1.natAbs < right.length := by
  rw [taps_eq, List.mem_map] at h
  obtain ⟨distance, hdistance, rfl⟩ := h
  exact natAbs_lt_of_mem_distances hdistance

/-- A blurred sample depends on the samples near it alone. -/
lemma convolveLine_congr {line line' : Vector t.Pixel n} {i : Fin n}
    (h : ∀ j : Fin n, i.val < j.val + right.length → j.val < i.val + right.length →
      line.get j = line'.get j) :
    (convolveLine t right b line).get i = (convolveLine t right b line').get i := by
  rw [get_convolveLine, get_convolveLine]
  refine congrArg t.ofSamples (congrArg Vector.ofFn (funext fun c => ?_))
  refine List.foldl_ext _ _ 0.0 fun sum tap htap => ?_
  unfold contribution
  cases hmet : b.resolve i tap.1 with
  | none => rfl
  | some j =>
    obtain ⟨hleft, hright⟩ := Boundary.near_of_resolve (natAbs_lt_of_mem_taps htap) hmet
    simp only [h j hleft hright]

end HalfKernel

namespace Grid

variable {t : PixelType} {s : Shape} {right : HalfKernel} {b : Boundary} {axis : Fin s.length}

/-- A pixel of a blurred grid depends on the pixels near it on its line alone. -/
lemma exists_get?_blurAxis {g h : Grid s t.Pixel} {d : List Nat} (hd : s.Contains d)
    (hagree : ∀ e, s.Contains e → Shape.IsNear axis right.length d e → g.get? e = h.get? e) :
    ∃ v, (g.blurAxis right b axis).get? d = .ok v ∧ (h.blurAxis right b axis).get? d = .ok v := by
  obtain ⟨line, p, hp, hline, hcell⟩ :=
    exists_get?_mapLines hd axis (convolveLine t right b) g
  obtain ⟨line', p', hp', hline', hcell'⟩ :=
    exists_get?_mapLines hd axis (convolveLine t right b) h
  obtain rfl : p = p' := Fin.ext (Option.some.inj (hp.symm.trans hp'))
  refine ⟨_, hcell, hcell'.trans (congrArg Except.ok (HalfKernel.convolveLine_congr ?_).symm)⟩
  intro q hleft hright
  have hnear : Shape.IsNear axis right.length d (d.set axis q) := by
    refine ⟨fun a ha => (List.getElem?_set_ne (Ne.symm ha)).symm, fun p₀ q₀ hp₀ hq₀ => ?_⟩
    rw [hp, Option.some.injEq] at hp₀
    have haxis : axis.val < d.length := by
      rw [hd.length_eq]
      exact axis.isLt
    rw [List.getElem?_set_self haxis, Option.some.injEq] at hq₀
    omega
  have hread := hagree (d.set axis q) (hd.set axis.isLt q.isLt) hnear
  rw [hline, hline'] at hread
  exact Except.ok.inj hread

/-- **Blurring is local.**  Laid over any sample of any line, a kernel of any length meets samples
of that line alone, and no look-up fails.  If two grids agree on the coordinates that are on the
line through a coordinate and nearer to it than the kernel is long, the blurred grids have the same
pixel there; and if they agree on a whole line, the blurred grids do. -/
theorem blurAxis_local (t : PixelType) (s : Shape) (axis : Fin s.length) (right : HalfKernel)
    (b : Boundary) :
    (∀ g : Grid s t.Pixel, g.sweepTaps right b axis = .ok (g.blurAxis right b axis)) ∧
    (∀ (g h : Grid s t.Pixel) (d : List Nat), s.Contains d →
      (∀ e, s.Contains e → Shape.IsNear axis right.length d e → g.get? e = h.get? e) →
        ∃ v, (g.blurAxis right b axis).get? d = .ok v ∧
          (h.blurAxis right b axis).get? d = .ok v) ∧
    ∀ (g h : Grid s t.Pixel) (d : List Nat), s.Contains d →
      (∀ e, s.Contains e → (∀ a, a ≠ axis.val → d[a]? = e[a]?) → g.get? e = h.get? e) →
        ∀ e, s.Contains e → (∀ a, a ≠ axis.val → d[a]? = e[a]?) →
          (g.blurAxis right b axis).get? e = (h.blurAxis right b axis).get? e := by
  refine ⟨fun g => g.sweepTaps_eq right b axis, fun g h d hd hagree => ?_,
    fun g h d hd hagree e he hline => ?_⟩
  · exact exists_get?_blurAxis hd hagree
  · have hagree' : ∀ f, s.Contains f → Shape.IsNear axis right.length e f →
        g.get? f = h.get? f := by
      intro f hf hnear
      exact hagree f hf fun a ha => (hline a ha).trans (hnear.off_axis a ha)
    obtain ⟨v, hg, hh⟩ := exists_get?_blurAxis (b := b) he hagree'
    rw [hg, hh]

/-- Two grids of two columns, which agree on the first two cells of the first column: with two
weights, they are blurred to the same pixel at the top of this column. -/
theorem blurAxis_local_two_columns :
    let g : Grid [2, 3] (PixelType.gray .eight).Pixel := ⟨#v[1, 9, 2, 9, 3, 9]⟩
    let h : Grid [2, 3] (PixelType.gray .eight).Pixel := ⟨#v[1, 0, 2, 0, 7, 0]⟩
    let axis : Fin ([2, 3] : Shape).length := ⟨1, by decide⟩
    let right : HalfKernel := [0.5, 0.25]
    (Shape.Contains [2, 3] [0, 0] ∧
      ∀ d, Shape.Contains [2, 3] d → Shape.IsNear axis right.length [0, 0] d →
        g.get? d = h.get? d) ∧
    g.get? [0, 2] ≠ h.get? [0, 2] ∧ g.get? [1, 0] ≠ h.get? [1, 0] ∧
    ∃ v, (g.blurAxis right .mirror axis).get? [0, 0] = .ok v ∧
      (h.blurAxis right .mirror axis).get? [0, 0] = .ok v := by
  intro g h axis right
  have hc : Shape.Contains [2, 3] [0, 0] := by simp [Shape.Contains]
  have hagree : ∀ d, Shape.Contains [2, 3] d → Shape.IsNear axis right.length [0, 0] d →
      g.get? d = h.get? d := by
    intro d hd hnear
    obtain ⟨x, y, rfl⟩ := List.length_eq_two.1 hd.length_eq
    have hx : x = 0 := by simpa using (hnear.off_axis 0 (by decide)).symm
    have hy : y < 0 + 2 := (hnear.along 0 y rfl rfl).2
    subst hx
    obtain rfl | rfl : y = 0 ∨ y = 1 := by omega
    · rfl
    · rfl
  refine ⟨⟨hc, hagree⟩, by decide, by decide, ?_⟩
  exact (blurAxis_local (.gray .eight) [2, 3] axis right .mirror).2.1 g h [0, 0] hc hagree

end Grid

end Raster
