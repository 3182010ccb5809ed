import Raster.Proofs.Grid.Sweep
import Raster.Resize.Gather
import Raster.Resize.Image
/-!
# Resizing does not fail

The extents that an image is resized to are as many as its own, and none of them is zero
(`isTarget_of_targetExtents`).  That is all that the rest of the work asks for: no axis shrinks
to nothing, and each new cell finds a cell in the source, as long as the source has no empty
axis and the new cells can be counted (`Grid.exists_nearest_get?`, `Image.exists_resize`).  A
target whose cells cannot be counted is the only fault (`Image.resize_eq_error`).
-/

namespace Raster

/-! ## The new extents -/

@[simp] lemma length_scaleExtents (factor : Float) (extents : List Nat) :
    (scaleExtents factor extents).length = extents.length :=
  List.length_map _

lemma pos_of_mem_scaleExtents {factor : Float} {extents : List Nat} {m : Nat}
    (h : m ∈ scaleExtents factor extents) : 0 < m := by
  obtain ⟨n, -, rfl⟩ := List.mem_map.1 h
  omega

/-- The new extents are as many as the old ones, and each of them is positive. -/
structure IsTarget (extents target : List Nat) : Prop where
  length_eq : target.length = extents.length
  pos : ∀ m ∈ target, 0 < m

lemma isTarget_scaleExtents (factor : Float) (extents : List Nat) :
    IsTarget extents (scaleExtents factor extents) :=
  ⟨length_scaleExtents factor extents, fun _ => pos_of_mem_scaleExtents⟩

lemma isTarget_of_completeExtents {extents requested target : List Nat} {text : String}
    (h : completeExtents extents text requested = .ok target) : IsTarget extents target := by
  unfold completeExtents at h
  split at h
  · rename_i n axis hfilter
    -- the entry that fixes the scale is not zero
    have hn : n ≠ 0 := by
      have hmem := List.mem_singleton_self (n, axis)
      rw [← hfilter] at hmem
      simpa using (List.mem_filter.1 hmem).2
    obtain rfl := Except.ok.inj h
    refine ⟨by simp, fun m hm => ?_⟩
    rcases List.mem_or_eq_of_mem_set hm with hm | rfl
    · exact pos_of_mem_scaleExtents hm
    · exact Nat.pos_of_ne_zero hn
  · cases h

lemma isTarget_of_requestedExtents {extents target : List Nat} {text : String}
    (h : requestedExtents extents text = .ok target) : IsTarget extents target := by
  unfold requestedExtents at h
  cases hmap : (Text.splitChars ',' text.toList).mapM resolutionEntry with
  | error e =>
    rw [hmap] at h
    cases h
  | ok requested =>
    rw [hmap] at h
    simp only [bind, Except.bind] at h
    split at h
    · cases h
    · rename_i hlength
      split at h
      · rename_i hall
        obtain rfl := Except.ok.inj h
        refine ⟨by simpa using hlength, fun m hm => ?_⟩
        have hm' := List.all_eq_true.1 hall m hm
        exact Nat.pos_of_ne_zero (by simpa using hm')
      · exact isTarget_of_completeExtents h

lemma isTarget_of_targetExtents {extents target : List Nat} {factor : Float} {text : String}
    (h : targetExtents extents factor text = .ok target) : IsTarget extents target := by
  unfold targetExtents at h
  split at h
  · split at h
    · obtain rfl := Except.ok.inj h
      exact isTarget_scaleExtents factor extents
    · cases h
  · exact isTarget_of_requestedExtents h

/-! ## The work -/

lemma sourceComponent_lt {n : Nat} (hn : 0 < n) (m c : Nat) : sourceComponent n m c < n := by
  unfold sourceComponent
  omega

/-- Each cell of the new grid finds a cell of the source. -/
lemma contains_sourceCoordinate {source target : Shape} {c : List Nat}
    (hsource : ∀ n ∈ source, 0 < n) (htarget : target.length = source.length)
    (hc : c.length = source.length) : source.Contains (sourceCoordinate source target c) := by
  induction source generalizing target c with
  | nil =>
    cases target with
    | nil => exact trivial
    | cons _ _ => simp at htarget
  | cons n source ih =>
    rw [List.forall_mem_cons] at hsource
    cases target with
    | nil => simp at htarget
    | cons m target =>
      cases c with
      | nil => simp at hc
      | cons k c =>
        exact ⟨sourceComponent_lt hsource.1 m k,
          ih hsource.2 (by simpa using htarget) (by simpa using hc)⟩

namespace Grid

variable {s target : Shape} {α : Type}

lemma nearest_eq (g : Grid s α) (hcount : target.isCountable = true) :
    g.nearest target = (do
      let cells ← (Vector.range target.size).mapM fun i =>
        g.fetch (sourceCoordinate s target (target.coordinate i))
      return ⟨cells⟩) :=
  if_pos hcount

lemma nearest_eq_error (g : Grid s α) (hcount : target.isCountable = false) :
    g.nearest target = .error .outOfBounds :=
  if_neg (Bool.eq_false_iff.1 hcount)

/-- Each cell of a sampled grid is the cell of the source that its coordinate leads to. -/
lemma exists_nearest_get? (g : Grid s α) (hs : ∀ n ∈ s, 0 < n)
    (htarget : target.length = s.length) (hcount : target.isCountable = true) :
    ∃ sampled, g.nearest target = .ok sampled ∧
      ∀ c, target.Contains c → sampled.get? c = g.get? (sourceCoordinate s target c) := by
  have hsource : ∀ i : Fin target.size,
      ∃ v, g.get? (sourceCoordinate s target (target.coordinate i)) = .ok v := fun i =>
    g.exists_get? (contains_sourceCoordinate hs htarget
      ((Shape.length_coordinate target i).trans htarget))
  choose cell hcell using hsource
  refine ⟨⟨Vector.ofFn cell⟩, ?_, fun c hc => ?_⟩
  · have hcells : ((Vector.range target.size).mapM fun i =>
        g.fetch (sourceCoordinate s target (target.coordinate i))) = .ok (Vector.ofFn cell) := by
      refine vector_mapM_range fun i => ?_
      rw [fetch, hcell i]
      rfl
    rw [g.nearest_eq hcount, hcells]
    rfl
  · have hplace := hcell ⟨target.flatIndex c, hc.flatIndex_lt⟩
    rw [hc.coordinate_flatIndex] at hplace
    rw [hplace, get?_eq_ok _ hc, get_ofFn]

end Grid

lemma exists_shrinkKernels {s : Shape} {target : List Nat} (h : ∀ m ∈ target, 0 < m) :
    ∃ kernels, shrinkKernels s target = .ok kernels := by
  refine exists_filterMapM fun axis _ => ?_
  cases htarget : target[axis.val]? with
  | none => exact ⟨none, rfl⟩
  | some m =>
    have hm : m ≠ 0 := Nat.ne_of_gt (h m (List.mem_of_getElem? htarget))
    dsimp only
    split
    · refine ⟨some (axis, HalfKernel.gaussian (shrinkSigma (s.get axis) m)), ?_⟩
      rw [shrinkKernel, if_neg hm]
      rfl
    · exact ⟨none, rfl⟩

/-- An image is prepared for any extents without a zero, and keeps its type and its shape. -/
lemma Image.exists_antiAlias (transform : LineTransform) (way : AntiAliasing)
    {target : List Nat} (image : Image) (h : ∀ m ∈ target, 0 < m) :
    ∃ prepared grid, image.antiAlias transform way target = .ok prepared ∧
      prepared.get image = ⟨image.type, image.shape, grid⟩ := by
  cases way with
  | none => exact ⟨.unchanged, image.grid, rfl, rfl⟩
  | fast =>
    obtain ⟨kernels, hkernels⟩ := @exists_shrinkKernels image.shape target h
    rw [Image.antiAlias, hkernels]
    by_cases hempty : kernels.isEmpty
    · exact ⟨.unchanged, image.grid, if_pos hempty, rfl⟩
    · exact ⟨.fresh _, image.grid.smooth kernels, if_neg hempty, rfl⟩
  | clever =>
    rw [Image.antiAlias]
    by_cases hshrinks : shrinks image.shape target
    · exact ⟨.fresh _, image.grid.limitBand transform target, if_pos hshrinks, rfl⟩
    · exact ⟨.unchanged, image.grid, if_neg hshrinks, rfl⟩

lemma Image.nearest_eq_ok_iff {target : Shape} {type : PixelType} {shape : Shape}
    {grid : Grid shape type.Pixel} {sampled : Grid target type.Pixel} :
    Image.nearest target ⟨type, shape, grid⟩ = .ok ⟨type, target, sampled⟩ ↔
      grid.nearest target = .ok sampled := by
  rw [Image.nearest]
  cases grid.nearest target with
  | error fault => simp [bind, Except.bind]
  | ok found => simp [bind, Except.bind, pure, Except.pure]

section Target

variable {target : Shape} {image : Image}

/-- **An image without an empty axis can be resized to any target whose cells can be counted.** -/
lemma Image.exists_resize (transform : LineTransform) (way : AntiAliasing)
    (hs : ∀ n ∈ image.shape, 0 < n) (h : IsTarget image.shape target)
    (hcount : target.isCountable = true) :
    ∃ grid, image.resize transform way target = .ok ⟨image.type, target, grid⟩ := by
  obtain ⟨prepared, source, hprepared, hsource⟩ := image.exists_antiAlias transform way h.pos
  obtain ⟨grid, hgrid, -⟩ := source.exists_nearest_get? hs h.length_eq hcount
  refine ⟨grid, ?_⟩
  rw [Image.resize, hprepared]
  show (prepared.get image).nearest target = _
  rw [hsource]
  exact Image.nearest_eq_ok_iff.2 hgrid

/-- An image is not resized to a target whose cells cannot be counted. -/
lemma Image.resize_eq_error (transform : LineTransform) (way : AntiAliasing)
    (h : IsTarget image.shape target) (hcount : target.isCountable = false) :
    image.resize transform way target = .error .outOfBounds := by
  obtain ⟨prepared, source, hprepared, hsource⟩ := image.exists_antiAlias transform way h.pos
  rw [Image.resize, hprepared]
  show (prepared.get image).nearest target = _
  rw [hsource, Image.nearest, source.nearest_eq_error hcount]
  rfl

end Target

end Raster
