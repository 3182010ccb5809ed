import Raster.Algorithm.Apply
import Raster.Proofs.Channels.Component
import Raster.Proofs.Traversal
/-!
# Filters work on the channels one by one

A filter sees a pixel as its samples, and no sample of one channel reaches another channel.  So
what it makes of the image of a component is the image of this component of what it makes of the
image.  This is shown from a line of pixels upwards, for blurring, for both kinds of
anti-aliasing and for sampling; `IsChannelwise` says it of an operation on images that may fail.
-/

namespace Raster

variable {t : PixelType} {s : Shape}

lemma get_map_ofFn {n : Nat} {α β : Type} (f : Fin n → α) (u : α → β) (c : Fin n) :
    ((Vector.ofFn f).map u).get c = u (f c) :=
  (Vector.getElem_map u c.isLt).trans (congrArg u (get_ofFn f c))

namespace Component

variable (k : Component t)

/-! ## Blurring -/

lemma channelLine_part {n : Nat} (line : Vector t.Pixel n) (c : Fin k.type.channels) :
    channelLine k.type (line.map k.part) c = channelLine t line k.channel := by
  rw [channelLine, channelLine, Vector.map_map]
  exact congrArg (Vector.map · line) (funext fun p => k.get_samples_part p c)

lemma convolveLine_part (right : HalfKernel) (b : Boundary) {n : Nat} (line : Vector t.Pixel n) :
    convolveLine k.type right b (line.map k.part) = (convolveLine t right b line).map k.part := by
  refine Vector.ext fun i hi => ?_
  rw [Vector.getElem_map, convolveLine, convolveLine, Vector.getElem_ofFn, Vector.getElem_ofFn]
  refine (k.part_ofSamples _ _ fun c => ?_).symm
  rw [get_map_ofFn, get_map_ofFn, channelLine_part]

lemma blurAxis_part (right : HalfKernel) (b : Boundary) (axis : Fin s.length)
    (g : Grid s t.Pixel) :
    Grid.blurAxis (t := k.type) right b (g.map k.part) axis =
      (g.blurAxis right b axis).map k.part :=
  Grid.map_mapLines (k.convolveLine_part right b) g

lemma blurAxes_part (right : HalfKernel) (b : Boundary) (axes : List (Fin s.length))
    (g : Grid s t.Pixel) :
    Grid.blurAxes (t := k.type) right b axes (g.map k.part) =
      (g.blurAxes right b axes).map k.part :=
  List.foldl_hom (Grid.map k.part) fun g axis => k.blurAxis_part right b axis g

/-! ## Anti-aliasing -/

lemma smooth_part (kernels : List (Fin s.length × HalfKernel)) (g : Grid s t.Pixel) :
    Grid.smooth (t := k.type) kernels (g.map k.part) = (g.smooth kernels).map k.part :=
  List.foldl_hom (Grid.map k.part) fun g (axis, right) => k.blurAxis_part right .mirror axis g

lemma channel_part (g : Grid s t.Pixel) (c : Fin k.type.channels) :
    Grid.channel (t := k.type) (g.map k.part) c = g.channel k.channel := by
  refine Grid.ext_get fun i => ?_
  rw [Grid.channel, Grid.channel, Grid.get_map, Grid.get_map, Grid.get_map]
  exact k.get_samples_part _ c

lemma limitBand_part (transform : LineTransform) (target : List Nat) (g : Grid s t.Pixel) :
    Grid.limitBand (t := k.type) transform target (g.map k.part) =
      (g.limitBand transform target).map k.part := by
  refine Grid.ext_get fun i => ?_
  have hcell : ∀ (u : PixelType) (channels : Vector (Grid s Float) u.channels),
      (Grid.ofChannels u channels).cells.get i =
        u.ofSamples (channels.map fun channel => channel.cells.get i) :=
    fun u channels => get_ofFn _ i
  rw [Grid.get_map, Grid.limitBand, Grid.limitBand, hcell, hcell]
  refine (k.part_ofSamples _ _ fun c => ?_).symm
  rw [get_map_ofFn, get_map_ofFn, channel_part]

end Component

/-! ## Sampling -/

lemma Grid.get?_map {α β : Type} (u : α → β) (g : Grid s α) (c : List Nat) :
    (g.map u).get? c = (g.get? c).map u := by
  rw [Grid.get?, Grid.get?]
  cases s.index? c with
  | error fault => rfl
  | ok i =>
    show (g.map u).flat? i = (g.flat? i).map u
    rw [Grid.flat?, Grid.flat?]
    split
    · exact congrArg Except.ok (g.get_map u _)
    · rfl

lemma Grid.nearest_map {α β : Type} (u : α → β) (target : Shape) (g : Grid s α) :
    (g.map u).nearest target = (g.nearest target).map (Grid.map u) := by
  by_cases hcount : target.isCountable = true
  swap
  · rw [Grid.nearest, Grid.nearest, if_neg hcount, if_neg hcount]
    rfl
  have hcollect : ∀ (f : Nat → Except Fault α) (f' : Nat → Except Fault β),
      (∀ i, f' i = (f i).map u) →
        (do
          let cells ← (Vector.range target.size).mapM f'
          return (⟨cells⟩ : Grid target β)) =
        (do
          let cells ← (Vector.range target.size).mapM f
          return (⟨cells⟩ : Grid target α)).map (Grid.map u) := by
    intro f f' hf
    rw [funext hf, vector_mapM_except_map]
    cases (Vector.range target.size).mapM f <;> rfl
  rw [Grid.nearest, Grid.nearest, if_pos hcount, if_pos hcount]
  refine hcollect _ _ fun i => ?_
  rw [Grid.get?_map]
  cases g.get? (sourceCoordinate s target (target.coordinate i)) <;> rfl

/-! ## Images -/

/-- Whether an operation works on the channels one by one: of an image it makes another of the
same type, of the image of each component the image of this component, and it fails for one as
for the other. -/
def IsChannelwise {ε : Type} (f : Image → Except ε Image) : Prop :=
  ∀ (t : PixelType) (s : Shape) (g : Grid s t.Pixel), ∃ r : Except ε (Σ s', Grid s' t.Pixel),
    f ⟨t, s, g⟩ = r.map (fun h => ⟨t, h.1, h.2⟩) ∧
      ∀ k : Component t, f (k.image g) = r.map fun h => k.image h.2

namespace IsChannelwise

variable {ε : Type} {f f' : Image → Except ε Image}

lemma error (cause : ε) : IsChannelwise fun _ => .error cause :=
  fun _ _ _ => ⟨.error cause, rfl, fun _ => rfl⟩

lemma bind (hf : IsChannelwise f) (hf' : IsChannelwise f') :
    IsChannelwise fun image => f image >>= f' := by
  intro t s g
  obtain ⟨r, hwhole, hpart⟩ := hf t s g
  simp only [hwhole, hpart]
  cases r with
  | error cause => exact error cause t s g
  | ok h => exact hf' t h.1 h.2

/-- What an operation does may depend on the shape. -/
lemma of_shape {f : Shape → Image → Except ε Image} (hf : ∀ s, IsChannelwise (f s)) :
    IsChannelwise fun image => f image.shape image :=
  fun t s g => hf s t s g

/-- Settings are read before an operation. -/
lemma read {α : Type} (x : Except ε α) {f : α → Image → Except ε Image}
    (hf : ∀ a, IsChannelwise (f a)) : IsChannelwise fun image => x >>= fun a => f a image := by
  cases x with
  | error cause => exact error cause
  | ok a => exact hf a

lemma orFault {f : Image → Except Fault Image} (hf : IsChannelwise f) :
    IsChannelwise fun image => Raster.orFault (f image) := by
  intro t s g
  obtain ⟨r, hwhole, hpart⟩ := hf t s g
  simp only [hwhole, hpart]
  refine ⟨Raster.orFault r, ?_, fun k => ?_⟩ <;> cases r <;> rfl

end IsChannelwise

namespace Image

lemma isChannelwise_blur (b : BlurSettings) : IsChannelwise (blur b) := by
  refine IsChannelwise.read (b.kernel.halfKernel b.intensity) fun right t s g => ?_
  refine ⟨.ok ⟨s, g.blurAxes right b.boundary (b.axes s)⟩, rfl, fun k => ?_⟩
  exact congrArg (fun h => Except.ok (Image.mk k.type s h))
    (k.blurAxes_part right b.boundary (b.axes s) g)

/-- Without an axis that shrinks there is no kernel, and nothing changes. -/
lemma antiAlias_fast (transform : LineTransform) (target : List Nat) (t : PixelType) (s : Shape)
    (g : Grid s t.Pixel) :
    (antiAlias transform .fast target ⟨t, s, g⟩).map (Derived.get ⟨t, s, g⟩) =
      (shrinkKernels s target).map fun kernels => ⟨t, s, g.smooth kernels⟩ := by
  rw [antiAlias]
  cases shrinkKernels s target with
  | error fault => rfl
  | ok kernels => cases kernels <;> rfl

lemma antiAlias_clever (transform : LineTransform) (target : List Nat) (t : PixelType) (s : Shape)
    (g : Grid s t.Pixel) :
    (antiAlias transform .clever target ⟨t, s, g⟩).map (Derived.get ⟨t, s, g⟩) =
      .ok ⟨t, s, if shrinks s target then g.limitBand transform target else g⟩ := by
  rw [antiAlias]
  by_cases hshrinks : shrinks s target
  · rw [if_pos hshrinks, if_pos hshrinks]
    rfl
  · rw [if_neg hshrinks, if_neg hshrinks]
    rfl

lemma isChannelwise_antiAlias (transform : LineTransform) (way : AntiAliasing)
    (target : List Nat) :
    IsChannelwise fun image =>
      (image.antiAlias transform way target).map (Derived.get image) := by
  intro t s g
  cases way with
  | none => exact ⟨.ok ⟨s, g⟩, rfl, fun _ => rfl⟩
  | fast =>
    refine ⟨(shrinkKernels s target).map fun kernels => ⟨s, g.smooth kernels⟩, ?_, fun k => ?_⟩
    · refine (antiAlias_fast transform target t s g).trans ?_
      cases shrinkKernels s target <;> rfl
    · refine (antiAlias_fast transform target k.type s (g.map k.part)).trans ?_
      simp only [k.smooth_part]
      cases shrinkKernels s target <;> rfl
  | clever =>
    refine ⟨.ok ⟨s, if shrinks s target then g.limitBand transform target else g⟩,
      antiAlias_clever transform target t s g, fun k => ?_⟩
    refine (antiAlias_clever transform target k.type s (g.map k.part)).trans ?_
    rw [k.limitBand_part, ← apply_ite (Grid.map k.part)]
    rfl

lemma isChannelwise_nearest (target : Shape) : IsChannelwise (nearest target) := by
  intro t s g
  refine ⟨(g.nearest target).map fun h => ⟨target, h⟩, ?_, fun k => ?_⟩
  · show (g.nearest target >>= fun h => _) = _
    cases g.nearest target <;> rfl
  · show ((g.map k.part).nearest target >>= fun h => _) = _
    rw [Grid.nearest_map]
    cases g.nearest target <;> rfl

lemma isChannelwise_resize (transform : LineTransform) (way : AntiAliasing) (target : Shape) :
    IsChannelwise (resize transform way target) := by
  have hresize : resize transform way target = fun image =>
      (image.antiAlias transform way target).map (Derived.get image) >>= nearest target := by
    funext image
    rw [resize]
    cases image.antiAlias transform way target <;> rfl
  rw [hresize]
  exact (isChannelwise_antiAlias transform way target).bind (isChannelwise_nearest target)

end Image

end Raster
