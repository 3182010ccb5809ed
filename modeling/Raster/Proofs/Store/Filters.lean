import Raster.Proofs.Store.Work
import Raster.Store.Apply
/-!
# Filters in memory

What each filter comes to in memory: pixels that are those of the function on grids, in an array
that is new or, where the filter hands its source on, in that of the source.  A conversion hands
its source on exactly if nothing is to be converted (`yields_convert`); everything that ends in a
step that allocates makes a new array, whatever was handed on before that step.
-/

namespace Raster

variable {type : PixelType} {shape : Shape} {s s₀ : Store} {a : ArrayOf type shape}
  {g : Grid shape type.Pixel} {h : Handle}

lemma orFault_bind {α β : Type} (r : Except Fault α) (f : α → Except Fault β) :
    orFault (r >>= f) = orFault r >>= fun x => orFault (f x) := by
  cases r <;> rfl

/-! ## Conversions -/

namespace Conversion

/-- The steps of a way convert pixel by pixel. -/
def Follows (c : Conversion) {source target : PixelType} : Way source target → Prop
  | .direct f => ∀ v, c.pixel source target v = f v
  | .through hub f _ => ∀ v, c.pixel source target v = c.pixel hub target (f v)
  | .upTo hub f _ => ∀ v, c.pixel source target v = f (c.pixel source hub v)

lemma follows_way (c : Conversion) {source target : PixelType} (hne : source ≠ target) :
    c.Follows (c.way source target) := by
  cases source with
  | gray d =>
    cases target with
    | gray | real => exact fun _ => rfl
    | complex q => exact c.pixel_to_complex (by simp) q
    | grayAlpha | rgb | rgba => exact c.pixel_scalar rfl (by simp)
  | real p =>
    cases target with
    | gray | real => exact fun _ => rfl
    | complex q => exact c.pixel_to_complex (by simp) q
    | grayAlpha | rgb | rgba => exact c.pixel_scalar rfl (by simp)
  | complex p =>
    cases target with
    | complex q => exact fun _ => rfl
    | gray | real | grayAlpha | rgb | rgba => exact c.pixel_complex (by simp)
  | grayAlpha =>
    cases target with
    | grayAlpha => exact absurd rfl hne
    | rgba => exact fun _ => rfl
    | complex q => exact c.pixel_to_complex (by simp) q
    | gray | real | rgb => exact c.pixel_grayAlpha (by simp) (by simp)
  | rgb =>
    cases target with
    | rgb => exact absurd rfl hne
    | rgba => exact fun _ => rfl
    | complex q => exact c.pixel_to_complex (by simp) q
    | gray | real | grayAlpha => exact c.pixel_rgb (by simp) (by simp)
  | rgba =>
    cases target with
    | rgba => exact absurd rfl hne
    | rgb | grayAlpha => exact fun _ => rfl
    | complex q => exact c.pixel_to_complex (by simp) q
    | gray | real => exact c.pixel_rgba (by simp) (by simp)

end Conversion

namespace Work

/-- A handle on what was derived from the source `h`: on the source itself, or on a new buffer. -/
inductive Leads (s₀ s : Store) (h : Handle) : Derived → Handle → Prop
  | unchanged : Leads s₀ s h .unchanged h
  | fresh {image : Image} {k : Handle} (hnew : s₀.buffers.length ≤ k.buffer)
      (hsee : s.image? k = some image) : Leads s₀ s h (.fresh image) k

lemma IsNew.leads (ha : IsNew s₀ g a s) :
    Leads s₀ s h (.fresh ⟨type, shape, g⟩) a.erase :=
  .fresh ha.new (Store.grid?_eq_some_iff.1 ha.holds)

/-- **A conversion in memory converts pixel by pixel.**  It hands its source on if that has the
wanted type, and else makes a new array, also where it hands a hub on. -/
lemma yields_convert (c : Conversion) {type target : PixelType} {shape : Shape}
    {a : ArrayOf type shape} {g : Grid shape type.Pixel} {s : Store} (h₀ : s₀.Extends s)
    (hread : s.grid? a = some g) :
    Yields s₀ s (convert c a target) fun b s' =>
      s'.grid? b = some (g.convert c type target) ∧
        if type = target then b.buffer = a.buffer else s₀.buffers.length ≤ b.buffer := by
  -- every step leads to types that are nearer to the scalars, on one side or the other
  induction hsize : type.hops + target.hops using Nat.strongRecOn generalizing type target s with
  | ind size ih =>
    rw [convert]
    by_cases hsame : type = target
    · subst hsame
      have hself : g.convert c type type = g := by
        have hpixel : c.pixel type type = id := funext (c.pixel_self type)
        simp [Grid.convert, Grid.map, hpixel]
      rw [if_pos rfl]
      refine Yields.pure h₀ ⟨?_, by rw [if_pos rfl]⟩
      rw [hself]
      exact hread
    · rw [if_neg hsame]
      have hfollows := c.follows_way hsame
      -- whether the hub is handed on or not, it was not there before
      split
      · rename_i f hway
        rw [hway] at hfollows
        refine (yields_remake h₀ hread _).mono fun b s' hb => ⟨?_, ?_⟩
        · rw [hb.holds, Grid.convert, funext hfollows]
        · rw [if_neg hsame]
          exact hb.new
      · rename_i hub f hnearer hway
        rw [hway] at hfollows
        refine (yields_remake h₀ hread _).bind fun b s₁ h₁ hb => ?_
        refine (ih (hub.hops + target.hops) (by omega) h₁ hb.holds rfl).mono
          fun b' s₂ hb' => ⟨?_, ?_⟩
        · rw [hb'.1, Image.convert_map hfollows]
        · rw [if_neg hsame]
          have hbuffer := hb'.2
          split at hbuffer
          · rw [hbuffer]
            exact hb.new
          · exact hbuffer
      · rename_i hub f hnearer hway
        rw [hway] at hfollows
        refine (ih (type.hops + hub.hops) (by omega) h₀ hread rfl).bind fun b s₁ h₁ hb => ?_
        refine (yields_remake h₁ hb.1 _).mono fun b' s₂ hb' => ⟨?_, ?_⟩
        · rw [hb'.holds, Image.map_convert hfollows]
        · rw [if_neg hsame]
          exact hb'.new

/-- What a new array is converted to is in a new array. -/
lemma yields_convert_of_isNew (c : Conversion) (target : PixelType) (h₀ : s₀.Extends s)
    (ha : IsNew s₀ g a s) :
    Yields s₀ s (convert c a target) (IsNew s₀ (g.convert c type target)) := by
  refine (yields_convert c h₀ ha.holds).mono fun b s' hb => ⟨?_, hb.1⟩
  have hbuffer := hb.2
  split at hbuffer
  · rw [hbuffer]
    exact ha.new
  · exact hbuffer

/-- What a conversion returns, in memory. -/
lemma yields_derived (c : Conversion) (target : PixelType) (h₀ : s₀.Extends s)
    (hread : s.grid? a = some g) :
    Yields s₀ s (convert c a target) fun b s' =>
      Leads s₀ s' a.erase (Image.convert c target ⟨type, shape, g⟩) b.erase := by
  refine (yields_convert c h₀ hread).mono fun b s' ⟨hb, hbuffer⟩ => ?_
  rw [Image.convert_eq]
  by_cases hsame : type = target
  · subst hsame
    obtain ⟨n⟩ := b
    rw [if_pos rfl] at hbuffer
    obtain rfl : n = a.buffer := hbuffer
    rw [Image.followed, if_pos rfl]
    exact .unchanged
  · rw [if_neg hsame] at hbuffer
    rw [Image.followed_of_ne hsame]
    exact .fresh hbuffer (Store.grid?_eq_some_iff.1 hb)

/-! ## Blurring -/

/-- A blurred copy is new, also if no axis is blurred. -/
lemma yields_blurAxes (h₀ : s₀.Extends s) (hread : s.grid? a = some g) (right : HalfKernel)
    (b : Boundary) (axes : List (Fin shape.length)) :
    Yields s₀ s (blurAxes right b axes a) (IsNew s₀ (g.blurAxes right b axes)) := by
  refine (yields_remake h₀ hread id).bind fun copy s₁ h₁ hcopy => ?_
  refine (yields_foldlM_remake h₁ hcopy.holds axes).mono fun a' s₂ ha' => ⟨?_, ha'.1⟩
  rcases ha'.2 with rfl | hnew
  · exact hcopy.new
  · exact hnew

/-- A blurred array is new. -/
lemma answers_blur (b : BlurSettings) (hread : s₀.grid? a = some g) :
    Answers s₀ s₀ (blur b a) (fun image k s' => Leads s₀ s' h (.fresh image) k.erase)
      (orFault (Image.blur b ⟨type, shape, g⟩)) := by
  rw [Image.blur, orFault_bind, blur]
  refine Answers.ofResult_bind (.refl s₀) fun right _ => ?_
  exact (yields_blurAxes (.refl s₀) hread right b.boundary (b.axes shape)).mono
    fun k s' hk => hk.leads

/-! ## Fourier transforms -/

lemma yields_doIf {c : Prop} [Decidable c] {w : Work Unit}
    {f : Grid shape type.Pixel → Grid shape type.Pixel} (h₀ : s₀.Extends s)
    (ha : IsNew s₀ g a s) (hw : Yields s₀ s w fun _ s' => IsNew s₀ (f g) a s') :
    Yields s₀ s (doIf c w) fun _ s' => IsNew s₀ (if c then f g else g) a s' := by
  rw [doIf]
  by_cases hc : c
  · rw [if_pos hc, if_pos hc]
    exact hw
  · rw [if_neg hc, if_neg hc]
    exact Yields.pure h₀ ha

lemma yields_fourier {a : ArrayOf (.complex .double) shape} {g : Grid shape Complex64}
    (transform : LineTransform) (direction : Direction) (h₀ : s₀.Extends s)
    (ha : IsNew s₀ g a s) :
    Yields s₀ s (fourier transform direction a) fun _ s' =>
      IsNew s₀ (g.fourier transform direction) a s' :=
  yields_forM_edit h₀ ha (List.finRange shape.length)

lemma yields_shift (h₀ : s₀.Extends s) (ha : IsNew s₀ g a s) :
    Yields s₀ s (shift a) fun _ s' => IsNew s₀ g.shift a s' :=
  yields_forM_edit h₀ ha (List.finRange shape.length)

lemma yields_unshift (h₀ : s₀.Extends s) (ha : IsNew s₀ g a s) :
    Yields s₀ s (unshift a) fun _ s' => IsNew s₀ g.unshift a s' :=
  yields_forM_edit h₀ ha (List.finRange shape.length)

/-- A spectrum is made in an array of its own; all that is written in place is written there. -/
lemma yields_spectrum (transform : LineTransform) (settings : SpectrumSettings)
    (cells : Grid shape Complex64) (h₀ : s₀.Extends s) :
    Yields s₀ s (spectrum transform settings cells)
      fun a s' => IsNew s₀ (cells.spectrum transform settings) a s' := by
  refine (yields_allocate h₀ _).bind fun a s₁ h₁ ha => ?_
  refine (yields_doIf h₁ ha (yields_unshift h₁ ha)).bind fun _ s₂ h₂ ha => ?_
  refine (yields_fourier transform settings.direction h₂ ha).bind fun _ s₃ h₃ ha => ?_
  refine (yields_doIf h₃ ha (yields_edit h₃ ha _)).bind fun _ s₄ h₄ ha => ?_
  refine (yields_doIf h₄ ha (yields_shift h₄ ha)).bind fun _ s₅ h₅ ha => ?_
  exact Yields.pure h₅ ha

/-- A spectrum that is handed on by the conversion is in an array of its own. -/
lemma yields_collapse {a : ArrayOf (.complex .double) shape} {g : Grid shape Complex64}
    (p : Precision) (h₀ : s₀.Extends s) (ha : IsNew s₀ g a s) :
    Yields s₀ s (collapse p a) fun k s' => Leads s₀ s' h (.fresh (g.collapse p)) k := by
  refine (yields_read h₀ ha.holds).bind ?_
  rintro g' s₁ h₁ ⟨rfl, rfl⟩
  refine (yields_convert_of_isNew {} _ h₁ ha).bind fun b s₂ h₂ hb => ?_
  exact Yields.pure h₂ hb.leads

/-! ## Resizing -/

lemma yields_smooth (h₀ : s₀.Extends s) (hread : s.grid? a = some g)
    (kernels : List (Fin shape.length × HalfKernel)) :
    Yields s₀ s (smooth kernels a) fun b s' => s'.grid? b = some (g.smooth kernels) :=
  (yields_foldlM_remake h₀ hread kernels).mono fun _ _ hb => hb.1

lemma yields_lowPass (transform : LineTransform) (target : List Nat) (h₀ : s₀.Extends s)
    (hread : s.grid? a = some g) (c : Fin type.channels) :
    Yields s₀ s (lowPass transform target a c) fun v _ =>
      v = (g.channel c).lowPass transform target := by
  refine (yields_remake h₀ hread _).bind fun spectrum s₁ h₁ hspectrum => ?_
  refine (yields_fourier transform .forward h₁ hspectrum).bind fun _ s₂ h₂ hforward => ?_
  refine (yields_remake h₂ hforward.holds _).bind fun kept s₃ h₃ hkept => ?_
  refine (yields_fourier transform .backward h₃ hkept).bind fun _ s₄ h₄ hbackward => ?_
  refine (yields_read h₄ hbackward.holds).bind ?_
  rintro g' s₅ h₅ ⟨rfl, rfl⟩
  exact Yields.pure h₅ rfl

lemma yields_limitBand (transform : LineTransform) (target : List Nat) (h₀ : s₀.Extends s)
    (hread : s₀.grid? a = some g) :
    Yields s₀ s (limitBand transform target a) (IsNew s₀ (g.limitBand transform target)) := by
  refine (yields_ofFnM h₀ fun c s' h' =>
    yields_lowPass transform target h' (h'.grid?_eq hread) c).bind fun channels s₁ h₁ hall => ?_
  rw [hall]
  exact yields_allocate h₁ _

/-- What is prepared for resizing may be the source itself. -/
lemma answers_antiAlias (transform : LineTransform) (way : AntiAliasing) (target : List Nat)
    (hread : s₀.grid? a = some g) :
    Answers s₀ s₀ (antiAlias transform way target a)
      (fun prepared b s' => s'.image? b.erase = some (prepared.get ⟨type, shape, g⟩))
      (orFault (Image.antiAlias transform way target ⟨type, shape, g⟩)) := by
  have h₀ := Store.Extends.refl s₀
  have hsee := Store.grid?_eq_some_iff.1 hread
  cases way with
  | none => exact Yields.pure h₀ hsee
  | fast =>
    rw [Image.antiAlias, orFault_bind, antiAlias]
    refine Answers.ofResult_bind h₀ fun kernels _ => ?_
    have hsmooth := yields_smooth h₀ hread kernels
    by_cases hempty : kernels.isEmpty = true
    · -- blurring along no axis is handing the source on
      obtain rfl := List.isEmpty_iff.1 hempty
      exact Yields.pure h₀ hsee
    · rw [if_neg hempty]
      exact hsmooth.mono fun b s' hb => Store.grid?_eq_some_iff.1 hb
  | clever =>
    rw [Image.antiAlias, antiAlias]
    dsimp only
    by_cases hshrinks : shrinks shape target = true
    · rw [if_pos hshrinks, if_pos hshrinks]
      exact (yields_limitBand transform target h₀ hread).mono
        fun b s' hb => Store.grid?_eq_some_iff.1 hb.holds
    · rw [if_neg hshrinks, if_neg hshrinks]
      exact Yields.pure h₀ hsee

/-- A sampled array is new, whatever it is made of. -/
lemma answers_nearest (target : Shape) {image : Image} (h₀ : s₀.Extends s)
    (hsee : s.image? a.erase = some image) :
    Answers s₀ s (nearest target a) (fun image' b s' => Leads s₀ s' h (.fresh image') b.erase)
      (orFault (image.nearest target)) := by
  obtain ⟨-, htype, hshape⟩ := Store.image?_eq_some_iff.1 hsee
  obtain ⟨t, u, g⟩ := image
  obtain rfl : t = type := htype
  obtain rfl : u = shape := hshape
  rw [Image.nearest, orFault_bind, nearest]
  refine (yields_read h₀ (Store.grid?_eq_some_iff.2 hsee)).answers_bind ?_
  rintro g' s₁ h₁ ⟨rfl, rfl⟩
  refine Answers.ofResult_bind h₁ fun resized _ => ?_
  exact (yields_allocate h₁ resized).mono fun b s' hb => hb.leads

/-- A resized array is new, also if nothing changes. -/
lemma answers_resize (transform : LineTransform) (settings : ResizeSettings)
    (hread : s₀.grid? a = some g) :
    Answers s₀ s₀ (resize transform settings a)
      (fun image b s' => Leads s₀ s' h (.fresh image) b.erase)
      (orFault (Image.resize transform settings.antiAliasing settings.target
        ⟨type, shape, g⟩)) := by
  rw [Image.resize, orFault_bind, resize]
  exact (answers_antiAlias transform settings.antiAliasing settings.target hread).bind
    fun prepared b s' h' hb => answers_nearest settings.target h' hb

/-! ## Remapping intensities -/

/-- Stretching makes a new array, also if there is no range to stretch. -/
lemma yields_stretch (t : ScalarType) {a : ArrayOf t.type shape} {g : Grid shape t.type.Pixel}
    (h₀ : s₀.Extends s) (hread : s.grid? a = some g) :
    Yields s₀ s (stretch t a) (IsNew s₀ (g.stretch t)) := by
  refine (yields_read h₀ hread).bind ?_
  rintro g' s₁ h₁ ⟨rfl, rfl⟩
  rw [Grid.stretch]
  dsimp only
  split
  · exact yields_remake h₁ hread _
  · exact yields_remake h₁ hread id

lemma yields_remapScalar (f : Remapping) (t : ScalarType) {a : ArrayOf t.type shape}
    {g : Grid shape t.type.Pixel} (h₀ : s₀.Extends s) (hread : s.grid? a = some g) :
    Yields s₀ s (remapScalar f t a) fun b s' =>
      Leads s₀ s' a.erase (Raster.remapScalar f t shape g) b.erase := by
  cases f with
  | identity => exact Yields.pure h₀ .unchanged
  | linearStretch => exact (yields_stretch t h₀ hread).mono fun b s' hb => hb.leads
  | abs =>
    cases t with
    | gray d => exact Yields.pure h₀ .unchanged
    | real p => exact (yields_remake h₀ hread _).mono fun b s' hb => hb.leads
  | negative => exact (yields_remake h₀ hread _).mono fun b s' hb => hb.leads

lemma yields_remapComplex (f : Remapping) (p : Precision) {a : ArrayOf (.complex p) shape}
    {g : Grid shape (Complex p.Real)} (h₀ : s₀.Extends s) (hread : s.grid? a = some g) :
    Yields s₀ s (remapComplex f p a) fun k s' =>
      Leads s₀ s' a.erase (Raster.remapComplex f p shape g) k := by
  cases f with
  | abs =>
    refine (yields_remake h₀ hread _).bind fun b s₁ h₁ hb => ?_
    exact Yields.pure h₁ hb.leads
  | identity | linearStretch | negative => exact Yields.pure h₀ .unchanged

end Work

end Raster
