import Raster.Proofs.Store.Filters
/-!
# Applying algorithms in memory

An algorithm in memory comes out as the same algorithm on images does (`Work.answers_runOn`): it
fails where that fails, and where that returns its input or a new image, it returns its handle or
a handle on a new buffer.  The checks before it are the same ones in the same order, so the same
holds of an algorithm that is applied by its name, on images that all are seen.  Nothing that was
there is written to, whether the algorithm succeeds or not.
-/

namespace Raster

/-! ## Outputs in memory -/

namespace Work

variable {type : PixelType} {shape : Shape} {s s₀ : Store} {h : Handle} {image : Image}
  {a : ArrayOf type shape} {g : Grid shape type.Pixel}

/-- Handles on the outputs of an algorithm, under the names of their roles; each of several
outputs has a buffer of its own. -/
structure Placed (s₀ : Store) (h : Handle) (outputs : List Output)
    (handles : List (String × Handle)) (s : Store) : Prop where
  leads : List.Forall₂ (fun output p => p.1 = output.role ∧ Leads s₀ s h output.result p.2)
    outputs handles
  distinct : handles.Pairwise fun p q => p.2.buffer ≠ q.2.buffer

/-- What is derived from the source is the only output. -/
lemma yields_single {w : Work Handle} {d : Derived}
    (hw : Yields s₀ s w fun k s' => Leads s₀ s' h d k) :
    Yields s₀ s (single w) (Placed s₀ h (singleOutput d)) := by
  refine hw.bind fun k s' h' hk => Yields.pure h' ⟨?_, List.pairwise_singleton _ _⟩
  exact List.Forall₂.cons ⟨rfl, hk⟩ List.Forall₂.nil

/-- A new image is the only output, unless making it fails. -/
lemma answers_single {w : Work (ArrayOf type shape)} {r : Except Failure Image}
    (hw : Answers s₀ s w (fun image b s' => Leads s₀ s' h (.fresh image) b.erase) r) :
    Answers s₀ s (single do return (← w).erase) (Placed s₀ h)
      (r >>= fun image => .ok (singleOutput (.fresh image))) := by
  cases r with
  | error e =>
    obtain ⟨s', hrun, h₀⟩ := hw
    exact ⟨s', by rw [single, run_bind, run_bind, hrun], h₀⟩
  | ok image => exact yields_single (Yields.bind hw fun b s' h' hb => Yields.pure h' hb)

/-- What a conversion returns is the only output. -/
lemma yields_single_convert (c : Conversion) (target : PixelType) (h₀ : s₀.Extends s)
    (hread : s.grid? a = some g) :
    Yields s₀ s (single do return (← convert c a target).erase)
      (Placed s₀ a.erase (singleOutput (Image.convert c target ⟨type, shape, g⟩))) :=
  yields_single <|
    (yields_derived c target h₀ hread).bind fun _ _ h' hb => Yields.pure h' hb

/-- Every image gets a buffer of its own. -/
lemma yields_allocateAll (s : Store) (images : List (String × Image)) :
    Yields s s (allocateAll images) fun handles s' =>
      List.Forall₂ (fun x p => p.1 = x.1 ∧ s'.image? p.2 = some x.2) images handles ∧
      (∀ p ∈ handles, s.buffers.length ≤ p.2.buffer) ∧
      handles.Pairwise fun p q => p.2.buffer ≠ q.2.buffer := by
  induction images generalizing s with
  | nil => exact Yields.pure (.refl s) ⟨List.Forall₂.nil, by simp, List.Pairwise.nil⟩
  | cons x images ih =>
    obtain ⟨role, image⟩ := x
    have hsee := Store.grid?_eq_some_iff.1 (s.grid?_allocate image.grid)
    have hlength : (s.allocate image).buffers.length = s.buffers.length + 1 := by
      simp [Store.allocate]
    have hfirst : Yields s s (do return (role, (← allocate image.grid).erase)) fun p s₁ =>
        p = (role, s.nextHandle image) ∧ s₁ = s.allocate image :=
      ⟨_, _, rfl, (Store.Extends.refl s).allocate image, rfl, rfl⟩
    rw [allocateAll, List.mapM_cons]
    refine hfirst.bind ?_
    rintro p s₁ h₁ ⟨rfl, rfl⟩
    -- the others are allocated behind the first one, which they leave as it is
    refine ((ih _).after h₁).bind fun handles s' h' ⟨hgrows, hall, hnew, hdistinct⟩ => ?_
    have hbehind : ∀ p ∈ handles, s.buffers.length < p.2.buffer := by
      intro p hp
      have hp' := hnew p hp
      omega
    refine Yields.pure h' ⟨List.Forall₂.cons ⟨rfl, hgrows.image?_eq hsee⟩ hall, ?_, ?_⟩
    · exact List.forall_mem_cons.2 ⟨le_rfl, fun p hp => (hbehind p hp).le⟩
    · exact List.Pairwise.cons (fun p hp => (hbehind p hp).ne) hdistinct

/-- The components of an image are placed one behind the other. -/
lemma yields_components (s : Store) (h : Handle) (components : List (String × Image)) :
    Yields s s (allocateAll components)
      (Placed s h (components.map fun (role, i) => ⟨role, .fresh i⟩)) := by
  refine (yields_allocateAll s components).mono
    fun handles s' ⟨hall, hnew, hdistinct⟩ => ⟨?_, hdistinct⟩
  refine List.forall₂_map_left_iff.2 (List.Forall₂.flip ?_)
  have hboth := (List.forall₂_and_left _ _).2 ⟨hnew, List.Forall₂.flip hall⟩
  exact hboth.imp fun p x ⟨hfresh, hrole, hsee⟩ => ⟨hrole, .fresh hfresh hsee⟩

/-- The handle tells whether the pixels are numbers. -/
lemma remap?_cases (f : Remapping) (hsee : s.image? h = some image) :
    remap? f h = none ∧ image.remap? f = none ∨
      ∃ w d, remap? f h = some w ∧ image.remap? f = some d ∧
        Yields s s w fun k s' => Leads s s' h d k := by
  obtain ⟨-, htype, hshape⟩ := Store.image?_eq_some_iff.1 hsee
  obtain ⟨t, u, g⟩ := image
  obtain ⟨n, _, _⟩ := h
  obtain rfl : t = _ := htype
  obtain rfl : u = _ := hshape
  have hread : s.grid? (⟨n⟩ : ArrayOf t u) = some g := Store.grid?_eq_some_iff.2 hsee
  cases t with
  | gray d =>
    refine Or.inr ⟨_, _, rfl, rfl, ?_⟩
    exact (yields_remapScalar f (.gray d) (.refl s) hread).bind
      fun b s' h' hb => Yields.pure h' hb
  | real p =>
    refine Or.inr ⟨_, _, rfl, rfl, ?_⟩
    exact (yields_remapScalar f (.real p) (.refl s) hread).bind
      fun b s' h' hb => Yields.pure h' hb
  | complex p => exact Or.inr ⟨_, _, rfl, rfl, yields_remapComplex f p (.refl s) hread⟩
  | grayAlpha | rgb | rgba => exact Or.inl ⟨rfl, rfl⟩

/-- **An algorithm in memory comes out as it does on images.** -/
lemma answers_runOn (transform : LineTransform) (a : Algorithm) (o : Options)
    (hsee : s.image? h = some image) :
    Answers s s (a.runOn transform o h) (Placed s h) (a.run transform o image) := by
  have hgrows := Store.Extends.refl s
  -- the image has the type and the shape of the handle, so its pixels can be read as an array
  obtain ⟨-, htype, hshape⟩ := Store.image?_eq_some_iff.1 hsee
  obtain ⟨t, u, g⟩ := image
  obtain ⟨n, _, _⟩ := h
  obtain rfl : t = _ := htype
  obtain rfl : u = _ := hshape
  have hread : s.grid? (⟨n⟩ : ArrayOf t u) = some g := Store.grid?_eq_some_iff.2 hsee
  cases a with
  | blur =>
    refine Answers.ofResult_bind hgrows fun settings _ => ?_
    exact answers_single (answers_blur settings hread)
  | changeType =>
    refine Answers.ofResult_bind hgrows fun change _ => ?_
    cases change with
    | keep => exact yields_single (Yields.pure hgrows .unchanged)
    | convert target conversion => exact yields_single_convert conversion target hgrows hread
  | fourier =>
    refine Answers.ofResult_bind hgrows fun settings _ => ?_
    refine (yields_look hgrows hsee).answers_bind ?_
    rintro image s' h' ⟨rfl, rfl⟩
    dsimp only
    rw [Image.spectrum?]
    cases hcells : Image.complexCells? ⟨t, u, g⟩ with
    | none => exact ⟨s', rfl, h'⟩
    | some found =>
      obtain ⟨p, cells⟩ := found
      refine yields_single ?_
      refine (yields_spectrum transform settings cells h').bind fun a s₁ h₁ ha => ?_
      exact yields_collapse p h₁ ha
  | resize =>
    refine Answers.ofResult_bind hgrows fun settings _ => ?_
    exact answers_single (answers_resize transform settings hread)
  | splitChannels =>
    refine (yields_look hgrows hsee).answers_bind ?_
    rintro image s' h' ⟨rfl, rfl⟩
    dsimp only [Algorithm.run]
    cases hcomponents : Image.components? ⟨t, u, g⟩ with
    | none => exact ⟨s', rfl, h'⟩
    | some components => exact yields_components s' _ components
  | toGray8 =>
    refine Answers.ofResult_bind hgrows fun conversion _ => ?_
    exact yields_single_convert conversion (.gray .eight) hgrows hread
  | unaryMath =>
    refine Answers.ofResult_bind hgrows fun f _ => ?_
    rcases remap?_cases f hsee with ⟨hnone, hnone'⟩ | ⟨w, d, hw, hd, hyields⟩
    · rw [hnone, hnone']
      exact ⟨s, rfl, hgrows⟩
    · rw [hw, hd]
      exact yields_single hyields

end Work

/-! ## Looking at the images -/

/-- What a handle sees; it has to see something. -/
def Store.seen (s : Store) (h : Handle) : Except Failure Image :=
  match s.image? h with
  | some image => .ok image
  | none => orFault (.error .outOfBounds)

namespace Work

variable {s : Store} {sources : List Handle} {images : List Image}

lemma answers_see (s : Store) (h : Handle) :
    Answers s s (see h) (fun image a s' => s.image? h = some image ∧ a = image ∧ s' = s)
      (s.seen h) := by
  cases hsee : s.image? h with
  | none =>
    rw [Store.seen, hsee]
    exact ⟨s, by rw [see, run_look, hsee]; rfl, .refl s⟩
  | some image =>
    rw [Store.seen, hsee]
    exact (yields_look (.refl s) hsee).mono fun a s' ha => ⟨rfl, ha⟩

/-- All images are looked at, or the work ends with the first handle that sees none. -/
lemma answers_seeAll (s : Store) (sources : List Handle) :
    Answers s s (sources.mapM see) (fun images a s' =>
      List.Forall₂ (fun h image => s.image? h = some image) sources images ∧ a = images ∧ s' = s)
      (sources.mapM s.seen) := by
  induction sources with
  | nil => exact Yields.pure (.refl s) ⟨List.Forall₂.nil, rfl, rfl⟩
  | cons h sources ih =>
    rw [List.mapM_cons, List.mapM_cons]
    refine (answers_see s h).bind ?_
    rintro image _ s₁ h₁ ⟨hsee, rfl, rfl⟩
    refine ih.bind ?_
    rintro images _ s₂ h₂ ⟨hall, rfl, rfl⟩
    exact Yields.pure h₂ ⟨List.Forall₂.cons hsee hall, rfl, rfl⟩

lemma mapM_seen (hall : List.Forall₂ (fun h image => s.image? h = some image) sources images) :
    sources.mapM s.seen = .ok images := by
  induction hall with
  | nil => rfl
  | cons hsee hall ih =>
    rw [List.mapM_cons, ih, Store.seen, hsee]
    rfl

end Work

/-! ## The checks before -/

namespace Algorithm

open Work

variable {transform : LineTransform} {a : Algorithm} {o : Options} {s : Store}
  {sources : List Handle} {images : List Image}

/-- The handles are those that an algorithm returns for its only source. -/
def Returns (transform : LineTransform) (a : Algorithm) (o : Options) (s : Store)
    (sources : List Handle) (outputs : List Output) (handles : List (String × Handle))
    (s' : Store) : Prop :=
  ∃ h image, sources = [h] ∧ s.image? h = some image ∧
    a.run transform o image = .ok outputs ∧ Placed s h outputs handles s'

lemma answers_dispatchOn
    (hall : List.Forall₂ (fun h image => s.image? h = some image) sources images) :
    Answers s s (a.dispatchOn transform o images sources) (Returns transform a o s sources)
      (a.dispatch transform o images) := by
  refine Answers.ofResult_bind (.refl s) fun type _ => ?_
  by_cases htype : type ∈ a.types
  · rw [if_pos htype, if_pos htype]
    refine Answers.ofResult_bind (.refl s) fun _ _ => ?_
    cases hall with
    | nil => exact ⟨s, rfl, .refl s⟩
    | cons hsee hrest =>
      cases hrest with
      | nil =>
        exact (answers_runOn transform a o hsee).mono
          fun outputs handles s' hrun hplaced => ⟨_, _, rfl, hsee, hrun, hplaced⟩
      | cons hsecond hrest =>
        -- both count the images
        have hlength := hrest.length_eq
        refine ⟨s, ?_, .refl s⟩
        simp only [List.length_cons, ← hlength]
        rfl
  · rw [if_neg htype, if_neg htype]
    exact ⟨s, rfl, .refl s⟩

/-- With options that are complete. -/
lemma answers_applyOn (transform : LineTransform) (a : Algorithm) (o : Options) (s : Store)
    (sources : List Handle) :
    Answers s s (a.applyOn transform o sources) (Returns transform a o s sources)
      (sources.mapM s.seen >>= a.apply transform o) := by
  refine (answers_seeAll s sources).bind ?_
  rintro images _ s₁ h₁ ⟨hall, rfl, rfl⟩
  exact Answers.ofResult_bind h₁ fun _ _ => answers_dispatchOn hall

lemma answers_applyCheckedOn (transform : LineTransform) (a : Algorithm) (o : Options) (s : Store)
    (sources : List Handle) :
    Answers s s (a.applyCheckedOn transform o sources)
      (Returns transform a (a.schema.finalize o) s sources)
      (sources.mapM s.seen >>= a.applyChecked transform o) := by
  refine (answers_seeAll s sources).bind ?_
  rintro images _ s₁ h₁ ⟨hall, rfl, rfl⟩
  refine Answers.ofResult_bind h₁ fun _ _ => ?_
  exact Answers.ofResult_bind h₁ fun _ _ => answers_dispatchOn hall

end Algorithm

end Raster
