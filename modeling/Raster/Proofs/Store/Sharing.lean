import Raster.Proofs.Algorithm.Outputs
import Raster.Proofs.Store.Applying
/-!
# What applying an algorithm leaves behind

An algorithm that is applied by its name, with or without the checks of its options, changes no
buffer that was there, and its outputs are on buffers of their own, unless the algorithm hands
its input on (`Algorithm.applyOn_spares`).  Whether it does depends on the algorithm, its options
and the pixel type alone (`Algorithm.handsOn`).
-/

namespace Raster

/-! ## Outputs and buffers -/

namespace Work

variable {s s₀ : Store} {h k : Handle} {image : Image} {d : Derived} {outputs : List Output}
  {handles : List (String × Handle)}

lemma Leads.shares (hk : Leads s₀ s h d k) (hlt : h.buffer < s₀.buffers.length) :
    (k = h ∨ s₀.buffers.length ≤ k.buffer) ∧ (k = h ↔ d.isShared = true) := by
  cases hk with
  | unchanged => exact ⟨Or.inl rfl, iff_of_true rfl rfl⟩
  | fresh hnew hsee =>
    refine ⟨Or.inr hnew, iff_of_false ?_ nofun⟩
    rintro rfl
    omega

lemma Leads.image?_eq (hk : Leads s₀ s h d k) (h₀ : s₀.Extends s)
    (hsee : s₀.image? h = some image) : s.image? k = some (d.get image) := by
  cases hk with
  | unchanged => exact h₀.image?_eq hsee
  | fresh hnew hsee' => exact hsee'

lemma Placed.exists_leads (hp : Placed s₀ h outputs handles s) {p : String × Handle}
    (hmem : p ∈ handles) : ∃ output ∈ outputs, Leads s₀ s h output.result p.2 := by
  have hleads := hp.leads
  clear hp
  induction hleads with
  | nil => cases hmem
  | @cons output p' outputs handles hfirst hrest ih =>
    rcases List.mem_cons.1 hmem with rfl | hmem
    · exact ⟨output, List.mem_cons_self, hfirst.2⟩
    · obtain ⟨output', hmem', hleads'⟩ := ih hmem
      exact ⟨output', List.mem_cons_of_mem _ hmem', hleads'⟩

/-- The handles see the outputs. -/
lemma Placed.map_image? (hp : Placed s₀ h outputs handles s) (h₀ : s₀.Extends s)
    (hsee : s₀.image? h = some image) :
    handles.map (fun p => (p.1, s.image? p.2)) =
      outputs.map fun output => (output.role, some (output.result.get image)) := by
  have hleads := hp.leads
  clear hp
  induction hleads with
  | nil => rfl
  | cons hfirst hrest ih =>
    rw [List.map_cons, List.map_cons, ih, hfirst.1, hfirst.2.image?_eq h₀ hsee]

end Work

/-! ## Applying by name -/

namespace Algorithm

open Work

variable {s : Store} {name : String} {given : Algorithm → Options} {sources : List Handle}

/-- What applying the algorithm of some name to the images that some handles see leaves behind,
given the options that the algorithm reads and what it returns for images. -/
structure Spares (s : Store) (name : String) (given : Algorithm → Options) (sources : List Handle)
    (onImages : List Image → Except Failure (List Output))
    (outcome : Except Failure (List (String × Handle)) × Store) : Prop where
  /-- No handle and no buffer changes, whether the algorithm succeeds or not. -/
  keeps : s.Extends outcome.2
  /-- An output is the input itself, or it is on a buffer that was not there; which of them it is
  can be told beforehand. -/
  shares : ∀ {handles}, outcome.1 = .ok handles → ∃ a h, ofName? name = some a ∧ sources = [h] ∧
    ∀ p ∈ handles, (p.2 = h ∨ s.buffers.length ≤ p.2.buffer) ∧
      (p.2 = h ↔ a.handsOn (given a) h.type = true)
  /-- No two outputs share a buffer. -/
  distinct : ∀ {handles}, outcome.1 = .ok handles →
    handles.Pairwise fun p q => p.2.sharesWith q.2 = false
  /-- What the outputs see is what the algorithm returns for images. -/
  agrees : ∀ {images}, List.Forall₂ (fun h image => s.image? h = some image) sources images →
    (outcome.1.map fun handles => handles.map fun p => (p.1, outcome.2.image? p.2)) =
      (onImages images).map fun outputs => outputs.map fun output =>
        (output.role, images.head?.map output.result.get)

lemma spares_of_answers {w : Work (List (String × Handle))} {r : Except Failure (List Output)}
    {onImages : List Image → Except Failure (List Output)}
    (hw : Answers s s w (fun outputs handles s' => ∃ a, ofName? name = some a ∧
      Returns transform a (given a) s sources outputs handles s') r)
    (hr : ∀ images, List.Forall₂ (fun h image => s.image? h = some image) sources images →
      r = onImages images) :
    Spares s name given sources onImages (w.run.run s) := by
  cases r with
  | error e =>
    obtain ⟨s', hrun, hgrows⟩ := hw
    rw [hrun]
    refine ⟨hgrows, nofun, nofun, fun hall => ?_⟩
    rw [← hr _ hall]
    rfl
  | ok outputs =>
    obtain ⟨handles, s', hrun, hgrows, a, hname, h, image, rfl, hsee, hdone, hplaced⟩ := hw
    rw [hrun]
    refine ⟨hgrows, ?_, ?_, fun hall => ?_⟩
    · rintro _ ⟨⟩
      refine ⟨a, h, hname, rfl, fun p hp => ?_⟩
      -- the handle is on an output, and whether that is the input is known beforehand
      obtain ⟨output, hmem, hleads⟩ := hplaced.exists_leads hp
      have hshared := isShared_of_run hdone output hmem
      rw [(Store.image?_eq_some_iff.1 hsee).2.1] at hshared
      rw [← hshared]
      exact hleads.shares (Store.buffer_lt hsee)
    · rintro _ ⟨⟩
      exact hplaced.distinct.imp fun hne => decide_eq_false hne
    · rw [← hr _ hall]
      -- there is one source, so there is one image
      obtain ⟨image', rfl⟩ := List.length_eq_one_iff.1 hall.length_eq.symm
      have hsee' : s.image? h = some image' := by simpa using hall
      exact congrArg Except.ok (hplaced.map_image? hgrows hsee')

lemma ofName_eq_ok_iff {a : Algorithm} : ofName name = .ok a ↔ ofName? name = some a := by
  rw [ofName]
  cases ofName? name <;> simp

/-- What holds of every algorithm holds of the one that has the name. -/
lemma spares_of_forall {on : Algorithm → Work (List (String × Handle))}
    {onImages : Algorithm → List Image → Except Failure (List Output)}
    (hall : ∀ a, Answers s s (on a) (Returns transform a (given a) s sources)
      (sources.mapM s.seen >>= onImages a)) (name : String) :
    Spares s name given sources
      (fun images => orRefuse (ofName name) >>= fun a => onImages a images)
      ((ofResult (orRefuse (ofName name)) >>= on).run.run s) := by
  have hanswers := Answers.ofResult_bind (r := orRefuse (ofName name)) (.refl s) fun a hname =>
    (hall a).mono fun outputs handles s' _ hreturns =>
      (⟨a, ofName_eq_ok_iff.1 (of_orRefuse_eq_ok hname), hreturns⟩ :
        ∃ a, ofName? name = some a ∧ Returns transform a (given a) s sources outputs handles s')
  refine spares_of_answers hanswers fun images hsee => ?_
  rw [mapM_seen hsee]
  rfl

/-- **Applying an algorithm in memory spares what was there.**  Whatever the algorithm, the
options and the handles are, and whether it succeeds or not, no buffer that was there changes.
Each output either is the input itself, on the same buffer and of the same type and shape, or
has a buffer of its own that was not there before; it is the input exactly if a change of type
leaves the type as it is, or a function on pixels has nothing to do for pixels of this type. -/
theorem applyOn_spares (transform : LineTransform) (name : String) (o : Options) (s : Store)
    (sources : List Handle) :
    Spares s name (fun a => a.schema.finalize o) sources (applyNamed transform name o)
      ((applyNamedOn transform name o sources).run.run s) ∧
    Spares s name (fun _ => o) sources (applyListed transform name o)
      ((applyListedOn transform name o sources).run.run s) := by
  constructor
  · exact spares_of_forall (fun a => answers_applyCheckedOn transform a o s sources) name
  · exact spares_of_forall (fun a => answers_applyOn transform a o s sources) name

end Algorithm

end Raster
