import Raster.Proofs.Store.Seen
import Raster.Proofs.Traversal
import Raster.Store.Work
/-!
# Work that leaves arrays as they are

Allocating adds a buffer behind those that are there, and writing through a handle on a buffer
that was added changes none of the others.  So a store only grows (`Store.Extends`) while work
writes to nothing but what it has allocated itself.  `Yields` says that work on a store `s`
comes to a result, and that all that was there in an earlier store `s₀` is as it was; `Fails`
says the same of work that fails.  Both pass from the steps of work to the whole of it.
-/

namespace Raster

variable {type type' : PixelType} {shape shape' : Shape} {s s₀ s₁ : Store} {h : Handle}
  {image : Image} {a : ArrayOf type shape} {g : Grid shape type.Pixel}

/-! ## Stores that grow -/

namespace Store

/-- The second store is the first one with more buffers. -/
structure Extends (s₀ s : Store) : Prop where
  handles : s.handles = s₀.handles
  buffers : s₀.buffers <+: s.buffers

namespace Extends

lemma refl (s : Store) : s.Extends s := ⟨rfl, List.prefix_rfl⟩

lemma trans (h₀ : s₀.Extends s₁) (h₁ : s₁.Extends s) : s₀.Extends s :=
  ⟨h₁.handles.trans h₀.handles, h₀.buffers.trans h₁.buffers⟩

lemma length_le (h₀ : s₀.Extends s) : s₀.buffers.length ≤ s.buffers.length :=
  h₀.buffers.length_le

lemma allocate (h₀ : s₀.Extends s) (image : Image) : s₀.Extends (s.allocate image) :=
  ⟨h₀.handles, h₀.buffers.trans (List.prefix_append _ _)⟩

/-- Writing to what has been added changes nothing that was there. -/
lemma write (h₀ : s₀.Extends s) (hnew : s₀.buffers.length ≤ h.buffer) (image : Image) :
    s₀.Extends (s.write h image) := by
  refine ⟨h₀.handles, ?_⟩
  -- the write lands behind what was there
  obtain ⟨added, hadded⟩ := h₀.buffers
  refine ⟨added.set (h.buffer - s₀.buffers.length) image.toBuffer, ?_⟩
  rw [Store.write, ← hadded, List.set_append_right _ _ hnew]

/-- What could be seen is seen as it was. -/
lemma image?_eq (h₀ : s₀.Extends s) (hsee : s₀.image? h = some image) :
    s.image? h = some image := by
  rw [image?_congr, hsee]
  obtain ⟨added, hadded⟩ := h₀.buffers
  rw [← hadded, List.getElem?_append_left (buffer_lt hsee)]

end Extends

/-! ## Arrays of known type and shape -/

lemma grid?_eq_some_iff : s.grid? a = some g ↔ s.image? a.erase = some ⟨type, shape, g⟩ := by
  have hgrid : s.grid? a = (s.image? a.erase).bind fun image => image.gridOf? type shape := rfl
  cases hsee : s.image? a.erase with
  | none => simp [hgrid, hsee]
  | some image =>
    -- what is seen has the type and the shape of the handle, so nothing is cast
    obtain ⟨-, htype, hshape⟩ := image?_eq_some_iff.1 hsee
    obtain ⟨t, u, g'⟩ := image
    obtain rfl : t = type := htype
    obtain rfl : u = shape := hshape
    have hself : Image.gridOf? ⟨t, u, g'⟩ t u = some g' := dif_pos ⟨rfl, rfl⟩
    rw [hgrid, hsee, Option.bind_some, hself]
    simp

lemma Extends.grid?_eq (h₀ : s₀.Extends s) (hread : s₀.grid? a = some g) :
    s.grid? a = some g :=
  grid?_eq_some_iff.2 (h₀.image?_eq (grid?_eq_some_iff.1 hread))

lemma grid?_allocate (s : Store) (g : Grid shape type.Pixel) :
    (s.allocate ⟨type, shape, g⟩).grid? (⟨s.buffers.length⟩ : ArrayOf type shape) = some g :=
  grid?_eq_some_iff.2 (image?_eq_some_iff.2 ⟨List.getElem?_concat_length, rfl, rfl⟩)

lemma grid?_write (hread : s.grid? a = some g) (g' : Grid shape type.Pixel) :
    (s.write a.erase ⟨type, shape, g'⟩).grid? a = some g' :=
  grid?_eq_some_iff.2 (image?_write (buffer_lt (grid?_eq_some_iff.1 hread)) rfl rfl rfl)

end Store

/-! ## Results of work -/

namespace Work

variable {α β : Type} {w : Work α} {next : α → Work β} {post : α → Store → Prop}
  {post' : β → Store → Prop} {e : Failure}

/-- Work on `s` comes to a result that fits, with the store after it; what was there in `s₀` is as
it was. -/
def Yields (s₀ s : Store) (w : Work α) (post : α → Store → Prop) : Prop :=
  ∃ a s', w.run.run s = (.ok a, s') ∧ s₀.Extends s' ∧ post a s'

/-- Work on `s` fails; what was there in `s₀` is as it was. -/
def Fails (s₀ s : Store) (w : Work α) (e : Failure) : Prop :=
  ∃ s', w.run.run s = (.error e, s') ∧ s₀.Extends s'

lemma Yields.pure {a : α} (h₀ : s₀.Extends s) (hpost : post a s) :
    Yields s₀ s (Pure.pure a : Work α) post :=
  ⟨a, s, rfl, h₀, hpost⟩

lemma Yields.bind (hw : Yields s₀ s w post)
    (hnext : ∀ a s', s₀.Extends s' → post a s' → Yields s₀ s' (next a) post') :
    Yields s₀ s (w >>= next) post' := by
  obtain ⟨a, s', hrun, h₀, hpost⟩ := hw
  have hrest := hnext a s' h₀ hpost
  rw [Yields, run_bind, hrun]
  exact hrest

lemma Yields.mono {post' : α → Store → Prop} (hw : Yields s₀ s w post)
    (himp : ∀ a s', post a s' → post' a s') : Yields s₀ s w post' := by
  obtain ⟨a, s', hrun, h₀, hpost⟩ := hw
  exact ⟨a, s', hrun, h₀, himp a s' hpost⟩

/-- What was there when the work began is as it was, too. -/
lemma Yields.after (hw : Yields s s w post) (h₀ : s₀.Extends s) :
    Yields s₀ s w fun a s' => s.Extends s' ∧ post a s' := by
  obtain ⟨a, s', hrun, hgrows, hpost⟩ := hw
  exact ⟨a, s', hrun, h₀.trans hgrows, hgrows, hpost⟩

lemma run_look (f : Store → Option α) (s : Store) :
    (look f).run.run s =
      match f s with
      | some a => (.ok a, s)
      | none => (orFault (.error .outOfBounds), s) := rfl

lemma yields_look {f : Store → Option α} {a : α} (h₀ : s₀.Extends s) (hlook : f s = some a) :
    Yields s₀ s (look f) fun a' s' => a' = a ∧ s' = s :=
  ⟨a, s, by rw [run_look, hlook], h₀, rfl, rfl⟩

/-! ## Answers -/

/-- Work on `s` comes out as a computation without a store does: it fails as that does, or comes
to what fits the result of that. -/
def Answers (s₀ s : Store) (w : Work α) (fits : β → α → Store → Prop) :
    Except Failure β → Prop
  | .ok b => Yields s₀ s w (fits b)
  | .error e => Fails s₀ s w e

/-- A step without a counterpart in the computation. -/
lemma Yields.answers_bind {γ δ : Type} {next : α → Work γ} {r : Except Failure δ}
    {fits : δ → γ → Store → Prop} (hw : Yields s₀ s w post)
    (hnext : ∀ a s', s₀.Extends s' → post a s' → Answers s₀ s' (next a) fits r) :
    Answers s₀ s (w >>= next) fits r := by
  obtain ⟨a, s', hrun, h₀, hpost⟩ := hw
  have hrest := hnext a s' h₀ hpost
  cases r with
  | ok d =>
    rw [Answers, Yields, run_bind, hrun]
    exact hrest
  | error e =>
    rw [Answers, Fails, run_bind, hrun]
    exact hrest

lemma Answers.bind {γ δ : Type} {fits : β → α → Store → Prop} {r : Except Failure β}
    {next : α → Work γ} {rest : β → Except Failure δ} {fits' : δ → γ → Store → Prop}
    (hw : Answers s₀ s w fits r)
    (hnext : ∀ b a s', s₀.Extends s' → fits b a s' →
      Answers s₀ s' (next a) fits' (rest b)) :
    Answers s₀ s (w >>= next) fits' (r >>= rest) := by
  cases r with
  | error e =>
    obtain ⟨s', hrun, h₀⟩ := hw
    exact ⟨s', by rw [run_bind, hrun], h₀⟩
  | ok b => exact Yields.answers_bind hw (hnext b)

/-- What is found out without the store comes first in both. -/
lemma Answers.ofResult_bind {γ δ : Type} {r : Except Failure β} {next : β → Work γ}
    {rest : β → Except Failure δ} {fits : δ → γ → Store → Prop} (h₀ : s₀.Extends s)
    (hnext : ∀ b, r = .ok b → Answers s₀ s (next b) fits (rest b)) :
    Answers s₀ s (ofResult r >>= next) fits (r >>= rest) := by
  cases r with
  | error e => exact ⟨s, rfl, h₀⟩
  | ok b => exact hnext b rfl

lemma Answers.mono {fits fits' : β → α → Store → Prop} {r : Except Failure β}
    (hw : Answers s₀ s w fits r)
    (himp : ∀ b a s', r = .ok b → fits b a s' → fits' b a s') : Answers s₀ s w fits' r := by
  cases r with
  | error e => exact hw
  | ok b => exact Yields.mono hw fun a s' hfits => himp b a s' rfl hfits

/-- Work is done for each number, and each result is known beforehand. -/
lemma yields_ofFnM {n : Nat} {f : Fin n → Work α} {v : Fin n → α} (h₀ : s₀.Extends s)
    (hf : ∀ i s', s₀.Extends s' → Yields s₀ s' (f i) fun a _ => a = v i) :
    Yields s₀ s (Vector.ofFnM f) fun vs _ => vs = Vector.ofFn v := by
  induction n with
  | zero =>
    rw [Vector.ofFnM_zero]
    exact Yields.pure h₀ (by simp)
  | succ n ih =>
    rw [Vector.ofFnM_succ]
    refine (ih fun i => hf i.castSucc).bind fun vs s₁ h₁ hvs => ?_
    refine (hf (Fin.last n) s₁ h₁).bind fun a s₂ h₂ ha => Yields.pure h₂ ?_
    rw [hvs, ha, Vector.ofFn_succ]
    rfl

/-! ## Reading and allocating -/

/-- An array that was not there in `s₀`, and holds the given pixels. -/
structure IsNew (s₀ : Store) (g : Grid shape type.Pixel) (a : ArrayOf type shape) (s : Store) :
    Prop where
  new : s₀.buffers.length ≤ a.buffer
  holds : s.grid? a = some g

lemma yields_read (h₀ : s₀.Extends s) (hread : s.grid? a = some g) :
    Yields s₀ s (read a) fun g' s' => g' = g ∧ s' = s :=
  yields_look h₀ hread

lemma yields_allocate (h₀ : s₀.Extends s) (g : Grid shape type.Pixel) :
    Yields s₀ s (allocate g) (IsNew s₀ g) :=
  ⟨⟨s.buffers.length⟩, _, rfl, h₀.allocate _, h₀.length_le, s.grid?_allocate g⟩

lemma yields_remake (h₀ : s₀.Extends s) (hread : s.grid? a = some g)
    (f : Grid shape type.Pixel → Grid shape' type'.Pixel) :
    Yields s₀ s (remake a f) (IsNew s₀ (f g)) := by
  refine (yields_read h₀ hread).bind ?_
  rintro g' s' h₁ ⟨rfl, rfl⟩
  exact yields_allocate h₁ (f g')

/-- One array is made of the other; the last one is the first one, or new. -/
lemma yields_foldlM_remake {f : α → Grid shape type.Pixel → Grid shape type.Pixel}
    (h₀ : s₀.Extends s) (hread : s.grid? a = some g) (l : List α) :
    Yields s₀ s (l.foldlM (fun a x => remake a (f x)) a) fun b s' =>
      s'.grid? b = some (l.foldl (fun g x => f x g) g) ∧
        (b = a ∨ s₀.buffers.length ≤ b.buffer) := by
  induction l generalizing s a g with
  | nil => exact Yields.pure h₀ ⟨hread, Or.inl rfl⟩
  | cons x l ih =>
    rw [List.foldlM_cons]
    refine (yields_remake h₀ hread (f x)).bind fun b s₁ h₁ hb => ?_
    refine (ih h₁ hb.holds).mono fun c s₂ hc => ⟨hc.1, ?_⟩
    -- after the first step there is no way back to the first array
    rcases hc.2 with rfl | hnew
    · exact Or.inr hb.new
    · exact Or.inr hnew

/-! ## Writing in place -/

lemma yields_edit (h₀ : s₀.Extends s) (ha : IsNew s₀ g a s)
    (f : Grid shape type.Pixel → Grid shape type.Pixel) :
    Yields s₀ s (edit a f) fun _ s' => IsNew s₀ (f g) a s' := by
  refine (yields_read h₀ ha.holds).bind ?_
  rintro g' s' h₁ ⟨rfl, rfl⟩
  exact ⟨(), _, rfl, h₁.write ha.new _, ha.new, Store.grid?_write ha.holds _⟩

/-- An array is changed by one function after the other. -/
lemma yields_forM_edit {f : α → Grid shape type.Pixel → Grid shape type.Pixel}
    (h₀ : s₀.Extends s) (ha : IsNew s₀ g a s) (l : List α) :
    Yields s₀ s (l.forM fun x => edit a (f x)) fun _ s' =>
      IsNew s₀ (l.foldl (fun g x => f x g) g) a s' := by
  induction l generalizing s g with
  | nil => exact Yields.pure h₀ ha
  | cons x l ih => exact (yields_edit h₀ ha (f x)).bind fun _ s₁ h₁ hb => ih h₁ hb

end Work

end Raster
