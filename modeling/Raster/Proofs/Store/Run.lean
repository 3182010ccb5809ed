import Raster.Proofs.Store.Seen
/-!
# Runs of operations

Whatever an operation is, it leaves the store as it is, names a handle that was there, names a
handle on a new buffer, or writes an image of the right type and shape through a handle
(`Store.change_step`).  Each of these keeps a store well-formed: every handle sees an image, and
handles on one buffer see the same image.  So the stores that a run of operations goes through,
from the empty one on, are well-formed (`Store.WellFormed.run`).
-/

namespace Raster

/-- The name of the handle that an operation writes through, if it does. -/
def StoreOperation.written? : StoreOperation → Option String
  | .set source _ _ _ | .setFlat source _ _ _ | .editLines source _ _ _ => some source
  | _ => none

namespace Store

variable {s s' : Store} {h k : Handle} {image : Image}

/-! ## What a step does -/

/-- The ways in which one operation changes a store. -/
inductive Change (s : Store) (written : Option String) : Store → Prop
  | unchanged : Change s written s
  | named (name : String) {source : String} {h : Handle} (hsource : s.handle? source = some h) :
      Change s written (s.named name h)
  | new (name : String) (image : Image) : Change s written (s.new name image)
  | write {source : String} {h : Handle} {image : Image} (hwritten : written = some source)
      (hsource : s.handle? source = some h) (htype : image.type = h.type)
      (hshape : image.shape = h.shape) : Change s written (s.write h image)

variable {written : Option String}

lemma change_make (s : Store) (name : String) (image : Except Fault Image) :
    s.Change written (s.make name image).1 := by
  cases image with
  | error fault => exact .unchanged
  | ok image => exact .new name image

lemma change_modify (s : Store) (source : String) (type : PixelType)
    (change : (shape : Shape) → Grid shape type.Pixel → Grid shape type.Pixel × Option Fault) :
    s.Change (some source) (s.modify source type change).1 := by
  unfold modify
  cases hfind : s.find source with
  | error fault => exact .unchanged
  | ok found =>
    obtain ⟨h, image⟩ := found
    obtain ⟨hsource, hsee⟩ := find_eq_ok_iff.1 hfind
    obtain ⟨-, htype, hshape⟩ := image?_eq_some_iff.1 hsee
    dsimp only
    cases hview : image.view type with
    | error fault => exact .unchanged
    | ok grid =>
      have hview' : image.type = type := congrArg Image.type (Image.view_eq_ok hview)
      exact .write rfl hsource (hview'.symm.trans htype) hshape

lemma change_step (s : Store) (operation : StoreOperation) :
    s.Change operation.written? (s.step operation).1 := by
  cases operation with
  | zeros | ofPixels | ofCoordinates => exact change_make s _ _
  | copy | map | mapWithCoordinates | mapLines => exact change_make s _ _
  | set | setFlat | editLines => exact change_modify s _ _ _
  | share name source =>
    rw [step]
    cases hfind : s.find source with
    | error fault => exact .unchanged
    | ok found => exact .named name (find_eq_ok_iff.1 hfind).1
  | view name source type =>
    rw [step]
    cases hfind : s.find source with
    | error fault => exact .unchanged
    | ok found =>
      cases hview : found.2.view type with
      | error fault =>
        simp only [bind, Except.bind, hview]
        exact .unchanged
      | ok grid =>
        simp only [bind, Except.bind, hview]
        exact .named name (find_eq_ok_iff.1 hfind).1
  | convert name source conversion target =>
    rw [step]
    cases hfind : s.find source with
    | error fault => exact .unchanged
    | ok found =>
      show s.Change _ (s.newDerived name found.1 (found.2.convert conversion target))
      cases found.2.convert conversion target with
      | unchanged => exact .named name (find_eq_ok_iff.1 hfind).1
      | fresh image => exact .new name image

/-! ## The invariant -/

/-- Every handle sees an image, and handles on one buffer have one shape. -/
structure WellFormed (s : Store) : Prop where
  sees : ∀ {name h}, s.handle? name = some h → ∃ image, s.image? h = some image
  shape_eq : ∀ {m n h k}, s.handle? m = some h → s.handle? n = some k →
    h.buffer = k.buffer → h.shape = k.shape

namespace WellFormed

lemma empty : Store.empty.WellFormed :=
  ⟨fun hname => (nomatch hname), fun hm => (nomatch hm)⟩

lemma buffer_lt (hs : s.WellFormed) {name : String} (hname : s.handle? name = some h) :
    h.buffer < s.buffers.length := by
  obtain ⟨image, hsee⟩ := hs.sees hname
  exact Store.buffer_lt hsee

lemma type_eq (hs : s.WellFormed) {m n : String} (hm : s.handle? m = some h)
    (hn : s.handle? n = some k) (hbuffer : h.buffer = k.buffer) : h.type = k.type := by
  obtain ⟨image, hsee⟩ := hs.sees hm
  obtain ⟨image', hsee'⟩ := hs.sees hn
  obtain ⟨hb, htype, -⟩ := image?_eq_some_iff.1 hsee
  obtain ⟨hb', htype', -⟩ := image?_eq_some_iff.1 hsee'
  rw [hbuffer, hb'] at hb
  have htag : image'.type = image.type := congrArg Buffer.type (Option.some.inj hb)
  exact htype.symm.trans (htag.symm.trans htype')

/-- Handles on one buffer see the same image. -/
lemma image?_eq (hs : s.WellFormed) {m n : String} (hm : s.handle? m = some h)
    (hn : s.handle? n = some k) (hbuffer : h.buffer = k.buffer) : s.image? h = s.image? k := by
  obtain ⟨n', t, u⟩ := h
  obtain rfl : n' = k.buffer := hbuffer
  obtain rfl : t = k.type := hs.type_eq hm hn rfl
  obtain rfl : u = k.shape := hs.shape_eq hm hn rfl
  rfl

lemma named (hs : s.WellFormed) (name : String) {source : String}
    (hsource : s.handle? source = some h) : (s.named name h).WellFormed := by
  -- each handle after the change was there before, if under another name
  have hold : ∀ {m k}, (s.named name h).handle? m = some k → ∃ m', s.handle? m' = some k := by
    intro m k hm
    rw [handle?_named] at hm
    split at hm
    · cases hm
      exact ⟨source, hsource⟩
    · exact ⟨m, hm⟩
  constructor
  · intro m k hm
    obtain ⟨m', hm'⟩ := hold hm
    exact hs.sees hm'
  · intro m n k l hm hn hbuffer
    obtain ⟨m', hm'⟩ := hold hm
    obtain ⟨n', hn'⟩ := hold hn
    exact hs.shape_eq hm' hn' hbuffer

lemma new (hs : s.WellFormed) (name : String) (image : Image) : (s.new name image).WellFormed := by
  have hold : ∀ {m k}, (s.new name image).handle? m = some k →
      k = s.nextHandle image ∨ s.handle? m = some k ∧ k.buffer < s.buffers.length := by
    intro m k hm
    rw [handle?_new] at hm
    split at hm
    · exact Or.inl (Option.some.inj hm).symm
    · exact Or.inr ⟨hm, hs.buffer_lt hm⟩
  constructor
  · intro m k hm
    rcases hold hm with rfl | ⟨hm, hlt⟩
    · exact ⟨image, image?_new_nextHandle name⟩
    · obtain ⟨seen, hsee⟩ := hs.sees hm
      exact ⟨seen, (image?_new name image hlt).trans hsee⟩
  · intro m n k l hm hn hbuffer
    have hnext : (s.nextHandle image).buffer = s.buffers.length := rfl
    -- the new buffer has no handle but the new one
    rcases hold hm with rfl | ⟨hm, hlt⟩
    · rcases hold hn with rfl | ⟨-, hlt'⟩
      · rfl
      · omega
    · rcases hold hn with rfl | ⟨hn, -⟩
      · omega
      · exact hs.shape_eq hm hn hbuffer

lemma write (hs : s.WellFormed) {source : String} (hsource : s.handle? source = some h)
    (htype : image.type = h.type) (hshape : image.shape = h.shape) :
    (s.write h image).WellFormed := by
  constructor
  · intro m k hm
    change s.handle? m = some k at hm
    by_cases hbuffer : k.buffer = h.buffer
    · exact ⟨image, image?_write (hs.buffer_lt hsource) hbuffer
        (htype.trans (hs.type_eq hsource hm hbuffer.symm))
        (hshape.trans (hs.shape_eq hsource hm hbuffer.symm))⟩
    · rw [image?_write_of_ne image hbuffer]
      exact hs.sees hm
  · exact fun hm hn => hs.shape_eq (s := s) hm hn

lemma change (hs : s.WellFormed) (h : s.Change written s') : s'.WellFormed := by
  cases h with
  | unchanged => exact hs
  | named name hsource => exact hs.named name hsource
  | new name image => exact hs.new name image
  | write _ hsource htype hshape => exact hs.write hsource htype hshape

/-- What a handle sees is changed through the handles on its buffer alone. -/
lemma image?_of_change (hs : s.WellFormed) (hchange : s.Change written s') {m : String}
    (hm : s.handle? m = some k)
    (hwritten : ∀ {source h}, written = some source → s.handle? source = some h →
      k.sharesWith h = false) : s'.image? k = s.image? k := by
  cases hchange with
  | unchanged => rfl
  | named name hsource => rfl
  | new name image => exact image?_new name image (hs.buffer_lt hm)
  | write hsource hhandle =>
    exact image?_write_of_ne _ (of_decide_eq_false (hwritten hsource hhandle))

lemma step (hs : s.WellFormed) (operation : StoreOperation) : (s.step operation).1.WellFormed :=
  hs.change (change_step s operation)

lemma run (hs : s.WellFormed) (operations : List StoreOperation) :
    (s.run operations).WellFormed := by
  induction operations generalizing s with
  | nil => exact hs
  | cons operation operations ih => exact ih (hs.step operation)

end WellFormed

end Store

end Raster
