import Mathlib.Tactic.Common
import Raster.Proofs.Extension.Table
import Raster.Store.Operation
/-!
# What handles see

A handle sees an image exactly if its buffer holds the pixels of this image and the handle has
its type and its shape (`Store.image?_eq_some_iff`).  So allocating a buffer and naming a handle
change nothing that is seen, and writing a buffer changes what is seen through the handles on
this buffer alone.
-/

namespace Raster

lemma Image.view_eq_ok {image : Image} {type : PixelType} {g : Grid image.shape type.Pixel}
    (h : image.view type = .ok g) : image = ⟨type, image.shape, g⟩ := by
  obtain ⟨t, s, grid⟩ := image
  unfold view at h
  split at h
  · rename_i htype
    obtain rfl : t = type := htype
    cases h
    rfl
  · cases h

namespace Store

variable {s : Store} {h k : Handle} {image : Image}

/-! ## Handles and buffers -/

lemma handle?_named (s : Store) (name m : String) (h : Handle) :
    (s.named name h).handle? m = if name = m then some h else s.handle? m :=
  Table.get?_put name m h s.handles

lemma handle?_new (s : Store) (name m : String) (image : Image) :
    (s.new name image).handle? m = if name = m then some (s.nextHandle image) else s.handle? m :=
  handle?_named (s.allocate image) name m (s.nextHandle image)

lemma image?_eq_some_iff : s.image? h = some image ↔
    s.buffers[h.buffer]? = some image.toBuffer ∧ image.type = h.type ∧ image.shape = h.shape := by
  constructor
  · intro hsee
    unfold image? at hsee
    split at hsee
    · rename_i b hb
      split at hsee
      · rename_i htype
        split at hsee
        · cases hsee
          exact ⟨hb, htype, rfl⟩
        · cases hsee
      · cases hsee
    · cases hsee
  · rintro ⟨hb, htype, hshape⟩
    obtain ⟨t, u, g⟩ := image
    obtain ⟨n, _, _⟩ := h
    cases htype
    cases hshape
    simp only [image?, hb, Image.toBuffer, ↓reduceIte, Vector.size_toArray, ↓reduceDIte]

lemma buffer_lt (hsee : s.image? h = some image) : h.buffer < s.buffers.length :=
  (List.getElem?_eq_some_iff.1 (image?_eq_some_iff.1 hsee).1).1

/-- What a handle sees depends on its buffer alone. -/
lemma image?_congr {s s' : Store} (hbuffer : s'.buffers[h.buffer]? = s.buffers[h.buffer]?) :
    s'.image? h = s.image? h := by
  rw [image?, image?, hbuffer]

@[simp] lemma image?_new_nextHandle (name : String) :
    (s.new name image).image? (s.nextHandle image) = some image :=
  image?_eq_some_iff.2 ⟨List.getElem?_concat_length, rfl, rfl⟩

lemma getElem?_buffers_new (name : String) (image : Image) {n : Nat} (hn : n < s.buffers.length) :
    (s.new name image).buffers[n]? = s.buffers[n]? :=
  List.getElem?_append_left hn

lemma image?_new (name : String) (image : Image) (hh : h.buffer < s.buffers.length) :
    (s.new name image).image? h = s.image? h :=
  image?_congr (getElem?_buffers_new name image hh)

/-! ## Writing -/

/-- Writing what is seen changes nothing. -/
lemma write_self (hsee : s.image? h = some image) : s.write h image = s := by
  have hbuffer := (image?_eq_some_iff.1 hsee).1
  have hset : s.buffers.set h.buffer image.toBuffer = s.buffers := by
    refine List.ext_getElem? fun n => ?_
    by_cases hn : h.buffer = n
    · subst hn
      rw [List.getElem?_set_self (buffer_lt hsee), hbuffer]
    · rw [List.getElem?_set_ne hn]
  rw [write, hset]

lemma image?_write_of_ne (image : Image) (hne : k.buffer ≠ h.buffer) :
    (s.write h image).image? k = s.image? k :=
  image?_congr (List.getElem?_set_ne hne.symm)

lemma image?_write (hlt : h.buffer < s.buffers.length) (hbuffer : k.buffer = h.buffer)
    (htype : image.type = k.type) (hshape : image.shape = k.shape) :
    (s.write h image).image? k = some image := by
  refine image?_eq_some_iff.2 ⟨?_, htype, hshape⟩
  rw [hbuffer]
  exact List.getElem?_set_self hlt

/-! ## Finding -/

lemma find_eq_ok_iff {name : String} :
    s.find name = .ok (h, image) ↔ s.handle? name = some h ∧ s.image? h = some image := by
  unfold find
  cases hhandle : s.handle? name with
  | none => simp
  | some h' =>
    cases hsee : s.image? h' with
    | none =>
      simp only [hsee, Option.some.injEq, reduceCtorEq, false_iff, not_and]
      rintro rfl
      rw [hsee]
      exact nofun
    | some image' =>
      simp only [hsee, Except.ok.injEq, Prod.mk.injEq, Option.some.injEq]
      constructor
      · rintro ⟨rfl, rfl⟩
        exact ⟨rfl, hsee⟩
      · rintro ⟨rfl, hsee'⟩
        exact ⟨rfl, Option.some.inj (hsee.symm.trans hsee')⟩

end Store

end Raster
