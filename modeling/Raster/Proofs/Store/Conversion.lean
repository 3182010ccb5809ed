import Raster.Proofs.Store.Seen
/-!
# Converting what a handle sees

A conversion always succeeds.  It leaves every buffer as it is; the handle that it makes is on
the buffer of the source if the type stays, and else on a new buffer.
-/

namespace Raster

/-- The image with a single pixel. -/
def Image.single {t : PixelType} (v : t.Pixel) : Image := ⟨t, [1], Grid.fill [1] v⟩

namespace Image

variable {c : Conversion} {target : PixelType}

lemma convertPixels_single {t : PixelType} (v : t.Pixel) :
    (single v).convertPixels c target = single (c.pixel t target v) := by
  refine congrArg (Image.mk target [1]) (Grid.ext ?_)
  exact Vector.map_replicate

lemma isShared_followed (image : Image) :
    (image.followed c target).isShared = true ↔ target = image.type := by
  rw [followed]
  by_cases htype : image.type = target
  · rw [if_pos htype]
    exact ⟨fun _ => htype.symm, fun _ => rfl⟩
  · rw [if_neg htype]
    constructor
    · intro hshared
      cases hshared
    · intro h
      exact absurd h.symm htype

end Image

namespace Store

variable {s : Store} {h : Handle} {image : Image}

/-- An image that an operation returned is named, on the old buffer or on a new one. -/
lemma find_newDerived {source : String} (hfind : s.find source = .ok (h, image)) (name : String)
    (result : Derived) : ∃ h', (s.newDerived name h result).find name = .ok (h', result.get image) ∧
      h'.sharesWith h = result.isShared ∧
        ∀ n < s.buffers.length, (s.newDerived name h result).buffers[n]? = s.buffers[n]? := by
  obtain ⟨-, hsee⟩ := find_eq_ok_iff.1 hfind
  cases result with
  | unchanged =>
    refine ⟨h, find_eq_ok_iff.2 ⟨?_, hsee⟩, decide_eq_true rfl, fun _ _ => rfl⟩
    exact (handle?_named s name name h).trans (if_pos rfl)
  | fresh image' =>
    refine ⟨s.nextHandle image', find_eq_ok_iff.2 ⟨?_, image?_new_nextHandle name⟩, ?_,
      fun n hn => getElem?_buffers_new name image' hn⟩
    · exact (handle?_new s name name image').trans (if_pos rfl)
    · exact decide_eq_false (Nat.ne_of_gt (buffer_lt hsee))

end Store

/-- **Every image converts to every type, pixel by pixel.**  The route of a conversion ends
without an error, whatever the types, the shape and the settings are.  The result has the wanted
type and the shape of the source, and each of its pixels is the one that an image of this single
pixel is converted to.  It is the source itself exactly if the type stays; made from what a
handle sees, it is then on the buffer of the source, and in no case is a buffer changed. -/
theorem Image.route_total (c : Conversion) (image : Image) (target : PixelType) :
    ∃ (result : Derived) (grid : Grid image.shape target.Pixel),
      image.route c target = .ok result ∧ image.convert c target = result ∧
      result.get image = ⟨target, image.shape, grid⟩ ∧
      (∀ i, ∃ one, (single (image.grid.cells.get i)).route c target = .ok one ∧
        one.get (single (image.grid.cells.get i)) = single (grid.cells.get i)) ∧
      (result.isShared = true ↔ target = image.type) ∧
      ∀ {s : Store} {source : String} {h : Handle}, s.find source = .ok (h, image) →
        ∀ name, ∃ s' h', s.step (.convert name source c target) = (s', none) ∧
          s'.find name = .ok (h', ⟨target, image.shape, grid⟩) ∧
          (h'.sharesWith h = true ↔ target = image.type) ∧
          ∀ n < s.buffers.length, s'.buffers[n]? = s.buffers[n]? := by
  have hget : (image.followed c target).get image =
      ⟨target, image.shape, image.grid.convert c image.type target⟩ := get_followed image
  refine ⟨image.followed c target, image.grid.convert c image.type target, image.route_eq c target,
    image.convert_eq c target, hget, fun i => ?_, isShared_followed image, ?_⟩
  · refine ⟨_, route_eq c _ target, ?_⟩
    rw [get_followed, convertPixels_single]
    exact congrArg single (Vector.getElem_map (c.pixel image.type target) i.isLt).symm
  · intro s source h hfind name
    obtain ⟨h', hfind', hshares, hbuffers⟩ :=
      Store.find_newDerived hfind name (image.followed c target)
    refine ⟨s.newDerived name h (image.followed c target), h', ?_, ?_, ?_, hbuffers⟩
    · rw [Store.step, hfind, ← image.convert_eq c target]
      rfl
    · rw [hfind', hget]
    · rw [hshares]
      exact isShared_followed image

theorem Image.route_total_rgba :
    let image := Image.zeros .rgba [2]
    ∃ (result : Derived) (grid : Grid [2] (Complex Float32)),
      image.route {} (.complex .single) = .ok result ∧
      result.get image = ⟨.complex .single, [2], grid⟩ ∧
      ∃ s' h', (Store.empty.new "a" image).step (.convert "b" "a" {} (.complex .single)) =
          (s', none) ∧
        s'.find "b" = .ok (h', ⟨.complex .single, [2], grid⟩) ∧ s'.buffers[0]? =
          some image.toBuffer := by
  intro image
  obtain ⟨result, grid, hroute, -, hget, -, -, hstore⟩ :=
    Image.route_total {} image (.complex .single)
  have hfind : (Store.empty.new "a" image).find "a" = .ok (⟨0, .rgba, [2]⟩, image) :=
    Store.find_eq_ok_iff.2 ⟨rfl, Store.image?_new_nextHandle "a"⟩
  obtain ⟨s', h', hstep, hfind', -, hbuffers⟩ := hstore hfind "b"
  exact ⟨result, grid, hroute, hget, s', h', hstep, hfind', hbuffers 0 (by decide)⟩

end Raster
