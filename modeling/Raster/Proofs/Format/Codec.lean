import Raster.Format.Codec
import Raster.Proofs.Format.Saving
import Raster.Proofs.Png.Rows
/-!
# The codec of the library

The samples of an image are in range, and the picture that they make shows the image
(`picture?_spec`).  So the library saves and loads just as it would with its own codec
(`Codec.standard_saveImages`, `Codec.standard_loadImages`), whichever byte the machine keeps
first, and that codec reads what it has written (`Codec.standard_isFaithful`).
-/

namespace Raster

/-! ## Images and their samples -/

lemma ofNat_toNat_self {n : Nat} (v : BitVec n) : BitVec.ofNat n v.toNat = v := by
  simp

lemma Byte.ofSample_toNat (v : Byte) : Byte.ofSample v.toNat = v := ofNat_toNat_self v

/-- What a picture has to be for the image to come back from its samples. -/
structure Picture.Shows (p : Picture) (image : Image) : Prop where
  layout_mem : p.layout ∈ FileFormat.png.layouts
  isInRange : p.buffer.IsInRange
  image_eq : p.image = image

/-- Pixels that are found again in their samples. -/
lemma Picture.shows_map {l : Layout} (hl : l ∈ FileFormat.png.layouts) {w h : Nat}
    (g : Grid [w, h] l.pixelType.Pixel) {f : l.pixelType.Pixel → Vector Nat l.channels}
    (hback : ∀ v, l.pixel (f v) = v) (hrange : ∀ v, ∀ x ∈ (f v).toList, x ≤ l.top) :
    (Picture.mk l w h (g.map f)).Shows ⟨l.pixelType, [w, h], g⟩ := by
  refine ⟨hl, fun x hx => ?_, ?_⟩
  · obtain ⟨v, hv, hx⟩ := List.mem_flatMap.1 hx
    rw [Grid.toList, Grid.map, Vector.toList_map] at hv
    obtain ⟨v, -, rfl⟩ := List.mem_map.1 hv
    exact hrange v x hx
  · have hpixels : (g.map f).map l.pixel = g := by
      rw [Grid.map_map, funext hback (f := l.pixel ∘ f) (g := id)]
      simp [Grid.map]
    exact congrArg (Image.mk l.pixelType [w, h]) hpixels

lemma le_of_mem_bytes (bs : List Byte) : ∀ x ∈ bs.map BitVec.toNat, x ≤ 255 := by
  intro x hx
  obtain ⟨b, -, rfl⟩ := List.mem_map.1 hx
  exact Nat.le_of_lt_succ b.isLt

/-- **The picture of an image shows the image.** -/
lemma picture?_shows {image : Image} {p : Picture} (h : image.picture? = some p) :
    p.Shows image := by
  unfold Image.picture? at h
  split at h
  · cases h
    refine Picture.shows_map (l := ⟨false, false, false⟩) (by decide) _ (fun v => ?_)
      fun v => le_of_mem_bytes [v]
    exact Byte.ofSample_toNat v
  · cases h
    refine Picture.shows_map (l := ⟨false, false, true⟩) (by decide) _ (fun v => ?_)
      fun v x hx => ?_
    · exact ofNat_toNat_self (n := 16) v
    · obtain rfl : x = BitVec.toNat v := List.mem_singleton.1 hx
      exact Nat.le_of_lt_succ v.isLt
  · cases h
    refine Picture.shows_map (l := ⟨false, true, false⟩) (by decide) _ (fun v => ?_)
      fun v => le_of_mem_bytes [v.gray, v.alpha]
    show GrayAlpha.mk (.ofSample v.gray.toNat) (.ofSample v.alpha.toNat) = v
    simp only [Byte.ofSample_toNat]
    rfl
  · cases h
    refine Picture.shows_map (l := ⟨true, false, false⟩) (by decide) _ (fun v => ?_)
      fun v => le_of_mem_bytes [v.red, v.green, v.blue]
    show Rgb.mk (.ofSample v.red.toNat) (.ofSample v.green.toNat) (.ofSample v.blue.toNat) = v
    simp only [Byte.ofSample_toNat]
    rfl
  · cases h
    refine Picture.shows_map (l := ⟨true, true, false⟩) (by decide) _ (fun v => ?_)
      fun v => le_of_mem_bytes [v.red, v.green, v.blue, v.alpha]
    show Rgba.mk (.ofSample v.red.toNat) (.ofSample v.green.toNat) (.ofSample v.blue.toNat)
      (.ofSample v.alpha.toNat) = v
    simp only [Byte.ofSample_toNat]
    rfl
  · cases h

/-! ## Its own codec -/

namespace Codec

variable (order : ByteOrder)

/-- **The library reads what it has written.** -/
lemma standard_isFaithful : (standard order).IsFaithful order := by
  intro c b _ hshape hrange
  obtain ⟨w, h, hwh, hw, hh⟩ := FileFormat.takesShape_eq_true hshape
  cases hwh
  have hw' : b.width < UInt32.size := Nat.lt_of_le_of_lt hw.2 FileFormat.png.greatestExtent_lt
  have hh' : b.height < UInt32.size := Nat.lt_of_le_of_lt hh.2 FileFormat.png.greatestExtent_lt
  have hne : ¬(b.width = 0 ∨ b.height = 0) := by omega
  have hpicture : b.picture.buffer.IsInRange := by rwa [SampleBuffer.buffer_picture]
  refine ⟨Png.encode b.picture, ?_, ?_⟩
  · show (Encoding.png c).bytes? (SampleBuffer.ofBytes order b.layout b.width b.height
      (b.bytes order)).picture = _
    rw [SampleBuffer.ofBytes_bytes order hrange]
    exact if_neg hne
  · have hdecode : Png.decode (Png.encode b.picture) = .ok b.picture :=
      Png.decode_encode ⟨hw.1, hw'⟩ ⟨hh.1, hh'⟩ hpicture
    show (Png.decode (Png.encode b.picture)).map Picture.buffer = _
    rw [hdecode]
    exact congrArg Except.ok (SampleBuffer.buffer_picture b)

lemma standard_encode (e : Encoding) {p : Picture} (h : p.buffer.IsInRange) :
    ((standard order).coding order).encode e p = e.bytes? p := by
  show e.bytes? (SampleBuffer.ofBytes order p.layout p.width p.height
    (p.buffer.bytes order)).picture = e.bytes? p
  have hread : SampleBuffer.ofBytes order p.layout p.width p.height (p.buffer.bytes order) =
      p.buffer := SampleBuffer.ofBytes_bytes order h
  rw [hread, SampleBuffer.picture_buffer]

lemma standard_decode :
    ((standard order).coding order).decode = Coding.own.decode := by
  funext f bytes
  show ((f.picture bytes).map Picture.buffer).map SampleBuffer.picture = f.picture bytes
  cases f.picture bytes with
  | error e => rfl
  | ok p => exact congrArg Except.ok (SampleBuffer.picture_buffer p)

lemma standard_fileBytes (f : FileFormat) (images : List Image) (path : Path) (o : Options) :
    @FileFormat.fileBytes ((standard order).coding order) f images path o =
      f.fileBytes images path o := by
  have hbytes (image : Image) (e : Encoding) :
      image.picture?.bind (((standard order).coding order).encode e) =
        image.picture?.bind (Coding.own.encode e) := by
    cases hp : image.picture? with
    | none => rw [Option.bind_none, Option.bind_none]
    | some p =>
      rw [Option.bind_some, Option.bind_some]
      exact standard_encode order e (picture?_shows hp).isInRange
  simp only [FileFormat.fileBytes, hbytes]

variable {m : Type → Type} [Monad m] [FileAccess m]

/-- **Saving is saving with the codec of the library.** -/
lemma standard_saveImages (matcher : Matcher) (images : List Image) (path : Path)
    (format : Option String) (o : Options) :
    (standard order).saveImages order (m := m) matcher images path format o =
      matcher.saveImages images path format o := by
  simp only [saveImages, Matcher.saveImages, FileFormat.save, FileFormat.store, standard_fileBytes]

/-- **Loading is loading with the codec of the library.** -/
lemma standard_loadImages (matcher : Matcher) (path : Path) (base : Option Path)
    (format : Option String) (o : Options) :
    (standard order).loadImages order (m := m) matcher path base format o =
      matcher.loadImages path base format o := by
  simp only [loadImages, Matcher.loadImages, FileFormat.load, standard_decode]

end Codec

end Raster
