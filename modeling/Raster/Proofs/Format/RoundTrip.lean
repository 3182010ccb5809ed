import Raster.Proofs.Files.ReadBack
import Raster.Proofs.Format.Codec
/-!
# Saving a picture and loading it again

An image that is saved as PNG comes back as it was, under the stem of the file
(`Matcher.png_round_trips`).  This holds of the library, and with any codec in its place that
reads the PNG files that it has written: what is added to the codec, taking pixels apart before
and putting them together afterwards, choosing the format twice, and naming the image, loses
nothing.
-/

namespace Raster

open Raster.Path

variable {image : Image} {path : Path} {format : Option String} {o : Options} {σ : Session}
  {l : Location}

/-- In a session, something is saved at a path, and what is loaded from there is what is
expected.  Loading leaves the session as it is. -/
def RoundTrips (save : InMemory (Except Failure Path))
    (load : Path → InMemory (Except Failure (List Labelled))) (σ : Session) (path : Path)
    (expected : List Labelled) : Prop :=
  ∃ σ', save σ = (.ok path, σ') ∧ load path σ' = (.ok expected, σ')

/-! ## Choosing the format -/

namespace Matcher

/-- A path whose extension stands for PNG before all stands for PNG alone. -/
lemma standard_find_of_predict (h : Matcher.standard.predict path = .ok "png") :
    Matcher.standard.find path = .ok ["png"] := by
  rw [predict] at h
  obtain ⟨names, hfind, hhead⟩ := exists_of_bind_eq_ok h
  rw [find] at hfind
  obtain ⟨ext, hext, hnames⟩ := exists_of_bind_eq_ok hfind
  have hmatching : (Matcher.standard.matching ext).eraseDups = names := Except.ok.inj hnames
  cases names with
  | nil => cases hhead
  | cons name names =>
    obtain rfl : name = "png" := Except.ok.inj hhead
    have hmem : "png" ∈ Matcher.standard.matching ext := by
      rw [← List.mem_eraseDups, hmatching]
      exact List.mem_cons_self
    rw [standard_matching_of_mem hmem] at hmatching
    rw [find, hfind, ← hmatching]
    rfl

/-- Where PNG is named, or the extension stands for it, images that it takes are saved in it. -/
lemma resolve_png (haccepts : FileFormat.png.capabilities.accepts [image] = true)
    (hformat : format = some "png" ∨ format = none ∧ Matcher.standard.predict path = .ok "png") :
    Matcher.standard.resolve [image] path format =
      .ok ⟨.png, path.withExtension FileFormat.png.outputExtension.toList⟩ := by
  have hnamed : Matcher.standard.resolve [image] path (some "png") =
      .ok ⟨.png, path.withExtension FileFormat.png.outputExtension.toList⟩ :=
    (resolve_named .png path).trans (if_pos haccepts)
  rcases hformat with rfl | ⟨rfl, hpredict⟩
  · exact hnamed
  · exact (resolve_none_eq .png (standard_find_of_predict hpredict)).trans hnamed

/-- A file that has the extension of PNG is tried as PNG first. -/
lemma exists_loadingOrder (hext : path.extension? = some FileFormat.png.outputExtension.toList)
    (hformat : format = none ∨ format = some "png") :
    ∃ names, Matcher.standard.loadingOrder path format = .ok ("png" :: names) := by
  rcases hformat with rfl | rfl
  · have hextension : extensionOf path = .ok FileFormat.png.outputExtension.toList := by
      rw [extensionOf, hext]
      rfl
    have hmatching : Matcher.standard.matching FileFormat.png.outputExtension.toList = ["png"] :=
      standard_matching_of_png (Or.inl rfl)
    rw [loadingOrder, sorted, hextension]
    simp only [bind, Except.bind, hmatching, List.singleton_append, List.eraseDups_cons]
    exact ⟨_, rfl⟩
  · exact ⟨[], rfl⟩

end Matcher

/-- The first format that is asked gives the answer. -/
lemma firstAnswer_of_answer {α : Type} {ask : FileFormat → InMemory (Except Failure (Option α))}
    {f : FileFormat} {a : α} (hvalid : f.loadingSchema.isValid o = true)
    (hask : ask f σ = (.ok (some a), σ)) (names : List String) :
    firstAnswer ask o (f.name :: names) σ = (.ok (some a), σ) := by
  have hname : FileFormat.ofName f.name = .ok f := FileFormat.ofName_eq_ok_iff.2 rfl
  rw [firstAnswer, hname]
  dsimp only
  rw [if_pos hvalid]
  simp only [bind, StateT.bind, hask]
  rfl

/-! ## Saving and loading with a library for pictures -/

section Library

variable [Coding] {bytes : List Byte}

/-- Saving writes the bytes of the file. -/
lemma Matcher.saveImages_eq_written {d : Destination}
    (hresolve : Matcher.standard.resolve [image] path format = .ok d)
    (ho : d.format.savingSchema.validate o = .ok ())
    (hbytes : d.format.fileBytes [image] d.path (d.format.savingSchema.finalize o) = .ok bytes)
    (hl : σ.files.writable d.path = .ok l) :
    (Matcher.standard.saveImages [image] path format o : InMemory _) σ =
      (.ok d.path, σ.written l bytes) := by
  have hencoded : d.format.fileBytes [image] d.path (d.format.savingSchema.finalize o) =
      (some bytes).elim (.error (.encode d.path.text)) .ok := hbytes
  rw [Matcher.saveImages_eq hresolve ho hencoded InMemory]
  simp only [writeEncoded, writeBytes, bind, StateT.bind, Session.write_eq hl]
  rfl

/-- Loading reads the file and finds the image. -/
lemma Matcher.loadImages_eq_found {lo : Options} (hl : σ.files.writable path = .ok l)
    (hext : path.extension? = some FileFormat.png.outputExtension.toList)
    (hformat : format = none ∨ format = some "png")
    (hlo : FileFormat.png.loadingSchema.isValid lo = true)
    (himage : (Coding.decode .png bytes).map Picture.image = .ok image) (base : Option Path) :
    (Matcher.standard.loadImages path base format lo : InMemory _) (σ.written l bytes) =
      (.ok [⟨path.loadingLabel base, image⟩], σ.written l bytes) := by
  obtain ⟨names, hnames⟩ := exists_loadingOrder hext hformat
  have hload : (FileFormat.png.load path : InMemory _) (σ.written l bytes) =
      (.ok (some image), σ.written l bytes) := by
    rw [FileFormat.load, FileFormat.readFile]
    simp only [bind, StateT.bind, Session.read_written hl bytes, himage]
    rfl
  have hfirst : (firstAnswer (fun f => f.load path) lo ("png" :: names) : InMemory _)
      (σ.written l bytes) = (.ok (some image), σ.written l bytes) :=
    firstAnswer_of_answer (f := .png) hlo hload names
  rw [loadImages, askFormats, hnames]
  simp only [bind, StateT.bind, hfirst]
  rfl

end Library

/-- A faithful codec makes a file of an image, and finds its samples in it. -/
lemma Codec.IsFaithful.exists_fileBytes {codec : Codec} {order : ByteOrder}
    (hcodec : codec.IsFaithful order) {w h : Nat}
    (htype : image.type ∈ FileFormat.png.types) (hshape : image.shape = [w, h])
    (htakes : FileFormat.png.takesShape [w, h] = true)
    (ho : FileFormat.png.savingSchema.validate o = .ok ()) (path : Path) :
    letI := codec.coding order
    ∃ bytes,
      FileFormat.png.fileBytes [image] path (FileFormat.png.savingSchema.finalize o) =
        .ok bytes ∧
      (Coding.decode .png bytes).map Picture.image = .ok image := by
  let _ := codec.coding order
  obtain ⟨p, hp, rfl, rfl⟩ := FileFormat.exists_picture htype hshape
  obtain ⟨hlayout, hrange, himage⟩ := picture?_shows hp
  obtain ⟨e, he, hpng⟩ := FileFormat.exists_encoding ho
  obtain ⟨c, rfl⟩ : ∃ c, e = .png c := by
    cases e with
    | jpeg quality => cases hpng
    | png c => exact ⟨c, rfl⟩
  obtain ⟨bytes, hencode, hdecode⟩ := hcodec c p.buffer hlayout htakes hrange
  refine ⟨bytes, ?_, ?_⟩
  · have hplanar : checkPlanar image.shape = .ok () := by
      obtain ⟨w, h, hwh, hw, hh⟩ := FileFormat.takesShape_eq_true htakes
      have hlt := FileFormat.png.greatestExtent_lt
      rw [hshape, hwh]
      exact FileFormat.checkPlanar_eq_ok (by omega) (by omega)
    have hsome : image.picture?.bind (Coding.encode (.png c)) = some bytes := by
      rw [hp, Option.bind_some]
      exact hencode
    simp only [FileFormat.fileBytes, FileFormat.onlyImage_eq_ok htype, hplanar, he, hsome,
      orRefuse, Except.mapError, bind, Except.bind]
    rfl
  · have hpicture : Coding.decode .png bytes = .ok p := by
      show (codec.decode .png bytes).map SampleBuffer.picture = .ok p
      rw [hdecode]
      exact congrArg Except.ok (SampleBuffer.picture_buffer p)
    rw [hpicture, ← himage]
    rfl

/-! ## The round trip -/

lemma Path.empty_join (p : Path) : empty.join p = p := by
  rw [join]
  split
  · rfl
  · rfl

namespace Codec

variable {codec : Codec} {order : ByteOrder}

/-- With a faithful codec an image that is saved as PNG comes back as it was. -/
lemma IsFaithful.roundTrips (hcodec : codec.IsFaithful order) {w h : Nat}
    (htype : image.type ∈ FileFormat.png.types) (hshape : image.shape = [w, h])
    (htakes : FileFormat.png.takesShape [w, h] = true)
    (ho : FileFormat.png.savingSchema.validate o = .ok ())
    (hformat : format = some "png" ∨ format = none ∧ Matcher.standard.predict path = .ok "png")
    {written : Path} (hwritten : written = path.withExtension ['p', 'n', 'g'])
    (hl : σ.files.writable written = .ok l) {again : Option String}
    (hagain : again = none ∨ again = some "png") {lo : Options}
    (hlo : FileFormat.png.loadingSchema.isValid lo = true) :
    RoundTrips (codec.saveImages order Matcher.standard [image] path format o)
      (fun p => codec.loadImages order Matcher.standard p none again lo) σ written
      [⟨written.loadingLabel none, image⟩] := by
  have haccepts : FileFormat.png.capabilities.accepts [image] = true :=
    FileFormat.accepts_iff.2 ⟨image, rfl, htype, hshape ▸ htakes⟩
  have hresolve : Matcher.standard.resolve [image] path format = .ok ⟨.png, written⟩ := by
    rw [hwritten]
    exact Matcher.resolve_png haccepts hformat
  have hext : written.extension? = some FileFormat.png.outputExtension.toList := by
    have hname := FileTree.fileName?_ne_none_of_writable hl
    have hnew := extension?_withExtension path FileFormat.png.outputExtension_ne_nil
      FileFormat.png.slash_not_mem_outputExtension FileFormat.png.dot_not_mem_outputExtension
    rw [hwritten] at hname ⊢
    exact hnew.trans (if_neg hname)
  obtain ⟨bytes, hbytes, himage⟩ := hcodec.exists_fileBytes htype hshape htakes ho written
  let _ := codec.coding order
  exact ⟨σ.written l bytes, Matcher.saveImages_eq_written hresolve ho hbytes hl,
    Matcher.loadImages_eq_found hl hext hagain hlo himage none⟩

end Codec

namespace Matcher

/-- **A picture that is saved as PNG comes back as it was.**  The image has one of the types that
PNG stores, and two axes that are neither empty nor too long for it; the options are those that
its schema accepts; PNG is named, or the extension stands for it; and the path that is to be
written can be.  Then it is written, and loading it gives one image: of the same type and shape,
with the same pixels, under the stem of the file.  This holds of the library itself, and with any
codec in its place that reads the PNG files that it has written. -/
theorem png_round_trips {w h : Nat} (htype : image.type ∈ FileFormat.png.types)
    (hshape : image.shape = [w, h]) (hw : 1 ≤ w ∧ w ≤ 2 ^ 32 - 1) (hh : 1 ≤ h ∧ h ≤ 2 ^ 32 - 1)
    (ho : FileFormat.png.savingSchema.validate o = .ok ())
    (hformat : format = some "png" ∨ format = none ∧ Matcher.standard.predict path = .ok "png")
    {written : Path} (hwritten : written = path.withExtension ['p', 'n', 'g'])
    (hl : σ.files.writable written = .ok l) {again : Option String}
    (hagain : again = none ∨ again = some "png") {lo : Options}
    (hlo : FileFormat.png.loadingSchema.isValid lo = true) :
    ∃ stem, written.stem? = some stem ∧
      RoundTrips (Matcher.standard.saveImages [image] path format o)
        (fun p => Matcher.standard.loadImages p none again lo) σ written [⟨⟨stem⟩, image⟩] ∧
      ∀ (order : ByteOrder) (codec : Codec), codec.IsFaithful order →
        RoundTrips (codec.saveImages order Matcher.standard [image] path format o)
          (fun p => codec.loadImages order Matcher.standard p none again lo) σ written
          [⟨⟨stem⟩, image⟩] := by
  have htakes : FileFormat.png.takesShape [w, h] = true := by
    simp only [FileFormat.takesShape, List.all_cons, List.all_nil, Bool.and_true,
      Bool.and_eq_true, decide_eq_true_eq]
    exact ⟨rfl, hw, hh⟩
  obtain ⟨name, hname⟩ := Option.ne_none_iff_exists'.1 (FileTree.fileName?_ne_none_of_writable hl)
  have hstem : written.stem? = some (splitName name).1 := by
    rw [stem?, hname]
    rfl
  have hlabel : written.loadingLabel none = ⟨(splitName name).1⟩ := by
    rw [loadingLabel, hstem]
    exact empty_join _
  refine ⟨_, hstem, ?_, ?_⟩
  · have hown := (Codec.standard_isFaithful .littleEndian).roundTrips htype hshape htakes ho hformat
      hwritten hl hagain hlo
    rw [hlabel] at hown
    simpa only [Codec.standard_saveImages, Codec.standard_loadImages] using hown
  · intro order codec hcodec
    rw [← hlabel]
    exact hcodec.roundTrips htype hshape htakes ho hformat hwritten hl hagain hlo

/-- Two gray levels of sixteen bits, saved without loss where they are asked to be small. -/
theorem png_round_trips_two_levels :
    let image : Image := ⟨.gray .sixteen, [2, 1], ⟨#v[0x0102#16, 0xfffe#16]⟩⟩
    let o : Options := Options.empty.insert "compression" (.text "best")
    let σ : Session := ⟨.empty, []⟩
    let written := ofString "deep.png"
    RoundTrips (Matcher.standard.saveImages [image] (ofString "deep.apng") none o)
      (fun p => Matcher.standard.loadImages p none (some "png") .empty) σ written
      [⟨ofString "deep", image⟩] ∧
    RoundTrips ((Codec.standard .bigEndian).saveImages .bigEndian Matcher.standard [image]
        (ofString "deep.apng") none o)
      (fun p => (Codec.standard .bigEndian).loadImages .bigEndian Matcher.standard p none
        (some "png") .empty)
      σ written [⟨ofString "deep", image⟩] := by
  intro image o σ written
  have htype : image.type ∈ FileFormat.png.types := by decide
  have hoptions : FileFormat.png.savingSchema.validate o = .ok () := rfl
  have hpredict : Matcher.standard.predict (ofString "deep.apng") = .ok "png" := rfl
  have hwritten : written = (ofString "deep.apng").withExtension ['p', 'n', 'g'] := rfl
  have hwritable : σ.files.writable written = .ok ["deep.png".toList] := rfl
  have hagain : some "png" = none ∨ some "png" = some "png" := Or.inr rfl
  have hvalid : FileFormat.png.loadingSchema.isValid .empty = true := rfl
  obtain ⟨stem, hstem, hown, hcodec⟩ := png_round_trips htype rfl (by decide) (by decide) hoptions
    (Or.inr ⟨rfl, hpredict⟩) hwritten hwritable hagain hvalid
  obtain rfl : "deep".toList = stem := Option.some.inj hstem
  exact ⟨hown, hcodec .bigEndian (.standard .bigEndian) (Codec.standard_isFaithful .bigEndian)⟩

end Matcher

end Raster
