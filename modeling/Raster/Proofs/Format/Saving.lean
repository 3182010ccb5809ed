import Raster.Files.Session
import Raster.Format.Saving
import Raster.Proofs.Format.Resolve
import Raster.Proofs.Schema.Reading
/-!
# What has been chosen is saved

The conditions under which a format takes images are looked at in several places, each in its
own way: when the format is chosen, when it checks the images, and piece by piece when the bytes
of the file are made.  All of them agree.  If the format takes the images, and its schema the
options, saving comes down to encoding a picture and writing the bytes
(`FileFormat.save_eq_writeEncoded`); if it does not take the images, saving is refused whatever the
options are (`FileFormat.exists_save_refused`).  The library that encodes pictures may be any.
-/

namespace Raster

open Raster.Path

variable {images : List Image} {f : FileFormat} {o : Options}

/-- The format in which something is written. -/
def Encoding.format : Encoding → FileFormat
  | .jpeg _ => .jpeg
  | .png _ => .png

/-- Write bytes to a file. -/
def writeBytes {m : Type → Type} [Monad m] [FileAccess m] (path : Path) (bytes : List Byte) :
    m (Except Failure Unit) := do
  return (← FileAccess.write path bytes).mapError fun e => .write path.text (some e)

/-- Write what a library has made of a picture; without bytes there is nothing to write. -/
def writeEncoded {m : Type → Type} [Monad m] [FileAccess m] (path : Path) :
    Option (List Byte) → m (Except Failure Unit)
  | some bytes => writeBytes path bytes
  | none => return .error (.encode path.text)

namespace FileFormat

/-! ## Options -/

/-- The schemas for saving repeat no key, and their defaults pass their own checks. -/
lemma savingSchema_wellFormed (f : FileFormat) : f.savingSchema.WellFormed := by
  cases f <;> decide +kernel

/-- Options that the schema accepts are read, once the defaults are filled in. -/
lemma exists_encoding (hv : f.savingSchema.validate o = .ok ()) :
    ∃ e, f.encoding (f.savingSchema.finalize o) = .ok e ∧ e.format = f := by
  have hs := savingSchema_wellFormed f
  cases f with
  | jpeg =>
    obtain ⟨n, hvalue, hlo, hhi⟩ := hs.exists_int hv "quality" rfl (by simp)
    have hlo' : (1 : Int) ≤ n.toInt := hlo
    have hhi' : n.toInt ≤ (100 : Int) := hhi
    have hcontains : (jpeg.savingSchema.finalize o).contains "quality" = true := by
      rw [Options.contains, hvalue]
      rfl
    refine ⟨.jpeg n.toInt.toNat, ?_, rfl⟩
    rw [encoding, if_pos hcontains, Options.int_eq_ok hvalue]
    exact if_pos ⟨hlo', hhi'⟩
  | png =>
    obtain ⟨word, hword, htext⟩ := hs.exists_choice hv "compression" rfl
    have hread : ∃ c, Compression.ofWord word = .ok c := by
      simp only [List.mem_cons, List.not_mem_nil, or_false] at hword
      rcases hword with rfl | rfl | rfl
      · exact ⟨_, rfl⟩
      · exact ⟨_, rfl⟩
      · exact ⟨_, rfl⟩
    obtain ⟨c, hc⟩ := hread
    rw [encoding]
    by_cases hcontains : (png.savingSchema.finalize o).contains "compression" = true
    · refine ⟨.png c, ?_, rfl⟩
      rw [if_pos hcontains, htext]
      simp only [bind, Except.bind, hc]
      rfl
    · exact ⟨.png .default, by rw [if_neg hcontains]; rfl, rfl⟩

/-! ## Images -/

/-- A shape that is taken has two axes. -/
lemma takesShape_eq_true {s : Shape} (h : f.takesShape s = true) :
    ∃ w h, s = [w, h] ∧ (0 < w ∧ w ≤ f.greatestExtent) ∧ 0 < h ∧ h ≤ f.greatestExtent := by
  rw [takesShape, Bool.and_eq_true, decide_eq_true_iff, List.all_eq_true] at h
  obtain ⟨hlength, hextents⟩ := h
  obtain ⟨w, h, rfl⟩ := List.length_eq_two.1 hlength
  have hw := hextents w (by simp)
  have hh := hextents h (by simp)
  simp only [Bool.and_eq_true, decide_eq_true_iff] at hw hh
  exact ⟨w, h, rfl, hw, hh⟩

/-- An image of a type that is stored is a picture, if it has two axes. -/
lemma exists_picture {image : Image} {w h : Nat} (htype : image.type ∈ f.types)
    (hshape : image.shape = [w, h]) :
    ∃ p, image.picture? = some p ∧ p.width = w ∧ p.height = h := by
  obtain ⟨type, shape, grid⟩ := image
  dsimp only at htype hshape
  subst hshape
  cases f with
  | jpeg =>
    simp only [types, List.mem_cons, List.not_mem_nil, or_false] at htype
    rcases htype with rfl | rfl
    · exact ⟨_, rfl, rfl, rfl⟩
    · exact ⟨_, rfl, rfl, rfl⟩
  | png =>
    simp only [types, List.mem_cons, List.not_mem_nil, or_false] at htype
    rcases htype with rfl | rfl | rfl | rfl | rfl
    · exact ⟨_, rfl, rfl, rfl⟩
    · exact ⟨_, rfl, rfl, rfl⟩
    · exact ⟨_, rfl, rfl, rfl⟩
    · exact ⟨_, rfl, rfl, rfl⟩
    · exact ⟨_, rfl, rfl, rfl⟩

lemma exists_bytes {e : Encoding} {p : Picture}
    (hw : 0 < p.width ∧ p.width ≤ e.format.greatestExtent)
    (hh : 0 < p.height ∧ p.height ≤ e.format.greatestExtent) :
    ∃ bytes, e.bytes? p = some bytes := by
  have hne : ¬(p.width = 0 ∨ p.height = 0) := by omega
  cases e with
  | jpeg quality => exact ⟨_, (if_neg hne).trans (if_pos ⟨hw.2, hh.2⟩)⟩
  | png compression => exact ⟨_, if_neg hne⟩

lemma greatestExtent_lt (f : FileFormat) : f.greatestExtent < UInt32.size := by
  cases f <;> decide

lemma checkPlanar_eq_ok {w h : Nat} (hw : w < UInt32.size) (hh : h < UInt32.size) :
    checkPlanar [w, h] = .ok () := by
  rw [checkPlanar, if_neg (by omega), if_neg (by omega)]

lemma onlyImage_eq_ok {image : Image} (htype : image.type ∈ f.types) :
    f.onlyImage [image] = .ok image := by
  have hleading : leadingType [image] = .ok image.type := rfl
  have huniform : checkUniform image.type [image] = .ok () := by simp [checkUniform]
  rw [onlyImage, hleading]
  simp only [bind, Except.bind, htype, not_true_eq_false, if_false, huniform]
  rfl

/-- Images that the format takes, under options that its schema accepts, become a picture that is
to be encoded.  The encoders of this library encode it. -/
lemma exists_fileBytes [Coding] (haccepts : f.capabilities.accepts images = true)
    (hv : f.savingSchema.validate o = .ok ()) :
    ∃ (e : Encoding) (p : Picture), (e.bytes? p).isSome = true ∧
      ∀ path : Path, f.fileBytes images path (f.savingSchema.finalize o) =
        (Coding.encode e p).elim (.error (.encode path.text)) .ok := by
  obtain ⟨image, rfl, htype, hshape⟩ := accepts_iff.1 haccepts
  obtain ⟨w, h, hwh, hw, hh⟩ := takesShape_eq_true hshape
  obtain ⟨p, hp, rfl, rfl⟩ := exists_picture htype hwh
  obtain ⟨e, he, rfl⟩ := exists_encoding hv
  obtain ⟨bytes, hbytes⟩ := exists_bytes hw hh
  have hlt := e.format.greatestExtent_lt
  refine ⟨e, p, Option.isSome_iff_exists.2 ⟨bytes, hbytes⟩, fun path => ?_⟩
  have hplanar : checkPlanar image.shape = .ok () := by
    rw [hwh]
    exact checkPlanar_eq_ok (by omega) (by omega)
  simp only [fileBytes, onlyImage_eq_ok htype, hplanar, he, hp, orRefuse, Except.mapError, bind,
    Except.bind, Option.bind_some]
  cases Coding.encode e p <;> rfl

/-! ## Saving -/

/-- A format that takes images finds nothing wrong with them. -/
lemma check_eq_ok (haccepts : f.capabilities.accepts images = true) :
    f.capabilities.check images = .ok () := by
  obtain ⟨image, rfl, htype, hshape⟩ := accepts_iff.1 haccepts
  rw [Capabilities.check_eq_ok_iff]
  refine ⟨rfl, by simpa [capabilities] using hshape, ?_⟩
  rintro - first hfirst i hi
  obtain rfl : image = first := by simpa using hfirst
  rw [List.mem_singleton.1 hi]

section

variable {m : Type → Type} [Monad m] [FileAccess m]

/-- Saving what the format takes comes down to encoding a picture and writing the bytes. -/
lemma save_eq_writeEncoded [Coding] {path : Path} {encoded : Option (List Byte)}
    (haccepts : f.capabilities.accepts images = true)
    (hbytes : f.fileBytes images path o = encoded.elim (.error (.encode path.text)) .ok) :
    f.save images path o = writeEncoded (m := m) path encoded := by
  rw [save, check_eq_ok haccepts]
  dsimp only
  rw [store, hbytes]
  cases encoded <;> rfl

end

/-- Saving what the format does not take is refused, whatever the path and the options are. -/
lemma exists_save_refused [Coding] (h : f.capabilities.accepts images ≠ true) (path : Path)
    (o : Options) :
    ∃ cause, ∀ (m : Type → Type) [Monad m] [FileAccess m],
      f.save images path o = (pure (.error (.unsupported cause)) : m (Except Failure Unit)) := by
  cases hcheck : f.capabilities.check images with
  | error cause =>
    refine ⟨cause, fun m _ _ => ?_⟩
    rw [save, hcheck]
  | ok u =>
    -- the checks are passed, so there is one image, and its type is not stored
    obtain ⟨hcount, hshape, -⟩ := Capabilities.check_eq_ok_iff.1 hcheck
    have hlength : images.length = 1 := by simpa [capabilities] using hcount
    obtain ⟨image, rfl⟩ := List.length_eq_one_iff.1 hlength
    have htype : image.type ∉ f.types := fun htype =>
      h (accepts_iff.2 ⟨image, rfl, htype, hshape image List.mem_cons_self⟩)
    have hbytes : f.fileBytes [image] path o =
        .error (.unsupported (.unstorableType f.name image.type)) := by
      have hleading : leadingType [image] = .ok image.type := rfl
      have honly : f.onlyImage [image] = .error (.unstorableType f.name image.type) := by
        rw [onlyImage, hleading]
        simp only [bind, Except.bind, htype, not_false_eq_true, if_true]
        rfl
      rw [fileBytes, honly]
      rfl
    refine ⟨.unstorableType f.name image.type, fun m _ _ => ?_⟩
    rw [save, hcheck]
    dsimp only
    rw [store, hbytes]

end FileFormat

namespace Matcher

/-- Saving under options that the schema accepts comes down to encoding a picture and writing the
bytes to the path that is chosen. -/
lemma saveImages_eq [Coding] {path : Path} {format : Option String} {d : Destination}
    {encoded : Option (List Byte)} (h : Matcher.standard.resolve images path format = .ok d)
    (hv : d.format.savingSchema.validate o = .ok ())
    (hbytes : d.format.fileBytes images d.path (d.format.savingSchema.finalize o) =
      encoded.elim (.error (.encode d.path.text)) .ok)
    (m : Type → Type) [Monad m] [FileAccess m] :
    Matcher.standard.saveImages images path format o =
      (do return (← writeEncoded d.path encoded).map fun () => d.path :
        m (Except Failure Path)) := by
  have hoptions : d.format.savingOptions o = .ok (d.format.savingSchema.finalize o) := by
    rw [FileFormat.savingOptions, hv]
  rw [saveImages, h]
  dsimp only
  rw [hoptions]
  dsimp only
  rw [FileFormat.save_eq_writeEncoded (resolve_eq_ok h).1 hbytes]

/-- **What has been chosen is saved.**  Choosing again for the path of the destination gives the
destination again, if the stem of the path that is asked for is more than a dot; in general it
does exactly if the stem of the path of the destination is, and that path has a name or a format
is named.  Saving there, under options that the schema accepts, is encoding a picture and writing
its bytes to that very path; it only fails otherwise if the library cannot encode the picture, which
the one of this project can.  If a named format is not chosen, it refuses to save the images
anywhere under any options. -/
theorem resolve_saves [Coding] (images : List Image) (path : Path) (format : Option String) :
    (∀ d, Matcher.standard.resolve images path format = .ok d →
      (path.stem? ≠ some ['.'] → Matcher.standard.resolve images d.path format = .ok d) ∧
      (Matcher.standard.resolve images d.path format = .ok d ↔
        d.path.stem? ≠ some ['.'] ∧ (format = none → d.path.fileName? ≠ none)) ∧
      ∀ o, d.format.savingSchema.validate o = .ok () →
        ∃ (e : Encoding) (picture : Picture), (e.bytes? picture).isSome = true ∧
          ∀ (m : Type → Type) [Monad m] [FileAccess m],
            d.format.save images d.path (d.format.savingSchema.finalize o) =
              writeEncoded (m := m) d.path (Coding.encode e picture) ∧
            ∀ p, Matcher.standard.resolve images p format = .ok d →
              Matcher.standard.saveImages images p format o =
                (do return (← writeEncoded d.path (Coding.encode e picture)).map fun () => d.path :
                  m (Except Failure Path))) ∧
    ∀ f : FileFormat, format = some f.name →
      ∀ cause, Matcher.standard.resolve images path format = .error cause →
        ∀ p o, ∃ cause, ∀ (m : Type → Type) [Monad m] [FileAccess m],
          f.save images p o = (pure (.error (.unsupported cause)) : m (Except Failure Unit)) := by
  refine ⟨fun d h => ⟨resolve_again h, resolve_again_iff h, fun o hv => ?_⟩, ?_⟩
  · have haccepts := (resolve_eq_ok h).1
    obtain ⟨e, picture, hown, hbytes⟩ := FileFormat.exists_fileBytes haccepts hv
    refine ⟨e, picture, hown, fun m _ _ =>
      ⟨FileFormat.save_eq_writeEncoded haccepts (hbytes d.path), ?_⟩⟩
    intro p hp
    exact saveImages_eq hp hv (hbytes d.path) m
  · rintro f rfl cause herror p o
    refine FileFormat.exists_save_refused (fun haccepts => ?_) p o
    rw [resolve_named, if_pos haccepts] at herror
    cases herror

/-- A file name of two dots and an extension is lost; another one is kept when it is chosen
again, the defaults are saved there, and what is not stored is refused. -/
theorem resolve_saves_one_pixel :
    let pixel := [Image.zeros (.gray .eight) [1, 1]]
    let wide := [Image.zeros (.gray .sixtyFour) [1, 1]]
    (Matcher.standard.resolve pixel (ofString "..png") none = .ok ⟨.png, ofString ".."⟩ ∧
      Matcher.standard.resolve pixel (ofString "..") none ≠ .ok ⟨.png, ofString ".."⟩) ∧
    (Matcher.standard.resolve pixel (ofString "x.apng") none = .ok ⟨.png, ofString "x.png"⟩ ∧
      Matcher.standard.resolve pixel (ofString "x.png") none = .ok ⟨.png, ofString "x.png"⟩ ∧
      ∃ bytes, FileFormat.png.save pixel (ofString "x.png")
        (FileFormat.png.savingSchema.finalize .empty) =
          writeBytes (m := InMemory) (ofString "x.png") bytes) ∧
    ∃ cause, FileFormat.png.save wide (ofString "x.png") .empty =
      (pure (.error (.unsupported cause)) : InMemory (Except Failure Unit)) := by
  intro pixel wide
  have hdots : Matcher.standard.resolve pixel (ofString "..png") none =
      .ok ⟨.png, ofString ".."⟩ := rfl
  have hplain : Matcher.standard.resolve pixel (ofString "x.apng") none =
      .ok ⟨.png, ofString "x.png"⟩ := rfl
  have hwide : ∃ cause, Matcher.standard.resolve wide (ofString "x.png") (some "png") =
      .error cause := ⟨_, rfl⟩
  obtain ⟨hkept, -, hsaved⟩ := (resolve_saves pixel (ofString "x.apng") none).1 _ hplain
  refine ⟨⟨hdots, fun hagain => ?_⟩, ⟨hplain, hkept (by decide), ?_⟩, ?_⟩
  · have hiff := ((resolve_saves pixel (ofString "..png") none).1 _ hdots).2.1
    exact (hiff.1 hagain).2 rfl (by decide)
  · obtain ⟨e, picture, hown, hbytes⟩ := hsaved .empty (by rfl)
    obtain ⟨bytes, hencoded⟩ := Option.isSome_iff_exists.1 hown
    refine ⟨bytes, (hbytes InMemory).1.trans ?_⟩
    exact congrArg (writeEncoded (m := InMemory) (ofString "x.png")) hencoded
  · obtain ⟨cause, hcause⟩ := hwide
    obtain ⟨cause', hrefused⟩ :=
      (resolve_saves wide (ofString "x.png") (some "png")).2 .png rfl cause hcause
        (ofString "x.png") .empty
    exact ⟨cause', hrefused InMemory⟩

end Matcher

end Raster
