import Raster.Format.Resolve
import Raster.Proofs.Algorithm.Capabilities
import Raster.Proofs.Path.Settled
/-!
# Choosing a format and a path twice

A destination is a format that takes the images, and the path with the extension of that format
(`resolve_eq_ok`).  Choosing again, now for the path of the destination, gives the same
destination, except where the name of the file is lost with its extension
(`resolve_again_iff`, `resolve_again`).
-/

namespace Raster

open Raster.Path

variable {images : List Image} {path : Path} {format : Option String} {d : Destination}

/-! ## What a format takes -/

/-- A format takes one image, of a type that it stores and with a shape that it stores. -/
lemma FileFormat.accepts_iff {f : FileFormat} :
    f.capabilities.accepts images = true ↔
      ∃ image, images = [image] ∧ image.type ∈ f.types ∧ f.takesShape image.shape = true := by
  have hok : (f.capabilities.check images).isOk = true ↔ f.capabilities.check images = .ok () := by
    cases f.capabilities.check images with
    | ok u => simp [Except.isOk, Except.toBool]
    | error cause => simp [Except.isOk, Except.toBool]
  rw [Capabilities.accepts, Bool.and_eq_true, hok, Capabilities.check_eq_ok_iff]
  constructor
  · rintro ⟨htypes, hcount, hshape, -⟩
    have hlength : images.length = 1 := by simpa [capabilities] using hcount
    obtain ⟨image, rfl⟩ := List.length_eq_one_iff.1 hlength
    refine ⟨image, rfl, ?_, hshape image List.mem_cons_self⟩
    exact of_decide_eq_true (List.all_eq_true.1 htypes image List.mem_cons_self)
  · rintro ⟨image, rfl, htype, hshape⟩
    refine ⟨List.all_eq_true.2 fun i hi => ?_, rfl, ?_, ?_⟩
    · rw [List.mem_singleton.1 hi]
      exact decide_eq_true htype
    · simpa [capabilities] using hshape
    · rintro - first hfirst i hi
      obtain rfl : image = first := by simpa using hfirst
      rw [List.mem_singleton.1 hi]

lemma FileFormat.length_of_accepts {f : FileFormat}
    (h : f.capabilities.accepts images = true) : images.length = 1 := by
  obtain ⟨image, rfl, -⟩ := FileFormat.accepts_iff.1 h
  rfl

/-! ## Names and extensions -/

lemma FileFormat.ofName_eq_ok_iff {name : String} {f : FileFormat} :
    FileFormat.ofName name = .ok f ↔ name = f.name := by
  constructor
  · intro h
    unfold FileFormat.ofName at h
    split at h
    · rename_i g hg
      cases h
      have hname := List.find?_some hg
      exact (of_decide_eq_true hname).symm
    · cases h
  · rintro rfl
    cases f <;> rfl

/-- The extension under which a format is written. -/
lemma Matcher.standard_withOutput (f : FileFormat) (path : Path) :
    Matcher.standard.withOutput f.name path = path.withExtension f.outputExtension.toList := by
  cases f with
  | jpeg =>
    have h : Matcher.standard.output? FileFormat.jpeg.name = some "jpg" := by decide +kernel
    rw [Matcher.withOutput, h]
    rfl
  | png =>
    have h : Matcher.standard.output? FileFormat.png.name = some "png" := by decide +kernel
    rw [Matcher.withOutput, h]
    rfl

namespace FileFormat

variable (f : FileFormat)

lemma outputExtension_ne_nil : f.outputExtension.toList ≠ [] := by cases f <;> decide

lemma slash_not_mem_outputExtension : '/' ∉ f.outputExtension.toList := by cases f <;> decide

lemma dot_not_mem_outputExtension : '.' ∉ f.outputExtension.toList := by cases f <;> decide

end FileFormat

namespace Matcher

/-- The extension that a format is written under stands for that format alone. -/
lemma standard_find_of_outputExtension (f : FileFormat)
    (h : path.extension? = some f.outputExtension.toList) :
    Matcher.standard.find path = .ok [f.name] := by
  have hext : extensionOf path = .ok f.outputExtension.toList := by
    rw [extensionOf, h]
    cases f <;> rfl
  have hfound : (Matcher.standard.matching f.outputExtension.toList).eraseDups = [f.name] := by
    cases f <;> decide +kernel
  rw [find, hext, ← hfound]
  rfl

/-- No format is found for a path without an extension. -/
lemma standard_find_of_extension?_eq_none (h : path.extension? = none) :
    Matcher.standard.find path = .ok [] := by
  have hext : extensionOf path = .ok [] := by
    rw [extensionOf, h]
    rfl
  have hfound : (Matcher.standard.matching []).eraseDups = [] := by decide +kernel
  rw [find, hext, ← hfound]
  rfl

/-! ## One format for each extension -/

lemma toLower_cases {c d upper : Char} (hupper : upper.toNat + 32 = d.toNat)
    (h : c.toLower = d) : c = d ∨ c = upper := by
  delta Char.toLower at h
  split at h
  · rename_i hc
    refine Or.inr (Char.toNat_inj.1 (Nat.add_right_cancel (Eq.trans ?_ hupper.symm)))
    subst h
    have hhigh := UInt32.le_iff_toNat_le.1 hc.2
    have hz : ('Z').val.toNat = 90 := rfl
    have hgap : ('a'.val - 'A'.val).toNat = 32 := rfl
    simp only [Char.toNat, UInt32.toNat_add]
    omega
  · exact Or.inl h

/-- What the suffixes of one format match no suffix or pattern of the other one does; there are
few enough spellings to try them all. -/
lemma standard_matching_of_png {ext : List Char}
    (h : suffixMatches "png" ext = true ∨ suffixMatches "apng" ext = true) :
    Matcher.standard.matching ext = ["png"] := by
  have hp {c : Char} : c.toLower = 'p' → c = 'p' ∨ c = 'P' := toLower_cases rfl
  have hn {c : Char} : c.toLower = 'n' → c = 'n' ∨ c = 'N' := toLower_cases rfl
  have hg {c : Char} : c.toLower = 'g' → c = 'g' ∨ c = 'G' := toLower_cases rfl
  have ha {c : Char} : c.toLower = 'a' → c = 'a' ∨ c = 'A' := toLower_cases rfl
  rcases h with h | h
  · have hmap : ext.map Char.toLower = ['p', 'n', 'g'] := (of_decide_eq_true h).symm
    obtain ⟨c₁, ext, rfl, h₁, hmap⟩ := List.map_eq_cons_iff.1 hmap
    obtain ⟨c₂, ext, rfl, h₂, hmap⟩ := List.map_eq_cons_iff.1 hmap
    obtain ⟨c₃, ext, rfl, h₃, hmap⟩ := List.map_eq_cons_iff.1 hmap
    obtain rfl := List.map_eq_nil_iff.1 hmap
    rcases hp h₁ with rfl | rfl <;> rcases hn h₂ with rfl | rfl <;>
      rcases hg h₃ with rfl | rfl <;> rfl
  · have hmap : ext.map Char.toLower = ['a', 'p', 'n', 'g'] := (of_decide_eq_true h).symm
    obtain ⟨c₀, ext, rfl, h₀, hmap⟩ := List.map_eq_cons_iff.1 hmap
    obtain ⟨c₁, ext, rfl, h₁, hmap⟩ := List.map_eq_cons_iff.1 hmap
    obtain ⟨c₂, ext, rfl, h₂, hmap⟩ := List.map_eq_cons_iff.1 hmap
    obtain ⟨c₃, ext, rfl, h₃, hmap⟩ := List.map_eq_cons_iff.1 hmap
    obtain rfl := List.map_eq_nil_iff.1 hmap
    rcases ha h₀ with rfl | rfl <;> rcases hp h₁ with rfl | rfl <;>
      rcases hn h₂ with rfl | rfl <;> rcases hg h₃ with rfl | rfl <;> rfl

lemma standard_matching_of_mem {ext : List Char} (h : "png" ∈ Matcher.standard.matching ext) :
    Matcher.standard.matching ext = ["png"] := by
  have hsuffixes : Matcher.standard.suffixes =
      [("jpeg", ["jpg", "jpeg"]), ("png", ["png", "apng"])] := by decide +kernel
  have hpatterns : Table.keys Matcher.standard.patterns = ["jpeg"] := by decide +kernel
  rw [matching, List.mem_append] at h
  rcases h with h | h
  · rw [hsuffixes, Table.keys, List.mem_map] at h
    obtain ⟨e, he, hkey⟩ := h
    obtain ⟨hmem, hany⟩ := List.mem_filter.1 he
    rw [List.mem_cons, List.mem_singleton] at hmem
    rcases hmem with rfl | rfl
    · exact absurd hkey (by decide)
    · refine standard_matching_of_png ?_
      simpa [hasSuffix] using hany
  · have hkey : "png" ∈ Table.keys Matcher.standard.patterns :=
      (List.filter_sublist.map _).subset h
    rw [hpatterns] at hkey
    simp at hkey

/-- No extension stands for two formats. -/
lemma standard_find_unique {f g : FileFormat} {names : List String}
    (h : Matcher.standard.find path = .ok names) (hf : f.name ∈ names) (hg : g.name ∈ names) :
    f = g := by
  rw [find] at h
  cases hext : extensionOf path with
  | error e =>
    rw [hext] at h
    cases h
  | ok ext =>
    rw [hext] at h
    cases h
    rw [List.mem_eraseDups] at hf hg
    -- if one of them is the second format, it is the only one
    have honly {g : FileFormat} (hpng : "png" ∈ Matcher.standard.matching ext)
        (hg : g.name ∈ Matcher.standard.matching ext) : g = .png := by
      rw [standard_matching_of_mem hpng, List.mem_singleton] at hg
      cases g with
      | png => rfl
      | jpeg => exact absurd hg (by decide)
    cases f with
    | png => exact (honly hf hg).symm
    | jpeg =>
      cases g with
      | png => exact honly hg hf
      | jpeg => rfl

/-! ## Choosing -/

lemma accepts_of_firstAccepting {names : List String} {f : FileFormat}
    (h : firstAccepting images names = .ok (some f)) :
    f.capabilities.accepts images = true ∧ f.name ∈ names := by
  induction names with
  | nil => cases h
  | cons name names ih =>
    rw [firstAccepting] at h
    cases hname : FileFormat.ofName name with
    | error e =>
      rw [hname] at h
      cases h
    | ok g =>
      rw [hname] at h
      by_cases haccepts : g.capabilities.accepts images = true
      · simp only [bind, Except.bind, haccepts, if_true] at h
        cases h
        exact ⟨haccepts, by simp [FileFormat.ofName_eq_ok_iff.1 hname]⟩
      · simp only [bind, Except.bind, if_neg haccepts] at h
        exact ⟨(ih h).1, List.mem_cons_of_mem _ (ih h).2⟩

/-- Where a named format is asked for, it only has to take the images. -/
lemma resolve_named (f : FileFormat) (path : Path) :
    Matcher.standard.resolve images path (some f.name) =
      if f.capabilities.accepts images = true then
        .ok ⟨f, path.withExtension f.outputExtension.toList⟩
      else .error (.noFormatForImages path.nameText) := by
  have hcandidates : Matcher.standard.candidates path (some f.name) = .ok [f.name] := rfl
  have hname : FileFormat.ofName f.name = .ok f := FileFormat.ofName_eq_ok_iff.2 rfl
  rw [resolve, hcandidates]
  by_cases haccepts : f.capabilities.accepts images = true
  · simp only [bind, Except.bind, firstAccepting, hname, haccepts, if_true, pure, Except.pure,
      standard_withOutput]
  · simp only [bind, Except.bind, firstAccepting, hname, if_neg haccepts]
    rfl

/-- A destination is the first of some formats that takes the images. -/
lemma exists_candidates (h : Matcher.standard.resolve images path format = .ok d) :
    ∃ names, Matcher.standard.candidates path format = .ok names ∧
      firstAccepting images names = .ok (some d.format) ∧
        d.path = Matcher.standard.withOutput d.format.name path := by
  rw [resolve] at h
  cases hcandidates : Matcher.standard.candidates path format with
  | error e =>
    rw [hcandidates] at h
    cases h
  | ok names =>
    simp only [hcandidates, bind, Except.bind] at h
    cases hfirst : firstAccepting images names with
    | error e =>
      rw [hfirst] at h
      cases h
    | ok chosen =>
      cases chosen with
      | none =>
        rw [hfirst] at h
        cases h
      | some f =>
        rw [hfirst] at h
        cases h
        exact ⟨names, rfl, hfirst, rfl⟩

/-- The format of a destination is one that takes the images, the named one if there is one, and
the path is given its extension. -/
lemma resolve_eq_ok (h : Matcher.standard.resolve images path format = .ok d) :
    d.format.capabilities.accepts images = true ∧
      d.path = path.withExtension d.format.outputExtension.toList ∧
      ∀ name, format = some name → name = d.format.name := by
  obtain ⟨names, hcandidates, hfirst, hpath⟩ := exists_candidates h
  obtain ⟨haccepts, hmem⟩ := accepts_of_firstAccepting hfirst
  refine ⟨haccepts, hpath.trans (standard_withOutput d.format path), ?_⟩
  rintro name rfl
  cases hcandidates
  exact (List.mem_singleton.1 hmem).symm

/-- Where no format is named, paths with the same extension are given the same format. -/
lemma format_eq_of_extension?_eq {images' : List Image} {path' : Path} {d' : Destination}
    (h : Matcher.standard.resolve images path none = .ok d)
    (h' : Matcher.standard.resolve images' path' none = .ok d')
    (hext : path.extension? = path'.extension?) : d.format = d'.format := by
  obtain ⟨names, hnames, hfirst, -⟩ := exists_candidates h
  obtain ⟨names', hnames', hfirst', -⟩ := exists_candidates h'
  change Matcher.standard.find path = .ok names at hnames
  change Matcher.standard.find path' = .ok names' at hnames'
  have hsame : names = names' := by
    rw [find, extensionOf] at hnames hnames'
    rw [← hext] at hnames'
    by_cases hascii : (path.extension?.getD []).all (fun c => c.toNat < 128) = true
    · rw [if_pos hascii] at hnames hnames'
      exact Except.ok.inj (hnames.symm.trans hnames')
    · rw [if_neg hascii] at hnames
      cases hnames
  subst hsame
  exact standard_find_unique hnames (accepts_of_firstAccepting hfirst).2
    (accepts_of_firstAccepting hfirst').2

/-- The formats of a path come into question, unless one is named. -/
lemma resolve_none_eq (f : FileFormat) (h : Matcher.standard.find path = .ok [f.name]) :
    Matcher.standard.resolve images path none =
      Matcher.standard.resolve images path (some f.name) := by
  have hcandidates : Matcher.standard.candidates path none =
      Matcher.standard.candidates path (some f.name) := h
  rw [resolve, resolve, hcandidates]

/-- Without an extension only a named format can be chosen. -/
lemma resolve_none_ne_ok (h : path.extension? = none) :
    Matcher.standard.resolve images path none ≠ .ok d := by
  have hcandidates : Matcher.standard.candidates path none = .ok [] :=
    standard_find_of_extension?_eq_none h
  rw [resolve, hcandidates]
  exact nofun

/-- **Choosing again for the path of a destination gives the same destination exactly if the stem
of that path is more than a dot; and where no format is named the path has to have a name.** -/
lemma resolve_again_iff (h : Matcher.standard.resolve images path format = .ok d) :
    Matcher.standard.resolve images d.path format = .ok d ↔
      d.path.stem? ≠ some ['.'] ∧ (format = none → d.path.fileName? ≠ none) := by
  obtain ⟨haccepts, hpath, hformat⟩ := resolve_eq_ok h
  have he := d.format.outputExtension_ne_nil
  have hslash := d.format.slash_not_mem_outputExtension
  have hdot := d.format.dot_not_mem_outputExtension
  have hnamed : Matcher.standard.resolve images d.path (some d.format.name) = .ok d ↔
      d.path.stem? ≠ some ['.'] := by
    rw [resolve_named, if_pos haccepts, hpath,
      ← withExtension_eq_self_iff path he hslash hdot, ← hpath]
    obtain ⟨f, p⟩ := d
    simp
  cases format with
  | some name =>
    rw [hformat name rfl, hnamed]
    simp
  | none =>
    have hext := extension?_withExtension path he hslash hdot
    rw [← hpath] at hext
    by_cases hname : d.path.fileName? = none
    · rw [if_pos hname] at hext
      exact iff_of_false (resolve_none_ne_ok hext) fun hboth => hboth.2 rfl hname
    · rw [if_neg hname] at hext
      rw [resolve_none_eq d.format (standard_find_of_outputExtension d.format hext), hnamed]
      exact ⟨fun hstem => ⟨hstem, fun _ => hname⟩, fun hboth => hboth.1⟩

/-- In particular it does if the stem of the path that is asked for is more than a dot. -/
lemma resolve_again (h : Matcher.standard.resolve images path format = .ok d)
    (hstem : path.stem? ≠ some ['.']) : Matcher.standard.resolve images d.path format = .ok d := by
  obtain ⟨-, hpath, -⟩ := resolve_eq_ok h
  rw [resolve_again_iff h]
  cases hs : path.stem? with
  | none =>
    have hname : path.fileName? = none := by
      rw [stem?, Option.map_eq_none_iff] at hs
      exact hs
    rw [withExtension_of_fileName?_eq_none hname] at hpath
    refine ⟨by rw [hpath, hs]; exact (Option.some_ne_none _).symm, ?_⟩
    rintro rfl
    have hext : path.extension? = none := by
      rw [extension?, hname]
      rfl
    exact absurd h (resolve_none_ne_ok hext)
  | some stem =>
    have hstem' : stem ≠ ['.'] := fun heq => hstem (by rw [hs, heq])
    have hnew := stem?_withExtension hs hstem' d.format.outputExtension_ne_nil
      d.format.slash_not_mem_outputExtension d.format.dot_not_mem_outputExtension
    rw [← hpath] at hnew
    refine ⟨by rw [hnew]; simpa using hstem', fun _ hname => ?_⟩
    rw [stem?, hname] at hnew
    cases hnew

end Matcher

end Raster
