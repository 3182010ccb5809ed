import Raster.Proofs.CommandLine.Descendants
import Raster.Proofs.CommandLine.Reading
import Raster.Proofs.Format.Saving
/-!
# Whether planned files can be saved

All files of a plan have one format (`exists_oneFormat`), although each of them is planned for
itself: either the format is named, or the images come from one and have labels that are alike.
When a planned file is saved the format is chosen anew, and the options are looked at.  Both can
fail, but then they fail for every file of the plan (`OneFormat.refused_or_saved`).  What is left is
to encode a picture and to write the bytes; the library that encodes pictures may be any.
-/

namespace Raster.CommandLine

open Raster.Path

variable {s : Settings} {f : FileFormat} {w : PlannedWrite} {writes : List PlannedWrite}
  {format : Option String}

/-! ## Planned files -/

/-- A file that is planned in some format: the format takes the images, and is the named one, if
there is one; the path has got its extension. -/
structure IsPlannedIn (format : Option String) (f : FileFormat) (w : PlannedWrite) : Prop where
  accepts : f.capabilities.accepts w.images = true
  path : ∃ q : Path, w.path = q.withExtension f.outputExtension.toList
  named : ∀ name, format = some name → name = f.name

lemma isPlannedIn_of_resolve {images : List Image} {path : Path} {d : Destination}
    (h : Matcher.standard.resolve images path format = .ok d) :
    IsPlannedIn format d.format ⟨images, d.path⟩ := by
  obtain ⟨haccepts, hpath, hnamed⟩ := Matcher.resolve_eq_ok h
  exact ⟨haccepts, ⟨path, hpath⟩, hnamed⟩

/-- Each image of a group is planned by itself. -/
lemma exists_of_mem_planEach {folder : Path} {group : List Labelled}
    (h : planEach Matcher.standard folder format group = .ok writes) :
    ∀ w ∈ writes, ∃ i ∈ group, ∃ d,
      Matcher.standard.resolve [i.image] (folder.join (ownName i.label)) format = .ok d ∧
        w = ⟨[i.image], d.path⟩ := by
  induction group generalizing writes with
  | nil =>
    cases h
    simp
  | cons i rest ih =>
    rw [planEach] at h
    split at h
    · cases h
    · rename_i d hd
      obtain ⟨others, hothers, h⟩ := exists_of_bind_eq_ok h
      cases h
      rw [List.forall_mem_cons]
      refine ⟨⟨i, List.mem_cons_self, d, hd, rfl⟩, fun w hw => ?_⟩
      obtain ⟨j, hj, hrest⟩ := ih hothers w hw
      exact ⟨j, List.mem_cons_of_mem i hj, hrest⟩

/-- A group goes to one file, or each of its images to its own. -/
lemma planGroup_cases {target : Target} {group : List Labelled}
    (h : planGroup Matcher.standard target format group = .ok writes) :
    (∃ d, Matcher.standard.resolve (group.map Labelled.image) target.file format = .ok d ∧
      writes = [⟨group.map Labelled.image, d.path⟩]) ∨
    planEach Matcher.standard target.folder format group = .ok writes := by
  rw [planGroup] at h
  split at h
  · rename_i d hd
    cases h
    exact Or.inl ⟨d, hd, rfl⟩
  · split at h
    · cases h
    · exact Or.inr h

/-- What is planned for a group, in whatever format. -/
lemma exists_isPlannedIn {target : Target} {group : List Labelled}
    (h : planGroup Matcher.standard target format group = .ok writes) :
    ∀ w ∈ writes, ∃ f, IsPlannedIn format f w := by
  rcases planGroup_cases h with ⟨d, hd, rfl⟩ | heach
  · intro w hw
    rw [List.mem_singleton.1 hw]
    exact ⟨d.format, isPlannedIn_of_resolve hd⟩
  · intro w hw
    obtain ⟨i, -, d, hd, rfl⟩ := exists_of_mem_planEach heach w hw
    exact ⟨d.format, isPlannedIn_of_resolve hd⟩

lemma exists_isPlannedIn_of_planGroups {transform : LineTransform} {fromFolder : Bool}
    {output : Path} {groups : List (List Labelled)}
    (h : planGroups transform Matcher.standard s fromFolder output groups = .ok writes) :
    ∀ w ∈ writes, ∃ f, IsPlannedIn s.format f w := by
  induction groups generalizing writes with
  | nil =>
    cases h
    simp
  | cons group groups ih =>
    obtain ⟨applied, -, h⟩ := exists_of_bind_eq_ok h
    cases applied with
    | nil =>
      -- nothing is planned for a group without images
      obtain ⟨own, hown, h⟩ := exists_of_bind_eq_ok h
      cases hown
      obtain ⟨others, hothers, h⟩ := exists_of_bind_eq_ok h
      cases h
      exact ih hothers
    | cons first rest =>
      obtain ⟨own, hown, h⟩ := exists_of_bind_eq_ok h
      obtain ⟨others, hothers, h⟩ := exists_of_bind_eq_ok h
      cases h
      intro w hw
      rcases List.mem_append.1 hw with hw | hw
      · exact exists_isPlannedIn hown w hw
      · exact ih hothers w hw

/-! ## One format -/

/-- Files that are planned in one format; if none is named, either all of them have names or none
has. -/
structure OneFormat (format : Option String) (f : FileFormat) (writes : List PlannedWrite) :
    Prop where
  planned : ∀ w ∈ writes, IsPlannedIn format f w
  names : format = none →
    ∀ w ∈ writes, ∀ w' ∈ writes, w.path.fileName? = none → w'.path.fileName? = none

/-- A named format is that of every file. -/
lemma exists_oneFormat_of_named {name : String}
    (h : ∀ w ∈ writes, ∃ f, IsPlannedIn (some name) f w) :
    ∃ f, OneFormat (some name) f writes := by
  cases writes with
  | nil => exact ⟨.png, by simp, nofun⟩
  | cons w rest =>
    obtain ⟨f, hf⟩ := h w List.mem_cons_self
    refine ⟨f, fun w' hw' => ?_, nofun⟩
    obtain ⟨g, hg⟩ := h w' hw'
    have hname : f.name = g.name := (hf.named name rfl).symm.trans (hg.named name rfl)
    have hsame : f = g := by
      cases f <;> cases g <;> first | rfl | exact absurd hname (by decide)
    rw [hsame]
    exact hg

/-- The own name of a steady label has its stem and its extension, in whatever folder. -/
lemma stem_extension_ownName {label : Path} {stem : List Char} (hstem : label.stem? = some stem)
    (folder : Path) :
    (folder.join (ownName label)).stem? = some stem ∧
      (folder.join (ownName label)).extension? = label.extension? := by
  rw [stem?] at hstem ⊢
  cases hname : label.fileName? with
  | none =>
    rw [hname] at hstem
    cases hstem
  | some name =>
    have hown : folder.join (ownName label) = ⟨folder.asFolder ++ name⟩ := by
      rw [ownName, hname]
      exact join_name folder (isName_of_fileName? hname)
    have hdots : name ≠ ['.', '.'] := by
      rintro rfl
      rw [fileName?] at hname
      split at hname
      · split at hname
        · cases hname
        · rename_i hne
          exact hne (Option.some.inj hname)
      · cases hname
    have hjoined : (folder.join (ownName label)).fileName? = some name := by
      rw [hown]
      exact fileName?_append (isFolder_asFolder folder) (isName_of_fileName? hname) hdots
    rw [hname] at hstem
    rw [hjoined, extension?, hjoined, extension?, hname]
    exact ⟨hstem, rfl⟩

/-- Images with labels that are alike are planned in one format, also if none is named. -/
lemma exists_oneFormat_of_areAlike {folder : Path} {group : List Labelled}
    (halike : AreAlike (group.map Labelled.label))
    (h : planEach Matcher.standard folder none group = .ok writes) :
    ∃ f, OneFormat none f writes := by
  have hwrites := exists_of_mem_planEach h
  cases writes with
  | nil => exact ⟨.png, by simp, by simp⟩
  | cons w₀ rest =>
    obtain ⟨i₀, hi₀, d₀, hd₀, -⟩ := hwrites w₀ List.mem_cons_self
    have hmem {i : Labelled} (hi : i ∈ group) : i.label ∈ group.map Labelled.label :=
      List.mem_map_of_mem hi
    rcases halike with ⟨l, hl⟩ | ⟨e, he⟩
    · -- all are planned for the same path
      have hsame : ∀ w ∈ w₀ :: rest, w.path = d₀.path ∧ IsPlannedIn none d₀.format w := by
        intro w hw
        obtain ⟨i, hi, d, hd, rfl⟩ := hwrites w hw
        rw [hl _ (hmem hi)] at hd
        rw [hl _ (hmem hi₀)] at hd₀
        have hformat := Matcher.format_eq_of_extension?_eq hd hd₀ rfl
        have hpath : d.path = d₀.path := by
          rw [(Matcher.resolve_eq_ok hd).2.1, (Matcher.resolve_eq_ok hd₀).2.1, hformat]
        exact ⟨hpath, hformat ▸ isPlannedIn_of_resolve hd⟩
      refine ⟨d₀.format, fun w hw => (hsame w hw).2, ?_⟩
      rintro - w hw w' hw' hnone
      rw [(hsame w' hw').1, ← (hsame w hw).1]
      exact hnone
    · -- each keeps its stem, and all have the same extension
      have hsteady : ∀ w ∈ w₀ :: rest, IsPlannedIn none d₀.format w ∧ w.path.fileName? ≠ none := by
        intro w hw
        obtain ⟨i, hi, d, hd, rfl⟩ := hwrites w hw
        obtain ⟨hext, x, hstem, hlength, hdot⟩ := he _ (hmem hi)
        obtain ⟨hext₀, x₀, hstem₀, -⟩ := he _ (hmem hi₀)
        obtain ⟨hjoined, hjoinedext⟩ := stem_extension_ownName hstem folder
        have hformat : d.format = d₀.format := by
          refine Matcher.format_eq_of_extension?_eq hd hd₀ ?_
          rw [hjoinedext, (stem_extension_ownName hstem₀ folder).2, hext, hext₀]
        refine ⟨hformat ▸ isPlannedIn_of_resolve hd, fun hnone => ?_⟩
        have hkept : d.path.stem? = some x := by
          rw [(Matcher.resolve_eq_ok hd).2.1]
          refine stem?_withExtension hjoined ?_ d.format.outputExtension_ne_nil
            d.format.slash_not_mem_outputExtension d.format.dot_not_mem_outputExtension
          rintro rfl
          simp at hlength
        rw [stem?, hnone] at hkept
        cases hkept
      refine ⟨d₀.format, fun w hw => (hsteady w hw).1, ?_⟩
      rintro - w hw w' hw' hnone
      exact absurd hnone (hsteady w hw).2

/-- **All files that are planned for a folder have one format, and so have those that are planned
for the images of one file.** -/
lemma exists_oneFormat {transform : LineTransform} {fromFolder : Bool} {output : Path}
    {groups : List (List Labelled)}
    (h : planGroups transform Matcher.standard s fromFolder output groups = .ok writes)
    (hone : s.format = none → ∃ i, groups = [[i]]) : ∃ f, OneFormat s.format f writes := by
  have hplanned := exists_isPlannedIn_of_planGroups h
  cases hformat : s.format with
  | some name =>
    rw [hformat] at hplanned
    exact exists_oneFormat_of_named hplanned
  | none =>
    obtain ⟨i, rfl⟩ := hone hformat
    obtain ⟨applied, happlied, h⟩ := exists_of_bind_eq_ok h
    have halike : AreAlike (applied.map Labelled.label) :=
      areAlike_applyAlgorithms (Or.inl ⟨i.label, by simp⟩) happlied
    cases applied with
    | nil =>
      obtain ⟨own, hown, h⟩ := exists_of_bind_eq_ok h
      cases hown
      obtain ⟨others, hothers, h⟩ := exists_of_bind_eq_ok h
      cases hothers
      cases h
      exact ⟨.png, by simp, by simp⟩
    | cons first rest =>
      obtain ⟨own, hown, h⟩ := exists_of_bind_eq_ok h
      obtain ⟨others, hothers, h⟩ := exists_of_bind_eq_ok h
      cases hothers
      cases h
      rw [List.append_nil]
      rw [hformat] at hown
      rcases planGroup_cases hown with ⟨d, hd, rfl⟩ | heach
      · refine ⟨d.format, fun w hw => ?_, fun _ w hw w' hw' hnone => ?_⟩
        · rw [List.mem_singleton.1 hw]
          exact isPlannedIn_of_resolve hd
        · rw [List.mem_singleton.1 hw']
          rw [List.mem_singleton.1 hw] at hnone
          exact hnone
      · exact exists_oneFormat_of_areAlike halike heach

/-! ## Saving -/

variable [Coding]

/-- A planned file whose saving is refused, whatever is in the tree of files. -/
def IsRefused (s : Settings) (w : PlannedWrite) : Prop :=
  ∃ cause, (Matcher.standard.saveImages w.images w.path s.format s.savingOptions :
    InMemory (Except Failure Path)) = pure (.error (.unsupported cause))

/-- A planned file whose saving is writing what a picture is encoded to: to its own path, or to one
that ends in two dots and so leads to a folder. -/
def IsSaved (s : Settings) (w : PlannedWrite) : Prop :=
  ∃ path encoded, (path = w.path ∨ ∃ dir, IsFolder dir ∧ path = ⟨dir ++ ['.', '.']⟩) ∧
    (Matcher.standard.saveImages w.images w.path s.format s.savingOptions :
      InMemory (Except Failure Path)) =
        (do return (← writeEncoded path encoded).map fun () => path)

omit [Coding] in
/-- Choosing anew for a planned file: only if no format is named and the path has no name this
fails; else the format is the same, and so is the path, unless it ends in two dots now. -/
lemma IsPlannedIn.resolve_cases (h : IsPlannedIn format f w) :
    if format = none ∧ w.path.fileName? = none then
      ∃ cause, Matcher.standard.resolve w.images w.path format = .error cause
    else ∃ path, Matcher.standard.resolve w.images w.path format = .ok ⟨f, path⟩ ∧
      (path = w.path ∨ ∃ dir, IsFolder dir ∧ path = ⟨dir ++ ['.', '.']⟩) := by
  obtain ⟨haccepts, ⟨q, hq⟩, hnamed⟩ := h
  have he := f.outputExtension_ne_nil
  have hslash := f.slash_not_mem_outputExtension
  have hdot := f.dot_not_mem_outputExtension
  have hpath : w.path.withExtension f.outputExtension.toList = w.path ∨
      ∃ dir, IsFolder dir ∧
        w.path.withExtension f.outputExtension.toList = ⟨dir ++ ['.', '.']⟩ := by
    rw [hq]
    exact withExtension_again_cases q he hslash hdot
  have hchosen : Matcher.standard.resolve w.images w.path (some f.name) =
      .ok ⟨f, w.path.withExtension f.outputExtension.toList⟩ := by
    rw [Matcher.resolve_named, if_pos haccepts]
  have hext := extension?_withExtension q he hslash hdot
  rw [← hq] at hext
  cases format with
  | some name =>
    rw [if_neg (by simp), hnamed name rfl]
    exact ⟨_, hchosen, hpath⟩
  | none =>
    by_cases hname : w.path.fileName? = none
    · rw [if_pos ⟨rfl, hname⟩]
      rw [if_pos hname] at hext
      cases hresolve : Matcher.standard.resolve w.images w.path none with
      | error cause => exact ⟨cause, rfl⟩
      | ok d => exact absurd hresolve (Matcher.resolve_none_ne_ok hext)
    · rw [if_neg fun hboth => hname hboth.2]
      rw [if_neg hname] at hext
      rw [Matcher.resolve_none_eq f (Matcher.standard_find_of_outputExtension f hext)]
      exact ⟨_, hchosen, hpath⟩

/-- Without a name of the format or of the file, no format is found. -/
lemma IsPlannedIn.isRefused_of_nameless (h : IsPlannedIn s.format f w) (hformat : s.format = none)
    (hnone : w.path.fileName? = none) : IsRefused s w := by
  have hresolve := h.resolve_cases
  rw [if_pos ⟨hformat, hnone⟩] at hresolve
  obtain ⟨cause, hcause⟩ := hresolve
  exact ⟨cause, by rw [Matcher.saveImages, hcause]⟩

/-- Where a format is found, it looks at the options. -/
lemma IsPlannedIn.isRefused_of_options (h : IsPlannedIn s.format f w)
    (hv : f.savingSchema.validate s.savingOptions ≠ .ok ()) : IsRefused s w := by
  by_cases hlost : s.format = none ∧ w.path.fileName? = none
  · exact h.isRefused_of_nameless hlost.1 hlost.2
  · have hresolve := h.resolve_cases
    rw [if_neg hlost] at hresolve
    obtain ⟨path, hpath, -⟩ := hresolve
    cases hcause : f.savingSchema.validate s.savingOptions with
    | ok u => exact absurd hcause hv
    | error cause =>
      have hoptions : f.savingOptions s.savingOptions =
          .error (.optionsOfFormat f.name cause) := by
        rw [FileFormat.savingOptions, hcause]
      refine ⟨.optionsOfFormat f.name cause, ?_⟩
      rw [Matcher.saveImages, hpath]
      dsimp only
      rw [hoptions]

/-- Where the format is found and takes the options, a picture is encoded and written. -/
lemma IsPlannedIn.isSaved (h : IsPlannedIn s.format f w)
    (hname : ¬(s.format = none ∧ w.path.fileName? = none))
    (hv : f.savingSchema.validate s.savingOptions = .ok ()) : IsSaved s w := by
  have hresolve := h.resolve_cases
  rw [if_neg hname] at hresolve
  obtain ⟨path, hpath, hcases⟩ := hresolve
  obtain ⟨e, picture, -, hbytes⟩ := FileFormat.exists_fileBytes h.accepts hv
  exact ⟨path, Coding.encode e picture, hcases,
    Matcher.saveImages_eq hpath hv (hbytes path) InMemory⟩

/-- **If one file of a plan is refused, all of them are.** -/
lemma OneFormat.refused_or_saved (h : OneFormat s.format f writes) :
    (∀ w ∈ writes, IsRefused s w) ∨ ∀ w ∈ writes, IsSaved s w := by
  -- neither the options nor whether there are names differ from file to file
  by_cases hv : f.savingSchema.validate s.savingOptions = .ok ()
  · by_cases hlost : s.format = none ∧ ∃ w ∈ writes, w.path.fileName? = none
    · obtain ⟨hformat, w₀, hw₀, hnone⟩ := hlost
      exact Or.inl fun w hw => (h.planned w hw).isRefused_of_nameless hformat
        (h.names hformat w₀ hw₀ w hw hnone)
    · exact Or.inr fun w hw => (h.planned w hw).isSaved
        (fun hboth => hlost ⟨hboth.1, w, hw, hboth.2⟩) hv
  · exact Or.inl fun w hw => (h.planned w hw).isRefused_of_options hv

end Raster.CommandLine
