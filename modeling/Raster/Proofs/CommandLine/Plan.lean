import Raster.CommandLine.Plan
import Raster.Proofs.Format.Resolve
import Raster.Proofs.Traversal
/-!
# Which files a plan writes

In a run over a folder every image has a place (`places`): an image that is alone in its group
lies at its label below the output, and the images of a larger group lie beside the first of
them, each under the last component of its label.  The plan writes every image once, in order,
at its place with the extension of the format in place of the one that the place has
(`planGroups_writes`).

Nothing makes sure that the places differ, and the extension that is taken off may be what told
them apart.  The files differ exactly if the trunks of the places do
(`planGroups_distinct_iff`).
-/

namespace Raster

open Raster.Path

/-! ## Choosing the file -/

/-- The extension of the format of a given name; any, if there is none. -/
def extensionFor (name : String) : List Char :=
  match FileFormat.ofName name with
  | .ok f => f.outputExtension.toList
  | .error _ => ['_']

lemma extensionFor_ne_nil (name : String) : extensionFor name ≠ [] := by
  unfold extensionFor
  split
  · rename_i f _
    cases f <;> decide
  · decide

lemma slash_not_mem_extensionFor (name : String) : '/' ∉ extensionFor name := by
  unfold extensionFor
  split
  · rename_i f _
    cases f <;> decide
  · decide

/-- A path that is resolved for a named format is for one image, and gets its extension. -/
lemma resolve_eq_ok {images : List Image} {path : Path} {name : String} {d : Destination}
    (h : Matcher.standard.resolve images path (some name) = .ok d) :
    images.length = 1 ∧ d.path = path.withExtension (extensionFor name) := by
  obtain ⟨haccepts, hpath, hname⟩ := Matcher.resolve_eq_ok h
  refine ⟨FileFormat.length_of_accepts haccepts, ?_⟩
  rw [hpath, extensionFor, FileFormat.ofName_eq_ok_iff.2 (hname name rfl)]

namespace CommandLine

/-! ## Places -/

/-- Where the images of a group lie before they get the extension of the format. -/
def places (output : Path) : List Labelled → List Path
  | [] => []
  | [i] => [output.join i.label]
  | first :: second :: rest =>
    (first :: second :: rest).map fun i =>
      (targetOf true output first.label).folder.join (ownName i.label)

/-- The writes put each image of a group into a file of its own, at the given places. -/
structure WritesAt (name : String) (group : List Labelled) (places : List Path)
    (writes : List PlannedWrite) : Prop where
  images : writes.map PlannedWrite.images = group.map fun i => [i.image]
  paths : writes.map PlannedWrite.path = places.map fun p => p.withExtension (extensionFor name)

lemma WritesAt.append {name : String} {group group' : List Labelled} {ps ps' : List Path}
    {writes writes' : List PlannedWrite} (h : WritesAt name group ps writes)
    (h' : WritesAt name group' ps' writes') :
    WritesAt name (group ++ group') (ps ++ ps') (writes ++ writes') := by
  constructor
  · rw [List.map_append, List.map_append, h.images, h'.images]
  · rw [List.map_append, List.map_append, h.paths, h'.paths]

/-- Files differ exactly if the trunks of their places do. -/
lemma WritesAt.distinct_iff {name : String} {group : List Labelled} {ps : List Path}
    {writes : List PlannedWrite} (h : WritesAt name group ps writes) :
    (writes.map PlannedWrite.path).Pairwise (fun p q => p.same q = false) ↔
      ps.Pairwise fun p q => p.trunk ≠ q.trunk := by
  rw [h.paths, List.pairwise_map]
  refine List.Pairwise.iff fun p q => ?_
  rw [← Bool.not_eq_true, same_withExtension_iff p q (extensionFor_ne_nil name)
    (slash_not_mem_extensionFor name)]

lemma planEach_writes {folder : Path} {name : String} {group : List Labelled}
    {writes : List PlannedWrite}
    (h : planEach Matcher.standard folder (some name) group = .ok writes) :
    WritesAt name group (group.map fun i => folder.join (ownName i.label)) writes := by
  induction group generalizing writes with
  | nil =>
    cases h
    exact ⟨rfl, rfl⟩
  | cons i rest ih =>
    rw [planEach] at h
    split at h
    · cases h
    · rename_i d hd
      cases hothers : planEach Matcher.standard folder (some name) rest with
      | error e =>
        rw [hothers] at h
        cases h
      | ok others =>
        rw [hothers] at h
        cases h
        have hrest := ih hothers
        constructor
        · rw [List.map_cons, List.map_cons, hrest.images]
        · rw [List.map_cons, List.map_cons, List.map_cons, hrest.paths, (resolve_eq_ok hd).2]

lemma planGroup_writes {output : Path} {name : String} {first : Labelled}
    {rest : List Labelled} {writes : List PlannedWrite}
    (h : planGroup Matcher.standard (targetOf true output first.label) (some name)
      (first :: rest) = .ok writes) :
    WritesAt name (first :: rest) (places output (first :: rest)) writes := by
  rw [planGroup] at h
  cases rest with
  | nil =>
    cases hd : Matcher.standard.resolve [first.image] (output.join first.label) (some name) with
    | error e =>
      have hfile : (targetOf true output first.label).file = output.join first.label := rfl
      rw [List.map_cons, List.map_nil, hfile, hd] at h
      cases h
    | ok d =>
      have hfile : (targetOf true output first.label).file = output.join first.label := rfl
      rw [List.map_cons, List.map_nil, hfile, hd] at h
      cases h
      exact ⟨rfl, congrArg (fun p => [p]) (resolve_eq_ok hd).2⟩
  | cons second rest =>
    split at h
    · rename_i d hd
      have hlength := (resolve_eq_ok hd).1
      simp at hlength
    · -- no format holds two images, so each gets a file of its own
      rw [if_neg (by simp)] at h
      exact planEach_writes h

/-- A plan begins with the files of the first group; a group without images has none. -/
lemma planGroups_cons {transform : LineTransform} {s : Settings} {name : String}
    (hformat : s.format = some name) {output : Path} {group : List Labelled}
    {groups : List (List Labelled)} {writes : List PlannedWrite}
    (h : planGroups transform Matcher.standard s true output (group :: groups) = .ok writes) :
    ∃ applied own others, applyAlgorithms transform s group = .ok applied ∧
      planGroups transform Matcher.standard s true output groups = .ok others ∧
        writes = own ++ others ∧ WritesAt name applied (places output applied) own := by
  rw [planGroups] at h
  cases happly : applyAlgorithms transform s group with
  | error e =>
    rw [happly] at h
    cases h
  | ok applied =>
    cases hothers : planGroups transform Matcher.standard s true output groups with
    | error e =>
      -- a failure in a later group shows whatever becomes of this one
      simp only [happly, hothers, bind, Except.bind] at h
      cases applied with
      | nil => cases h
      | cons first rest =>
        dsimp only at h
        split at h <;> cases h
    | ok others =>
      simp only [happly, hothers, bind, Except.bind] at h
      cases applied with
      | nil =>
        cases h
        exact ⟨[], [], others, rfl, rfl, rfl, rfl, rfl⟩
      | cons first rest =>
        rw [hformat] at h
        cases hown : planGroup Matcher.standard (targetOf true output first.label) (some name)
            (first :: rest) with
        | error e =>
          simp only [hown] at h
          cases h
        | ok own =>
          simp only [hown] at h
          cases h
          exact ⟨first :: rest, own, others, rfl, rfl, rfl, planGroup_writes hown⟩

/-- A plan writes every image once, in order, at its place. -/
lemma planGroups_writes {transform : LineTransform} {s : Settings} {name : String}
    (hformat : s.format = some name) {output : Path} {groups : List (List Labelled)}
    {writes : List PlannedWrite}
    (h : planGroups transform Matcher.standard s true output groups = .ok writes) :
    ∃ planned, groups.mapM (applyAlgorithms transform s) = .ok planned ∧
      WritesAt name planned.flatten (planned.flatMap (places output)) writes := by
  induction groups generalizing writes with
  | nil =>
    cases h
    exact ⟨[], rfl, rfl, rfl⟩
  | cons group groups ih =>
    obtain ⟨applied, own, others, happly, hothers, rfl, hown⟩ := planGroups_cons hformat h
    obtain ⟨planned, hplanned, hwrites⟩ := ih hothers
    refine ⟨applied :: planned, ?_, hown.append hwrites⟩
    rw [List.mapM_cons, happly, hplanned]
    rfl

/-- **When no output is lost.**  A plan for a run over a folder writes every image exactly once,
in order; and no two of its files are the same exactly if no two places have the same trunk. -/
theorem planGroups_distinct_iff (transform : LineTransform) (s : Settings) (name : String)
    (hformat : s.format = some name) (output : Path) (groups : List (List Labelled))
    (writes : List PlannedWrite)
    (h : planGroups transform Matcher.standard s true output groups = .ok writes) :
    ∃ planned, groups.mapM (applyAlgorithms transform s) = .ok planned ∧
      writes.map PlannedWrite.images = planned.flatten.map (fun i => [i.image]) ∧
      ((writes.map PlannedWrite.path).Pairwise (fun p q => p.same q = false) ↔
        (planned.flatMap (places output)).Pairwise fun p q => p.trunk ≠ q.trunk) := by
  obtain ⟨planned, hplanned, hwrites⟩ := planGroups_writes hformat h
  exact ⟨planned, hplanned, hwrites.images, hwrites.distinct_iff⟩

/-- If every group is a single image with a plain label, and no algorithm is applied, the files
differ exactly if the labels differ in their folders or in what precedes the last dot. -/
theorem planGroups_alone_distinct_iff (transform : LineTransform) (s : Settings) (name : String)
    (hformat : s.format = some name) (hnone : s.algorithms = []) (output : Path)
    (images : List Labelled) (hplain : ∀ i ∈ images, IsPlain i.label)
    (writes : List PlannedWrite)
    (h : planGroups transform Matcher.standard s true output (images.map fun i => [i])
      = .ok writes) :
    (writes.map PlannedWrite.path).Pairwise (fun p q => p.same q = false) ↔
      (images.map Labelled.label).Pairwise fun p q => p.trunk ≠ q.trunk := by
  have happly : ∀ groups : List (List Labelled),
      groups.mapM (applyAlgorithms transform s) = .ok groups := by
    intro groups
    induction groups with
    | nil => rfl
    | cons group groups ih =>
      rw [List.mapM_cons, ih, applyAlgorithms, hnone]
      rfl
  obtain ⟨planned, hplanned, hwrites⟩ := planGroups_writes hformat h
  rw [happly] at hplanned
  cases hplanned
  have hplaces : (images.map fun i => [i]).flatMap (places output) =
      images.map fun i => output.join i.label := by
    rw [List.flatMap_map, List.map_eq_flatMap]
    rfl
  rw [hwrites.distinct_iff, hplaces, List.pairwise_map, List.pairwise_map]
  refine List.Pairwise.iff_of_mem fun hi hj => ?_
  rw [Ne, Ne, trunk_join_eq_iff output (hplain _ hi) (hplain _ hj)]

/-- Two files of one folder whose names differ in their extension, as they are loaded. -/
def twins : List (List Labelled) :=
  let image := Image.zeros (.gray .eight) [1, 1]
  [[⟨ofString "a", image⟩], [⟨ofString "a", image⟩]]

/-- What is planned for them. -/
def twinWrites : List PlannedWrite :=
  twins.flatten.map fun i => ⟨[i.image], ofString "out/a.png"⟩

/-- The plan for two such files writes one file twice. -/
theorem twins_not_distinct :
    ¬(twinWrites.map PlannedWrite.path).Pairwise fun p q => p.same q = false := by
  obtain ⟨planned, hplanned, -, hiff⟩ := planGroups_distinct_iff .direct
    { format := some "png" } "png" rfl (ofString "out") twins twinWrites rfl
  cases hplanned
  rw [hiff]
  decide

end CommandLine

end Raster
