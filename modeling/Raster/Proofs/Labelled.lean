import Raster.Labelled
import Raster.Proofs.Algorithm.Outcome
import Raster.Proofs.Path.Extension
/-!
# Labels of outputs

An output that has a role is to be labelled with the stem of its input, an underscore, the role,
and the extension of the input (`roleLabel`).  `derivedLabel` puts the extension behind the new
name with `Path.setExtension`, which first takes off what stands behind the last dot, and a stem
may contain a dot.  So the role survives exactly if the input has no extension, or its stem has
no dot behind the first character (`KeepsRole`).  Otherwise all outputs of an image get the same
label (`derivedLabel_of_not_keepsRole`).
-/

namespace Raster

open Raster.Path

/-- A role that can stand in a name: a single component without a dot. -/
structure IsRole (role : String) : Prop where
  ne_empty : role ≠ ""
  no_slash : '/' ∉ role.toList
  no_dot : '.' ∉ role.toList

instance (role : String) : Decidable (IsRole role) :=
  decidable_of_iff (role ≠ "" ∧ '/' ∉ role.toList ∧ '.' ∉ role.toList)
    ⟨fun h => ⟨h.1, h.2.1, h.2.2⟩, fun h => ⟨h.ne_empty, h.no_slash, h.no_dot⟩⟩

/-- The stem of an input with a role behind it. -/
def roleStem (input : Path) (role : String) : List Char :=
  input.stem?.getD [] ++ '_' :: role.toList

/-- An extension with its dot; without an extension, or with an empty one, nothing. -/
def dotted : Option (List Char) → List Char
  | none | some [] => []
  | some e => '.' :: e

/-- The label that an output with a role is to have: in the folder of its input, the stem of the
input with the role behind it, and the extension of the input unless that is empty. -/
def roleLabel (input : Path) (role : String) : Path :=
  (input.parent?.getD empty).join ⟨roleStem input role ++ dotted input.extension?⟩

/-- An input whose outputs keep their roles: it has no extension, or its stem has no dot behind
the first character. -/
def KeepsRole (input : Path) : Prop :=
  input.extension? = none ∨ '.' ∉ (input.stem?.getD []).tail

instance (input : Path) : Decidable (KeepsRole input) :=
  inferInstanceAs (Decidable (input.extension? = none ∨ '.' ∉ (input.stem?.getD []).tail))

/-! ## The new name -/

/-- The folder in which an output is put. -/
def outputFolder (input : Path) : List Char :=
  match input.fileName? with
  | some _ => asFolder (input.parent?.getD empty)
  | none => asFolder input

lemma isFolder_outputFolder (input : Path) : IsFolder (outputFolder input) := by
  unfold outputFolder
  split <;> exact isFolder_asFolder _

lemma isName_of_fileName? {p : Path} {name : List Char} (h : p.fileName? = some name) :
    IsName name := by
  unfold fileName? at h
  split at h
  · rename_i s hs
    split at h
    · cases h
    · obtain rfl := Option.some.inj h
      exact (split?_eq_some hs).2.1
  · cases h

lemma slash_not_mem_stem (input : Path) : '/' ∉ input.stem?.getD [] := by
  unfold stem?
  cases hname : input.fileName? with
  | none => simp
  | some name =>
    exact fun h => (isName_of_fileName? hname).no_slash ((stem_begins name).subset h)

variable {input : Path} {role role' : String}

lemma isName_roleStem_append (hr : IsRole role) {rest : List Char} (h : '/' ∉ rest) :
    IsName (roleStem input role ++ rest) := by
  have hmem : '_' ∈ roleStem input role ++ rest := by simp [roleStem]
  refine ⟨List.ne_nil_of_mem hmem, ?_, ?_⟩
  · rw [roleStem, List.mem_append, List.mem_append, List.mem_cons]
    rintro ((h' | h' | h') | h')
    · exact slash_not_mem_stem input h'
    · cases h'
    · exact hr.no_slash h'
    · exact h h'
  · intro hdot
    rw [hdot] at hmem
    simp at hmem

lemma isName_roleStem (hr : IsRole role) : IsName (roleStem input role) := by
  simpa using @isName_roleStem_append input role hr [] List.not_mem_nil

lemma withFileName_roleStem (hr : IsRole role) :
    input.withFileName (roleStem input role) = ⟨outputFolder input ++ roleStem input role⟩ := by
  unfold withFileName outputFolder
  cases input.fileName? with
  | some name => exact join_name _ (isName_roleStem hr)
  | none => exact join_name _ (isName_roleStem hr)

/-- The new name has a dot behind its first character exactly if the stem has one; it is then cut
where the stem is cut. -/
lemma splitName_roleStem (hr : IsRole role) (hstem : input.stem?.getD [] ≠ []) :
    (splitName (roleStem input role)).1 =
      if '.' ∈ (input.stem?.getD []).tail then (splitName (input.stem?.getD [])).1
      else roleStem input role := by
  unfold roleStem
  generalize input.stem?.getD [] = stem at hstem
  rcases exists_last_dot stem with h | ⟨before, after, hb, ha, rfl⟩
  · rw [if_neg h, splitName_of_not_mem]
    rw [List.tail_append_of_ne_nil hstem, List.mem_append, List.mem_cons]
    rintro (h' | h' | h')
    · exact h h'
    · cases h'
    · exact hr.no_dot h'
  · -- the role has no dot, so the last dot of the stem stays the last one
    have htail : '.' ∈ (before ++ '.' :: after).tail := by
      rw [List.tail_append_of_ne_nil hb]
      simp
    have hrest : '.' ∉ after ++ '_' :: role.toList := by
      rw [List.mem_append, List.mem_cons]
      rintro (h' | h' | h')
      · exact ha h'
      · cases h'
      · exact hr.no_dot h'
    rw [if_pos htail, splitName_append hb ha, List.append_assoc, List.cons_append,
      splitName_append hb hrest]

/-! ## The label -/

lemma setExtension_roleStem (hr : IsRole role) (e : List Char) :
    setExtension ⟨outputFolder input ++ roleStem input role⟩ e =
      ⟨outputFolder input ++ ((splitName (roleStem input role)).1 ++ dotted (some e))⟩ := by
  have hdots : roleStem input role ≠ ['.', '.'] := by
    intro h
    have hmem : '_' ∈ roleStem input role := by simp [roleStem]
    rw [h] at hmem
    simp at hmem
  rw [setExtension, split?_append (isFolder_outputFolder input) (isName_roleStem hr)]
  dsimp only
  rw [if_neg hdots, List.append_assoc]
  cases e <;> rfl

lemma stem_ne_nil_of_extension {e : List Char} (h : input.extension? = some e) :
    input.stem?.getD [] ≠ [] := by
  unfold extension? at h
  unfold stem?
  cases hname : input.fileName? with
  | none => simp [hname] at h
  | some name => exact splitName_ne_nil (isName_of_fileName? hname).ne_nil

/-- An extension takes the place of what follows the last dot of the new name. -/
lemma derivedLabel_of_extension (hr : IsRole role) {e : List Char}
    (hext : input.extension? = some e) :
    derivedLabel input role = ⟨outputFolder input ++
      ((splitName (roleStem input role)).1 ++ dotted (some e))⟩ := by
  rw [derivedLabel, if_neg hr.ne_empty, hext]
  show (input.withFileName (roleStem input role)).setExtension e = _
  rw [withFileName_roleStem hr, setExtension_roleStem hr]

lemma derivedLabel_of_keepsRole (hr : IsRole role) (hk : KeepsRole input) :
    derivedLabel input role =
      ⟨outputFolder input ++ (roleStem input role ++ dotted input.extension?)⟩ := by
  cases hext : input.extension? with
  | none =>
    rw [derivedLabel, if_neg hr.ne_empty, hext]
    show input.withFileName (roleStem input role) = _
    rw [withFileName_roleStem hr, dotted, List.append_nil]
  | some e =>
    have hdot : '.' ∉ (input.stem?.getD []).tail := by
      rcases hk with h | h
      · rw [hext] at h
        cases h
      · exact h
    rw [derivedLabel_of_extension hr hext,
      splitName_roleStem hr (stem_ne_nil_of_extension hext), if_neg hdot]

/-- Where the role is lost, the label says nothing of it. -/
lemma derivedLabel_of_not_keepsRole (hr : IsRole role) (hk : ¬KeepsRole input) :
    derivedLabel input role =
      ⟨outputFolder input ++
        ((splitName (input.stem?.getD [])).1 ++ dotted input.extension?)⟩ := by
  rw [KeepsRole, not_or, not_not] at hk
  obtain ⟨e, hext⟩ := Option.ne_none_iff_exists'.1 hk.1
  rw [derivedLabel_of_extension hr hext, hext,
    splitName_roleStem hr (stem_ne_nil_of_extension hext), if_pos hk.2]

lemma slash_not_mem_dotted (input : Path) : '/' ∉ dotted input.extension? := by
  have hext : ∀ e, input.extension? = some e → '/' ∉ e := by
    intro e h hmem
    unfold extension? at h
    cases hname : input.fileName? with
    | none => simp [hname] at h
    | some name =>
      rw [hname, Option.bind_some] at h
      rcases exists_last_dot name with hd | ⟨before, after, hb, ha, rfl⟩
      · rw [splitName_of_not_mem hd] at h
        cases h
      · rw [splitName_append hb ha] at h
        obtain rfl := Option.some.inj h
        exact (isName_of_fileName? hname).no_slash (by simp [hmem])
  cases h : input.extension? with
  | none => simp [dotted]
  | some e =>
    cases e with
    | nil => simp [dotted]
    | cons c e =>
      have hmem := hext _ h
      simpa [dotted] using hmem

lemma roleLabel_eq (hr : IsRole role) (hname : input.fileName?.isSome) :
    roleLabel input role =
      ⟨outputFolder input ++ (roleStem input role ++ dotted input.extension?)⟩ := by
  obtain ⟨name, hname⟩ := Option.isSome_iff_exists.1 hname
  rw [roleLabel, join_name _ (isName_roleStem_append hr (slash_not_mem_dotted input)),
    outputFolder, hname]

/-- The label of an output is the one that it is to have exactly if the input keeps roles. -/
lemma derivedLabel_eq_roleLabel_iff (hr : IsRole role) (hname : input.fileName?.isSome) :
    derivedLabel input role = roleLabel input role ↔ KeepsRole input := by
  rw [roleLabel_eq hr hname]
  by_cases hk : KeepsRole input
  · exact iff_of_true (derivedLabel_of_keepsRole hr hk) hk
  · refine iff_of_false (fun h => ?_) hk
    rw [derivedLabel_of_not_keepsRole hr hk] at h
    have hstem := List.append_cancel_right (List.append_cancel_left (Path.mk.inj h))
    -- the stem cannot be cut to more than itself
    have hlength := (stem_begins (input.stem?.getD [])).length_le
    rw [hstem, roleStem, List.length_append, List.length_cons] at hlength
    omega

/-- The labels of two outputs with different roles differ exactly if the input keeps roles. -/
lemma derivedLabel_same_eq_false_iff (hr : IsRole role) (hr' : IsRole role')
    (hne : role ≠ role') :
    (derivedLabel input role).same (derivedLabel input role') = false ↔ KeepsRole input := by
  rw [same, decide_eq_false_iff_not]
  by_cases hk : KeepsRole input
  · refine iff_of_true (fun h => hne ?_) hk
    have hfolder := isFolder_outputFolder input
    have hslash := slash_not_mem_dotted input
    rw [derivedLabel_of_keepsRole hr hk, derivedLabel_of_keepsRole hr' hk,
      components_append hfolder (isName_roleStem_append hr hslash),
      components_append hfolder (isName_roleStem_append hr' hslash)] at h
    have hname := List.singleton_inj.1 (List.append_cancel_left h)
    have hrole := List.append_cancel_left (List.append_cancel_right hname)
    exact String.ext (List.cons.inj hrole).2
  · refine iff_of_false (fun h => h ?_) hk
    rw [derivedLabel_of_not_keepsRole hr hk, derivedLabel_of_not_keepsRole hr' hk]

/-! ## Calls -/

namespace Algorithm

/-- The outputs of a call are those of each image in turn, labelled after it. -/
lemma applyEach_labels {transform : LineTransform} {name : String} {o : Options} {first : Nat}
    {images : List Labelled} {outputs : List LabelledOutput}
    (h : applyEach transform name o first images = .ok outputs) :
    ∃ results, images.mapM (fun i => applyNamed transform name o [i.image]) = .ok results ∧
      outputs.map LabelledOutput.label = (List.zipWith
        (fun i r => r.map fun output => derivedLabel i.label output.role)
          images results).flatten := by
  induction images generalizing first outputs with
  | nil =>
    cases h
    exact ⟨[], rfl, rfl⟩
  | cons i rest ih =>
    rw [applyEach] at h
    cases hr : applyNamed transform name o [i.image] with
    | error e =>
      rw [hr] at h
      cases h
    | ok r =>
      rw [hr] at h
      cases hothers : applyEach transform name o (first + 1) rest with
      | error e =>
        simp only [bind, Except.bind, hothers] at h
        cases h
      | ok others =>
        simp only [bind, Except.bind, hothers, pure, Except.pure] at h
        cases h
        obtain ⟨results, hresults, hlabels⟩ := ih hothers
        refine ⟨r :: results, ?_, ?_⟩
        · rw [List.mapM_cons, hr, hresults]
          rfl
        · rw [List.map_append, hlabels, List.map_map]
          rfl

/-- **When labels are faithful.**  A call labels the outputs of each image after that image.  Such
a label is the one that the output is to have, and differs from that of any output with another
role, exactly if the input keeps roles. -/
theorem labels_faithful_iff (transform : LineTransform) (name : String) (o : Options)
    (images : List Labelled) :
    (∀ outputs, applyLabelled transform name o images = .ok outputs →
      ∃ results, images.mapM (fun i => applyNamed transform name o [i.image]) = .ok results ∧
        outputs.map LabelledOutput.label = (List.zipWith
          (fun i r => r.map fun output => derivedLabel i.label output.role)
          images results).flatten) ∧
    (∀ input role, input.fileName?.isSome → IsRole role →
      (derivedLabel input role = roleLabel input role ↔ KeepsRole input)) ∧
    (∀ input role role', IsRole role → IsRole role' → role ≠ role' →
      ((derivedLabel input role).same (derivedLabel input role') = false ↔ KeepsRole input)) :=
  ⟨fun _ h => applyEach_labels h, fun _ _ hname hr => derivedLabel_eq_roleLabel_iff hr hname,
    fun _ _ _ hr hr' hne => derivedLabel_same_eq_false_iff hr hr' hne⟩

/-- Two channels of an image whose label has two extensions get the same label, and not the one
that they are to have. -/
theorem archive_labels_not_faithful :
    derivedLabel (ofString "x.tar.gz") "gray" ≠ roleLabel (ofString "x.tar.gz") "gray" ∧
      (derivedLabel (ofString "x.tar.gz") "gray").same
        (derivedLabel (ofString "x.tar.gz") "alpha") ≠ false := by
  have hlost : ¬KeepsRole (ofString "x.tar.gz") := by decide
  obtain ⟨-, hfaithful, hdistinct⟩ := labels_faithful_iff .direct "" .empty []
  constructor
  · intro h
    exact hlost ((hfaithful _ _ (by decide) (by decide)).1 h)
  · intro h
    exact hlost ((hdistinct _ _ _ (by decide) (by decide) (by decide)).1 h)

/-! ## Channels -/

/-- The components of an image are at least two, under different roles. -/
lemma roles_of_components {image : Image} {components : List (String × Image)}
    (h : image.components? = some components) :
    1 < components.length ∧ (components.map (·.1)).Nodup ∧ ∀ c ∈ components, IsRole c.1 := by
  have hroles : components.map (·.1) ∈
      [["gray", "alpha"], ["red", "green", "blue"], ["red", "green", "blue", "alpha"],
        ["real", "imaginary"]] := by
    unfold Image.components? at h
    split at h
    all_goals cases h
    all_goals simp
  have hlist : ∀ roles ∈ [["gray", "alpha"], ["red", "green", "blue"],
      ["red", "green", "blue", "alpha"], ["real", "imaginary"]],
      1 < roles.length ∧ roles.Nodup ∧ ∀ role ∈ roles, IsRole role := by decide +kernel
  obtain ⟨hlength, hnodup, hrole⟩ := hlist _ hroles
  exact ⟨by simpa using hlength, hnodup, fun c hc => hrole _ (List.mem_map_of_mem hc)⟩

/-- The channels of an image get labels that differ exactly if its own label keeps roles. -/
theorem splitChannels_labels_distinct_iff (transform : LineTransform) (o : Options)
    (i : Labelled) (outputs : List LabelledOutput)
    (h : applyLabelled transform splitChannels.name o [i] = .ok outputs) :
    (outputs.map LabelledOutput.label).Pairwise (fun p q => p.same q = false) ↔
      KeepsRole i.label := by
  obtain ⟨results, hresults, hlabels⟩ := applyEach_labels h
  rw [List.mapM_cons, List.mapM_nil] at hresults
  cases hr : applyNamed transform splitChannels.name o [i.image] with
  | error e =>
    rw [hr] at hresults
    cases hresults
  | ok r =>
    rw [hr] at hresults
    cases hresults
    obtain ⟨a, image, ha, himage, hrun⟩ := exists_run_of_applyNamed hr
    cases ha
    cases himage
    simp only [run] at hrun
    cases hcomponents : i.image.components? with
    | none =>
      rw [hcomponents] at hrun
      cases hrun
    | some components =>
      rw [hcomponents] at hrun
      cases hrun
      obtain ⟨hlength, hnodup, hrole⟩ := roles_of_components hcomponents
      have hmap : outputs.map LabelledOutput.label =
          components.map fun c => derivedLabel i.label c.1 := by
        rw [hlabels]
        simp [Function.comp_def]
      have hpairs : components.Pairwise fun c d =>
          ((derivedLabel i.label c.1).same (derivedLabel i.label d.1) = false ↔
            KeepsRole i.label) := by
        refine List.Pairwise.imp_of_mem ?_ (List.pairwise_map.1 hnodup)
        intro c d hc hd hne
        exact derivedLabel_same_eq_false_iff (hrole c hc) (hrole d hd) hne
      rw [hmap, List.pairwise_map]
      constructor
      · intro hdistinct
        rcases components with _ | ⟨c, _ | ⟨d, rest⟩⟩
        · cases hlength
        · simp at hlength
        · exact (List.rel_of_pairwise_cons hpairs List.mem_cons_self).1
            (List.rel_of_pairwise_cons hdistinct List.mem_cons_self)
      · intro hk
        exact hpairs.imp fun hiff => hiff.2 hk

end Algorithm

end Raster
