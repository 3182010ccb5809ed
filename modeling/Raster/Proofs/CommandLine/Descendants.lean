import Raster.CommandLine.Plan
import Raster.Proofs.Algorithm.Outputs
import Raster.Proofs.Labelled
import Raster.Proofs.Path.Settled
/-!
# Images that come from one

The images that a chain of algorithms makes of one image have labels that are alike
(`areAlike_applyAlgorithms`): either they are all the same, or each of them has a stem that is
steady, and they have one extension.  A stem is steady if the next role can be put behind it: it
has no dot behind the first character, so it is not cut there.
-/

namespace Raster

open Raster.Path

namespace Path

lemma dot_not_mem_extension {p : Path} {e : List Char} (h : p.extension? = some e) : '.' ∉ e := by
  rw [extension?] at h
  cases hname : p.fileName? with
  | none =>
    rw [hname] at h
    cases h
  | some name =>
    rw [hname, Option.bind_some] at h
    rcases exists_last_dot name with hd | ⟨before, after, hb, ha, rfl⟩
    · rw [splitName_of_not_mem hd] at h
      cases h
    · rw [splitName_append hb ha] at h
      cases h
      exact ha

lemma dot_not_mem_stem_of_extension?_eq_none {p : Path} (h : p.extension? = none) :
    '.' ∉ (p.stem?.getD []).tail := by
  rw [extension?] at h
  rw [stem?]
  cases hname : p.fileName? with
  | none => simp
  | some name =>
    rw [hname, Option.bind_some] at h
    rcases exists_last_dot name with hd | ⟨before, after, hb, ha, rfl⟩
    · rw [Option.map_some, Option.getD_some, splitName_of_not_mem hd]
      exact hd
    · rw [splitName_append hb ha] at h
      cases h

end Path

lemma KeepsRole.dot_not_mem {input : Path} (h : KeepsRole input) :
    '.' ∉ (input.stem?.getD []).tail :=
  h.elim dot_not_mem_stem_of_extension?_eq_none id

/-! ## Steady labels -/

/-- A label with a given extension, and a stem of more than one character that has no dot behind
the first. -/
structure Steady (e : Option (List Char)) (label : Path) : Prop where
  extension : label.extension? = e
  stem : ∃ x, label.stem? = some x ∧ 1 < x.length ∧ '.' ∉ x.tail

/-- An extension that has characters. -/
def properExtension (e : Option (List Char)) : Option (List Char) := if e = some [] then none else e

lemma steady_of_chars {dir x : List Char} {e : Option (List Char)} (hd : IsFolder dir)
    (hn : IsName (x ++ dotted e)) (hx : 1 < x.length) (hdot : '.' ∉ x.tail)
    (he : ∀ c, e = some c → '.' ∉ c) :
    Steady (properExtension e) ⟨dir ++ (x ++ dotted e)⟩ := by
  have hplain (hn : IsName x) : Steady none ⟨dir ++ x⟩ := by
    have hdots : x ≠ ['.', '.'] := by
      rintro rfl
      exact hdot (by simp)
    have hname := fileName?_append hd hn hdots
    refine ⟨?_, x, ?_, hx, hdot⟩
    · rw [extension?, hname, Option.bind_some, splitName_of_not_mem hdot]
    · rw [stem?, hname, Option.map_some, splitName_of_not_mem hdot]
  cases e with
  | none =>
    rw [dotted, List.append_nil] at hn ⊢
    exact hplain hn
  | some cs =>
    cases cs with
    | nil =>
      -- an extension without characters is left out with its dot
      rw [dotted, List.append_nil] at hn ⊢
      exact hplain hn
    | cons c cs =>
      have hs : x ≠ [] := by
        rintro rfl
        simp at hx
      have hne : c :: cs ≠ [] := List.cons_ne_nil c cs
      refine ⟨extension?_append hd hn hs hne (he _ rfl), x, ?_, hx, hdot⟩
      exact stem?_append hd hn hs hne (he _ rfl)

/-- The label of an output is steady if the role is put behind the whole stem. -/
lemma steady_derivedLabel {input : Path} {role : String} (hr : IsRole role)
    (hdot : '.' ∉ (input.stem?.getD []).tail) :
    Steady (properExtension input.extension?) (derivedLabel input role) := by
  rw [derivedLabel_of_keepsRole hr (Or.inr hdot)]
  have hrole : 0 < role.toList.length := by
    refine List.length_pos_iff.2 fun hnil => hr.ne_empty ?_
    rw [← String.ofList_toList (s := role), hnil]
  refine steady_of_chars (isFolder_outputFolder input)
    (isName_roleStem_append hr (slash_not_mem_dotted input)) ?_ ?_
    fun c hc => dot_not_mem_extension hc
  · rw [roleStem, List.length_append, List.length_cons]
    omega
  · rw [roleStem]
    cases hstem : input.stem?.getD [] with
    | nil => exact hr.no_dot
    | cons c cs =>
      rw [hstem] at hdot
      rw [List.cons_append, List.tail_cons, List.mem_append, List.mem_cons]
      rintro (h | h | h)
      · exact hdot h
      · cases h
      · exact hr.no_dot h

/-! ## Labels that are alike -/

/-- Labels that are all the same, or all steady with one extension. -/
def AreAlike (labels : List Path) : Prop :=
  (∃ l, ∀ k ∈ labels, k = l) ∨ ∃ e, ∀ k ∈ labels, Steady e k

lemma AreAlike.of_subset {labels labels' : List Path} (h : AreAlike labels)
    (hsub : ∀ k ∈ labels', k ∈ labels) : AreAlike labels' := by
  rcases h with ⟨l, hl⟩ | ⟨e, he⟩
  · exact Or.inl ⟨l, fun k hk => hl k (hsub k hk)⟩
  · exact Or.inr ⟨e, fun k hk => he k (hsub k hk)⟩

/-- Outputs with roles are labelled alike if their inputs are. -/
lemma AreAlike.derived {labels labels' : List Path} (h : AreAlike labels)
    (hderived : ∀ k' ∈ labels', ∃ k ∈ labels, ∃ role, IsRole role ∧ k' = derivedLabel k role) :
    AreAlike labels' := by
  rcases h with ⟨l, hl⟩ | ⟨e, he⟩
  · by_cases hk : KeepsRole l
    · refine Or.inr ⟨properExtension l.extension?, fun k' hk' => ?_⟩
      obtain ⟨k, hmem, role, hr, rfl⟩ := hderived k' hk'
      rw [hl k hmem]
      exact steady_derivedLabel hr hk.dot_not_mem
    · -- the role is lost, so all outputs get the same label again
      refine Or.inl ⟨⟨outputFolder l ++
        ((splitName (l.stem?.getD [])).1 ++ dotted l.extension?)⟩, fun k' hk' => ?_⟩
      obtain ⟨k, hmem, role, hr, rfl⟩ := hderived k' hk'
      rw [hl k hmem]
      exact derivedLabel_of_not_keepsRole hr hk
  · refine Or.inr ⟨properExtension e, fun k' hk' => ?_⟩
    obtain ⟨k, hmem, role, hr, rfl⟩ := hderived k' hk'
    obtain ⟨hext, x, hstem, -, hdot⟩ := he k hmem
    rw [← hext]
    refine steady_derivedLabel hr ?_
    rw [hstem]
    exact hdot

/-! ## Algorithms -/

namespace Algorithm

variable {transform : LineTransform} {name : String} {o : Options}

/-- Only channels have roles. -/
lemma role_of_run {a : Algorithm} {image : Image} {outputs : List Output}
    (h : a.run transform o image = .ok outputs) :
    ∀ output ∈ outputs,
      (a = splitChannels ∧ IsRole output.role) ∨ (a ≠ splitChannels ∧ output.role = "") := by
  intro output hmem
  rcases run_cases h with ⟨ha, components, hcomponents, rfl⟩ | ⟨ha, d, rfl, -⟩
  · obtain ⟨c, hc, rfl⟩ := List.mem_map.1 hmem
    exact Or.inl ⟨ha, (roles_of_components hcomponents).2.2 c hc⟩
  · rw [List.mem_singleton.1 hmem]
    exact Or.inr ⟨ha, rfl⟩

/-- Every output is labelled after an image, with a role that the algorithm of that name gives. -/
lemma exists_of_mem_applyEach {first : Nat} {images : List Labelled}
    {outputs : List LabelledOutput} (h : applyEach transform name o first images = .ok outputs) :
    ∀ output ∈ outputs, ∃ i ∈ images, ∃ role, output.label = derivedLabel i.label role ∧
      ((ofName? name = some splitChannels ∧ IsRole role) ∨
        (ofName? name ≠ some splitChannels ∧ role = "")) := by
  induction images generalizing first outputs with
  | nil =>
    cases h
    simp
  | cons i rest ih =>
    obtain ⟨r, hr, h⟩ := exists_of_bind_eq_ok h
    obtain ⟨others, hothers, h⟩ := exists_of_bind_eq_ok h
    cases h
    intro output hmem
    rcases List.mem_append.1 hmem with hmem | hmem
    · obtain ⟨result, hresult, rfl⟩ := List.mem_map.1 hmem
      obtain ⟨a, image, ha, -, hrun⟩ := exists_run_of_applyNamed hr
      refine ⟨i, List.mem_cons_self, result.role, rfl, ?_⟩
      rw [ha, Ne, Option.some.injEq]
      exact role_of_run hrun result hresult
    · obtain ⟨j, hj, hrest⟩ := ih hothers output hmem
      exact ⟨j, List.mem_cons_of_mem i hj, hrest⟩

end Algorithm

/-- A step leaves labels alike. -/
lemma AreAlike.apply {transform : LineTransform} {s : ChainStep} {images images' : List Labelled}
    (halike : AreAlike (images.map Labelled.label)) (h : s.apply transform images = .ok images') :
    AreAlike (images'.map Labelled.label) := by
  obtain ⟨outputs, houtputs, h⟩ := exists_of_bind_eq_ok h
  cases h
  have hlabels := Algorithm.exists_of_mem_applyEach houtputs
  rw [List.map_map]
  by_cases hsplit : Algorithm.ofName? s.algorithm = some .splitChannels
  · refine halike.derived fun k' hk' => ?_
    obtain ⟨output, hmem, rfl⟩ := List.mem_map.1 hk'
    obtain ⟨i, hi, role, hlabel, ⟨-, hr⟩ | ⟨hnot, -⟩⟩ := hlabels output hmem
    · exact ⟨i.label, List.mem_map_of_mem hi, role, hr, hlabel⟩
    · exact absurd hsplit hnot
  · -- without a role an output keeps the label of its input
    refine halike.of_subset fun k' hk' => ?_
    obtain ⟨output, hmem, rfl⟩ := List.mem_map.1 hk'
    obtain ⟨i, hi, role, hlabel, ⟨hyes, -⟩ | ⟨-, rfl⟩⟩ := hlabels output hmem
    · exact absurd hyes hsplit
    · rw [derivedLabel, if_pos rfl] at hlabel
      exact List.mem_map.2 ⟨i, hi, hlabel.symm⟩

namespace CommandLine

/-- **What a chain of algorithms makes of images with labels that are alike has labels that are
alike.** -/
lemma areAlike_applyAlgorithms {transform : LineTransform} {s : Settings}
    {group group' : List Labelled} (halike : AreAlike (group.map Labelled.label))
    (h : applyAlgorithms transform s group = .ok group') :
    AreAlike (group'.map Labelled.label) := by
  rw [applyAlgorithms] at h
  generalize s.algorithms = names at h
  induction names generalizing group with
  | nil =>
    cases h
    exact halike
  | cons name names ih =>
    rw [List.foldlM_cons] at h
    obtain ⟨applied, happlied, h⟩ := exists_of_bind_eq_ok h
    dsimp only at happlied
    cases hstep : ChainStep.apply transform
        ⟨baseName name, (s.algorithmOptions.lookup name).getD .empty⟩ group with
    | error cause =>
      rw [hstep] at happlied
      cases happlied
    | ok images =>
      rw [hstep] at happlied
      cases happlied
      exact ih (halike.apply hstep) h

end CommandLine

end Raster
