import Mathlib.Data.List.Nodup
import Mathlib.Data.List.Perm.Subperm
import Mathlib.Order.Bounds.Basic
import Mathlib.Tactic.Ring
import Raster.CommandLine.Merge
import Raster.Proofs.Path.Names
/-!
# Labels that are made unique

The components of a path hold all its underscores (`Path.count_components`), so with more of them
behind it a path is another one.  Where `k` labels are taken, one of the first `k + 1` ways to put
underscores behind a label is therefore free (`exists_not_isTaken`), and the search for the first
one ends (`isFirstFree_freshLabel`).

Merging takes one image over after the other in this way.  What a single image takes is said by
`Merging.run_next`, and what all of them take by `Merging.exists_run`.
-/

namespace Raster

open Raster.Path

namespace Path

/-! ## Underscores -/

@[simp] lemma underscored_zero (p : Path) : p.underscored 0 = p := by
  simp [underscored]

@[simp] lemma underscored_underscored (p : Path) (m n : Nat) :
    (p.underscored m).underscored n = p.underscored (m + n) := by
  simp [underscored]

lemma same_iff {p q : Path} : p.same q = true ↔ p.components = q.components := by
  simp [same]

lemma flatten_splitChars (sep : Char) (cs : List Char) :
    (Text.splitChars sep cs).flatten = cs.filter (· ≠ sep) := by
  induction cs with
  | nil => rfl
  | cons c cs ih =>
    rw [Text.splitChars]
    cases hparts : Text.splitChars sep cs with
    | nil =>
      rw [Text.splitChars_eq_splitOn] at hparts
      exact absurd hparts (List.splitOn_ne_nil sep cs)
    | cons part parts =>
      rw [hparts] at ih
      by_cases hc : c = sep
      · simpa [hc] using ih
      · simpa [hc] using ih

/-- Between the names of a path there are slashes and single dots alone. -/
lemma count_names (cs : List Char) : (names cs).flatten.count '_' = cs.count '_' := by
  have hkept : ∀ parts : List (List Char),
      (parts.filter fun w => !w.isEmpty && w != ['.']).flatten.count '_' =
        parts.flatten.count '_' := by
    intro parts
    induction parts with
    | nil => rfl
    | cons part parts ih =>
      by_cases hempty : part = []
      · simp [hempty, ih]
      · by_cases hdot : part = ['.']
        · simp [hdot, ih]
        · simp [hempty, hdot, ih]
  rw [names, hkept, flatten_splitChars]
  exact List.count_filter (by decide)

lemma count_components (p : Path) : p.components.flatten.count '_' = p.chars.count '_' := by
  have hlead : (lead p.chars).count '_' = 0 := by
    unfold lead
    split <;> decide
  rw [components_eq, names_body, List.flatten_append, List.count_append, count_names]
  split
  · simp
  · simp [hlead]

/-- A path with other underscores behind it is another path. -/
lemma components_underscored_inj {p : Path} {m n : Nat} :
    (p.underscored m).components = (p.underscored n).components ↔ m = n := by
  constructor
  · intro h
    have hcount := congrArg (fun w : List (List Char) => w.flatten.count '_') h
    simp only [count_components, underscored, List.count_append, List.count_replicate_self]
      at hcount
    omega
  · rintro rfl
    rfl

end Path

namespace CommandLine

/-! ## Labels that are free -/

lemma isTaken_iff {taken : List Path} {label : Path} :
    isTaken taken label = true ↔ label.components ∈ taken.map Path.components := by
  simp [isTaken, same_iff]

lemma isTaken_eq_false_iff {taken : List Path} {label : Path} :
    isTaken taken label = false ↔ ∀ p ∈ taken, p.same label = false := by
  simp [isTaken]

/-- It does not matter in which order labels have been taken. -/
lemma isTaken_perm {taken taken' : List Path} (h : taken.Perm taken') (label : Path) :
    isTaken taken label = isTaken taken' label :=
  h.any_eq

/-- More ways to lengthen a label than labels that are taken cannot all be taken. -/
lemma exists_not_isTaken (taken : List Path) (label : Path) :
    ∃ m ≤ taken.length, isTaken taken (label.underscored m) = false := by
  by_contra h
  push Not at h
  have hsub : (List.range (taken.length + 1)).map (fun m => (label.underscored m).components) ⊆
      taken.map Path.components := by
    intro w hw
    obtain ⟨m, hm, rfl⟩ := List.mem_map.1 hw
    rw [List.mem_range] at hm
    exact isTaken_iff.1 (by simpa using h m (by omega))
  have hnodup : ((List.range (taken.length + 1)).map
      fun m => (label.underscored m).components).Nodup :=
    List.Nodup.map (fun m n hmn => components_underscored_inj.1 hmn) List.nodup_range
  have hlength := (hnodup.subperm hsub).length_le
  simp at hlength

/-- With so many underscores behind it a label is free, and with fewer it is not. -/
structure IsFirstFree (taken : List Path) (label : Path) (n : Nat) : Prop where
  free : isTaken taken (label.underscored n) = false
  least : ∀ m < n, isTaken taken (label.underscored m) = true

lemma IsFirstFree.perm {taken taken' : List Path} {label : Path} {n : Nat}
    (h : IsFirstFree taken label n) (hperm : taken.Perm taken') :
    IsFirstFree taken' label n := by
  refine ⟨?_, fun m hm => ?_⟩
  · rw [← isTaken_perm hperm]
    exact h.free
  · rw [← isTaken_perm hperm]
    exact h.least m hm

lemma isFirstFree_zero {taken : List Path} {label : Path} (h : isTaken taken label = false) :
    IsFirstFree taken label 0 :=
  ⟨by simpa using h, fun m hm => absurd hm (Nat.not_lt_zero m)⟩

/-- Where a label is taken, it is lengthened first. -/
lemma isFirstFree_succ_iff {taken : List Path} {label : Path} {n : Nat}
    (h : isTaken taken label = true) :
    IsFirstFree taken label (n + 1) ↔ IsFirstFree taken (label.underscored 1) n := by
  have hshift : ∀ m, label.underscored (m + 1) = (label.underscored 1).underscored m := by
    intro m
    rw [underscored_underscored, Nat.add_comm]
  constructor
  · rintro ⟨hfree, hleast⟩
    rw [hshift] at hfree
    refine ⟨hfree, fun m hm => ?_⟩
    rw [← hshift]
    exact hleast (m + 1) (Nat.succ_lt_succ hm)
  · rintro ⟨hfree, hleast⟩
    rw [← hshift] at hfree
    refine ⟨hfree, fun m hm => ?_⟩
    cases m with
    | zero => rwa [underscored_zero]
    | succ m =>
      rw [hshift]
      exact hleast m (Nat.lt_of_succ_lt_succ hm)

/-- The search ends at the first label that is free, if its fuel lasts until some free one. -/
lemma exists_freshLabel_eq {taken : List Path} {fuel m : Nat} {label : Path} (hm : m ≤ fuel)
    (hfree : isTaken taken (label.underscored m) = false) :
    ∃ n ≤ m, freshLabel taken fuel label = label.underscored n ∧ IsFirstFree taken label n := by
  induction fuel generalizing label m with
  | zero =>
    obtain rfl := Nat.le_zero.1 hm
    rw [underscored_zero] at hfree
    exact ⟨0, le_rfl, by rw [freshLabel, underscored_zero], isFirstFree_zero hfree⟩
  | succ fuel ih =>
    rw [freshLabel]
    by_cases htaken : isTaken taken label = true
    · rw [if_pos htaken]
      cases m with
      | zero =>
        rw [underscored_zero, htaken] at hfree
        cases hfree
      | succ m =>
        have hfree' : isTaken taken ((label.underscored 1).underscored m) = false := by
          rw [underscored_underscored, Nat.add_comm]
          exact hfree
        obtain ⟨n, hn, hlabel, hfirst⟩ := ih (Nat.le_of_succ_le_succ hm) hfree'
        refine ⟨n + 1, Nat.succ_le_succ hn, ?_, (isFirstFree_succ_iff htaken).2 hfirst⟩
        rw [underscored_underscored, Nat.add_comm] at hlabel
        exact hlabel
    · rw [if_neg htaken]
      exact ⟨0, Nat.zero_le m, (underscored_zero label).symm,
        isFirstFree_zero (by simpa using htaken)⟩

lemma isFirstFree_freshLabel (taken : List Path) (label : Path) :
    ∃ n ≤ taken.length, freshLabel taken (taken.length + 1) label = label.underscored n ∧
      IsFirstFree taken label n := by
  obtain ⟨m, hm, hfree⟩ := exists_not_isTaken taken label
  obtain ⟨n, hn, hlabel, hfirst⟩ := exists_freshLabel_eq (Nat.le_succ_of_le hm) hfree
  exact ⟨n, hn.trans hm, hlabel, hfirst⟩

lemma isTaken_freshLabel (taken : List Path) (label : Path) :
    isTaken taken (freshLabel taken (taken.length + 1) label) = false := by
  obtain ⟨n, -, hlabel, hfirst⟩ := isFirstFree_freshLabel taken label
  rw [hlabel]
  exact hfirst.free

/-! ## The images and their labels -/

variable {taken : List Path} {images : List Labelled}

lemma map_image_relabel (taken : List Path) (images : List Labelled) :
    (relabel taken images).map Labelled.image = images.map Labelled.image := by
  induction images generalizing taken with
  | nil => rfl
  | cons i rest ih => rw [relabel, List.map_cons, List.map_cons, ih]

lemma isTaken_of_mem_relabel {i : Labelled} (h : i ∈ relabel taken images) :
    isTaken taken i.label = false := by
  induction images generalizing taken with
  | nil => cases h
  | cons j rest ih =>
    rw [relabel, List.mem_cons] at h
    rcases h with rfl | h
    · exact isTaken_freshLabel taken j.label
    · have hrest := ih h
      simp only [isTaken, List.any_cons, Bool.or_eq_false_iff] at hrest
      exact hrest.2

lemma pairwise_relabel (taken : List Path) (images : List Labelled) :
    ((relabel taken images).map Labelled.label).Pairwise fun p q => p.same q = false := by
  induction images generalizing taken with
  | nil => exact .nil
  | cons i rest ih =>
    rw [relabel, List.map_cons, List.pairwise_cons]
    refine ⟨fun q hq => ?_, ih _⟩
    obtain ⟨j, hj, rfl⟩ := List.mem_map.1 hq
    exact isTaken_eq_false_iff.1 (isTaken_of_mem_relabel hj) _ List.mem_cons_self

/-- Each image gets the first label that is free after those before it. -/
lemma exists_label_relabel {j : Nat} {before after : Labelled} (hbefore : images[j]? = some before)
    (hafter : (relabel taken images)[j]? = some after) :
    ∃ n, after.label = before.label.underscored n ∧
      IsFirstFree (taken ++ ((relabel taken images).take j).map Labelled.label) before.label n := by
  induction images generalizing taken j with
  | nil => simp at hbefore
  | cons i rest ih =>
    rw [relabel] at hafter ⊢
    cases j with
    | zero =>
      simp only [List.getElem?_cons_zero, Option.some.injEq] at hbefore hafter
      subst hbefore hafter
      obtain ⟨n, -, hlabel, hfirst⟩ := isFirstFree_freshLabel taken i.label
      exact ⟨n, hlabel, by simpa using hfirst⟩
    | succ j =>
      rw [List.getElem?_cons_succ] at hbefore hafter
      obtain ⟨n, hlabel, hfirst⟩ := ih hbefore hafter
      refine ⟨n, hlabel, ?_⟩
      -- the label of the first image is taken, wherever it stands in the list
      rw [List.take_succ_cons, List.map_cons]
      exact hfirst.perm List.perm_middle.symm

/-! ## Steps -/

namespace Merging

lemma run_add (m n : Nat) (state : Merging) : state.run (m + n) = state.run m >>= run n := by
  induction m generalizing state with
  | zero => rw [Nat.zero_add]; rfl
  | succ m ih =>
    rw [Nat.succ_add, run, run]
    cases state.step? with
    | none => rfl
    | some next => exact ih next

/-- An image takes a step for each of its underscores, and one more. -/
lemma run_next {taken : List Path} {i : Labelled} {n : Nat} (h : IsFirstFree taken i.label n)
    (rest merged : List Labelled) :
    (Merging.mk (i :: rest) taken merged).run (n + 1) =
      some ⟨rest, i.label.underscored n :: taken,
        merged ++ [⟨i.label.underscored n, i.image⟩]⟩ := by
  induction n generalizing i with
  | zero =>
    have hfree : isTaken taken i.label = false := by simpa using h.free
    simp [run, step?, hfree]
  | succ n ih =>
    have htaken : isTaken taken i.label = true := by
      by_contra hfree
      exact hfree (by simpa using h.least 0 (Nat.succ_pos n))
    have hrest := ih (i := ⟨i.label.underscored 1, i.image⟩) ((isFirstFree_succ_iff htaken).1 h)
    rw [underscored_underscored, Nat.add_comm 1 n] at hrest
    rw [run, step?, if_pos htaken]
    exact hrest

/-- Merging comes to an end, with the labels that are found. -/
lemma exists_run (images : List Labelled) (taken : List Path) (merged : List Labelled) :
    ∃ n last, 2 * n ≤ 2 * (images.length * taken.length) + images.length * (images.length + 1) ∧
      (Merging.mk images taken merged).run n = some last ∧ last.step? = none ∧
        last.merged = merged ++ relabel taken images := by
  induction images generalizing taken merged with
  | nil => exact ⟨0, _, by simp, rfl, rfl, (List.append_nil merged).symm⟩
  | cons i rest ih =>
    obtain ⟨n, hn, hlabel, hfirst⟩ := isFirstFree_freshLabel taken i.label
    obtain ⟨m, last, hm, hrun, hstep, hmerged⟩ := ih (i.label.underscored n :: taken)
      (merged ++ [⟨i.label.underscored n, i.image⟩])
    refine ⟨n + 1 + m, last, ?_, ?_, hstep, ?_⟩
    · have hsum : 2 * ((rest.length + 1) * taken.length) +
          (rest.length + 1) * (rest.length + 1 + 1) =
        2 * (taken.length + 1) +
          (2 * (rest.length * (taken.length + 1)) + rest.length * (rest.length + 1)) := by
        ring
      rw [List.length_cons] at hm ⊢
      omega
    · rw [run_add, run_next hfirst]
      exact hrun
    · rw [hmerged, relabel, hlabel, List.append_assoc]
      rfl

end Merging

/-- **Merging groups makes the labels unique and loses nothing.**  However the labels are written,
merging comes to an end, after at most `m * (m + 1) / 2` steps for `m` images.  It keeps the images
in their order, and no two of the labels are the same path.  Each label is the old one with the
fewest underscores behind it that make it differ from all labels before it; so a label that differs
from them as it is stays as it is. -/
theorem mergeGroups_unique (groups : List (List Labelled)) :
    (∃ n last, 2 * n ≤ groups.flatten.length * (groups.flatten.length + 1) ∧
      (Merging.start groups).run n = some last ∧ last.step? = none ∧
        last.merged = mergeGroups groups) ∧
    (mergeGroups groups).map Labelled.image = groups.flatten.map Labelled.image ∧
    ((mergeGroups groups).map Labelled.label).Pairwise (fun p q => p.same q = false) ∧
    ∀ (j : Nat) (before after : Labelled), groups.flatten[j]? = some before →
      (mergeGroups groups)[j]? = some after →
        (∃ n, after.label = before.label.underscored n ∧
          IsLeast {n | ∀ earlier ∈ (mergeGroups groups).take j,
            earlier.label.same (before.label.underscored n) = false} n) ∧
        ((∀ earlier ∈ (mergeGroups groups).take j, earlier.label.same before.label = false) →
          after.label = before.label) := by
  refine ⟨?_, map_image_relabel [] groups.flatten, pairwise_relabel [] groups.flatten,
    fun j before after hbefore hafter => ?_⟩
  · obtain ⟨n, last, hn, hrun, hstep, hmerged⟩ := Merging.exists_run groups.flatten [] []
    exact ⟨n, last, by simpa using hn, hrun, hstep, hmerged⟩
  · obtain ⟨n, hlabel, hfirst⟩ := exists_label_relabel hbefore hafter
    have hset : ∀ m, isTaken ([] ++ ((relabel [] groups.flatten).take j).map Labelled.label)
        (before.label.underscored m) = false ↔ ∀ earlier ∈ (mergeGroups groups).take j,
          earlier.label.same (before.label.underscored m) = false := by
      intro m
      rw [List.nil_append, isTaken_eq_false_iff, List.forall_mem_map]
      rfl
    have hleast : IsLeast {n | ∀ earlier ∈ (mergeGroups groups).take j,
        earlier.label.same (before.label.underscored n) = false} n := by
      refine ⟨(hset n).1 hfirst.free, fun m hm => ?_⟩
      by_contra hlt
      have htaken := hfirst.least m (Nat.lt_of_not_le hlt)
      rw [(hset m).2 hm] at htaken
      cases htaken
    refine ⟨⟨n, hlabel, hleast⟩, fun hdiffers => ?_⟩
    have hzero : n ≤ 0 := hleast.2 (by simpa using hdiffers)
    rw [hlabel, Nat.le_zero.1 hzero, underscored_zero]

/-- Of four images the last gets three underscores: the label with two of them is a lengthened one
itself. -/
theorem mergeGroups_unique_four_images :
    let image := Image.zeros (.gray .eight) [1]
    let groups : List (List Labelled) :=
      [[⟨ofString "a", image⟩, ⟨ofString "a", image⟩],
        [⟨ofString "a_", image⟩, ⟨ofString "a", image⟩]]
    mergeGroups groups = [⟨ofString "a", image⟩, ⟨ofString "a_", image⟩, ⟨ofString "a__", image⟩,
      ⟨ofString "a___", image⟩] ∧
    ∃ n, ofString "a___" = (ofString "a").underscored n ∧
      IsLeast {n | ∀ earlier ∈ (mergeGroups groups).take 3,
        earlier.label.same ((ofString "a").underscored n) = false} n := by
  generalize Image.zeros (.gray .eight) [1] = zeros
  intro image groups
  have hmerged : mergeGroups groups = [⟨ofString "a", image⟩, ⟨ofString "a_", image⟩,
      ⟨ofString "a__", image⟩, ⟨ofString "a___", image⟩] := by
    cbv
  have hbefore : groups.flatten[3]? = some ⟨ofString "a", image⟩ := rfl
  have hafter := congrArg (fun images => images[3]?) hmerged
  obtain ⟨-, -, -, hlast⟩ := mergeGroups_unique groups
  exact ⟨hmerged, (hlast 3 _ _ hbefore hafter).1⟩

end CommandLine

end Raster
