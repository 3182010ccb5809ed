import Mathlib.Data.List.Induction
import Mathlib.Tactic.Common
import Raster.Files.FileTree
import Raster.Proofs.Path.Names
/-!
# How a tree of files grows

Making folders adds folders and nothing else (`createFolders_addsFolders`); writing puts one file
at the location that the path leads to (`write_cases`).  A tree in which everything lies in a
folder stays one.

A path that leads nowhere may lead somewhere once folders have been made, namely if it goes back
through a folder that was missing.  Any other path that leads nowhere cannot be written where
something was (`entry?_eq_none_of_writable`).
-/

namespace Raster

/-- A path that does not go back, except perhaps at its end. -/
def Path.IsStraight (p : Path) : Prop := ['.', '.'] ∉ p.steps.dropLast

instance (p : Path) : Decidable p.IsStraight :=
  inferInstanceAs (Decidable (['.', '.'] ∉ p.steps.dropLast))

namespace FileTree

variable {t t₀ t₁ t₂ : FileTree} {l k : Location} {p : Path} {e : Entry}

/-! ## Entries -/

/-- A location of which every tree has a folder. -/
def IsRoot (l : Location) : Prop := l = [] ∨ l = [['/']]

instance (l : Location) : Decidable (IsRoot l) :=
  inferInstanceAs (Decidable (l = [] ∨ l = [['/']]))

lemma isRoot_start (p : Path) : IsRoot p.start := by
  rw [Path.start]
  split
  · exact Or.inr rfl
  · exact Or.inl rfl

lemma entry?_of_isRoot (h : IsRoot l) : t.entry? l = some .folder := if_pos h

lemma entry?_put (n : Entry) :
    FileTree.entry? (t.put l n) k =
      if IsRoot k then some .folder else if l = k then some n else t.entry? k := by
  by_cases hroot : IsRoot k
  · rw [if_pos hroot, entry?_of_isRoot hroot]
  · have hput : FileTree.entry? (t.put l n) k = find? k (putEntry l n t.entries) := if_neg hroot
    have hold : t.entry? k = find? k t.entries := if_neg hroot
    rw [if_neg hroot, hput, find?_putEntry, hold]

lemma entry?_put_of_ne (n : Entry) (h : l ≠ k) : FileTree.entry? (t.put l n) k = t.entry? k := by
  rw [entry?_put, if_neg h]
  split
  · rename_i hroot
    rw [entry?_of_isRoot hroot]
  · rfl

/-! ## Larger trees -/

/-- Everything that is in the first tree is in the second. -/
def Extends (t₀ t : FileTree) : Prop := ∀ l e, t₀.entry? l = some e → t.entry? l = some e

/-- The second tree is the first one with more folders. -/
def AddsFolders (t₀ t : FileTree) : Prop :=
  ∀ l, t.entry? l = t₀.entry? l ∨ t₀.entry? l = none ∧ t.entry? l = some .folder

/-- Everything lies in a folder. -/
def WellFormed (t : FileTree) : Prop :=
  ∀ l name e, t.entry? (l ++ [name]) = some e → t.entry? l = some .folder

lemma Extends.refl (t : FileTree) : Extends t t := fun _ _ h => h

lemma Extends.trans (h₁ : Extends t₀ t₁) (h₂ : Extends t₁ t₂) : Extends t₀ t₂ :=
  fun l e h => h₂ l e (h₁ l e h)

lemma Extends.put (h : Extends t₀ t) (hnew : t₀.entry? l = none) (n : Entry) :
    Extends t₀ (t.put l n) := by
  intro k e hk
  have hne : l ≠ k := by
    rintro rfl
    rw [hk] at hnew
    cases hnew
  rw [entry?_put_of_ne n hne]
  exact h k e hk

namespace AddsFolders

lemma refl (t : FileTree) : AddsFolders t t := fun _ => Or.inl rfl

lemma trans (h₁ : AddsFolders t₀ t₁) (h₂ : AddsFolders t₁ t₂) : AddsFolders t₀ t₂ := by
  intro l
  rcases h₂ l with heq | ⟨hnone, hfolder⟩
  · rw [heq]
    exact h₁ l
  · rcases h₁ l with heq | ⟨hnone', -⟩
    · exact Or.inr ⟨heq.symm.trans hnone, hfolder⟩
    · exact Or.inr ⟨hnone', hfolder⟩

lemma toExtends (h : AddsFolders t₀ t) : Extends t₀ t := by
  intro l e he
  rcases h l with heq | ⟨hnone, -⟩
  · exact heq.trans he
  · rw [he] at hnone
    cases hnone

end AddsFolders

lemma mem_of_find? {entries : List (Location × Entry)} (h : find? l entries = some e) :
    (l, e) ∈ entries := by
  induction entries with
  | nil => cases h
  | cons entry rest ih =>
    obtain ⟨k, v⟩ := entry
    rw [find?] at h
    split at h
    · rename_i hk
      cases h
      exact hk ▸ List.mem_cons_self
    · exact List.mem_cons_of_mem _ (ih h)

lemma wellFormed_of_forall (h : ∀ x ∈ t.entries, t.entry? x.1.dropLast = some .folder) :
    t.WellFormed := by
  intro l name e he
  unfold entry? at he
  split at he
  · rename_i hroot
    have hl : l = [] := by
      rcases hroot with hnil | hone
      · simp at hnil
      · exact (List.append_inj' (show l ++ [name] = [] ++ [['/']] from hone) rfl).1
    rw [hl]
    exact entry?_of_isRoot (Or.inl rfl)
  · have hparent := h _ (mem_of_find? he)
    rw [List.dropLast_concat] at hparent
    exact hparent

/-- Something is put into a folder; it takes the place of no folder, or is one. -/
lemma WellFormed.put (h : t.WellFormed) (n : Entry)
    (hparent : ∀ k name, l = k ++ [name] → t.entry? k = some .folder)
    (hplace : n = .folder ∨ t.entry? l ≠ some .folder) : (t.put l n).WellFormed := by
  intro k name e he
  have hfolder : t.entry? k = some .folder := by
    by_cases hk : l = k ++ [name]
    · exact hparent k name hk
    · rw [entry?_put_of_ne n hk] at he
      exact h k name e he
  by_cases hlk : l = k
  · rw [entry?_put]
    split
    · rfl
    · rcases hplace with rfl | hne
      · rfl
      · exact absurd (hlk ▸ hfolder) hne
  · rw [entry?_put_of_ne n hlk]
    exact hfolder

/-- Above anything there are folders. -/
lemma WellFormed.entry?_of_append (h : t.WellFormed) {r : Location} (hr : r ≠ [])
    (he : t.entry? (l ++ r) = some e) : t.entry? l = some .folder := by
  induction r using List.reverseRecOn generalizing e with
  | nil => exact absurd rfl hr
  | append_singleton r name ih =>
    rw [← List.append_assoc] at he
    have hfolder := h (l ++ r) name e he
    by_cases hnil : r = []
    · rw [hnil, List.append_nil] at hfolder
      exact hfolder
    · exact ih hnil hfolder

lemma WellFormed.entry?_dropLast (h : t.WellFormed) (hl : t.entry? l = some .folder) :
    t.entry? l.dropLast = some .folder := by
  rcases List.eq_nil_or_concat l with rfl | ⟨k, name, rfl⟩
  · exact hl
  · rw [List.concat_eq_append, List.dropLast_concat]
    rw [List.concat_eq_append] at hl
    exact h k name _ hl

/-! ## Steps -/

/-- Where a step from a folder does not lead into a folder, it is a name in that folder. -/
lemma WellFormed.next_eq (h : t.WellFormed) (hl : t.entry? l = some .folder) {step : List Char}
    (hnext : t.entry? (next l step) ≠ some .folder) : next l step = l ++ [step] := by
  rw [next] at hnext ⊢
  by_cases hdot : step = ['.']
  · rw [if_pos hdot] at hnext
    exact absurd hl hnext
  · rw [if_neg hdot] at hnext ⊢
    by_cases hdots : step = ['.', '.']
    · rw [if_pos hdots] at hnext
      exact absurd (h.entry?_dropLast hl) hnext
    · rw [if_neg hdots]

/-- What is put where a step from a folder leads lies in a folder. -/
lemma WellFormed.put_next (h : t.WellFormed) (hl : t.entry? l = some .folder) {step : List Char}
    (hnext : t.entry? (next l step) ≠ some .folder) (n : Entry) :
    (t.put (next l step) n).WellFormed := by
  refine h.put n (fun k name hk => ?_) (Or.inr hnext)
  rw [h.next_eq hl hnext] at hk
  obtain ⟨rfl, -⟩ := List.append_inj' hk rfl
  exact hl

lemma follow_cons {step : List Char} {steps : List (List Char)}
    (h : t.follow l (step :: steps) = .ok k) :
    t.entry? l = some .folder ∧ t.follow (next l step) steps = .ok k := by
  rw [follow] at h
  split at h
  · rename_i hfolder
    exact ⟨hfolder, h⟩
  · cases h
  · cases h

/-- A path leads to the same location in a larger tree. -/
lemma Extends.follow (hext : Extends t₀ t) {steps : List (List Char)}
    (h : t₀.follow l steps = .ok k) : t.follow l steps = .ok k := by
  induction steps generalizing l with
  | nil => exact h
  | cons step steps ih =>
    obtain ⟨hfolder, hrest⟩ := follow_cons h
    rw [FileTree.follow, hext l _ hfolder]
    exact ih hrest

/-- Without going back, steps lead further down. -/
lemma exists_of_follow {steps : List (List Char)} (hdots : ['.', '.'] ∉ steps)
    (h : t.follow l steps = .ok k) : ∃ r, k = l ++ r := by
  induction steps generalizing l with
  | nil =>
    cases h
    exact ⟨[], (List.append_nil _).symm⟩
  | cons step steps ih =>
    rw [List.mem_cons, not_or] at hdots
    obtain ⟨r, rfl⟩ := ih hdots.2 (follow_cons h).2
    by_cases hdot : step = ['.']
    · exact ⟨r, by rw [next, if_pos hdot]⟩
    · refine ⟨[step] ++ r, ?_⟩
      rw [next, if_neg hdot, if_neg (Ne.symm hdots.1), List.append_assoc]

/-- Steps that do not go back lead to what was there before in the same way as before. -/
lemma WellFormed.follow_of_extends (h₀ : t₀.WellFormed) (hext : Extends t₀ t)
    {steps : List (List Char)} (hdots : ['.', '.'] ∉ steps) (h : t.follow l steps = .ok k)
    {bytes : List Byte} (hfile : t₀.entry? k = some (.file bytes)) :
    t₀.follow l steps = .ok k := by
  induction steps generalizing l with
  | nil => exact h
  | cons step steps ih =>
    obtain ⟨r, rfl⟩ := exists_of_follow hdots h
    obtain ⟨hfolder, hrest⟩ := follow_cons h
    -- the location is above the file, and not the file itself
    have hfolder₀ : t₀.entry? l = some .folder := by
      by_cases hr : r = []
      · subst hr
        rw [List.append_nil] at hfile
        rw [hext _ _ hfile] at hfolder
        cases hfolder
      · exact h₀.entry?_of_append hr hfile
    rw [follow, hfolder₀]
    exact ih (fun hmem => hdots (List.mem_cons_of_mem _ hmem)) hrest

/-- Whatever else the steps are, if the last one goes back they lead to a folder. -/
lemma WellFormed.entry?_of_follow (h : t.WellFormed) {steps : List (List Char)}
    (hf : t.follow l (steps ++ [['.', '.']]) = .ok k) : t.entry? k = some .folder := by
  induction steps generalizing l with
  | nil =>
    obtain ⟨hfolder, hk⟩ := follow_cons hf
    cases hk
    exact h.entry?_dropLast hfolder
  | cons step steps ih => exact ih (follow_cons hf).2

/-- Steps lead to a root, or from a folder to where one more step leads. -/
lemma follow_cases {steps : List (List Char)} (h : t.follow l steps = .ok k) :
    k = l ∨ ∃ j step, t.entry? j = some .folder ∧ k = next j step := by
  induction steps generalizing l with
  | nil =>
    cases h
    exact Or.inl rfl
  | cons step steps ih =>
    obtain ⟨hfolder, hrest⟩ := follow_cons h
    rcases ih hrest with rfl | hlast
    · exact Or.inr ⟨l, step, hfolder, rfl⟩
    · exact Or.inr hlast

/-! ## Making folders -/

lemma makeFolders_addsFolders (t : FileTree) (l : Location) (steps : List (List Char)) :
    AddsFolders t (t.makeFolders l steps).1 := by
  fun_induction makeFolders t l steps with
  | case1 t l => exact AddsFolders.refl t
  | case2 t l step steps l' hfolder ih => exact ih
  | case3 t l step steps l' bytes hfile => exact AddsFolders.refl t
  | case4 t l step steps l' hnone ih =>
    refine AddsFolders.trans (fun k => ?_) ih
    by_cases hk : l' = k
    · subst hk
      refine Or.inr ⟨hnone, ?_⟩
      rw [entry?_put, if_pos rfl, ite_self]
    · exact Or.inl (entry?_put_of_ne _ hk)

lemma createFolders_addsFolders (t : FileTree) (p : Path) : AddsFolders t (t.createFolders p).1 :=
  makeFolders_addsFolders t p.start p.steps

lemma WellFormed.makeFolders (h : t.WellFormed) (hl : t.entry? l = some .folder)
    (steps : List (List Char)) : (t.makeFolders l steps).1.WellFormed := by
  fun_induction FileTree.makeFolders t l steps with
  | case1 t l => exact h
  | case2 t l step steps l' hfolder ih => exact ih h hfolder
  | case3 t l step steps l' bytes hfile => exact h
  | case4 t l step steps l' hnone ih =>
    have hnot : t.entry? (next l step) ≠ some .folder := by
      rw [show t.entry? (next l step) = none from hnone]
      exact nofun
    refine ih (h.put_next hl hnot .folder) ?_
    rw [entry?_put, if_pos rfl, ite_self]

lemma WellFormed.createFolders (h : t.WellFormed) (p : Path) :
    (t.createFolders p).1.WellFormed :=
  h.makeFolders (entry?_of_isRoot (isRoot_start p)) p.steps

/-! ## Writing -/

lemma writable_eq_ok (h : t.writable p = .ok l) :
    t.locate p = .ok l ∧ t.entry? l ≠ some .folder ∧ p.endsInSlash = false := by
  rw [writable] at h
  cases hlocate : t.locate p with
  | error e =>
    rw [hlocate] at h
    cases h
  | ok l' =>
    simp only [hlocate, bind, Except.bind] at h
    cases hslash : p.endsInSlash with
    | true =>
      rw [hslash] at h
      split at h <;> cases h
    | false =>
      rw [hslash] at h
      split at h
      · cases h
      · rename_i hentry
        cases h
        exact ⟨rfl, by rw [hentry]; exact nofun, rfl⟩
      · rename_i hentry
        cases h
        exact ⟨rfl, by rw [hentry]; exact nofun, rfl⟩

/-- Writing fails and changes nothing, or puts the bytes where the path leads. -/
lemma write_cases (t : FileTree) (p : Path) (bytes : List Byte) :
    (∃ e, t.write p bytes = (t, .error e)) ∨
      ∃ l, t.writable p = .ok l ∧ t.write p bytes = (t.put l (.file bytes), .ok ()) := by
  rw [write]
  cases hl : t.writable p with
  | error e => exact Or.inl ⟨e, rfl⟩
  | ok l => exact Or.inr ⟨l, rfl, rfl⟩

lemma locate_eq_ok (h : t.locate p = .ok l) : t.follow p.start p.steps = .ok l := by
  rw [locate] at h
  split at h
  · cases h
  · exact h

lemma locate_of_follow (hne : p.chars.isEmpty = false) (h : t.follow p.start p.steps = .ok l) :
    t.locate p = .ok l := by
  rw [locate, hne]
  exact h

lemma WellFormed.put_of_writable (h : t.WellFormed) (hl : t.writable p = .ok l) (n : Entry) :
    (t.put l n).WellFormed := by
  obtain ⟨hlocate, hnot, -⟩ := writable_eq_ok hl
  rcases follow_cases (locate_eq_ok hlocate) with rfl | ⟨j, step, hfolder, rfl⟩
  · exact absurd (entry?_of_isRoot (isRoot_start p)) hnot
  · exact h.put_next hfolder hnot n

/-- The last step of a path that is a name in a folder. -/
lemma steps_append {dir : List Char} (hd : Path.IsFolder dir) (name : List Char)
    (hname : '/' ∉ name) (hne : name ≠ []) :
    ∃ steps, Path.steps ⟨dir ++ name⟩ = steps ++ [name] := by
  have hlast : ((Text.splitChars '/' name).filter fun part => !part.isEmpty) = [name] := by
    rw [Text.splitChars_of_not_mem hname]
    exact List.filter_cons_of_pos (by simpa using hne)
  rcases hd with rfl | ⟨d, rfl⟩
  · exact ⟨[], hlast⟩
  · refine ⟨Path.steps ⟨d⟩, ?_⟩
    rw [Path.steps, List.append_assoc, List.singleton_append, Text.splitChars_append,
      List.filter_append, hlast, Path.steps]

/-- A path that ends in two dots leads to a folder, so it cannot be written. -/
lemma WellFormed.writable_dots_ne_ok (h : t.WellFormed) {dir : List Char}
    (hd : Path.IsFolder dir) : t.writable ⟨dir ++ ['.', '.']⟩ ≠ .ok l := by
  intro hl
  obtain ⟨hlocate, hnot, -⟩ := writable_eq_ok hl
  obtain ⟨steps, hsteps⟩ := steps_append hd ['.', '.'] (by decide) (by decide)
  have hfollow := locate_eq_ok hlocate
  rw [hsteps] at hfollow
  exact hnot (h.entry?_of_follow hfollow)

/-- A path leads to the file at its location, unless it is written as that of a folder. -/
lemma kind?_of_locate {bytes : List Byte} (hlocate : t.locate p = .ok l)
    (hfile : t.entry? l = some (.file bytes)) (hslash : p.endsInSlash = false) :
    t.kind? p = some (.file bytes.length) := by
  have hget : t.get p = .ok (l, .file bytes) := by
    simp only [get, hlocate, bind, Except.bind, hfile, hslash]
    rfl
  rw [kind?, hget]
  rfl

/-- **A path that led nowhere is written where nothing was,** if it does not go back on its way,
or does so through folders that were there. -/
lemma WellFormed.entry?_eq_none_of_writable (h₀ : t₀.WellFormed) (ht : t.WellFormed)
    (hext : Extends t₀ t) (hfree : t₀.kind? p = none)
    (hway : p.IsStraight ∨ ∃ l, t₀.locate p = .ok l) (hl : t.writable p = .ok l) :
    t₀.entry? l = none := by
  obtain ⟨hlocate, hnot, hslash⟩ := writable_eq_ok hl
  have hfollow := locate_eq_ok hlocate
  cases he : t₀.entry? l with
  | none => rfl
  | some e =>
    cases e with
    | folder => exact absurd (hext l _ he) hnot
    | file bytes =>
      -- the path led to the file before, which is against its having led nowhere
      suffices hlocate₀ : t₀.locate p = .ok l by
        rw [kind?_of_locate hlocate₀ he hslash] at hfree
        cases hfree
      have hne : p.chars.isEmpty = false := by
        rw [locate] at hlocate
        cases hempty : p.chars.isEmpty with
        | false => rfl
        | true =>
          rw [hempty] at hlocate
          cases hlocate
      rcases hway with hstraight | ⟨l', hl'⟩
      · -- the path goes back nowhere: not at its end either, since it leads to no folder
        refine locate_of_follow hne (h₀.follow_of_extends hext (fun hmem => ?_) hfollow he)
        rcases List.eq_nil_or_concat p.steps with hnil | ⟨steps, last, hsteps⟩
        · rw [hnil] at hmem
          cases hmem
        · rw [List.concat_eq_append] at hsteps
          rw [Path.IsStraight, hsteps, List.dropLast_concat] at hstraight
          rw [hsteps, List.mem_append, List.mem_singleton] at hmem
          rcases hmem with hmem | rfl
          · exact hstraight hmem
          · rw [hsteps] at hfollow
            exact hnot (ht.entry?_of_follow hfollow)
      · have hsame := hext.follow (locate_eq_ok hl')
        rw [hfollow] at hsame
        cases hsame
        exact hl'

end FileTree

end Raster
