import Raster.Proofs.CommandLine.Writes
import Raster.Proofs.Files.Tree
/-!
# What a run does to the files

A run that writes anything has loaded, computed, planned and looked everything up before
(`run_cases`).  After that it only makes folders and writes, and whether a file can be saved does
not depend on the file (`OneFormat.refused_or_saved`).  So a run that fails leaves all files as
they are, unless a folder cannot be made or a file not be encoded or written.

A run that may not replace files keeps what was there, if no planned path goes back through a
folder that is missing.  A path that does leads nowhere when it is looked up, and somewhere once
the folder has been made.

None of this depends on the library that encodes and decodes pictures, or on the one for documents.
-/

namespace Raster.CommandLine

open Raster.Path

variable {α β : Type} {s : Settings} {f : FileFormat} {w : PlannedWrite}
  {writes : List PlannedWrite} {I : FileTree → Prop}

/-- Whether a run fails in making a folder, or in encoding or writing a file. -/
def RunFailure.isOutputTrouble : RunFailure → Bool
  | .notCreated _ _ => true
  | .notSaved _ (.encode _) => true
  | .notSaved _ (.write _ _) => true
  | _ => false

/-! ## Parts of a run -/

/-- A part of a run that keeps an invariant of the files. -/
def Keeps (I : FileTree → Prop) (x : Part InMemory α) : Prop :=
  ∀ σ : Session, I σ.files → I (x.run.run σ).2.files

/-- A part of a run that fails only in making a folder, or in encoding or writing a file. -/
def FailsInOutput (x : Part InMemory α) : Prop :=
  ∀ σ e, (x.run.run σ).1 = .error e → e.isOutputTrouble = true

lemma keeps_of_keepsFiles {x : Part InMemory α} (h : KeepsFiles x.run) : Keeps I x := by
  intro σ hσ
  rw [h σ]
  exact hσ

lemma Keeps.bind {x : Part InMemory α} {next : α → Part InMemory β} (hx : Keeps I x)
    (hnext : ∀ a, Keeps I (next a)) : Keeps I (x >>= next) := by
  intro σ hσ
  have hfirst := hx σ hσ
  rw [run_bind]
  split
  · rename_i a σ' heq
    rw [heq] at hfirst
    exact hnext a σ' hfirst
  · rename_i e σ' heq
    rw [heq] at hfirst
    exact hfirst

lemma Keeps.forM {x : α → Part InMemory Unit} {l : List α} (h : ∀ a ∈ l, Keeps I (x a)) :
    Keeps I (l.forM x) := by
  induction l with
  | nil => exact keeps_of_keepsFiles (KeepsFiles.pure _)
  | cons a l ih =>
    rw [List.forall_mem_cons] at h
    exact h.1.bind fun _ => ih h.2

lemma FailsInOutput.bind {x : Part InMemory α} {next : α → Part InMemory β} (hx : FailsInOutput x)
    (hnext : ∀ a, FailsInOutput (next a)) : FailsInOutput (x >>= next) := by
  intro σ e he
  rw [run_bind] at he
  split at he
  · rename_i a σ' heq
    exact hnext a σ' e he
  · rename_i e' σ' heq
    cases he
    exact hx σ e (by rw [heq])

lemma FailsInOutput.pure (a : α) : FailsInOutput (Pure.pure a : Part InMemory α) := by
  intro σ e he
  cases he

lemma FailsInOutput.forM {x : α → Part InMemory Unit} {l : List α}
    (h : ∀ a ∈ l, FailsInOutput (x a)) : FailsInOutput (l.forM x) := by
  induction l with
  | nil => exact FailsInOutput.pure ()
  | cons a l ih =>
    rw [List.forall_mem_cons] at h
    exact h.1.bind fun _ => ih h.2

lemma failsInOutput_say (line : String) : FailsInOutput (say line : Part InMemory Unit) := by
  intro σ e he
  cases he

/-! ## Making folders -/

/-- A file's folder is made, or some of the folders that it lies in. -/
lemma createParent_cases (path : Path) (σ : Session) :
    ((createParent path : Part InMemory Unit).run.run σ = (.ok (), σ)) ∨
      ∃ folder, (createParent path : Part InMemory Unit).run.run σ =
        ((σ.files.createFolders folder).2.mapError (.notCreated folder),
          { σ with files := (σ.files.createFolders folder).1 }) := by
  rw [createParent]
  split
  · rename_i folder hfolder
    split
    · exact Or.inl rfl
    · exact Or.inr ⟨folder, rfl⟩
  · exact Or.inl rfl

lemma failsInOutput_createParent (path : Path) :
    FailsInOutput (createParent path : Part InMemory Unit) := by
  intro σ e he
  rcases createParent_cases path σ with hok | ⟨folder, hmade⟩
  · rw [hok] at he
    cases he
  · rw [hmade] at he
    cases hresult : (σ.files.createFolders folder).2 with
    | ok u =>
      rw [hresult] at he
      cases he
    | error cause =>
      rw [hresult] at he
      cases he
      rfl

/-- An invariant that new folders do not break. -/
lemma keeps_createParent (hI : ∀ t folder, I t → I (t.createFolders folder).1) (path : Path) :
    Keeps I (createParent path : Part InMemory Unit) := by
  intro σ hσ
  rcases createParent_cases path σ with hok | ⟨folder, hmade⟩
  · rw [hok]
    exact hσ
  · rw [hmade]
    exact hI _ folder hσ

/-! ## Writing -/

section

variable [Coding]

/-- Saving a planned file fails and changes nothing, or puts bytes where the path leads; the path
is the planned one, or ends in two dots. -/
lemma IsSaved.save_cases (h : IsSaved s w) (σ : Session) :
    ∃ path, (path = w.path ∨ ∃ dir, IsFolder dir ∧ path = ⟨dir ++ ['.', '.']⟩) ∧
      ((∃ failure : Failure, RunFailure.isOutputTrouble (.notSaved w.path failure) = true ∧
        (orReport (.notSaved w.path) (Matcher.standard.saveImages w.images w.path s.format
          s.savingOptions) : Part InMemory Path).run.run σ =
            (.error (.notSaved w.path failure), σ)) ∨
        ∃ l bytes, σ.files.writable path = .ok l ∧
          (orReport (.notSaved w.path) (Matcher.standard.saveImages w.images w.path s.format
            s.savingOptions) : Part InMemory Path).run.run σ =
              (.ok path, { σ with files := σ.files.put l (.file bytes) })) := by
  obtain ⟨path, encoded, hpath, hsave⟩ := h
  refine ⟨path, hpath, ?_⟩
  rw [hsave]
  cases encoded with
  | none => exact Or.inl ⟨.encode path.text, rfl, rfl⟩
  | some bytes =>
    have hrun : (orReport (.notSaved w.path)
        (do return (← writeEncoded path (some bytes)).map fun () => path) :
          Part InMemory Path).run.run σ =
            (Except.mapError (.notSaved w.path)
              (Except.map (fun () => path)
                (Except.mapError (fun e => .write path.text (some e))
                  (σ.files.write path bytes).2)),
              { σ with files := (σ.files.write path bytes).1 }) := rfl
    rw [hrun]
    rcases σ.files.write_cases path bytes with ⟨e, he⟩ | ⟨l, hl, hput⟩
    · rw [he]
      exact Or.inl ⟨.write path.text (some e), rfl, rfl⟩
    · rw [hput]
      exact Or.inr ⟨l, bytes, hl, rfl⟩

lemma failsInOutput_writePlanned (h : IsSaved s w) :
    FailsInOutput (writePlanned Matcher.standard s w : Part InMemory Unit) := by
  refine (failsInOutput_createParent w.path).bind fun _ => FailsInOutput.bind ?_ fun _ =>
    FailsInOutput.pure ()
  intro σ e he
  obtain ⟨path, -, ⟨failure, htrouble, hfailed⟩ | ⟨l, bytes, -, hput⟩⟩ := h.save_cases σ
  · rw [hfailed] at he
    cases he
    exact htrouble
  · rw [hput] at he
    cases he

/-- If saving is refused, only folders are made. -/
lemma IsRefused.keeps_writePlanned (h : IsRefused s w)
    (hI : ∀ t folder, I t → I (t.createFolders folder).1) :
    Keeps I (writePlanned Matcher.standard s w : Part InMemory Unit) := by
  refine (keeps_createParent hI w.path).bind fun _ => Keeps.bind ?_ fun _ =>
    keeps_of_keepsFiles (KeepsFiles.pure _)
  obtain ⟨cause, hcause⟩ := h
  rw [hcause]
  exact keeps_of_keepsFiles (keepsFiles_orReport _ (KeepsFiles.pure _))

lemma IsSaved.keeps_writePlanned (h : IsSaved s w)
    (hI : ∀ t folder, I t → I (t.createFolders folder).1)
    (hput : ∀ t path l bytes, (path = w.path ∨ ∃ dir, IsFolder dir ∧ path = ⟨dir ++ ['.', '.']⟩) →
      t.writable path = .ok l → I t → I (t.put l (.file bytes))) :
    Keeps I (writePlanned Matcher.standard s w : Part InMemory Unit) := by
  refine (keeps_createParent hI w.path).bind fun _ => Keeps.bind ?_ fun _ =>
    keeps_of_keepsFiles (KeepsFiles.pure _)
  intro σ hσ
  obtain ⟨path, hpath, ⟨failure, -, hfailed⟩ | ⟨l, bytes, hl, hdone⟩⟩ := h.save_cases σ
  · rw [hfailed]
    exact hσ
  · rw [hdone]
    exact hput σ.files path l bytes hpath hl hσ

/-- What follows the writing of all planned files is a message. -/
lemma keeps_writeAll (h : ∀ w ∈ writes,
    Keeps I (writePlanned Matcher.standard s w : Part InMemory Unit)) :
    Keeps I (writeAll Matcher.standard s writes : Part InMemory Unit) :=
  (Keeps.forM h).bind fun _ => keeps_of_keepsFiles (keepsFiles_say _)

/-- **Files that are planned in one format are written, or none of them is touched.**  Writing them
all fails in making a folder, or in encoding or writing a file, or it only adds folders. -/
lemma OneFormat.writeAll_cases (h : OneFormat s.format f writes) :
    FailsInOutput (writeAll Matcher.standard s writes : Part InMemory Unit) ∨
      ∀ t₀, Keeps (FileTree.AddsFolders t₀)
        (writeAll Matcher.standard s writes : Part InMemory Unit) := by
  rcases h.refused_or_saved with hrefused | hsaved
  · refine Or.inr fun t₀ => keeps_writeAll fun w hw => (hrefused w hw).keeps_writePlanned ?_
    exact fun t folder ht => ht.trans (t.createFolders_addsFolders folder)
  · refine Or.inl (FailsInOutput.bind (FailsInOutput.forM fun w hw => ?_) fun _ =>
      failsInOutput_say _)
    exact failsInOutput_writePlanned (hsaved w hw)

/-- Files that were there stay if all planned paths led nowhere, and none goes back through a
folder that was missing. -/
lemma OneFormat.keeps_writeAll {t₀ : FileTree} (h : OneFormat s.format f writes)
    (h₀ : t₀.WellFormed) (hfree : ∀ w ∈ writes, t₀.kind? w.path = none)
    (hway : ∀ w ∈ writes, w.path.IsStraight ∨ ∃ l, t₀.locate w.path = .ok l) :
    Keeps (fun t => t.WellFormed ∧ FileTree.Extends t₀ t)
      (writeAll Matcher.standard s writes : Part InMemory Unit) := by
  have hfolders : ∀ (t : FileTree) (folder : Path), t.WellFormed ∧ FileTree.Extends t₀ t →
      (t.createFolders folder).1.WellFormed ∧ FileTree.Extends t₀ (t.createFolders folder).1 :=
    fun t folder ht => ⟨ht.1.createFolders folder,
      ht.2.trans (t.createFolders_addsFolders folder).toExtends⟩
  refine CommandLine.keeps_writeAll fun w hw => ?_
  rcases h.refused_or_saved with hrefused | hsaved
  · exact (hrefused w hw).keeps_writePlanned hfolders
  · refine (hsaved w hw).keeps_writePlanned hfolders fun t path l bytes hpath hl ht => ?_
    rcases hpath with rfl | ⟨dir, hdir, rfl⟩
    · -- the file goes where the planned path leads, and nothing was there
      have hnew := h₀.entry?_eq_none_of_writable ht.1 ht.2 (hfree w hw) (hway w hw) hl
      exact ⟨ht.1.put_of_writable hl _, ht.2.put hnew _⟩
    · -- two dots lead to a folder, which is not written
      exact absurd hl (ht.1.writable_dots_ne_ok hdir)

/-! ## Whole runs -/

omit [Coding] in
/-- Looking up the planned files leaves them as they are, and if it does not fail then none of
them is there. -/
lemma checkFree_eq_ok {writes : List PlannedWrite} {σ : Session}
    (h : ((checkFree writes : Part InMemory Unit).run.run σ).1 = .ok ()) :
    ∀ w ∈ writes, σ.files.kind? w.path = none := by
  induction writes with
  | nil => simp
  | cons w writes ih =>
    have hlook : (ExceptT.lift (FileAccess.exists? w.path) : Part InMemory Bool).run.run σ =
        (.ok (σ.files.kind? w.path).isSome, σ) := rfl
    rw [checkFree, run_bind, hlook] at h
    dsimp only at h
    cases hkind : σ.files.kind? w.path with
    | some kind =>
      rw [hkind] at h
      cases h
    | none =>
      rw [hkind] at h
      rw [List.forall_mem_cons]
      exact ⟨hkind, ih h⟩

/-- Carrying out a plan fails when the planned files are looked up, or writes them all. -/
lemma carryOut_cases (s : Settings) (writes : List PlannedWrite) (σ : Session) :
    (((carryOut Matcher.standard s writes : Part InMemory Unit).run.run σ).2.files = σ.files) ∨
      (s.allowOverride = false → ∀ w ∈ writes, σ.files.kind? w.path = none) ∧
        ∃ σ' : Session, σ'.files = σ.files ∧
          (carryOut Matcher.standard s writes : Part InMemory Unit).run.run σ =
            (writeAll Matcher.standard s writes : Part InMemory Unit).run.run σ' := by
  rw [carryOut]
  cases s.allowOverride with
  | true => exact Or.inr ⟨nofun, σ, rfl, rfl⟩
  | false =>
    have hkeeps := keepsFiles_checkFree writes σ
    simp only [Bool.not_false, if_true]
    rw [run_bind]
    split
    · rename_i u σ' heq
      rw [heq] at hkeeps
      exact Or.inr ⟨fun _ => checkFree_eq_ok (by rw [heq]), σ', hkeeps, rfl⟩
    · rename_i e σ' heq
      rw [heq] at hkeeps
      exact Or.inl hkeeps

/-- A run with some arguments, in a session: it has the settings `s`, and what it has loaded and
computed is to be written as `writes`. -/
structure Plans [JsonLibrary] (transform : LineTransform) (a : Arguments) (σ : Session) (input output : Path)
    (s : Settings) (writes : List PlannedWrite) : Prop where
  input_eq : a.input = some input
  output_eq : a.output = some output
  settings_eq : ((Settings.load a : InMemory _).run σ).1 = .ok s
  printInfo_eq : s.printInfo = false
  /-- For what is in a folder the format is named. -/
  format : σ.files.kind? input = some .folder → s.format ≠ none
  plan_eq : ((plan transform Matcher.standard s (σ.files.kind? input == some .folder) input
    output : Part InMemory (List PlannedWrite)).run.run σ).1 = .ok writes

/-- A file gives one image. -/
lemma exists_of_loadImages {path : Path} {o : Options} {σ : Session} {images : List Labelled}
    (h : ((Matcher.standard.loadImages path none none o : InMemory _).run σ).1 = .ok images) :
    ∃ i, images = [i] := by
  have hmap : Except.map (fun image => [⟨path.loadingLabel none, image⟩])
      ((Matcher.standard.askFormats path none o fun f => f.load path :
        InMemory (Except Failure Image)).run σ).1 = .ok images := h
  cases hload : ((Matcher.standard.askFormats path none o fun f => f.load path :
      InMemory (Except Failure Image)).run σ).1 with
  | error e =>
    rw [hload] at hmap
    cases hmap
  | ok image =>
    rw [hload] at hmap
    cases hmap
    exact ⟨_, rfl⟩

/-- An input that is no folder gives one group of one image. -/
lemma exists_of_loadGroups {s : Settings} {input : Path} {σ : Session}
    {groups : List (List Labelled)}
    (h : ((loadGroups Matcher.standard s false input :
      Part InMemory (List (List Labelled))).run.run σ).1 = .ok groups) : ∃ i, groups = [[i]] := by
  rw [loadGroups, if_neg (by simp), run_bind] at h
  split at h
  · rename_i images σ' hreport
    cases h
    have hmap : Except.mapError RunFailure.failed
        ((Matcher.standard.loadImages input none none s.loadingOptions : InMemory _).run σ).1 =
          .ok images := congrArg Prod.fst hreport
    cases hload : ((Matcher.standard.loadImages input none none s.loadingOptions :
        InMemory _).run σ).1 with
    | error e =>
      rw [hload] at hmap
      cases hmap
    | ok images' =>
      rw [hload] at hmap
      cases hmap
      obtain ⟨i, rfl⟩ := exists_of_loadImages hload
      exact ⟨i, rfl⟩
  · cases h

/-- What is planned comes from groups of images; an input that is no folder gives one image. -/
lemma exists_groups_of_plan {transform : LineTransform} {s : Settings} {isFolder : Bool}
    {input output : Path} {σ : Session} {writes : List PlannedWrite}
    (h : ((plan transform Matcher.standard s isFolder input output :
      Part InMemory (List PlannedWrite)).run.run σ).1 = .ok writes) :
    ∃ groups, planGroups transform Matcher.standard s isFolder output groups = .ok writes ∧
      (isFolder = false → ∃ i, groups = [[i]]) := by
  rw [plan, run_bind] at h
  split at h
  · rename_i groups σ' hgroups
    refine ⟨groups, ?_, ?_⟩
    · have hplan : Except.mapError id
          (planGroups transform Matcher.standard s isFolder output groups) = .ok writes := h
      cases hw : planGroups transform Matcher.standard s isFolder output groups with
      | error e =>
        rw [hw] at hplan
        cases hplan
      | ok writes' =>
        rw [hw] at hplan
        cases hplan
        rfl
    · rintro rfl
      exact exists_of_loadGroups (by rw [hgroups])
  · cases h

/-- The files of a plan have one format. -/
lemma Plans.exists_oneFormat [JsonLibrary] {transform : LineTransform} {a : Arguments} {σ : Session}
    {input output : Path} {s : Settings} {writes : List PlannedWrite}
    (h : Plans transform a σ input output s writes) : ∃ f, OneFormat s.format f writes := by
  obtain ⟨groups, hgroups, hone⟩ := exists_groups_of_plan h.plan_eq
  refine CommandLine.exists_oneFormat hgroups fun hnone => hone ?_
  rw [beq_eq_false_iff_ne]
  exact fun hfolder => h.format hfolder hnone

omit [Coding] in
/-- Reading the settings leaves the session as it is. -/
lemma loadSettings_session [JsonLibrary] (a : Arguments) (σ : Session) :
    ((Settings.load a : InMemory _).run σ).2 = σ := by
  rw [Settings.load]
  split
  · rfl
  · rename_i name hname
    have hread : (FileAccess.read (Path.ofString name) : InMemory _).run σ =
        (σ.files.read (Path.ofString name), σ) := rfl
    rw [StateT.run_bind, hread]
    cases σ.files.read (Path.ofString name) with
    | ok bytes => rfl
    | error e => rfl

/-- Converting leaves the files as they are, or it carries out a plan. -/
lemma convert_cases (transform : LineTransform) (s : Settings) (isFolder : Bool)
    (input output : Path) (σ : Session) :
    ((convert transform Matcher.standard s isFolder input output :
      Part InMemory Unit).run.run σ).2.files = σ.files ∨
      ∃ writes, ((plan transform Matcher.standard s isFolder input output :
        Part InMemory (List PlannedWrite)).run.run σ).1 = .ok writes ∧ ∃ σ' : Session,
          σ'.files = σ.files ∧
            (convert transform Matcher.standard s isFolder input output :
              Part InMemory Unit).run.run σ =
                (carryOut Matcher.standard s writes : Part InMemory Unit).run.run σ' := by
  have hkeeps := keepsFiles_plan Matcher.standard s transform isFolder input output σ
  rw [convert, run_bind]
  split
  · rename_i writes σ' hplan
    rw [hplan] at hkeeps
    exact Or.inr ⟨writes, by rw [hplan], σ', hkeeps, rfl⟩
  · rename_i e σ' hplan
    rw [hplan] at hkeeps
    exact Or.inl hkeeps

/-- Work on an input leaves the files as they are, or it carries out a plan. -/
lemma process_cases [JsonLibrary] (transform : LineTransform) (a : Arguments) {input : Path}
    (hinput : a.input = some input) (σ : Session) :
    ((process transform Matcher.standard a input : Part InMemory Unit).run.run σ).2.files =
        σ.files ∨
      ∃ output s writes, Plans transform a σ input output s writes ∧ ∃ σ' : Session,
        σ'.files = σ.files ∧
          (process transform Matcher.standard a input : Part InMemory Unit).run.run σ =
            (carryOut Matcher.standard s writes : Part InMemory Unit).run.run σ' := by
  have hexists : (ExceptT.lift (FileAccess.exists? input) : Part InMemory Bool).run.run σ =
      (.ok (σ.files.kind? input).isSome, σ) := rfl
  have hfolder : (ExceptT.lift (FileAccess.isFolder input) : Part InMemory Bool).run.run σ =
      (.ok (σ.files.kind? input == some .folder), σ) := rfl
  have hload : (orReport id (Settings.load a) : Part InMemory Settings).run.run σ =
      (((Settings.load a : InMemory _).run σ).1.mapError id, σ) := by
    refine Prod.ext rfl ?_
    exact loadSettings_session a σ
  -- whatever is checked before the conversion ends the run when it fails
  rw [process, run_bind, hexists]
  dsimp only
  split
  · exact Or.inl rfl
  · rw [run_bind, hload]
    cases hs : ((Settings.load a : InMemory _).run σ).1 with
    | error e => exact Or.inl rfl
    | ok s =>
      dsimp only [Except.mapError]
      rw [run_bind, hfolder]
      dsimp only
      split
      · exact Or.inl rfl
      · split
        · exact Or.inl (keepsFiles_printInput _ _ _ _ σ)
        · rename_i hprint
          split
          · exact Or.inl rfl
          · rename_i output houtput
            split
            · exact Or.inl rfl
            · rename_i hformat
              rcases convert_cases transform s (σ.files.kind? input == some .folder) input output σ
                with hsame | ⟨writes, hplan, σ', hσ', hcarried⟩
              · exact Or.inl hsame
              · have hnamed : σ.files.kind? input = some .folder → s.format ≠ none := by
                  intro hdir hnone
                  simp [hdir, hnone] at hformat
                exact Or.inr ⟨output, s, writes,
                  ⟨hinput, houtput, hs, by simpa using hprint, hnamed, hplan⟩, σ', hσ', hcarried⟩

/-- **What a run does:** it leaves the files as they are, or it has a plan and writes all of it;
if it may not replace files, then no planned file is there. -/
lemma run_cases [JsonLibrary] (transform : LineTransform) (a : Arguments) (σ : Session) :
    ((run transform Matcher.standard a : Part InMemory Unit).run.run σ).2.files = σ.files ∨
      ∃ input output s writes, Plans transform a σ input output s writes ∧
        (s.allowOverride = false → ∀ w ∈ writes, σ.files.kind? w.path = none) ∧
        ∃ σ' : Session, σ'.files = σ.files ∧
          (run transform Matcher.standard a : Part InMemory Unit).run.run σ =
            (writeAll Matcher.standard s writes : Part InMemory Unit).run.run σ' := by
  rw [run]
  split
  · exact Or.inl (keepsFiles_printNames σ)
  · split
    · exact Or.inl (keepsFiles_printFormat _ σ)
    · exact Or.inl (keepsFiles_printAlgorithm _ σ)
    · rename_i input _ _ hinput
      rcases process_cases transform a hinput σ with
        hsame | ⟨output, s, writes, hplans, σ', hσ', hcarried⟩
      · exact Or.inl hsame
      · rw [hcarried]
        rcases carryOut_cases s writes σ' with hsame | ⟨hfree, σ'', hσ'', hwritten⟩
        · exact Or.inl (hsame.trans hσ')
        · refine Or.inr ⟨input, output, s, writes, hplans, ?_, σ'', hσ''.trans hσ', hwritten⟩
          rw [hσ'] at hfree
          exact hfree
    · exact Or.inl rfl

/-- **When a run spares the files.**  A run that fails adds folders at most, unless it fails in
making a folder, or in encoding or writing a file.  A run that may not replace files keeps all that
was there, however it ends, if everything lies in a folder and no planned path goes back, except at
its end, or any that does led somewhere before.  The libraries for pictures and documents may be
any. -/
theorem run_spares_files [JsonLibrary] (transform : LineTransform) (a : Arguments) (σ : Session) :
    (∀ e, ((run transform Matcher.standard a : Part InMemory Unit).run.run σ).1 = .error e →
      e.isOutputTrouble = false →
        FileTree.AddsFolders σ.files
          ((run transform Matcher.standard a : Part InMemory Unit).run.run σ).2.files) ∧
    (σ.files.WellFormed →
      (∀ input output s writes, Plans transform a σ input output s writes →
        s.allowOverride = false ∧
          ∀ w ∈ writes, w.path.IsStraight ∨ ∃ l, σ.files.locate w.path = .ok l) →
      FileTree.Extends σ.files
        ((run transform Matcher.standard a : Part InMemory Unit).run.run σ).2.files) := by
  -- the only runs that do anything to the files are those that write a whole plan
  rcases run_cases transform a σ with
    hsame | ⟨input, output, s, writes, hplans, hfree, σ', hσ', hwritten⟩
  · rw [hsame]
    exact ⟨fun _ _ _ => FileTree.AddsFolders.refl _, fun _ _ => FileTree.Extends.refl _⟩
  · obtain ⟨f, hone⟩ := hplans.exists_oneFormat
    rw [hwritten]
    constructor
    · intro e he hother
      -- a failure that is no trouble with the output is a refusal, and then no file is written
      rcases hone.writeAll_cases with hfails | hkeeps
      · rw [hfails σ' e he] at hother
        cases hother
      · refine hkeeps σ.files σ' ?_
        rw [hσ']
        exact FileTree.AddsFolders.refl _
    · intro hwell hall
      obtain ⟨hoverride, hway⟩ := hall input output s writes hplans
      have hkeeps := hone.keeps_writeAll hwell (hfree hoverride) hway
      refine (hkeeps σ' ?_).2
      rw [hσ']
      exact ⟨hwell, FileTree.Extends.refl _⟩

end

/-- A file of one pixel. -/
def pixelFile : List Byte :=
  (FileFormat.png.fileBytes [Image.zeros (.gray .eight) [1, 1]] .empty
    (FileFormat.png.savingSchema.finalize .empty)).toOption.getD []

/-- A session with that file and an empty one. -/
def twoFiles : Session :=
  ⟨⟨[(["in.png".toList], .file pixelFile), (["old.png".toList], .file [])]⟩, []⟩

/-- The arguments for saving the pixel elsewhere. -/
def copyTo (output : String) : Arguments :=
  { input := some (ofString "in.png"), output := some (ofString output) }

/-- The pixel does not replace the other file, and it goes to a new file in a new folder; but it
replaces the other file under a path that goes back from a missing folder. -/
theorem run_spares_files_two_files :
    (∃ e, ((run .direct Matcher.standard (copyTo "old.png") : Part InMemory Unit).run.run
        twoFiles).1 = .error e ∧ FileTree.AddsFolders twoFiles.files
          ((run .direct Matcher.standard (copyTo "old.png") : Part InMemory Unit).run.run
            twoFiles).2.files) ∧
    FileTree.Extends twoFiles.files
      ((run .direct Matcher.standard (copyTo "new/a.png") : Part InMemory Unit).run.run
        twoFiles).2.files ∧
    ((run .direct Matcher.standard (copyTo "new/../old.png") : Part InMemory Unit).run.run
      twoFiles).2.files.file? ["old.png".toList] ≠ twoFiles.files.file? ["old.png".toList] := by
  refine ⟨?_, ?_, by decide +kernel⟩
  · cases hrun : ((run .direct Matcher.standard (copyTo "old.png") : Part InMemory Unit).run.run
        twoFiles).1 with
    | ok u =>
      have hfails : ((run .direct Matcher.standard (copyTo "old.png") :
          Part InMemory Unit).run.run twoFiles).1.toOption = none := by decide +kernel
      rw [hrun] at hfails
      cases hfails
    | error e =>
      have hother : ((run .direct Matcher.standard (copyTo "old.png") :
          Part InMemory Unit).run.run twoFiles).1.mapError RunFailure.isOutputTrouble =
            .error false := by decide +kernel
      rw [hrun] at hother
      exact ⟨e, rfl, (run_spares_files .direct (copyTo "old.png") twoFiles).1 e hrun
        (Except.error.inj hother)⟩
  · refine (run_spares_files .direct (copyTo "new/a.png") twoFiles).2
      (FileTree.wellFormed_of_forall (by decide)) ?_
    intro input output s writes hplans
    have hinput : some (ofString "in.png") = some input := hplans.input_eq
    have houtput : some (ofString "new/a.png") = some output := hplans.output_eq
    have hsettings : (.ok {} : Except RunFailure Settings) = .ok s := hplans.settings_eq
    cases hinput
    cases houtput
    cases hsettings
    have hpaths : (((plan .direct Matcher.standard {}
        (twoFiles.files.kind? (ofString "in.png") == some .folder) (ofString "in.png")
        (ofString "new/a.png") : Part InMemory (List PlannedWrite)).run.run
          twoFiles).1.toOption.map (List.map PlannedWrite.path)) =
            some [ofString "new/a.png"] := by decide +kernel
    rw [hplans.plan_eq] at hpaths
    refine ⟨rfl, fun w hw => Or.inl ?_⟩
    have hpath : w.path ∈ writes.map PlannedWrite.path := List.mem_map_of_mem hw
    rw [Option.some.inj hpaths, List.mem_singleton] at hpath
    rw [hpath]
    decide

end Raster.CommandLine
