import Raster.Files.Session
import Raster.Proofs.Files.Tree
import Raster.Proofs.Path.Settled
/-!
# Reading a file that was written

A path that can be written leads to the same location afterwards, and there it reads what was
written (`read_put`).  Such a path ends in a name (`fileName?_ne_none_of_writable`): all others
lead to a folder, since every location on the way lies in folders.
-/

namespace Raster

namespace FileTree

variable {t : FileTree} {l k : Location} {p : Path}

/-! ## Reading -/

/-- What is put where no folder is changes no way. -/
lemma follow_put (hnot : t.entry? l ≠ some .folder) (n : Entry) {j : Location}
    {steps : List (List Char)} (h : t.follow j steps = .ok k) :
    (t.put l n).follow j steps = .ok k := by
  induction steps generalizing j with
  | nil => exact h
  | cons step steps ih =>
    obtain ⟨hfolder, hrest⟩ := follow_cons h
    have hne : l ≠ j := by
      rintro rfl
      exact hnot hfolder
    rw [follow, entry?_put_of_ne n hne, hfolder]
    exact ih hrest

/-- **What was written is read.** -/
lemma read_put (h : t.writable p = .ok l) (bytes : List Byte) :
    (t.put l (.file bytes)).read p = .ok bytes := by
  obtain ⟨hlocate, hnot, hslash⟩ := writable_eq_ok h
  have hchars : p.chars.isEmpty = false := by
    by_contra hempty
    rw [locate, if_pos (by simpa using hempty)] at hlocate
    cases hlocate
  have hlocate' : (t.put l (.file bytes)).locate p = .ok l :=
    locate_of_follow hchars (follow_put hnot _ (locate_eq_ok hlocate))
  have hfile : FileTree.entry? (t.put l (.file bytes)) l = some (.file bytes) := by
    have hroot : ¬IsRoot l := fun hroot => hnot (entry?_of_isRoot hroot)
    rw [entry?_put, if_neg hroot, if_pos rfl]
  simp only [read, get, hlocate', hfile, hslash, bind, Except.bind]
  rfl

/-! ## Where no name leads -/

/-- Everything above a location is a folder, and so is the location. -/
def IsReached (t : FileTree) (l : Location) : Prop := ∀ k, k <+: l → t.entry? k = some .folder

lemma isReached_start (t : FileTree) (p : Path) : IsReached t p.start := by
  intro k hk
  refine entry?_of_isRoot ?_
  rw [Path.start] at hk
  split at hk
  · rcases List.prefix_cons_iff.1 hk with rfl | ⟨k, rfl, hnil⟩
    · exact Or.inl rfl
    · obtain rfl := List.prefix_nil.1 hnil
      exact Or.inr rfl
  · exact Or.inl (List.prefix_nil.1 hk)

lemma IsReached.concat (h : IsReached t l) {name : List Char}
    (hfolder : t.entry? (l ++ [name]) = some .folder) : IsReached t (l ++ [name]) := by
  intro k hk
  rcases List.prefix_concat_iff.1 hk with rfl | hk
  · exact hfolder
  · exact h k hk

lemma IsReached.dropLast (h : IsReached t l) : IsReached t l.dropLast := fun k hk =>
  h k (hk.trans (List.dropLast_prefix l))

/-- Steps whose last name, if there is one, goes back lead to a folder.  The induction is on the
steps; a step to a name is followed by another one. -/
lemma IsReached.entry?_of_follow (h : IsReached t l) {steps : List (List Char)}
    (hlast : ∀ name, (steps.filter (· != ['.'])).getLast? = some name → name = ['.', '.'])
    (hf : t.follow l steps = .ok k) : t.entry? k = some .folder := by
  induction steps generalizing l with
  | nil =>
    cases hf
    exact h _ List.prefix_rfl
  | cons step steps ih =>
    obtain ⟨-, hrest⟩ := follow_cons hf
    by_cases hdot : step = ['.']
    · rw [next, if_pos hdot] at hrest
      refine ih h (fun name hname => hlast name ?_) hrest
      rwa [List.filter_cons_of_neg (by simpa using hdot)]
    · rw [List.filter_cons_of_pos (by simpa using hdot)] at hlast
      cases hnames : steps.filter (· != ['.']) with
      | nil =>
        have hdots : step = ['.', '.'] := hlast step (by rw [hnames]; rfl)
        rw [next, if_neg hdot, if_pos hdots] at hrest
        refine ih h.dropLast (fun name hname => ?_) hrest
        rw [hnames] at hname
        cases hname
      | cons name names =>
        have hlast' : ∀ last, (steps.filter (· != ['.'])).getLast? = some last →
            last = ['.', '.'] := by
          intro last heq
          refine hlast last ?_
          rw [hnames] at heq ⊢
          exact heq
        by_cases hdots : step = ['.', '.']
        · rw [next, if_neg hdot, if_pos hdots] at hrest
          exact ih h.dropLast hlast' hrest
        · rw [next, if_neg hdot, if_neg hdots] at hrest
          obtain ⟨s, rest, rfl⟩ : ∃ s rest, steps = s :: rest := by
            cases steps with
            | nil => cases hnames
            | cons s rest => exact ⟨s, rest, rfl⟩
          exact ih (h.concat (follow_cons hrest).1) hlast' hrest

lemma names_eq_filter_steps (p : Path) :
    Path.names p.chars = p.steps.filter (· != ['.']) := by
  rw [Path.names, Path.steps, List.filter_filter]
  exact List.filter_congr fun w _ => Bool.and_comm _ _

/-- The last name of a path without a file name goes back. -/
lemma last_of_fileName?_eq_none (h : p.fileName? = none) {name : List Char}
    (hname : (Path.names p.chars).getLast? = some name) : name = ['.', '.'] := by
  rw [← Path.names_body] at hname
  rw [Path.fileName?] at h
  cases hs : p.split? with
  | none =>
    rw [Path.names_body_of_split?_eq_none hs] at hname
    cases hname
  | some s =>
    have hlast : s.last = ['.', '.'] := by
      rw [hs] at h
      by_contra hne
      exact absurd h (by simp [hne])
    have hcomponents := (Path.split?_eq_some hs).2.2
    rw [Path.components_eq] at hcomponents
    have hgetLast := congrArg List.getLast? hcomponents
    rw [List.getLast?_append, hname, List.getLast?_concat] at hgetLast
    exact (Option.some.inj hgetLast).trans hlast

/-- **A path that can be written ends in a name.** -/
lemma fileName?_ne_none_of_writable (h : t.writable p = .ok l) : p.fileName? ≠ none := by
  intro hnone
  obtain ⟨hlocate, hnot, -⟩ := writable_eq_ok h
  refine hnot ((isReached_start t p).entry?_of_follow (fun name hname => ?_)
    (locate_eq_ok hlocate))
  rw [← names_eq_filter_steps] at hname
  exact last_of_fileName?_eq_none hnone hname

end FileTree

namespace Session

variable {σ : Session} {p : Path} {l : Location}

/-- A session after a file has been written. -/
def written (σ : Session) (l : Location) (bytes : List Byte) : Session :=
  { σ with files := σ.files.put l (.file bytes) }

lemma write_eq (h : σ.files.writable p = .ok l) (bytes : List Byte) :
    (FileAccess.write p bytes : InMemory (Except SystemError Unit)) σ =
      (.ok (), σ.written l bytes) := by
  have hwrite : σ.files.write p bytes = (σ.files.put l (.file bytes), .ok ()) := by
    rw [FileTree.write, h]
  show ((σ.files.write p bytes).2, { σ with files := (σ.files.write p bytes).1 }) = _
  rw [hwrite]
  rfl

lemma read_written (h : σ.files.writable p = .ok l) (bytes : List Byte) :
    (FileAccess.read p : InMemory (Except SystemError (List Byte))) (σ.written l bytes) =
      (.ok bytes, σ.written l bytes) :=
  congrArg (·, σ.written l bytes) (FileTree.read_put h bytes)

end Session

end Raster
