import Mathlib.Data.List.FinRange
import Mathlib.Data.List.GetD
import Mathlib.Data.List.Sort
import Mathlib.Data.List.TakeWhile
import Raster.Grid.Edit
import Raster.Proofs.Grid.Shift
/-!
# Changing cells

A cell can be changed at each coordinate of the array, and at no other.  Reading then finds the
new value at this coordinate and the old one at every other.  It makes no difference whether the
cell is changed by its coordinate, by its place in the buffer, or as an element of a line.

Edits of lines are made one after the other, up to the first that does not fit its line
(`LineEdit.made`, `LineEdit.failure?`).  What each of them leaves at a position of its line depends
on what was on the line before (`LineEdit.after`); and a cell has in the end what the edits of its
own line leave at its position (`Grid.get_editLines`).
-/

namespace Raster

namespace Grid

variable {s : Shape} {α : Type} {c : List Nat}

lemma setFlat_flatIndex (g : Grid s α) (h : s.Contains c) (v : α) :
    g.setFlat (s.flatIndex c) v = g.set c v := by
  rw [Grid.set, h.index?]
  rfl

lemma exists_set_error (g : Grid s α) (h : ¬s.Contains c) (v : α) :
    ∃ fault, g.set c v = .error fault := by
  obtain ⟨fault, hindex⟩ := Shape.exists_index?_error h
  exact ⟨fault, by rw [Grid.set, hindex]; rfl⟩

/-- After a cell is changed, it has the new value, and the others have their old ones. -/
lemma exists_set (g : Grid s α) (h : s.Contains c) (v : α) :
    ∃ g', g.set c v = .ok g' ∧ ∀ d, g'.get? d = if d = c then .ok v else g.get? d := by
  refine ⟨⟨g.cells.set (s.flatIndex c) v h.flatIndex_lt⟩, ?_, fun d => ?_⟩
  · rw [Grid.set, h.index?]
    exact dif_pos h.flatIndex_lt
  by_cases hd : s.Contains d
  · have hlt : s.flatIndex d < s.size := hd.flatIndex_lt
    have hread : ∀ g' : Grid s α, g'.get? d = .ok g'.cells[s.flatIndex d] := by
      intro g'
      rw [Grid.get?, hd.index?]
      exact dif_pos hlt
    rw [hread, hread]
    by_cases hdc : d = c
    · subst hdc
      rw [if_pos rfl, Vector.getElem_set_self]
    · have hplace : s.flatIndex c ≠ s.flatIndex d := by
        intro he
        rw [← h.coordinate_flatIndex, ← hd.coordinate_flatIndex, he] at hdc
        exact hdc rfl
      rw [if_neg hdc, Vector.getElem_set_ne h.flatIndex_lt hlt hplace]
  · obtain ⟨fault, hindex⟩ := Shape.exists_index?_error hd
    have hdc : d ≠ c := by
      rintro rfl
      exact hd h
    rw [if_neg hdc, Grid.get?, Grid.get?, hindex]
    rfl

end Grid

/-! ## Edits of one line -/

namespace LineEdit

variable {α : Type} {n : Nat} {edit : LineEdit α}

/-- Whether an edit fits a line of `n` elements. -/
def Fits (n : Nat) : LineEdit α → Prop
  | set index _ => index < n
  | write values => values.length = n
  | rotateLeft _ | rotateRight _ => True

instance (n : Nat) (edit : LineEdit α) : Decidable (edit.Fits n) :=
  match edit with
  | set index _ => inferInstanceAs (Decidable (index < n))
  | write values => inferInstanceAs (Decidable (values.length = n))
  | rotateLeft _ | rotateRight _ => inferInstanceAs (Decidable True)

/-- What is wrong with an edit that does not fit. -/
def misfit (n : Nat) : LineEdit α → Fault
  | set index _ => .lineIndex index n
  | write _ | rotateLeft _ | rotateRight _ => .lineLength

/-- What is at each position of a line after an edit that fits, by what was there before. -/
def after (before : Fin n → α) : LineEdit α → Fin n → α
  | set index value, p => if p.val = index then value else before p
  | write values, p => values.getD p (before p)
  | rotateLeft k, p => before (ahead k p)
  | rotateRight k, p => before (behind k p)

lemma exists_apply (h : edit.Fits n) (line : Vector α n) :
    ∃ line', edit.apply line = .ok line' ∧ line'.get = after line.get edit := by
  cases edit with
  | set index value =>
    have hindex : index < n := h
    refine ⟨line.set index value, dif_pos hindex, funext fun p => ?_⟩
    rw [get_set line ⟨index, hindex⟩ p value, after]
    exact if_congr ⟨fun he => he ▸ rfl, fun he => Fin.ext he.symm⟩ rfl rfl
  | write values =>
    have hlength : values.length = n := h
    refine ⟨⟨values.toArray, hlength⟩, dif_pos hlength, funext fun p => ?_⟩
    have hp : p.val < values.length := hlength ▸ p.isLt
    rw [after, List.getD_eq_getElem?_getD, List.getElem?_eq_getElem hp]
    rfl
  | rotateLeft k => exact ⟨_, rfl, funext fun p => get_ofFn _ p⟩
  | rotateRight k => exact ⟨_, rfl, funext fun p => get_ofFn _ p⟩

lemma apply_of_not_fits (h : ¬edit.Fits n) (line : Vector α n) :
    edit.apply line = .error (edit.misfit n) := by
  cases edit with
  | set index value => exact dif_neg h
  | write values => exact dif_neg h
  | rotateLeft k => exact absurd trivial h
  | rotateRight k => exact absurd trivial h

/-- What is wrong with the first of some edits that does not fit. -/
def failure? (n : Nat) (edits : List (LineEdit α)) : Option Fault :=
  (edits.find? fun edit => ¬edit.Fits n).map (misfit n)

/-- The edits of a line that are made: those before the first that does not fit, if all edits of
the lines before fit, and else none. -/
def made (n : Nat) (edits : Nat → List (LineEdit α)) (l : Nat) : List (LineEdit α) :=
  if ∀ m < l, ∀ edit ∈ edits m, edit.Fits n then (edits l).takeWhile fun edit => edit.Fits n
  else []

lemma failure?_eq_none_iff {edits : List (LineEdit α)} :
    failure? n edits = none ↔ ∀ edit ∈ edits, edit.Fits n := by
  simp [failure?]

/-- If all edits fit, all are made. -/
lemma made_of_fits {edits : Nat → List (LineEdit α)} (h : ∀ l, ∀ edit ∈ edits l, edit.Fits n)
    (l : Nat) : made n edits l = edits l := by
  rw [made, if_pos fun m _ => h m, List.takeWhile_eq_self_iff]
  exact fun edit hedit => decide_eq_true (h l edit hedit)

lemma get_applyAll (line : Vector α n) (edits : List (LineEdit α)) :
    (applyAll line edits).1.get =
      (edits.takeWhile fun edit => edit.Fits n).foldl after line.get := by
  induction edits generalizing line with
  | nil => rfl
  | cons edit edits ih =>
    -- an edit that does not fit leaves the line as it is, and none after it is made
    by_cases h : edit.Fits n
    · obtain ⟨line', happly, hget⟩ := exists_apply h line
      rw [applyAll, happly, List.takeWhile_cons_of_pos (by simpa using h), List.foldl_cons, ← hget]
      exact ih line'
    · rw [applyAll, apply_of_not_fits h, List.takeWhile_cons_of_neg (by simpa using h)]
      rfl

lemma applyAll_snd (line : Vector α n) (edits : List (LineEdit α)) :
    (applyAll line edits).2 = failure? n edits := by
  induction edits generalizing line with
  | nil => rfl
  | cons edit edits ih =>
    rw [failure?]
    by_cases h : edit.Fits n
    · obtain ⟨line', happly, -⟩ := exists_apply h line
      rw [applyAll, happly, List.find?_cons_of_neg (by simpa using h)]
      exact ih line'
    · rw [applyAll, apply_of_not_fits h, List.find?_cons_of_pos (by simpa using h)]
      rfl

end LineEdit

/-! ## Edits of all lines -/

namespace Grid

open LineEdit

variable {s : Shape} {α : Type} {axis : Fin s.length} {edits : Nat → List (LineEdit α)}

lemma firstFault_eq (g : Grid s α) : g.firstFault axis edits =
    (List.finRange (lineCount s axis)).findSome? fun l : Fin (lineCount s axis) =>
      (failure? (s.get axis) (edits l)).map fun fault => (l.val, fault) := by
  simp only [firstFault, editedLine, applyAll_snd]

/-- Editing lines fails with what is wrong with the first edit that does not fit. -/
lemma editLines_snd (g : Grid s α) : (g.editLines axis edits).2 =
    failure? (s.get axis) ((List.range (lineCount s axis)).flatMap edits) := by
  show (g.firstFault axis edits).map Prod.snd = _
  rw [firstFault_eq, failure?, List.find?_flatMap, ← List.map_coe_finRange_eq_range,
    List.findSome?_map, List.map_findSome?, List.map_findSome?]
  refine congrArg (List.findSome? · _) (funext fun l => ?_)
  rw [Function.comp_apply, Option.map_map]
  exact Option.map_id'

/-- A line comes up if all edits of the lines before it fit. -/
lemma firstFault_all_iff (g : Grid s α) (l : Fin (lineCount s axis)) :
    ((g.firstFault axis edits).all fun (last, _) => l.val ≤ last) = true ↔
      ∀ m < l.val, ∀ edit ∈ edits m, edit.Fits (s.get axis) := by
  rw [firstFault_eq]
  cases hstop : (List.finRange (lineCount s axis)).findSome? fun l : Fin (lineCount s axis) =>
      (failure? (s.get axis) (edits l)).map fun fault => (l.val, fault) with
  | none =>
    rw [List.findSome?_eq_none_iff] at hstop
    refine iff_of_true rfl fun m hm => failure?_eq_none_iff.1 ?_
    simpa using hstop ⟨m, hm.trans l.isLt⟩ (List.mem_finRange _)
  | some stop =>
    obtain ⟨front, a, back, hsplit, ha, hfront⟩ := List.findSome?_eq_some_iff.1 hstop
    obtain ⟨fault, hfault, rfl⟩ := Option.map_eq_some_iff.1 ha
    have hsorted := (List.sortedLT_finRange (lineCount s axis)).pairwise
    rw [hsplit, List.pairwise_append, List.pairwise_cons] at hsorted
    rw [Option.all_some, decide_eq_true_iff]
    constructor
    · intro hl m hm
      -- the line is in front of the one with the first misfit, so all of its edits fit
      refine failure?_eq_none_iff.1 ?_
      have hmem := List.mem_finRange (⟨m, hm.trans l.isLt⟩ : Fin (lineCount s axis))
      rw [hsplit, List.mem_append, List.mem_cons] at hmem
      rcases hmem with hmem | rfl | hmem
      · simpa using hfront _ hmem
      · exact absurd hl (Nat.not_le.2 hm)
      · have hlt : a.val < m := hsorted.2.1.1 _ hmem
        exact absurd (hlt.trans hm) (Nat.not_lt.2 hl)
    · intro hall
      by_contra hl
      rw [failure?_eq_none_iff.2 (hall a (by omega))] at hfault
      cases hfault

/-- **A cell has what the edits of its line leave at its position.** -/
lemma get_editLines (g : Grid s α) (i : Fin s.size) :
    (g.editLines axis edits).1.cells.get i =
      (made (s.get axis) edits (s.lineThrough axis i)).foldl after
        (g.line axis (s.lineThrough axis i)).get (s.component axis i) := by
  show (ofLines axis (Vector.ofFn _)).cells.get i = _
  rw [get_ofLines, get_ofFn, made]
  by_cases h : ∀ m < (s.lineThrough axis i).val, ∀ edit ∈ edits m, edit.Fits (s.get axis)
  · rw [if_pos ((firstFault_all_iff g _).2 h), if_pos h, editedLine, get_applyAll]
  · -- the line does not come up any more, and keeps its cells
    rw [if_neg fun hall => h ((firstFault_all_iff g _).1 hall), if_neg h]
    rfl

/-! ## An edit of one element -/

/-- The edits that change one element of one line. -/
def setOnLine (line position : Nat) (v : α) (l : Nat) : List (LineEdit α) :=
  if l = line then [.set position v] else []

/-- Changing the element of a line that lies at a place is changing the cell at this place. -/
lemma editLines_setOnLine (g : Grid s α) (axis : Fin s.length) (i : Fin s.size) (v : α) :
    g.editLines axis (setOnLine (s.lineThrough axis i) (s.component axis i) v) =
      (⟨g.cells.set i v⟩, none) := by
  have hfits : ∀ l, ∀ edit ∈ setOnLine (s.lineThrough axis i).val (s.component axis i).val v l,
      edit.Fits (s.get axis) := by
    intro l edit hedit
    rw [setOnLine] at hedit
    split at hedit
    · rw [List.mem_singleton.1 hedit]
      exact (s.component axis i).isLt
    · cases hedit
  refine Prod.ext (ext_get fun j => ?_) ?_
  · rw [get_editLines, made_of_fits hfits, setOnLine, get_set]
    -- a place is told apart by its line and its position, so the edit is about one cell
    by_cases hline : s.lineThrough axis j = s.lineThrough axis i
    · rw [if_pos (congrArg Fin.val hline), List.foldl_cons, List.foldl_nil, after, get_line,
        Shape.moved_component]
      refine if_congr ⟨fun h => ?_, fun h => ?_⟩ rfl rfl
      · exact Shape.eq_of_lineThrough_eq hline.symm (Fin.ext h.symm)
      · rw [h]
    · have hij : i ≠ j := by
        rintro rfl
        exact hline rfl
      rw [if_neg fun h => hline (Fin.ext h), List.foldl_nil, if_neg hij, get_line,
        Shape.moved_component]
  · rw [editLines_snd, failure?_eq_none_iff]
    intro edit hedit
    obtain ⟨l, -, hedit⟩ := List.mem_flatMap.1 hedit
    exact hfits l edit hedit

end Grid

end Raster
