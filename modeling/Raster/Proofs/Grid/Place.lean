import Raster.Proofs.Grid.Coordinate
/-!
# Places and their components

A place in the buffer has a component on every axis, and no two places have the same ones
(`Shape.eq_of_component_eq`).  Moving a place along an axis changes its component on that axis
alone, and the places that it can be moved to are those of its line.  So a line of a grid is
read at a moved place (`Grid.get_line`), and replacing the lines of a grid changes a cell to
one of the new line through it (`Grid.get_mapLines`).
-/

namespace Raster

/-- A place is the start of its line, and so many steps along the line. -/
lemma lineStart_lineNumber (jump length i : Nat) :
    lineStart jump length (lineNumber jump length i) + linePosition jump length i * jump = i := by
  rcases Nat.eq_zero_or_pos jump with rfl | hjump
  · simp [lineStart, lineNumber]
  · have hdiv : (i / (jump * length) * jump + i % jump) / jump = i / (jump * length) := by
      rw [Nat.add_comm, Nat.add_mul_div_right _ _ hjump,
        Nat.div_eq_of_lt (Nat.mod_lt _ hjump), Nat.zero_add]
    have hmod : (i / (jump * length) * jump + i % jump) % jump = i % jump := by
      rw [Nat.add_comm, Nat.add_mul_mod_self_right, Nat.mod_mod]
    have hline : i / (jump * length) * length + i / jump % length = i / jump := by
      rw [← Nat.div_div_eq_div_mul]
      exact Nat.div_add_mod' _ _
    rw [lineStart, lineNumber, linePosition, hdiv, hmod]
    calc i / (jump * length) * (jump * length) + i % jump + i / jump % length * jump
        = (i / (jump * length) * length + i / jump % length) * jump + i % jump := by ring
      _ = i / jump * jump + i % jump := by rw [hline]
      _ = i := Nat.div_add_mod' _ _

namespace Shape

variable {s : Shape}

lemma component_lt (s : Shape) (axis : Fin s.length) (i : Fin s.size) :
    linePosition (s.jump axis) (s.get axis) i < s.get axis :=
  linePosition_lt (s.size_eq axis axis.isLt) i.isLt

lemma lineThrough_lt (s : Shape) (axis : Fin s.length) (i : Fin s.size) :
    lineNumber (s.jump axis) (s.get axis) i < Grid.lineCount s axis :=
  lineNumber_lt (s.size_eq axis axis.isLt) i.isLt

/-- How far a place lies along an axis. -/
def component (s : Shape) (axis : Fin s.length) (i : Fin s.size) : Fin (s.get axis) :=
  ⟨linePosition (s.jump axis) (s.get axis) i, component_lt s axis i⟩

/-- The line along an axis that goes through a place. -/
def lineThrough (s : Shape) (axis : Fin s.length) (i : Fin s.size) :
    Fin (Grid.lineCount s axis) :=
  ⟨lineNumber (s.jump axis) (s.get axis) i, lineThrough_lt s axis i⟩

/-- The place with another component on an axis. -/
def moved (s : Shape) (axis : Fin s.length) (i : Fin s.size) (p : Fin (s.get axis)) :
    Fin s.size :=
  ⟨lineStart (s.jump axis) (s.get axis) (s.lineThrough axis i) + p * s.jump axis,
    lineStart_add_lt (s.size_eq axis axis.isLt) (s.lineThrough axis i).isLt p.isLt⟩

lemma getElem_coordinate_component (axis : Fin s.length) (i : Fin s.size)
    (hc : axis.val < (s.coordinate i).length) : (s.coordinate i)[axis.val] = s.component axis i :=
  s.getElem_coordinate i axis axis.isLt hc

lemma eq_of_component_eq {i j : Fin s.size} (h : ∀ axis, s.component axis i = s.component axis j) :
    i = j := by
  have hcoordinate : s.coordinate i = s.coordinate j := by
    refine List.ext_getElem (by simp) fun axis hi hj => ?_
    have haxis : axis < s.length := by simpa using hi
    rw [s.getElem_coordinate i axis haxis hi, s.getElem_coordinate j axis haxis hj]
    exact congrArg Fin.val (h ⟨axis, haxis⟩)
  rw [← Fin.val_inj, ← flatIndex_coordinate i.isLt, hcoordinate, flatIndex_coordinate j.isLt]

/-- A moved place has the old coordinate, with one component changed. -/
lemma coordinate_moved (axis : Fin s.length) (i : Fin s.size) (p : Fin (s.get axis)) :
    s.coordinate (s.moved axis i p) = (s.coordinate i).set axis p := by
  have hplace : s.flatIndex ((s.coordinate i).set axis p) = s.moved axis i p := by
    have hset := flatIndex_set (length_coordinate s i) axis.isLt p
    have hstart := lineStart_lineNumber (s.jump axis) (s.get axis) i
    rw [getElem_coordinate_component, flatIndex_coordinate i.isLt] at hset
    simp only [moved, lineThrough, component] at hset ⊢
    omega
  rw [← hplace]
  exact ((contains_coordinate i.isLt).set axis.isLt p.isLt).coordinate_flatIndex

@[simp] lemma component_moved_self (axis : Fin s.length) (i : Fin s.size) (p : Fin (s.get axis)) :
    s.component axis (s.moved axis i p) = p := by
  have hcomponent := getElem_coordinate_component axis (s.moved axis i p) (by simp)
  rw [← Fin.val_inj, ← hcomponent]
  simp [coordinate_moved]

lemma component_moved_of_ne {axis b : Fin s.length} (h : b ≠ axis) (i : Fin s.size)
    (p : Fin (s.get axis)) : s.component b (s.moved axis i p) = s.component b i := by
  have hne : axis.val ≠ b.val := fun he => h (Fin.ext he.symm)
  have hold := getElem_coordinate_component b i (by simp)
  have hnew := getElem_coordinate_component b (s.moved axis i p) (by simp)
  rw [← Fin.val_inj, ← hold, ← hnew]
  simp [coordinate_moved, List.getElem_set_ne hne]

end Shape

namespace Shape

variable {s : Shape} {axis : Fin s.length}

/-- A place is told apart by its line and by how far it lies along the line. -/
lemma eq_of_lineThrough_eq {i j : Fin s.size} (hline : s.lineThrough axis i = s.lineThrough axis j)
    (hcomponent : s.component axis i = s.component axis j) : i = j := by
  have hi := lineStart_lineNumber (s.jump axis) (s.get axis) i
  have hj := lineStart_lineNumber (s.jump axis) (s.get axis) j
  have hnumber : lineNumber (s.jump axis) (s.get axis) i =
      lineNumber (s.jump axis) (s.get axis) j := congrArg Fin.val hline
  have hposition : linePosition (s.jump axis) (s.get axis) i =
      linePosition (s.jump axis) (s.get axis) j := congrArg Fin.val hcomponent
  rw [hnumber, hposition] at hi
  exact Fin.ext (hi.symm.trans hj)

@[simp] lemma moved_component (axis : Fin s.length) (i : Fin s.size) :
    s.moved axis i (s.component axis i) = i :=
  Fin.ext (lineStart_lineNumber (s.jump axis) (s.get axis) i)

end Shape

/-! ## Cells -/

lemma get_ofFn {n : Nat} {α : Type} (f : Fin n → α) (i : Fin n) : (Vector.ofFn f).get i = f i :=
  Vector.getElem_ofFn i.isLt

lemma get_set {n : Nat} {α : Type} (line : Vector α n) (i j : Fin n) (v : α) :
    (line.set i v).get j = if i = j then v else line.get j := by
  by_cases hij : i = j
  · subst hij
    rw [if_pos rfl]
    exact Vector.getElem_set_self i.isLt
  · rw [if_neg hij]
    exact Vector.getElem_set_ne i.isLt j.isLt fun h => hij (Fin.ext h)

namespace Grid

variable {s : Shape} {α β : Type}

lemma ext_get {g h : Grid s α} (e : ∀ i, g.cells.get i = h.cells.get i) : g = h :=
  Grid.ext (Vector.ext fun i hi => e ⟨i, hi⟩)

@[simp] lemma get_map (f : α → β) (g : Grid s α) (i : Fin s.size) :
    (g.map f).cells.get i = f (g.cells.get i) :=
  Vector.getElem_map f i.isLt

/-- The line through a place is read at the places that it can be moved to. -/
lemma get_line (g : Grid s α) (axis : Fin s.length) (i : Fin s.size) (p : Fin (s.get axis)) :
    (g.line axis (s.lineThrough axis i)).get p = g.cells.get (s.moved axis i p) :=
  get_ofFn _ p

lemma get_ofLines {axis : Fin s.length}
    (lines : Vector (Vector α (s.get axis)) (lineCount s axis)) (i : Fin s.size) :
    (ofLines axis lines).cells.get i =
      (lines.get (s.lineThrough axis i)).get (s.component axis i) :=
  get_ofFn _ i

/-- A cell of a grid with new lines is a cell of the new line through it. -/
lemma get_mapLines {axis : Fin s.length} (f : Vector α (s.get axis) → Vector β (s.get axis))
    (g : Grid s α) (i : Fin s.size) :
    (g.mapLines axis f).cells.get i =
      (f (g.line axis (s.lineThrough axis i))).get (s.component axis i) := by
  have hline : ((g.lines axis).map f).get (s.lineThrough axis i) =
      f (g.line axis (s.lineThrough axis i)) :=
    (Vector.getElem_map f (s.lineThrough axis i).isLt).trans (congrArg f (get_ofFn _ _))
  rw [mapLines, get_ofLines, hline]

lemma line_map (f : α → β) (g : Grid s α) (axis : Fin s.length) (l : Fin (lineCount s axis)) :
    (g.map f).line axis l = (g.line axis l).map f := by
  refine Vector.ext fun p hp => ?_
  rw [Vector.getElem_map]
  simp [line]

/-- Changing cells one by one and changing lines can be exchanged, if they can on each line. -/
lemma map_mapLines {γ δ : Type} {axis : Fin s.length}
    {f : Vector α (s.get axis) → Vector β (s.get axis)}
    {f' : Vector γ (s.get axis) → Vector δ (s.get axis)} {u : α → γ} {v : β → δ}
    (h : ∀ line, f' (line.map u) = (f line).map v) (g : Grid s α) :
    (g.map u).mapLines axis f' = (g.mapLines axis f).map v := by
  refine ext_get fun i => ?_
  rw [get_mapLines, line_map, h, get_map, get_mapLines]
  exact Vector.getElem_map v (s.component axis i).isLt

end Grid

end Raster
