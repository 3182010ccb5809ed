import Mathlib.Data.List.FinRange
import Raster.Grid.Sweep
import Raster.Proofs.Grid.Place
/-!
# Lines as sets of places

The places of a grid are told apart by their line along an axis and by how far they lie along
it, and every line has a place at every position (`Shape.lineThrough_place`,
`Shape.component_place`).  So the lines share no place and leave none out, and the coordinates
on a line are those that agree off its axis (`Shape.mem_linesAlong_iff`).
-/

namespace Raster

/-! ## Lines by arithmetic -/

section

variable {jump length l p : Nat}

lemma lineStart_add (jump length l p : Nat) : lineStart jump length l + p * jump =
    l % jump + jump * (l / jump * length + p) := by
  rw [lineStart]
  ring

lemma lineNumber_lineStart (hjump : 0 < jump) (hp : p < length) :
    lineNumber jump length (lineStart jump length l + p * jump) = l := by
  have hlength : 0 < length := Nat.zero_lt_of_lt hp
  have hdiv : (l % jump + jump * (l / jump * length + p)) / jump = l / jump * length + p := by
    rw [Nat.add_mul_div_left _ _ hjump, Nat.div_eq_of_lt (Nat.mod_lt l hjump), Nat.zero_add]
  have hblock : (l / jump * length + p) / length = l / jump := by
    rw [Nat.add_comm, Nat.add_mul_div_right _ _ hlength, Nat.div_eq_of_lt hp, Nat.zero_add]
  rw [lineNumber, lineStart_add, ← Nat.div_div_eq_div_mul, hdiv, hblock, Nat.add_mul_mod_self_left,
    Nat.mod_mod, Nat.div_add_mod']

lemma linePosition_lineStart (hjump : 0 < jump) (hp : p < length) :
    linePosition jump length (lineStart jump length l + p * jump) = p := by
  rw [linePosition, lineStart_add, Nat.add_mul_div_left _ _ hjump,
    Nat.div_eq_of_lt (Nat.mod_lt l hjump), Nat.zero_add, Nat.mul_add_mod_self_right,
    Nat.mod_eq_of_lt hp]

end

namespace Shape

variable {s : Shape} {axis : Fin s.length}

lemma jump_pos (l : Fin (Grid.lineCount s axis)) : 0 < s.jump axis := by
  have hl := l.pos
  rw [Grid.lineCount, lineCount] at hl
  exact Nat.pos_of_mul_pos_left hl

lemma extent_pos (l : Fin (Grid.lineCount s axis)) : 0 < s.get axis := by
  have hl := l.pos
  rw [Grid.lineCount, lineCount] at hl
  rcases Nat.eq_zero_or_pos (s.get axis) with hzero | hpos
  · rw [hzero, Nat.mul_zero, Nat.div_zero, Nat.zero_mul] at hl
    exact absurd hl (lt_irrefl 0)
  · exact hpos

lemma place_lt (s : Shape) (axis : Fin s.length) (l : Fin (Grid.lineCount s axis))
    (p : Fin (s.get axis)) : lineStart (s.jump axis) (s.get axis) l + p * s.jump axis < s.size :=
  lineStart_add_lt (s.size_eq axis axis.isLt) l.isLt p.isLt

/-- The place so many steps from the start of a line. -/
def place (s : Shape) (axis : Fin s.length) (l : Fin (Grid.lineCount s axis))
    (p : Fin (s.get axis)) : Fin s.size :=
  ⟨lineStart (s.jump axis) (s.get axis) l + p * s.jump axis, s.place_lt axis l p⟩

@[simp] lemma lineThrough_place (l : Fin (Grid.lineCount s axis)) (p : Fin (s.get axis)) :
    s.lineThrough axis (s.place axis l p) = l :=
  Fin.ext (lineNumber_lineStart (jump_pos l) p.isLt)

@[simp] lemma component_place (l : Fin (Grid.lineCount s axis)) (p : Fin (s.get axis)) :
    s.component axis (s.place axis l p) = p :=
  Fin.ext (linePosition_lineStart (jump_pos l) p.isLt)

@[simp] lemma place_lineThrough (axis : Fin s.length) (i : Fin s.size) (p : Fin (s.get axis)) :
    s.place axis (s.lineThrough axis i) p = s.moved axis i p :=
  rfl

/-- The places of a line. -/
def placesOf (s : Shape) (axis : Fin s.length) (l : Fin (Grid.lineCount s axis)) :
    Vector Nat (s.get axis) :=
  Vector.ofFn fun p => (s.place axis l p).val

lemma linesAlong_eq (s : Shape) (axis : Fin s.length) :
    s.linesAlong axis = (List.finRange (Grid.lineCount s axis)).map (s.placesOf axis) := by
  rw [linesAlong, lineOffsets, List.map_map]
  show (List.range (Grid.lineCount s axis)).map _ = _
  rw [← List.map_coe_finRange_eq_range, List.map_map]
  rfl

lemma mem_placesOf {l : Fin (Grid.lineCount s axis)} {i : Nat} :
    i ∈ s.placesOf axis l ↔ ∃ p, (s.place axis l p).val = i := by
  rw [placesOf, Vector.mem_ofFn]

/-! ## Lines by coordinates -/

/-- The place of a coordinate that is changed on one axis. -/
lemma Contains.flatIndex_set_eq {c : List Nat} (h : s.Contains c) (axis : Fin s.length)
    (p : Fin (s.get axis)) :
    s.flatIndex (c.set axis p) = s.moved axis ⟨s.flatIndex c, h.flatIndex_lt⟩ p := by
  have hmoved := coordinate_moved axis ⟨s.flatIndex c, h.flatIndex_lt⟩ p
  rw [h.coordinate_flatIndex] at hmoved
  rw [← hmoved]
  exact flatIndex_coordinate (Fin.isLt _)

/-- The lines are the sets of coordinates that agree off the axis, in the order of the component
on the axis. -/
lemma mem_linesAlong_iff {places : Vector Nat (s.get axis)} :
    places ∈ s.linesAlong axis ↔
      ∃ c, s.Contains c ∧ places = Vector.ofFn fun p => s.flatIndex (c.set axis p) := by
  rw [linesAlong_eq, List.mem_map]
  constructor
  · rintro ⟨l, -, rfl⟩
    -- a line has a first place, which has a coordinate
    have hcontains := contains_coordinate (s.place axis l ⟨0, extent_pos l⟩).isLt
    refine ⟨_, hcontains, congrArg Vector.ofFn (funext fun p => ?_)⟩
    rw [← coordinate_moved, flatIndex_coordinate (Fin.isLt _), ← place_lineThrough,
      lineThrough_place]
  · rintro ⟨c, hc, rfl⟩
    refine ⟨s.lineThrough axis ⟨s.flatIndex c, hc.flatIndex_lt⟩, List.mem_finRange _, ?_⟩
    exact congrArg Vector.ofFn (funext fun p => (hc.flatIndex_set_eq axis p).symm)

end Shape

namespace Grid

variable {s : Shape} {α : Type} {c : List Nat}

lemma get?_eq_ok (g : Grid s α) (h : s.Contains c) :
    g.get? c = .ok (g.cells.get ⟨s.flatIndex c, h.flatIndex_lt⟩) := by
  rw [get?, h.index?]
  exact dif_pos h.flatIndex_lt

/-- At the coordinate of a place, the cell at this place is read. -/
lemma get?_coordinate (g : Grid s α) (i : Fin s.size) :
    g.get? (s.coordinate i) = .ok (g.cells.get i) := by
  rw [get?_eq_ok _ (Shape.contains_coordinate i.isLt)]
  exact congrArg (fun j => Except.ok (g.cells.get j))
    (Fin.ext (Shape.flatIndex_coordinate i.isLt))

/-- A grid is told apart by what is read at its coordinates. -/
lemma ext_get? {g h : Grid s α} (e : ∀ c, s.Contains c → g.get? c = h.get? c) : g = h := by
  refine ext_get fun i => ?_
  have hread := e _ (Shape.contains_coordinate i.isLt)
  rw [get?_coordinate, get?_coordinate] at hread
  exact Except.ok.inj hread

/-- The line through a coordinate is read at the coordinates that agree with it off the axis. -/
lemma get?_set_eq_ok (g : Grid s α) (h : s.Contains c) (axis : Fin s.length)
    (p : Fin (s.get axis)) :
    g.get? (c.set axis p) =
      .ok ((g.line axis (s.lineThrough axis ⟨s.flatIndex c, h.flatIndex_lt⟩)).get p) := by
  rw [g.get?_eq_ok (h.set axis.isLt p.isLt), get_line]
  exact congrArg (fun i => Except.ok (g.cells.get i)) (Fin.ext (h.flatIndex_set_eq axis p))

end Grid

end Raster
