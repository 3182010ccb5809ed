import Raster.Proofs.Grid.Odometer
import Raster.Proofs.Grid.Shift
import Raster.Proofs.Grid.Sweep
/-!
# Where a shift takes each cell

The places that shifting and shifting back read from, as coordinates: on every axis half the
extent back or on, round its ends (`Grid.get?_shift`).  The lines are rotated in place, axis by
axis; that comes to the same as replacing them.
-/

namespace Raster

/-- The coordinate with each component half of its extent back, round the ends. -/
def Shape.halfBehind (s : Shape) (c : List Nat) : List Nat :=
  List.zipWith (fun k n => (k + n - n / 2) % n) c s

namespace Grid

variable {s : Shape} {α : Type}

/-- Rotate the lines along every axis in place, the fastest axis first. -/
def rotateInPlace (rotate : ∀ axis : Fin s.length, Vector α (s.get axis) → Vector α (s.get axis))
    (g : Grid s α) : Except Fault (Grid s α) :=
  (List.finRange s.length).foldlM (fun g axis => g.sweepInPlace axis (rotate axis)) g

lemma foldlM_sweepInPlace (f : ∀ axis : Fin s.length, Vector α (s.get axis) → Vector α (s.get axis))
    (axes : List (Fin s.length)) (g : Grid s α) :
    axes.foldlM (fun g axis => g.sweepInPlace axis (f axis)) g =
      .ok (axes.foldl (fun g axis => g.mapLines axis (f axis)) g) := by
  induction axes generalizing g with
  | nil => rfl
  | cons axis axes ih =>
    rw [List.foldlM_cons, sweepInPlace_eq]
    exact ih (g.mapLines axis (f axis))

/-- The place that a shifted cell is read from, as a coordinate. -/
lemma coordinate_source {c : List Nat} (h : s.Contains c) :
    s.coordinate (Shape.source (fun axis => behind (s.get axis / 2)) (List.finRange s.length)
      ⟨s.flatIndex c, h.flatIndex_lt⟩) = s.halfBehind c := by
  have hlength := h.length_eq
  refine List.ext_getElem (by simp [Shape.halfBehind, hlength]) fun b hb hb' => ?_
  have hlt : b < s.length := by simpa using hb
  have hcomponent := Shape.getElem_coordinate_component ⟨b, hlt⟩ ⟨s.flatIndex c, h.flatIndex_lt⟩
    (by simpa using hlt)
  simp only [h.coordinate_flatIndex] at hcomponent
  rw [Shape.getElem_coordinate_component ⟨b, hlt⟩,
    Shape.component_source_of_mem _ (List.nodup_finRange _) (List.mem_finRange _)]
  simp only [Shape.halfBehind, List.getElem_zipWith, hcomponent, behind]
  -- half of an extent is less than the extent, so it need not be reduced
  have hextent : 0 < s.get ⟨b, hlt⟩ := (s.component ⟨b, hlt⟩ ⟨s.flatIndex c, h.flatIndex_lt⟩).pos
  have hhalf : s.get ⟨b, hlt⟩ / 2 < s.get ⟨b, hlt⟩ := Nat.div_lt_self hextent one_lt_two
  rw [Nat.mod_eq_of_lt hhalf, ← Nat.add_sub_assoc hhalf.le]
  rfl

/-- A shifted grid has at each coordinate what was half of each extent behind. -/
lemma get?_shift {c : List Nat} (h : s.Contains c) (g : Grid s α) :
    g.shift.get? c = g.get? (s.halfBehind c) := by
  have hsource := coordinate_source h
  have hcontains := Shape.contains_coordinate (s := s) (Fin.isLt
    (Shape.source (fun axis => behind (s.get axis / 2)) (List.finRange s.length)
      ⟨s.flatIndex c, h.flatIndex_lt⟩))
  rw [← hsource, get?_eq_ok _ h, get?_eq_ok _ hcontains, shift_eq_rearrange, get_rearrange]
  exact congrArg (fun i => Except.ok (g.cells.get i))
    (Fin.ext (Shape.flatIndex_coordinate (Fin.isLt _)).symm)

end Grid

/-! ## The middle -/

namespace Shape

/-- The coordinate in the middle. -/
def middle (s : Shape) : List Nat := s.map (· / 2)

lemma contains_middle {s : Shape} (h : ∀ n ∈ s, 0 < n) : s.Contains s.middle := by
  induction s with
  | nil => trivial
  | cons n s ih =>
    rw [List.forall_mem_cons] at h
    exact ⟨Nat.div_lt_self h.1 one_lt_two, ih h.2⟩

lemma halfBehind_middle (s : Shape) : s.halfBehind s.middle = s.origin := by
  induction s with
  | nil => rfl
  | cons n s ih =>
    show (n / 2 + n - n / 2) % n :: halfBehind s (middle s) = 0 :: origin s
    rw [ih, Nat.add_sub_cancel_left, Nat.mod_self]

end Shape

/-- **Shifting moves every cell half of each extent on, and shifting back undoes it.**  Whatever the
extents are, odd or even, one or zero, a shifted grid has at each coordinate what the grid had half
of each extent behind; in particular the first cell comes to the middle.  Rotating the lines in
place, one axis after the other, does it. -/
theorem shift_moves_half (s : Shape) {α : Type} (g : Grid s α) :
    (∀ c, s.Contains c → g.shift.get? c =
      g.get? (List.zipWith (fun k n => (k + n - n / 2) % n) c s)) ∧
    ((∀ n ∈ s, 0 < n) → g.shift.get? (s.map (· / 2)) = g.get? (s.map fun _ => 0)) ∧
    g.shift.unshift = g ∧ g.unshift.shift = g ∧
    g.rotateInPlace (fun axis => rotateRight (s.get axis / 2)) = .ok g.shift ∧
    g.rotateInPlace (fun axis => rotateLeft (s.get axis / 2)) = .ok g.unshift := by
  refine ⟨fun c hc => Grid.get?_shift hc g, fun hpos => ?_, g.unshift_shift, g.shift_unshift,
    Grid.foldlM_sweepInPlace _ _ g, Grid.foldlM_sweepInPlace _ _ g⟩
  rw [List.map_const', ← Shape.origin, ← s.halfBehind_middle]
  exact Grid.get?_shift (Shape.contains_middle hpos) g

/-- On an axis of three cells the last one comes to the front, and the first one to the middle. -/
theorem shift_moves_three_by_two :
    let grid : Grid [3, 2] Complex64 :=
      Grid.ofFn [3, 2] fun c => ⟨nearestDouble (c.getD 0 0), nearestDouble (c.getD 1 0)⟩
    grid.shift.get? [0, 0] = grid.get? [2, 1] ∧ grid.shift.get? [1, 1] = grid.get? [0, 0] ∧
      grid.unshift.shift = grid := by
  intro grid
  obtain ⟨hcell, hmiddle, -, hback, -⟩ := shift_moves_half [3, 2] grid
  exact ⟨hcell [0, 0] (by simp [Shape.Contains]), hmiddle (by decide), hback⟩

end Raster
