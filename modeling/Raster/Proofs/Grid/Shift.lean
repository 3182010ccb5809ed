import Raster.Fourier.Grid
import Raster.Proofs.Grid.Place
/-!
# Moving the first cell to the middle and back

Rotating the lines along some axes reads each cell from another place, whose component on each
of these axes is the rotated one (`Grid.get_rearrange`, `Shape.component_source_of_mem`).  Since
places are told apart by their components, `Grid.unshift` and `Grid.shift` undo each other whatever
the extents are, odd or even, one or zero.
-/

namespace Raster

/-! ## One line -/

/-- A line whose elements are read from other positions. -/
def gather {n : Nat} {α : Type} (φ : Fin n → Fin n) (line : Vector α n) : Vector α n :=
  Vector.ofFn fun p => line.get (φ p)

lemma get_gather {n : Nat} {α : Type} (φ : Fin n → Fin n) (line : Vector α n) (p : Fin n) :
    (gather φ line).get p = line.get (φ p) :=
  get_ofFn _ p

lemma ahead_lt {n : Nat} (k : Nat) (p : Fin n) : (p + k % n) % n < n := Nat.mod_lt _ p.pos

lemma behind_lt {n : Nat} (k : Nat) (p : Fin n) : (p + (n - k % n)) % n < n := Nat.mod_lt _ p.pos

/-- The position `k` places on, round the end of the line. -/
def ahead {n : Nat} (k : Nat) (p : Fin n) : Fin n := ⟨(p + k % n) % n, ahead_lt k p⟩

/-- The position `k` places back, round the start of the line. -/
def behind {n : Nat} (k : Nat) (p : Fin n) : Fin n := ⟨(p + (n - k % n)) % n, behind_lt k p⟩

@[simp] lemma behind_ahead {n : Nat} (k : Nat) (p : Fin n) : behind k (ahead k p) = p := by
  have hk : k % n < n := Nat.mod_lt k p.pos
  have hround : p.val + k % n + (n - k % n) = p + n := by omega
  refine Fin.ext ?_
  show ((p + k % n) % n + (n - k % n)) % n = p
  rw [Nat.mod_add_mod, hround, Nat.add_mod_right, Nat.mod_eq_of_lt p.isLt]

@[simp] lemma ahead_behind {n : Nat} (k : Nat) (p : Fin n) : ahead k (behind k p) = p := by
  have hk : k % n < n := Nat.mod_lt k p.pos
  have hround : p.val + (n - k % n) + k % n = p + n := by omega
  refine Fin.ext ?_
  show ((p + (n - k % n)) % n + k % n) % n = p
  rw [Nat.mod_add_mod, hround, Nat.add_mod_right, Nat.mod_eq_of_lt p.isLt]

/-! ## Many axes -/

section Axes

variable {s : Shape} {α β : Type} (φ : ∀ axis : Fin s.length, Fin (s.get axis) → Fin (s.get axis))

/-- Read the elements of the lines along some axes from other positions, one axis after the
other. -/
def Grid.rearrange (axes : List (Fin s.length)) (g : Grid s α) : Grid s α :=
  axes.foldl (fun g axis => g.mapLines axis (gather (φ axis))) g

/-- The place that a cell of the rearranged grid is read from. -/
def Shape.source (axes : List (Fin s.length)) (i : Fin s.size) : Fin s.size :=
  axes.foldr (fun axis j => s.moved axis j (φ axis (s.component axis j))) i

lemma Grid.get_rearrange (axes : List (Fin s.length)) (g : Grid s α) (i : Fin s.size) :
    (g.rearrange φ axes).cells.get i = g.cells.get (Shape.source φ axes i) := by
  induction axes generalizing g with
  | nil => rfl
  | cons axis axes ih =>
    refine (ih (g.mapLines axis (gather (φ axis)))).trans ?_
    rw [Grid.get_mapLines, get_gather, Grid.get_line]
    rfl

lemma Shape.source_cons (b : Fin s.length) (axes : List (Fin s.length)) (i : Fin s.size) :
    Shape.source φ (b :: axes) i =
      s.moved b (Shape.source φ axes i) (φ b (s.component b (Shape.source φ axes i))) :=
  rfl

/-- On the axes that stay, the source has the old component. -/
lemma Shape.component_source_of_not_mem {axes : List (Fin s.length)} {axis : Fin s.length}
    (h : axis ∉ axes) (i : Fin s.size) :
    s.component axis (Shape.source φ axes i) = s.component axis i := by
  induction axes with
  | nil => rfl
  | cons b axes ih =>
    rw [List.mem_cons, not_or] at h
    rw [source_cons, component_moved_of_ne h.1, ih h.2]

/-- On an axis that is rearranged, the source has the component that this axis asks for. -/
lemma Shape.component_source_of_mem {axes : List (Fin s.length)} (hnodup : axes.Nodup)
    {axis : Fin s.length} (h : axis ∈ axes) (i : Fin s.size) :
    s.component axis (Shape.source φ axes i) = φ axis (s.component axis i) := by
  induction axes with
  | nil => cases h
  | cons b axes ih =>
    rw [List.nodup_cons] at hnodup
    rw [source_cons]
    rcases List.mem_cons.1 h with rfl | htail
    · rw [component_moved_self, component_source_of_not_mem φ hnodup.1]
    · have hne : axis ≠ b := by
        rintro rfl
        exact hnodup.1 htail
      rw [component_moved_of_ne hne, ih hnodup.2 htail]

lemma Grid.rearrange_map (u : α → β) (axes : List (Fin s.length)) (g : Grid s α) :
    (g.map u).rearrange φ axes = (g.rearrange φ axes).map u := by
  refine Grid.ext_get fun i => ?_
  rw [Grid.get_rearrange, Grid.get_map, Grid.get_map, Grid.get_rearrange]

variable {φ} {ψ : ∀ axis : Fin s.length, Fin (s.get axis) → Fin (s.get axis)}

lemma Grid.rearrange_rearrange (h : ∀ axis p, φ axis (ψ axis p) = p) {axes : List (Fin s.length)}
    (haxes : axes.Nodup) (g : Grid s α) : (g.rearrange φ axes).rearrange ψ axes = g := by
  refine Grid.ext_get fun i => ?_
  rw [Grid.get_rearrange, Grid.get_rearrange]
  refine congrArg g.cells.get (Shape.eq_of_component_eq fun axis => ?_)
  by_cases haxis : axis ∈ axes
  · rw [Shape.component_source_of_mem φ haxes haxis, Shape.component_source_of_mem ψ haxes haxis, h]
  · rw [Shape.component_source_of_not_mem φ haxis, Shape.component_source_of_not_mem ψ haxis]

end Axes

/-! ## Shifting -/

namespace Grid

variable {s : Shape} {α β : Type}

lemma shift_eq_rearrange (g : Grid s α) :
    g.shift = g.rearrange (fun axis => behind (s.get axis / 2)) (List.finRange s.length) :=
  rfl

lemma unshift_eq_rearrange (g : Grid s α) :
    g.unshift = g.rearrange (fun axis => ahead (s.get axis / 2)) (List.finRange s.length) :=
  rfl

@[simp] lemma unshift_shift (g : Grid s α) : g.shift.unshift = g := by
  rw [shift_eq_rearrange, unshift_eq_rearrange]
  refine rearrange_rearrange ?_ (List.nodup_finRange s.length) g
  exact fun axis p => behind_ahead (s.get axis / 2) p

@[simp] lemma shift_unshift (g : Grid s α) : g.unshift.shift = g := by
  rw [shift_eq_rearrange, unshift_eq_rearrange]
  refine rearrange_rearrange ?_ (List.nodup_finRange s.length) g
  exact fun axis p => ahead_behind (s.get axis / 2) p

lemma shift_map (u : α → β) (g : Grid s α) : (g.map u).shift = g.shift.map u :=
  rearrange_map _ u _ g

/-- Shifting leaves the cells as they are, all together. -/
lemma all_shift (p : α → Bool) (g : Grid s α) : g.shift.cells.all p = g.cells.all p := by
  rw [Bool.eq_iff_iff, Vector.all_eq_true, Vector.all_eq_true]
  constructor
  · intro h i hi
    -- the cell comes back from the shifted grid
    show p (g.cells.get ⟨i, hi⟩) = true
    rw [← unshift_shift g, unshift_eq_rearrange, get_rearrange]
    exact h _ _
  · intro h i hi
    show p (g.shift.cells.get ⟨i, hi⟩) = true
    rw [shift_eq_rearrange, get_rearrange]
    exact h _ _

end Grid

end Raster
