import Mathlib.Tactic.Common
import Mathlib.Tactic.Ring
import Raster.Grid.Basic
/-!
# Coordinates

A coordinate that lies in an array has a place in the buffer, and every place has a coordinate
that lies in the array; the two undo each other.  So a grid can be read at each of its
coordinates.
-/

namespace Raster

namespace Shape

lemma Contains.length_eq {s : Shape} {c : List Nat} (h : s.Contains c) : c.length = s.length := by
  induction s generalizing c with
  | nil =>
    cases c with
    | nil => rfl
    | cons _ _ => exact absurd h id
  | cons n s ih =>
    cases c with
    | nil => exact absurd h id
    | cons _ c => simp [ih h.2]

lemma Contains.misplaced? {s : Shape} {c : List Nat} (h : s.Contains c) (axis : Nat) :
    s.misplaced? c axis = none := by
  induction s generalizing c axis with
  | nil => rfl
  | cons n s ih =>
    cases c with
    | nil => rfl
    | cons k c => rw [Shape.misplaced?, if_pos h.1, ih h.2]

lemma Contains.index? {s : Shape} {c : List Nat} (h : s.Contains c) :
    s.index? c = .ok (s.flatIndex c) := by
  rw [Shape.index?, if_pos h.length_eq, h.misplaced?]

/-- A coordinate of the right rank without a misplaced component lies in the array. -/
lemma contains_of_misplaced? {s : Shape} {c : List Nat} {axis : Nat} (hlength : c.length = s.length)
    (h : s.misplaced? c axis = none) : s.Contains c := by
  induction s generalizing c axis with
  | nil =>
    cases c with
    | nil => trivial
    | cons k c => simp at hlength
  | cons n s ih =>
    cases c with
    | nil => simp at hlength
    | cons k c =>
      rw [Shape.misplaced?] at h
      split at h
      · rename_i hk
        exact ⟨hk, ih (by simpa using hlength) h⟩
      · cases h

/-- A coordinate outside the array has no place. -/
lemma exists_index?_error {s : Shape} {c : List Nat} (h : ¬s.Contains c) :
    ∃ fault, s.index? c = .error fault := by
  rw [Shape.index?]
  split
  · rename_i hlength
    cases hmisplaced : s.misplaced? c 0 with
    | none => exact absurd (contains_of_misplaced? hlength hmisplaced) h
    | some fault => exact ⟨fault, rfl⟩
  · exact ⟨_, rfl⟩

/-- The place of a coordinate in the array lies in the buffer. -/
lemma Contains.flatIndex_lt {s : Shape} {c : List Nat} (h : s.Contains c) :
    s.flatIndex c < s.size := by
  induction s generalizing c with
  | nil => exact Nat.one_pos
  | cons n s ih =>
    cases c with
    | nil => exact absurd h id
    | cons k c =>
      have hmul : n * (flatIndex s c + 1) ≤ n * size s := Nat.mul_le_mul_left n (ih h.2)
      rw [Nat.mul_add, Nat.mul_one] at hmul
      show k + n * flatIndex s c < n * size s
      have hk : k < n := h.1
      omega

@[simp] lemma length_coordinate (s : Shape) (i : Nat) : (s.coordinate i).length = s.length := by
  induction s generalizing i with
  | nil => rfl
  | cons n s ih => simp [coordinate, ih]

/-- The coordinate of a place in the buffer lies in the array. -/
lemma contains_coordinate {s : Shape} {i : Nat} (h : i < s.size) :
    s.Contains (s.coordinate i) := by
  induction s generalizing i with
  | nil => trivial
  | cons n s ih =>
    have hn : 0 < n := Nat.pos_of_mul_pos_right (Nat.zero_lt_of_lt h)
    exact ⟨Nat.mod_lt i hn, ih (Nat.div_lt_of_lt_mul h)⟩

lemma flatIndex_coordinate {s : Shape} {i : Nat} (h : i < s.size) :
    s.flatIndex (s.coordinate i) = i := by
  induction s generalizing i with
  | nil => exact (Nat.lt_one_iff.1 h).symm
  | cons n s ih =>
    show i % n + n * flatIndex s (coordinate s (i / n)) = i
    rw [ih (Nat.div_lt_of_lt_mul h)]
    exact Nat.mod_add_div i n

lemma Contains.coordinate_flatIndex {s : Shape} {c : List Nat} (h : s.Contains c) :
    s.coordinate (s.flatIndex c) = c := by
  induction s generalizing c with
  | nil => exact (List.length_eq_zero_iff.1 h.length_eq).symm
  | cons n s ih =>
    cases c with
    | nil => exact absurd h id
    | cons k c =>
      have hk : k < n := h.1
      show (k + n * flatIndex s c) % n :: coordinate s ((k + n * flatIndex s c) / n) = k :: c
      rw [Nat.add_mul_mod_self_left, Nat.mod_eq_of_lt hk,
        Nat.add_mul_div_left _ _ (Nat.zero_lt_of_lt hk), Nat.div_eq_of_lt hk, Nat.zero_add,
        ih h.2]

/-! ## One component -/

/-- A component of a coordinate says how far along its line the place lies. -/
lemma getElem_coordinate (s : Shape) (i axis : Nat) (h : axis < s.length)
    (hc : axis < (s.coordinate i).length) :
    (s.coordinate i)[axis] = linePosition (s.jump axis) s[axis] i := by
  induction s generalizing i axis with
  | nil => exact absurd h (Nat.not_lt_zero axis)
  | cons n s ih =>
    cases axis with
    | zero => simp [coordinate, linePosition, jump, size]
    | succ axis =>
      have haxis : axis < s.length := by simpa using h
      simpa [coordinate, linePosition, jump, size, Nat.div_div_eq_div_mul] using
        ih (i / n) axis haxis (by simpa using haxis)

lemma Contains.set {s : Shape} {c : List Nat} (h : s.Contains c) {axis p : Nat}
    (haxis : axis < s.length) (hp : p < s[axis]) : s.Contains (c.set axis p) := by
  induction s generalizing c axis with
  | nil => exact absurd haxis (Nat.not_lt_zero axis)
  | cons n s ih =>
    cases c with
    | nil => exact absurd h id
    | cons k c =>
      cases axis with
      | zero => exact ⟨hp, h.2⟩
      | succ axis => exact ⟨h.1, ih h.2 (by simpa using haxis) hp⟩

/-- Changing a component of a coordinate moves its place by whole steps along the axis. -/
lemma flatIndex_set {s : Shape} {d : List Nat} (hd : d.length = s.length) {axis : Nat}
    (haxis : axis < s.length) (p : Nat) :
    s.flatIndex (d.set axis p) + d[axis] * s.jump axis = s.flatIndex d + p * s.jump axis := by
  induction s generalizing d axis with
  | nil => exact absurd haxis (Nat.not_lt_zero axis)
  | cons n s ih =>
    cases d with
    | nil => simp at hd
    | cons k d =>
      cases axis with
      | zero => simp [flatIndex, jump, size]; omega
      | succ axis =>
        have hlength : d.length = s.length := by simpa using hd
        have haxis : axis < s.length := by simpa using haxis
        have hlower := ih hlength haxis
        have hjump : jump (n :: s) (axis + 1) = n * jump s axis := by simp [jump, size]
        simp only [flatIndex, List.set_cons_succ, List.getElem_cons_succ, hjump]
        calc k + n * flatIndex s (d.set axis p) + d[axis] * (n * jump s axis)
            = k + n * (flatIndex s (d.set axis p) + d[axis] * jump s axis) := by ring
          _ = k + n * (flatIndex s d + p * jump s axis) := by rw [hlower]
          _ = k + n * flatIndex s d + p * (n * jump s axis) := by ring

end Shape

/-- A grid can be read at each of its coordinates. -/
lemma Grid.exists_get? {s : Shape} {α : Type} (g : Grid s α) {c : List Nat}
    (h : s.Contains c) : ∃ v, g.get? c = .ok v := by
  refine ⟨g.cells.get ⟨s.flatIndex c, h.flatIndex_lt⟩, ?_⟩
  rw [Grid.get?, h.index?]
  exact dif_pos h.flatIndex_lt

end Raster
