import Raster.Error
/-!
# Shapes, coordinates and lines

A shape lists the extents of an array.  Its cells lie in one flat buffer, the first axis
running fastest: `Shape.flatIndex` turns a coordinate into its place in the buffer and
`Shape.coordinate` turns a place into its coordinate.  `Shape.index?` is the checked form,
which names what is wrong with a coordinate.

A line along an axis is the set of cells that differ in that component alone.
`lineOffsets` lists the places where the lines begin; the bounds at the end of the module
say that every place on every line lies inside the buffer.
-/

namespace Raster

/-- The extents of an array, the fastest axis first. -/
abbrev Shape := List Nat

namespace Shape

/-- The number of cells. -/
def size : Shape → Nat
  | [] => 1
  | n :: s => n * size s

/-- The distance in the buffer between neighbours along an axis: the number of cells that the
axes before it span. -/
def jump (s : Shape) (axis : Nat) : Nat := size (s.take axis)

/-- The number of cells that the axes after an axis span. -/
def outer (s : Shape) (axis : Nat) : Nat := size (s.drop (axis + 1))

/-- Whether a coordinate lies in the array. -/
def Contains : Shape → List Nat → Prop
  | [], [] => True
  | n :: s, c :: cs => c < n ∧ Contains s cs
  | _, _ => False

/-- The place of a coordinate in the buffer. -/
def flatIndex : Shape → List Nat → Nat
  | n :: s, c :: cs => c + n * flatIndex s cs
  | _, _ => 0

/-- The coordinate of a place in the buffer. -/
def coordinate : Shape → Nat → List Nat
  | [], _ => []
  | n :: s, i => i % n :: coordinate s (i / n)

/-- The first component that lies outside its axis, if any. -/
def misplaced? : Shape → List Nat → (axis : Nat) → Option Fault
  | n :: s, c :: cs, axis =>
    if c < n then misplaced? s cs (axis + 1) else some (.coordinateRange c axis n)
  | _, _, _ => none

/-- The place of a coordinate, or what is wrong with it. -/
def index? (s : Shape) (c : List Nat) : Except Fault Nat :=
  if c.length = s.length then
    match misplaced? s c 0 with
    | none => .ok (s.flatIndex c)
    | some fault => .error fault
  else .error (.coordinateRank c.length s.length)

/-! ## The buffer splits at an axis -/

theorem size_eq (s : Shape) (axis : Nat) (h : axis < s.length) :
    s.size = s.jump axis * (s[axis] * s.outer axis) := by
  induction s generalizing axis with
  | nil => simp at h
  | cons n s ih =>
    cases axis with
    | zero => simp [size, jump, outer]
    | succ axis =>
      have := ih axis (by simpa using h)
      simp only [size, jump, outer, List.take_succ_cons, List.drop_succ_cons,
        List.getElem_cons_succ] at this ⊢
      rw [this, Nat.mul_assoc]

end Shape

/-! ## Lines -/

/-- The place where line number `l` begins, for lines of `length` cells that are `jump`
apart. -/
def lineStart (jump length l : Nat) : Nat := l / jump * (jump * length) + l % jump

/-- The number of lines in a buffer of `total` cells.  Lines without cells do not count. -/
def lineCount (total jump length : Nat) : Nat := total / (jump * length) * jump

/-- The places where the lines begin, in order. -/
def lineOffsets (total jump length : Nat) : List Nat :=
  (List.range (lineCount total jump length)).map (lineStart jump length)

/-- The number of the line that goes through place `i`. -/
def lineNumber (jump length i : Nat) : Nat := i / (jump * length) * jump + i % jump

/-- How far along its line place `i` lies. -/
def linePosition (jump length i : Nat) : Nat := i / jump % length

theorem lineCount_eq {total jump length outer : Nat} (h : total = jump * (length * outer))
    (pos : 0 < jump * length) : lineCount total jump length = outer * jump := by
  rw [lineCount, h, ← Nat.mul_assoc, Nat.mul_div_cancel_left _ pos]

/-- Every place on a line lies in the buffer. -/
theorem lineStart_add_lt {total jump length outer l p : Nat}
    (h : total = jump * (length * outer)) (hl : l < lineCount total jump length)
    (hp : p < length) : lineStart jump length l + p * jump < total := by
  have hj : 0 < jump := by
    rcases Nat.eq_zero_or_pos jump with rfl | hj
    · simp [lineCount] at hl
    · exact hj
  have pos : 0 < jump * length := Nat.mul_pos hj (by omega)
  rw [lineCount_eq h pos] at hl
  have ho : l / jump < outer := (Nat.div_lt_iff_lt_mul hj).2 hl
  have hm : l % jump < jump := Nat.mod_lt _ hj
  have h1 : (l / jump + 1) * (jump * length) ≤ outer * (jump * length) :=
    Nat.mul_le_mul_right _ ho
  have h2 : (p + 1) * jump ≤ length * jump := Nat.mul_le_mul_right _ hp
  have h3 : total = outer * (jump * length) := by
    rw [h, ← Nat.mul_assoc, Nat.mul_comm]
  rw [Nat.add_mul, Nat.one_mul] at h1 h2
  rw [Nat.mul_comm length jump] at h2
  rw [lineStart, h3]
  omega

/-- Every place in the buffer lies on a line. -/
theorem lineNumber_lt {total jump length outer i : Nat}
    (h : total = jump * (length * outer)) (hi : i < total) :
    lineNumber jump length i < lineCount total jump length := by
  have pos : 0 < jump * length := by
    rcases Nat.eq_zero_or_pos (jump * length) with h0 | h0
    · rw [← Nat.mul_assoc, h0, Nat.zero_mul] at h
      omega
    · exact h0
  have hj : 0 < jump := Nat.pos_of_mul_pos_right pos
  rw [lineCount_eq h pos, lineNumber]
  have ho : i / (jump * length) < outer :=
    Nat.div_lt_of_lt_mul (by rw [Nat.mul_assoc, ← h]; exact hi)
  have hm : i % jump < jump := Nat.mod_lt _ hj
  have h1 : (i / (jump * length) + 1) * jump ≤ outer * jump := Nat.mul_le_mul_right _ ho
  rw [Nat.add_mul, Nat.one_mul] at h1
  omega

theorem linePosition_lt {total jump length outer i : Nat}
    (h : total = jump * (length * outer)) (hi : i < total) :
    linePosition jump length i < length := by
  refine Nat.mod_lt _ ?_
  rcases Nat.eq_zero_or_pos length with rfl | hl
  · simp at h; omega
  · exact hl

end Raster
