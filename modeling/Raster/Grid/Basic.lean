import Raster.Grid.Shape
/-!
# Grids

A grid is a flat buffer with a shape.  The shape is part of the type, so an operation that
keeps it says so in its type: `Grid.map` changes each cell by itself, `Grid.ofFn` and
`Grid.mapWithCoordinates` also look at coordinates, and `Grid.mapLines` replaces each line
along an axis by another line of the same length.
-/

namespace Raster

/-- An array of a given shape. -/
structure Grid (s : Shape) (α : Type) where
  /-- The cells in flat order. -/
  cells : Vector α s.size

namespace Grid

variable {s : Shape} {α β : Type}

@[ext] theorem ext {g h : Grid s α} (e : g.cells = h.cells) : g = h := by
  cases g; cases h; cases e; rfl

/-- The grid with the same value in every cell. -/
def fill (s : Shape) (v : α) : Grid s α := ⟨Vector.replicate s.size v⟩

/-- A grid from its cells in flat order, if they are as many as the shape asks for. -/
def ofArray? (s : Shape) (cells : Array α) : Except Fault (Grid s α) :=
  if h : cells.size = s.size then .ok ⟨⟨cells, h⟩⟩
  else .error (.cellCount cells.size s)

/-- The grid whose cell at a coordinate is `f` of that coordinate. -/
def ofFn (s : Shape) (f : List Nat → α) : Grid s α :=
  ⟨Vector.ofFn fun i => f (s.coordinate i)⟩

/-- Change each cell by itself. -/
def map (f : α → β) (g : Grid s α) : Grid s β := ⟨g.cells.map f⟩

theorem map_map {γ : Type} (f : α → β) (h : β → γ) (g : Grid s α) :
    (g.map f).map h = g.map (h ∘ f) := by
  simp [map]

/-- Change each cell, knowing its coordinate. -/
def mapWithCoordinates (f : α → List Nat → β) (g : Grid s α) : Grid s β :=
  ⟨Vector.ofFn fun i => f (g.cells.get i) (s.coordinate i)⟩

/-- The cells in flat order. -/
def toList (g : Grid s α) : List α := g.cells.toList

/-- The cell at a place in the buffer. -/
def flat? (g : Grid s α) (i : Nat) : Except Fault α :=
  if h : i < s.size then .ok (g.cells.get ⟨i, h⟩) else .error .outOfBounds

/-- The cell at a coordinate. -/
def get? (g : Grid s α) (c : List Nat) : Except Fault α :=
  (s.index? c).bind g.flat?

/-! ## Lines -/

/-- The number of lines along an axis. -/
def lineCount (s : Shape) (axis : Fin s.length) : Nat :=
  Raster.lineCount s.size (s.jump axis) (s.get axis)

/-- A line along an axis. -/
def line (g : Grid s α) (axis : Fin s.length) (l : Fin (lineCount s axis)) :
    Vector α (s.get axis) :=
  Vector.ofFn fun p =>
    g.cells.get ⟨lineStart (s.jump axis) (s.get axis) l + p * s.jump axis,
      lineStart_add_lt (s.size_eq axis axis.isLt) l.isLt p.isLt⟩

/-- The lines along an axis, in the order in which they begin. -/
def lines (g : Grid s α) (axis : Fin s.length) :
    Vector (Vector α (s.get axis)) (lineCount s axis) :=
  Vector.ofFn fun l => g.line axis l

/-- The grid with the given lines along an axis. -/
def ofLines (axis : Fin s.length) (ls : Vector (Vector β (s.get axis)) (lineCount s axis)) :
    Grid s β :=
  ⟨Vector.ofFn fun i =>
    (ls.get ⟨lineNumber (s.jump axis) (s.get axis) i,
        lineNumber_lt (s.size_eq axis axis.isLt) i.isLt⟩).get
      ⟨linePosition (s.jump axis) (s.get axis) i,
        linePosition_lt (s.size_eq axis axis.isLt) i.isLt⟩⟩

/-- Replace each line along an axis by a line that `f` makes of it. -/
def mapLines (axis : Fin s.length) (f : Vector α (s.get axis) → Vector β (s.get axis))
    (g : Grid s α) : Grid s β :=
  ofLines axis ((g.lines axis).map f)

end Grid

/-- An axis of a shape by its number. -/
def Shape.axis? (s : Shape) (axis : Nat) : Except Fault (Fin s.length) :=
  if h : axis < s.length then .ok ⟨axis, h⟩ else .error (.noSuchAxis axis s.length)

end Raster
