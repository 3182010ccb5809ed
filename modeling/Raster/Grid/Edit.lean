import Raster.Grid.Rotate
/-!
# Changing cells in place

A single cell is changed by its coordinate or by its place in the buffer.  Lines are changed
one after the other, each by a list of edits; an edit that goes wrong ends this, and what has
been written before stays written.
-/

namespace Raster

/-- A change of one line. -/
inductive LineEdit (α : Type) where
  /-- Change one element. -/
  | set (index : Nat) (value : α)
  /-- Change all elements. -/
  | write (values : List α)
  | rotateLeft (distance : Nat)
  | rotateRight (distance : Nat)

namespace LineEdit

variable {α : Type} {n : Nat}

/-- Change a line, if the edit fits it. -/
def apply (line : Vector α n) : LineEdit α → Except Fault (Vector α n)
  | set index value =>
    if _ : index < n then .ok (line.set index value) else .error (.lineIndex index n)
  | write values => if h : values.length = n then .ok ⟨values.toArray, h⟩ else .error .lineLength
  | rotateLeft k => .ok (Raster.rotateLeft k line)
  | rotateRight k => .ok (Raster.rotateRight k line)

/-- Change a line by one edit after the other, up to the first that does not fit. -/
def applyAll (line : Vector α n) : List (LineEdit α) → Vector α n × Option Fault
  | [] => (line, none)
  | edit :: edits =>
    match edit.apply line with
    | .ok line => applyAll line edits
    | .error fault => (line, some fault)

end LineEdit

namespace Grid

variable {s : Shape} {α : Type}

/-- Change the cell at a place in the buffer. -/
def setFlat (g : Grid s α) (i : Nat) (v : α) : Except Fault (Grid s α) :=
  if _ : i < s.size then .ok ⟨g.cells.set i v⟩ else .error .outOfBounds

/-- Change the cell at a coordinate. -/
def set (g : Grid s α) (c : List Nat) (v : α) : Except Fault (Grid s α) :=
  (s.index? c).bind fun i => g.setFlat i v

/-- The line that an edited line becomes. -/
def editedLine (axis : Fin s.length) (edits : Nat → List (LineEdit α)) (g : Grid s α)
    (l : Fin (lineCount s axis)) : Vector α (s.get axis) × Option Fault :=
  LineEdit.applyAll (g.line axis l) (edits l)

/-- The number of the first line with an edit that does not fit, and what is wrong with it. -/
def firstFault (axis : Fin s.length) (edits : Nat → List (LineEdit α)) (g : Grid s α) :
    Option (Nat × Fault) :=
  (List.finRange (lineCount s axis)).findSome? fun l =>
    (g.editedLine axis edits l).2.map fun fault => (l.val, fault)

/-- Change the lines along an axis, line number `l` by `edits l`, up to the first edit that
does not fit. -/
def editLines (axis : Fin s.length) (edits : Nat → List (LineEdit α)) (g : Grid s α) :
    Grid s α × Option Fault :=
  let stop := g.firstFault axis edits
  let edited := Vector.ofFn fun l : Fin (lineCount s axis) =>
    if stop.all fun (last, _) => l.val ≤ last then (g.editedLine axis edits l).1
    else g.line axis l
  (ofLines axis edited, stop.map (·.2))

/-! ## The last axis fastest -/

/-- The cells in the order in which the last axis runs fastest. -/
def lastAxisFastest (g : Grid s α) : Except Fault (List α) :=
  (List.range s.size).mapM fun i => g.get? (Shape.coordinate s.reverse i).reverse

/-- The place of a coordinate in the order in which the last axis runs fastest. -/
def lastAxisIndex (s : Shape) (c : List Nat) : Nat := Shape.flatIndex s.reverse c.reverse

/-- The grid whose cells are given in the order in which the last axis runs fastest. -/
def ofLastAxisFastest (s : Shape) (cells : Array α) : Except Fault (Grid s α) :=
  if cells.size = s.size then do
    let places := Vector.ofFn fun i : Fin s.size => lastAxisIndex s (s.coordinate i)
    let reordered ← places.mapM fun j =>
      match cells[j]? with
      | some v => .ok v
      | none => .error .outOfBounds
    return ⟨reordered⟩
  else .error (.cellCount cells.size s)

end Grid

end Raster
