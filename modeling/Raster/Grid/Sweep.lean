import Raster.Grid.Edit
/-!
# Going through the lines

The lines along an axis are visited in the order in which they begin.  Each is read from the
buffer, and what is made of it is written element by element.  `Grid.sweepInto` writes to a grid
of its own, `Grid.sweepInPlace` to the one that is read.

Every place is computed from the offset of its line and looked at before it is read or written.
-/

namespace Raster

/-- The places of the line that begins at `start`. -/
def linePlaces (jump length start : Nat) : Vector Nat length :=
  Vector.ofFn fun p => start + p * jump

/-- The lines along an axis, each with its places, in the order in which they begin. -/
def Shape.linesAlong (s : Shape) (axis : Fin s.length) : List (Vector Nat (s.get axis)) :=
  (lineOffsets s.size (s.jump axis) (s.get axis)).map (linePlaces (s.jump axis) (s.get axis))

/-- Write the elements of a line to their places, one after the other. -/
def writeLine {σ β : Type} {n : Nat} (write : σ → Nat → β → Except Fault σ)
    (places : Vector Nat n) (line : Vector β n) (out : σ) : Except Fault σ :=
  (List.finRange n).foldlM (fun out p => write out (places.get p) (line.get p)) out

namespace Grid

variable {s : Shape} {α β : Type}

/-- Read the cells at some places. -/
def readLine {n : Nat} (g : Grid s α) (places : Vector Nat n) : Except Fault (Vector α n) :=
  places.mapM g.flat?

/-- Read one line after the other and write the lines that `f` makes of them. -/
def sweep {σ : Type} (write : σ → Nat → β → Except Fault σ) (axis : Fin s.length)
    (f : Vector α (s.get axis) → Vector β (s.get axis)) (g : Grid s α) (out : σ) :
    Except Fault σ :=
  (s.linesAlong axis).foldlM (fun out places => do
    let line ← g.readLine places
    writeLine write places (f line) out) out

/-- Replace each line, writing to a grid whose cells are blank at first. -/
def sweepInto (blank : β) (axis : Fin s.length)
    (f : Vector α (s.get axis) → Vector β (s.get axis)) (g : Grid s α) :
    Except Fault (Grid s β) :=
  g.sweep setFlat axis f (fill s blank)

/-- Replace each line, writing over it. -/
def sweepInPlace (axis : Fin s.length) (f : Vector α (s.get axis) → Vector α (s.get axis))
    (g : Grid s α) : Except Fault (Grid s α) :=
  (s.linesAlong axis).foldlM (fun g places => do
    let line ← g.readLine places
    writeLine setFlat places (f line) g) g

end Grid

end Raster
