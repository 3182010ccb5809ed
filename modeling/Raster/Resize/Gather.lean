import Raster.Grid.Odometer
import Raster.Resize.Nearest
/-!
# Gathering the cells of a resized grid

The component that is read on an axis depends on nothing but the axis, so it is worked out once
for each component of the target.  `Grid.gather` then goes through the coordinates of the target,
looks each component up in the list of its axis, and reads the source there.
-/

namespace Raster

/-- For each component of an axis of `m` cells, the one that is read on an axis of `n` cells. -/
def componentMap (n m : Nat) : List Nat := (List.range m).map (sourceComponent n m)

/-- Look each component of a coordinate up in the list of its axis. -/
def lookUp : (maps : List (List Nat)) → List Nat → Except Fault (List Nat)
  | map :: maps, c :: cs => do
    match map[c]? with
    | some k =>
      let ks ← lookUp maps cs
      return k :: ks
    | none => throw .outOfBounds
  | _, _ => return []

namespace Grid

variable {s : Shape} {α : Type}

/-- The cell at a coordinate, which has to be there. -/
def fetch (g : Grid s α) (c : List Nat) : Except Fault α :=
  match g.get? c with
  | .ok v => return v
  | .error _ => throw .outOfBounds

/-- The cell that is read for a coordinate of the target. -/
def look (g : Grid s α) (maps : List (List Nat)) (c : List Nat) : Except Fault α := do
  let source ← lookUp maps c
  g.fetch source

/-- Sample a grid onto another shape, one cell after the other. -/
def gather (g : Grid s α) (target : Shape) : Except Fault (Grid target α) :=
  let maps := List.zipWith componentMap s target
  if target.isCountable then do
    let cells ← target.walk
      (fun cells (_ : Nat) c => do return (← cells).push (← g.look maps c))
      (List.range target.size) target.origin (.ok #[])
    ofArray? target cells
  else .error .outOfBounds

end Grid

end Raster
