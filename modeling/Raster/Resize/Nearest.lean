import Raster.Number.Binary64
import Raster.Grid.Basic
/-!
# Nearest-neighbour sampling

Each cell of the resized grid is a cell of the source: component `c` of the coordinate, on an
axis that goes from `n` cells to `m`, reads component `⌊c · n / m⌋`, and never one past the
end.  A shape whose cells cannot be counted has no grid.
-/

namespace Raster

/-- The greatest number of cells that are counted. -/
def maxCells : Nat := 1 <<< 63 - 1

/-- Whether the cells of an array can be counted.  Axes without cells do not make up for others
that have too many. -/
def Shape.isCountable (s : Shape) : Bool := size (s.filter (· ≠ 0)) ≤ maxCells

/-- The component that is read for component `c` when an axis of `n` cells becomes one of
`m`. -/
def sourceComponent (n m c : Nat) : Nat :=
  min (Rounding.down.clampedNat maxExtent (nearestDouble c * nearestDouble n / nearestDouble m))
    (n - 1)

/-- The coordinate that is read for a coordinate of the target. -/
def sourceCoordinate : (source target : Shape) → List Nat → List Nat
  | n :: source, m :: target, c :: cs =>
    sourceComponent n m c :: sourceCoordinate source target cs
  | _, _, _ => []

/-- Sample a grid onto another shape. -/
def Grid.nearest {s : Shape} {α : Type} (g : Grid s α) (target : Shape) :
    Except Fault (Grid target α) :=
  if target.isCountable then do
    let cells ← (Vector.range target.size).mapM fun i =>
      match g.get? (sourceCoordinate s target (target.coordinate i)) with
      | .ok v => pure v
      | .error _ => throw .outOfBounds
    return ⟨cells⟩
  else .error .outOfBounds

end Raster
