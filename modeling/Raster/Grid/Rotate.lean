import Raster.Grid.Basic
/-!
# Rotating lines

A line is rotated by moving its elements on or back; what leaves it at one end comes in again
at the other.
-/

namespace Raster

/-- Move every element `k` places on, the last `k` to the front. -/
def rotateRight {n : Nat} {α : Type} (k : Nat) (line : Vector α n) : Vector α n :=
  Vector.ofFn fun i =>
    line.get ⟨(i + (n - k % n)) % n, Nat.mod_lt _ i.pos⟩

/-- Move every element `k` places back, the first `k` to the end. -/
def rotateLeft {n : Nat} {α : Type} (k : Nat) (line : Vector α n) : Vector α n :=
  Vector.ofFn fun i => line.get ⟨(i + k % n) % n, Nat.mod_lt _ i.pos⟩

end Raster
