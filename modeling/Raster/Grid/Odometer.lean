import Raster.Grid.Basic
/-!
# Going through the coordinates

The coordinates of an array are gone through like the numbers of an odometer: the first component
turns fastest, and a component that comes to its end goes back to zero and takes the next one on.
`Grid.build` and `Grid.rebuild` make a grid in this way, one cell after the other.

`Shape.locate` finds the place of a coordinate with a distance that grows from axis to axis.
-/

namespace Raster

namespace Shape

/-- The next coordinate; after the last one comes the first. -/
def advance : Shape → List Nat → List Nat
  | n :: s, k :: c => if k + 1 < n then (k + 1) :: c else 0 :: advance s c
  | _, c => c

/-- The coordinate that the first place has. -/
def origin (s : Shape) : List Nat := List.replicate s.length 0

/-- Visit coordinates, beginning with `c`, one for each of some items. -/
def walk {σ ι : Type} (s : Shape) (visit : σ → ι → List Nat → σ) :
    List ι → (c : List Nat) → σ → σ
  | [], _, state => state
  | item :: items, c, state => walk s visit items (s.advance c) (visit state item c)

/-- Add up a place from the components on some axes, `distance` being what a step along the first
of them comes to. -/
def locateFrom : Shape → List Nat → (axis place distance : Nat) → Except Fault Nat
  | n :: s, k :: c, axis, place, distance =>
    if k < n then locateFrom s c (axis + 1) (place + k * distance) (distance * n)
    else .error (.coordinateRange k axis n)
  | _, _, _, place, _ => .ok place

/-- Add up the place of a coordinate. -/
def locate (s : Shape) (c : List Nat) : Except Fault Nat :=
  if c.length = s.length then locateFrom s c 0 0 1
  else .error (.coordinateRank c.length s.length)

end Shape

namespace Grid

variable {s : Shape} {α β : Type}

/-- Make a grid, one cell after the other. -/
def build (s : Shape) (f : List Nat → α) : Except Fault (Grid s α) :=
  ofArray? s (s.walk (fun cells (_ : Nat) c => cells.push (f c)) (List.range s.size) s.origin #[])

/-- Make a grid out of another one, one cell after the other. -/
def rebuild (f : α → List Nat → β) (g : Grid s α) : Except Fault (Grid s β) :=
  ofArray? s (s.walk (fun cells v c => cells.push (f v c)) g.toList s.origin #[])

end Grid

end Raster
