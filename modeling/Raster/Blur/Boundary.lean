import Raster.Error
/-!
# What lies beyond the end of a line

A tap of a kernel may reach past either end of a line.  `Boundary.resolve` says which sample
it meets instead, if any; that sample always lies on the line, by its type.
-/

namespace Raster

/-- What lies beyond the ends of a line. -/
inductive Boundary where
  /-- Nothing. -/
  | zero
  /-- The line again, reversed. -/
  | mirror
  /-- The last sample, over and over. -/
  | nearest
deriving DecidableEq, Repr

namespace Boundary

/-- The boundary condition of a given name. -/
def ofName (s : String) : Except Refusal Boundary :=
  if s = "zero" then .ok zero
  else if s = "mirror" then .ok mirror
  else if s = "nearest" then .ok nearest
  else .error (.unknownChoice .boundary s)

/-- A position as a place on a line of `n` samples, if it is one. -/
def place? (n : Nat) (position : Int) : Option (Fin n) :=
  if h : 0 ≤ position ∧ position < n then some ⟨position.toNat, by omega⟩ else none

/-- The sample that the tap at distance `offset` from sample `i` meets.  A reflection that is
still outside the line, because the kernel is longer than the line, meets the centre. -/
def resolve (b : Boundary) {n : Nat} (i : Fin n) (offset : Int) : Option (Fin n) :=
  let position := (i : Int) + offset
  match place? n position with
  | some j => some j
  | none =>
    match b with
    | zero => none
    | nearest => if position < 0 then some ⟨0, i.pos⟩ else some ⟨n - 1, Nat.sub_one_lt_of_lt i.isLt⟩
    | mirror =>
      match place? n (if position < 0 then -position - 1 else 2 * n - position - 1) with
      | some j => some j
      | none => some i

end Boundary

end Raster
