import Raster.Pixel.Pixel
/-!
# The discrete Fourier transform of one line

A `LineTransform` turns a line of complex numbers into another of the same length, in either
direction.  The transforms of whole images take one as a parameter, because their laws hold
for any.  `LineTransform.direct` is the sum that defines the transform: forward with
`exp (-2πi jk / n)`, backward with `exp (2πi jk / n)`, neither of them scaled.
-/

namespace Raster

/-- The direction of a Fourier transform. -/
inductive Direction where
  | forward | backward
deriving DecidableEq, Repr

/-- A double-precision complex number. -/
abbrev Complex64 := Complex Float

namespace Complex

/-- The complex number with real and imaginary part zero. -/
def zero64 : Complex64 := ⟨0.0, 0.0⟩

/-- The sum. -/
def add (z w : Complex64) : Complex64 := ⟨z.re + w.re, z.im + w.im⟩

/-- The product. -/
def mul (z w : Complex64) : Complex64 := ⟨z.re * w.re - z.im * w.im, z.re * w.im + z.im * w.re⟩

/-- A real multiple. -/
def scale (z : Complex64) (r : Float) : Complex64 := ⟨z.re * r, z.im * r⟩

end Complex

/-- A way to transform lines of any length. -/
abbrev LineTransform := Direction → (n : Nat) → Vector Complex64 n → Vector Complex64 n

/-- Transform a line.  A line of a single number is its own transform. -/
def LineTransform.run (transform : LineTransform) (direction : Direction) {n : Nat}
    (line : Vector Complex64 n) : Vector Complex64 n :=
  if n ≤ 1 then line else transform direction n line

/-- The circle constant. -/
def pi : Float := 3.141592653589793

/-- The `n`-th roots of unity, in the order in which powers of the first run through them. -/
def rootsOfUnity (direction : Direction) (n : Nat) : Vector Complex64 n :=
  Vector.ofFn fun m =>
    let angle := 2.0 * pi * nearestDouble m / nearestDouble n
    match direction with
    | .forward => ⟨Float.cos angle, -Float.sin angle⟩
    | .backward => ⟨Float.cos angle, Float.sin angle⟩

/-- The transform by its definition. -/
def LineTransform.direct : LineTransform := fun direction n line =>
  let roots := rootsOfUnity direction n
  Vector.ofFn fun k =>
    (List.finRange n).foldl
      (fun sum j =>
        sum.add ((line.get j).mul (roots.get ⟨j * k % n, Nat.mod_lt _ k.pos⟩)))
      Complex.zero64

end Raster
