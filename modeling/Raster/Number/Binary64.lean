/-!
# Doubles as exact numbers

A double is NaN, an infinity, or a whole number times a power of two.  `Binary64.ofFloat`
reads that off its bits, so that every rounding to an integer in this library is exact
arithmetic on natural numbers: `clampedNat` rounds into `0 … max` the way samples and
extents need it, and `roundedInt` rounds to the nearest integer of either sign.
-/

namespace Raster

/-- The number that a double stands for.  A finite one is `mantissa * 2 ^ exponent`, negated
if `negative`. -/
inductive Binary64 where
  | nan
  | infinite (negative : Bool)
  | finite (negative : Bool) (mantissa : Nat) (exponent : Int)
deriving DecidableEq, Repr

/-- How a magnitude that lies between two integers is rounded. -/
inductive Rounding where
  /-- Toward zero. -/
  | down
  /-- Away from zero. -/
  | up
  /-- To the nearer integer, a half away from zero. -/
  | nearest
deriving DecidableEq, Repr

namespace Binary64

/-- Read a 64-bit pattern: one sign bit, eleven exponent bits, fifty-two fraction bits. -/
def ofBits (bits : Nat) : Binary64 :=
  let negative := bits >>> 63 % 2 == 1
  let exponent : Nat := bits >>> 52 % 1 <<< 11
  let fraction : Nat := bits % 1 <<< 52
  if exponent = 2047 then
    if fraction = 0 then .infinite negative else .nan
  else if exponent = 0 then .finite negative fraction (-1074)
  else .finite negative (fraction + 1 <<< 52) ((exponent : Int) - 1075)

/-- The number that `x` stands for. -/
def ofFloat (x : Float) : Binary64 := ofBits x.toBits.toNat

end Binary64

namespace Rounding

/-- Round `mantissa * 2 ^ exponent` to a natural number. -/
def magnitude (r : Rounding) (mantissa : Nat) (exponent : Int) : Nat :=
  match exponent with
  | .ofNat e => mantissa <<< e
  | .negSucc e =>
    let unit := 1 <<< (e + 1)
    match r with
    | .down => mantissa / unit
    | .up => (mantissa + (unit - 1)) / unit
    | .nearest => (mantissa + 1 <<< e) / unit

/-- Round `x` into `0 … max`: everything below zero and NaN become `0`, everything above `max`
becomes `max`. -/
def clampedNat (r : Rounding) (max : Nat) (x : Float) : Nat :=
  match Binary64.ofFloat x with
  | .nan => 0
  | .infinite negative => if negative then 0 else max
  | .finite negative mantissa exponent =>
    if negative then 0 else min max (r.magnitude mantissa exponent)

theorem clampedNat_le (r : Rounding) (max : Nat) (x : Float) : r.clampedNat max x ≤ max := by
  unfold clampedNat
  split
  · exact Nat.zero_le _
  · split <;> omega
  · split
    · exact Nat.zero_le _
    · exact Nat.min_le_left _ _

/-- The nearest integer to `x`, a half away from zero; `none` where there is none. -/
def nearestInt? (x : Float) : Option Int :=
  match Binary64.ofFloat x with
  | .finite negative mantissa exponent =>
    let n : Int := nearest.magnitude mantissa exponent
    some (if negative then -n else n)
  | _ => none

end Rounding

/-- The largest extent, index or count: the greatest 64-bit number. -/
def maxExtent : Nat := UInt64.size - 1

/-- The double nearest to a 64-bit natural number. -/
def nearestDouble (n : Nat) : Float := (UInt64.ofNat n).toFloat

/-- The double nearest to a small integer. -/
def intDouble : Int → Float
  | .ofNat n => nearestDouble n
  | .negSucc n => -nearestDouble (n + 1)

end Raster
