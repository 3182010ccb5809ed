/-!
# Decimal numerals

Reading a natural number from its decimal digits, with a bound.
-/

namespace Raster

/-- The value of a text of decimal digits, with an optional plus sign, up to `max`. -/
def numeral? (max : Nat) (cs : List Char) : Option Nat :=
  let digits := match cs with
    | '+' :: rest => rest
    | cs => cs
  if digits.isEmpty then none
  else if digits.all (fun c => '0' ≤ c && c ≤ '9') then
    let n := digits.foldl (fun n c => 10 * n + (c.toNat - '0'.toNat)) 0
    if n ≤ max then some n else none
  else none

end Raster
