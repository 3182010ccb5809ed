import Raster.Number.Binary64
/-!
# Decimal text of doubles

`Decimal.shortest` finds the fewest decimal digits that still read back as the same double
and, among those, the digits nearest to it.  It tries one digit, two digits, … and tests the
two neighbours of the value on each decimal grid in exact arithmetic.  `Binary64.text` writes
them positionally, never with an exponent and without a trailing point; `Binary64.textPlaces`
writes a fixed number of places.
-/

namespace Raster

/-- The decimal number `digits * 10 ^ exponent`. -/
structure Decimal where
  digits : Nat
  exponent : Int
deriving DecidableEq, Repr

namespace Decimal

/-- A fraction `num / den` with its rounding interval: all of `low / den … high / den` reads
back as the same double, the ends only if `closed`. -/
structure Interval where
  num : Nat
  low : Nat
  high : Nat
  den : Nat
  closed : Bool

namespace Interval

/-- The interval of the finite double `mantissa * 2 ^ exponent`, in quarters of its last
place.  Below a power of two the neighbours are twice as close. -/
def ofBinary (mantissa : Nat) (exponent : Int) : Interval :=
  let below := if mantissa = 1 <<< 52 ∧ -1074 < exponent then 1 else 2
  let scale := 1 <<< (exponent - 2).toNat
  { num := 4 * mantissa * scale
    low := (4 * mantissa - below) * scale
    high := (4 * mantissa + 2) * scale
    den := 1 <<< (2 - exponent).toNat
    closed := mantissa % 2 = 0 }

/-- Multiply the fraction by `10 ^ k`. -/
def scaled (i : Interval) (k : Int) : Interval :=
  let up := Nat.pow 10 k.toNat
  { i with
    num := i.num * up
    low := i.low * up
    high := i.high * up
    den := i.den * Nat.pow 10 (-k).toNat }

/-- Whether the integer `n` lies in the interval. -/
def admits (i : Interval) (n : Nat) : Bool :=
  let v := n * i.den
  if i.closed then i.low ≤ v && v ≤ i.high else i.low < v && v < i.high

/-- The admissible integer nearest to the fraction, if one of its two neighbours is
admissible; of two equally near ones the even one. -/
def nearest? (i : Interval) : Option Nat :=
  let below := i.num / i.den
  let twice := 2 * (i.num % i.den)
  let first := if twice < i.den || (twice = i.den && below % 2 = 0) then below else below + 1
  let second := if first = below then below + 1 else below
  if i.admits first then some first
  else if i.admits second then some second
  else none

end Interval

/-- The number of decimal digits of the integer part of `num / den`, for a value of at least
one; else minus the number of zeros that follow the point. -/
def magnitude (num den : Nat) : Int :=
  if den ≤ num then (Nat.toDigits 10 (num / den)).length
  else
    let length := (Nat.toDigits 10 (den / num)).length
    let zeros := 1 - (length : Int)
    if den % num = 0 ∧ den / num = Nat.pow 10 (length - 1) then zeros + 1 else zeros

/-- Try `count`, `count + 1`, … digits, at most `fuel` times.  A neighbour that rounds up to
the next power of ten has one digit more than asked for, a zero, which is dropped. -/
def search (i : Interval) (point : Int) : (fuel count : Nat) → Decimal
  | 0, _ => ⟨0, 0⟩
  | fuel + 1, count =>
    let places := (count : Int) - point
    match (i.scaled places).nearest? with
    | some n => if n % 10 = 0 then ⟨n / 10, 1 - places⟩ else ⟨n, -places⟩
    | none => search i point fuel (count + 1)

/-- The fewest digits that read back as the positive double `mantissa * 2 ^ exponent`, and
among those the nearest.  Seventeen digits always suffice. -/
def shortest (mantissa : Nat) (exponent : Int) : Decimal :=
  let i := Interval.ofBinary mantissa exponent
  search i (magnitude i.num i.den) 18 1

/-- Positional digits, without an exponent and without a trailing point. -/
def text (d : Decimal) : String :=
  let digits := Nat.toDigits 10 d.digits
  match d.exponent with
  | .ofNat e => String.ofList (digits ++ List.replicate e '0')
  | .negSucc e =>
    let places := e + 1
    let padded := List.replicate (places + 1 - digits.length) '0' ++ digits
    let whole := padded.length - places
    String.ofList (padded.take whole ++ '.' :: padded.drop whole)

end Decimal

namespace Binary64

/-- The text of a number: `NaN`, `inf`, `-inf`, or the shortest digits that read back. -/
def text : Binary64 → String
  | .nan => "NaN"
  | .infinite negative => if negative then "-inf" else "inf"
  | .finite negative mantissa exponent =>
    let digits := if mantissa = 0 then "0" else (Decimal.shortest mantissa exponent).text
    if negative then "-" ++ digits else digits

/-- The text of a number with exactly `places` decimal places, a tie going to the even last
digit. -/
def textPlaces (places : Nat) : Binary64 → String
  | .nan => "NaN"
  | .infinite negative => if negative then "-inf" else "inf"
  | .finite negative mantissa exponent =>
    let num := mantissa <<< exponent.toNat * Nat.pow 10 places
    let den := 1 <<< (-exponent).toNat
    let twice := 2 * (num % den)
    let n := num / den
    let n := if twice < den || (twice = den && n % 2 = 0) then n else n + 1
    let digits := Decimal.text ⟨n, -(places : Int)⟩
    if negative then "-" ++ digits else digits

end Binary64

/-- The shortest text of a double that reads back as it. -/
def doubleText (x : Float) : String := (Binary64.ofFloat x).text

end Raster
