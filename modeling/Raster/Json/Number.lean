import Raster.Json.Json
import Raster.Number.Numeral
/-!
# JSON numbers

A number is read digit by digit into a 64-bit significand and a decimal exponent.  An integer
that fits stays one; anything else becomes a double by one multiplication or division by a
power of ten.  Digits that no longer fit into the significand only move the exponent, so the
double can lie next to the nearest one.
-/

namespace Raster.Json

/-- The value of a decimal digit. -/
def digit? (c : Char) : Option Nat :=
  if '0' ≤ c ∧ c ≤ '9' then some (c.toNat - '0'.toNat) else none

/-- The digits that a text begins with, and the rest. -/
def spanDigits : List Char → List Nat × List Char
  | [] => ([], [])
  | c :: cs =>
    match digit? c with
    | some d => let (ds, rest) := spanDigits cs; (d :: ds, rest)
    | none => ([], c :: cs)

/-- A significand with the number of digits of the text that it did not take. -/
structure Significand where
  value : Nat
  dropped : Nat

/-- Take digits as long as the significand fits into 64 bits. -/
def Significand.take (start : Nat) : List Nat → Significand
  | [] => ⟨start, 0⟩
  | d :: ds =>
    if start * 10 + d ≤ maxExtent then take (start * 10 + d) ds
    else ⟨start, ds.length + 1⟩

/-- The power of ten nearest to `10 ^ k`, for `k` up to 308. -/
def powerOfTen (k : Nat) : Float := Float.ofScientific 1 false k

/-- `f * 10 ^ exponent`; nothing if that is too large.  Below `10 ^ -308` the division takes
several steps, at most `fuel`. -/
def scaleByTen : (fuel : Nat) → Float → (exponent : Int) → Option Float
  | 0, _, _ => some 0.0
  | fuel + 1, f, exponent =>
    if exponent.natAbs ≤ 308 then
      let power := powerOfTen exponent.natAbs
      if 0 ≤ exponent then
        let product := f * power
        if product.isInf then none else some product
      else some (f / power)
    else if f == 0.0 then some f
    else if 0 ≤ exponent then none
    else scaleByTen fuel (f / powerOfTen 308) (exponent + 308)

/-- The double of a significand and an exponent.  After four divisions nothing is left of any
significand. -/
def scaled (negative : Bool) (significand : Nat) (exponent : Int) : Option Json :=
  (scaleByTen 8 (nearestDouble significand) exponent).map fun f =>
    .double (if negative then -f else f)

/-- The end of a number: an exponent, or nothing. -/
def exponentPart (negative : Bool) (significand : Nat) (exponent : Int) :
    List Char → Option Json
  | [] => scaled negative significand exponent
  | e :: cs =>
    if e = 'e' ∨ e = 'E' then
      let (below, cs) := match cs with
        | '+' :: cs => (false, cs)
        | '-' :: cs => (true, cs)
        | cs => (false, cs)
      match spanDigits cs with
      | ([], _) => none
      | (ds, []) =>
        let n : Nat := ds.foldl (fun n d => 10 * n + d) 0
        if n < 1 <<< 31 then
          scaled negative significand (if below then exponent - (n : Int) else exponent + (n : Int))
        else if significand = 0 ∨ below then some (.double (if negative then -0.0 else 0.0))
        else none
      | _ => none
    else none

/-- The value of a number that is written as an integer of one word. -/
def wholeNumber (negative : Bool) (n : Nat) : Json :=
  if negative then
    if n = 0 ∨ 1 <<< 63 < n then .double (-(nearestDouble n)) else .int (-(n : Int))
  else .int n

/-- The value of a number, from all of its characters. -/
def ofNumber? (cs : List Char) : Option Json :=
  let (negative, cs) := match cs with
    | '-' :: cs => (true, cs)
    | cs => (false, cs)
  match spanDigits cs with
  | ([], _) => none
  | (0 :: _ :: _, _) => none
  | (ds, rest) =>
    let whole := Significand.take 0 ds
    match rest with
    | [] =>
      if whole.dropped = 0 then some (wholeNumber negative whole.value)
      else scaled negative whole.value whole.dropped
    | '.' :: rest =>
      match spanDigits rest with
      | ([], _) => none
      | (fs, rest) =>
        let all := Significand.take whole.value fs
        let places := fs.length - all.dropped
        exponentPart negative all.value ((whole.dropped : Int) - (places : Int)) rest
    | rest => exponentPart negative whole.value whole.dropped rest

end Raster.Json
