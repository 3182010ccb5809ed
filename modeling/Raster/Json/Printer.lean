import Raster.Json.Json
import Raster.Number.Decimal
/-!
# Writing JSON

A document on one line.  A double is written with the fewest digits that tell it apart from every
other double, always with a point or an exponent, so that it is never taken for an integer.  That
does not mean that every reader gives it back: one that rounds more than once can come out next to
it, as `Json.ofNumber?` can.  There is no way to write an infinity or NaN, and `null` stands for
them.
-/

namespace Raster.Json

/-- The characters that stand for one character of a text. -/
def escape (c : Char) : List Char :=
  match c with
  | '"' => ['\\', '"']
  | '\\' => ['\\', '\\']
  | '\x08' => ['\\', 'b']
  | '\t' => ['\\', 't']
  | '\n' => ['\\', 'n']
  | '\x0c' => ['\\', 'f']
  | '\r' => ['\\', 'r']
  | c =>
    if c.toNat < 0x20 then
      ['\\', 'u', '0', '0'] ++ Nat.toDigits 16 (c.toNat / 16) ++ Nat.toDigits 16 (c.toNat % 16)
    else [c]

/-- A text between quotes. -/
def quoted (s : String) : String := String.ofList ('"' :: s.toList.flatMap escape ++ ['"'])

/-- The characters of a positive decimal number.  Below `10 ^ 16` and from `10 ^ -5` on, its digits
stand around the point; elsewhere the point follows the first one, and there is an exponent. -/
def decimalText (d : Decimal) : List Char :=
  let digits := Nat.toDigits 10 d.digits
  let point : Int := digits.length + d.exponent
  if 0 ≤ d.exponent ∧ point ≤ 16 then
    digits ++ List.replicate d.exponent.toNat '0' ++ ['.', '0']
  else if 0 < point ∧ point ≤ 16 then digits.take point.toNat ++ '.' :: digits.drop point.toNat
  else if -5 < point ∧ point ≤ 0 then '0' :: '.' :: List.replicate (-point).toNat '0' ++ digits
  else
    let broken := if digits.length = 1 then [] else '.' :: digits.drop 1
    digits.take 1 ++ broken ++ 'e' :: (toString (point - 1)).toList

/-- The text of a double. -/
def doubleText (x : Float) : String :=
  match Binary64.ofFloat x with
  | .finite negative mantissa exponent =>
    let digits :=
      if mantissa = 0 then ['0', '.', '0'] else decimalText (Decimal.shortest mantissa exponent)
    String.ofList (if negative then '-' :: digits else digits)
  | _ => "null"

mutual

/-- The text of a document. -/
def render : Json → String
  | null => "null"
  | bool b => if b then "true" else "false"
  | int n => toString n
  | double x => doubleText x
  | text s => quoted s
  | list items => "[" ++ ",".intercalate (renderItems items) ++ "]"
  | object members => "\x7b" ++ ",".intercalate (renderMembers members) ++ "\x7d"

/-- The texts of the items of a list. -/
def renderItems : List Json → List String
  | [] => []
  | j :: js => render j :: renderItems js

/-- The texts of the members of an object. -/
def renderMembers : List (String × Json) → List String
  | [] => []
  | (k, j) :: ms => (quoted k ++ ":" ++ render j) :: renderMembers ms

end

end Raster.Json
